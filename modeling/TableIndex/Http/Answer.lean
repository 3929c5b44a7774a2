import TableIndex.Gateway.Response
import TableIndex.Json.Reader

/-!
# Understanding answers

The body of an answer is JSON. A status of its own and a description of what went wrong may be in it,
whatever the status of the answer itself.
-/

namespace TableIndex.Http

/-- A whole number as 32 bits hold it, with a sign. -/
def toInt32 (i : Int) : Int := Int.bmod i 0x100000000

/-- The status in the header of a body; zero if there is none, or none that 64 bits can hold. -/
def bodyStatus (body : Json) : Int :=
  match ((body.get? "responseHeader").bind (Json.get? "status")).bind Json.asInt? with
  | some i => if i < 0x8000000000000000 then toInt32 i else 0
  | none => 0

/-- The members that may describe what went wrong, the one that is looked at first in front. -/
def errorKeys : List String := ["errors", "error", "failure", "exception"]

/-- What a body says about what went wrong. -/
def bodyErrors (body : Json) : Option Json := (errorKeys.filterMap body.get?).find? fun v => !v.isNull

/-- The body of an answer to a change. -/
def adminResponse (body : Json) : AdminResponse := ⟨bodyStatus body, bodyErrors body⟩

/-- The body of an answer to a change of a collection. Where it does not speak of success, a success is
a status of zero without errors. -/
def collectionResponse (body : Json) : CollectionResponse :=
  let r := adminResponse body
  ⟨r.status, (body.get? "success").isSome || r.isSuccess, r.errors⟩

/-- Whether the status of an answer means success. -/
def isSuccessStatus (status : Nat) : Bool := 200 ≤ status && status < 300

/-- The error that an answer without success stands for. What its body says goes first. -/
def failure (status : Nat) (body : String) : ClientError :=
  match Json.parse? body with
  | some v =>
    .api (if bodyStatus v = 0 then status else bodyStatus v) ((bodyErrors v).getD v)
  | none => .api status (.string ("Non-JSON error response: " ++ body))

/-- The value in an answer. -/
def readAnswer (status : Nat) (body : String) : Except ClientError Json :=
  if isSuccessStatus status then
    match Json.parse? body with
    | some v => .ok v
    | none => .error (.malformedBody "the body is not JSON")
  else .error (failure status body)

end TableIndex.Http
