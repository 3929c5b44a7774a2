import TableIndex.Gateway.Error

/-!
# Requests and answers

What clients see of the web: a request is answered, or its answer or the request itself is lost. What
becomes of the requests is laid down in advance, in the order in which they are made; of a client it only
matters whether it was closed.
-/

namespace TableIndex.Http

/-- What a request asks for. -/
inductive Method where
  | get
  | post
deriving DecidableEq, Repr, Inhabited

/-- The name of a method. -/
def Method.name : Method → String
  | get => "GET"
  | post => "POST"

/-- A request. A body is always JSON. -/
structure Request where
  method : Method
  target : String
  authorization : Option String
  userAgent : String
  body : Option String
deriving Repr, Inhabited

/-- The type of a request's body, if it has one. -/
def Request.contentType? (r : Request) : Option String := r.body.map fun _ => "application/json"

/-- What becomes of a request. -/
inductive Delivery where
  | answered (status : Nat) (body : String)
  /-- The request arrives, but its answer does not. -/
  | unanswered
  /-- The request does not arrive. -/
  | lost
deriving Repr, Inhabited

/-- The web as clients see it. -/
structure Web where
  /-- What becomes of the next requests. -/
  scheduled : List Delivery := []
  /-- What becomes of the requests after those. -/
  afterwards : Delivery
  /-- The requests that arrived so far, the last one first. -/
  sent : List Request := []
  /-- The number of clients opened so far; each is known by its number. -/
  opened : Nat := 0
  /-- The clients that were closed. -/
  closed : List Nat := []
deriving Repr, Inhabited

namespace Web

/-- A web in which every request is lost. -/
def unreachable : Web := { afterwards := .lost }

/-- What becomes of the next request, and what is scheduled after it. -/
def next (w : Web) : Delivery × List Delivery :=
  match w.scheduled with
  | d :: ds => (d, ds)
  | [] => (w.afterwards, [])

/-- Makes a request: the status and the body of the answer to it. -/
def exchange (r : Request) : EStateM ClientError Web (Nat × String) := fun w =>
  let (delivery, scheduled) := w.next
  match delivery with
  | .answered status body => .ok (status, body) { w with scheduled, sent := r :: w.sent }
  | .unanswered =>
    .error (.request "the connection was closed before the answer came")
      { w with scheduled, sent := r :: w.sent }
  | .lost => .error (.request "the cluster cannot be reached") { w with scheduled }

/-- Opens a client. -/
def openClient : EStateM ClientError Web Nat := fun w => .ok w.opened { w with opened := w.opened + 1 }

/-- Closes a client. -/
def closeClient (client : Nat) : EStateM ClientError Web Unit := fun w =>
  .ok () { w with closed := client :: w.closed }

/-- Whether a client was closed. -/
def isClosed (client : Nat) : EStateM ClientError Web Bool := fun w => .ok (w.closed.contains client) w

end Web

end TableIndex.Http
