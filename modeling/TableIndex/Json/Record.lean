import TableIndex.Json.Form

/-!
# Records in JSON

A record is written as an object of its fields, in which members that are no fields are skipped unread,
or as the list of its fields in order, which may end early. A choice is written as its name, or as an
object whose only member has that name and what belongs to the choice.
-/

namespace TableIndex.Json.Form

/-- The text of a string. -/
def text? : Form → Option String
  | .string ps => decodeString ps
  | _ => none

/-- A natural number below a bound. -/
def natBelow? (bound : Nat) : Form → Option Nat
  | .number t =>
    match t.toNumber? with
    | some (.int i) => if 0 ≤ i && i < bound then some i.toNat else none
    | _ => none
  | _ => none

/-- The form under a key; `none` if there are two. -/
def single? (members : List (String × Form)) (key : String) : Option (Option Form) :=
  match members.filter (·.1 == key) with
  | [] => some none
  | [e] => some (some e.2)
  | _ => none

/-- The forms of a record's fields, as far as they are there. -/
def fields? (names : List String) : Form → Option (List (Option Form))
  | .object members => do
    let members ← keyedForms? members
    names.mapM (single? members)
  | .array items =>
    if items.length ≤ names.length then
      some (items.map some ++ List.replicate (names.length - items.length) none)
    else none
  | _ => none

/-- The name of a choice, and what belongs to it. -/
def choice? : Form → Option (String × Option Form)
  | .string ps => (decodeString ps).map (·, none)
  | .object [(ps, f)] => (decodeString ps).map (·, some f)
  | _ => none

/-- Whether a form says that nothing belongs to a choice. -/
def isNothing : Option Form → Bool
  | none => true
  | some .null => true
  | some _ => false

end TableIndex.Json.Form
