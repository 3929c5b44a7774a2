import TableIndex.ErrorCode
import TableIndex.Field
import TableIndex.Text.Blank

/-!
# Fields as property objects

A field definition travels as one flat object: the name, the type and the flags under their reserved
keys, and every further property under its own.
-/

namespace TableIndex

/-- Why an object does not describe a field. -/
inductive FieldError where
  | missingName
  | invalidProperty (field property : String) (value : Json)
deriving Repr, Inhabited

namespace FieldError

/-- The text of the error. -/
def message : FieldError → String
  | missingName => "Fields must have an attribute called 'name'"
  | invalidProperty field property value =>
    "Field '" ++ field ++ "' has an invalid value for '" ++ property ++ "': " ++ value.compact

/-- Every such error is one of the caller's. -/
def code (_ : FieldError) : ErrorCode := .invalidArgument

end FieldError

namespace Field

/-- The object that describes a definition. -/
def toProperties (f : Field) : Json.Object :=
  let o : Json.Object := SortedMap.empty.insert nameKey (.string f.name)
  let o := match f.type with
    | some t => o.insert typeKey (.string t.name)
    | none => o
  let o := match f.indexed with
    | some b => o.insert indexedKey (.bool b)
    | none => o
  let o := match f.stored with
    | some b => o.insert storedKey (.bool b)
    | none => o
  f.extras.items.foldl (fun o e => o.insert e.1 e.2) o

/-- The flag under a key: a boolean, or one of the texts `true` and `false`. -/
def flagOf (field key : String) (o : Json.Object) : Except FieldError (Option Bool) :=
  match o.get? key with
  | none => .ok none
  | some (.bool b) => .ok (some b)
  | some (.string "true") => .ok (some true)
  | some (.string "false") => .ok (some false)
  | some value => .error (.invalidProperty field key value)

/-- The type in an object: a text that is not blank. -/
def typeOf (field : String) (o : Json.Object) : Except FieldError (Option FieldType) :=
  match o.get? typeKey with
  | none => .ok none
  | some (.string s) =>
    if Text.isBlank s then .error (.invalidProperty field typeKey (.string s))
    else .ok (some (.ofName s))
  | some value => .error (.invalidProperty field typeKey value)

/-- The name in an object: a text that is not blank. -/
def nameOf (o : Json.Object) : Except FieldError String :=
  match o.get? nameKey with
  | some (.string s) => if Text.isBlank s then .error .missingName else .ok s
  | _ => .error .missingName

/-- What an object holds under keys that are not reserved, in the order of the keys. -/
def extrasOf (o : Json.Object) : OrderedMap Json :=
  KeyedList.ofList (o.entries.filter fun e => !reservedKeys.contains e.1)

/-- The definition that an object describes. Name, type, `indexed` and `stored` are read in this order,
and the first that cannot be read is reported. -/
def ofProperties (o : Json.Object) : Except FieldError Field := do
  let name ← nameOf o
  let type ← typeOf name o
  let indexed ← flagOf name indexedKey o
  let stored ← flagOf name storedKey o
  return { name, type, indexed, stored, extras := extrasOf o }

end Field

end TableIndex
