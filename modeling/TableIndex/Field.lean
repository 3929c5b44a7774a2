import TableIndex.Json.Printer
import TableIndex.Map.Keyed

/-!
# Field definitions

A field of a schema: its name, the type of its values, the two flags that every field has, and any
further properties, which are carried as they are.
-/

namespace TableIndex

/-- The type of a field's values; all but the primitive types are known by name only. -/
inductive FieldType where
  | string
  | int
  | long
  | float
  | double
  | boolean
  | other (name : String)
deriving DecidableEq, Repr, Inhabited

namespace FieldType

/-- The name of a type. -/
def name : FieldType → String
  | string => "string"
  | int => "int"
  | long => "long"
  | float => "float"
  | double => "double"
  | boolean => "boolean"
  | other name => name

/-- The type with a name. -/
def ofName (name : String) : FieldType :=
  match name with
  | "string" => string
  | "int" => int
  | "long" => long
  | "float" => float
  | "double" => double
  | "boolean" => boolean
  | name => other name

theorem name_ofName (n : String) : (ofName n).name = n := by
  unfold ofName
  split <;> rfl

end FieldType

/-- The definition of a field. -/
structure Field where
  name : String
  type : Option FieldType := none
  indexed : Option Bool := none
  stored : Option Bool := none
  extras : OrderedMap Json := .empty
deriving Repr, Inhabited

namespace Field

/-- The property that holds the name. -/
def nameKey : String := "name"

/-- The property that holds the type. -/
def typeKey : String := "type"

/-- The property that holds the flag `indexed`. -/
def indexedKey : String := "indexed"

/-- The property that holds the flag `stored`. -/
def storedKey : String := "stored"

/-- The properties that have a place of their own in a definition. -/
def reservedKeys : List String := [nameKey, typeKey, indexedKey, storedKey]

/-- A definition with a type. -/
def typed (name : String) (type : FieldType) : Field := { name, type := some type }

/-- A definition that has nothing but its name. -/
def untyped (name : String) : Field := { name }

/-- Sets the flag `indexed`. -/
def withIndexed (f : Field) (flag : Bool) : Field := { f with indexed := some flag }

/-- Sets the flag `stored`. -/
def withStored (f : Field) (flag : Bool) : Field := { f with stored := some flag }

/-- Sets a property. A reserved one goes to its own place: the name and the type only if the value is
a string, a flag to the value's truth or, if it has none, to nothing. -/
def withProperty (f : Field) (key : String) (value : Json) : Field :=
  if key = nameKey then
    match value with
    | .string s => { f with name := s }
    | _ => f
  else if key = typeKey then
    match value with
    | .string s => { f with type := some (.ofName s) }
    | _ => f
  else if key = indexedKey then { f with indexed := value.asBool? }
  else if key = storedKey then { f with stored := value.asBool? }
  else { f with extras := f.extras.insert key value }

/-- The further property under a key. -/
def property? (f : Field) (key : String) : Option Json := f.extras.get? key

/-- Equality of definitions: further properties are compared in any order. -/
def same (f g : Field) : Bool :=
  f.name == g.name && f.type == g.type && f.indexed == g.indexed && f.stored == g.stored
    && f.extras.sameItems (fun a b => a.2.same b.2) g.extras

end Field

end TableIndex
