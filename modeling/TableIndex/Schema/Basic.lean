import TableIndex.Field.Properties

/-!
# Schemas

The fields of a collection and the name of the field that identifies its documents. Fields keep the order
in which they were first added; `Schema.same` ignores it.
-/

namespace TableIndex

/-- A unique key, and fields with distinct names. -/
structure Schema where
  uniqueKey : String
  fields : KeyedList Field.name
deriving Repr

namespace Schema

/-- The unique key of a schema that names none. -/
def idKey : String := "id"

/-- The field in which the engine keeps the version of a document. -/
def versionKey : String := "_version_"

/-- No fields, identified by `id`. -/
def default : Schema := { uniqueKey := idKey, fields := .empty }

instance : Inhabited Schema := ⟨default⟩

/-- A schema of fields, of which a later one replaces an earlier one with its name. A blank unique key
stands for `id`. -/
def ofFields (uniqueKey : String) (fields : List Field) : Schema where
  uniqueKey := if Text.isBlank uniqueKey then idKey else uniqueKey
  fields := .ofList fields

/-- The schema that property objects describe; the first object that describes no field is reported. -/
def ofProperties (uniqueKey : String) (objects : List Json.Object) : Except FieldError Schema := do
  let fields ← objects.mapM Field.ofProperties
  return ofFields uniqueKey fields

/-- The fields in order. -/
def toList (s : Schema) : List Field := s.fields.items

/-- The names of the fields in order. -/
def names (s : Schema) : List String := s.fields.keys

/-- The field with a name. -/
def field? (s : Schema) (name : String) : Option Field := s.fields.find? name

/-- Whether there is a field with a name. -/
def contains (s : Schema) (name : String) : Bool := s.fields.contains name

/-- The number of fields. -/
def size (s : Schema) : Nat := s.fields.size

/-- Adds a field, or replaces the one with its name. -/
def add (s : Schema) (f : Field) : Schema := { s with fields := s.fields.upsert f }

/-- Drops the field with a name. -/
def remove (s : Schema) (name : String) : Schema := { s with fields := s.fields.erase name }

/-- The fields of `s` overlaid by those of `newer`, under the unique key of `newer`. -/
def mergedWith (s newer : Schema) : Schema where
  uniqueKey := newer.uniqueKey
  fields := s.fields.upsertAll newer.toList

/-- Whether a field must survive when the schema is replaced. -/
def isProtected (s : Schema) (name : String) : Bool := name == s.uniqueKey || name == versionKey

/-- Equality up to the order of the fields and of their further properties. -/
def same (s t : Schema) : Bool := s.uniqueKey == t.uniqueKey && s.fields.sameItems Field.same t.fields

end Schema

end TableIndex
