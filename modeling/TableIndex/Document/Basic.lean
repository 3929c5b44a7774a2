import TableIndex.Json.Printer
import TableIndex.Map.Keyed

/-!
# Documents

A row of a table as it goes into the index: field names with values, in the order in which they were
added.
-/

namespace TableIndex

/-- A document. -/
structure Document where
  fields : OrderedMap Json
deriving Repr, Inhabited

namespace Document

/-- The field that identifies a document. -/
def idKey : String := "id"

/-- The document without fields. -/
def empty : Document := ⟨.empty⟩

/-- Sets a field. -/
def add (d : Document) (name : String) (value : Json) : Document := ⟨d.fields.insert name value⟩

/-- The document of the given fields; a later one replaces the value of an earlier one. -/
def ofList (fields : List (String × Json)) : Document := fields.foldl (fun d e => d.add e.1 e.2) empty

/-- The fields in order. -/
def toList (d : Document) : List (String × Json) := d.fields.items

/-- The value of a field. -/
def field? (d : Document) (name : String) : Option Json := d.fields.get? name

/-- What identifies the document: the text in its field `id`, or the text of the number there. -/
def id? (d : Document) : Option String :=
  match d.field? idKey with
  | some (.string s) => some s
  | some (.number n) => some (String.ofList n.text)
  | _ => none

/-- The number of fields. -/
def size (d : Document) : Nat := d.fields.size

/-- Equality up to the order of the fields. -/
def same (d e : Document) : Bool := d.fields.sameItems (fun a b => a.2.same b.2) e.fields

/-- The document as compact JSON, its fields in order. -/
def toJsonText (d : Document) : String := Json.compactInOrder d.toList

end Document

end TableIndex
