import TableIndex.Document.Basic
import TableIndex.Json.Reader

/-!
# Documents from JSON

A document is read from the text of a JSON object. Its fields keep the order of the text; a field that is
repeated keeps its first place and its last value.
-/

namespace TableIndex.Document

/-- The document in a text, if it is that of a JSON object. -/
def parse? (text : String) : Option Document := do
  match ← Json.Form.read? text with
  | .object members => (Json.membersToJson? (Json.nestingLimit - 1) members).map ofList
  | _ => none

end TableIndex.Document
