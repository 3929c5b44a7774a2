/-!
# Documents as trees

What a document is, before its scalars are understood: scalars with their texts, sequences and mappings.
Nodes with an anchor have a number, and an alias refers to one; since a number may be given again, what it
means is known only at the end of the document.
-/

namespace TableIndex.Yaml

/-- A node of a document. -/
inductive Node where
  /-- Only a plain scalar may mean anything but its text. -/
  | scalar (tag : Option String) (isPlain : Bool) (text : String)
  | sequence (tag : Option String) (items : List Node)
  | mapping (tag : Option String) (members : List (Node × Node))
  | alias (number : Nat)
deriving Repr, Inhabited

/-- What stands where nothing is written. -/
def Node.empty : Node := .scalar none true ""

mutual

/-- The size of a node: one for a scalar or an alias, and two for the ends of anything else. -/
def Node.size : Node → Nat
  | .scalar _ _ _ => 1
  | .sequence _ items => itemsSize items + 2
  | .mapping _ members => membersSize members + 2
  | .alias _ => 1

/-- The size of the items of a sequence. -/
def itemsSize : List Node → Nat
  | [] => 0
  | node :: nodes => node.size + itemsSize nodes

/-- The size of the members of a mapping. -/
def membersSize : List (Node × Node) → Nat
  | [] => 0
  | (key, value) :: members => key.size + value.size + membersSize members

end

/-- A document. -/
structure Document where
  root : Node := .empty
  /-- What the numbers of aliases mean. -/
  anchored : List (Nat × Node) := []
deriving Repr, Inhabited

/-- How many aliases may be followed while a document is read. -/
def Document.aliasLimit (d : Document) : Nat := 100 * d.root.size

end TableIndex.Yaml
