import TableIndex.Text.Blank
import TableIndex.Text.Hex

/-!
# Sets of characters

A property of characters is given by the ranges of code points that have it. A table writes a range as its
first and its last code point in hexadecimal with a hyphen between them, or as one code point alone.
-/

namespace TableIndex.Text

/-- A set of characters: ranges of code points, both ends included. -/
abbrev Ranges := List (Nat × Nat)

namespace Ranges

/-- The range that a piece of a table writes. -/
def readRange (piece : List Char) : Nat × Nat :=
  match splitFirst '-' piece with
  | some (first, last) => (hexNumber first, hexNumber last)
  | none => (hexNumber piece, hexNumber piece)

/-- The ranges that a table writes, with blanks between them. -/
def ofTable (table : String) : Ranges := (words table.toList).map readRange

/-- Whether a character is in one of the ranges. -/
def contains (r : Ranges) (c : Char) : Bool := r.any fun (first, last) => first ≤ c.toNat && c.toNat ≤ last

theorem contains_iff (r : Ranges) (c : Char) :
    r.contains c = true ↔ ∃ p ∈ r, p.1 ≤ c.toNat ∧ c.toNat ≤ p.2 := by
  simp [contains]

end Ranges

end TableIndex.Text
