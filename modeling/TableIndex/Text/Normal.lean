import TableIndex.Text.CombiningClass
import TableIndex.Text.Composition

/-!
# Composed text

Canonically equal texts have one composed form: all characters are taken apart, the marks on a letter are
sorted by their classes, and what composes is composed again.
-/

namespace TableIndex.Text

/-- The text with every character taken apart. -/
def decomposed (cs : List Char) : List Char := cs.flatMap (partsOf · 4)

/-! ## The order of marks -/

/-- Puts a mark in front of sorted text, behind the marks of lower classes. -/
def insertMark (m : Char) : List Char → List Char
  | [] => [m]
  | c :: cs =>
    if 0 < combiningClass c && combiningClass c < combiningClass m then c :: insertMark m cs else m :: c :: cs

/-- The text with the marks between other characters sorted by their classes. -/
def sortMarks (cs : List Char) : List Char :=
  cs.foldr (fun c rest => if combiningClass c = 0 then c :: rest else insertMark c rest) []

theorem insertMark_perm (m : Char) (cs : List Char) : (insertMark m cs).Perm (m :: cs) := by
  induction cs with
  | nil => exact List.Perm.refl _
  | cons c cs ih =>
    rw [insertMark]
    split
    · exact (ih.cons c).trans (List.Perm.swap m c cs)
    · exact List.Perm.refl _

/-- Sorting loses no mark and adds none. -/
theorem sortMarks_perm (cs : List Char) : (sortMarks cs).Perm cs := by
  induction cs with
  | nil => exact List.Perm.refl _
  | cons c cs ih =>
    rw [sortMarks, List.foldr_cons]
    split
    · exact ih.cons c
    · exact (insertMark_perm c _).trans (ih.cons c)

/-! ## Composing -/

/-- Composes a first character with those behind it. The marks in between that were not composed, the last
one first, keep back those of their class. -/
def composeFrom (first : Char) (marks : List Char) : List Char → List Char
  | [] => first :: marks.reverse
  | c :: cs =>
    let isFree := match marks with
      | [] => true
      | m :: _ => combiningClass m < combiningClass c
    match if isFree then whole? first c else none with
    | some d => composeFrom d marks cs
    | none =>
      if combiningClass c = 0 then first :: marks.reverse ++ composeFrom c [] cs
      else composeFrom first (c :: marks) cs

/-- Composes what composes; marks without a letter in front stay. -/
def compose : List Char → List Char
  | [] => []
  | c :: cs => if combiningClass c = 0 then composeFrom c [] cs else c :: compose cs

/-- The composed form of a text. -/
def normalize (cs : List Char) : List Char :=
  if cs.all (·.toNat < 0x300) then cs else compose (sortMarks (decomposed cs))

end TableIndex.Text
