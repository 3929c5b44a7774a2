/-!
# Blank characters

The white space of Unicode, and the ways of cutting text at it or at a single character and of joining
it. All cutting is done on lists of characters; the functions on `String` are its wrappers.
-/

namespace TableIndex.Text

/-- The property `White_Space`: the blanks of ASCII and Latin-1, the Ogham space mark, the typographic
spaces, the two separators and the ideographic space. -/
def isSpace (c : Char) : Bool :=
  let n := c.toNat
  (0x09 ≤ n && n ≤ 0x0D) || n == 0x20 || n == 0x85 || n == 0xA0 || n == 0x1680
    || (0x2000 ≤ n && n ≤ 0x200A) || n == 0x2028 || n == 0x2029 || n == 0x202F || n == 0x205F
    || n == 0x3000

/-! ## Trimming -/

/-- Drops from both ends the characters that satisfy `p`. -/
def trimBy (p : Char → Bool) (cs : List Char) : List Char :=
  ((cs.dropWhile p).reverse.dropWhile p).reverse

/-- The text without blanks at its ends. -/
def trim (s : String) : String := String.ofList (trimBy isSpace s.toList)

/-- Whether the text holds nothing but blanks; the empty text is blank. -/
def isBlank (s : String) : Bool := s.toList.all isSpace

/-! ## Cutting -/

/-- The pieces between the characters that satisfy `p`, empty ones included; there is always one. -/
def splitBy (p : Char → Bool) : List Char → List (List Char)
  | [] => [[]]
  | c :: cs =>
    if p c then [] :: splitBy p cs
    else match splitBy p cs with
      | [] => [[c]]
      | w :: ws => (c :: w) :: ws

/-- The pieces between the separators. -/
def splitAt (sep : Char) (cs : List Char) : List (List Char) := splitBy (· == sep) cs

/-- The maximal runs without blanks. -/
def words (cs : List Char) : List (List Char) := (splitBy isSpace cs).filter (!·.isEmpty)

/-- What stands before and after the first separator, if there is one. -/
def splitFirst (sep : Char) : List Char → Option (List Char × List Char)
  | [] => none
  | c :: cs => if c == sep then some ([], cs) else (splitFirst sep cs).map fun (a, b) => (c :: a, b)

/-- What stands after `start`, if the text begins with it. -/
def dropStart? : List Char → List Char → Option (List Char)
  | [], cs => some cs
  | _ :: _, [] => none
  | s :: ss, c :: cs => if s == c then dropStart? ss cs else none

/-- Whether `start` is where the text begins. -/
def startsWith (start cs : List Char) : Bool := (dropStart? start cs).isSome

/-- Texts with a separator between them. -/
def joined (sep : List Char) : List (List Char) → List Char
  | [] => []
  | [w] => w
  | w :: ws => w ++ sep ++ joined sep ws

/-! ## Small lemmas -/

theorem isBlank_iff (s : String) : isBlank s = true ↔ ∀ c ∈ s.toList, isSpace c = true := by
  simp [isBlank]

theorem splitBy_ne_nil (p : Char → Bool) (cs : List Char) : splitBy p cs ≠ [] := by
  induction cs with
  | nil => simp [splitBy]
  | cons c cs _ =>
    rw [splitBy]
    split
    · simp
    · split <;> simp

theorem splitFirst_eq_some {sep : Char} {cs a b : List Char} (h : splitFirst sep cs = some (a, b)) :
    cs = a ++ sep :: b := by
  induction cs generalizing a b with
  | nil => simp [splitFirst] at h
  | cons c cs ih =>
    rw [splitFirst] at h
    split at h
    · next hc => simp_all
    · next hc =>
      obtain ⟨⟨a', b'⟩, hab, heq⟩ := Option.map_eq_some_iff.mp h
      simp only [Prod.mk.injEq] at heq
      obtain ⟨rfl, rfl⟩ := heq
      simp [ih hab]

theorem dropStart?_eq_some {start cs rest : List Char} (h : dropStart? start cs = some rest) :
    cs = start ++ rest := by
  induction start generalizing cs with
  | nil => simp_all [dropStart?]
  | cons s ss ih =>
    cases cs with
    | nil => simp [dropStart?] at h
    | cons c cs =>
      rw [dropStart?] at h
      split at h
      · next hsc => simp_all [ih h]
      · simp at h

end TableIndex.Text
