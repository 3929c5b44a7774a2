/-!
# The source of a document

A YAML document is read character by character, and places matter: every character carries its line, its
column and its number. A mark stands behind the last character, so that the end has a place too. The line
ends of the common systems become `\n` first.
-/

namespace TableIndex.Yaml

/-- A character and its place. -/
structure Placed where
  char : Char
  line : Nat
  column : Nat
  index : Nat
deriving DecidableEq, Repr, Inhabited

/-- What is left of a document. -/
abbrev Source := List Placed

/-! ## Characters -/

/-- The mark behind the last character, which no document holds. -/
def endMark : Char := Char.ofNat 0

/-- The mark of byte order, which may start a line. -/
def byteOrderMark : Char := Char.ofNat 0xFEFF

/-- Whether a character may stand in a document: no controls but tabs and line ends. -/
def isAllowed (c : Char) : Bool :=
  let n := c.toNat
  n == 0x09 || n == 0x0A || n == 0x0D || (0x20 ≤ n && n ≤ 0x7E) || n == 0x85
    || (0xA0 ≤ n && n ≤ 0xD7FF) || (0xE000 ≤ n && n ≤ 0xFFFD) || 0x10000 ≤ n

/-- Whether a character ends a line: a line end, or a separator of lines or paragraphs. -/
def isBreak (c : Char) : Bool := c == '\n' || c.toNat == 0x2028 || c.toNat == 0x2029

/-- Whether a character is a blank or a tab. -/
def isBlankChar (c : Char) : Bool := c == ' ' || c == '\t'

/-- Whether a character ends a line or the document. -/
def isLineEnd (c : Char) : Bool := isBreak c || c == endMark

/-- Whether a character separates words: a blank, a line end or the end. -/
def isGap (c : Char) : Bool := isBlankChar c || isLineEnd c

/-- Whether a character may stand in the name of an anchor, a tag handle or a directive. -/
def isNameChar (c : Char) : Bool := c.isAlphanum || c == '_' || c == '-'

/-- Characters that structure nodes in brackets. -/
def isBracketMark (c : Char) : Bool := [',', '[', ']', '{', '}'].contains c

/-! ## Places -/

/-- One kind of line end instead of three. -/
def unifyBreaks : List Char → List Char
  | '\r' :: '\n' :: cs => '\n' :: unifyBreaks cs
  | '\r' :: cs => '\n' :: unifyBreaks cs
  | c :: cs => (if c.toNat == 0x85 then '\n' else c) :: unifyBreaks cs
  | [] => []

/-- Places characters, with the mark of the end behind them. -/
def place (line column index : Nat) : List Char → Source
  | [] => [⟨endMark, line, column, index⟩]
  | c :: cs =>
    ⟨c, line, column, index⟩ ::
      if isBreak c then place (line + 1) 0 (index + 1) cs else place line (column + 1) (index + 1) cs

/-- The source of a text. -/
def Source.ofText? (text : String) : Option Source :=
  if text.toList.all isAllowed then some (place 0 0 0 (unifyBreaks text.toList)) else none

/-! ## What comes next -/

/-- Whether the next character is as told. -/
def nextIs (p : Char → Bool) : Source → Bool
  | g :: _ => p g.char
  | [] => p endMark

/-- Whether a word separator or the end comes next. -/
def atGap (src : Source) : Bool := nextIs isGap src

/-- Whether a line starts with three times the same character and a gap. -/
def atMarkerOf (c : Char) : Source → Bool
  | x :: y :: z :: rest => x.column == 0 && x.char == c && y.char == c && z.char == c && atGap rest
  | _ => false

/-- Whether the marker of a document's start or end comes next. -/
def atMarker (src : Source) : Bool := atMarkerOf '-' src || atMarkerOf '.' src

/-- Drops blanks and tabs. -/
def dropBlanks (src : Source) : Source := src.dropWhile fun g => isBlankChar g.char

/-- Drops a comment, if there is one. -/
def dropComment (src : Source) : Source :=
  if nextIs (· == '#') src then src.dropWhile fun g => !isLineEnd g.char else src

/-- What follows a line on which nothing is left but blanks and a comment. -/
def endOfLine? (src : Source) : Option Source :=
  match dropComment (dropBlanks src) with
  | g :: gs => if isBreak g.char then some gs else if g.char == endMark then some (g :: gs) else none
  | [] => none

/-- The characters that satisfy a test, and what follows them. -/
def cutWhile (p : Char → Bool) (src : Source) : List Char × Source :=
  ((src.takeWhile fun g => p g.char).map Placed.char, src.dropWhile fun g => p g.char)

end TableIndex.Yaml
