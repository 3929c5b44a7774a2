import TableIndex.Text.Hex
import TableIndex.Yaml.Source

/-!
# The text of scalars

Scalars are plain, in quotes of one of two kinds, or blocks of lines. Where a plain or quoted scalar goes
on in the next line, the line end becomes a blank, and each further one stays; a separator of lines or
paragraphs always stays.
-/

namespace TableIndex.Yaml

/-- A text under construction, with the blanks and line breaks that are still held back. -/
structure Folding where
  /-- The characters so far, the last one first. -/
  out : List Char := []
  /-- Blanks behind them, the last one first. -/
  blanks : List Char := []
  /-- Whether there is a line break behind them. -/
  broken : Bool := false
  /-- The first line break, unless it was escaped. -/
  firstBreak : List Char := []
  /-- The other line breaks, the last one first. -/
  moreBreaks : List Char := []

namespace Folding

/-- Blanks behind a line break count for nothing. -/
def blank (f : Folding) (c : Char) : Folding :=
  if f.broken then f else { f with blanks := c :: f.blanks }

/-- Holds a line break back; blanks in front of it count for nothing. -/
def lineBreak (f : Folding) (c : Char) : Folding :=
  if f.broken then { f with moreBreaks := c :: f.moreBreaks }
  else { f with blanks := [], broken := true, firstBreak := [c] }

/-- What becomes of the characters that are held back, the last one first. -/
def held (f : Folding) : List Char :=
  if !f.broken then f.blanks
  else if f.firstBreak = ['\n'] then (if f.moreBreaks.isEmpty then [' '] else f.moreBreaks)
  else f.moreBreaks ++ f.firstBreak

/-- Releases what is held back. -/
def flush (f : Folding) : Folding := { out := f.held ++ f.out }

/-- Adds a character of the text. -/
def put (f : Folding) (c : Char) : Folding := { out := c :: (f.held ++ f.out) }

/-- An escaped line break counts for nothing. -/
def escapedBreak (f : Folding) : Folding := { out := f.held ++ f.out, broken := true }

/-- Whether the last character was a blank or a line break. -/
def atWordStart (f : Folding) : Bool := f.broken || !f.blanks.isEmpty

/-- The text, without what is held back. -/
def text (f : Folding) : String := String.ofList f.out.reverse

end Folding

/-! ## Quotes -/

/-- Reads up to the closing quote, which is written twice inside. -/
def readSingleQuoted (f : Folding) (src : Source) : Option (String × Source) :=
  match src with
  | [] => none
  | g :: gs =>
    if atMarker (g :: gs) || g.char == endMark then none
    else if isBreak g.char then readSingleQuoted (f.lineBreak g.char) gs
    else if isBlankChar g.char then readSingleQuoted (f.blank g.char) gs
    else if g.char == '\'' then
      match gs with
      | h :: hs =>
        if h.char == '\'' then readSingleQuoted (f.put '\'') hs else some (f.flush.text, h :: hs)
      | [] => some (f.flush.text, [])
    else readSingleQuoted (f.put g.char) gs
termination_by src.length
decreasing_by all_goals (simp only [List.length_cons]; omega)

/-- The character of a one-letter escape. -/
def escape? (c : Char) : Option Char :=
  ([('0', 0x00), ('a', 0x07), ('b', 0x08), ('t', 0x09), ('\t', 0x09), ('n', 0x0A), ('v', 0x0B),
    ('f', 0x0C), ('r', 0x0D), ('e', 0x1B), (' ', 0x20), ('"', 0x22), ('/', 0x2F), ('\\', 0x5C),
    ('N', 0x85), ('_', 0xA0), ('L', 0x2028), ('P', 0x2029)].lookup c).map Char.ofNat

/-- The number of digits behind the letter of a numeric escape. -/
def escapeLength? (c : Char) : Option Nat := [('x', 2), ('u', 4), ('U', 8)].lookup c

/-- The character that hexadecimal digits name. -/
def numberedChar? (digits : List Char) : Option Char :=
  let n := Text.hexNumber digits
  if digits.all Text.isHexDigit && n.isValidChar then some (Char.ofNat n) else none

/-- Reads up to the closing quote, with escapes. -/
def readDoubleQuoted (f : Folding) (src : Source) : Option (String × Source) :=
  match src with
  | [] => none
  | g :: gs =>
    if atMarker (g :: gs) || g.char == endMark then none
    else if isBreak g.char then readDoubleQuoted (f.lineBreak g.char) gs
    else if isBlankChar g.char then readDoubleQuoted (f.blank g.char) gs
    else if g.char == '"' then some (f.flush.text, gs)
    else if g.char == '\\' then
      match gs with
      | [] => none
      | h :: hs =>
        if isBreak h.char then readDoubleQuoted f.escapedBreak hs
        else match escapeLength? h.char with
          | some n =>
            match numberedChar? ((hs.take n).map Placed.char) with
            | some c => readDoubleQuoted (f.put c) (hs.drop n)
            | none => none
          | none =>
            match escape? h.char with
            | some c => readDoubleQuoted (f.put c) hs
            | none => none
    else readDoubleQuoted (f.put g.char) gs
termination_by src.length
decreasing_by all_goals (simp only [List.length_cons, List.length_drop]; omega)

/-! ## Plain text -/

/-- Reads plain text and the blanks and line breaks behind it. Outside brackets its further lines start in
column `margin` or behind it, and tabs never stand in front of that column. -/
def readPlain (inBrackets : Bool) (margin : Nat) : Folding → Source → Option (Folding × Source)
  | f, [] => some (f, [])
  | f, g :: gs =>
    if isBreak g.char then readPlain inBrackets margin (f.lineBreak g.char) gs
    else if isBlankChar g.char then
      if g.char == '\t' && f.broken && g.column < margin then none
      else readPlain inBrackets margin (f.blank g.char) gs
    else if g.char == endMark then some (f, g :: gs)
    else if f.broken && (atMarker (g :: gs) || (!inBrackets && g.column < margin)) then some (f, g :: gs)
    else if g.char == '#' && f.atWordStart then some (f, g :: gs)
    else if g.char == ':' && inBrackets && nextIs (fun c => isBracketMark c || c == '?') gs then none
    else if g.char == ':' && atGap gs then some (f, g :: gs)
    else if inBrackets && isBracketMark g.char then some (f, g :: gs)
    else readPlain inBrackets margin (f.put g.char) gs

/-- The characters other than separators and bracket marks that plain text cannot start with. -/
def indicators : List Char :=
  ['-', '?', ':', '#', '&', '*', '!', '|', '>', '\'', '"', '%', '@', Char.ofNat 0x60]

/-- Whether plain text can start here. -/
def startsPlain (inBrackets : Bool) : Source → Bool
  | [] => false
  | g :: gs =>
    !(isGap g.char || isBracketMark g.char || indicators.contains g.char)
      || (g.char == '-' && !nextIs isBlankChar gs)
      || (!inBrackets && (g.char == '?' || g.char == ':') && !atGap gs)

/-! ## Blocks -/

/-- What becomes of the line breaks at the end of a block. -/
inductive Chomping where
  | strip
  | clip
  | keep
deriving DecidableEq, Repr

/-- Reads how a block is chomped, if told. -/
def readChomping (src : Source) : Option Chomping × Source :=
  match src with
  | [] => (none, [])
  | g :: gs =>
    if g.char == '+' then (some .keep, gs) else if g.char == '-' then (some .strip, gs) else (none, g :: gs)

/-- Reads how far a block is indented, if told; not at all is no answer. -/
def readIndentation (src : Source) : Option (Option Nat × Source) :=
  match src with
  | [] => some (none, [])
  | g :: gs =>
    if g.char == '0' then none
    else if g.char.isDigit then some (some (g.char.toNat - 0x30), gs)
    else some (none, g :: gs)

/-- Reads the two facts about a block, in any order. -/
def readHeader (src : Source) : Option (Chomping × Option Nat × Source) :=
  match readChomping src with
  | (some c, rest) => (readIndentation rest).map fun (indent, rest) => (c, indent, rest)
  | (none, rest) =>
    match readIndentation rest with
    | none => none
    | some (none, rest) => some (.clip, none, rest)
    | some (indent, rest) =>
      let (c, rest) := readChomping rest
      some (c.getD .clip, indent, rest)

/-- A block under construction. -/
structure BlockText where
  /-- The lines so far. -/
  out : List Char := []
  /-- The line break behind the last line. -/
  lastBreak : List Char := []
  /-- Whether the last line started with a blank. -/
  indented : Bool := false
  /-- The breaks of the empty lines behind it. -/
  empties : List Char := []

/-- Adds a line to a block. Between two lines that start with no blank a folded block has a blank instead
of the line end, and nothing if there are empty lines. -/
def BlockText.addLine (folded : Bool) (t : BlockText) (line lineBreak : List Char) : BlockText :=
  let indented := line.head?.any isBlankChar
  let held :=
    if folded && t.lastBreak = ['\n'] && !t.indented && !indented then
      (if t.empties.isEmpty then [' '] else [])
    else t.lastBreak
  { out := t.out ++ held ++ t.empties ++ line, lastBreak := lineBreak, indented }

/-- The text of a block. -/
def BlockText.finish (c : Chomping) (t : BlockText) : String :=
  String.ofList (match c with
    | .strip => t.out
    | .clip => t.out ++ t.lastBreak
    | .keep => t.out ++ t.lastBreak ++ t.empties)

/-- Drops empty lines and the indentation of the next one; gives the widest indentation and the breaks of
the empty lines, the last one first. Where no indentation is known every blank belongs to it. -/
def dropEmptyLines (indent : Option Nat) : Nat → List Char → Source → Option (Nat × List Char × Source)
  | widest, empties, [] => some (widest, empties, [])
  | widest, empties, g :: gs =>
    let inside := indent.all (g.column < ·)
    if g.char == ' ' && inside then dropEmptyLines indent widest empties gs
    else if g.char == '\t' && inside then none
    else if isBreak g.char then dropEmptyLines indent (max widest g.column) (g.char :: empties) gs
    else some (max widest g.column, empties, g :: gs)

/-- Reads the lines of a block that is indented to the given column, one step for every line. -/
def readLines (folded : Bool) (indent : Nat) : Nat → BlockText → Source → Option (BlockText × Source)
  | 0, _, _ => none
  | steps + 1, t, src =>
    match src with
    | [] => some (t, [])
    | g :: gs =>
      if g.column != indent || g.char == endMark then some (t, g :: gs)
      else
        let (line, rest) := cutWhile (!isLineEnd ·) (g :: gs)
        let (lineBreak, rest) := match rest with
          | h :: hs => if isBreak h.char then ([h.char], hs) else ([], h :: hs)
          | [] => ([], [])
        match dropEmptyLines (some indent) 0 [] rest with
        | none => none
        | some (_, empties, rest) =>
          readLines folded indent steps
            { t.addLine folded line lineBreak with empties := empties.reverse } rest

/-- Reads a block behind its indicator. What is around it ends in front of column `margin`. -/
def readBlock (folded : Bool) (margin : Nat) (src : Source) : Option (String × Source) := do
  let (chomping, offset, rest) ← readHeader src
  let rest ← endOfLine? rest
  let given := offset.map fun n => (margin - 1) + n
  let (widest, empties, rest) ← dropEmptyLines given 0 [] rest
  let indent := given.getD (max 1 (max margin widest))
  let (t, rest) ← readLines folded indent (rest.length + 1) { empties := empties.reverse } rest
  some (t.finish chomping, rest)

end TableIndex.Yaml
