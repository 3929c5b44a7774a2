import TableIndex.Text.Direction
import TableIndex.Text.Joining
import TableIndex.Text.Normal
import TableIndex.Url.Domain.Mapping

/-!
# Labels of domain names

What a label beyond ASCII must be like: no mark stands in front, a joiner stands only where it changes how a
word is written, and where a name holds letters that are written from right to left, no label can be
mistaken for another one by the order in which it is shown.
-/

namespace TableIndex.Url.Domain

open Text (Direction Joining directionOf joiningOf)

/-! ## Joiners -/

/-- The mark of no width that keeps two letters apart. -/
def nonJoiner : Char := Char.ofNat 0x200C

/-- The mark of no width that joins two letters. -/
def joiner : Char := Char.ofNat 0x200D

/-- Whether the next character that is not passed over joins in one of two ways. -/
def joinsAs (a b : Joining) (cs : List Char) : Bool :=
  match (cs.dropWhile (joiningOf · == .transparent)).head? with
  | some c => joiningOf c == a || joiningOf c == b
  | none => false

/-- Whether a character stands rightly between others, those in front being given the last one first. A joiner
follows a virama; one that keeps apart may also stand between letters that would join. -/
def joinerFits (front : List Char) (c : Char) (rest : List Char) : Bool :=
  if c == nonJoiner || c == joiner then
    front.head?.any (Text.combiningClass · == Text.viramaClass)
      || (c == nonJoiner && joinsAs .next .both front && joinsAs .previous .both rest)
  else true

/-- Whether every joiner of a text stands rightly behind those in front. -/
def joinersFit (front : List Char) : List Char → Bool
  | [] => true
  | c :: cs => joinerFits front c cs && joinersFit (c :: front) cs

/-! ## Directions -/

/-- Whether a name with a character must be looked at for directions. -/
def isBidirectional (c : Char) : Bool := directionOf c == .right || directionOf c == .arabicNumber

/-- The directions without the marks at the end. -/
def withoutMarks (ds : List Direction) : List Direction := (ds.reverse.dropWhile (· == .mark)).reverse

/-- Whether a label fits into a name in which directions matter. It starts with a letter and ends, marks aside,
with a letter of the same direction or a number; it holds no letters of the other direction, and numbers of
one kind only. -/
def directionsFit (label : List Char) : Bool :=
  match label.map directionOf with
  | [] => true
  | first :: rest =>
    let rest := withoutMarks rest
    match first with
    | .left =>
      rest.all (fun d => d != .right && d != .arabicNumber)
        && rest.getLast?.all (fun d => d == .left || d == .europeanNumber)
    | .right =>
      rest.all (· != .left)
        && rest.getLast?.all (· != .neutral)
        && !(rest.contains .europeanNumber && rest.contains .arabicNumber)
    | _ => false

/-! ## Labels -/

/-- What marks a label that is written in Punycode. -/
def acePrefix : List Char := ['x', 'n', '-', '-']

/-- Whether a text is what mapping and composing makes of itself. -/
def isMapped (text : List Char) : Bool :=
  text.all (fun c => mapChar? c == some [c]) && Text.normalize text == text

/-- Whether a mapped text is a label: what marks labels in Punycode does not start it. -/
def isLabel (text : List Char) : Bool :=
  !text.head?.any Text.isMark && joinersFit [] text && !Text.startsWith acePrefix text

end TableIndex.Url.Domain
