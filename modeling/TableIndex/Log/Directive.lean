import TableIndex.Log.Level
import TableIndex.Log.Pattern
import TableIndex.Text.Alphanumeric
import TableIndex.Text.Blank

/-!
# Directives of a log filter

A directive names a target, a span with fields and a limit, each of which may be missing, as in
`target[span{field=value}]=limit`. It is read character by character; `Place` is the part that is being
read. The parts are cut out of the text by the number of bytes in front of them, not counting blanks at the
start of the text, so behind such blanks every part is found too early.
-/

namespace TableIndex.Log

/-- A field that a span must have, and whether it must have a certain value. -/
structure FieldMatch where
  name : String
  hasValue : Bool
deriving DecidableEq, Repr, Inhabited

/-- A rule of a filter. -/
structure Directive where
  /-- What the targets start with that the directive is about; `none` is about all. -/
  target : Option String := none
  /-- The span in which a message must be. -/
  span : Option String := none
  fields : List FieldMatch := []
  limit : Limit := some .trace
deriving DecidableEq, Repr, Inhabited

/-! ## Parts of a text -/

/-- Drops a number of bytes. -/
def dropBytes : Nat → List Char → List Char
  | 0, cs => cs
  | _, [] => []
  | n + 1, c :: cs => dropBytes (n + 1 - c.utf8Size) cs

/-- The characters that start within a number of bytes. -/
def takeBytes : Nat → List Char → List Char
  | 0, _ => []
  | _, [] => []
  | n + 1, c :: cs => c :: takeBytes (n + 1 - c.utf8Size) cs

/-- The part of a text between two numbers of bytes. -/
def part (text : List Char) (first last : Nat) : List Char :=
  takeBytes (last - first) (dropBytes first text)

/-! ## Fields -/

/-- Whether a text is a number with a plus sign, which is no pattern but a value all the same. -/
def isPositive : List Char → Bool
  | '+' :: cs =>
    let whole := cs.takeWhile Char.isDigit
    let (fraction, rest) := match cs.dropWhile Char.isDigit with
      | '.' :: cs => (cs.takeWhile Char.isDigit, cs.dropWhile Char.isDigit)
      | cs => ([], cs)
    let exponent := match rest with
      | _ :: '+' :: ds => ds
      | _ :: '-' :: ds => ds
      | rest => rest.drop 1
    ["inf", "infinity", "nan"].contains (String.ofList (cs.map Char.toLower))
      || (!(whole.isEmpty && fraction.isEmpty) && (rest.isEmpty
        || ((rest.head? == some 'e' || rest.head? == some 'E') && !exponent.isEmpty
          && exponent.all Char.isDigit)))
  | _ => false

/-- The field that a text writes: a name, and maybe an equals sign and a value, which is a number or a
pattern. -/
def FieldMatch.parse? (cs : List Char) : Option FieldMatch :=
  match Text.splitAt '=' cs with
  | name :: value :: _ =>
    if isPositive value || Pattern.isPattern value then some { name := String.ofList name, hasValue := true }
    else none
  | _ => if cs.isEmpty then none else some { name := String.ofList cs, hasValue := false }

/-! ## Reading -/

/-- The part of a directive that is being read, with the number of bytes in front of it. -/
inductive Place where
  | start
  | target (first : Nat)
  | span (first : Nat)
  | field (first : Nat)
  | behindFields
  | behindSpan
  | limit (first : Nat)
deriving DecidableEq, Repr

namespace Directive

/-- Whether a directive may start with a character. -/
def isStart (c : Char) : Bool := c == '-' || c == ':' || c == '_' || Text.isAlphanumeric c

/-- Reads one character of `text` with `i` bytes in front of it. -/
def step (text : List Char) (i : Nat) (c : Char) (d : Directive) : Place → Option (Directive × Place)
  | .start => if c == '[' then some (d, .span (i + 1)) else if isStart c then some (d, .target i) else none
  | .target first =>
    let d' := { d with target := some (String.ofList (part text first i)) }
    if c == '=' then some (d', .limit (i + 1))
    else if c == '[' then some (d', .span (i + 1))
    else some (d, .target first)
  | .span first =>
    let name := String.ofList (part text first i)
    if c == ']' then some ({ d with span := some name }, .behindSpan)
    else if c == '{' then
      some ({ d with span := if name.isEmpty then none else some name }, .field (i + 1))
    else some (d, .span first)
  | .field first =>
    if c == '}' then
      (FieldMatch.parse? (part text first i)).map fun f =>
        ({ d with fields := d.fields ++ [f] }, .behindFields)
    else some (d, .field first)
  | .behindFields => if c == ']' then some (d, .behindSpan) else none
  | .behindSpan => if c == '=' then some (d, .limit (i + 1)) else none
  | .limit first => some (d, .limit first)

/-- Reads all characters. -/
def steps (text : List Char) : Nat → List Char → Directive × Place → Option (Directive × Place)
  | _, [], s => some s
  | i, c :: cs, (d, place) => (step text i c d place).bind (steps text (i + c.utf8Size) cs)

/-- The directive that is complete when the text ends at a place. A target alone may be a limit, and no
limit behind the sign lets everything pass. -/
def finish? (text : List Char) (d : Directive) : Place → Option Directive
  | .target first =>
    let name := String.ofList (dropBytes first text)
    match Limit.parse? name with
    | some limit => some { d with limit }
    | none => some { d with target := some name }
  | .limit first =>
    let name := dropBytes first text
    if name.isEmpty then some d
    else (Limit.parse? (String.ofList name)).map fun limit => { d with limit }
  | .behindSpan => some d
  | _ => none

/-- The directive that a text writes. -/
def parse? (text : String) : Option Directive :=
  let cs := text.toList
  (steps cs 0 (Text.trimBy Text.isSpace cs) ({}, .start)).bind fun (d, place) => finish? cs d place

/-! ## What a directive is about -/

/-- Whether a directive can be applied without knowing the spans and the values of their fields. -/
def isStatic (d : Directive) : Bool := d.span.isNone && d.fields.all (!·.hasValue)

/-- Whether a directive is about a target. -/
def isAbout (d : Directive) (target : String) : Bool :=
  d.target.all fun t => Text.startsWith t.toList target.toList

/-- How two directives compare: the one with the longer target is greater, and of two targets of one length
the one with more fields; the names decide in the end. -/
def order (a b : Directive) : Ordering :=
  (compare (a.target.map String.utf8ByteSize) (b.target.map String.utf8ByteSize)).then <|
  (compare a.fields.length b.fields.length).then <|
  (compare a.target b.target).then <|
  compare (a.fields.map (·.name)) (b.fields.map (·.name))

end Directive

end TableIndex.Log
