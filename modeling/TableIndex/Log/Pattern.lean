import TableIndex.Text.Alphanumeric
import TableIndex.Text.Hex

/-!
# Patterns for field values

A directive may demand that a field has a value that matches a regular expression. Which expressions there
are is decided here, and nothing else about them: `isPattern` accepts a text exactly if groups and classes
are closed, no two groups have one name, every repetition has something to repeat and every escape is
known. No word boundary is accepted, since the patterns are run one character at a time.
-/

namespace TableIndex.Log.Pattern

/-! ## Escapes -/

/-- What an escape stands for. -/
inductive Escape where
  | letter (code : Nat)
  /-- A set of characters. -/
  | set
  /-- A place between characters. -/
  | place
deriving DecidableEq, Repr

/-- Digits of the code of a character, as many as demanded, and what is behind them. -/
def readCode (digits : Nat) (cs : List Char) : Option (Escape × List Char) :=
  let ds := cs.take digits
  let code := Text.hexNumber ds
  if ds.length = digits ∧ ds.all Text.isHexDigit ∧ code.isValidChar then
    some (.letter code, cs.drop digits)
  else none

/-- The control characters that have a letter of their own. -/
def controls : List (Char × Nat) := [('a', 7), ('t', 9), ('n', 10), ('v', 11), ('f', 12), ('r', 13)]

/-- An escape behind its backslash. Digits refer to nothing, and of the letters only some are known. -/
def readEscape : List Char → Option (Escape × List Char)
  | [] => none
  | 'x' :: cs => readCode 2 cs
  | 'u' :: cs => readCode 4 cs
  | 'U' :: cs => readCode 8 cs
  | c :: cs =>
    if c == 'p' || c == 'P' then
      match cs with
      | d :: cs => if "CLMNPSZclmnpsz".toList.contains d then some (.set, cs) else none
      | [] => none
    else if "dDsSwW".toList.contains c then some (.set, cs)
    else if c == 'A' || c == 'z' then some (.place, cs)
    else if c.toNat < 0x80 && !c.isAlphanum && c != '<' && c != '>' then some (.letter c.toNat, cs)
    else (controls.lookup c).map fun code => (.letter code, cs)

/-! ## Classes -/

/-- One character of a class, or a set. -/
def readItem : List Char → Option (Escape × List Char)
  | [] => none
  | '\\' :: cs =>
    match readEscape cs with
    | some (.place, _) => none
    | e => e
  | c :: cs => some (.letter c.toNat, cs)

/-- A range of a class, or one item alone. -/
def readItems (cs : List Char) : Option (List Char) := do
  let (first, rest) ← readItem cs
  match rest with
  | '-' :: next :: more =>
    if next == ']' || next == '-' then some rest
    else
      let (last, rest) ← readItem (next :: more)
      match first, last with
      | .letter a, .letter b => if a ≤ b then some rest else none
      | _, _ => none
  | _ => some rest

/-- What follows the bracket that opens a class: a circumflex, hyphens, and a closing bracket that stands
for itself if nothing else does yet. -/
def readOpening (cs : List Char) : List Char :=
  let cs := match cs with
    | '^' :: cs => cs
    | cs => cs
  match cs with
  | '-' :: cs => cs.dropWhile (· == '-')
  | ']' :: cs => cs
  | cs => cs

/-- Reads on to the end of a class inside as many others as `depth` says, one step for every item. -/
def readClass : Nat → Nat → List Char → Option (List Char)
  | 0, _, _ => none
  | _ + 1, _, [] => none
  | steps + 1, depth, ']' :: cs =>
    match depth with
    | 0 => some cs
    | depth + 1 => readClass steps depth cs
  | steps + 1, depth, '[' :: cs => readClass steps (depth + 1) (readOpening cs)
  | steps + 1, depth, c :: d :: cs =>
    if c == d && (c == '&' || c == '-' || c == '~') then readClass steps depth cs
    else (readItems (c :: d :: cs)).bind (readClass steps depth)
  | steps + 1, depth, cs => (readItems cs).bind (readClass steps depth)

/-! ## Groups -/

/-- Whether a character may stand in the name of a group. -/
def isNameChar (c : Char) : Bool := Text.isAlphanumeric c || ['_', '.', '[', ']'].contains c

/-- The name of a group up to its closing sign. No digit starts it. -/
def readName (cs : List Char) : Option (List Char × List Char) :=
  match cs.takeWhile (· != '>'), cs.dropWhile (· != '>') with
  | first :: name, _ :: rest =>
    if (first == '_' || (Text.isAlphanumeric first && !first.isDigit)) && name.all isNameChar then
      some (first :: name, rest)
    else none
  | _, _ => none

/-- Whether a text is flags, each at most once and maybe behind one minus sign. -/
def areFlags (flags : List Char) : Bool :=
  !flags.isEmpty && flags.all ("imsUuRx-".toList.contains ·) && flags.getLast? != some '-' && flags.Nodup

/-- The parenthesis that opens a group. -/
inductive Opening where
  | group
  | named (name : List Char)
  /-- Flags in parentheses of their own, which open no group. -/
  | flags
deriving DecidableEq, Repr

/-- Reads what opens a group behind its parenthesis. -/
def readGroup : List Char → Option (Opening × List Char)
  | '?' :: 'P' :: '<' :: cs => (readName cs).map fun (name, rest) => (.named name, rest)
  | '?' :: '<' :: cs => (readName cs).map fun (name, rest) => (.named name, rest)
  | '?' :: ':' :: cs => some (.group, cs)
  | '?' :: cs =>
    let isFlag (c : Char) := c != ':' && c != ')'
    match cs.dropWhile isFlag with
    | [] => none
    | c :: rest =>
      if areFlags (cs.takeWhile isFlag) then some (if c == ':' then .group else .flags, rest) else none
  | cs => some (.group, cs)

/-! ## Patterns -/

/-- Reads on to the end of a pattern, one step for every part; `names` are those of the groups so far, of
which `depth` are open, and `repeatable` tells whether there is something to repeat. -/
def readParts : Nat → List (List Char) → Nat → Bool → List Char → Bool
  | 0, _, _, _, _ => false
  | _ + 1, _, depth, _, [] => depth == 0
  | steps + 1, names, depth, repeatable, c :: cs =>
    match c with
    | '(' =>
      match readGroup cs with
      | some (.group, rest) => readParts steps names (depth + 1) false rest
      | some (.named name, rest) =>
        !names.contains name && readParts steps (name :: names) (depth + 1) false rest
      | some (.flags, rest) => readParts steps names depth false rest
      | none => false
    | ')' => 0 < depth && readParts steps names (depth - 1) true cs
    | '|' => readParts steps names depth false cs
    | '[' =>
      match readClass (cs.length + 1) 0 (readOpening cs) with
      | some rest => readParts steps names depth true rest
      | none => false
    | '\\' =>
      match readEscape cs with
      | some (_, rest) => readParts steps names depth true rest
      | none => false
    | c =>
      if c == '*' || c == '+' || c == '?' then
        repeatable && readParts steps names depth true (match cs with
          | '?' :: cs => cs
          | cs => cs)
      else c != '{' && readParts steps names depth true cs

/-- Whether a text is a pattern. -/
def isPattern (cs : List Char) : Bool := readParts (cs.length + 1) [] 0 false cs

end TableIndex.Log.Pattern
