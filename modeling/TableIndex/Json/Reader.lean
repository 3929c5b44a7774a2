import TableIndex.Json.Form
import TableIndex.Text.Hex

/-!
# Reading JSON

A strict reader of JSON text: `Form.read?` takes a whole text apart, `Json.parse?` also understands it.
Every function returns what it read and the characters behind it.
-/

namespace TableIndex.Json

/-- Drops blanks, line ends and tabs. -/
def skipSpace (cs : List Char) : List Char :=
  cs.dropWhile fun c => c == ' ' || c == '\n' || c == '\t' || c == '\r'

/-- The 16-bit unit of four hexadecimal digits. -/
def unit? (a b c d : Char) : Option Nat := do
  let a ← Text.hexValue? a
  let b ← Text.hexValue? b
  let c ← Text.hexValue? c
  let d ← Text.hexValue? d
  some (((a * 16 + b) * 16 + c) * 16 + d)

/-- The character that a one-letter escape stands for. -/
def escape? (c : Char) : Option Char :=
  match c with
  | '"' => some '"'
  | '\\' => some '\\'
  | '/' => some '/'
  | 'b' => some (Char.ofNat 8)
  | 'f' => some (Char.ofNat 12)
  | 'n' => some '\n'
  | 'r' => some '\r'
  | 't' => some '\t'
  | _ => none

/-- The rest of a string behind its opening quote. Characters below the blank must be escaped. -/
def readPieces : List Char → Option (List Piece × List Char)
  | [] => none
  | '"' :: cs => some ([], cs)
  | '\\' :: 'u' :: a :: b :: c :: d :: cs => do
    let u ← unit? a b c d
    let (ps, rest) ← readPieces cs
    some (.unit u :: ps, rest)
  | '\\' :: e :: cs => do
    let c ← escape? e
    let (ps, rest) ← readPieces cs
    some (.char c :: ps, rest)
  | c :: cs =>
    if c.toNat < 0x20 || c == '\\' then none
    else (readPieces cs).map fun (ps, rest) => (.char c :: ps, rest)

/-- Digits, at least one. -/
def readDigits? (cs : List Char) : Option (List Char × List Char) :=
  let ds := cs.takeWhile Char.isDigit
  if ds.isEmpty then none else some (ds, cs.dropWhile Char.isDigit)

/-- The fraction of a number, if there is a point. -/
def readFraction (cs : List Char) : Option (Option (List Char) × List Char) :=
  match cs with
  | '.' :: cs => (readDigits? cs).map fun (ds, rest) => (some ds, rest)
  | cs => some (none, cs)

/-- The exponent of a number, if there is one. -/
def readExponent (cs : List Char) : Option (Option (Bool × List Char) × List Char) :=
  match cs with
  | c :: cs =>
    if c == 'e' || c == 'E' then
      let (neg, cs) := match cs with
        | '-' :: cs => (true, cs)
        | '+' :: cs => (false, cs)
        | cs => (false, cs)
      (readDigits? cs).map fun (ds, rest) => (some (neg, ds), rest)
    else some (none, c :: cs)
  | [] => some (none, [])

/-- A number. Its whole part is `0` or starts with another digit. -/
def readNumber (cs : List Char) : Option (NumberText × List Char) := do
  let (negative, cs) := match cs with
    | '-' :: cs => (true, cs)
    | cs => (false, cs)
  let (whole, cs) ← readDigits? cs
  if whole.head? = some '0' ∧ whole ≠ ['0'] then none
  let (fraction, cs) ← readFraction cs
  let (exponent, cs) ← readExponent cs
  some ({ negative, whole, fraction, exponent }, cs)

/-- A string, with its opening quote. -/
def readKey (cs : List Char) : Option (List Piece × List Char) :=
  match skipSpace cs with
  | '"' :: cs => readPieces cs
  | _ => none

mutual

/-- A value. Two units of fuel for every character are enough. -/
def readValue : Nat → List Char → Option (Form × List Char)
  | 0, _ => none
  | fuel + 1, cs =>
    match skipSpace cs with
    | 'n' :: 'u' :: 'l' :: 'l' :: rest => some (.null, rest)
    | 't' :: 'r' :: 'u' :: 'e' :: rest => some (.bool true, rest)
    | 'f' :: 'a' :: 'l' :: 's' :: 'e' :: rest => some (.bool false, rest)
    | '"' :: rest => (readPieces rest).map fun (ps, rest) => (.string ps, rest)
    | '[' :: rest =>
      match skipSpace rest with
      | ']' :: rest => some (.array [], rest)
      | rest => (readItems fuel rest).map fun (fs, rest) => (.array fs, rest)
    | '{' :: rest =>
      match skipSpace rest with
      | '}' :: rest => some (.object [], rest)
      | rest => (readMembers fuel rest).map fun (fs, rest) => (.object fs, rest)
    | rest => (readNumber rest).map fun (t, rest) => (.number t, rest)

/-- The items of an array up to its closing bracket. -/
def readItems : Nat → List Char → Option (List Form × List Char)
  | 0, _ => none
  | fuel + 1, cs =>
    match readValue fuel cs with
    | none => none
    | some (f, rest) =>
      match skipSpace rest with
      | ',' :: rest => (readItems fuel rest).map fun (fs, rest) => (f :: fs, rest)
      | ']' :: rest => some ([f], rest)
      | _ => none

/-- The members of an object up to its closing brace. -/
def readMembers : Nat → List Char → Option (List (List Piece × Form) × List Char)
  | 0, _ => none
  | fuel + 1, cs =>
    match readKey cs with
    | none => none
    | some (k, rest) =>
      match skipSpace rest with
      | ':' :: rest =>
        match readValue fuel rest with
        | none => none
        | some (f, rest) =>
          match skipSpace rest with
          | ',' :: rest => (readMembers fuel rest).map fun (fs, rest) => ((k, f) :: fs, rest)
          | '}' :: rest => some ([(k, f)], rest)
          | _ => none
      | _ => none

end

/-- Takes a whole text apart. -/
def Form.read? (text : String) : Option Form :=
  let cs := text.toList
  match readValue (2 * (cs.length + 1)) cs with
  | some (f, rest) => if (skipSpace rest).isEmpty then some f else none
  | none => none

/-- The value of a whole text. -/
def parse? (text : String) : Option Json := do
  let f ← Form.read? text
  f.toJson? nestingLimit

end TableIndex.Json
