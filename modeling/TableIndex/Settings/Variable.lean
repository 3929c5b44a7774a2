import TableIndex.Settings.Value
import TableIndex.Text.Blank
import TableIndex.Text.Hex
import TableIndex.Text.Lowercase

/-!
# Settings in the environment

A variable whose name starts with the prefix is a setting. Its value may be a boolean, a number, a
dictionary in braces, a list in brackets, a character or a text in quotes; any other value, and one with
something behind it, is a text as it stands.
-/

namespace TableIndex.Settings

namespace Variable

/-! ## Values -/

/-- Blanks of ASCII. -/
def isBlank (c : Char) : Bool :=
  c == ' ' || c == '\t' || c == '\n' || c == '\r' || c.toNat == 0x0C

/-- Drops blanks. -/
def skipBlanks (cs : List Char) : List Char := cs.dropWhile isBlank

/-- Whether a character ends a bare value. -/
def isSeparator (c : Char) : Bool := [',', '{', '}', '[', ']'].contains c

/-- Whether a character may stand in a bare key. -/
def isKeyChar (c : Char) : Bool := c.isAlphanum || c == '_' || c == '-'

/-- Whether a text is a number with a point. -/
def isPointed (cs : List Char) : Bool :=
  let cs := match cs with
    | '+' :: cs => cs
    | '-' :: cs => cs
    | cs => cs
  let whole := cs.takeWhile Char.isDigit
  match cs.dropWhile Char.isDigit with
  | '.' :: cs =>
    let fraction := cs.takeWhile Char.isDigit
    !(whole.isEmpty && fraction.isEmpty) && match cs.dropWhile Char.isDigit with
      | [] => true
      | e :: cs =>
        let ds := match cs with
          | '+' :: cs => cs
          | '-' :: cs => cs
          | cs => cs
        (e == 'e' || e == 'E') && !ds.isEmpty && ds.all Char.isDigit
  | _ => false

/-- The number that decimal digits write. -/
def digits? (ds : List Char) : Option Nat :=
  if ds.isEmpty || !ds.all Char.isDigit then none
  else some (ds.foldl (fun n c => n * 10 + (c.toNat - 0x30)) 0)

/-- A whole number of 64 bits. -/
def whole? : List Char → Option Int
  | '-' :: ds => (digits? ds).bind fun n => if n ≤ 0x8000000000000000 then some (-n) else none
  | '+' :: ds => (digits? ds).bind fun n => if n < 0x10000000000000000 then some n else none
  | ds => (digits? ds).bind fun n => if n < 0x10000000000000000 then some n else none

/-- What a bare value means. -/
def bare (cs : List Char) : Value :=
  if isPointed cs then .fraction
  else match whole? cs with
    | some n => .whole n
    | none => .text (String.ofList cs)

/-- The characters of a text in quotes, and what is behind the closing quote. -/
def cutQuoted : List Char → Option (List Char × List Char)
  | [] => none
  | '"' :: cs => some ([], cs)
  | '\\' :: c :: cs => (cutQuoted cs).map fun (s, rest) => ('\\' :: c :: s, rest)
  | c :: cs => (cutQuoted cs).map fun (s, rest) => (c :: s, rest)

/-- The character of a one-letter escape. -/
def escape? (c : Char) : Option Char :=
  ([('"', 0x22), ('\\', 0x5C), ('b', 0x08), ('f', 0x0C), ('n', 0x0A), ('r', 0x0D),
    ('t', 0x09)].lookup c).map Char.ofNat

/-- The text that stands in quotes; `none` if an escape or a control character is wrong. -/
def unescape? (cs : List Char) : Option (List Char) :=
  match cs with
  | [] => some []
  | '\\' :: c :: rest =>
    if c == 'u' || c == 'U' then
      let n := if c == 'u' then 4 else 8
      let ds := rest.take n
      let code := Text.hexNumber ds
      if ds.length = n && ds.all Text.isHexDigit && code.isValidChar then
        (unescape? (rest.drop n)).map (Char.ofNat code :: ·)
      else none
    else do
      let d ← escape? c
      let s ← unescape? rest
      some (d :: s)
  | c :: rest =>
    if c == '\\' || (c != '\t' && c.toNat < 0x20) || c.toNat == 0x7F then none
    else (unescape? rest).map (c :: ·)
termination_by cs.length
decreasing_by all_goals (simp only [List.length_cons, List.length_drop]; omega)

/-- Reads a text in quotes behind the opening quote. -/
def readQuoted (cs : List Char) : Option (String × List Char) := do
  let (inner, rest) ← cutQuoted cs
  let s ← unescape? inner
  some (String.ofList s, rest)

/-- Reads a key and the equals sign behind it. -/
def readKey (cs : List Char) : Option (String × List Char) := do
  let (key, rest) ← match skipBlanks cs with
    | '"' :: cs => readQuoted cs
    | cs =>
      let key := cs.takeWhile isKeyChar
      if key.isEmpty then none else some (String.ofList key, cs.dropWhile isKeyChar)
  match skipBlanks rest with
  | '=' :: rest => some (key, rest)
  | _ => none

mutual

/-- Reads a value with the blanks around it. -/
def readValue : Nat → List Char → Option (Value × List Char)
  | 0, _ => none
  | fuel + 1, cs => do
    let (v, rest) ← match skipBlanks cs with
      | 't' :: 'r' :: 'u' :: 'e' :: rest => some (.bool true, rest)
      | 'f' :: 'a' :: 'l' :: 's' :: 'e' :: rest => some (.bool false, rest)
      | '{' :: rest =>
        (readMembers fuel rest).map fun (ms, rest) => (.ofDict (SortedMap.ofList ms), rest)
      | '[' :: rest => (readItems fuel rest).map fun (vs, rest) => (.list vs, rest)
      | '"' :: rest => (readQuoted rest).map fun (s, rest) => (.text s, rest)
      | '\'' :: c :: '\'' :: rest => some (.char c, rest)
      | '\'' :: _ => none
      | cs => some (bare (Text.trimBy Text.isSpace (cs.takeWhile (!isSeparator ·))),
          cs.dropWhile (!isSeparator ·))
    some (v, skipBlanks rest)

/-- Reads the items of a list up to the closing bracket. -/
def readItems : Nat → List Char → Option (List Value × List Char)
  | 0, _ => none
  | fuel + 1, cs =>
    match cs with
    | ']' :: rest => some ([], rest)
    | cs => do
      let (v, rest) ← readValue fuel cs
      match rest with
      | ',' :: rest => do
        let (vs, rest) ← readItems fuel rest
        some (v :: vs, rest)
      | ']' :: rest => some ([v], rest)
      | _ => none

/-- Reads the members of a dictionary up to the closing brace. -/
def readMembers : Nat → List Char → Option (List (String × Value) × List Char)
  | 0, _ => none
  | fuel + 1, cs =>
    match cs with
    | '}' :: rest => some ([], rest)
    | cs => do
      let (k, rest) ← readKey cs
      let (v, rest) ← readValue fuel rest
      match rest with
      | ',' :: rest => do
        let (ms, rest) ← readMembers fuel rest
        some ((k, v) :: ms, rest)
      | '}' :: rest => some ([(k, v)], rest)
      | _ => none

end

/-- The value of a variable. -/
def value (text : String) : Value :=
  let cs := text.toList
  match readValue (2 * (cs.length + 1)) cs with
  | some (v, []) => v
  | _ => .text text

/-! ## Names -/

/-- What the name of every setting starts with, in any case. -/
def namePrefix : String := "RECORDINDEX_"

/-- A name with a point for every double underscore. -/
def pointed : List Char → List Char
  | '_' :: '_' :: cs => '.' :: pointed cs
  | c :: cs => c :: pointed cs
  | [] => []

/-- The keys, from the outside in, that the name of a variable stands for; no keys if it names no
setting. -/
def keys (name : String) : List String :=
  let name := Text.asciiLower (Text.trim name)
  match Text.dropStart? (Text.asciiLower namePrefix).toList name.toList with
  | none => []
  | some rest =>
    let parts := Text.splitAt '.' (Text.trimBy Text.isSpace (pointed rest))
    if parts.any List.isEmpty then [] else parts.map String.ofList

/-- The settings with that of a variable merged into them. -/
def apply (d : Dict) (entry : String × String) : Dict :=
  match keys entry.1 with
  | [] => d
  | k :: ks => Value.mergeMembers d [(k, (value entry.2).nest ks)]

/-- The settings in an environment, where a later variable goes before an earlier one. -/
def settings (environment : List (String × String)) : Dict := environment.foldl apply .empty

end Variable

/-- The settings with those of the environment merged into them, once the latter are merged among
themselves. -/
def Dict.withVariables (d : Dict) (environment : List (String × String)) : Dict :=
  Value.mergeMembers d (Variable.settings environment).entries

end TableIndex.Settings
