import TableIndex.Json.Basic
import TableIndex.Number.Shortest
import TableIndex.Text.Blank
import TableIndex.Text.Hex

/-!
# Printing JSON

`Json.compact` writes a value without blanks, `Json.pretty` with two blanks of indentation per level.
Only quotes, backslashes and characters below the blank are escaped, the latter by their short escape
where there is one and else by four lower-case hexadecimal digits.
-/

namespace TableIndex.Json

/-- A character as it stands inside quotes. -/
def escaped (c : Char) : List Char :=
  match c with
  | '"' => ['\\', '"']
  | '\\' => ['\\', '\\']
  | '\n' => ['\\', 'n']
  | '\r' => ['\\', 'r']
  | '\t' => ['\\', 't']
  | c =>
    let n := c.toNat
    if n == 8 then ['\\', 'b']
    else if n == 12 then ['\\', 'f']
    else if n < 0x20 then ['\\', 'u', '0', '0', Text.hexDigit (n / 16), Text.hexDigit (n % 16)]
    else [c]

/-- A string in quotes. -/
def quoted (s : String) : List Char := '"' :: s.toList.flatMap escaped ++ ['"']

/-- The text of a whole number. -/
def intText (i : Int) : List Char :=
  (if i < 0 then ['-'] else []) ++ Nat.toDigits 10 i.natAbs

/-- The text of a number; that of a double never looks like that of a whole number. -/
def Number.text : Number → List Char
  | .int i => intText i
  | .float x => x.text

mutual

/-- A value as characters, without blanks. -/
def compactChars : Json → List Char
  | .null => "null".toList
  | .bool true => "true".toList
  | .bool false => "false".toList
  | .number n => n.text
  | .string s => quoted s
  | .array items => '[' :: Text.joined [','] (compactItems items) ++ [']']
  | .object members => '{' :: Text.joined [','] (compactMembers members) ++ ['}']

/-- The texts of the items of an array. -/
def compactItems : List Json → List (List Char)
  | [] => []
  | v :: vs => compactChars v :: compactItems vs

/-- The texts of the members of an object. -/
def compactMembers : List (String × Json) → List (List Char)
  | [] => []
  | (k, v) :: vs => (quoted k ++ ':' :: compactChars v) :: compactMembers vs

end

/-- A value without blanks. -/
def compact (v : Json) : String := String.ofList (compactChars v)

/-- The compact text of an object whose members stand in the given order. -/
def compactInOrder (members : List (String × Json)) : String :=
  String.ofList ('{' :: Text.joined [','] (compactMembers members) ++ ['}'])

/-! ## Indented text -/

/-- The end of a line and the indentation of the next one. -/
def lineBreak (level : Nat) : List Char := '\n' :: List.replicate (2 * level) ' '

/-- Items between brackets, each on a line of its own. -/
def bracketed (opening closing : Char) (level : Nat) (items : List (List Char)) : List Char :=
  if items.isEmpty then [opening, closing]
  else opening :: lineBreak (level + 1) ++ Text.joined (',' :: lineBreak (level + 1)) items
    ++ lineBreak level ++ [closing]

mutual

/-- A value as indented characters. -/
def prettyChars (level : Nat) : Json → List Char
  | .array items => bracketed '[' ']' level (prettyItems (level + 1) items)
  | .object members => bracketed '{' '}' level (prettyMembers (level + 1) members)
  | v => compactChars v

/-- The indented texts of the items of an array. -/
def prettyItems (level : Nat) : List Json → List (List Char)
  | [] => []
  | v :: vs => prettyChars level v :: prettyItems level vs

/-- The indented texts of the members of an object. -/
def prettyMembers (level : Nat) : List (String × Json) → List (List Char)
  | [] => []
  | (k, v) :: vs => (quoted k ++ [':', ' '] ++ prettyChars level v) :: prettyMembers level vs

end

/-- A value with every item and member on a line of its own. -/
def pretty (v : Json) : String := String.ofList (prettyChars 0 v)

end TableIndex.Json
