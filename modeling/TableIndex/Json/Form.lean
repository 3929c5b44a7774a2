import TableIndex.Json.Basic
import TableIndex.Number.Decimal

/-!
# JSON as written

`Json.Form` is a JSON text taken apart but not yet understood: numbers are their digits, strings their
characters and escapes, and objects keep the order and the repeats of their members. `Form.toJson?`
understands it; it refuses numbers beyond the doubles, halves of surrogate pairs and deep nesting.
A reader that skips a form never notices what is wrong with it.
-/

namespace TableIndex.Json

/-- A part of a written string: a character, or a 16-bit unit written as `\uXXXX`. -/
inductive Piece where
  | char (c : Char)
  | unit (u : Nat)
deriving DecidableEq, Repr, Inhabited

/-- A number as written. -/
structure NumberText where
  negative : Bool
  whole : List Char
  fraction : Option (List Char) := none
  exponent : Option (Bool × List Char) := none
deriving DecidableEq, Repr, Inhabited

/-- A JSON text taken apart. -/
inductive Form where
  | null
  | bool (value : Bool)
  | number (text : NumberText)
  | string (pieces : List Piece)
  | array (items : List Form)
  | object (members : List (List Piece × Form))
deriving Repr, Inhabited

/-! ## Strings -/

/-- Whether a unit is the first half of a pair. -/
def isHighUnit (u : Nat) : Bool := 0xD800 ≤ u && u < 0xDC00

/-- Whether a unit is the second half of a pair. -/
def isLowUnit (u : Nat) : Bool := 0xDC00 ≤ u && u < 0xE000

/-- The characters of a written string; `none` if half of a pair stands alone. -/
def decodePieces : List Piece → Option (List Char)
  | [] => some []
  | .char c :: ps => (decodePieces ps).map (c :: ·)
  | .unit u :: ps =>
    if isHighUnit u then
      match ps with
      | .unit v :: ps =>
        if isLowUnit v then
          (decodePieces ps).map (Char.ofNat (0x10000 + (u - 0xD800) * 0x400 + (v - 0xDC00)) :: ·)
        else none
      | _ => none
    else if isLowUnit u then none
    else (decodePieces ps).map (Char.ofNat u :: ·)

/-- The text of a written string. -/
def decodeString (ps : List Piece) : Option String := (decodePieces ps).map String.ofList

/-! ## Numbers -/

/-- The value of a decimal digit. -/
def digitValue (c : Char) : Nat := c.toNat - '0'.toNat

/-- The number written by decimal digits. -/
def digitsValue (ds : List Char) : Nat := ds.foldl (fun n c => n * 10 + digitValue c) 0

/-- The double that a written number stands for. -/
def NumberText.toBinary64? (t : NumberText) : Option Binary64 :=
  let ds := t.whole.foldl (fun d c => d.integral (digitValue c)) ({} : Decimal.Digits)
  let ds := (t.fraction.getD []).foldl (fun d c => d.fractional (digitValue c)) ds.point
  match t.exponent with
  | none => ds.toBinary64? t.negative
  | some (neg, es) => (ds.raised neg (digitsValue es)).bind (·.toBinary64? t.negative)

/-- A number without fraction and exponent is whole if 64 bits can hold it; `-0` is a double. -/
def NumberText.toNumber? (t : NumberText) : Option Number :=
  if t.fraction.isNone && t.exponent.isNone then
    let n := digitsValue t.whole
    if !t.negative && n < 0x10000000000000000 then some (.int n)
    else if t.negative && 0 < n && n ≤ 0x8000000000000000 then some (.int (-n))
    else t.toBinary64?.map .float
  else t.toBinary64?.map .float

/-! ## Values -/

/-- How many arrays and objects may be open at once, counted down from here; the last one is refused. -/
def nestingLimit : Nat := 128

mutual

/-- The value of a form; members with the same key leave the last one. -/
def Form.toJson? (depth : Nat) : Form → Option Json
  | .null => some .null
  | .bool b => some (.bool b)
  | .number t => t.toNumber?.map .number
  | .string ps => (decodeString ps).map .string
  | .array items => if depth ≤ 1 then none else (itemsToJson? (depth - 1) items).map .array
  | .object members => if depth ≤ 1 then none else (membersToJson? (depth - 1) members).map ofMembers

/-- The values of the items of an array. -/
def itemsToJson? (depth : Nat) : List Form → Option (List Json)
  | [] => some []
  | f :: fs => do
    let v ← Form.toJson? depth f
    let vs ← itemsToJson? depth fs
    some (v :: vs)

/-- The members of an object as written, repeats included. -/
def membersToJson? (depth : Nat) : List (List Piece × Form) → Option (List (String × Json))
  | [] => some []
  | (ps, f) :: fs => do
    let k ← decodeString ps
    let v ← Form.toJson? depth f
    let vs ← membersToJson? depth fs
    some ((k, v) :: vs)

end

/-- The forms of the members of an object under their keys, repeats included. -/
def keyedForms? : List (List Piece × Form) → Option (List (String × Form))
  | [] => some []
  | (ps, f) :: fs => do
    let k ← decodeString ps
    let vs ← keyedForms? fs
    some ((k, f) :: vs)

end TableIndex.Json
