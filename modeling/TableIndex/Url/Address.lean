import TableIndex.Text.Blank
import TableIndex.Text.Hex

/-!
# Numeric addresses

Addresses of four bytes, also in their octal, hexadecimal and shortened forms, and addresses of eight
16-bit pieces with their compressed notation.
-/

namespace TableIndex.Url.Address

/-! ## Four bytes -/

/-- What a part of a numeric address may be. -/
inductive Part where
  | notNumeric
  | tooBig
  | number (n : Nat)

/-- The number that a part of an address writes. -/
def readPart (cs : List Char) : Part :=
  let (radix, ds) := match cs with
    | '0' :: 'x' :: ds => (16, ds)
    | '0' :: 'X' :: ds => (16, ds)
    | '0' :: d :: ds => (8, d :: ds)
    | ds => (10, ds)
  if cs.isEmpty then .notNumeric
  else if ds.isEmpty then .number 0
  else if ds.all fun c => (Text.hexValue? c).any (· < radix) then
    let n := ds.foldl (fun n c => n * radix + (Text.hexValue? c).getD 0) 0
    if n < 0x100000000 then .number n else .tooBig
  else .notNumeric

/-- The parts of a name; an empty last one is left out. -/
def parts (name : List Char) : List (List Char) :=
  let ps := Text.splitAt '.' name
  if ps.getLast? = some [] then ps.dropLast else ps

/-- Whether the last part of a name makes it a numeric address, be it a valid one or not. -/
def endsInNumber (name : List Char) : Bool :=
  let ps := Text.splitAt '.' name
  let last := if ps.getLast? = some [] then ps.dropLast.getLast? else ps.getLast?
  match last with
  | none => false
  | some part =>
    (!part.isEmpty && part.all Char.isDigit) || match readPart part with
      | .notNumeric => false
      | _ => true

/-- The numbers of all parts, if all are numbers. -/
def numbers? (ps : List (List Char)) : Option (List Nat) :=
  ps.mapM fun p => match readPart p with
    | .number n => some n
    | _ => none

/-- The address that a numeric name writes: every part but the last is one byte, and the last one fills
the bytes that are left. -/
def ipv4? (name : List Char) : Option Nat := do
  let ps := parts name
  if 4 < ps.length then none
  let ns ← numbers? ps
  let last ← ns.getLast?
  let front := ns.dropLast
  if front.any (255 < ·) || Nat.pow 256 (4 - front.length) ≤ last then none
  let high := front.foldl (fun n b => n * 256 + b) 0
  some (high * Nat.pow 256 (4 - front.length) + last)

/-- Four bytes with points between them. -/
def ipv4Text (n : Nat) : List Char :=
  Text.joined ['.'] ([n / 0x1000000, n / 0x10000 % 256, n / 0x100 % 256, n % 256].map (Nat.toDigits 10))

/-! ## Eight pieces -/

/-- Four bytes in plain decimal notation, as they may end an address of eight pieces. -/
def plainBytes? (cs : List Char) : Option (List Nat) := do
  let bytes ← (Text.splitAt '.' cs).mapM fun ds =>
    if ds.isEmpty || !ds.all Char.isDigit || (ds.length != 1 && ds.head? == some '0') then none
    else
      let n := ds.foldl (fun n c => n * 10 + (c.toNat - 0x30)) 0
      if n < 256 then some n else none
  if bytes.length = 4 then some bytes else none

/-- Pieces separated by colons; the last may be two pieces written as four bytes. -/
def pieces? : List (List Char) → Option (List Nat)
  | [] => some []
  | [last] =>
    if last.contains '.' then
      (plainBytes? last).bind fun
        | [a, b, c, d] => some [a * 256 + b, c * 256 + d]
        | _ => none
    else if last.isEmpty || 4 < last.length || !last.all Text.isHexDigit then none
    else some [Text.hexNumber last]
  | p :: ps =>
    if p.isEmpty || 4 < p.length || !p.all Text.isHexDigit then none
    else (pieces? ps).map (Text.hexNumber p :: ·)

/-- The pieces of a text in which there may be nothing at all. -/
def piecesOrNone? (cs : List Char) : Option (List Nat) :=
  if cs.isEmpty then some [] else pieces? (Text.splitAt ':' cs)

/-- Cuts at the first double colon. -/
def splitDouble : List Char → Option (List Char × List Char)
  | ':' :: ':' :: cs => some ([], cs)
  | c :: cs => (splitDouble cs).map fun (a, b) => (c :: a, b)
  | [] => none

/-- The eight pieces of an address; a double colon stands for at least one piece of zero. -/
def ipv6? (cs : List Char) : Option (List Nat) :=
  match splitDouble cs with
  | none => (pieces? (Text.splitAt ':' cs)).bind fun ps => if ps.length = 8 then some ps else none
  | some (front, back) =>
    if front.contains '.' then none
    else
      match piecesOrNone? front, piecesOrNone? back with
      | some a, some b =>
        if a.length + b.length < 8 then some (a ++ List.replicate (8 - a.length - b.length) 0 ++ b)
        else none
      | _, _ => none

/-- The length of the run of zeros that a list starts with. -/
def zeroRun (ps : List Nat) : Nat := (ps.takeWhile (· == 0)).length

/-- Where the first of the longest runs of zeros starts, and how long it is. -/
def longestZeros : List Nat → Nat → Nat × Nat
  | [], i => (i, 0)
  | p :: ps, i =>
    let here := zeroRun (p :: ps)
    let (j, n) := longestZeros ps (i + 1)
    if n ≤ here then (i, here) else (j, n)

/-- The pieces with colons between them. -/
def piecesText (ps : List Nat) : List Char := Text.joined [':'] (ps.map (Nat.toDigits 16))

/-- An address of eight pieces; the longest run of at least two zeros becomes a double colon. -/
def ipv6Text (ps : List Nat) : List Char :=
  let (start, n) := longestZeros ps 0
  if n < 2 then piecesText ps
  else piecesText (ps.take start) ++ [':', ':'] ++ piecesText (ps.drop (start + n))

end TableIndex.Url.Address
