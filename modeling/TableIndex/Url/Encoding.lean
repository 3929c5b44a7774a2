import TableIndex.Text.Blank
import TableIndex.Text.Hex
import TableIndex.Text.Utf8

/-!
# Percent encoding

Every part of a URL has a set of characters that are written as the bytes of their UTF-8 encoding, each
as `%` and two upper-case hexadecimal digits. Characters beyond ASCII are in every set.
-/

namespace TableIndex.Url

/-- Characters that count for nothing anywhere in a URL. -/
def isLineBreak (c : Char) : Bool := c == '\t' || c == '\n' || c == '\r'

/-- A byte as `%` and two digits. -/
def percentByte (b : Nat) : List Char := ['%', Text.upperHexDigit (b / 16), Text.upperHexDigit (b % 16)]

/-- Writes the characters of a set, and those beyond ASCII, as percent-encoded bytes. -/
def encode (inSet : Char → Bool) (cs : List Char) : List Char :=
  cs.flatMap fun c => if 0x80 ≤ c.toNat || inSet c then (Text.utf8 c).flatMap percentByte else [c]

/-! ## The sets -/

/-- Control characters. -/
def controlSet (c : Char) : Bool := c.toNat < 0x20 || c.toNat == 0x7F

/-- What is encoded in a fragment. -/
def fragmentSet (c : Char) : Bool := controlSet c || [' ', '"', '<', '>', Char.ofNat 0x60].contains c

/-- What is encoded in a query. -/
def querySet (c : Char) : Bool := controlSet c || [' ', '"', '#', '<', '>'].contains c

/-- What is encoded in a query of a special scheme. -/
def specialQuerySet (c : Char) : Bool := querySet c || c == '\''

/-- What is encoded in a path. -/
def pathSet (c : Char) : Bool := fragmentSet c || ['#', '?', '{', '}'].contains c

/-- What is encoded in a user name or password. -/
def userinfoSet (c : Char) : Bool :=
  pathSet c || ['/', ':', ';', '=', '@', '[', '\\', ']', '^', '|'].contains c

/-- What is encoded in a single path segment: also what separates segments, and what encodes. -/
def segmentSet (c : Char) : Bool := pathSet c || c == '/' || c == '%'

/-- What is encoded in a single path segment of a special scheme, where a backslash separates, too. -/
def specialSegmentSet (c : Char) : Bool := segmentSet c || c == '\\'

/-! ## Decoding -/

/-- The bytes of a text in which `%` and two hexadecimal digits stand for a byte. -/
def decodeBytes : List Char → List Nat
  | [] => []
  | '%' :: a :: b :: cs =>
    match Text.hexValue? a, Text.hexValue? b with
    | some x, some y => (16 * x + y) :: decodeBytes cs
    | _, _ => 0x25 :: decodeBytes (a :: b :: cs)
  | c :: cs => Text.utf8 c ++ decodeBytes cs
termination_by cs => cs.length

/-! ## Form encoding -/

/-- Whether a character stands for itself in a form-encoded query. -/
def isFormLiteral (c : Char) : Bool :=
  (c.toNat < 0x80 && c.isAlphanum) || ['*', '-', '.', '_'].contains c

/-- A name or value in a form-encoded query: a blank is `+`, and all but letters, digits and four marks
are percent-encoded. -/
def formEncode (s : String) : List Char :=
  s.toList.flatMap fun c =>
    if isFormLiteral c then [c] else if c == ' ' then ['+'] else (Text.utf8 c).flatMap percentByte

/-- The form-encoded query of names and values. -/
def formQuery (pairs : List (String × String)) : List Char :=
  Text.joined ['&'] (pairs.map fun (k, v) => formEncode k ++ '=' :: formEncode v)

end TableIndex.Url
