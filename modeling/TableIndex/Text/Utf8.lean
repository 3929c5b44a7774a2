/-!
# Characters as bytes

The encoding of characters in one to four bytes each, and its inverse on well-formed bytes.
-/

namespace TableIndex.Text

/-- The bytes of the UTF-8 encoding of a character. -/
def utf8 (c : Char) : List Nat :=
  let n := c.toNat
  if n < 0x80 then [n]
  else if n < 0x800 then [0xC0 + n / 0x40, 0x80 + n % 0x40]
  else if n < 0x10000 then [0xE0 + n / 0x1000, 0x80 + n / 0x40 % 0x40, 0x80 + n % 0x40]
  else [0xF0 + n / 0x40000, 0x80 + n / 0x1000 % 0x40, 0x80 + n / 0x40 % 0x40, 0x80 + n % 0x40]

/-- Whether a byte continues a character. -/
def isContinuation (b : Nat) : Bool := 0x80 ≤ b && b < 0xC0

/-- The characters of UTF-8 bytes; `none` if they are not well formed. -/
def ofUtf8? : List Nat → Option (List Char)
  | [] => some []
  | a :: bs =>
    if a < 0x80 then (ofUtf8? bs).map (Char.ofNat a :: ·)
    else match bs with
      | b :: bs =>
        if !isContinuation b then none
        else if 0xC2 ≤ a && a < 0xE0 then
          (ofUtf8? bs).map (Char.ofNat ((a - 0xC0) * 0x40 + (b - 0x80)) :: ·)
        else match bs with
          | c :: bs =>
            if !isContinuation c then none
            else if 0xE0 ≤ a && a < 0xF0 then
              let n := (a - 0xE0) * 0x1000 + (b - 0x80) * 0x40 + (c - 0x80)
              if n < 0x800 || (0xD800 ≤ n && n < 0xE000) then none
              else (ofUtf8? bs).map (Char.ofNat n :: ·)
            else match bs with
              | d :: bs =>
                let n := (a - 0xF0) * 0x40000 + (b - 0x80) * 0x1000 + (c - 0x80) * 0x40 + (d - 0x80)
                if 0xF0 ≤ a && isContinuation d && 0x10000 ≤ n && n < 0x110000 then
                  (ofUtf8? bs).map (Char.ofNat n :: ·)
                else none
              | [] => none
          | [] => none
      | [] => none

end TableIndex.Text
