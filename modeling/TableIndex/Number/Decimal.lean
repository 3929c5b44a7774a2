import TableIndex.Number.Binary64

/-!
# Doubles from decimal text

The digits of a decimal are collected as long as they fit 64 bits, first before the point and then once
more behind it: from the first digit on that does not fit, the digits of that part only count. The
collected number is rounded to a double and then scaled by one power of ten, with a second rounding.
Decimals of up to fifteen digits and small exponents are read exactly in this way; a longer one may end
up one unit away from the nearest double.
-/

namespace TableIndex.Decimal

/-- The bound of the significand, `2 ^ 64`. -/
def significandLimit : Nat := 0x10000000000000000

/-- The bound of a written exponent, `2 ^ 31`. -/
def exponentLimit : Nat := 0x80000000

/-- The digits read so far: their value as long as it fits, and the power of ten it is to be scaled
by. -/
structure Digits where
  significand : Nat := 0
  exponent : Int := 0
  full : Bool := false
deriving Repr

/-- One more digit before the point. -/
def Digits.integral (d : Digits) (digit : Nat) : Digits :=
  let n := d.significand * 10 + digit
  if d.full || significandLimit ≤ n then { d with exponent := d.exponent + 1, full := true }
  else { d with significand := n }

/-- The point: the digits behind it are collected again if they fit. -/
def Digits.point (d : Digits) : Digits := { d with full := false }

/-- One more digit behind the point. -/
def Digits.fractional (d : Digits) (digit : Nat) : Digits :=
  let n := d.significand * 10 + digit
  if d.full || significandLimit ≤ n then { d with full := true }
  else { d with significand := n, exponent := d.exponent - 1 }

/-- The double nearest to `10 ^ e`, for `e ≤ 308`. -/
def powerOfTen (e : Nat) : Binary64 := (Binary64.ofNat (Nat.pow 10 e)).getD (Binary64.zero false)

/-- Scales by `10 ^ e` in steps of at most `10 ^ 308`; `none` beyond the finite doubles. Three steps are
enough to bring every significand down to zero. -/
def scale (x : Binary64) (e : Int) : Nat → Option Binary64
  | 0 => some x
  | steps + 1 =>
    if e.natAbs ≤ 308 then
      if 0 ≤ e then x.mul (powerOfTen e.natAbs) else x.div (powerOfTen e.natAbs)
    else if x.isZero then some x
    else if 0 ≤ e then none
    else match x.div (powerOfTen 308) with
      | some y => scale y (e + 308) steps
      | none => none

/-- The double that the digits stand for; `none` beyond the finite doubles. -/
def Digits.toBinary64? (d : Digits) (negative : Bool) : Option Binary64 := do
  let x ← Binary64.ofNat d.significand
  let y ← scale x d.exponent 4
  some (if negative then y.neg else y)

/-- The digits under a written exponent. An exponent that is out of bounds makes zero of a decimal that
is tiny or zero, and leaves no value for any other. -/
def Digits.raised (d : Digits) (negativeExponent : Bool) (exponent : Nat) : Option Digits :=
  if exponentLimit ≤ exponent then
    if d.significand ≠ 0 ∧ !negativeExponent then none
    else some { significand := 0, exponent := 0 }
  else if negativeExponent then some { d with exponent := d.exponent - exponent }
  else some { d with exponent := d.exponent + exponent }

end TableIndex.Decimal
