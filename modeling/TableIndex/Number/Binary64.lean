/-!
# Finite doubles

A finite number of the 64-bit binary format, kept as a sign, a mantissa and an exponent, with exact
rounding of quotients to the nearest double. No operation goes through machine floats.
-/

namespace TableIndex

/-- The number `± mantissa · 2 ^ exponent`. A value made by this module has `mantissa < 2 ^ 53`, and
`2 ^ 52 ≤ mantissa` unless the exponent is the least one, `-1074`. -/
structure Binary64 where
  negative : Bool
  mantissa : Nat
  exponent : Int
deriving DecidableEq, Repr, Inhabited

namespace Binary64

/-- The exponent of the subnormal numbers. -/
def leastExponent : Int := -1074

/-- The exponent of the greatest finite numbers. -/
def greatestExponent : Int := 971

/-- The least mantissa of a normal number, `2 ^ 52`. -/
def leastNormal : Nat := 0x10000000000000

/-- Zero, with a sign. -/
def zero (negative : Bool) : Binary64 := ⟨negative, 0, leastExponent⟩

/-- Whether the number is zero of either sign. -/
def isZero (x : Binary64) : Bool := x.mantissa == 0

/-- The same number with the other sign. -/
def neg (x : Binary64) : Binary64 := { x with negative := !x.negative }

/-- Equality of the numbers denoted: the two zeros are equal. -/
def same (x y : Binary64) : Bool := x == y || (x.isZero && y.isZero)

theorem same_refl (x : Binary64) : x.same x = true := by simp [same]

/-! ## Rounding -/

/-- The whole number nearest to `num / den`; a tie goes to the even neighbour. -/
def roundDiv (num den : Nat) : Nat :=
  let q := num / den
  let twice := 2 * (num % den)
  if twice < den then q else if den < twice then q + 1 else q + q % 2

/-- The ratio `num / den` divided by `2 ^ e`, as a ratio. -/
def scaled (num den : Nat) (e : Int) : Nat × Nat :=
  if 0 ≤ e then (num, den * Nat.pow 2 e.toNat) else (num * Nat.pow 2 (-e).toNat, den)

/-- The exponent that puts `num / den` between `2 ^ 52` and `2 ^ 53`. -/
def normalExponent (num den : Nat) : Int :=
  let e : Int := (num.log2 : Int) - (den.log2 : Int) - 52
  let (n, d) := scaled num den e
  if n / d < leastNormal then e - 1 else e

/-- The double nearest to `num / den`, ties to the even mantissa; `none` beyond the finite doubles. -/
def ofRatio (negative : Bool) (num den : Nat) : Option Binary64 :=
  if num = 0 then some (zero negative)
  else
    let e := max (normalExponent num den) leastExponent
    let (n, d) := scaled num den e
    let m := roundDiv n d
    let (m, e) := if m = 2 * leastNormal then (leastNormal, e + 1) else (m, e)
    if greatestExponent < e then none else some ⟨negative, m, e⟩

/-- The double nearest to a whole number. -/
def ofNat (n : Nat) : Option Binary64 := ofRatio false n 1

/-- The magnitude as a ratio. -/
def toRatio (x : Binary64) : Nat × Nat :=
  if 0 ≤ x.exponent then (x.mantissa * Nat.pow 2 x.exponent.toNat, 1)
  else (x.mantissa, Nat.pow 2 (-x.exponent).toNat)

/-- The product, rounded. -/
def mul (x y : Binary64) : Option Binary64 :=
  let (a, b) := x.toRatio
  let (c, d) := y.toRatio
  ofRatio (x.negative != y.negative) (a * c) (b * d)

/-- The quotient by a number other than zero, rounded. -/
def div (x y : Binary64) : Option Binary64 :=
  let (a, b) := x.toRatio
  let (c, d) := y.toRatio
  ofRatio (x.negative != y.negative) (a * d) (b * c)

end Binary64

end TableIndex
