import TableIndex.Number.Binary64

/-!
# The shortest decimal that reads back

`shortest` finds the fewest decimal digits that only this double is nearest to, and of those the ones
nearest to it. `Binary64.text` writes them: positional from `1e-5` up to below `1e16`, always with a
digit on both sides of the point, and otherwise with an exponent that carries its sign.
-/

namespace TableIndex.Binary64

/-- The reals that round to a positive double, over a common denominator: its value, the two ends of
the interval, and whether the ends belong to it (they do iff the mantissa is even). -/
structure Interval where
  low : Nat
  value : Nat
  high : Nat
  den : Nat
  closed : Bool

/-- The interval of a positive double. Below a power of two the next double is half as far away. -/
def interval (x : Binary64) : Interval :=
  let m := x.mantissa
  let below := if m = leastNormal ∧ leastExponent < x.exponent then 1 else 2
  let (up, den) :=
    if 2 ≤ x.exponent then (Nat.pow 2 (x.exponent - 2).toNat, 1)
    else (1, Nat.pow 2 (2 - x.exponent).toNat)
  { low := (4 * m - below) * up, value := 4 * m * up, high := (4 * m + 2) * up
    den := den, closed := m % 2 == 0 }

/-- Whether `num / den` lies in the interval. -/
def Interval.holds (i : Interval) (num den : Nat) : Bool :=
  let n := num * i.den
  if i.closed then i.low * den ≤ n && n ≤ i.high * den else i.low * den < n && n < i.high * den

/-- The number of decimal digits of a whole number. -/
def digitCount (n : Nat) : Nat := (Nat.toDigits 10 n).length

/-- The decimal exponent of the first digit of `num / den`. -/
def firstDigitExponent (num den : Nat) : Int :=
  if den ≤ num then (digitCount (num / den) : Int) - 1
  else
    let e : Int := (digitCount num : Int) - (digitCount den : Int)
    if den ≤ num * Nat.pow 10 (-e).toNat then e else e - 1

/-- A whole number of units of `10 ^ unit`, as a ratio. -/
def unitRatio (count : Nat) (unit : Int) : Nat × Nat :=
  if 0 ≤ unit then (count * Nat.pow 10 unit.toNat, 1) else (count, Nat.pow 10 (-unit).toNat)

/-- The multiple of `10 ^ unit` in the interval that is nearest to its value; a tie goes to the even
one. Only the two neighbours of the value can be meant. -/
def Interval.onGrid? (i : Interval) (unit : Int) : Option Nat :=
  let (un, ud) := unitRatio 1 unit
  let d := i.value * ud / (i.den * un)
  let inside (k : Nat) : Bool := let (n, m) := unitRatio k unit; i.holds n m
  let twice := 2 * (i.value * ud % (i.den * un))
  match inside d, inside (d + 1) with
  | false, false => none
  | true, false => some d
  | false, true => some (d + 1)
  | true, true =>
    if twice < i.den * un then some d
    else if i.den * un < twice then some (d + 1)
    else some (d + d % 2)

/-- Tries ever finer grids; seventeen digits always suffice. -/
def Interval.search (i : Interval) (unit : Int) : Nat → Nat × Int
  | 0 => (i.value / i.den, 0)
  | fuel + 1 =>
    match i.onGrid? unit with
    | some k => (k, unit)
    | none => i.search (unit - 1) fuel

/-- The digits without the zeros at their end. -/
def dropZeros (digits : List Char) : List Char := (digits.reverse.dropWhile (· == '0')).reverse

/-- The shortest digits of a positive double, and the decimal exponent of the first of them. -/
def shortest (x : Binary64) : List Char × Int :=
  let i := x.interval
  let (k, unit) := i.search (firstDigitExponent i.value i.den) 18
  let digits := Nat.toDigits 10 k
  (dropZeros digits, unit + digits.length - 1)

/-- How decimals are written: the exponents of the first digit that are written positionally. -/
structure Layout where
  leastPositional : Int
  greatestPositional : Int

/-- Numbers are positional from `0.00001` up to below `10 ^ 16`. -/
def layout : Layout := { leastPositional := -5, greatestPositional := 15 }

/-- Writes digits whose first one stands for a multiple of `10 ^ e`. -/
def Layout.write (l : Layout) (digits : List Char) (e : Int) : List Char :=
  if l.leastPositional ≤ e ∧ e ≤ l.greatestPositional then
    if e < 0 then ['0', '.'] ++ List.replicate (-e - 1).toNat '0' ++ digits
    else
      let whole := digits.take (e.toNat + 1)
      let rest := digits.drop (e.toNat + 1)
      whole ++ List.replicate (e.toNat + 1 - whole.length) '0' ++ ['.']
        ++ (if rest.isEmpty then ['0'] else rest)
  else
    let rest := digits.drop 1
    digits.take 1 ++ (if rest.isEmpty then [] else '.' :: rest)
      ++ ['e', if e < 0 then '-' else '+'] ++ Nat.toDigits 10 e.natAbs

/-- The text of a double. -/
def text (x : Binary64) : List Char :=
  (if x.negative then ['-'] else [])
    ++ if x.isZero then ['0', '.', '0'] else let (ds, e) := x.shortest; layout.write ds e

end TableIndex.Binary64
