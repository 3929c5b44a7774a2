import Mathlib.Algebra.Order.Floor.Semifield
import Mathlib.Data.Nat.Cast.Order.Field
import Mathlib.Data.Rat.Floor
import TableIndex.Proofs.Number.Digits
import TableIndex.Proofs.Number.Rounding

/-!
# The shortest decimal reads back

The digits that a double is written with lie in its interval, so it is the double nearest to them.
-/

namespace TableIndex.Binary64

variable {x : Binary64} {num den n d k m count : Nat} {e unit : Int} {q : ℚ} {i : Interval}

/-! ## The interval -/

/-- The powers of two in the fields of an interval stand for a quarter of the last place. -/
theorem interval_eq (x : Binary64) : ∃ up den : Nat, 0 < den ∧ 4 * (up / den : ℚ) = 2 ^ x.exponent ∧
    x.interval = { low := (4 * x.mantissa - x.below) * up, value := 4 * x.mantissa * up,
                   high := (4 * x.mantissa + 2) * up, den := den, closed := x.mantissa % 2 == 0 } := by
  have hquarter : (4 : ℚ) * 2 ^ (x.exponent - 2) = 2 ^ x.exponent := by
    rw [zpow_sub₀ two_ne_zero]
    norm_num
    ring
  by_cases h : 2 ≤ x.exponent
  · refine ⟨2 ^ (x.exponent - 2).toNat, 1, one_pos, ?_, ?_⟩
    · rw [← hquarter, ← pow_eq_zpow (Int.toNat_of_nonneg (a := x.exponent - 2) (by omega))]
      push_cast
      rw [div_one]
    · simp only [interval, if_pos h, below, Nat.pow_eq]
  · refine ⟨1, 2 ^ (2 - x.exponent).toNat, Nat.pow_pos two_pos, ?_, ?_⟩
    · have hneg := pow_eq_zpow (a := 2) (Int.toNat_of_nonneg (a := 2 - x.exponent) (by omega))
      push_cast
      rw [hneg, one_div, ← zpow_neg, neg_sub, hquarter]
    · simp only [interval, if_neg h, below, Nat.pow_eq]

theorem interval_den_pos (x : Binary64) : 0 < x.interval.den := by
  obtain ⟨up, den, hden, -, h⟩ := x.interval_eq
  rw [h]
  exact hden

theorem interval_value_div (x : Binary64) :
    (x.interval.value / x.interval.den : ℚ) = x.mantissa * 2 ^ x.exponent := by
  obtain ⟨up, den, hden, hup, h⟩ := x.interval_eq
  rw [h, ← hup]
  push_cast
  ring

theorem holds_iff (hm : 0 < x.mantissa) (hd : 0 < d) : x.interval.holds n d = true ↔ x.Nearest (n / d) := by
  obtain ⟨up, den, hden, hup, h⟩ := x.interval_eq
  have hdenq : (0 : ℚ) < den := by exact_mod_cast hden
  have hdq : (0 : ℚ) < d := by exact_mod_cast hd
  have hscale (c : Nat) : (c : ℚ) * 2 ^ x.exponent = 4 * (c * up / den) := by
    rw [← hup]
    ring
  have hfrom (c : Nat) : c * up * d ≤ n * den ↔ (c : ℚ) * 2 ^ x.exponent ≤ 4 * (n / d) := by
    rw [hscale, mul_le_mul_iff_right₀ four_pos, div_le_div_iff₀ hdenq hdq]
    exact_mod_cast Iff.rfl
  have hto (c : Nat) : n * den ≤ c * up * d ↔ 4 * (n / d : ℚ) ≤ c * 2 ^ x.exponent := by
    rw [hscale, mul_le_mul_iff_right₀ four_pos, div_le_div_iff₀ hdq hdenq]
    exact_mod_cast Iff.rfl
  have hlow : ((4 * x.mantissa - x.below : Nat) : ℚ) = 4 * x.mantissa - x.below := by
    have := x.below_le
    push_cast [show x.below ≤ 4 * x.mantissa by omega]
    rfl
  have hhigh : ((4 * x.mantissa + 2 : Nat) : ℚ) = 4 * x.mantissa + 2 := by push_cast; rfl
  rw [h, Interval.holds]
  by_cases heven : x.mantissa % 2 = 0
  · simp only [heven, beq_self_eq_true, if_true, Bool.and_eq_true, decide_eq_true_eq, hfrom, hto, hlow, hhigh]
    exact ⟨fun h => ⟨h.1, h.2, fun hodd => by omega⟩, fun h => ⟨h.low, h.high⟩⟩
  · simp only [beq_eq_false_iff_ne.mpr heven, Bool.false_eq_true, if_false, Bool.and_eq_true, decide_eq_true_eq,
      ← not_le, hfrom, hto, hlow, hhigh]
    simp only [not_le]
    exact ⟨fun h => ⟨h.1.le, h.2.le, fun _ => h⟩, fun h => h.odd (by omega)⟩

/-! ## The search -/

theorem unitRatio_snd_pos (count : Nat) (unit : Int) : 0 < (unitRatio count unit).2 := by
  rw [unitRatio]
  split
  · exact one_pos
  · exact Nat.pow_pos (by decide)

theorem unitRatio_div (count : Nat) (unit : Int) :
    ((unitRatio count unit).1 / (unitRatio count unit).2 : ℚ) = count * 10 ^ unit := by
  rw [unitRatio]
  split
  case isTrue h =>
    rw [← pow_eq_zpow (Int.toNat_of_nonneg h), Nat.pow_eq]
    push_cast
    rw [div_one]
  case isFalse h =>
    have hneg := pow_eq_zpow (a := 10) (Int.toNat_of_nonneg (a := -unit) (by omega))
    rw [Nat.pow_eq]
    push_cast
    rw [hneg, zpow_neg, div_inv_eq_mul]

theorem Interval.holds_of_onGrid? (h : i.onGrid? unit = some count) :
    i.holds (unitRatio count unit).1 (unitRatio count unit).2 = true := by
  simp only [onGrid?] at h
  split at h
  case h_1 => cases h
  case h_2 hd _ =>
    cases h
    exact hd
  case h_3 _ hd =>
    cases h
    exact hd
  case h_4 hd hd' =>
    split at h
    · cases h
      exact hd
    · split at h
      · cases h
        exact hd'
      · cases h
        rcases Nat.mod_two_eq_zero_or_one (i.value * (unitRatio 1 unit).2 / (i.den * (unitRatio 1 unit).1)) with h | h
        · rw [h]
          exact hd
        · rw [h]
          exact hd'

theorem Interval.search_holds (fuel : Nat) {steps : Nat} (hsteps : steps < fuel)
    (h : (i.onGrid? (unit - steps)).isSome = true) :
    i.holds (unitRatio (i.search unit fuel).1 (i.search unit fuel).2).1
      (unitRatio (i.search unit fuel).1 (i.search unit fuel).2).2 = true := by
  induction fuel generalizing unit steps with
  | zero => cases hsteps
  | succ fuel ih =>
      rw [search]
      cases hgrid : i.onGrid? unit with
      | some k => exact holds_of_onGrid? hgrid
      | none =>
          cases steps with
          | zero => simp [hgrid] at h
          | succ steps =>
              refine ih (Nat.lt_of_succ_lt_succ hsteps) ?_
              rwa [sub_sub, add_comm, ← Nat.cast_succ]

/-! ## The first digit -/

theorem lt_pow_digitCount (n : Nat) : n < 10 ^ digitCount n :=
  (Nat.length_toDigits_le_iff (by decide) (List.length_pos_iff.mpr Nat.toDigits_ne_nil)).mp (Nat.le_refl _)

theorem pow_le_of_digitCount (hn : 0 < n) (h : digitCount n = k + 1) : 10 ^ k ≤ n := by
  cases k with
  | zero => exact hn
  | succ k =>
      by_contra hlt
      have := (Nat.length_toDigits_le_iff (b := 10) (k := k + 1) (by decide) (Nat.succ_pos k)).mpr (not_le.mp hlt)
      rw [digitCount] at h
      omega

theorem digitCount_pos (n : Nat) : 0 < digitCount n := List.length_pos_iff.mpr Nat.toDigits_ne_nil

theorem pow_firstDigitExponent_le (hn : 0 < num) (hd : 0 < den) :
    (10 : ℚ) ^ firstDigitExponent num den ≤ num / den := by
  have hdq : (0 : ℚ) < den := by exact_mod_cast hd
  rw [firstDigitExponent]
  split
  case isTrue h =>
    obtain ⟨k, hk⟩ := Nat.exists_eq_succ_of_ne_zero (digitCount_pos (num / den)).ne'
    have hle : ((10 ^ k : Nat) : ℚ) ≤ (num / den : Nat) := by
      exact_mod_cast pow_le_of_digitCount (Nat.div_pos h hd) hk
    rw [hk, Nat.cast_succ, add_sub_cancel_right, zpow_natCast]
    push_cast at hle
    exact hle.trans Nat.cast_div_le
  case isFalse h =>
    obtain ⟨a, ha⟩ := Nat.exists_eq_succ_of_ne_zero (digitCount_pos num).ne'
    have hnum : (10 : ℚ) ^ a ≤ num := by exact_mod_cast pow_le_of_digitCount hn ha
    have hden : (den : ℚ) ≤ 10 ^ digitCount den := by exact_mod_cast (lt_pow_digitCount den).le
    have hle : digitCount num ≤ digitCount den :=
      (Nat.length_toDigits_le_iff (by decide) (digitCount_pos den)).mpr
        ((not_le.mp h).trans (lt_pow_digitCount den))
    dsimp only
    split
    case isTrue htest =>
      have htest : (den : ℚ) ≤ num * 10 ^ (-((digitCount num : Int) - digitCount den)) := by
        rw [← pow_eq_zpow (Int.toNat_of_nonneg (by omega))]
        exact_mod_cast htest
      rwa [zpow_neg, ← div_eq_mul_inv, le_div_comm₀ hdq (by positivity)] at htest
    case isFalse =>
      rw [le_div_iff₀ hdq, ha, Nat.cast_succ, show (a + 1 - digitCount den - 1 : Int) = a - digitCount den by ring,
        zpow_sub₀ (by norm_num), zpow_natCast, zpow_natCast]
      calc (10 : ℚ) ^ a / 10 ^ digitCount den * den ≤ 10 ^ a / 10 ^ digitCount den * 10 ^ digitCount den := by gcongr
        _ = 10 ^ a := div_mul_cancel₀ _ (by positivity)
        _ ≤ num := hnum

/-! ## Seventeen digits -/

/-- The lower one of the two multiples of a unit around the value of an interval. -/
def Interval.grid (i : Interval) (unit : Int) : Nat :=
  i.value * (unitRatio 1 unit).2 / (i.den * (unitRatio 1 unit).1)

theorem Interval.grid_bounds (i : Interval) (hd : 0 < i.den) (unit : Int) :
    i.grid unit * 10 ^ unit ≤ (i.value / i.den : ℚ) ∧ (i.value / i.den : ℚ) < (i.grid unit + 1) * 10 ^ unit := by
  have hunit : (0 : ℚ) < 10 ^ unit := by positivity
  have hgrid : i.grid unit = ⌊(i.value / i.den : ℚ) / 10 ^ unit⌋₊ := by
    rw [grid, ← Nat.floor_div_eq_div (K := ℚ), Nat.cast_mul, Nat.cast_mul, ← div_mul_div_comm,
      ← inv_div ((unitRatio 1 unit).1 : ℚ), unitRatio_div, Nat.cast_one, one_mul, ← div_eq_mul_inv]
  rw [hgrid, ← le_div_iff₀ hunit, ← div_lt_iff₀ hunit]
  exact ⟨Nat.floor_le (by positivity), Nat.lt_floor_add_one _⟩

/-- Seventeen digits are enough: the multiple of a unit that small above the double is still in its interval. -/
theorem onGrid?_isSome (unit : Int) (hx : x.Proper) (hm : 0 < x.mantissa)
    (h : (10 : ℚ) ^ (unit + 17) ≤ x.mantissa * 2 ^ x.exponent) : (x.interval.onGrid? unit).isSome = true := by
  have hu : (0 : ℚ) < 2 ^ x.exponent := by positivity
  obtain ⟨hlow, hhigh⟩ := x.interval.grid_bounds x.interval_den_pos unit
  rw [interval_value_div] at hlow hhigh
  -- The unit is less than half the last place, for `2 ^ 54 < 10 ^ 17`.
  have hsmall : 2 * (10 : ℚ) ^ unit < 2 ^ x.exponent := by
    have hm : (x.mantissa : ℚ) < 2 * leastNormal := by exact_mod_cast hx.mantissa_lt
    have hm := mul_lt_mul_of_pos_right hm hu
    rw [zpow_add₀ (by norm_num)] at h
    norm_num [leastNormal] at h hm
    linarith
  have habove : x.interval.holds (unitRatio (x.interval.grid unit + 1) unit).1
      (unitRatio (x.interval.grid unit + 1) unit).2 = true := by
    rw [holds_iff hm (unitRatio_snd_pos _ _), unitRatio_div]
    have hb := mul_nonneg (by exact_mod_cast x.below.zero_le : (0 : ℚ) ≤ x.below) hu.le
    push_cast
    have hlt : (4 * x.mantissa - x.below) * 2 ^ x.exponent < 4 * ((x.interval.grid unit + 1) * (10 : ℚ) ^ unit) := by
      linarith
    have hgt : 4 * ((x.interval.grid unit + 1) * (10 : ℚ) ^ unit) < (4 * x.mantissa + 2) * 2 ^ x.exponent := by
      linarith
    exact ⟨hlt.le, hgt.le, fun _ => ⟨hlt, hgt⟩⟩
  simp only [Interval.grid] at habove
  simp only [Interval.onGrid?, habove]
  split
  case h_1 h => cases h
  case h_2 h => cases h
  case h_3 => rfl
  case h_4 =>
    split
    · rfl
    · split <;> rfl

theorem Nearest.pos_of_ratio (h : x.Nearest (count * 10 ^ unit)) (hm : 0 < x.mantissa) : 0 < count :=
  Nat.cast_pos.mp ((mul_pos_iff_of_pos_right (by positivity)).mp (h.pos hm))

theorem search_nearest (hx : x.Proper) (hm : 0 < x.mantissa) :
    x.Nearest ((x.interval.search (firstDigitExponent x.interval.value x.interval.den) 18).1 *
      10 ^ (x.interval.search (firstDigitExponent x.interval.value x.interval.den) 18).2) := by
  have hvalue : 0 < x.interval.value := by
    obtain ⟨up, den, -, hup, h⟩ := x.interval_eq
    have hne : up ≠ 0 := by
      rintro rfl
      have : (2 : ℚ) ^ x.exponent ≠ 0 := by positivity
      simp [← hup] at this
    rw [h]
    positivity
  have hfirst := pow_firstDigitExponent_le hvalue x.interval_den_pos
  rw [interval_value_div] at hfirst
  have hgrid := onGrid?_isSome (firstDigitExponent x.interval.value x.interval.den - (17 : Nat)) hx hm
    (by rwa [Nat.cast_ofNat, sub_add_cancel])
  have hholds := Interval.search_holds 18 (by decide) hgrid
  rwa [holds_iff hm (unitRatio_snd_pos _ _), unitRatio_div] at hholds

theorem shortest_spec (hx : x.Proper) (hm : 0 < x.mantissa) : Json.Significant x.shortest.1 ∧
    x.Nearest (Json.digitsValue x.shortest.1 * 10 ^ (x.shortest.2 + 1 - x.shortest.1.length)) := by
  have hnear := search_nearest hx hm
  rw [shortest]
  dsimp only
  generalize x.interval.search (firstDigitExponent x.interval.value x.interval.den) 18 = found at *
  obtain ⟨count, unit⟩ := found
  have hcount := hnear.pos_of_ratio hm
  obtain ⟨z, hz⟩ := Json.exists_append_zeros (Nat.toDigits 10 count)
  refine ⟨(Json.significant_toDigits hcount).dropZeros, ?_⟩
  have hvalue : count = Json.digitsValue (dropZeros (Nat.toDigits 10 count)) * 10 ^ z := by
    have := congrArg Json.digitsValue hz
    rwa [Json.digitsValue_toDigits, Json.digitsValue_append, Json.digitsValue_zeros, List.length_replicate,
      Nat.add_zero] at this
  have hunit : unit + (Nat.toDigits 10 count).length - 1 + 1 - (dropZeros (Nat.toDigits 10 count)).length
      = unit + z := by
    have := congrArg List.length hz
    rw [List.length_append, List.length_replicate] at this
    omega
  rw [hunit, zpow_add₀ (by norm_num), mul_comm ((10 : ℚ) ^ unit), ← mul_assoc, zpow_natCast]
  have hvalue : (count : ℚ) = Json.digitsValue (dropZeros (Nat.toDigits 10 count)) * 10 ^ z := by
    exact_mod_cast hvalue
  rwa [← hvalue]

end TableIndex.Binary64
