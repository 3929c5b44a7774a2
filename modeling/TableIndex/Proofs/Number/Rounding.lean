import Mathlib.Algebra.Order.Field.Power
import Mathlib.Algebra.Order.Field.Rat
import Mathlib.Tactic.FieldSimp
import Mathlib.Tactic.Linarith
import Mathlib.Tactic.Positivity
import Mathlib.Tactic.Ring
import TableIndex.Number.Shortest

/-!
# The double nearest to a ratio

A ratio is rounded to the double in whose interval it lies.
-/

namespace TableIndex.Binary64

variable {x y : Binary64} {negative : Bool} {num den n d k m : Nat} {e : Int} {q : ℚ}

/-- What a double made by this library satisfies. -/
structure Proper (x : Binary64) : Prop where
  mantissa_lt : x.mantissa < 2 * leastNormal
  leastExponent_le : leastExponent ≤ x.exponent
  le_greatestExponent : x.exponent ≤ greatestExponent
  normal : leastNormal ≤ x.mantissa ∨ x.exponent = leastExponent

/-- How far the interval of a double goes down, in quarters of its last place. -/
def below (x : Binary64) : Nat := if x.mantissa = leastNormal ∧ leastExponent < x.exponent then 1 else 2

/-- `q` is as near to the double as to any other; at the same distance from two, it belongs to the even one. -/
structure Nearest (x : Binary64) (q : ℚ) : Prop where
  low : (4 * x.mantissa - x.below) * 2 ^ x.exponent ≤ 4 * q
  high : 4 * q ≤ (4 * x.mantissa + 2) * 2 ^ x.exponent
  odd : x.mantissa % 2 = 1 →
    (4 * x.mantissa - x.below) * 2 ^ x.exponent < 4 * q ∧ 4 * q < (4 * x.mantissa + 2) * 2 ^ x.exponent

theorem pow_eq_zpow {a : ℚ} (h : (n : Int) = e) : a ^ n = a ^ e := by rw [← h, zpow_natCast]

theorem pos_of_div_pos (hd : 0 < den) (h : 0 < (num / den : ℚ)) : 0 < num :=
  Nat.cast_pos.mp ((div_pos_iff_of_pos_right (Nat.cast_pos.mpr hd)).mp h)

/-! ## The steps of rounding -/

theorem roundDiv_eq (hd : 0 < d) (hlow : 2 * k * d ≤ 2 * n + d) (hhigh : 2 * n ≤ (2 * k + 1) * d)
    (hodd : k % 2 = 1 → 2 * k * d < 2 * n + d ∧ 2 * n < (2 * k + 1) * d) : roundDiv n d = k := by
  have hn : d * (n / d) + n % d = n := Nat.div_add_mod n d
  have hr : n % d < d := Nat.mod_lt n hd
  rw [roundDiv]
  generalize n / d = a at *
  generalize n % d = r at *
  -- The quotient is `k` or the number below it; between them only a tie asks for the parity.
  have hge : a < k + 1 := Nat.lt_of_mul_lt_mul_left (a := d) (by linarith)
  have hle : k < a + 2 := Nat.lt_of_mul_lt_mul_left (a := d) (by linarith)
  obtain rfl | rfl : k = a ∨ k = a + 1 := by omega
  · have hup : ¬d < 2 * r := by linarith
    rw [if_neg hup]
    split
    · rfl
    · have : k % 2 = 0 := by
        by_contra h
        linarith [hodd (by omega)]
      rw [this, Nat.add_zero]
  · have hdown : ¬2 * r < d := by linarith
    rw [if_neg hdown]
    split
    · rfl
    · have : (a + 1) % 2 = 0 := by
        by_contra h
        linarith [hodd (by omega)]
      omega

theorem scaled_fst_div_snd (num den : Nat) (e : Int) :
    ((scaled num den e).1 : ℚ) / (scaled num den e).2 = num / den / 2 ^ e := by
  rw [scaled]
  split
  case isTrue h =>
    rw [← pow_eq_zpow (Int.toNat_of_nonneg h), Nat.pow_eq]
    push_cast
    rw [div_div]
  case isFalse h =>
    have hneg := pow_eq_zpow (a := 2) (Int.toNat_of_nonneg (a := -e) (by omega))
    rw [← inv_inv ((2 : ℚ) ^ e), ← zpow_neg, ← hneg, Nat.pow_eq]
    push_cast
    rw [div_inv_eq_mul, mul_div_right_comm]

theorem scaled_snd_pos (num : Nat) (hd : 0 < den) (e : Int) : 0 < (scaled num den e).2 := by
  rw [scaled]
  split
  · exact Nat.mul_pos hd (Nat.pow_pos (by decide))
  · exact hd

theorem cast_scaled_snd_pos (num : Nat) (hd : 0 < den) (e : Int) : (0 : ℚ) < (scaled num den e).2 :=
  Nat.cast_pos.mpr (scaled_snd_pos num hd e)

theorem scaled_div_lt_iff (hd : 0 < den) {c : Nat} :
    (scaled num den e).1 / (scaled num den e).2 < c ↔ (num : ℚ) / den < c * 2 ^ e := by
  have hpos := cast_scaled_snd_pos num hd e
  calc (scaled num den e).1 / (scaled num den e).2 < c
      ↔ (scaled num den e).1 < c * (scaled num den e).2 := Nat.div_lt_iff_lt_mul (scaled_snd_pos num hd e)
    _ ↔ ((scaled num den e).1 : ℚ) < c * (scaled num den e).2 := by rw [← Nat.cast_mul, Nat.cast_lt]
    _ ↔ (num : ℚ) / den < c * 2 ^ e := by
      rw [← div_lt_iff₀ hpos, scaled_fst_div_snd, div_lt_iff₀ (by positivity)]

/-- A ratio lies within a factor of two of the ratio of the powers of two below its parts. -/
theorem ratio_log2 (hn : 0 < num) (hd : 0 < den) :
    (2 : ℚ) ^ ((num.log2 : Int) - den.log2 - 1) < num / den ∧
      (num : ℚ) / den < 2 ^ ((num.log2 : Int) - den.log2 + 1) := by
  have hdq : (0 : ℚ) < den := by exact_mod_cast hd
  have hnum : (2 : ℚ) ^ num.log2 ≤ num := by exact_mod_cast Nat.log2_self_le hn.ne'
  have hnum' : (num : ℚ) < 2 ^ (num.log2 + 1) := by exact_mod_cast Nat.lt_log2_self
  have hden : (2 : ℚ) ^ den.log2 ≤ den := by exact_mod_cast Nat.log2_self_le hd.ne'
  have hden' : (den : ℚ) < 2 ^ (den.log2 + 1) := by exact_mod_cast Nat.lt_log2_self
  rw [lt_div_iff₀ hdq, div_lt_iff₀ hdq, zpow_sub_one₀ two_ne_zero, zpow_add_one₀ two_ne_zero, zpow_sub₀ two_ne_zero,
    zpow_natCast, zpow_natCast]
  rw [pow_succ] at hnum' hden'
  have hpos : (0 : ℚ) < 2 ^ num.log2 / 2 ^ den.log2 := by positivity
  have hsplit : (2 : ℚ) ^ num.log2 = 2 ^ num.log2 / 2 ^ den.log2 * 2 ^ den.log2 := by field_simp
  constructor
  · calc (2 : ℚ) ^ num.log2 / 2 ^ den.log2 * 2⁻¹ * den
        < 2 ^ num.log2 / 2 ^ den.log2 * 2⁻¹ * (2 ^ den.log2 * 2) := by gcongr
      _ = 2 ^ num.log2 := by field_simp
      _ ≤ num := hnum
  · calc (num : ℚ) < 2 ^ num.log2 * 2 := hnum'
      _ = 2 ^ num.log2 / 2 ^ den.log2 * 2 * 2 ^ den.log2 := by field_simp
      _ ≤ 2 ^ num.log2 / 2 ^ den.log2 * 2 * den := by gcongr

theorem zpow_add_52 (e : Int) : (2 : ℚ) ^ (e + 52) = leastNormal * 2 ^ e := by
  rw [zpow_add₀ two_ne_zero, mul_comm]
  norm_num [leastNormal]

theorem zpow_add_53 (e : Int) : (2 : ℚ) ^ (e + 53) = 2 * leastNormal * 2 ^ e := by
  rw [zpow_add₀ two_ne_zero, mul_comm]
  norm_num [leastNormal]

theorem normalExponent_spec (hn : 0 < num) (hd : 0 < den) :
    (2 : ℚ) ^ (normalExponent num den + 52) ≤ num / den ∧ (num : ℚ) / den < 2 ^ (normalExponent num den + 53) := by
  obtain ⟨hlow, hhigh⟩ := ratio_log2 hn hd
  simp only [normalExponent, scaled_div_lt_iff hd, ← zpow_add_52]
  -- The exponent tried first is right or one too great.
  split
  case isTrue h => exact ⟨hlow.le.trans' (le_of_eq (by ring_nf)), h.trans_le (le_of_eq (by ring_nf))⟩
  case isFalse h => exact ⟨not_lt.mp h, hhigh.trans_le (le_of_eq (by ring_nf))⟩

theorem normalExponent_eq (hn : 0 < num) (hd : 0 < den) (hlow : (2 : ℚ) ^ (e + 52) ≤ num / den)
    (hhigh : (num : ℚ) / den < 2 ^ (e + 53)) : normalExponent num den = e := by
  obtain ⟨hlow', hhigh'⟩ := normalExponent_spec hn hd
  have hle := (zpow_lt_zpow_iff_right₀ one_lt_two).mp (hlow.trans_lt hhigh')
  have hge := (zpow_lt_zpow_iff_right₀ one_lt_two).mp (hlow'.trans_lt hhigh)
  omega

theorem normalExponent_lt (hn : 0 < num) (hd : 0 < den) (h : (num : ℚ) / den < 2 ^ (e + 52)) :
    normalExponent num den < e := by
  have := (zpow_lt_zpow_iff_right₀ one_lt_two).mp ((normalExponent_spec hn hd).1.trans_lt h)
  omega

theorem roundDiv_scaled (hd : 0 < den) (hlow : (2 * k - 1) * 2 ^ e ≤ 2 * (num / den : ℚ))
    (hhigh : 2 * (num / den : ℚ) ≤ (2 * k + 1) * 2 ^ e)
    (hodd : k % 2 = 1 → (2 * k - 1) * 2 ^ e < 2 * (num / den : ℚ) ∧ 2 * (num / den : ℚ) < (2 * k + 1) * 2 ^ e) :
    roundDiv (scaled num den e).1 (scaled num den e).2 = k := by
  have hpos := cast_scaled_snd_pos num hd e
  have hu : (0 : ℚ) < 2 ^ e := by positivity
  have hq : (num / den : ℚ) = (scaled num den e).1 / (scaled num den e).2 * 2 ^ e := by
    rw [scaled_fst_div_snd, div_mul_cancel₀ _ hu.ne']
  rw [hq, ← mul_assoc] at hlow hhigh hodd
  rw [mul_lt_mul_iff_left₀ hu, mul_lt_mul_iff_left₀ hu, ← mul_div_assoc, lt_div_iff₀ hpos, div_lt_iff₀ hpos] at hodd
  rw [mul_le_mul_iff_left₀ hu, ← mul_div_assoc] at hlow hhigh
  rw [le_div_iff₀ hpos] at hlow
  rw [div_le_iff₀ hpos] at hhigh
  refine roundDiv_eq (scaled_snd_pos num hd e) ?_ (by exact_mod_cast hhigh) fun h => ⟨?_, by exact_mod_cast (hodd h).2⟩
  · have : (2 * k * (scaled num den e).2 : ℚ) ≤ 2 * (scaled num den e).1 + (scaled num den e).2 := by linarith
    exact_mod_cast this
  · have : (2 * k * (scaled num den e).2 : ℚ) < 2 * (scaled num den e).1 + (scaled num den e).2 := by
      linarith [(hodd h).1]
    exact_mod_cast this

/-! ## Rounding -/

theorem ofRatio_eq (hn : 0 < num) (he : max (normalExponent num den) leastExponent = e)
    (hk : roundDiv (scaled num den e).1 (scaled num den e).2 = k) : ofRatio negative num den =
      if k = 2 * leastNormal then
        if greatestExponent < e + 1 then none else some ⟨negative, leastNormal, e + 1⟩
      else if greatestExponent < e then none else some ⟨negative, k, e⟩ := by
  simp only [ofRatio, hn.ne', if_false, he, hk]
  split <;> rfl

/-- What a positive ratio is rounded to: the nearest multiple of the last place, or the power of two that it is
carried over to. -/
theorem ofRatio_eq_some (hn : 0 < num) (h : ofRatio negative num den = some x) :
    ∃ e k, max (normalExponent num den) leastExponent = e ∧
      roundDiv (scaled num den e).1 (scaled num den e).2 = k ∧
      ((k = 2 * leastNormal ∧ e + 1 ≤ greatestExponent ∧ x = ⟨negative, leastNormal, e + 1⟩) ∨
        (k ≠ 2 * leastNormal ∧ e ≤ greatestExponent ∧ x = ⟨negative, k, e⟩)) := by
  refine ⟨_, _, rfl, rfl, ?_⟩
  rw [ofRatio_eq hn rfl rfl] at h
  split at h
  case isTrue hk =>
    split at h
    · cases h
    case isFalse he => exact .inl ⟨hk, not_lt.mp he, (Option.some.inj h).symm⟩
  case isFalse hk =>
    split at h
    · cases h
    case isFalse he => exact .inr ⟨hk, not_lt.mp he, (Option.some.inj h).symm⟩

theorem below_le (x : Binary64) : x.below ≤ 2 := by
  rw [below]
  split <;> decide

theorem Nearest.pos (h : x.Nearest q) (hm : 0 < x.mantissa) : 0 < q := by
  have hb : (x.below : ℚ) ≤ 2 := by exact_mod_cast x.below_le
  have hm : (1 : ℚ) ≤ x.mantissa := by exact_mod_cast hm
  have hlow : 0 < (4 * x.mantissa - x.below : ℚ) * 2 ^ x.exponent := mul_pos (by linarith) (by positivity)
  linarith [h.low]

/-- In the binade of the double, its mantissa is what the ratio is rounded to. -/
theorem Nearest.roundDiv_scaled (h : x.Nearest (num / den)) (hd : 0 < den) :
    roundDiv (scaled num den x.exponent).1 (scaled num den x.exponent).2 = x.mantissa := by
  have hu : (0 : ℚ) < 2 ^ x.exponent := by positivity
  have hb := mul_le_mul_of_nonneg_right (by exact_mod_cast x.below_le : (x.below : ℚ) ≤ 2) hu.le
  refine Binary64.roundDiv_scaled hd ?_ ?_ fun hodd => ⟨?_, ?_⟩
  · linarith [h.low]
  · linarith [h.high]
  · linarith [(h.odd hodd).1]
  · linarith [(h.odd hodd).2]

theorem Nearest.lt (h : x.Nearest q) (hx : x.Proper) : q < 2 ^ (x.exponent + 53) := by
  have hu : (0 : ℚ) < 2 ^ x.exponent := by positivity
  have hm : (x.mantissa + 1 : ℚ) ≤ 2 * leastNormal := by exact_mod_cast hx.mantissa_lt
  have hm := mul_le_mul_of_nonneg_right hm hu.le
  rw [zpow_add_53]
  linarith [h.high]

/-- Below its binade, a double has only what is rounded up to the power of two that it is. -/
theorem Nearest.of_lt (h : x.Nearest q) (hx : x.Proper) (hlt : q < 2 ^ (x.exponent + 52))
    (hne : x.exponent ≠ leastExponent) :
    x.mantissa = leastNormal ∧ (4 * leastNormal - 1) * 2 ^ x.exponent ≤ 4 * q := by
  have hu : (0 : ℚ) < 2 ^ x.exponent := by positivity
  have hlow := h.low
  have hm : x.mantissa = leastNormal := by
    by_contra hm
    have hgt := Nat.lt_of_le_of_ne (hx.normal.resolve_right hne) (Ne.symm hm)
    have hgt : (leastNormal + 1 : ℚ) ≤ x.mantissa := by exact_mod_cast hgt
    have hgt := mul_le_mul_of_nonneg_right hgt hu.le
    have hb := mul_le_mul_of_nonneg_right (by exact_mod_cast x.below_le : (x.below : ℚ) ≤ 2) hu.le
    rw [zpow_add_52] at hlt
    linarith
  refine ⟨hm, ?_⟩
  rwa [below, if_pos ⟨hm, lt_of_le_of_ne hx.leastExponent_le (Ne.symm hne)⟩, hm, Nat.cast_one] at hlow

theorem Nearest.ofRatio_of_binade (h : x.Nearest (num / den)) (hx : x.Proper) (hn : 0 < num) (hd : 0 < den)
    (hbinade : (2 : ℚ) ^ (x.exponent + 52) ≤ num / den ∨ x.exponent = leastExponent) :
    ofRatio x.negative num den = some x := by
  have he : max (normalExponent num den) leastExponent = x.exponent := by
    by_cases hge : (2 : ℚ) ^ (x.exponent + 52) ≤ num / den
    · rw [normalExponent_eq hn hd hge (h.lt hx), max_eq_left hx.leastExponent_le]
    · have hsub := normalExponent_lt hn hd (not_le.mp hge)
      have hleast := hbinade.resolve_left hge
      rw [max_eq_right (hleast ▸ hsub).le, hleast]
  rw [ofRatio_eq hn he (h.roundDiv_scaled hd), if_neg hx.mantissa_lt.ne, if_neg (not_lt.mpr hx.le_greatestExponent)]

/-- The ratio is rounded in the binade below, where it is carried over. -/
theorem Nearest.ofRatio_of_lt (h : x.Nearest (num / den)) (hx : x.Proper) (hn : 0 < num) (hd : 0 < den)
    (hbelow : (num / den : ℚ) < 2 ^ (x.exponent + 52)) (hne : x.exponent ≠ leastExponent) :
    ofRatio x.negative num den = some x := by
  obtain ⟨hm, hnear⟩ := h.of_lt hx hbelow hne
  have hleast := hx.leastExponent_le
  have hgreatest := hx.le_greatestExponent
  have hu : (0 : ℚ) < 2 ^ (x.exponent - 1) := by positivity
  have hhalf : (2 : ℚ) ^ x.exponent = 2 * 2 ^ (x.exponent - 1) := by
    rw [zpow_sub_one₀ two_ne_zero, mul_comm, mul_assoc, inv_mul_cancel₀ two_ne_zero, mul_one]
  rw [zpow_add_52] at hbelow
  rw [hhalf] at hbelow hnear
  have he : max (normalExponent num den) leastExponent = x.exponent - 1 := by
    rw [normalExponent_eq (e := x.exponent - 1) hn hd ?_ ?_, max_eq_left (by omega)]
    · rw [zpow_add_52]
      have := mul_le_mul_of_nonneg_right (by norm_num [leastNormal] : (1 : ℚ) ≤ leastNormal) hu.le
      linarith
    · rw [zpow_add_53]
      linarith
  have hcarry : roundDiv (scaled num den (x.exponent - 1)).1 (scaled num den (x.exponent - 1)).2
      = 2 * leastNormal := by
    refine Binary64.roundDiv_scaled hd ?_ ?_ fun hodd => absurd hodd (by decide)
    · push_cast
      linarith
    · push_cast
      linarith
  rw [ofRatio_eq hn he hcarry, if_pos rfl, if_neg (by omega), ← hm, Int.sub_add_cancel]

theorem ofRatio_of_nearest (hx : x.Proper) (hm : 0 < x.mantissa) (hd : 0 < den) (h : x.Nearest (num / den)) :
    ofRatio x.negative num den = some x := by
  have hn := pos_of_div_pos hd (h.pos hm)
  by_cases hbinade : (2 : ℚ) ^ (x.exponent + 52) ≤ num / den ∨ x.exponent = leastExponent
  · exact h.ofRatio_of_binade hx hn hd hbinade
  · obtain ⟨hbelow, hne⟩ := not_or.mp hbinade
    exact h.ofRatio_of_lt hx hn hd (not_le.mp hbelow) hne

/-! ## What rounding gives -/

theorem zero_proper (negative : Bool) : (zero negative).Proper :=
  ⟨show 0 < 2 * leastNormal by decide, Int.le_refl _, show leastExponent ≤ greatestExponent by decide, .inr rfl⟩

theorem le_roundDiv (n d : Nat) : n / d ≤ roundDiv n d := by
  rw [roundDiv]
  split_ifs <;> omega

theorem roundDiv_le (n d : Nat) : roundDiv n d ≤ n / d + 1 := by
  rw [roundDiv]
  split_ifs <;> omega

theorem ofRatio_proper (hd : 0 < den) (h : ofRatio negative num den = some x) : x.Proper := by
  by_cases hn : num = 0
  · rw [ofRatio, if_pos hn, Option.some.injEq] at h
    exact h ▸ zero_proper negative
  · have hn := Nat.pos_of_ne_zero hn
    obtain ⟨hlow, hhigh⟩ := normalExponent_spec hn hd
    obtain ⟨e, k, he, hk, hx⟩ := ofRatio_eq_some hn h
    have hleast : leastExponent ≤ e := he ▸ le_max_right _ _
    rcases hx with ⟨-, hgreatest, rfl⟩ | ⟨hne, hgreatest, rfl⟩
    · exact ⟨show leastNormal < 2 * leastNormal by decide, by dsimp only; omega, hgreatest, .inl (Nat.le_refl _)⟩
    · have hbelow : (scaled num den e).1 / (scaled num den e).2 < 2 * leastNormal := by
        have hle := he ▸ le_max_left (normalExponent num den) leastExponent
        rw [scaled_div_lt_iff hd]
        push_cast
        rw [← zpow_add_53]
        exact hhigh.trans_le (zpow_le_zpow_right₀ one_le_two (by omega))
      have hround := hk ▸ roundDiv_le (scaled num den e).1 (scaled num den e).2
      refine ⟨by dsimp only; omega, hleast, hgreatest, ?_⟩
      rcases max_choice (normalExponent num den) leastExponent with hmax | hmax
      · rw [← hmax, he, zpow_add_52, ← not_lt, ← scaled_div_lt_iff hd, not_lt] at hlow
        exact .inl (hlow.trans (hk ▸ le_roundDiv _ _))
      · exact .inr (he ▸ hmax)

theorem roundDiv_le_of_le (hd : 0 < d) (h : n ≤ d * k) : roundDiv n d ≤ k := by
  have hn := Nat.div_add_mod n d
  rcases Nat.lt_or_eq_of_le (Nat.div_le_of_le_mul h) with hlt | heq
  · exact (roundDiv_le n d).trans hlt
  · rw [heq] at hn
    have hzero : n % d = 0 := by omega
    rw [roundDiv, heq, hzero, Nat.mul_zero, if_pos hd]

/-- No ratio up to the greatest double is beyond the doubles. -/
theorem exists_ofRatio (negative : Bool) (hn : 0 < num) (hd : 0 < den)
    (h : (num / den : ℚ) ≤ (2 * leastNormal - 1) * 2 ^ greatestExponent) : ∃ x, ofRatio negative num den = some x := by
  have hu : (0 : ℚ) < 2 ^ greatestExponent := by positivity
  have hexponent : normalExponent num den < greatestExponent + 1 := by
    refine normalExponent_lt hn hd ?_
    rw [add_assoc, show (1 + 52 : Int) = 53 from rfl, zpow_add_53]
    linarith
  have hle : max (normalExponent num den) leastExponent ≤ greatestExponent :=
    max_le (Int.lt_add_one_iff.mp hexponent) (by decide)
  rw [ofRatio_eq hn rfl rfl]
  generalize max (normalExponent num den) leastExponent = e at *
  split
  case isTrue hk =>
    have hne : e ≠ greatestExponent := by
      rintro rfl
      have hround : roundDiv (scaled num den greatestExponent).1 (scaled num den greatestExponent).2
          ≤ 2 * leastNormal - 1 := by
        refine roundDiv_le_of_le (scaled_snd_pos num hd _) ?_
        have hpos := cast_scaled_snd_pos num hd greatestExponent
        have hgrid : ((scaled num den greatestExponent).1 : ℚ)
            ≤ (scaled num den greatestExponent).2 * (2 * leastNormal - 1 : Nat) := by
          rw [mul_comm, ← div_le_iff₀ hpos, scaled_fst_div_snd, div_le_iff₀ hu]
          exact_mod_cast h
        exact_mod_cast hgrid
      have hpos : 0 < leastNormal := by decide
      omega
    exact ⟨_, if_neg (by omega)⟩
  case isFalse => exact ⟨_, if_neg (not_lt.mpr hle)⟩

theorem ofRatio_pos (hd : 0 < den) (hq : 1 ≤ (num / den : ℚ)) (h : ofRatio negative num den = some x) :
    0 < x.mantissa := by
  have hn := pos_of_div_pos hd (zero_lt_one.trans_le hq)
  have hlow := (normalExponent_spec hn hd).1
  obtain ⟨e, k, he, hk, hx⟩ := ofRatio_eq_some hn h
  have hfloor : 0 < (scaled num den e).1 / (scaled num den e).2 := by
    rw [Nat.pos_iff_ne_zero, ne_eq, ← Nat.lt_one_iff, scaled_div_lt_iff hd, not_lt, Nat.cast_one, one_mul, ← he]
    rcases max_choice (normalExponent num den) leastExponent with hmax | hmax
    · rw [hmax]
      exact (zpow_le_zpow_right₀ one_le_two (by omega)).trans hlow
    · rw [hmax]
      exact (zpow_le_one_of_nonpos₀ one_le_two (by decide)).trans hq
  rcases hx with ⟨-, -, rfl⟩ | ⟨-, -, rfl⟩
  · exact show 0 < leastNormal by decide
  · exact hfloor.trans_le (hk ▸ le_roundDiv _ _)

theorem Proper.neg (hx : x.Proper) : x.neg.Proper :=
  ⟨hx.mantissa_lt, hx.leastExponent_le, hx.le_greatestExponent, hx.normal⟩

theorem toRatio_snd_pos (x : Binary64) : 0 < x.toRatio.2 := by
  rw [toRatio]
  split
  · exact one_pos
  · exact Nat.pow_pos two_pos

theorem toRatio_fst_pos (hm : 0 < x.mantissa) : 0 < x.toRatio.1 := by
  rw [toRatio]
  split
  · exact Nat.mul_pos hm (Nat.pow_pos two_pos)
  · exact hm

theorem mul_proper {z : Binary64} (h : x.mul y = some z) : z.Proper :=
  ofRatio_proper (Nat.mul_pos x.toRatio_snd_pos y.toRatio_snd_pos) h

theorem div_proper {z : Binary64} (hm : 0 < y.mantissa) (h : x.div y = some z) : z.Proper :=
  ofRatio_proper (Nat.mul_pos x.toRatio_snd_pos (toRatio_fst_pos hm)) h

end TableIndex.Binary64
