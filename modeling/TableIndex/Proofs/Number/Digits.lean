import Mathlib.Algebra.Ring.Nat
import TableIndex.Json.Form
import TableIndex.Json.Printer

/-!
# Decimal digits

The digits of a whole number are read as that number, and have no zero in front. Zeros at the end scale the number
that the others write.
-/

namespace TableIndex.Json

variable {n : Nat} {ds : List Char}

theorem digitsValue_eq_ofDigitChars (ds : List Char) : digitsValue ds = Nat.ofDigitChars 10 ds 0 := by
  rw [digitsValue, Nat.ofDigitChars_eq_foldl]
  exact congrArg (List.foldl · 0 ds) (funext fun n => funext fun c => congrArg (· + _) (Nat.mul_comm n 10))

theorem digitsValue_toDigits (n : Nat) : digitsValue (Nat.toDigits 10 n) = n := by
  rw [digitsValue_eq_ofDigitChars, Nat.ofDigitChars_ten_toDigits]

theorem isDigit_of_mem_toDigits {n : Nat} {d : Char} (h : d ∈ Nat.toDigits 10 n) : d.isDigit = true :=
  Nat.isDigit_of_mem_toDigits (by decide) (by decide) h

/-- No zero stands in front of a number but that of zero itself. -/
theorem eq_zero_of_head?_toDigits (h : (Nat.toDigits 10 n).head? = some '0') : n = 0 := by
  induction n using Nat.strongRecOn with
  | ind n ih =>
      rw [Nat.toDigits_eq_if (by decide)] at h
      split at h
      case isTrue hlt =>
        have hall : ∀ m < 10, Nat.digitChar m = '0' → m = 0 := by decide
        exact hall n hlt (Option.some.inj h)
      case isFalse hge =>
        obtain ⟨c, cs, hc⟩ := List.exists_cons_of_ne_nil (Nat.toDigits_ne_nil (n := n / 10) (b := 10))
        have := ih (n / 10) (by omega) (by rwa [hc] at h ⊢)
        omega

theorem digitsValue_append (as bs : List Char) :
    digitsValue (as ++ bs) = digitsValue as * 10 ^ bs.length + digitsValue bs := by
  simp only [digitsValue_eq_ofDigitChars]
  rw [Nat.ofDigitChars_append, Nat.ofDigitChars_eq_ofDigitChars_zero, Nat.mul_comm]

theorem digitsValue_zeros (n : Nat) : digitsValue (List.replicate n '0') = 0 := by
  rw [digitsValue_eq_ofDigitChars, Nat.ofDigitChars_replicate_zero, Nat.mul_zero]

/-! ## Zeros at the end -/

theorem exists_append_zeros (ds : List Char) : ∃ z, ds = Binary64.dropZeros ds ++ List.replicate z '0' := by
  have hzeros : ds.reverse.takeWhile (· == '0') = List.replicate (ds.reverse.takeWhile (· == '0')).length '0' :=
    List.eq_replicate_of_mem fun c hc => beq_iff_eq.mp (List.all_eq_true.mp List.all_takeWhile c hc)
  refine ⟨(ds.reverse.takeWhile (· == '0')).length, ?_⟩
  rw [Binary64.dropZeros, ← List.reverse_replicate, ← hzeros, ← List.reverse_append, List.takeWhile_append_dropWhile,
    List.reverse_reverse]

/-- Decimal digits, at least one. -/
structure Numeral (ds : List Char) : Prop where
  isDigit : ∀ c ∈ ds, c.isDigit = true
  ne_nil : ds ≠ []

/-- Digits that do not start with a zero, in the decimal notation of a positive number. -/
structure Significant (ds : List Char) : Prop extends Numeral ds where
  head?_ne : ds.head? ≠ some '0'

theorem numeral_toDigits (n : Nat) : Numeral (Nat.toDigits 10 n) :=
  ⟨fun _ => isDigit_of_mem_toDigits, Nat.toDigits_ne_nil⟩

theorem significant_toDigits (hn : 0 < n) : Significant (Nat.toDigits 10 n) :=
  ⟨numeral_toDigits n, fun h => Nat.ne_of_gt hn (eq_zero_of_head?_toDigits h)⟩

theorem Significant.dropZeros (h : Significant ds) : Significant (Binary64.dropZeros ds) := by
  obtain ⟨z, hz⟩ := exists_append_zeros ds
  cases hds : Binary64.dropZeros ds with
  | nil =>
      refine absurd ?_ h.head?_ne
      have hne := h.ne_nil
      rw [hds] at hz
      cases z with
      | zero => exact absurd hz hne
      | succ z => rw [hz]; rfl
  | cons d ds' =>
      rw [hds] at hz
      refine ⟨⟨fun c hc => h.isDigit c ?_, nofun⟩, fun hd => h.head?_ne ?_⟩
      · rw [hz]
        exact List.mem_append_left _ hc
      · rw [hz]
        exact hd

end TableIndex.Json
