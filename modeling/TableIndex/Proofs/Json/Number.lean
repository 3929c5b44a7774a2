import TableIndex.Json.Reader
import TableIndex.Proofs.Number.Shortest

/-!
# Written numbers

A number is read up to what cannot continue it. What the printer writes for a whole number or a double is a number
text, and stands for just this number.
-/

namespace TableIndex.Json

variable {ds rest : List Char} {t : NumberText} {x : Binary64}

/-- The sign of a number. -/
def signText (negative : Bool) : List Char := if negative then ['-'] else []

/-- The fraction of a number, with its point. -/
def fractionText : Option (List Char) → List Char
  | none => []
  | some ds => '.' :: ds

/-- The exponent of a number. It has a sign, as printed. -/
def exponentText : Option (Bool × List Char) → List Char
  | none => []
  | some (negative, ds) => 'e' :: (if negative then '-' else '+') :: ds

/-- A number text as characters. -/
def NumberText.chars (t : NumberText) : List Char :=
  signText t.negative ++ t.whole ++ fractionText t.fraction ++ exponentText t.exponent

/-- A number text that JSON has. -/
structure NumberText.WellFormed (t : NumberText) : Prop where
  whole : Numeral t.whole
  zero : t.whole.head? = some '0' → t.whole = ['0']
  fraction : ∀ ds ∈ t.fraction, Numeral ds
  exponent : ∀ es ∈ t.exponent, Numeral es.2

/-- What may stand behind a number: nothing that continues it. -/
def Stops (rest : List Char) : Prop := ∀ c ∈ rest.head?, c.isDigit = false ∧ c ≠ '.' ∧ c ≠ 'e' ∧ c ≠ 'E'

theorem readDigits?_append (hds : Numeral ds) (hrest : ∀ c ∈ rest.head?, c.isDigit = false) :
    readDigits? (ds ++ rest) = some (ds, rest) := by
  have htake : rest.takeWhile Char.isDigit = [] := by
    cases rest with
    | nil => rfl
    | cons c cs => simp [hrest c rfl]
  have hdrop : rest.dropWhile Char.isDigit = rest := by
    cases rest with
    | nil => rfl
    | cons c cs => simp [hrest c rfl]
  rw [readDigits?, List.takeWhile_append_of_pos hds.isDigit, List.dropWhile_append_of_pos hds.isDigit, htake, hdrop,
    List.append_nil, List.isEmpty_eq_false_iff.mpr hds.ne_nil]
  rfl

theorem readExponent_text {e : Option (Bool × List Char)} (he : ∀ es ∈ e, Numeral es.2) (hrest : Stops rest) :
    readExponent (exponentText e ++ rest) = some (e, rest) := by
  cases e with
  | none =>
      cases rest with
      | nil => rfl
      | cons c cs =>
          obtain ⟨-, -, hlower, hupper⟩ := hrest c rfl
          simp [exponentText, readExponent, hlower, hupper]
  | some es =>
      obtain ⟨negative, ds⟩ := es
      have hdigits := readDigits?_append (he _ rfl) fun c hc => (hrest c hc).1
      cases negative <;> simp [exponentText, readExponent, hdigits]

theorem readFraction_text {f : Option (List Char)} (hf : ∀ ds ∈ f, Numeral ds)
    (hrest : ∀ c ∈ rest.head?, c.isDigit = false ∧ c ≠ '.') :
    readFraction (fractionText f ++ rest) = some (f, rest) := by
  cases f with
  | none =>
      rw [fractionText, List.nil_append, readFraction]
      rintro cs rfl
      exact (hrest '.' rfl).2 rfl
  | some ds =>
      rw [fractionText, List.cons_append, readFraction, readDigits?_append (hf ds rfl) fun c hc => (hrest c hc).1]
      rfl

theorem readNumber_chars (ht : t.WellFormed) (hrest : Stops rest) :
    readNumber (t.chars ++ rest) = some (t, rest) := by
  obtain ⟨negative, whole, fraction, exponent⟩ := t
  obtain ⟨hwhole, hzero, hfraction, hexponent⟩ := ht
  dsimp only at *
  have hafter : ∀ c ∈ (exponentText exponent ++ rest).head?, c.isDigit = false ∧ c ≠ '.' := by
    cases exponent with
    | none => exact fun c hc => ⟨(hrest c hc).1, (hrest c hc).2.1⟩
    | some es =>
        rintro c ⟨⟩
        decide
  have hbehind : ∀ c ∈ (fractionText fraction ++ (exponentText exponent ++ rest)).head?, c.isDigit = false := by
    cases fraction with
    | none => exact fun c hc => (hafter c hc).1
    | some ds =>
        rintro c ⟨⟩
        decide
  have hdigits := readDigits?_append hwhole hbehind
  have hnozero : ¬(whole.head? = some '0' ∧ whole ≠ ['0']) := fun h => h.2 (hzero h.1)
  have hread := readFraction_text hfraction hafter
  have hraise := readExponent_text hexponent hrest
  simp only [NumberText.chars, List.append_assoc]
  cases negative with
  | true =>
      simp only [signText, if_true, List.singleton_append, readNumber, hdigits, hread, hraise, Option.bind_eq_bind,
        Option.bind_some, if_neg hnozero]
  | false =>
      have hsign : ∀ cs, whole ++ (fractionText fraction ++ (exponentText exponent ++ rest)) ≠ '-' :: cs := by
        obtain ⟨c, cs, rfl⟩ := List.exists_cons_of_ne_nil hwhole.ne_nil
        rintro _ h
        have := hwhole.isDigit c List.mem_cons_self
        rw [(List.cons.inj h).1] at this
        contradiction
      rw [signText, if_neg Bool.false_ne_true, List.nil_append, readNumber]
      · simp only [hdigits, hread, hraise, Option.bind_eq_bind, Option.bind_some, if_neg hnozero]
      · exact hsign

/-! ## What a number text stands for -/

namespace NumberText

/-- The digits of a number text, before and behind the point. -/
def significand (t : NumberText) : Nat := digitsValue (t.whole ++ t.fraction.getD [])

/-- The power of ten that the last digit counts. -/
def unit (t : NumberText) : Int :=
  (match t.exponent with
    | none => 0
    | some (negative, ds) => if negative then -(digitsValue ds : Int) else digitsValue ds)
  - (t.fraction.getD []).length

/-- The double nearest to a number text. -/
def nearest? (t : NumberText) : Option Binary64 :=
  let (num, den) := Binary64.unitRatio t.significand t.unit
  Binary64.ofRatio t.negative num den

/-- What a number text stands for: without fraction and exponent the whole number, else the nearest double. -/
def value? (t : NumberText) : Option Number :=
  if t.fraction.isNone && t.exponent.isNone then
    some (.int (if t.negative then -(digitsValue t.whole : Int) else digitsValue t.whole))
  else t.nearest?.map .float

end NumberText

/-! ## Doubles -/

/-- A number text with a point or an exponent, for digits of which the first stands for a multiple of `10 ^ e`. -/
structure NumberText.Notes (l : Binary64.Layout) (t : NumberText) (ds : List Char) (e : Int) : Prop where
  wellFormed : t.WellFormed
  chars : t.chars = signText t.negative ++ l.write ds e
  decimal : (t.fraction.isNone && t.exponent.isNone) = false
  value : (t.significand * 10 ^ t.unit : ℚ) = digitsValue ds * 10 ^ (e + 1 - ds.length)

theorem Numeral.zeros_append (n : Nat) (hds : Numeral ds) : Numeral (List.replicate n '0' ++ ds) := by
  refine ⟨fun c hc => ?_, List.append_ne_nil_of_right_ne_nil _ hds.ne_nil⟩
  rcases List.mem_append.mp hc with hc | hc
  · rw [List.eq_of_mem_replicate hc]
    rfl
  · exact hds.isDigit c hc

theorem Numeral.append_zeros (n : Nat) (hds : Numeral ds) : Numeral (ds ++ List.replicate n '0') := by
  refine ⟨fun c hc => ?_, List.append_ne_nil_of_left_ne_nil hds.ne_nil _⟩
  rcases List.mem_append.mp hc with hc | hc
  · exact hds.isDigit c hc
  · rw [List.eq_of_mem_replicate hc]
    rfl

theorem numeral_zero : Numeral ['0'] := ⟨by simp, nofun⟩

theorem Significant.take (hds : Significant ds) (n : Nat) : Significant (ds.take (n + 1)) := by
  obtain ⟨d, ds, rfl⟩ := List.exists_cons_of_ne_nil hds.ne_nil
  exact ⟨⟨fun c hc => hds.isDigit c (List.mem_of_mem_take hc), nofun⟩, hds.head?_ne⟩

variable {l : Binary64.Layout} {e : Int}

/-- Below one, zeros stand between the point and the digits. -/
theorem notes_below (negative : Bool) (hds : Significant ds) (h : l.leastPositional ≤ e ∧ e ≤ l.greatestPositional)
    (he : e < 0) : NumberText.Notes l
    { negative := negative, whole := ['0'], fraction := some (List.replicate (-e - 1).toNat '0' ++ ds) } ds e where
  wellFormed := {
    whole := numeral_zero
    zero := fun _ => rfl
    fraction := by
      rintro _ ⟨⟩
      exact hds.toNumeral.zeros_append _
    exponent := nofun }
  chars := by
    rw [Binary64.Layout.write, if_pos h, if_pos he]
    simp [NumberText.chars, fractionText, exponentText]
  decimal := rfl
  value := by
    have hvalue : digitsValue (['0'] ++ (List.replicate (-e - 1).toNat '0' ++ ds)) = digitsValue ds := by
      rw [digitsValue_append, digitsValue_append, digitsValue_zeros]
      simp [digitsValue, digitValue]
    have hunit : (0 - (List.replicate (-e - 1).toNat '0' ++ ds).length : Int) = e + 1 - ds.length := by
      rw [List.length_append, List.length_replicate]
      omega
    simp only [NumberText.significand, NumberText.unit, Option.getD_some, hvalue, hunit]

/-- Within the digits, zeros fill the whole part. -/
theorem notes_filled (negative : Bool) (hds : Significant ds) (h : l.leastPositional ≤ e ∧ e ≤ l.greatestPositional)
    (he : 0 ≤ e) (hlen : ds.length ≤ e.toNat + 1) : NumberText.Notes l
    { negative := negative, whole := ds ++ List.replicate (e.toNat + 1 - ds.length) '0', fraction := some ['0'] }
    ds e where
  wellFormed := {
    whole := hds.toNumeral.append_zeros _
    zero := fun h => by
      obtain ⟨d, ds, rfl⟩ := List.exists_cons_of_ne_nil hds.ne_nil
      exact absurd h hds.head?_ne
    fraction := by
      rintro _ ⟨⟩
      exact numeral_zero
    exponent := nofun }
  chars := by
    rw [Binary64.Layout.write, if_pos h, if_neg (not_lt.mpr he)]
    simp [NumberText.chars, fractionText, exponentText, List.take_of_length_le hlen, List.drop_eq_nil_of_le hlen]
  decimal := rfl
  value := by
    have hvalue : digitsValue (ds ++ List.replicate (e.toNat + 1 - ds.length) '0' ++ ['0'])
        = digitsValue ds * 10 ^ (e.toNat + 1 - ds.length) * 10 := by
      rw [digitsValue_append, digitsValue_append, digitsValue_zeros, List.length_replicate]
      rfl
    have hunit : (e + 1 - ds.length : Int) = (e.toNat + 1 - ds.length : Nat) := by omega
    simp only [NumberText.significand, NumberText.unit, Option.getD_some, hvalue, hunit, zpow_natCast]
    push_cast
    norm_num
    ring

/-- Within the digits, the point stands between them. -/
theorem notes_parted (negative : Bool) (hds : Significant ds) (h : l.leastPositional ≤ e ∧ e ≤ l.greatestPositional)
    (he : 0 ≤ e) (hlen : e.toNat + 1 < ds.length) : NumberText.Notes l
    { negative := negative, whole := ds.take (e.toNat + 1), fraction := some (ds.drop (e.toNat + 1)) } ds e where
  wellFormed := {
    whole := (hds.take _).toNumeral
    zero := fun h => absurd h (hds.take _).head?_ne
    fraction := by
      rintro _ ⟨⟩
      refine ⟨fun c hc => hds.isDigit c (List.mem_of_mem_drop hc), fun h => ?_⟩
      rw [List.drop_eq_nil_iff] at h
      omega
    exponent := nofun }
  chars := by
    have hrest : (ds.drop (e.toNat + 1)).isEmpty = false := by
      rw [List.isEmpty_eq_false_iff, ne_eq, List.drop_eq_nil_iff]
      omega
    have hfull : e.toNat + 1 - min (e.toNat + 1) ds.length = 0 := by omega
    rw [Binary64.Layout.write, if_pos h, if_neg (not_lt.mpr he)]
    simp [NumberText.chars, fractionText, exponentText, hrest, hfull]
  decimal := rfl
  value := by
    have hunit : (0 - (ds.drop (e.toNat + 1)).length : Int) = e + 1 - ds.length := by
      rw [List.length_drop]
      omega
    simp only [NumberText.significand, NumberText.unit, Option.getD_some, List.take_append_drop, hunit]

/-- Beyond, the point stands behind the first digit, and an exponent behind the last. -/
theorem notes_raised (negative : Bool) (hds : Significant ds)
    (h : ¬(l.leastPositional ≤ e ∧ e ≤ l.greatestPositional)) : NumberText.Notes l
    { negative := negative, whole := ds.take 1
      fraction := if (ds.drop 1).isEmpty then none else some (ds.drop 1)
      exponent := some (decide (e < 0), Nat.toDigits 10 e.natAbs) } ds e where
  wellFormed := {
    whole := (hds.take 0).toNumeral
    zero := fun h => absurd h (hds.take 0).head?_ne
    fraction := by
      intro fs hfs
      split at hfs
      · cases hfs
      case isFalse h =>
        cases hfs
        exact ⟨fun c hc => hds.isDigit c (List.mem_of_mem_drop hc), by simpa using h⟩
    exponent := by
      rintro _ ⟨⟩
      exact numeral_toDigits _ }
  chars := by
    rw [Binary64.Layout.write, if_neg h]
    have hfraction : fractionText (if (ds.drop 1).isEmpty then none else some (ds.drop 1))
        = if (ds.drop 1).isEmpty then [] else '.' :: ds.drop 1 := by
      split <;> rfl
    simp only [NumberText.chars, hfraction, exponentText, decide_eq_true_eq, List.append_assoc, List.cons_append,
      List.nil_append]
  decimal := by simp
  value := by
    have hfraction : (if (ds.drop 1).isEmpty then none else some (ds.drop 1)).getD [] = ds.drop 1 := by
      split
      case isTrue h => exact (List.isEmpty_iff.mp h).symm
      case isFalse => rfl
    have hexponent : (if decide (e < 0) then -(digitsValue (Nat.toDigits 10 e.natAbs) : Int)
        else digitsValue (Nat.toDigits 10 e.natAbs)) = e := by
      rw [digitsValue_toDigits]
      simp only [decide_eq_true_eq]
      omega
    have hlen := List.length_pos_iff.mpr hds.ne_nil
    have hunit : e - (ds.drop 1).length = e + 1 - ds.length := by
      rw [List.length_drop]
      omega
    simp only [NumberText.significand, NumberText.unit, hfraction, List.take_append_drop, hexponent, hunit]

theorem exists_notes (l : Binary64.Layout) (negative : Bool) (e : Int) (hds : Significant ds) :
    ∃ t : NumberText, t.negative = negative ∧ t.Notes l ds e := by
  by_cases h : l.leastPositional ≤ e ∧ e ≤ l.greatestPositional
  · by_cases he : e < 0
    · exact ⟨_, rfl, notes_below negative hds h he⟩
    · by_cases hlen : ds.length ≤ e.toNat + 1
      · exact ⟨_, rfl, notes_filled negative hds h (not_lt.mp he) hlen⟩
      · exact ⟨_, rfl, notes_parted negative hds h (not_lt.mp he) (not_le.mp hlen)⟩
  · exact ⟨_, rfl, notes_raised negative hds h⟩

/-- The text of a double stands for this double. -/
theorem exists_text_float (hx : x.Proper) :
    ∃ t : NumberText, t.WellFormed ∧ t.chars = x.text ∧ t.value? = some (.float x) := by
  by_cases hm : x.mantissa = 0
  · have hexponent : x.exponent = Binary64.leastExponent := hx.normal.resolve_left fun h => by
      rw [hm] at h
      contradiction
    refine ⟨{ negative := x.negative, whole := ['0'], fraction := some ['0'] }, ?_, ?_, ?_⟩
    · refine ⟨numeral_zero, fun _ => rfl, ?_, nofun⟩
      rintro _ ⟨⟩
      exact numeral_zero
    · simp [NumberText.chars, signText, fractionText, exponentText, Binary64.text, Binary64.isZero, hm]
    · obtain ⟨negative, mantissa, exponent⟩ := x
      dsimp only at hm hexponent
      rw [hm, hexponent]
      rfl
  · have hm := Nat.pos_of_ne_zero hm
    obtain ⟨hds, hnear⟩ := x.shortest_spec hx hm
    obtain ⟨t, hnegative, ht, hchars, hdecimal, hvalue⟩ := exists_notes Binary64.layout x.negative x.shortest.2 hds
    refine ⟨t, ht, ?_, ?_⟩
    · rw [hchars, hnegative, Binary64.text, Binary64.isZero, beq_eq_false_iff_ne.mpr hm.ne']
      rfl
    · rw [← hvalue, ← Binary64.unitRatio_div] at hnear
      have hround := Binary64.ofRatio_of_nearest hx hm (Binary64.unitRatio_snd_pos _ _) hnear
      rw [NumberText.value?, hdecimal, if_neg Bool.false_ne_true, NumberText.nearest?, hnegative]
      dsimp only
      rw [hround]
      rfl

theorem exists_text_int (i : Int) :
    ∃ t : NumberText, t.WellFormed ∧ t.chars = intText i ∧ t.value? = some (.int i) := by
  refine ⟨{ negative := decide (i < 0), whole := Nat.toDigits 10 i.natAbs }, ?_, ?_, ?_⟩
  · refine ⟨numeral_toDigits _, fun h => ?_, nofun, nofun⟩
    rw [eq_zero_of_head?_toDigits h]
    rfl
  · simp [NumberText.chars, signText, fractionText, exponentText, intText]
  · simp only [NumberText.value?, Option.isNone_none, Bool.and_self, if_true, digitsValue_toDigits, decide_eq_true_eq]
    congr 2
    omega

end TableIndex.Json
