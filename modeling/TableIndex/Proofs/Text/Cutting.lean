import Mathlib.Data.List.TakeWhile
import TableIndex.Text.Blank

/-!
# What cutting gives

The pieces between separators, the runs between blanks, and the two parts at a first separator are told from the
text alone: as what it is put together from.
-/

namespace TableIndex.Text

variable {p : Char → Bool} {sep c : Char} {cs w a b : List Char} {ws ps : List (List Char)}

theorem splitBy_of_free (h : ∀ c ∈ w, p c = false) : splitBy p w = [w] := by
  induction w with
  | nil => rfl
  | cons c w ih =>
      rw [splitBy, h c List.mem_cons_self, ih fun c hc => h c (List.mem_cons_of_mem _ hc)]
      rfl

theorem splitBy_append (h : ∀ c ∈ w, p c = false) (hc : p c = true) :
    splitBy p (w ++ c :: cs) = w :: splitBy p cs := by
  induction w with
  | nil => simp [splitBy, hc]
  | cons d w ih =>
      rw [List.cons_append, splitBy, h d List.mem_cons_self, ih fun c hc => h c (List.mem_cons_of_mem _ hc)]
      rfl

/-- A text is free of what satisfies `p`, or it is cut at the first such character. -/
theorem free_or_append (p : Char → Bool) (cs : List Char) : (∀ c ∈ cs, p c = false) ∨
    ∃ w c rest, cs = w ++ c :: rest ∧ (∀ c ∈ w, p c = false) ∧ p c = true := by
  induction cs with
  | nil => exact .inl nofun
  | cons c cs ih =>
      cases hc : p c with
      | true => exact .inr ⟨[], c, cs, rfl, nofun, hc⟩
      | false =>
          rcases ih with hfree | ⟨w, d, rest, rfl, hfree, hd⟩
          · exact .inl (List.forall_mem_cons.mpr ⟨hc, hfree⟩)
          · exact .inr ⟨c :: w, d, rest, rfl, List.forall_mem_cons.mpr ⟨hc, hfree⟩, hd⟩

theorem free_of_mem_splitBy (p : Char → Bool) (cs : List Char) : ∀ w ∈ splitBy p cs, ∀ c ∈ w, p c = false := by
  rcases free_or_append p cs with hfree | ⟨w, c, rest, hcs, hfree, hc⟩
  · rw [splitBy_of_free hfree]
    exact List.forall_mem_singleton.mpr hfree
  · rw [hcs, splitBy_append hfree hc]
    exact List.forall_mem_cons.mpr ⟨hfree, free_of_mem_splitBy p rest⟩
termination_by cs.length
decreasing_by
  rw [hcs, List.length_append, List.length_cons]
  omega

/-- Behind a separator at the end of a text there is an empty piece. -/
theorem getLast?_splitBy (hc : p c = true) (cs : List Char) : (splitBy p (cs ++ [c])).getLast? = some [] := by
  rcases free_or_append p cs with hfree | ⟨w, d, rest, hcs, hfree, hd⟩
  · rw [splitBy_append hfree hc]
    rfl
  · rw [hcs, List.append_assoc, List.cons_append, splitBy_append hfree hd, List.getLast?_cons,
      getLast?_splitBy hc rest]
    rfl
termination_by cs.length
decreasing_by
  rw [hcs, List.length_append, List.length_cons]
  omega

/-! ## Trimming -/

theorem dropWhile_append_cons (h : p c = false) (a b : List Char) :
    (a ++ c :: b).dropWhile p = a.dropWhile p ++ c :: b := by
  induction a with
  | nil => rw [List.nil_append, List.dropWhile_cons, if_neg (by simp [h]), List.dropWhile_nil, List.nil_append]
  | cons d a ih =>
      rw [List.cons_append, List.dropWhile_cons, List.dropWhile_cons]
      split
      · exact ih
      · rfl

theorem dropWhile_of_forall (h : ∀ c ∈ cs, p c = true) : cs.dropWhile p = [] := by
  induction cs with
  | nil => rfl
  | cons c cs ih =>
      rw [List.dropWhile_cons_of_pos (h c List.mem_cons_self)]
      exact ih fun c hc => h c (List.mem_cons_of_mem _ hc)

theorem forall_of_dropWhile {q : Char → Bool} (hp : ∀ c, p c = true → q c = true)
    (h : ∀ c ∈ cs.dropWhile p, q c = true) : ∀ c ∈ cs, q c = true := by
  intro c hc
  rw [← List.takeWhile_append_dropWhile (p := p) (l := cs), List.mem_append] at hc
  rcases hc with hc | hc
  · exact hp c (List.mem_takeWhile_imp hc)
  · exact h c hc

theorem trim_of_isBlank {s : String} (h : isBlank s = true) : trim s = "" := by
  rw [trim, trimBy, dropWhile_of_forall ((isBlank_iff s).mp h)]
  rfl

/-- Trimming a text stops at a character that stays. -/
theorem trimBy_append (h : p c = false) (a b : List Char) :
    trimBy p (a ++ c :: b) = a.dropWhile p ++ c :: (b.reverse.dropWhile p).reverse := by
  rw [trimBy, dropWhile_append_cons h, List.reverse_append, List.reverse_cons, List.append_assoc,
    List.singleton_append, dropWhile_append_cons h]
  simp

theorem trimBy_of_forall (hc : p c = false) (ha : ∀ d ∈ a, p d = true) (hb : ∀ d ∈ b, p d = true) :
    trimBy p (a ++ c :: b) = [c] := by
  rw [trimBy_append hc, dropWhile_of_forall ha, dropWhile_of_forall fun d hd => hb d (List.mem_reverse.mp hd)]
  rfl

theorem trimBy_subset (p : Char → Bool) (cs : List Char) : trimBy p cs ⊆ cs := by
  intro c hc
  rw [trimBy, List.mem_reverse] at hc
  have hmiddle := (List.dropWhile_suffix _).subset hc
  exact (List.dropWhile_suffix _).subset (List.mem_reverse.mp hmiddle)

theorem getLast?_trimBy (p : Char → Bool) (cs : List Char) : ∀ c ∈ (trimBy p cs).getLast?, p c = false := by
  intro c hc
  rw [trimBy, List.getLast?_reverse] at hc
  have hnot := List.head?_dropWhile_not p (cs.dropWhile p).reverse
  rw [hc] at hnot
  exact hnot

/-- From a text that needs no trimming nothing is dropped. -/
theorem dropWhile_of_trimmed (h : trimBy p cs = cs) : cs.dropWhile p = cs := by
  refine (List.dropWhile_suffix p).eq_of_length_le ?_
  calc cs.length = (trimBy p cs).length := by rw [h]
    _ = ((cs.dropWhile p).reverse.dropWhile p).length := List.length_reverse
    _ ≤ (cs.dropWhile p).reverse.length := (List.dropWhile_suffix p).length_le
    _ = (cs.dropWhile p).length := List.length_reverse

/-! ## Pieces -/

/-- What stands between the separators of a text. -/
structure Pieces (sep : Char) (cs : List Char) (ps : List (List Char)) : Prop where
  nonempty : ps ≠ []
  joined : Text.joined [sep] ps = cs
  free : ∀ w ∈ ps, sep ∉ w

theorem not_mem_iff : sep ∉ w ↔ ∀ c ∈ w, (c == sep) = false :=
  ⟨fun h c hc => beq_false_of_ne fun he => h (he ▸ hc), fun h hc => absurd (h sep hc) (by simp)⟩

theorem mem_joined {s : List Char} (h : c ∈ joined s ps) : c ∈ s ∨ ∃ w ∈ ps, c ∈ w := by
  induction ps with
  | nil => cases h
  | cons w ps ih =>
      cases ps with
      | nil => exact .inr ⟨w, List.mem_singleton_self w, h⟩
      | cons v ps =>
          rw [joined, List.mem_append, List.mem_append] at h
          rcases h with (h | h) | h
          · exact .inr ⟨w, List.mem_cons_self, h⟩
          · exact .inl h
          · exact (ih h).imp id fun ⟨u, hu, hc⟩ => ⟨u, List.mem_cons_of_mem w hu, hc⟩
          · exact nofun

theorem joined_cons (hne : ps ≠ []) : joined [sep] (w :: ps) = w ++ sep :: joined [sep] ps := by
  cases ps with
  | nil => exact absurd rfl hne
  | cons v ps => simp [joined]

theorem pieces_splitAt (sep : Char) (cs : List Char) : Pieces sep cs (splitAt sep cs) := by
  rcases free_or_append (· == sep) cs with hfree | ⟨w, c, rest, hcs, hfree, hc⟩
  · rw [splitAt, splitBy_of_free hfree]
    exact ⟨nofun, rfl, fun w hw => List.mem_singleton.mp hw ▸ not_mem_iff.mpr hfree⟩
  · obtain ⟨hne, hjoined, hrest⟩ := pieces_splitAt sep rest
    rw [hcs, splitAt, splitBy_append hfree hc]
    refine ⟨nofun, ?_, List.forall_mem_cons.mpr ⟨not_mem_iff.mpr hfree, hrest⟩⟩
    rw [joined_cons (splitBy_ne_nil _ _), show joined [sep] (splitBy _ rest) = rest from hjoined,
      beq_iff_eq.mp hc]
termination_by cs.length
decreasing_by
  rw [hcs, List.length_append, List.length_cons]
  omega

/-- A text is cut in one way only. -/
theorem Pieces.eq (h : Pieces sep cs ps) : splitAt sep cs = ps := by
  obtain ⟨hne, rfl, hfree⟩ := h
  induction ps with
  | nil => exact absurd rfl hne
  | cons w ps ih =>
      obtain ⟨hw, hps⟩ := List.forall_mem_cons.mp hfree
      have hw := not_mem_iff.mp hw
      cases ps with
      | nil => exact splitBy_of_free hw
      | cons v ps =>
          rw [joined_cons (List.cons_ne_nil v ps), splitAt, splitBy_append hw (beq_self_eq_true sep)]
          exact congrArg (w :: ·) (ih nofun hps)

theorem pieces_iff : Pieces sep cs ps ↔ splitAt sep cs = ps :=
  ⟨Pieces.eq, fun h => h ▸ pieces_splitAt sep cs⟩

/-! ## Words -/

/-- The maximal runs without blanks in a text, in order. -/
inductive Words : List Char → List (List Char) → Prop where
  | nil : Words [] []
  | blank {c : Char} {cs : List Char} {ws : List (List Char)} : isSpace c = true → Words cs ws → Words (c :: cs) ws
  | last {w : List Char} : w ≠ [] → (∀ c ∈ w, isSpace c = false) → Words w [w]
  | word {w : List Char} {c : Char} {cs : List Char} {ws : List (List Char)} : w ≠ [] →
      (∀ c ∈ w, isSpace c = false) → isSpace c = true → Words cs ws → Words (w ++ c :: cs) (w :: ws)

theorem words_of_free (hne : w ≠ []) (h : ∀ c ∈ w, isSpace c = false) : words w = [w] := by
  rw [words, splitBy_of_free h]
  simp [hne]

theorem words_append (hne : w ≠ []) (h : ∀ c ∈ w, isSpace c = false) (hc : isSpace c = true) :
    words (w ++ c :: cs) = w :: words cs := by
  rw [words, splitBy_append h hc]
  simp [hne, words]

theorem words_of_blank (hc : isSpace c = true) (cs : List Char) : words (c :: cs) = words cs := by
  simp [words, splitBy, hc]

theorem words_spec (cs : List Char) : Words cs (words cs) := by
  rcases free_or_append isSpace cs with hfree | ⟨w, c, rest, hcs, hfree, hc⟩
  · by_cases hne : cs = []
    · subst hne
      exact .nil
    · rw [words_of_free hne hfree]
      exact .last hne hfree
  · have hrest := words_spec rest
    by_cases hne : w = []
    · rw [hcs, hne, List.nil_append, words_of_blank hc]
      exact .blank hc hrest
    · rw [hcs, words_append hne hfree hc]
      exact .word hne hfree hc hrest
termination_by cs.length
decreasing_by
  rw [hcs, List.length_append, List.length_cons]
  omega

theorem Words.eq (h : Words cs ws) : words cs = ws := by
  induction h with
  | nil => rfl
  | blank hc _ ih => rw [words_of_blank hc, ih]
  | last hne hfree => exact words_of_free hne hfree
  | word hne hfree hc _ ih => rw [words_append hne hfree hc, ih]

theorem words_iff : Words cs ws ↔ words cs = ws := ⟨Words.eq, fun h => h ▸ words_spec cs⟩

theorem Words.free (h : Words cs ws) : ∀ w ∈ ws, w ≠ [] ∧ ∀ c ∈ w, isSpace c = false := by
  induction h with
  | nil => nofun
  | blank _ _ ih => exact ih
  | last hne hfree => exact List.forall_mem_singleton.mpr ⟨hne, hfree⟩
  | word hne hfree _ _ ih => exact List.forall_mem_cons.mpr ⟨⟨hne, hfree⟩, ih⟩

theorem Words.subset (h : Words cs ws) : ∀ w ∈ ws, w ⊆ cs := by
  induction h with
  | nil => nofun
  | blank _ _ ih => exact fun w hw => List.Subset.trans (ih w hw) (List.subset_cons_self ..)
  | last _ _ => exact List.forall_mem_singleton.mpr (List.Subset.refl _)
  | word _ _ _ _ ih =>
      refine List.forall_mem_cons.mpr ⟨List.subset_append_left .., fun w hw => ?_⟩
      exact List.Subset.trans (ih w hw) (List.Subset.trans (List.subset_cons_self ..) (List.subset_append_right ..))

theorem Words.eq_nil_iff (h : Words cs ws) : ws = [] ↔ ∀ c ∈ cs, isSpace c = true := by
  induction h with
  | nil => exact ⟨fun _ => nofun, fun _ => rfl⟩
  | blank hc _ ih => rw [ih, List.forall_mem_cons, and_iff_right hc]
  | last hne hfree =>
      obtain ⟨c, hc⟩ := List.exists_mem_of_ne_nil _ hne
      exact ⟨nofun, fun hall => absurd (hall c hc) (by simp [hfree c hc])⟩
  | word hne hfree _ _ _ =>
      obtain ⟨c, hc⟩ := List.exists_mem_of_ne_nil _ hne
      exact ⟨nofun, fun hall => absurd (hall c (List.mem_append_left _ hc)) (by simp [hfree c hc])⟩

theorem words_joined {ws : List (List Char)} (h : ∀ w ∈ ws, w ≠ [] ∧ ∀ c ∈ w, isSpace c = false) :
    words (joined [' '] ws) = ws := by
  induction ws with
  | nil => rfl
  | cons w ws ih =>
      obtain ⟨⟨hne, hfree⟩, hws⟩ := List.forall_mem_cons.mp h
      cases ws with
      | nil => exact words_of_free hne hfree
      | cons v ws => rw [joined_cons (List.cons_ne_nil v ws), words_append hne hfree (by decide), ih hws]

/-! ## First separators -/

theorem splitFirst_eq_none_iff : splitFirst sep cs = none ↔ sep ∉ cs := by
  induction cs with
  | nil => simp [splitFirst]
  | cons c cs ih =>
      rw [splitFirst]
      by_cases hc : c = sep
      · simp [hc]
      · simp [hc, Ne.symm hc, ih]

theorem splitFirst_append (h : sep ∉ a) : splitFirst sep (a ++ sep :: b) = some (a, b) := by
  induction a with
  | nil => simp [splitFirst]
  | cons c a ih =>
      rw [List.mem_cons, not_or] at h
      rw [List.cons_append, splitFirst, beq_false_of_ne (Ne.symm h.1), ih h.2]
      rfl

theorem not_mem_of_splitFirst (h : splitFirst sep cs = some (a, b)) : sep ∉ a := by
  induction cs generalizing a with
  | nil => nomatch h
  | cons c cs ih =>
      rw [splitFirst] at h
      split at h
      · obtain ⟨rfl, rfl⟩ := Prod.mk.inj (Option.some.inj h)
        exact List.not_mem_nil
      · next hc =>
        obtain ⟨⟨a', b'⟩, hab, heq⟩ := Option.map_eq_some_iff.mp h
        obtain ⟨rfl, rfl⟩ := Prod.mk.inj heq
        rw [List.mem_cons, not_or]
        exact ⟨fun he => hc (beq_iff_eq.mpr he.symm), ih hab⟩

theorem splitFirst_eq_some_iff : splitFirst sep cs = some (a, b) ↔ cs = a ++ sep :: b ∧ sep ∉ a :=
  ⟨fun h => ⟨splitFirst_eq_some h, not_mem_of_splitFirst h⟩, fun ⟨hcs, h⟩ => hcs ▸ splitFirst_append h⟩

/-- A text that is put together around a separator twice is cut at the same place, or one of the first parts is the
other one continued behind a separator. -/
theorem append_cons_eq_iff {a' b' : List Char} : a ++ sep :: b = a' ++ sep :: b' ↔
    (a = a' ∧ b = b') ∨ (∃ w, a' = a ++ sep :: w ∧ b = w ++ sep :: b') ∨
      ∃ w, a = a' ++ sep :: w ∧ b' = w ++ sep :: b := by
  constructor
  · intro h
    rcases List.append_eq_append_iff.mp h with ⟨u, ha, hb⟩ | ⟨u, ha, hb⟩
    · rcases List.cons_eq_append_iff.mp hb with ⟨rfl, he⟩ | ⟨w, rfl, hw⟩
      · exact .inl ⟨(ha.trans (List.append_nil a)).symm, (List.cons.inj he).2.symm⟩
      · exact .inr (.inl ⟨w, ha, hw⟩)
    · rcases List.cons_eq_append_iff.mp hb with ⟨rfl, he⟩ | ⟨w, rfl, hw⟩
      · exact .inl ⟨ha.trans (List.append_nil a'), (List.cons.inj he).2⟩
      · exact .inr (.inr ⟨w, ha, hw⟩)
  · rintro (⟨rfl, rfl⟩ | ⟨w, rfl, rfl⟩ | ⟨w, rfl, rfl⟩)
    · rfl
    · rw [List.append_assoc, List.cons_append]
    · rw [List.append_assoc, List.cons_append]

end TableIndex.Text
