import TableIndex.Map.Keyed

/-!
# Looking things up in lists with distinct keys

What `find?` gives after each operation. Two keyed lists hold the same items exactly if every look-up gives
the same in both (`sameItems_iff`).
-/

namespace Option.Rel

variable {α β γ : Type} {R : α → β → Prop} {S : β → γ → Prop} {T : α → γ → Prop}
  {a : Option α} {b : Option β} {c : Option γ}

theorem imp {R' : α → β → Prop} (h : ∀ x y, R x y → R' x y) : Option.Rel R a b → Option.Rel R' a b
  | .some hxy => .some (h _ _ hxy)
  | .none => .none

theorem swap {R' : β → α → Prop} (h : ∀ x y, R x y → R' y x) : Option.Rel R a b → Option.Rel R' b a
  | .some hxy => .some (h _ _ hxy)
  | .none => .none

theorem comp (h : ∀ x y z, R x y → S y z → T x z) :
    Option.Rel R a b → Option.Rel S b c → Option.Rel T a c
  | .some hxy, .some hyz => .some (h _ _ _ hxy hyz)
  | .none, .none => .none

theorem isSome_eq : Option.Rel R a b → a.isSome = b.isSome
  | .some _ => rfl
  | .none => rfl

end Option.Rel

namespace TableIndex.KeyedList

variable {α : Type} {key : α → String}

/-! ## Items and look-ups -/

theorem find?_eq_some_iff {l : KeyedList key} {k : String} {a : α} :
    l.find? k = some a ↔ a ∈ l.items ∧ key a = k := by
  constructor
  · intro h
    exact ⟨List.mem_of_find?_eq_some h, find?_key h⟩
  · rintro ⟨ha, rfl⟩
    obtain ⟨items, distinct⟩ := l
    simp only [find?] at ha ⊢
    induction items with
    | nil => cases ha
    | cons b bs ih =>
        simp only [List.map_cons, List.nodup_cons] at distinct
        rcases List.mem_cons.mp ha with rfl | ha
        · simp
        · have hne : key b ≠ key a := fun h => distinct.1 (h ▸ List.mem_map_of_mem ha)
          simpa [List.find?_cons, hne] using ih distinct.2 ha

theorem find?_eq_none_iff {l : KeyedList key} {k : String} :
    l.find? k = none ↔ ∀ a ∈ l.items, key a ≠ k := by
  simp [find?]

theorem contains_iff {l : KeyedList key} {k : String} :
    l.contains k = true ↔ ∃ a ∈ l.items, key a = k := by
  simp [contains, find?]

theorem contains_upsert (l : KeyedList key) (a : α) (k : String) :
    (l.upsert a).contains k = (key a == k || l.contains k) := by
  by_cases h : key a = k <;> simp [contains, find?_upsert, h]

/-! ## Keeping some of the items -/

theorem find?_filter (l : KeyedList key) (p : α → Bool) (k : String) :
    (l.filter p).find? k = (l.find? k).filter p := by
  cases h : l.find? k with
  | none =>
      rw [find?_eq_none_iff] at h
      exact find?_eq_none_iff.mpr fun a ha => h a (List.mem_filter.mp ha).1
  | some a =>
      obtain ⟨ha, rfl⟩ := find?_eq_some_iff.mp h
      cases hp : p a with
      | true =>
          simp only [Option.filter, hp, ↓reduceIte]
          exact find?_eq_some_iff.mpr ⟨List.mem_filter.mpr ⟨ha, hp⟩, rfl⟩
      | false =>
          simp only [Option.filter, hp, Bool.false_eq_true, ↓reduceIte]
          refine find?_eq_none_iff.mpr fun b hb hk => ?_
          obtain ⟨hb, hpb⟩ := List.mem_filter.mp hb
          have hab : l.find? (key a) = some b := find?_eq_some_iff.mpr ⟨hb, hk⟩
          obtain rfl : a = b := by simpa [h] using hab
          simp [hp] at hpb

theorem contains_erase (l : KeyedList key) (k k' : String) :
    (l.erase k).contains k' = (k != k' && l.contains k') := by
  rw [contains, erase, find?_filter, contains]
  cases h : l.find? k' with
  | none => simp
  | some a =>
      obtain rfl := find?_key h
      by_cases hk : key a = k
      · simp [Option.filter, hk]
      · simp [Option.filter, hk, Ne.symm hk]

theorem filter_eq_self {l : KeyedList key} {p : α → Bool} (h : ∀ a ∈ l.items, p a = true) :
    l.filter p = l :=
  ext (List.filter_eq_self.mpr h)

theorem filter_filter (l : KeyedList key) (p q : α → Bool) :
    (l.filter p).filter q = l.filter fun a => p a && q a := by
  refine ext ?_
  simp only [filter, List.filter_filter]
  exact List.filter_congr fun a _ => Bool.and_comm ..

/-! ## Overlaying -/

theorem upsertAll_cons (l : KeyedList key) (a : α) (as : List α) :
    l.upsertAll (a :: as) = (l.upsert a).upsertAll as := rfl

/-- Where the keys of `as` are distinct, what is put in is what is found. -/
theorem find?_upsertAll {as : List α} (h : (as.map key).Nodup) (l : KeyedList key) (k : String) :
    (l.upsertAll as).find? k = (as.find? (key · == k)).or (l.find? k) := by
  induction as generalizing l with
  | nil => rfl
  | cons a as ih =>
      simp only [List.map_cons, List.nodup_cons] at h
      rw [upsertAll_cons, ih h.2, find?_upsert]
      by_cases hk : key a = k
      · have hno : as.find? (key · == k) = none :=
          List.find?_eq_none.mpr fun b hb hb' => h.1 (List.mem_map.mpr ⟨b, hb, by simp_all⟩)
        simp [hk, hno]
      · simp [hk]

theorem find?_upsertAll_items (l m : KeyedList key) (k : String) :
    (l.upsertAll m.items).find? k = (m.find? k).or (l.find? k) :=
  find?_upsertAll m.distinct l k

theorem contains_upsertAll_items (l m : KeyedList key) (k : String) :
    (l.upsertAll m.items).contains k = (m.contains k || l.contains k) := by
  simp [contains, find?_upsertAll_items]

theorem upsertItem_of_find? {a : α} {l : List α} (h : l.find? (key · == key a) = some a) :
    upsertItem key a l = l := by
  induction l with
  | nil => cases h
  | cons b bs ih =>
      rw [upsertItem]
      by_cases hb : key b = key a
      · obtain rfl : b = a := by simpa [hb] using h
        rw [if_pos rfl]
      · rw [if_neg hb, ih (by simpa [hb] using h)]

/-- Putting in what is there changes nothing. -/
theorem upsertAll_of_find? {as : List α} {l : KeyedList key} (h : ∀ a ∈ as, l.find? (key a) = some a) :
    l.upsertAll as = l := by
  induction as with
  | nil => rfl
  | cons a as ih =>
      have ha : l.upsert a = l := ext (upsertItem_of_find? (h a List.mem_cons_self))
      rw [upsertAll_cons, ha]
      exact ih fun b hb => h b (List.mem_cons_of_mem a hb)

theorem upsertItem_of_not_mem {a : α} {l : List α} (h : key a ∉ l.map key) :
    upsertItem key a l = l ++ [a] := by
  induction l with
  | nil => rfl
  | cons b bs ih =>
      simp only [List.map_cons, List.mem_cons, not_or] at h
      rw [upsertItem, if_neg (Ne.symm h.1), ih h.2, List.cons_append]

theorem items_upsertAll_of_nodup {l : KeyedList key} {as : List α}
    (h : ((l.items ++ as).map key).Nodup) : (l.upsertAll as).items = l.items ++ as := by
  induction as generalizing l with
  | nil => simp [upsertAll]
  | cons a as ih =>
      have hna : key a ∉ l.items.map key := by
        rw [List.map_append, List.nodup_append] at h
        exact fun ha => h.2.2 _ ha _ (by simp) rfl
      have hitems : (l.upsert a).items = l.items ++ [a] := upsertItem_of_not_mem hna
      rw [upsertAll_cons, ih (by rw [hitems]; simpa using h), hitems, List.append_assoc,
        List.singleton_append]

theorem mem_upsertItem {a b : α} {l : List α} (h : b ∈ upsertItem key a l) : b = a ∨ b ∈ l := by
  induction l with
  | nil => exact .inl (List.mem_singleton.mp h)
  | cons c cs ih =>
      rw [upsertItem] at h
      split at h
      · exact (List.mem_cons.mp h).imp id (List.mem_cons_of_mem c)
      · rcases List.mem_cons.mp h with rfl | h
        · exact .inr List.mem_cons_self
        · exact (ih h).imp id (List.mem_cons_of_mem c)

theorem mem_upsertAll {b : α} {as : List α} {l : KeyedList key} (h : b ∈ (l.upsertAll as).items) :
    b ∈ as ∨ b ∈ l.items := by
  induction as generalizing l with
  | nil => exact .inr h
  | cons a as ih =>
      rcases ih h with h | h
      · exact .inl (List.mem_cons_of_mem a h)
      · rcases mem_upsertItem h with rfl | h
        · exact .inl List.mem_cons_self
        · exact .inr h

/-- A list with distinct keys stays as it is. -/
theorem items_ofList_of_nodup {as : List α} (h : (as.map key).Nodup) :
    (ofList as : KeyedList key).items = as := by
  simpa [ofList] using items_upsertAll_of_nodup (l := .empty) (by simpa using h)

/-! ## Overlaying twice -/

theorem upsertItem_upsertItem {a b : α} (h : key b = key a) (l : List α) :
    upsertItem key a (upsertItem key b l) = upsertItem key a l := by
  induction l with
  | nil => rw [upsertItem, upsertItem, upsertItem, if_pos h]
  | cons c cs ih =>
      rw [upsertItem, upsertItem, h]
      by_cases hc : key c = key a
      · rw [if_pos hc, if_pos hc, upsertItem, if_pos h]
      · rw [if_neg hc, if_neg hc, upsertItem, if_neg hc, ih]

/-- Items of different keys can change places if the one is only replaced. -/
theorem upsertItem_comm {a b : α} {l : List α} (ha : key a ∈ l.map key) (hne : key a ≠ key b) :
    upsertItem key a (upsertItem key b l) = upsertItem key b (upsertItem key a l) := by
  induction l with
  | nil => cases ha
  | cons c cs ih =>
      rw [List.map_cons, List.mem_cons] at ha
      rw [upsertItem, upsertItem]
      by_cases hca : key c = key a
      · have hcb : key c ≠ key b := fun h => hne (hca.symm.trans h)
        rw [if_neg hcb, if_pos hca, upsertItem, upsertItem, if_pos hca, if_neg hne]
      · have ha : key a ∈ cs.map key := ha.resolve_left (Ne.symm hca)
        by_cases hcb : key c = key b
        · rw [if_pos hcb, if_neg hca, upsertItem, upsertItem, if_neg (Ne.symm hne), if_pos hcb]
        · rw [if_neg hcb, if_neg hca, upsertItem, upsertItem, if_neg hca, if_neg hcb, ih ha]

theorem upsertAll_upsert_comm {a : α} {bs : List α} {l : KeyedList key} (ha : l.contains (key a) = true)
    (hbs : key a ∉ bs.map key) : (l.upsertAll bs).upsert a = (l.upsert a).upsertAll bs := by
  induction bs generalizing l with
  | nil => rfl
  | cons b bs ih =>
      rw [List.map_cons, List.mem_cons, not_or] at hbs
      have hcomm : (l.upsert b).upsert a = (l.upsert a).upsert b :=
        ext (upsertItem_comm ((mem_keys_iff ..).mpr ha) hbs.1)
      have hb : (l.upsert b).contains (key a) = true := by rw [contains_upsert, ha, Bool.or_true]
      rw [upsertAll_cons, upsertAll_cons, ih hb hbs.2, hcomm]

theorem upsertAll_upsertItem {bs : List α} (hd : (bs.map key).Nodup) (l : KeyedList key) (a : α) :
    l.upsertAll (upsertItem key a bs) = (l.upsertAll bs).upsert a := by
  induction bs generalizing l with
  | nil => rfl
  | cons b bs ih =>
      rw [List.map_cons, List.nodup_cons] at hd
      rw [upsertItem]
      by_cases hb : key b = key a
      · have hthere : (l.upsert b).contains (key a) = true := by simp [contains_upsert, hb]
        have htwice : (l.upsert b).upsert a = l.upsert a := ext (upsertItem_upsertItem hb l.items)
        rw [if_pos hb, upsertAll_cons, upsertAll_cons, upsertAll_upsert_comm hthere (hb ▸ hd.1), htwice]
      · rw [if_neg hb, upsertAll_cons, upsertAll_cons, ih hd.2]

/-- Overlaying one after the other is overlaying what both make together, the order of the items included. -/
theorem upsertAll_upsertAll (l m : KeyedList key) (as : List α) :
    l.upsertAll (m.upsertAll as).items = (l.upsertAll m.items).upsertAll as := by
  induction as generalizing m with
  | nil => rfl
  | cons a as ih =>
      rw [upsertAll_cons, upsertAll_cons, ih]
      exact congrArg (·.upsertAll as) (upsertAll_upsertItem m.distinct l a)

/-! ## Equality in any order -/

theorem keys_nodup (l : KeyedList key) : l.keys.Nodup := l.distinct

/-- Two lists of one size have the same keys if those of one are among those of the other. -/
theorem contains_of_size_eq {l m : KeyedList key} (hs : l.size = m.size)
    (h : ∀ k, l.contains k = true → m.contains k = true) (k : String) :
    l.contains k = m.contains k := by
  have hsub : l.keys ⊆ m.keys := fun k hk => by
    simpa [mem_keys_iff] using h k (by simpa [mem_keys_iff] using hk)
  refine Bool.eq_iff_iff.mpr ⟨h k, fun hm => ?_⟩
  rw [← mem_keys_iff] at hm ⊢
  -- A key of `m` that `l` lacks would make room for one more key in `m`.
  refine Decidable.byContradiction fun hl => ?_
  have hlen : (k :: l.keys).length ≤ m.keys.length :=
    (List.nodup_cons.mpr ⟨hl, l.keys_nodup⟩).length_le_of_subset
      (List.cons_subset.mpr ⟨hm, hsub⟩)
  have hl' : l.keys.length = l.size := List.length_map _
  have hm' : m.keys.length = m.size := List.length_map _
  simp only [List.length_cons] at hlen
  omega

theorem size_eq_of_contains {l m : KeyedList key} (h : ∀ k, l.contains k = m.contains k) :
    l.size = m.size := by
  have hperm : l.keys.Perm m.keys :=
    (List.perm_ext_iff_of_nodup l.keys_nodup m.keys_nodup).mpr fun k => by
      rw [mem_keys_iff, mem_keys_iff, h]
  simpa only [size, keys, List.length_map] using hperm.length_eq

/-- Lists hold the same items exactly if every look-up gives the same. -/
theorem sameItems_iff {same : α → α → Bool} {l m : KeyedList key} :
    l.sameItems same m = true ↔
      ∀ k, Option.Rel (fun a b => same a b = true) (l.find? k) (m.find? k) := by
  simp only [sameItems, Bool.and_eq_true, beq_iff_eq, List.all_eq_true]
  constructor
  · rintro ⟨hs, hall⟩ k
    have hc := contains_of_size_eq hs (fun k hk => by
      obtain ⟨a, ha, rfl⟩ := contains_iff.mp hk
      obtain ⟨b, hb, -⟩ := (Option.any_eq_true ..).mp (hall a ha)
      simp [contains, hb]) k
    cases hl : l.find? k with
    | none =>
        have hm : m.find? k = none := by simpa [contains, hl] using hc.symm
        rw [hm]
        exact .none
    | some a =>
        obtain ⟨ha, rfl⟩ := find?_eq_some_iff.mp hl
        obtain ⟨b, hb, hab⟩ := (Option.any_eq_true ..).mp (hall a ha)
        rw [hb]
        exact .some hab
  · intro h
    have hfound : ∀ k a, l.find? k = some a → ∃ b, m.find? k = some b ∧ same a b = true := by
      intro k a ha
      have hk := h k
      rw [ha] at hk
      cases hm : m.find? k with
      | none => rw [hm] at hk; cases hk
      | some b =>
          rw [hm] at hk
          cases hk with
          | some hab => exact ⟨b, rfl, hab⟩
    refine ⟨size_eq_of_contains fun k => ?_, fun a ha => ?_⟩
    · have hk := h k
      cases hl : l.find? k <;> cases hm : m.find? k <;> rw [hl, hm] at hk
      · simp [contains, hl, hm]
      · cases hk
      · cases hk
      · simp [contains, hl, hm]
    · obtain ⟨b, hb, hab⟩ := hfound (key a) a (find?_eq_some_iff.mpr ⟨ha, rfl⟩)
      exact (Option.any_eq_true ..).mpr ⟨b, hb, hab⟩

end TableIndex.KeyedList
