import TableIndex.Map.Sorted

/-!
# Looking things up in maps sorted by key

Entries and look-ups say the same of a map, and many insertions are one overlay.
-/

namespace TableIndex.SortedMap

variable {β : Type}

theorem keys_nodup (m : SortedMap β) : (m.entries.map Prod.fst).Nodup := by
  refine List.pairwise_map.mpr (m.sorted.imp fun {a b} h => ?_)
  exact fun e => String.lt_irrefl b.1 (e ▸ h)

theorem get?_eq_some_iff {m : SortedMap β} {k : String} {v : β} :
    m.get? k = some v ↔ (k, v) ∈ m.entries := by
  obtain ⟨entries, sorted⟩ := m
  simp only [get?]
  induction entries with
  | nil => simp
  | cons e es ih =>
      rw [List.pairwise_cons] at sorted
      by_cases h : e.1 = k
      · have hno : (k, v) ∉ es := fun hm => String.lt_irrefl k (by simpa [h] using sorted.1 (k, v) hm)
        simp [h, hno, Prod.ext_iff, eq_comm]
      · simp [h, ih sorted.2, Prod.ext_iff, Ne.symm h]

theorem lookup_map_entries {γ : Type} (m : SortedMap β) (g : β → γ) (k : String) :
    (m.entries.map fun e => (e.1, g e.2)).lookup k = (m.get? k).map g := by
  rw [get?, Option.map_map]
  induction m.entries with
  | nil => rfl
  | cons e es ih =>
      rw [List.map_cons, List.lookup_cons, List.find?_cons, BEq.comm]
      cases e.1 == k with
      | true => rfl
      | false => exact ih

theorem contains_iff {m : SortedMap β} {k : String} :
    m.contains k = true ↔ ∃ v, m.get? k = some v := Option.isSome_iff_exists

theorem contains_eq_false_iff {m : SortedMap β} {k : String} :
    m.contains k = false ↔ m.get? k = none := by
  simp [contains]

theorem get?_insert_of_ne {k k' : String} (h : k ≠ k') (m : SortedMap β) (v : β) :
    (m.insert k v).get? k' = m.get? k' := by
  rw [get?_insert, if_neg h]

theorem get?_insert_self (m : SortedMap β) (k : String) (v : β) : (m.insert k v).get? k = some v := by
  rw [get?_insert, if_pos rfl]

theorem get?_erase_of_ne {k k' : String} (h : k ≠ k') (m : SortedMap β) :
    (m.erase k).get? k' = m.get? k' := by
  rw [get?_erase, if_neg h]

theorem get?_of_erase {m : SortedMap β} {k k' : String} {v : β} (h : (m.erase k).get? k' = some v) :
    m.get? k' = some v := by
  rw [get?_erase] at h
  split at h
  · cases h
  · exact h

theorem contains_insert (m : SortedMap β) (k : String) (v : β) (k' : String) :
    (m.insert k v).contains k' = (k == k' || m.contains k') := by
  by_cases h : k = k' <;> simp [contains, get?_insert, h]

theorem contains_insert_self (m : SortedMap β) (k : String) (v : β) : (m.insert k v).contains k = true := by
  rw [contains_insert, beq_self_eq_true, Bool.true_or]

theorem insert_of_get? {m : SortedMap β} {k : String} {v : β} (h : m.get? k = some v) :
    m.insert k v = m := by
  refine ext_get? fun k' => ?_
  rw [get?_insert]
  split
  · next he => rw [← he, h]
  · rfl

theorem insert_insert (m : SortedMap β) (k : String) (v w : β) :
    (m.insert k v).insert k w = m.insert k w := by
  refine ext_get? fun k' => ?_
  rw [get?_insert, get?_insert, get?_insert]
  split <;> rfl

theorem contains_erase (m : SortedMap β) (k k' : String) :
    (m.erase k).contains k' = (k != k' && m.contains k') := by
  by_cases h : k = k' <;> simp [contains, get?_erase, h]

theorem mem_values_iff {m : SortedMap β} {v : β} : v ∈ m.values ↔ ∃ k, m.get? k = some v := by
  simp only [values, List.mem_map, get?_eq_some_iff]
  constructor
  · rintro ⟨e, he, rfl⟩
    exact ⟨e.1, he⟩
  · rintro ⟨k, hk⟩
    exact ⟨_, hk, rfl⟩

/-- Where the keys are distinct, what was put in is what is found. -/
theorem get?_foldl_insert {es : List (String × β)} (h : (es.map Prod.fst).Nodup) (m : SortedMap β)
    (k : String) : (es.foldl (fun m e => m.insert e.1 e.2) m).get? k =
      ((es.find? (·.1 == k)).map Prod.snd).or (m.get? k) := by
  induction es generalizing m with
  | nil => rfl
  | cons e es ih =>
      simp only [List.map_cons, List.nodup_cons] at h
      rw [List.foldl_cons, ih h.2, get?_insert]
      by_cases hk : e.1 = k
      · have hno : es.find? (·.1 == k) = none :=
          List.find?_eq_none.mpr fun f hf hf' => h.1 (List.mem_map.mpr ⟨f, hf, by simp_all⟩)
        simp [hk, hno]
      · simp [hk]

/-- Many insertions are one overlay. -/
theorem get?_foldl_insert_eq_or (es : List (String × β)) (m : SortedMap β) (k : String) :
    (es.foldl (fun m e => m.insert e.1 e.2) m).get? k = ((ofList es).get? k).or (m.get? k) := by
  induction es generalizing m with
  | nil => rfl
  | cons e es ih =>
      rw [ofList, List.foldl_cons, List.foldl_cons, ih, ih (empty.insert e.1 e.2), get?_insert, get?_insert]
      by_cases h : e.1 = k <;> simp [h]

theorem foldl_insert_foldl_insert (es : List (String × β)) (m : SortedMap β) :
    es.foldl (fun m e => m.insert e.1 e.2) (es.foldl (fun m e => m.insert e.1 e.2) m) =
      es.foldl (fun m e => m.insert e.1 e.2) m := by
  refine ext_get? fun k => ?_
  rw [get?_foldl_insert_eq_or, get?_foldl_insert_eq_or, ← Option.or_assoc, Option.or_self]

theorem get?_foldl_entries (m n : SortedMap β) (k : String) :
    (m.entries.foldl (fun m e => m.insert e.1 e.2) n).get? k = (m.get? k).or (n.get? k) :=
  get?_foldl_insert m.keys_nodup n k

theorem get?_foldl_erase (ks : List String) (m : SortedMap β) (k : String) :
    (ks.foldl (fun m k => m.erase k) m).get? k = if k ∈ ks then none else m.get? k := by
  induction ks generalizing m with
  | nil => simp
  | cons k' ks ih =>
      rw [List.foldl_cons, ih, get?_erase]
      by_cases hk : k' = k
      · simp [hk]
      · simp [hk, Ne.symm hk]

theorem get?_filter (m : SortedMap β) (p : String → β → Bool) (k : String) :
    (m.filter p).get? k = (m.get? k).filter (p k) := by
  refine Option.ext fun v => ?_
  rw [get?_eq_some_iff, Option.filter_eq_some_iff, get?_eq_some_iff]
  exact List.mem_filter

theorem mem_keys_iff {m : SortedMap β} {k : String} : k ∈ m.keys ↔ m.contains k = true := by
  rw [contains_iff]
  simp only [keys, List.mem_map, get?_eq_some_iff]
  constructor
  · rintro ⟨e, he, rfl⟩
    exact ⟨e.2, he⟩
  · rintro ⟨v, hv⟩
    exact ⟨_, hv, rfl⟩

/-- Erasing what satisfies a property leaves what does not. -/
theorem foldl_erase_keys_filter (m : SortedMap β) (p : String → β → Bool) :
    (m.filter p).keys.foldl (fun m k => m.erase k) m = m.filter fun k v => !p k v := by
  refine ext_get? fun k => ?_
  rw [get?_foldl_erase, get?_filter]
  simp only [mem_keys_iff, contains, get?_filter]
  cases m.get? k with
  | none => simp
  | some v => cases hp : p k v <;> simp [hp, Option.filter_some]

end TableIndex.SortedMap
