/-!
# Maps sorted by key

A `SortedMap` lists its entries in strictly increasing order of their keys, so two maps with the same
values under the same keys are equal (`ext_get?`).
-/

namespace TableIndex

/-- Sets the value under `k` in a list sorted by key. -/
def insertEntry {β : Type} (k : String) (v : β) : List (String × β) → List (String × β)
  | [] => [(k, v)]
  | e :: es =>
    if k < e.1 then (k, v) :: e :: es
    else if k = e.1 then (k, v) :: es
    else e :: insertEntry k v es

theorem mem_insertEntry {β : Type} {k : String} {v : β} {l : List (String × β)} {e : String × β}
    (h : e ∈ insertEntry k v l) : e = (k, v) ∨ e ∈ l := by
  induction l with
  | nil => simpa [insertEntry] using h
  | cons f es ih =>
    rw [insertEntry] at h
    split at h
    · simpa using h
    · split at h
      · simp only [List.mem_cons] at h ⊢; grind
      · simp only [List.mem_cons] at h ⊢; grind

theorem lt_of_not_lt_of_ne {a b : String} (h : ¬ a < b) (hne : a ≠ b) : b < a := by
  rcases String.not_lt.mp h with h'
  exact String.not_le.mp fun hle => hne (String.le_antisymm hle h')

theorem sorted_insertEntry {β : Type} {l : List (String × β)} (k : String) (v : β)
    (h : l.Pairwise (·.1 < ·.1)) : (insertEntry k v l).Pairwise (·.1 < ·.1) := by
  induction l with
  | nil => simp [insertEntry]
  | cons f es ih =>
    rw [List.pairwise_cons] at h
    rw [insertEntry]
    split
    · next hlt =>
      refine List.pairwise_cons.mpr ⟨?_, List.pairwise_cons.mpr h⟩
      intro e he
      rcases List.mem_cons.mp he with rfl | he
      · exact hlt
      · exact String.lt_trans hlt (h.1 e he)
    · next hlt =>
      split
      · next heq =>
        subst heq
        exact List.pairwise_cons.mpr ⟨fun e he => h.1 e he, h.2⟩
      · next hne =>
        refine List.pairwise_cons.mpr ⟨?_, ih h.2⟩
        intro e he
        rcases mem_insertEntry he with rfl | he
        · exact lt_of_not_lt_of_ne hlt hne
        · exact h.1 e he

/-- A map from text keys, its entries in strictly increasing order of keys. -/
structure SortedMap (β : Type) where
  entries : List (String × β)
  sorted : entries.Pairwise (·.1 < ·.1) := by simp

namespace SortedMap

variable {β : Type}

@[ext] theorem ext {l m : SortedMap β} (h : l.entries = m.entries) : l = m := by
  cases l; cases m; simp_all

instance [DecidableEq β] : DecidableEq (SortedMap β) := fun l m =>
  if h : l.entries = m.entries then isTrue (ext h) else isFalse fun e => h (e ▸ rfl)

instance [Repr β] : Repr (SortedMap β) where reprPrec m n := reprPrec m.entries n

/-- The map without entries. -/
def empty : SortedMap β where entries := []

instance : Inhabited (SortedMap β) := ⟨empty⟩

/-- The value under `k`. -/
def get? (m : SortedMap β) (k : String) : Option β := (m.entries.find? (·.1 == k)).map Prod.snd

/-- Whether there is a value under `k`. -/
def contains (m : SortedMap β) (k : String) : Bool := (m.get? k).isSome

/-- Sets the value under `k`. -/
def insert (m : SortedMap β) (k : String) (v : β) : SortedMap β where
  entries := insertEntry k v m.entries
  sorted := sorted_insertEntry k v m.sorted

/-- The entries that satisfy `p`. -/
def filter (m : SortedMap β) (p : String → β → Bool) : SortedMap β where
  entries := m.entries.filter fun e => p e.1 e.2
  sorted := m.sorted.filter _

/-- Drops the value under `k`, if there is one. -/
def erase (m : SortedMap β) (k : String) : SortedMap β := m.filter fun k' _ => k' != k

/-- The map of the given entries; a later one replaces an earlier one with its key. -/
def ofList (es : List (String × β)) : SortedMap β := es.foldl (fun m e => m.insert e.1 e.2) empty

/-- The keys in increasing order. -/
def keys (m : SortedMap β) : List String := m.entries.map Prod.fst

/-- The values in the order of their keys. -/
def values (m : SortedMap β) : List β := m.entries.map Prod.snd

/-- The number of entries. -/
def size (m : SortedMap β) : Nat := m.entries.length

/-- Whether there are no entries. -/
def isEmpty (m : SortedMap β) : Bool := m.entries.isEmpty

/-! ## Lookups -/

@[simp] theorem get?_empty (k : String) : (empty : SortedMap β).get? k = none := rfl

theorem find?_insertEntry (k : String) (v : β) (k' : String) (l : List (String × β)) :
    (insertEntry k v l).find? (·.1 == k')
      = if k = k' then some (k, v) else l.find? (·.1 == k') := by
  induction l with
  | nil => by_cases h : k = k' <;> simp [insertEntry, h]
  | cons e es ih =>
    rw [insertEntry]
    split
    · by_cases h : k = k' <;> simp [h]
    · next hlt =>
      split
      · next heq => by_cases h : k = k' <;> simp [← heq, h]
      · next hne =>
        by_cases h : k = k'
        · have : ¬ e.1 = k' := fun h' => hne (h.trans h'.symm)
          subst h
          simp [this, ih]
        · simp [List.find?_cons, ih, h]

theorem get?_insert (m : SortedMap β) (k : String) (v : β) (k' : String) :
    (m.insert k v).get? k' = if k = k' then some v else m.get? k' := by
  simp only [get?, insert, find?_insertEntry]
  split <;> simp

theorem get?_erase (m : SortedMap β) (k k' : String) :
    (m.erase k).get? k' = if k = k' then none else m.get? k' := by
  simp only [get?, erase, filter, List.find?_filter]
  by_cases h : k = k'
  · subst h
    simp only [↓reduceIte, Option.map_eq_none_iff, List.find?_eq_none]
    intro e _
    simp
  · have hp : (fun e : String × β => decide ((e.1 != k) = true ∧ (e.1 == k') = true))
        = fun e => e.1 == k' := by
      funext e
      by_cases he : e.1 = k'
      · simp [he, Ne.symm h]
      · simp [he]
    simp only [h, ↓reduceIte, hp]

/-- No entry has a key below all keys of a list. -/
theorem find?_eq_none_of_lt {k : String} {l : List (String × β)} (h : ∀ e ∈ l, k < e.1) :
    l.find? (·.1 == k) = none := by
  refine List.find?_eq_none.mpr fun e he hk => ?_
  have hk : e.1 = k := by simpa using hk
  exact String.lt_irrefl _ (hk ▸ h e he)

/-- A list sorted by key is determined by its lookups. -/
theorem eq_of_find?_eq {a b : List (String × β)} (ha : a.Pairwise (·.1 < ·.1))
    (hb : b.Pairwise (·.1 < ·.1)) (h : ∀ k, a.find? (·.1 == k) = b.find? (·.1 == k)) : a = b := by
  induction a generalizing b with
  | nil =>
    cases b with
    | nil => rfl
    | cons f fs => simpa using h f.1
  | cons e es ih =>
    cases b with
    | nil => simpa using h e.1
    | cons f fs =>
      rw [List.pairwise_cons] at ha hb
      have he := h e.1
      have hf := h f.1
      simp only [List.find?_cons, beq_self_eq_true] at he hf
      have hef : e = f := by
        by_cases hkey : f.1 = e.1
        · simpa [hkey] using he
        · have h1 : (f.1 == e.1) = false := by simpa using hkey
          have h2 : (e.1 == f.1) = false := by simpa using Ne.symm hkey
          rw [h1] at he
          rw [h2] at hf
          exact absurd (hb.1 e (List.mem_of_find?_eq_some he.symm))
            (String.lt_asymm (ha.1 f (List.mem_of_find?_eq_some hf)))
      subst hef
      congr 1
      refine ih ha.2 hb.2 fun k => ?_
      by_cases hek : e.1 = k
      · subst hek
        rw [find?_eq_none_of_lt ha.1, find?_eq_none_of_lt hb.1]
      · simpa [List.find?_cons, hek] using h k

/-- Two maps with the same values under the same keys are equal. -/
theorem ext_get? {l m : SortedMap β} (h : ∀ k, l.get? k = m.get? k) : l = m := by
  refine ext (eq_of_find?_eq l.sorted m.sorted fun k => ?_)
  have hk := h k
  simp only [get?] at hk
  cases hl : l.entries.find? (·.1 == k) with
  | none =>
    rw [hl, Option.map_none] at hk
    exact (Option.map_eq_none_iff.mp hk.symm).symm
  | some e =>
    cases hm : m.entries.find? (·.1 == k) with
    | none => rw [hl, hm] at hk; simp at hk
    | some f =>
      rw [hl, hm] at hk
      have h1 : e.1 = k := by simpa using List.find?_some hl
      have h2 : f.1 = k := by simpa using List.find?_some hm
      simp only [Option.map_some, Option.some.injEq] at hk
      rw [Prod.ext (h1.trans h2.symm) hk]

end SortedMap

end TableIndex
