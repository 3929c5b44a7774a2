/-!
# Lists of items with distinct keys

`KeyedList key` is a list in which no two items have the same key. Replacing an item keeps its place, a
new item goes to the end, so the order is that of first insertion. `OrderedMap` is the case of pairs.
-/

namespace TableIndex

/-- Puts `a` in the place of the item with its key, or at the end. -/
def upsertItem {α : Type} (key : α → String) (a : α) : List α → List α
  | [] => [a]
  | b :: bs => if key b = key a then a :: bs else b :: upsertItem key a bs

theorem keys_upsertItem {α : Type} (key : α → String) (a : α) (l : List α) :
    (upsertItem key a l).map key = if key a ∈ l.map key then l.map key else l.map key ++ [key a] := by
  induction l with
  | nil => simp [upsertItem]
  | cons b bs ih =>
    rw [upsertItem]
    by_cases h : key b = key a
    · simp [h]
    · have h' : ¬ key a = key b := fun e => h e.symm
      simp only [h, ↓reduceIte, List.map_cons, ih, List.mem_cons, h', false_or]
      split <;> simp

theorem nodup_keys_upsertItem {α : Type} {key : α → String} {l : List α} (a : α)
    (h : (l.map key).Nodup) : ((upsertItem key a l).map key).Nodup := by
  rw [keys_upsertItem]
  split
  · exact h
  · next hn =>
    refine List.nodup_append.mpr ⟨h, by simp, ?_⟩
    intro x hx y hy
    simp only [List.mem_singleton] at hy
    subst hy
    exact fun e => hn (e ▸ hx)

/-- A list in which no two items have the same key. -/
structure KeyedList {α : Type} (key : α → String) where
  items : List α
  distinct : (items.map key).Nodup := by simp

namespace KeyedList

variable {α : Type} {key : α → String}

@[ext] theorem ext {l m : KeyedList key} (h : l.items = m.items) : l = m := by
  cases l; cases m; simp_all

instance [DecidableEq α] : DecidableEq (KeyedList key) := fun l m =>
  if h : l.items = m.items then isTrue (ext h) else isFalse fun e => h (e ▸ rfl)

instance [Repr α] : Repr (KeyedList key) where reprPrec l n := reprPrec l.items n

/-- The list without items. -/
def empty : KeyedList key where items := []

instance : Inhabited (KeyedList key) := ⟨empty⟩

/-- The number of items. -/
def size (l : KeyedList key) : Nat := l.items.length

/-- Whether there are no items. -/
def isEmpty (l : KeyedList key) : Bool := l.items.isEmpty

/-- The keys in order. -/
def keys (l : KeyedList key) : List String := l.items.map key

/-- The item with the key `k`. -/
def find? (l : KeyedList key) (k : String) : Option α := l.items.find? (key · == k)

/-- Whether an item has the key `k`. -/
def contains (l : KeyedList key) (k : String) : Bool := (l.find? k).isSome

/-- Puts `a` in the place of the item with its key, or at the end. -/
def upsert (l : KeyedList key) (a : α) : KeyedList key where
  items := upsertItem key a l.items
  distinct := nodup_keys_upsertItem a l.distinct

/-- Puts all of `as` into `l`, one after the other. -/
def upsertAll (l : KeyedList key) (as : List α) : KeyedList key := as.foldl upsert l

/-- The list of `as` in which a later item replaces an earlier one with its key. -/
def ofList (as : List α) : KeyedList key := empty.upsertAll as

/-- The items that satisfy `p`. -/
def filter (l : KeyedList key) (p : α → Bool) : KeyedList key where
  items := l.items.filter p
  distinct := l.distinct.sublist (List.filter_sublist.map key)

/-- Drops the item with the key `k`, if there is one; the others keep their order. -/
def erase (l : KeyedList key) (k : String) : KeyedList key := l.filter (key · != k)

/-- Whether both lists hold the same items under `same`, in any order. -/
def sameItems (same : α → α → Bool) (l m : KeyedList key) : Bool :=
  l.size == m.size && l.items.all fun a => (m.find? (key a)).any (same a)

@[simp] theorem items_empty : (empty : KeyedList key).items = [] := rfl

theorem keys_upsert (l : KeyedList key) (a : α) :
    (l.upsert a).keys = if key a ∈ l.keys then l.keys else l.keys ++ [key a] :=
  keys_upsertItem key a l.items

theorem find?_key {l : KeyedList key} {k : String} {a : α} (h : l.find? k = some a) : key a = k := by
  simpa using List.find?_some h

theorem find?_upsert (l : KeyedList key) (a : α) (k : String) :
    (l.upsert a).find? k = if key a = k then some a else l.find? k := by
  have main : ∀ bs : List α, (upsertItem key a bs).find? (key · == k)
      = if key a = k then some a else bs.find? (key · == k) := by
    intro bs
    induction bs with
    | nil => by_cases h : key a = k <;> simp [upsertItem, h]
    | cons b bs ih =>
      rw [upsertItem]
      by_cases hb : key b = key a
      · by_cases h : key a = k
        · simp [hb, h]
        · simp [hb, h]
      · by_cases h : key a = k
        · have : key b ≠ k := fun e => hb (e.trans h.symm)
          subst h
          simp [this, ih]
        · simp [hb, ih, h, List.find?_cons]
  exact main l.items

theorem mem_keys_iff (l : KeyedList key) (k : String) : k ∈ l.keys ↔ l.contains k = true := by
  simp [keys, contains, find?]

end KeyedList

/-- A map that lists its entries in the order in which their keys first came in. -/
abbrev OrderedMap (β : Type) := KeyedList (α := String × β) Prod.fst

namespace OrderedMap

variable {β : Type}

/-- The value under `k`. -/
def get? (m : OrderedMap β) (k : String) : Option β := (m.find? k).map Prod.snd

/-- Sets the value under `k`; a key that is already there keeps its place. -/
def insert (m : OrderedMap β) (k : String) (v : β) : OrderedMap β := m.upsert (k, v)

theorem get?_insert (m : OrderedMap β) (k : String) (v : β) (k' : String) :
    get? (insert m k v) k' = if k = k' then some v else get? m k' := by
  rw [get?, insert, KeyedList.find?_upsert]
  split <;> simp [get?]

end OrderedMap

end TableIndex
