import TableIndex.Field.Properties
import TableIndex.Proofs.Map.Keyed
import TableIndex.Proofs.Map.Sorted

/-!
# Fields through their property objects

A field that was built by the operations of `Field` has no further property under a reserved key, so its
object shows every part of it (`get?_toProperties`). A legible field is read back from its object as it
was, up to the order of its further properties (`ofProperties_toProperties`).
-/

namespace TableIndex

theorem OrderedMap.get?_eq_some_iff {β : Type} {m : OrderedMap β} {k : String} {v : β} :
    m.get? k = some v ↔ (k, v) ∈ m.items := by
  rw [get?, Option.map_eq_some_iff]
  constructor
  · rintro ⟨e, he, rfl⟩
    obtain ⟨hm, rfl⟩ := KeyedList.find?_eq_some_iff.mp he
    exact hm
  · intro h
    exact ⟨(k, v), KeyedList.find?_eq_some_iff.mpr ⟨h, rfl⟩, rfl⟩

namespace Field

variable {f g h : Field} {k : String}

/-! ## Fields that can be built -/

/-- The fields that the operations on fields make. -/
inductive Built : Field → Prop where
  | typed (name : String) (type : FieldType) : Built (.typed name type)
  | untyped (name : String) : Built (.untyped name)
  | withIndexed {f : Field} (flag : Bool) : Built f → Built (f.withIndexed flag)
  | withStored {f : Field} (flag : Bool) : Built f → Built (f.withStored flag)
  | withProperty {f : Field} (key : String) (value : Json) :
      Built f → Built (f.withProperty key value)
  | ofProperties {f : Field} {o : Json.Object} : ofProperties o = .ok f → Built f

theorem items_extrasOf (o : Json.Object) :
    (extrasOf o).items = o.entries.filter fun e => !reservedKeys.contains e.1 :=
  KeyedList.items_ofList_of_nodup (o.keys_nodup.sublist (List.filter_sublist.map _))

theorem get?_extrasOf (o : Json.Object) (k : String) :
    (extrasOf o).get? k = if k ∈ reservedKeys then none else o.get? k := by
  refine Option.ext fun v => ?_
  rw [OrderedMap.get?_eq_some_iff, items_extrasOf, List.mem_filter]
  by_cases hk : k ∈ reservedKeys
  · simp [hk]
  · simp [hk, SortedMap.get?_eq_some_iff]

theorem ofProperties_eq_ok_iff {o : Json.Object} : ofProperties o = .ok f ↔
    nameOf o = .ok f.name ∧ typeOf f.name o = .ok f.type ∧ flagOf f.name indexedKey o = .ok f.indexed ∧
      flagOf f.name storedKey o = .ok f.stored ∧ f.extras = extrasOf o := by
  constructor
  · intro h
    simp only [ofProperties, bind, Except.bind] at h
    split at h
    · cases h
    · next name hname =>
      split at h
      · cases h
      · next type htype =>
        split at h
        · cases h
        · next indexed hindexed =>
          split at h
          · cases h
          · next stored hstored =>
            cases h
            exact ⟨hname, htype, hindexed, hstored, rfl⟩
  · rintro ⟨hname, htype, hindexed, hstored, hextras⟩
    cases f
    subst hextras
    simp_all [ofProperties, bind, Except.bind, pure, Except.pure]

/-- No further property of a built field has a reserved key. -/
theorem Built.property?_reserved (h : f.Built) (hk : k ∈ reservedKeys) : f.property? k = none := by
  induction h with
  | typed name type => rfl
  | untyped name => rfl
  | withIndexed flag _ ih => exact ih
  | withStored flag _ ih => exact ih
  | withProperty key value _ ih =>
      unfold Field.withProperty
      split
      · split <;> exact ih
      · split
        · split <;> exact ih
        · split
          · exact ih
          · split
            · exact ih
            · next h1 h2 h3 h4 =>
              have hne : key ≠ k := fun e => by
                subst e
                simp [reservedKeys, h1, h2, h3, h4] at hk
              simp only [property?, OrderedMap.get?_insert, hne, ↓reduceIte]
              exact ih
  | ofProperties ho =>
      rw [property?, (ofProperties_eq_ok_iff.mp ho).2.2.2.2, get?_extrasOf, if_pos hk]

/-! ## The object of a field -/

/-- The object of a built field shows every part of it under its own key. -/
theorem get?_toProperties (h : f.Built) (k : String) : f.toProperties.get? k =
    if k = nameKey then some (.string f.name)
    else if k = typeKey then f.type.map fun t => .string t.name
    else if k = indexedKey then f.indexed.map .bool
    else if k = storedKey then f.stored.map .bool
    else f.property? k := by
  have hfold : ∀ o : Json.Object,
      (f.extras.items.foldl (fun o e => o.insert e.1 e.2) o).get? k =
        (f.property? k).or (o.get? k) :=
    fun o => SortedMap.get?_foldl_insert f.extras.distinct o k
  rw [toProperties, hfold]
  by_cases hk : k ∈ reservedKeys
  · rw [h.property?_reserved hk, Option.none_or]
    simp only [reservedKeys, List.mem_cons, List.not_mem_nil, or_false] at hk
    rcases hk with rfl | rfl | rfl | rfl <;>
      cases f.type <;> cases f.indexed <;> cases f.stored <;>
      simp [SortedMap.get?_insert, nameKey, typeKey, indexedKey, storedKey]
  · simp only [reservedKeys, List.mem_cons, List.not_mem_nil, or_false, not_or] at hk
    obtain ⟨h1, h2, h3, h4⟩ := hk
    simp only [if_neg h1, if_neg h2, if_neg h3, if_neg h4]
    cases f.type <;> cases f.indexed <;> cases f.stored <;>
      simp [SortedMap.get?_insert, Ne.symm h1, Ne.symm h2, Ne.symm h3, Ne.symm h4]

/-- The field that the object of a field is read as, if it can be read. -/
def read (f : Field) : Except FieldError Field := ofProperties f.toProperties

/-- The field that the object of a legible field is read as. -/
def readBack (f : Field) : Field := { f with extras := extrasOf f.toProperties }

/-- What can be written and read again: the name is not blank, and the type, if there is one, is known by a
name that is not blank either. -/
structure Legible (f : Field) : Prop where
  built : f.Built
  name : Text.isBlank f.name = false
  type : ∀ t, f.type = some t → Text.isBlank t.name = false ∧ FieldType.ofName t.name = t

theorem Legible.typed {name : String} {type : FieldType} (hn : Text.isBlank name = false)
    (ht : Text.isBlank type.name = false) (ho : FieldType.ofName type.name = type) :
    (Field.typed name type).Legible :=
  ⟨.typed name type, hn, fun _ h => Option.some.inj h ▸ ⟨ht, ho⟩⟩

theorem Legible.withIndexed (flag : Bool) (h : f.Legible) : (f.withIndexed flag).Legible :=
  ⟨.withIndexed flag h.built, h.name, h.type⟩

theorem Legible.withStored (flag : Bool) (h : f.Legible) : (f.withStored flag).Legible :=
  ⟨.withStored flag h.built, h.name, h.type⟩

theorem Legible.withProperty (hk : k ∉ reservedKeys) (value : Json) (h : f.Legible) :
    (f.withProperty k value).Legible := by
  have hfield : f.withProperty k value = { f with extras := f.extras.insert k value } := by
    simp only [reservedKeys, List.mem_cons, List.not_mem_nil, or_false, not_or] at hk
    obtain ⟨h1, h2, h3, h4⟩ := hk
    simp only [Field.withProperty, if_neg h1, if_neg h2, if_neg h3, if_neg h4]
  have hbuilt := Built.withProperty k value h.built
  rw [hfield] at hbuilt ⊢
  exact ⟨hbuilt, h.name, h.type⟩

theorem nameOf_toProperties (h : f.Built) (hn : Text.isBlank f.name = false) :
    nameOf f.toProperties = .ok f.name := by
  simp [nameOf, get?_toProperties h, hn]

theorem flagOf_indexed (h : f.Built) (n : String) : flagOf n indexedKey f.toProperties = .ok f.indexed := by
  rw [flagOf, get?_toProperties h]
  cases f.indexed <;> simp [nameKey, typeKey, indexedKey]

theorem flagOf_stored (h : f.Built) (n : String) : flagOf n storedKey f.toProperties = .ok f.stored := by
  rw [flagOf, get?_toProperties h]
  cases f.stored <;> simp [nameKey, typeKey, indexedKey, storedKey]

theorem typeOf_toProperties (h : f.Built) (ht : ∀ t, f.type = some t → Text.isBlank t.name = false)
    (n : String) : typeOf n f.toProperties = .ok (f.type.map fun t => .ofName t.name) := by
  rw [typeOf, get?_toProperties h]
  cases htype : f.type with
  | none => simp [nameKey, typeKey]
  | some t => simp [nameKey, typeKey, ht t htype]

theorem Legible.typeOf_toProperties (h : f.Legible) (n : String) :
    typeOf n f.toProperties = .ok f.type := by
  rw [Field.typeOf_toProperties h.built fun t ht => (h.type t ht).1]
  cases ht : f.type with
  | none => rfl
  | some t => rw [Option.map_some, (h.type t ht).2]

/-- Reading undoes writing, up to the order of the further properties. -/
theorem ofProperties_toProperties (h : f.Legible) : f.read = .ok f.readBack :=
  ofProperties_eq_ok_iff.mpr ⟨nameOf_toProperties h.built h.name, h.typeOf_toProperties _,
    flagOf_indexed h.built _, flagOf_stored h.built _, rfl⟩

/-- Built fields of which neither the name nor the type is blank. -/
structure NonBlank (f : Field) : Prop where
  built : f.Built
  name : Text.isBlank f.name = false
  type : ∀ t, f.type = some t → Text.isBlank t.name = false

theorem Legible.nonBlank (h : f.Legible) : f.NonBlank := ⟨h.built, h.name, fun t ht => (h.type t ht).1⟩

/-- Such a field can be read again, though perhaps with another one of the types that have its type's name. -/
theorem NonBlank.exists_read (h : f.NonBlank) : ∃ g, f.read = .ok g := by
  let g : Field :=
    { f with type := f.type.map fun t => .ofName t.name, extras := extrasOf f.toProperties }
  exact ⟨g, ofProperties_eq_ok_iff.mpr ⟨nameOf_toProperties h.built h.name,
    typeOf_toProperties h.built h.type _, flagOf_indexed h.built _, flagOf_stored h.built _, rfl⟩⟩

/-- Whatever a built field is read as has its name. -/
theorem name_of_read (h : f.Built) (hg : f.read = .ok g) : g.name = f.name := by
  have hname := (ofProperties_eq_ok_iff.mp hg).1
  rw [nameOf, get?_toProperties h] at hname
  simp only [↓reduceIte] at hname
  split at hname
  · cases hname
  · exact (Except.ok.inj hname).symm

/-! ## Fields that are alike -/

/-- Equality up to the order of the further properties. -/
structure Alike (f g : Field) : Prop where
  name : f.name = g.name
  type : f.type = g.type
  indexed : f.indexed = g.indexed
  stored : f.stored = g.stored
  property : ∀ k, f.property? k = g.property? k

theorem Alike.refl (f : Field) : f.Alike f := ⟨rfl, rfl, rfl, rfl, fun _ => rfl⟩

theorem Alike.symm (h : f.Alike g) : g.Alike f :=
  ⟨h.name.symm, h.type.symm, h.indexed.symm, h.stored.symm, fun k => (h.property k).symm⟩

theorem Alike.trans {e : Field} (h : f.Alike g) (h' : g.Alike e) : f.Alike e :=
  ⟨h.name.trans h'.name, h.type.trans h'.type, h.indexed.trans h'.indexed, h.stored.trans h'.stored,
    fun k => (h.property k).trans (h'.property k)⟩

theorem Alike.same (h : f.Alike g) : f.same g = true := by
  have hextras : f.extras.sameItems (fun a b => a.2.same b.2) g.extras = true := by
    refine KeyedList.sameItems_iff.mpr fun k => ?_
    have hk := h.property k
    simp only [property?, OrderedMap.get?] at hk
    cases hf : f.extras.find? k with
    | none =>
        rw [hf, Option.map_none] at hk
        rw [Option.map_eq_none_iff.mp hk.symm]
        exact .none
    | some a =>
        rw [hf, Option.map_some] at hk
        obtain ⟨b, hb, hab⟩ := Option.map_eq_some_iff.mp hk.symm
        rw [hb]
        exact .some (hab ▸ Json.same_refl a.2)
  simp [Field.same, h.name, h.type, h.indexed, h.stored, hextras]

theorem Built.alike_readBack (h : f.Built) : f.Alike f.readBack := by
  refine ⟨rfl, rfl, rfl, rfl, fun k => ?_⟩
  rw [property?.eq_1 f.readBack, readBack, get?_extrasOf, get?_toProperties h]
  by_cases hk : k ∈ reservedKeys
  · rw [if_pos hk, h.property?_reserved hk]
  · rw [if_neg hk]
    simp only [reservedKeys, List.mem_cons, List.not_mem_nil, or_false, not_or] at hk
    obtain ⟨h1, h2, h3, h4⟩ := hk
    simp only [if_neg h1, if_neg h2, if_neg h3, if_neg h4]

end Field

end TableIndex
