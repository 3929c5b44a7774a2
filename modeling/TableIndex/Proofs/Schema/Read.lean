import TableIndex.Proofs.Field.Properties
import TableIndex.Proofs.Schema.Plan

/-!
# Schemas as they are read

A schema reaches its reader as a unique key and one property object for each field. What is read has the
names of what was written (`field?_read`), and a legible schema is read as it was, up to the order of
further properties (`Legible.read`).
-/

namespace TableIndex.Schema

variable {s t u : Schema} {n : String}

/-! ## Schemas that can be built -/

/-- The schemas that the operations on schemas make. -/
structure Built (s : Schema) : Prop where
  uniqueKey : Text.isBlank s.uniqueKey = false
  fields : ∀ n f, s.field? n = some f → f.Built

/-- Built schemas without blank names and types. -/
structure NonBlank (s : Schema) : Prop where
  uniqueKey : Text.isBlank s.uniqueKey = false
  fields : ∀ n f, s.field? n = some f → f.NonBlank

/-- Built schemas of which every field can be written and read again. -/
structure Legible (s : Schema) : Prop where
  uniqueKey : Text.isBlank s.uniqueKey = false
  fields : ∀ n f, s.field? n = some f → f.Legible

theorem NonBlank.built (h : s.NonBlank) : s.Built :=
  ⟨h.uniqueKey, fun n f hf => (h.fields n f hf).built⟩

theorem Legible.nonBlank (h : s.Legible) : s.NonBlank :=
  ⟨h.uniqueKey, fun n f hf => (h.fields n f hf).nonBlank⟩

theorem Legible.built (h : s.Legible) : s.Built := h.nonBlank.built

theorem Built.default : Schema.default.Built := ⟨by decide, fun _ _ h => by cases h⟩

theorem Built.revised {known served desired : Schema} (hs : served.Built) (hd : desired.Built)
    (merge : Bool) : (revised known served desired merge).Built := by
  refine ⟨hs.uniqueKey, fun n f hf => ?_⟩
  rw [field?_revised, Option.or_eq_some_iff] at hf
  rcases hf with hf | ⟨-, hf⟩
  · exact hd.fields n f hf
  · split at hf
    · exact hs.fields n f hf
    · cases hf

theorem Legible.revised {known served desired : Schema} (hs : served.Legible) (hd : desired.Legible)
    (merge : Bool) : (revised known served desired merge).Legible := by
  refine ⟨hs.uniqueKey, fun n f hf => ?_⟩
  rw [field?_revised, Option.or_eq_some_iff] at hf
  rcases hf with hf | ⟨-, hf⟩
  · exact hd.fields n f hf
  · split at hf
    · exact hs.fields n f hf
    · cases hf

theorem uniqueKey_ofFields_not_blank (key : String) (fs : List Field) :
    Text.isBlank (ofFields key fs).uniqueKey = false := by
  rw [ofFields]
  split
  · exact Built.default.uniqueKey
  · next hkey => simpa using hkey

theorem forall_field_ofFields {P : Field → Prop} (key : String) {fs : List Field} (h : ∀ f ∈ fs, P f) :
    ∀ n f, (ofFields key fs).field? n = some f → P f := fun n f hf => by
  rcases KeyedList.mem_upsertAll (field?_eq_some_iff.mp hf).1 with hf | hf
  · exact h f hf
  · cases hf

theorem Built.ofFields {fs : List Field} (h : ∀ f ∈ fs, f.Built) (key : String) : (ofFields key fs).Built :=
  ⟨uniqueKey_ofFields_not_blank key fs, forall_field_ofFields key h⟩

theorem Legible.ofFields {fs : List Field} (h : ∀ f ∈ fs, f.Legible) (key : String) :
    (ofFields key fs).Legible :=
  ⟨uniqueKey_ofFields_not_blank key fs, forall_field_ofFields key h⟩

theorem Legible.ofTyped {name : String} {type : FieldType} (hn : Text.isBlank name = false)
    (ht : Text.isBlank type.name = false) (ho : FieldType.ofName type.name = type) (key : String) :
    (Schema.ofFields key [.typed name type]).Legible := by
  refine .ofFields (fun f hf => ?_) key
  obtain rfl : f = .typed name type := List.mem_singleton.mp hf
  exact .typed hn ht ho

theorem legible_baseSchema : Cluster.baseSchema.Legible := by
  refine .ofFields (fun f hf => ?_) _
  simp only [List.mem_cons, List.not_mem_nil, or_false] at hf
  rcases hf with rfl | rfl
  · exact .withProperty (by decide) _ (.withStored _ (.withIndexed _ (.typed (by decide) (by decide) rfl)))
  · exact .withStored _ (.withIndexed _ (.typed (by decide) (by decide) rfl))

/-! ## Reading -/

/-- The schema that is read where `s` is served. -/
def read (s : Schema) : Except FieldError Schema :=
  ofProperties s.uniqueKey (s.toList.map Field.toProperties)

theorem mapM_cons_eq_ok {α β ε : Type} {f : α → Except ε β} {a : α} {as : List α} {bs : List β}
    (h : (a :: as).mapM f = .ok bs) : ∃ b bs', f a = .ok b ∧ as.mapM f = .ok bs' ∧ bs = b :: bs' := by
  rw [List.mapM_cons] at h
  cases ha : f a with
  | error e =>
      rw [ha] at h
      cases h
  | ok b =>
      cases has : as.mapM f with
      | error e =>
          rw [ha, has] at h
          cases h
      | ok bs' =>
          rw [ha, has] at h
          cases h
          exact ⟨b, bs', rfl, rfl, rfl⟩

theorem names_mapM {fs gs : List Field} (hb : ∀ f ∈ fs, f.Built)
    (h : (fs.map Field.toProperties).mapM Field.ofProperties = .ok gs) :
    gs.map Field.name = fs.map Field.name := by
  induction fs generalizing gs with
  | nil =>
      cases h
      rfl
  | cons f fs ih =>
      obtain ⟨g, gs', hg, hgs, rfl⟩ := mapM_cons_eq_ok h
      rw [List.map_cons, List.map_cons, Field.name_of_read (hb f List.mem_cons_self) hg,
        ih (fun f hf => hb f (List.mem_cons_of_mem _ hf)) hgs]

theorem find?_mapM {fs gs : List Field} (hb : ∀ f ∈ fs, f.Built)
    (h : (fs.map Field.toProperties).mapM Field.ofProperties = .ok gs) (n : String) :
    (gs.find? (·.name == n)).map .ok = (fs.find? (·.name == n)).map Field.read := by
  induction fs generalizing gs with
  | nil =>
      cases h
      rfl
  | cons f fs ih =>
      obtain ⟨g, gs', hg, hgs, rfl⟩ := mapM_cons_eq_ok h
      have hname := Field.name_of_read (hb f List.mem_cons_self) hg
      by_cases hn : f.name = n
      · simp [hname, hn, Field.read, hg]
      · simpa [hname, hn] using ih (fun f hf => hb f (List.mem_cons_of_mem _ hf)) hgs

theorem mapM_eq_ok {fs : List Field} (h : ∀ f ∈ fs, ∃ g, f.read = .ok g) :
    ∃ gs, (fs.map Field.toProperties).mapM Field.ofProperties = .ok gs := by
  induction fs with
  | nil => exact ⟨[], rfl⟩
  | cons f fs ih =>
      obtain ⟨g, hg⟩ := h f List.mem_cons_self
      obtain ⟨gs, hgs⟩ := ih fun f hf => h f (List.mem_cons_of_mem _ hf)
      refine ⟨g :: gs, ?_⟩
      rw [List.map_cons, List.mapM_cons, hgs, ← Field.read, hg]
      rfl

theorem fields_built (hs : s.Built) : ∀ f ∈ s.toList, f.Built := fun f hf =>
  hs.fields f.name f (field?_eq_some_iff.mpr ⟨hf, rfl⟩)

theorem read_eq_ok (h : s.read = .ok t) :
    ∃ gs, (s.toList.map Field.toProperties).mapM Field.ofProperties = .ok gs ∧
      t = ofFields s.uniqueKey gs := by
  simp only [read, ofProperties, bind, Except.bind] at h
  split at h
  · cases h
  · next gs hgs =>
      cases h
      exact ⟨gs, hgs, rfl⟩

/-- The fields read are those served, each read on its own. -/
theorem field?_read (hs : s.Built) (h : s.read = .ok t) (n : String) :
    (t.field? n).map .ok = (s.field? n).map Field.read := by
  obtain ⟨gs, hgs, rfl⟩ := read_eq_ok h
  have hnames := names_mapM (fields_built hs) hgs
  have hitems : (ofFields s.uniqueKey gs).fields.items = gs :=
    KeyedList.items_ofList_of_nodup (hnames ▸ s.names_toList_nodup)
  rw [field?, KeyedList.find?, hitems]
  exact find?_mapM (fields_built hs) hgs n

theorem contains_read (hs : s.Built) (h : s.read = .ok t) (n : String) :
    t.contains n = s.contains n := by
  rw [contains_eq, contains_eq, ← Option.isSome_map (f := Except.ok (ε := FieldError)), field?_read hs h,
    Option.isSome_map]

theorem uniqueKey_read (h : s.read = .ok t) :
    t.uniqueKey = if Text.isBlank s.uniqueKey then idKey else s.uniqueKey := by
  obtain ⟨gs, -, rfl⟩ := read_eq_ok h
  rfl

theorem Built.uniqueKey_read (hs : s.Built) (h : s.read = .ok t) : t.uniqueKey = s.uniqueKey := by
  rw [Schema.uniqueKey_read h, hs.uniqueKey]
  rfl

theorem exists_read_iff (hs : s.Built) :
    (∃ t, s.read = .ok t) ↔ ∀ n f, s.field? n = some f → ∃ g, f.read = .ok g := by
  constructor
  · rintro ⟨t, ht⟩ n f hf
    have hn := field?_read hs ht n
    rw [hf, Option.map_some] at hn
    obtain ⟨g, -, hg⟩ := Option.map_eq_some_iff.mp hn
    exact ⟨g, hg.symm⟩
  · intro h
    obtain ⟨gs, hgs⟩ := mapM_eq_ok fun f hf => h f.name f (field?_eq_some_iff.mpr ⟨hf, rfl⟩)
    refine ⟨ofFields s.uniqueKey gs, ?_⟩
    rw [read, ofProperties, hgs]
    rfl

/-- What a change leaves can be read if what was served before it could. -/
theorem NonBlank.exists_read_revised {known served desired fetched : Schema} (hd : desired.NonBlank)
    (hs : served.Built) (hread : served.read = .ok fetched) (merge : Bool) :
    ∃ t, (revised known served desired merge).read = .ok t := by
  refine (exists_read_iff (hs.revised hd.built merge)).mpr fun n f hf => ?_
  rw [field?_revised, Option.or_eq_some_iff] at hf
  rcases hf with hf | ⟨-, hf⟩
  · exact (hd.fields n f hf).exists_read
  · split at hf
    · exact (exists_read_iff hs).mp ⟨fetched, hread⟩ n f hf
    · cases hf

/-! ## Schemas that are alike -/

/-- Equality up to the order of the fields and of their further properties. -/
structure Alike (s t : Schema) : Prop where
  uniqueKey : s.uniqueKey = t.uniqueKey
  fields : ∀ n, Option.Rel Field.Alike (s.field? n) (t.field? n)

theorem Alike.refl (s : Schema) : s.Alike s := by
  refine ⟨rfl, fun n => ?_⟩
  cases s.field? n with
  | none => exact .none
  | some f => exact .some (.refl f)

theorem Alike.symm (h : s.Alike t) : t.Alike s :=
  ⟨h.uniqueKey.symm, fun n => (h.fields n).swap fun _ _ hf => hf.symm⟩

theorem Alike.trans (h : s.Alike t) (h' : t.Alike u) : s.Alike u :=
  ⟨h.uniqueKey.trans h'.uniqueKey, fun n => (h.fields n).comp (fun _ _ _ hf hg => hf.trans hg) (h'.fields n)⟩

theorem Alike.contains (h : s.Alike t) (n : String) : s.contains n = t.contains n :=
  (h.fields n).isSome_eq

theorem same_iff : s.same t = true ↔ s.uniqueKey = t.uniqueKey ∧
    ∀ n, Option.Rel (fun f g => f.same g = true) (s.field? n) (t.field? n) := by
  rw [same, Bool.and_eq_true, beq_iff_eq]
  exact and_congr_right fun _ => KeyedList.sameItems_iff

theorem Alike.same (h : s.Alike t) : s.same t = true :=
  same_iff.mpr ⟨h.uniqueKey, fun n => (h.fields n).imp fun _ _ hf => hf.same⟩

/-- A plan leaves a schema as it is that has all desired fields, if no other field is to be deleted. -/
theorem alike_revised {known served desired : Schema} {merge : Bool}
    (hdesired : ∀ n f, desired.field? n = some f → served.field? n = some f)
    (hothers : ∀ n, served.contains n = true → desired.contains n = false →
      (merge || !known.contains n || known.isProtected n) = true) :
    served.Alike (revised known served desired merge) := by
  refine ⟨rfl, fun n => ?_⟩
  rw [field?_revised]
  cases hd : desired.field? n with
  | some f =>
      rw [hdesired n f hd, Option.some_or]
      exact .some (.refl f)
  | none =>
      rw [Option.none_or]
      cases hs : served.field? n with
      | none =>
          rw [ite_self]
          exact .none
      | some f =>
          rw [if_pos (hothers n (by rw [contains_eq, hs]; rfl) (by rw [contains_eq, hd]; rfl))]
          exact .some (.refl f)

/-- A legible schema is read as it was. -/
theorem Legible.read (h : s.Legible) : ∃ t, s.read = .ok t ∧ s.Alike t := by
  have hread : ∀ n f, s.field? n = some f → f.read = .ok f.readBack := fun n f hf =>
    Field.ofProperties_toProperties (h.fields n f hf)
  obtain ⟨t, ht⟩ := (exists_read_iff h.built).mpr fun n f hf => ⟨f.readBack, hread n f hf⟩
  refine ⟨t, ht, (h.built.uniqueKey_read ht).symm, fun n => ?_⟩
  have hn := field?_read h.built ht n
  cases hs : s.field? n with
  | none =>
      rw [hs, Option.map_none] at hn
      rw [Option.map_eq_none_iff.mp hn]
      exact .none
  | some f =>
      rw [hs, Option.map_some, hread n f hs] at hn
      obtain ⟨g, hg, hgf⟩ := Option.map_eq_some_iff.mp hn
      rw [hg, Except.ok.inj hgf]
      exact .some (h.fields n f hs).built.alike_readBack

/-- Under the unique key `id`, what is cached after a change is what is served after it, if a replacement
has the protected fields. -/
theorem Alike.plan {known served desired : Schema} {merge : Bool} (h : known.Alike served)
    (hs : served.uniqueKey = idKey) (hd : desired.uniqueKey = idKey)
    (hkeeps : merge = false → desired.contains idKey = true ∧ desired.contains versionKey = true) :
    (SchemaUpdate.plan known desired merge).schema.Alike (revised known served desired merge) := by
  have hkey : (SchemaUpdate.plan known desired merge).schema.uniqueKey = served.uniqueKey := by
    cases merge <;> exact hd.trans hs.symm
  refine ⟨hkey, fun n => ?_⟩
  rw [field?_revised]
  cases hdn : desired.field? n with
  | some f =>
      have hn : (SchemaUpdate.plan known desired merge).schema.field? n = some f := by
        cases merge with
        | true => exact (field?_mergedWith known desired n).trans (by rw [hdn, Option.some_or])
        | false => exact hdn
      rw [hn, Option.some_or]
      exact .some (.refl f)
  | none =>
      rw [Option.none_or]
      cases merge with
      | true =>
          have hn : (SchemaUpdate.plan known desired true).schema.field? n = known.field? n :=
            (field?_mergedWith known desired n).trans (by rw [hdn, Option.none_or])
          rw [hn]
          exact h.fields n
      | false =>
          -- A field that is not desired is not protected, so it was deleted if it was there.
          have hn : (SchemaUpdate.plan known desired false).schema.field? n = none := hdn
          obtain ⟨hid, hversion⟩ := hkeeps rfl
          have hnone : desired.contains n = false := by rw [contains_eq, hdn, Option.isSome_none]
          have hp : known.isProtected n = false := by
            rw [isProtected, h.uniqueKey, hs, Bool.or_eq_false_iff, beq_eq_false_iff_ne,
              beq_eq_false_iff_ne]
            constructor
            · rintro rfl
              rw [hid] at hnone
              cases hnone
            · rintro rfl
              rw [hversion] at hnone
              cases hnone
          rw [hn, hp, h.contains, contains_eq]
          cases served.field? n <;> exact .none

/-! ## Reading what a merge left -/

/-- What is served after a merge can be read if what was served before could, and has the fields that a merge
into the schema known before gives. -/
theorem read_merged {known served desired fetched : Schema} (hs : served.Built)
    (hread : served.read = .ok fetched) (hsame : known.same fetched = true) (hd : desired.Legible) :
    ∃ t, (revised known served desired true).read = .ok t ∧ t.uniqueKey = fetched.uniqueKey ∧
      ∀ n, Option.Rel (fun f g => f.same g = true) ((known.mergedWith desired).field? n)
        (t.field? n) := by
  have hfield : ∀ n, (revised known served desired true).field? n =
      (desired.field? n).or (served.field? n) := fun n => by
    rw [field?_revised, Bool.true_or, Bool.true_or]
    rfl
  have hb : (revised known served desired true).Built := hs.revised hd.built true
  have hdesired : ∀ n f, desired.field? n = some f → f.read = .ok f.readBack := fun n f hf =>
    Field.ofProperties_toProperties (hd.fields n f hf)
  obtain ⟨t, ht⟩ := (exists_read_iff hb).mpr fun n f hf => by
    rw [hfield, Option.or_eq_some_iff] at hf
    rcases hf with hf | ⟨-, hf⟩
    · exact ⟨f.readBack, hdesired n f hf⟩
    · exact (exists_read_iff hs).mp ⟨fetched, hread⟩ n f hf
  refine ⟨t, ht, (uniqueKey_read ht).trans (uniqueKey_read hread).symm, fun n => ?_⟩
  have hn := field?_read hb ht n
  rw [hfield] at hn
  rw [field?_mergedWith]
  cases hdn : desired.field? n with
  | none =>
      rw [hdn, Option.none_or, ← field?_read hs hread n] at hn
      rw [Option.map_injective (fun _ _ => Except.ok.inj) hn]
      exact (same_iff.mp hsame).2 n
  | some f =>
      rw [hdn, Option.some_or, Option.map_some, hdesired n f hdn] at hn
      obtain ⟨g, hg, hgf⟩ := Option.map_eq_some_iff.mp hn
      rw [hg, Except.ok.inj hgf]
      exact .some (hd.fields n f hdn).built.alike_readBack.same

end TableIndex.Schema
