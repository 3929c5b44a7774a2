import TableIndex.Proofs.Schema.Exchange

/-!
# The entries of a schema

A schema is a map of fields in which every field was entered under the name that it had then. However the schema was
made, its entries are still found under the names of their fields, and no field has a further property that would
cover its name, its type or a flag (`entries_of_made`).
-/

namespace TableIndex

variable {s t : Schema} {f g : Field} {k : String} {m : OrderedMap Field}

/-! ## Fields entered under their names -/

/-- The map with a field entered under its name. -/
def Field.enter (m : OrderedMap Field) (f : Field) : OrderedMap Field := m.insert f.name f

/-- The maps that arise as built fields are entered under their names, one after the other. -/
inductive Entered : OrderedMap Field → Prop where
  | empty : Entered .empty
  | enter {m : OrderedMap Field} {f : Field} : Entered m → f.Built → Entered (f.enter m)

namespace Entered

theorem enterAll (h : Entered m) {fs : List Field} (hfs : ∀ f ∈ fs, f.Built) :
    Entered (fs.foldl (fun m f => f.enter m) m) := by
  induction fs generalizing m with
  | nil => exact h
  | cons f fs ih =>
      obtain ⟨hf, hfs⟩ := List.forall_mem_cons.mp hfs
      exact ih (h.enter hf) hfs

/-- What is found under a name is a built field of that name. -/
theorem named (h : Entered m) (hf : m.get? k = some f) : f.name = k ∧ f.Built := by
  induction h with
  | empty => cases hf
  | @enter m g _ hg ih =>
      rw [Field.enter, OrderedMap.get?_insert] at hf
      split at hf
      · next hk =>
        obtain rfl := Option.some.inj hf
        exact ⟨hk, hg⟩
      · exact ih hf

end Entered

/-! ## Schemas as such maps -/

theorem KeyedList.map_upsertItem {α β : Type} (key : β → String) (g : α → β) (a : α) (l : List α) :
    (upsertItem (fun a => key (g a)) a l).map g = upsertItem key (g a) (l.map g) := by
  induction l with
  | nil => rfl
  | cons b bs ih =>
      rw [upsertItem, List.map_cons, upsertItem]
      split
      · rfl
      · rw [List.map_cons, ih]

namespace Schema

/-- The fields of a schema under their names. -/
def entries (s : Schema) : OrderedMap Field where
  items := s.toList.map fun f => (f.name, f)
  distinct := by
    rw [List.map_map]
    exact s.fields.distinct

theorem keys_entries (s : Schema) : s.entries.keys = s.names := by
  rw [KeyedList.keys, entries, List.map_map]
  rfl

theorem entries_add (s : Schema) (f : Field) : (s.add f).entries = f.enter s.entries :=
  KeyedList.ext (KeyedList.map_upsertItem Prod.fst (fun f : Field => (f.name, f)) f s.toList)

theorem entries_addAll (s : Schema) (fs : List Field) :
    entries { s with fields := s.fields.upsertAll fs } = fs.foldl (fun m f => f.enter m) s.entries := by
  induction fs generalizing s with
  | nil => rfl
  | cons f fs ih => rw [KeyedList.upsertAll_cons, List.foldl_cons, ← entries_add, ← ih (s.add f), add]

theorem entries_ofFields (key : String) (fs : List Field) :
    (ofFields key fs).entries = fs.foldl (fun m f => f.enter m) .empty :=
  entries_addAll ⟨_, .empty⟩ fs

theorem entries_mergedWith (s t : Schema) : (s.mergedWith t).entries = t.toList.foldl (fun m f => f.enter m) s.entries :=
  entries_addAll ⟨t.uniqueKey, s.fields⟩ t.toList

theorem get?_entries_iff : s.entries.get? k = some f ↔ f ∈ s.toList ∧ f.name = k := by
  rw [OrderedMap.get?_eq_some_iff, entries, List.mem_map]
  constructor
  · rintro ⟨g, hg, he⟩
    obtain ⟨rfl, rfl⟩ := Prod.mk.inj he
    exact ⟨hg, rfl⟩
  · rintro ⟨hf, rfl⟩
    exact ⟨f, hf, rfl⟩

theorem Made.entered (h : s.Made) : Entered s.entries := by
  induction h with
  | default => exact .empty
  | ofFields key hfs =>
      rw [entries_ofFields]
      exact Entered.empty.enterAll hfs
  | ofProperties h =>
      simp only [Schema.ofProperties, bind, Except.bind] at h
      split at h
      · cases h
      · next fs hfs =>
        cases h
        rw [entries_ofFields]
        exact Entered.empty.enterAll (forall_mem_of_mapM (fun _ _ => .ofProperties) hfs)
  | parse h =>
      have hempty : ∀ key, Entered (Schema.ofFields key []).entries := fun key => entries_ofFields key [] ▸ .empty
      refine of_readFields (P := fun s => Entered s.entries) (hempty _) (fun _ _ _ s f hs hread => ?_) h
      obtain ⟨o, -, ho⟩ := readField_eq_ok hread
      rw [entries_add]
      exact hs.enter (.ofProperties ho)
  | add _ hf ih =>
      rw [entries_add]
      exact ih.enter hf
  | @mergedWith s t _ ht ihs _ =>
      rw [entries_mergedWith]
      exact ihs.enterAll (fields_built ht.built)

/-! ## What is kept -/

/-- However a schema was made, its unique key is not blank. Its entries are those of a map in which fields were
entered under the names that they had then, as adding and merging enter them, and still every entry has the name of
its field. No two fields have one name, and no further property of a field has a reserved key; so the object of a
field shows its name, its type and its flags. -/
theorem entries_of_made (h : s.Made) :
    Text.isBlank s.uniqueKey = false ∧
    Entered s.entries ∧
    (∀ f, (s.add f).entries = f.enter s.entries) ∧
    (∀ t : Schema, (s.mergedWith t).entries = t.toList.foldl (fun m f => f.enter m) s.entries) ∧
    (∀ k f, s.entries.get? k = some f → f.name = k) ∧
    (s.toList.map Field.name).Nodup ∧
    ∀ f ∈ s.toList, (∀ k ∈ Field.reservedKeys, f.extras.contains k = false) ∧
      f.toProperties.get? Field.nameKey = some (.string f.name) ∧
      f.toProperties.get? Field.typeKey = f.type.map (fun t => .string t.name) ∧
      f.toProperties.get? Field.indexedKey = f.indexed.map .bool ∧
      f.toProperties.get? Field.storedKey = f.stored.map .bool := by
  have hentered := h.entered
  refine ⟨h.built.uniqueKey, hentered, entries_add s, entries_mergedWith s, fun k f hf => (hentered.named hf).1,
    ?names, fun f hf => ?field⟩
  case names =>
    have hkeys := s.entries.keys_nodup
    rw [keys_entries] at hkeys
    exact hkeys
  case field =>
    have hbuilt : f.Built := (hentered.named (get?_entries_iff.mpr ⟨hf, rfl⟩)).2
    refine ⟨fun k hk => ?_, ?_, ?_, ?_, ?_⟩
    · have hnone := hbuilt.property?_reserved hk
      rw [Field.property?, OrderedMap.get?, Option.map_eq_none_iff] at hnone
      rw [KeyedList.contains, hnone, Option.isSome_none]
    all_goals rw [Field.get?_toProperties hbuilt]; rfl

/-- A schema of which one field was renamed, one replaced, and one came with a merge. -/
def renamed : Schema :=
  ((Schema.ofFields " " [(Field.untyped "a").withProperty "name" (.string "b"), .typed "b" .int]).add
    ((Field.typed "c" .long).withProperty "docValues" (.bool true))).mergedWith
      (.ofFields "pk" [(Field.typed "c" .string).withProperty "type" (.string "text")])

theorem entries_of_made_renamed :
    renamed.Made ∧ Text.isBlank renamed.uniqueKey = false ∧ Entered renamed.entries ∧
    renamed.entries.keys = ["b", "c"] ∧
    ∀ k f, renamed.entries.get? k = some f → f.name = k := by
  have hfirst : (Schema.ofFields " " [(Field.untyped "a").withProperty "name" (.string "b"), .typed "b" .int]).Made :=
    .ofFields " " (List.forall_mem_cons.mpr ⟨.withProperty _ _ (.untyped "a"),
      List.forall_mem_singleton.mpr (.typed "b" .int)⟩)
  have hnewer : (Schema.ofFields "pk" [(Field.typed "c" .string).withProperty "type" (.string "text")]).Made :=
    .ofFields "pk" (List.forall_mem_singleton.mpr (.withProperty _ _ (.typed "c" .string)))
  have hmade : renamed.Made := .mergedWith (.add hfirst (.withProperty _ _ (.typed "c" .long))) hnewer
  obtain ⟨hkey, hentered, -, -, hnames, -⟩ := entries_of_made hmade
  exact ⟨hmade, hkey, hentered, rfl, hnames⟩

end Schema

end TableIndex
