import TableIndex.Proofs.Field.Reading
import TableIndex.Proofs.Schema.Read
import TableIndex.Proofs.Schema.Text

/-!
# Schemas and fields exchanged as property objects

However a schema was made, it is read from its property objects as it was, its fields in their order; and what an
object was read as is written as that object again (`exchange_faithful`).
-/

namespace TableIndex.Schema

variable {s t : Schema} {f : Field}

/-! ## Schemas that are made -/

/-- The schemas that can be made of built fields, of objects and of texts, and then be added to and merged. -/
inductive Made : Schema → Prop where
  | default : Made .default
  | ofFields (key : String) {fs : List Field} : (∀ f ∈ fs, f.Built) → Made (.ofFields key fs)
  | ofProperties {key : String} {objects : List Json.Object} {s : Schema} :
      ofProperties key objects = .ok s → Made s
  | parse {key : Option String} {text : String} {s : Schema} : parse key text = .ok s → Made s
  | add {s : Schema} {f : Field} : Made s → f.Built → Made (s.add f)
  | mergedWith {s t : Schema} : Made s → Made t → Made (s.mergedWith t)

theorem forall_mem_of_mapM {α β ε : Type} {f : α → Except ε β} {P : β → Prop} (hP : ∀ a b, f a = .ok b → P b)
    {as : List α} {bs : List β} (h : as.mapM f = .ok bs) : ∀ b ∈ bs, P b := by
  induction as generalizing bs with
  | nil =>
      cases h
      exact nofun
  | cons a as ih =>
      obtain ⟨b, bs', hb, hbs, rfl⟩ := mapM_cons_eq_ok h
      exact List.forall_mem_cons.mpr ⟨hP a b hb, ih hbs⟩

theorem Built.ofProperties {key : String} {objects : List Json.Object} (h : ofProperties key objects = .ok s) :
    s.Built := by
  simp only [Schema.ofProperties, bind, Except.bind] at h
  split at h
  · cases h
  · next fs hfs =>
    cases h
    exact .ofFields (forall_mem_of_mapM (fun _ _ => .ofProperties) hfs) key

theorem Built.add (hs : s.Built) (hf : f.Built) : (s.add f).Built := by
  refine ⟨hs.uniqueKey, fun n g hg => ?_⟩
  rw [field?, Schema.add, KeyedList.find?_upsert] at hg
  split at hg
  · exact Option.some.inj hg ▸ hf
  · exact hs.fields n g hg

theorem Built.mergedWith (hs : s.Built) (ht : t.Built) : (s.mergedWith t).Built := by
  refine ⟨ht.uniqueKey, fun n f hf => ?_⟩
  rw [field?_mergedWith, Option.or_eq_some_iff] at hf
  rcases hf with hf | ⟨-, hf⟩
  · exact ht.fields n f hf
  · exact hs.fields n f hf

theorem Built.parse {key : Option String} {text : String} (h : parse key text = .ok s) : s.Built := by
  refine ⟨?_, fun n f hf => ?_⟩
  · rw [uniqueKey_of_readFields h]
    exact uniqueKey_ofFields_not_blank _ _
  · refine forall_of_readFields (P := Field.Built) (List.forall_mem_nil _) (fun _ _ _ _ hread => ?_) h f
      (field?_eq_some_iff.mp hf).1
    obtain ⟨o, -, ho⟩ := readField_eq_ok hread
    exact .ofProperties ho

theorem Made.built (h : s.Made) : s.Built := by
  induction h with
  | default => exact .default
  | ofFields key hfs => exact .ofFields hfs key
  | ofProperties h => exact .ofProperties h
  | parse h => exact .parse h
  | add _ hf ih => exact ih.add hf
  | mergedWith _ _ ihs iht => exact ihs.mergedWith iht

/-! ## Reading what was written, and writing what was read -/

theorem names_read (hs : s.Built) (h : s.read = .ok t) : t.names = s.names := by
  obtain ⟨fs, hfs, rfl⟩ := read_eq_ok h
  have hnames := names_mapM (fields_built hs) hfs
  have hitems : (Schema.ofFields s.uniqueKey fs).fields.items = fs :=
    KeyedList.items_ofList_of_nodup (hnames ▸ s.names_toList_nodup)
  rw [names, KeyedList.keys, hitems, hnames]
  rfl

/-- A schema is read from its property objects as it was, its fields in their order, if every field can be read;
and the field that an object is read as is written as that object, but for flags that it says in words. -/
theorem exchange_faithful :
    (∀ s : Schema, s.Made → (∀ f ∈ s.toList, f.Legible) →
      ∃ t, Schema.ofProperties s.uniqueKey (s.toList.map Field.toProperties) = .ok t ∧
        s.same t = true ∧ t.names = s.names) ∧
    ∀ (o : Json.Object) (f : Field), Field.ofProperties o = .ok f →
      ∀ k, f.toProperties.get? k = (o.get? k).map (Field.rewritten k) := by
  refine ⟨fun s hs hf => ?_, fun o f h => Field.get?_toProperties_of_ofProperties h⟩
  have hlegible : s.Legible := ⟨hs.built.uniqueKey, fun n f hn => hf f (field?_eq_some_iff.mp hn).1⟩
  obtain ⟨t, ht, halike⟩ := hlegible.read
  exact ⟨t, ht, halike.same, names_read hs.built ht⟩

/-- A schema with a further property, a flag and a field without a type. -/
def priced : Schema :=
  .ofFields "id" [((Field.typed "price" .double).withStored true).withProperty "docValues" (.bool true), .untyped "note"]

/-- An object with a flag in words. -/
def flagged : Json.Object := (SortedMap.empty.insert "name" (.string "price")).insert "indexed" (.string "true")

theorem exchange_faithful_priced :
    priced.Made ∧ (∀ f ∈ priced.toList, f.Legible) ∧
    (∃ t, Schema.ofProperties priced.uniqueKey (priced.toList.map Field.toProperties) = .ok t ∧
      priced.same t = true ∧ t.names = priced.names) ∧
    Field.ofProperties flagged = .ok ((Field.untyped "price").withIndexed true) ∧
    ((Field.untyped "price").withIndexed true).toProperties.get? "indexed" =
      (flagged.get? "indexed").map (Field.rewritten "indexed") := by
  have hprice : (((Field.typed "price" .double).withStored true).withProperty "docValues" (.bool true)).Legible :=
    .withProperty (by decide) _ (.withStored _ (.typed (by decide) (by decide) rfl))
  have hnote : (Field.untyped "note").Legible := ⟨.untyped "note", by decide, nofun⟩
  have hfields : ∀ f ∈ priced.toList, f.Legible :=
    List.forall_mem_cons.mpr ⟨hprice, List.forall_mem_singleton.mpr hnote⟩
  have hmade : priced.Made := .ofFields "id" fun f hf => (hfields f hf).built
  exact ⟨hmade, hfields, exchange_faithful.1 priced hmade hfields, rfl,
    exchange_faithful.2 flagged _ rfl "indexed"⟩

end TableIndex.Schema
