import TableIndex.Cluster.Perform
import TableIndex.Proofs.Map.Keyed
import TableIndex.Proofs.Map.Sorted

/-!
# Applying plans

A plan is made from the schema that is known and applied to the one that is served. Where all that is known
is served, the commands of a plan are accepted one after the other exactly if the desired schema does not
conflict with the served one (`applyUpdates_plan`), and where both have the same names and unique key it
never does.
-/

namespace TableIndex

namespace Schema

variable {s t : Schema} {f : Field} {n : String}

/-! ## Fields after a change -/

theorem contains_eq (s : Schema) (n : String) : s.contains n = (s.field? n).isSome := rfl

theorem field?_eq_some_iff : s.field? n = some f ↔ f ∈ s.toList ∧ f.name = n :=
  KeyedList.find?_eq_some_iff

theorem field?_eq_none_iff : s.field? n = none ↔ ∀ f ∈ s.toList, f.name ≠ n :=
  KeyedList.find?_eq_none_iff

theorem contains_iff : s.contains n = true ↔ ∃ f ∈ s.toList, f.name = n :=
  KeyedList.contains_iff

theorem names_toList_nodup (s : Schema) : (s.toList.map Field.name).Nodup := s.fields.distinct

theorem contains_add (s : Schema) (f : Field) (n : String) :
    (s.add f).contains n = (f.name == n || s.contains n) :=
  KeyedList.contains_upsert s.fields f n

theorem field?_mergedWith (s newer : Schema) (n : String) :
    (s.mergedWith newer).field? n = (newer.field? n).or (s.field? n) :=
  KeyedList.find?_upsertAll_items s.fields newer.fields n

theorem contains_mergedWith (s newer : Schema) (n : String) :
    (s.mergedWith newer).contains n = (newer.contains n || s.contains n) :=
  KeyedList.contains_upsertAll_items s.fields newer.fields n

/-- Merging the same once more changes nothing. -/
theorem mergedWith_mergedWith (s newer : Schema) :
    (s.mergedWith newer).mergedWith newer = s.mergedWith newer := by
  have hfields : (s.fields.upsertAll newer.toList).upsertAll newer.toList = s.fields.upsertAll newer.toList :=
    KeyedList.upsertAll_of_find? fun f hf => by
      have hnewer : newer.fields.find? f.name = some f := KeyedList.find?_eq_some_iff.mpr ⟨hf, rfl⟩
      rw [toList, KeyedList.find?_upsertAll_items, hnewer, Option.some_or]
  rw [mergedWith, mergedWith, hfields]

/-- Merging is associative, the order of the fields included. -/
theorem mergedWith_assoc (r s t : Schema) : (r.mergedWith s).mergedWith t = r.mergedWith (s.mergedWith t) :=
  congrArg (Schema.mk t.uniqueKey) (KeyedList.upsertAll_upsertAll r.fields s.fields t.toList).symm

theorem contains_remove (s : Schema) (n m : String) :
    (s.remove n).contains m = (n != m && s.contains m) :=
  KeyedList.contains_erase s.fields n m

/-- The schema after a command that is accepted. -/
def after (s : Schema) : SchemaUpdate → Schema
  | .addField f => s.add f
  | .replaceField f => s.add f
  | .deleteField name => s.remove name

theorem uniqueKey_after (s : Schema) (u : SchemaUpdate) : (s.after u).uniqueKey = s.uniqueKey := by
  cases u <;> rfl

theorem contains_after {u : SchemaUpdate} (hu : u ≠ .deleteField n) (h : s.contains n = true) :
    (s.after u).contains n = true := by
  cases u with
  | addField f => rw [after, contains_add, h, Bool.or_true]
  | replaceField f => rw [after, contains_add, h, Bool.or_true]
  | deleteField name =>
      have hne : (name != n) = true := bne_iff_ne.mpr fun he => hu (he ▸ rfl)
      rw [after, contains_remove, hne, h, Bool.true_and]

theorem after_addOrReplace (s : Schema) (b : Bool) (f : Field) :
    s.after (SchemaUpdate.addOrReplace b f) = s.add f := by
  cases b <;> rfl

theorem foldl_after_overlay (s : Schema) (b : Field → Bool) (fs : List Field) :
    (fs.map fun f => SchemaUpdate.addOrReplace (b f) f).foldl after s =
      { s with fields := s.fields.upsertAll fs } := by
  induction fs generalizing s with
  | nil => rfl
  | cons f fs ih =>
      rw [List.map_cons, List.foldl_cons, after_addOrReplace, ih]
      rfl

theorem foldl_after_deletes (s : Schema) (ns : List String) :
    (ns.map SchemaUpdate.deleteField).foldl after s =
      { s with fields := s.fields.filter fun f => !ns.contains f.name } := by
  induction ns generalizing s with
  | nil =>
      have hall : s.fields.filter (fun f => !([] : List String).contains f.name) = s.fields :=
        KeyedList.filter_eq_self fun _ _ => rfl
      rw [hall]
      rfl
  | cons n ns ih =>
      rw [List.map_cons, List.foldl_cons, ih]
      simp only [after, remove, KeyedList.erase, KeyedList.filter_filter, List.contains_cons, Bool.not_or,
        bne]

/-! ## What a plan makes of the served schema -/

/-- All fields that are known are served. -/
def Covers (served known : Schema) : Prop := ∀ n, known.contains n = true → served.contains n = true

/-- The fields of `served` that the plan made from `known` does not delete. -/
def kept (known served : Schema) (merge : Bool) : KeyedList Field.name :=
  served.fields.filter fun f => merge || !known.contains f.name || known.isProtected f.name

/-- What is served once the plan made from `known` was applied. The unique key stays: no command is about it. -/
def revised (known served desired : Schema) (merge : Bool) : Schema where
  uniqueKey := served.uniqueKey
  fields := (kept known served merge).upsertAll desired.toList

/-- What a plan cannot be applied to: a field is desired that is served and not known, or the field of the
served unique key is known without protection and so to be deleted. -/
def Conflict (known served desired : Schema) (merge : Bool) : Prop :=
  (∃ f ∈ desired.toList, served.contains f.name = true ∧ known.contains f.name = false) ∨
    (merge = false ∧ known.contains served.uniqueKey = true ∧
      known.isProtected served.uniqueKey = false)

theorem kept_true (known served : Schema) : kept known served true = served.fields :=
  KeyedList.filter_eq_self fun _ _ => rfl

theorem field?_kept (known served : Schema) (merge : Bool) (n : String) :
    (kept known served merge).find? n =
      if merge || !known.contains n || known.isProtected n then served.field? n else none := by
  rw [kept, KeyedList.find?_filter, ← field?]
  cases h : served.field? n with
  | none => simp
  | some f =>
      obtain ⟨-, rfl⟩ := field?_eq_some_iff.mp h
      simp only [Option.filter]

theorem contains_kept (known served : Schema) (merge : Bool) (n : String) :
    (kept known served merge).contains n =
      ((merge || !known.contains n || known.isProtected n) && served.contains n) := by
  rw [KeyedList.contains, field?_kept]
  cases merge || !known.contains n || known.isProtected n <;> rfl

theorem field?_revised (known served desired : Schema) (merge : Bool) (n : String) :
    (revised known served desired merge).field? n = (desired.field? n).or
      (if merge || !known.contains n || known.isProtected n then served.field? n else none) := by
  rw [← field?_kept]
  exact KeyedList.find?_upsertAll_items (kept known served merge) desired.fields n

theorem field?_revised_of_desired {known served desired : Schema} (merge : Bool)
    (h : desired.field? n = some f) : (revised known served desired merge).field? n = some f := by
  rw [field?_revised, h, Option.some_or]

theorem contains_revised (known served desired : Schema) (merge : Bool) (n : String) :
    (revised known served desired merge).contains n = (desired.contains n ||
      ((merge || !known.contains n || known.isProtected n) && served.contains n)) := by
  rw [← contains_kept]
  exact KeyedList.contains_upsertAll_items (kept known served merge) desired.fields n

/-- What is cached after a change is covered by what is served after it. -/
theorem Covers.revised {known served : Schema} (h : served.Covers known) (desired : Schema)
    (merge : Bool) :
    (revised known served desired merge).Covers (SchemaUpdate.plan known desired merge).schema := by
  intro n hn
  rw [contains_revised]
  cases merge with
  | true =>
      simp only [SchemaUpdate.plan, SchemaUpdate.mergePlan, ↓reduceIte, contains_mergedWith,
        Bool.or_eq_true] at hn
      rcases hn with hn | hn
      · simp [hn]
      · simp [h n hn]
  | false =>
      have hn : desired.contains n = true := hn
      simp [hn]

theorem contains_eq_of_not_conflict {known served desired : Schema} {merge : Bool}
    (hc : served.Covers known) (h : ¬ Conflict known served desired merge) (hf : f ∈ desired.toList) :
    known.contains f.name = served.contains f.name := by
  refine Bool.eq_iff_iff.mpr ⟨hc f.name, fun hs => ?_⟩
  cases hk : known.contains f.name with
  | true => rfl
  | false => exact absurd (Or.inl ⟨f, hf, hs, hk⟩) h

theorem not_conflict_of_contains_eq {known served : Schema}
    (hn : ∀ n, known.contains n = served.contains n) (hk : known.uniqueKey = served.uniqueKey)
    (desired : Schema) (merge : Bool) : ¬ Conflict known served desired merge := by
  rintro (⟨f, -, hs, hkn⟩ | ⟨-, -, hp⟩)
  · rw [hn, hs] at hkn
    cases hkn
  · simp [isProtected, hk] at hp

/-- The schema left behind depends on the known one by its names and its unique key only. -/
theorem revised_congr {known known' : Schema} (hn : ∀ n, known.contains n = known'.contains n)
    (hk : known.uniqueKey = known'.uniqueKey) (served desired : Schema) (merge : Bool) :
    revised known served desired merge = revised known' served desired merge := by
  simp only [revised, kept, isProtected, hn, hk]

theorem contains_revised_true (known served desired : Schema) (n : String) :
    (revised known served desired true).contains n = (desired.contains n || served.contains n) := by
  rw [contains_revised, Bool.true_or, Bool.true_or, Bool.true_and]

/-- Two merges leave behind what the merge of both does. -/
theorem revised_revised (known known' served first second : Schema) :
    revised known' (revised known served first true) second true =
      revised known served (first.mergedWith second) true := by
  simp only [revised, kept_true]
  exact congrArg (Schema.mk served.uniqueKey)
    (KeyedList.upsertAll_upsertAll served.fields first.fields second.toList).symm

end Schema

namespace Cluster

open SchemaUpdate

variable {s t : Schema}

/-! ## Applying commands -/

theorem applyUpdates_cons (s : Schema) (u : SchemaUpdate) (us : List SchemaUpdate) :
    applyUpdates s (u :: us) = (applyUpdate s u).bind (applyUpdates · us) := rfl

theorem applyUpdates_append (s : Schema) (us vs : List SchemaUpdate) :
    applyUpdates s (us ++ vs) = (applyUpdates s us).bind (applyUpdates · vs) :=
  List.foldlM_append

/-- A command that is accepted does what it says, and does not take away the field of the unique key. -/
theorem applyUpdate_eq_ok {u : SchemaUpdate} (h : applyUpdate s u = .ok t) :
    u ≠ .deleteField s.uniqueKey ∧ t = s.after u := by
  cases u with
  | addField f =>
      simp only [applyUpdate] at h
      split at h
      · cases h
      · cases h
        exact ⟨nofun, rfl⟩
  | replaceField f =>
      simp only [applyUpdate] at h
      split at h
      · cases h
        exact ⟨nofun, rfl⟩
      · cases h
  | deleteField n =>
      simp only [applyUpdate] at h
      split at h
      · cases h
      · split at h
        · cases h
        · next hne =>
            cases h
            exact ⟨fun he => hne (SchemaUpdate.deleteField.inj he), rfl⟩

theorem applyUpdates_cons_eq_ok {u : SchemaUpdate} {us : List SchemaUpdate}
    (h : applyUpdates s (u :: us) = .ok t) :
    ∃ s', applyUpdate s u = .ok s' ∧ applyUpdates s' us = .ok t := by
  rw [applyUpdates_cons] at h
  cases hu : applyUpdate s u with
  | error m =>
      rw [hu] at h
      cases h
  | ok s' =>
      rw [hu] at h
      exact ⟨s', rfl, h⟩

theorem applyUpdates_eq_ok {us : List SchemaUpdate} (h : applyUpdates s us = .ok t) :
    t = us.foldl Schema.after s := by
  induction us generalizing s with
  | nil =>
      cases h
      rfl
  | cons u us ih =>
      obtain ⟨s', hu, h⟩ := applyUpdates_cons_eq_ok h
      rw [List.foldl_cons, ← (applyUpdate_eq_ok hu).2]
      exact ih h

/-- The unique key stays, and so does its field. -/
theorem keyed_of_applyUpdates {us : List SchemaUpdate} (hs : s.contains s.uniqueKey = true)
    (h : applyUpdates s us = .ok t) : t.uniqueKey = s.uniqueKey ∧ t.contains t.uniqueKey = true := by
  induction us generalizing s with
  | nil =>
      cases h
      exact ⟨rfl, hs⟩
  | cons u us ih =>
      obtain ⟨s', hu, h⟩ := applyUpdates_cons_eq_ok h
      obtain ⟨hkey, rfl⟩ := applyUpdate_eq_ok hu
      have hs' : (s.after u).contains (s.after u).uniqueKey = true := by
        rw [Schema.uniqueKey_after, Schema.contains_after hkey hs]
      obtain ⟨hkey', ht⟩ := ih hs' h
      exact ⟨hkey'.trans (s.uniqueKey_after u), ht⟩

/-- A field is added where it is missing and replaced where it is there; the other way round is refused. -/
theorem applyUpdate_addOrReplace (s : Schema) (b : Bool) (f : Field) :
    (b = s.contains f.name → applyUpdate s (addOrReplace b f) = .ok (s.add f)) ∧
      (b ≠ s.contains f.name → ∃ m, applyUpdate s (addOrReplace b f) = .error m) := by
  cases b <;> cases h : s.contains f.name <;> simp [addOrReplace, applyUpdate, h]

/-- Overlaying fields of distinct names is accepted if every command names its case rightly … -/
theorem applyUpdates_overlay {b : Field → Bool} {fs : List Field} (hd : (fs.map Field.name).Nodup)
    (h : ∀ f ∈ fs, b f = s.contains f.name) :
    applyUpdates s (fs.map fun f => addOrReplace (b f) f) =
      .ok { s with fields := s.fields.upsertAll fs } := by
  induction fs generalizing s with
  | nil => rfl
  | cons f fs ih =>
      simp only [List.map_cons, List.nodup_cons] at hd
      have hfs : ∀ g ∈ fs, b g = (s.add f).contains g.name := fun g hg => by
        have hne : (f.name == g.name) = false := by
          simpa using fun e : f.name = g.name => hd.1 (e ▸ List.mem_map_of_mem hg)
        rw [Schema.contains_add, hne, Bool.false_or]
        exact h g (List.mem_cons_of_mem f hg)
      rw [List.map_cons, applyUpdates_cons,
        (applyUpdate_addOrReplace s (b f) f).1 (h f List.mem_cons_self)]
      exact ih hd.2 hfs

/-- … and refused if one does not. -/
theorem applyUpdates_overlay_error {b : Field → Bool} {fs : List Field}
    (hd : (fs.map Field.name).Nodup) (h : ∃ f ∈ fs, b f ≠ s.contains f.name) :
    ∃ m, applyUpdates s (fs.map fun f => addOrReplace (b f) f) = .error m := by
  induction fs generalizing s with
  | nil => simp at h
  | cons f fs ih =>
      simp only [List.map_cons, List.nodup_cons] at hd
      rw [List.map_cons, applyUpdates_cons]
      by_cases hf : b f = s.contains f.name
      · rw [(applyUpdate_addOrReplace s (b f) f).1 hf]
        obtain ⟨g, hg, hbg⟩ := h
        rcases List.mem_cons.mp hg with rfl | hg
        · exact absurd hf hbg
        · refine ih hd.2 ⟨g, hg, ?_⟩
          have hne : (f.name == g.name) = false := by
            simpa using fun e : f.name = g.name => hd.1 (e ▸ List.mem_map_of_mem hg)
          rwa [Schema.contains_add, hne, Bool.false_or]
      · obtain ⟨m, hm⟩ := (applyUpdate_addOrReplace s (b f) f).2 hf
        exact ⟨m, by rw [hm]; rfl⟩

theorem applyUpdate_deleteField {n : String} (h : s.contains n = true) (hk : n ≠ s.uniqueKey) :
    applyUpdate s (.deleteField n) = .ok (s.remove n) := by
  simp [applyUpdate, h, hk]

/-- Deleting served fields is accepted as long as the unique key is not among them … -/
theorem applyUpdates_deletes {ns : List String} (hd : ns.Nodup)
    (h : ∀ n ∈ ns, s.contains n = true) (hk : s.uniqueKey ∉ ns) :
    applyUpdates s (ns.map deleteField) =
      .ok { s with fields := s.fields.filter fun f => !ns.contains f.name } := by
  rw [← Schema.foldl_after_deletes]
  induction ns generalizing s with
  | nil => rfl
  | cons n ns ih =>
      simp only [List.nodup_cons] at hd
      simp only [List.mem_cons, not_or] at hk
      have hrest : ∀ m ∈ ns, (s.remove n).contains m = true := fun m hm => by
        obtain ⟨f, hf, rfl⟩ := Schema.contains_iff.mp (h m (List.mem_cons_of_mem n hm))
        have hne : (f.name != n) = true := bne_iff_ne.mpr fun e => hd.1 (e ▸ hm)
        exact Schema.contains_iff.mpr ⟨f, List.mem_filter.mpr ⟨hf, hne⟩, rfl⟩
      rw [List.map_cons, applyUpdates_cons,
        applyUpdate_deleteField (h n List.mem_cons_self) (Ne.symm hk.1)]
      exact ih hd.2 hrest hk.2

/-- … and refused if it is. -/
theorem applyUpdates_deletes_error {ns : List String} (hk : s.uniqueKey ∈ ns) :
    ∃ m, applyUpdates s (ns.map deleteField) = .error m := by
  induction ns generalizing s with
  | nil => cases hk
  | cons n ns ih =>
      rw [List.map_cons, applyUpdates_cons]
      cases hu : applyUpdate s (.deleteField n) with
      | error m => exact ⟨m, rfl⟩
      | ok t =>
          obtain ⟨hne, rfl⟩ := applyUpdate_eq_ok hu
          rcases List.mem_cons.mp hk with hk | hk
          · exact absurd (hk ▸ rfl) hne
          · exact ih (s := s.after (.deleteField n)) hk

/-! ## Applying plans -/

theorem updates_plan_true (known desired : Schema) :
    (plan known desired true).updates =
      desired.toList.map fun f => addOrReplace (known.contains f.name) f := rfl

theorem updates_plan_false (known desired : Schema) :
    (plan known desired false).updates =
      ((known.toList.filter fun f => !known.isProtected f.name).map Field.name).map deleteField ++
        desired.toList.map fun f =>
          addOrReplace (known.contains f.name && known.isProtected f.name) f := by
  simp only [plan, Bool.false_eq_true, ↓reduceIte, replacePlan, List.map_map]
  rfl

theorem updates_plan_true_eq_nil {known desired : Schema} :
    (plan known desired true).updates = [] ↔ desired.toList = [] := by
  rw [updates_plan_true, List.map_eq_nil_iff]

/-- A replacement without commands desires no fields. -/
theorem toList_of_updates_plan {known desired : Schema} {merge : Bool}
    (h : (plan known desired merge).updates = []) : desired.toList = [] := by
  cases merge with
  | true => exact updates_plan_true_eq_nil.mp h
  | false =>
      rw [updates_plan_false, List.append_eq_nil_iff] at h
      exact List.map_eq_nil_iff.mp h.2

theorem mem_unprotected {known : Schema} {n : String} :
    n ∈ (known.toList.filter fun f => !known.isProtected f.name).map Field.name ↔
      known.contains n = true ∧ known.isProtected n = false := by
  simp only [List.mem_map, List.mem_filter, Bool.not_eq_true', Schema.contains_iff]
  constructor
  · rintro ⟨f, ⟨hf, hp⟩, rfl⟩
    exact ⟨⟨f, hf, rfl⟩, hp⟩
  · rintro ⟨⟨f, hf, rfl⟩, hp⟩
    exact ⟨f, ⟨hf, hp⟩, rfl⟩

theorem filter_unprotected (known served : Schema) :
    (served.fields.filter fun f =>
        !((known.toList.filter fun f => !known.isProtected f.name).map Field.name).contains f.name) =
      Schema.kept known served false := by
  refine KeyedList.ext (List.filter_congr fun f _ => Bool.eq_iff_iff.mpr ?_)
  simp only [Bool.not_eq_true', List.contains_eq_mem, decide_eq_false_iff_not, mem_unprotected]
  cases known.contains f.name <;> cases known.isProtected f.name <;> simp

/-- Whatever is known, a plan that is accepted leaves the same behind. -/
theorem eq_revised_of_applyUpdates_plan {known served desired : Schema} {merge : Bool}
    (h : applyUpdates served (plan known desired merge).updates = .ok t) :
    t = Schema.revised known served desired merge := by
  refine (applyUpdates_eq_ok h).trans ?_
  cases merge with
  | true => rw [updates_plan_true, Schema.foldl_after_overlay, Schema.revised, Schema.kept_true]
  | false =>
      rw [updates_plan_false, List.foldl_append, Schema.foldl_after_deletes, Schema.foldl_after_overlay,
        filter_unprotected]
      rfl

/-- A plan without commands leaves what is served. -/
theorem revised_of_idle {known desired : Schema} {merge : Bool}
    (h : (plan known desired merge).updates = []) (served : Schema) :
    Schema.revised known served desired merge = served :=
  (eq_revised_of_applyUpdates_plan (h ▸ rfl)).symm

/-- A merge is accepted where it is known which of the desired fields are served. -/
theorem applyUpdates_merge {known served desired : Schema}
    (h : ∀ f ∈ desired.toList, known.contains f.name = served.contains f.name) :
    applyUpdates served (plan known desired true).updates =
      .ok (Schema.revised known served desired true) := by
  rw [updates_plan_true, Schema.revised, Schema.kept_true]
  exact applyUpdates_overlay desired.names_toList_nodup h

theorem applyUpdates_plan {known served desired : Schema} {merge : Bool}
    (hc : served.Covers known) (h : ¬ Schema.Conflict known served desired merge) :
    applyUpdates served (plan known desired merge).updates =
      .ok (Schema.revised known served desired merge) := by
  cases merge with
  | true => exact applyUpdates_merge fun f hf => Schema.contains_eq_of_not_conflict hc h hf
  | false =>
      have hdel : applyUpdates served
          (((known.toList.filter fun f => !known.isProtected f.name).map Field.name).map deleteField) =
            .ok { served with fields := Schema.kept known served false } := by
        rw [applyUpdates_deletes, filter_unprotected]
        · exact known.names_toList_nodup.sublist (List.filter_sublist.map _)
        · exact fun n hn => hc n (mem_unprotected.mp hn).1
        · exact fun hmem => h (Or.inr ⟨rfl, mem_unprotected.mp hmem⟩)
      rw [updates_plan_false, applyUpdates_append, hdel]
      refine applyUpdates_overlay desired.names_toList_nodup fun f hf => ?_
      refine Eq.trans ?_ (Schema.contains_kept known served false f.name).symm
      rw [Schema.contains_eq_of_not_conflict hc h hf]
      cases served.contains f.name <;> cases known.isProtected f.name <;> rfl

theorem applyUpdates_plan_error {known served desired : Schema} {merge : Bool}
    (hc : served.Covers known) (h : Schema.Conflict known served desired merge) :
    ∃ m, applyUpdates served (plan known desired merge).updates = .error m := by
  cases merge with
  | true =>
      obtain ⟨f, hf, hs, hkn⟩ | ⟨hm, -⟩ := h
      · rw [updates_plan_true]
        exact applyUpdates_overlay_error desired.names_toList_nodup ⟨f, hf, by simp [hs, hkn]⟩
      · cases hm
  | false =>
      rw [updates_plan_false, applyUpdates_append]
      by_cases hk : served.uniqueKey ∈
          (known.toList.filter fun f => !known.isProtected f.name).map Field.name
      · obtain ⟨m, hm⟩ := applyUpdates_deletes_error hk
        exact ⟨m, by rw [hm]; rfl⟩
      · obtain ⟨f, hf, hs, hkn⟩ | ⟨-, hk1, hk2⟩ := h
        · rw [applyUpdates_deletes (known.names_toList_nodup.sublist (List.filter_sublist.map _))
            (fun n hn => hc n (mem_unprotected.mp hn).1) hk, filter_unprotected]
          refine applyUpdates_overlay_error desired.names_toList_nodup ⟨f, hf, ?_⟩
          have hkept := Schema.contains_kept known served false f.name
          rw [hkn, hs] at hkept
          exact fun he => by simpa [hkn] using he.trans hkept
        · exact absurd (mem_unprotected.mpr ⟨hk1, hk2⟩) hk

/-- A plan made from what a collection serves is accepted, and leaves what is desired laid over all that is
to stay. -/
theorem plan_accepted (current desired : Schema) (merge : Bool) :
    ∃ s, applyUpdates current (plan current desired merge).updates = .ok s ∧
      s.uniqueKey = current.uniqueKey ∧
      (∀ n, s.field? n = (desired.field? n).or
        (if merge || n == current.uniqueKey || n == Schema.versionKey then current.field? n
          else none)) ∧
      ∀ (c : Cluster) (collection : String), c.schemaOfCollection? collection = some current →
        ∃ c', c.submitUpdates collection (plan current desired merge).updates = ({}, c') ∧
          c'.schemaOfCollection? collection = some s := by
  have hc : current.Covers current := fun _ hn => hn
  have happly := applyUpdates_plan hc
    (Schema.not_conflict_of_contains_eq (fun _ => rfl) rfl desired merge)
  refine ⟨_, happly, rfl, fun n => ?_, fun c collection hserved => ?_⟩
  · rw [Schema.field?_revised]
    -- A field that is not known is not there to be kept either.
    cases hn : current.field? n with
    | none => simp
    | some f => simp [Schema.contains_eq, Schema.isProtected, hn, or_assoc]
  · obtain ⟨configSet, hset, hschema⟩ := Option.bind_eq_some_iff.mp hserved
    refine ⟨{ c with configSets :=
      c.configSets.insert configSet (current.revised current desired merge) }, ?_, ?_⟩
    · rw [submitUpdates, hset]
      simp only [hschema, Option.getD_some, happly]
    · simp [schemaOfCollection?, hset, SortedMap.get?_insert]

/-- A replacement that redefines `id` and asks for another unique key. -/
theorem plan_accepted_orders :
    let c : Cluster := { Cluster.fresh .default with
      collections := SortedMap.empty.insert "orders" baseConfigSet }
    let desired := Schema.ofFields "total" [.typed "total" .double, .typed "id" .string]
    c.schemaOfCollection? "orders" = some baseSchema ∧
      ∃ s c', c.submitUpdates "orders" (plan baseSchema desired false).updates = ({}, c') ∧
        c'.schemaOfCollection? "orders" = some s ∧ s.uniqueKey = "id" ∧
        s.names = ["id", "_version_", "total"] := by
  intro c desired
  have hserved : c.schemaOfCollection? "orders" = some baseSchema := rfl
  obtain ⟨s, hs, hkey, -, hsubmit⟩ := plan_accepted baseSchema desired false
  obtain ⟨c', hc', hs'⟩ := hsubmit c "orders" hserved
  refine ⟨hserved, s, c', hc', hs', hkey, ?_⟩
  cases hs
  rfl

/-! ## Merging twice -/

/-- A batch is submitted to what a collection serves. -/
theorem submitUpdates_of_served {c : Cluster} {collection : String} {us : List SchemaUpdate}
    (hserved : c.schemaOfCollection? collection = some s) (h : applyUpdates s us = .ok t) :
    ∃ configSet, c.collections.get? collection = some configSet ∧
      c.submitUpdates collection us = ({}, { c with configSets := c.configSets.insert configSet t }) := by
  obtain ⟨configSet, hset, hschema⟩ := Option.bind_eq_some_iff.mp hserved
  refine ⟨configSet, hset, ?_⟩
  rw [submitUpdates, hset]
  simp only [hschema, Option.getD_some, h]

/-- Two merges, one after the other, leave the cluster as the merge of both at once does, the order of the fields
and the unique key included, and give the same schema to be cached. The second batch is the same, whether it is
planned from what is served or from what was cached. -/
theorem merges_compose (served first second : Schema) :
    (served.mergedWith first).mergedWith second = served.mergedWith (first.mergedWith second) ∧
    (plan (plan served first true).schema second true).schema =
      (plan served (first.mergedWith second) true).schema ∧
    ∃ s t, applyUpdates served (plan served first true).updates = .ok s ∧
      applyUpdates s (plan s second true).updates = .ok t ∧
      applyUpdates served (plan served (first.mergedWith second) true).updates = .ok t ∧
      (plan (plan served first true).schema second true).updates = (plan s second true).updates ∧
      ∀ (c : Cluster) (collection : String), c.schemaOfCollection? collection = some served →
        ∃ c₁ c₂, c.submitUpdates collection (plan served first true).updates = ({}, c₁) ∧
          c₁.submitUpdates collection (plan s second true).updates = ({}, c₂) ∧
          c.submitUpdates collection (plan served (first.mergedWith second) true).updates = ({}, c₂) ∧
          c₂.schemaOfCollection? collection = some t := by
  have hassoc := Schema.mergedWith_assoc served first second
  let s := Schema.revised served served first true
  let t := Schema.revised s s second true
  have hfirst : applyUpdates served (plan served first true).updates = .ok s :=
    applyUpdates_merge fun _ _ => rfl
  have hsecond : applyUpdates s (plan s second true).updates = .ok t := applyUpdates_merge fun _ _ => rfl
  have hboth : applyUpdates served (plan served (first.mergedWith second) true).updates = .ok t := by
    rw [show t = _ from Schema.revised_revised served s served first second]
    exact applyUpdates_merge fun _ _ => rfl
  refine ⟨hassoc, hassoc, s, t, hfirst, hsecond, hboth, ?_, fun c collection hserved => ?_⟩
  · -- What was cached has the names of what is served.
    refine List.map_congr_left fun f _ => congrArg (addOrReplace · f) ?_
    exact (Schema.contains_mergedWith served first f.name).trans
      (Schema.contains_revised_true served served first f.name).symm
  · obtain ⟨configSet, hset, hsubmit⟩ := submitUpdates_of_served hserved hfirst
    obtain ⟨_, hset', hsubmit'⟩ := submitUpdates_of_served hserved hboth
    cases hset.symm.trans hset'
    refine ⟨_, _, hsubmit, ?_, hsubmit', ?_⟩
    · have hserved' : ({ c with configSets := c.configSets.insert configSet s } :
          Cluster).schemaOfCollection? collection = some s := by
        simp [schemaOfCollection?, hset, SortedMap.get?_insert]
      obtain ⟨_, hset'', hagain⟩ := submitUpdates_of_served hserved' hsecond
      cases hset.symm.trans hset''
      rw [hagain, SortedMap.insert_insert]
    · simp [schemaOfCollection?, hset, SortedMap.get?_insert]

/-- A field that the first merge adds and the second one redefines keeps its place. -/
theorem merges_compose_orders :
    let c : Cluster := { Cluster.fresh .default with
      collections := SortedMap.empty.insert "orders" baseConfigSet }
    let first := Schema.ofFields "total" [.typed "total" .double, .typed "id" .long]
    let second := Schema.ofFields "note" [.typed "note" .string, .typed "total" .long]
    c.schemaOfCollection? "orders" = some baseSchema ∧
      ∃ c' t, c.submitUpdates "orders" (plan baseSchema (first.mergedWith second) true).updates = ({}, c') ∧
        c'.schemaOfCollection? "orders" = some t ∧ t.uniqueKey = "id" ∧
        t.names = ["id", "_version_", "total", "note"] := by
  intro c first second
  have hserved : c.schemaOfCollection? "orders" = some baseSchema := rfl
  obtain ⟨-, -, s, t, -, -, hboth, -, hsubmit⟩ := merges_compose baseSchema first second
  obtain ⟨c₁, c₂, -, -, hc₂, ht⟩ := hsubmit c "orders" hserved
  refine ⟨hserved, c₂, t, hc₂, ht, ?_⟩
  cases hboth
  exact ⟨rfl, rfl⟩

end Cluster

end TableIndex
