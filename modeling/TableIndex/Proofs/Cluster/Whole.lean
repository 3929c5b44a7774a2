import TableIndex.Proofs.Cluster.Consistent
import TableIndex.Proofs.Cluster.Isolation
import TableIndex.Proofs.Cluster.Recovery
import TableIndex.Proofs.Cluster.Tidy

/-!
# Config-sets and their collections

Creating makes the config-set of a collection before the collection, deleting removes it afterwards. Only an
attempt that stops in between leaves a config-set without its collection, and its error says so.
-/

namespace TableIndex

/-- The name under which a call makes a config-set or removes a collection: it may leave the one without the other. -/
def Call.parts? : {α : Type} → Call α → Option String
  | _, createConfig _ name => some name
  | _, deleteCollection name => some name
  | _, _ => none

namespace Call

variable {α : Type} {k : Call α} {table : String}

theorem Asks.parts? (h : k.Asks) : k.parts? = none := by
  cases k with
  | createConfig base name => cases h
  | deleteCollection name => cases h
  | _ => rfl

theorem Revises.parts? (h : k.Revises table) : k.parts? = none := by
  cases k with
  | createConfig base name => cases h
  | deleteCollection name => cases h
  | _ => rfl

theorem Writes.parts? (h : k.Writes table) : k.parts? = none := by
  cases k with
  | createConfig base name => cases h
  | deleteCollection name => cases h
  | _ => rfl

end Call

namespace Cluster

variable {α : Type} {c d : Cluster} {q : String}

/-- A cluster in which the config-set `q` is not without its collection. -/
structure Whole (q : String) (c : Cluster) : Prop where
  consistent : c.Consistent
  whole : c.configSets.contains q = true → c.collections.contains q = true

namespace Whole

theorem of_there (h : c.Consistent) (hthere : c.collections.contains q = true) : c.Whole q :=
  ⟨h, fun _ => hthere⟩

theorem of_gone (h : c.Consistent) (hgone : c.configSets.contains q = false) : c.Whole q :=
  ⟨h, fun hset => nomatch hgone.symm.trans hset⟩

theorem withAccount (h : c.Whole q) (failures : List (Operation × Int)) (closed : Bool) (calls : Nat) :
    (c.withAccount failures closed calls).Whole q :=
  ⟨h.consistent.withAccount .., h.whole⟩

theorem becomes {call : Call α} (h : c.Whole q) (hd : c.Becomes call d) (hcall : call.parts? ≠ some q) :
    d.Whole q := by
  refine ⟨hd.consistent h.consistent, ?_⟩
  cases call with
  | createConfig base name =>
      obtain ⟨-, s, -, rfl⟩ := hd
      have hne : name ≠ q := fun he => hcall (congrArg some he)
      simpa [SortedMap.contains_insert, hne] using h.whole
  | createCollection name configSet shards replicas =>
      obtain ⟨-, -, -, rfl⟩ := hd
      intro hset
      simp [SortedMap.contains_insert, h.whole hset]
  | deleteCollection name =>
      obtain ⟨-, rfl⟩ := hd
      have hne : name ≠ q := fun he => hcall (congrArg some he)
      simpa [dropped, SortedMap.contains_erase, hne] using h.whole
  | deleteConfig name =>
      obtain ⟨-, -, rfl⟩ := hd
      intro hset
      rw [SortedMap.contains_erase, Bool.and_eq_true] at hset
      exact h.whole hset.2
  | submitSchemaUpdates table updates =>
      obtain ⟨collection, configSet, s, -, hset, -, rfl⟩ := hd
      intro hq
      rw [SortedMap.contains_insert, Bool.or_eq_true, beq_iff_eq] at hq
      rcases hq with rfl | hq
      · exact h.whole (h.consistent.configSet collection configSet hset)
      · exact h.whole hq
  | addDocuments table docs =>
      obtain ⟨collection, staged, -, -, rfl⟩ := hd
      exact h.whole
  | deleteByIds table ids =>
      obtain ⟨collection, -, rfl⟩ := hd
      exact h.whole
  | deleteByQuery table query =>
      obtain ⟨collection, selection, -, -, rfl⟩ := hd
      exact h.whole
  | commit table =>
      obtain ⟨collection, -, rfl⟩ := hd
      exact h.whole
  | _ => exact hd.elim

end Whole

theorem keeps_whole {call : Call α} (hcall : call.parts? = none) : Keeps (Whole q) (gateway.perform call) :=
  keeps_perform (fun _ _ h => h.withAccount ..) fun _ h => stateAfter_serve h fun _ hd =>
    h.becomes hd (hcall ▸ nofun)

end Cluster

/-! ## Creating, deleting, changing the schema -/

section Programs

variable {p : Provisioner} {config : CollectionConfig} {table q : String} {c : Cluster} {s : Cached Cluster}

/-- Where the config-set is left without the collection, the error says that the creation was done in part. -/
theorem Provisioner.whole_create (h : c.Whole q) :
    (stateAfter (p.create Cluster.gateway config c)).Whole q ∨
      p.naming.qualify config.collectionName = some q ∧
        ∃ e d, p.create Cluster.gateway config c = .error e d ∧ e.effect = .partially := by
  have hc := creation p config c
  generalize p.create Cluster.gateway config c = r at hc ⊢
  cases hc with
  | failed n _ => exact .inl (h.withAccount ..)
  | found n _ _ _ => exact .inl (h.withAccount ..)
  | created n _ _ hd => exact .inl ((h.becomes hd nofun).withAccount ..)
  | @copied q' d e n hq _ hd he =>
      left
      by_cases hne : q' = q
      · have hcons := he.consistent (hd.consistent h.consistent)
        obtain ⟨-, -, -, rfl⟩ := he
        exact (Cluster.Whole.of_there hcons (hne ▸ SortedMap.contains_insert_self ..)).withAccount ..
      · exact ((h.becomes hd (hne <| Option.some.inj ·)).becomes he nofun).withAccount ..
  | @left q' d cause n hq _ _ hd =>
      by_cases hne : q' = q
      · exact .inr ⟨hne ▸ hq, _, _, rfl, rfl⟩
      · exact .inl ((h.becomes hd (hne <| Option.some.inj ·)).withAccount ..)

theorem Provisioner.whole_delete (h : s.remote.Whole q) :
    (stateAfter (p.delete Cluster.gateway table s)).remote.Whole q ∨
      p.naming.qualify table = some q ∧
        ∃ e t, p.delete Cluster.gateway table s = .error e t ∧ e.effect = .partially := by
  have hs := deletion p table s
  generalize p.delete Cluster.gateway table s = r at hs ⊢
  cases hs with
  | failed n _ => exact .inl (h.withAccount ..)
  | missing n _ => exact .inl (h.withAccount ..)
  | @kept q' d n hq hd hset =>
      left
      by_cases hne : q' = q
      · exact (Cluster.Whole.of_gone (hd.consistent h.consistent) (hne ▸ hset)).withAccount ..
      · exact (h.becomes hd (hne <| Option.some.inj ·)).withAccount ..
  | @deleted q' d e n hq hd he =>
      left
      by_cases hne : q' = q
      · have hcons := he.consistent (hd.consistent h.consistent)
        obtain ⟨-, -, rfl⟩ := he
        refine (Cluster.Whole.of_gone hcons ?_).withAccount ..
        simp [hne, SortedMap.contains_erase]
      · exact ((h.becomes hd (hne <| Option.some.inj ·)).becomes he nofun).withAccount ..
  | @left q' d cause n hq _ hd =>
      by_cases hne : q' = q
      · exact .inr ⟨hne ▸ hq, _, _, rfl, rfl⟩
      · exact .inl ((h.becomes hd (hne <| Option.some.inj ·)).withAccount ..)

theorem Schema.keeps_whole_update (q : String) (naming : NamingPolicy) (table : String) (desired : Schema)
    (merge : Bool) :
    Keeps (fun s => s.remote.Whole q ∧ True) (update naming Cluster.gateway table desired merge) :=
  (Keeps.compositional (I := Cluster.Whole q)).update Keeps.compositional (.onRemote fun _ => True)
    (fun _ hk => Cluster.keeps_whole hk.parts?) (fun _ hk => Cluster.keeps_whole hk.parts?)
    (fun _ _ _ hs => hs) (fun _ _ _ _ _ hs => hs) desired merge

/-- The schema is merged into a collection that is there, so that only creating it can stop in between. -/
theorem Provisioner.whole_ensure (h : s.remote.Whole q) :
    (stateAfter (p.ensure Cluster.gateway config s)).remote.Whole q ∨
      p.naming.qualify config.collectionName = some q ∧
        ∃ e t, p.ensure Cluster.gateway config s = .error (.create e) t ∧ e.effect = .partially := by
  have hcreate : (stateAfter (p.create Cluster.gateway config s.remote)).Whole q ∨ _ := whole_create h
  cases hrun : p.create Cluster.gateway config s.remote with
  | error e d =>
      rw [ensure, bind_of_error (Cached.onRemoteOr_of_error hrun)]
      rw [hrun] at hcreate
      refine hcreate.imp id fun ⟨hq, e', d', hrun, he⟩ => ?_
      cases hrun
      exact ⟨hq, e, _, rfl, he⟩
  | ok outcome d =>
      rw [ensure, bind_of_ok (Cached.onRemoteOr_of_ok hrun)]
      rw [hrun] at hcreate
      have hmade : d.Whole q := hcreate.resolve_right fun ⟨_, _, _, hrun, _⟩ => nomatch hrun
      left
      cases config.schema with
      | none => exact hmade
      | some desired =>
          have hmerge := Schema.keeps_whole_update q p.naming config.collectionName desired true
          exact ((hmerge.adaptExcept EnsureError.schema).bind (fun _ => .pure outcome) ⟨s.cache, d⟩
            ⟨hmade, trivial⟩).1

end Programs

end TableIndex
