import TableIndex.Proofs.Cluster.Consistent
import TableIndex.Proofs.Service.Isolation

/-!
# Fields that survive

No operation takes the field of the unique key or `_version_` out of a served schema. The cluster refuses to
delete the one, and no plan deletes the other, whatever schema it was made from.
-/

namespace TableIndex

variable {α : Type} {p : NamingPolicy} {c d : Cluster} {table : String}

namespace Cluster

/-- A consistent cluster in which every schema has the unique key `id` and the field `_version_`. -/
structure Guarded (c : Cluster) : Prop where
  consistent : c.Consistent
  uniqueKey : ∀ name s, c.configSets.get? name = some s → s.uniqueKey = Schema.idKey
  version : ∀ name s, c.configSets.get? name = some s → s.contains Schema.versionKey = true

namespace Guarded

theorem withAccount (h : c.Guarded) (failures : List (Operation × Int)) (closed : Bool) (calls : Nat) :
    (c.withAccount failures closed calls).Guarded :=
  ⟨h.consistent.withAccount .., h.uniqueKey, h.version⟩

theorem of_configSets (h : c.Guarded) (hd : d.Consistent)
    (hsets : ∀ name s, d.configSets.get? name = some s → ∃ name', c.configSets.get? name' = some s) :
    d.Guarded := by
  refine ⟨hd, fun name s hs => ?_, fun name s hs => ?_⟩
  · obtain ⟨name', hs⟩ := hsets name s hs
    exact h.uniqueKey name' s hs
  · obtain ⟨name', hs⟩ := hsets name s hs
    exact h.version name' s hs

/-- Every config-set may get another schema with the unique key `id` and the field `_version_`. -/
theorem withConfigSet {s : Schema} {name : String} (h : c.Guarded)
    (hd : ({ c with configSets := c.configSets.insert name s } : Cluster).Consistent)
    (hkey : s.uniqueKey = Schema.idKey) (hversion : s.contains Schema.versionKey = true) :
    ({ c with configSets := c.configSets.insert name s } : Cluster).Guarded := by
  refine ⟨hd, fun name' t ht => ?_, fun name' t ht => ?_⟩ <;> simp only [SortedMap.get?_insert] at ht <;>
    split at ht
  · exact Option.some.inj ht ▸ hkey
  · exact h.uniqueKey name' t ht
  · exact Option.some.inj ht ▸ hversion
  · exact h.version name' t ht

/-- A plan never deletes `_version_`, which is protected under every unique key. -/
theorem submitSchemaUpdates {known desired : Schema} {merge : Bool} (h : c.Guarded)
    (hd : c.Becomes (.submitSchemaUpdates table (SchemaUpdate.plan known desired merge).updates) d) :
    d.Guarded := by
  have hconsistent := hd.consistent h.consistent
  obtain ⟨collection, configSet, t, -, hset, happly, rfl⟩ := hd
  obtain ⟨s, hs, -⟩ := h.consistent.schemaOfCollection? hset
  rw [hs, Option.getD_some] at happly
  obtain rfl := eq_revised_of_applyUpdates_plan happly
  refine h.withConfigSet hconsistent (h.uniqueKey configSet s hs) ?_
  have hprotected : known.isProtected Schema.versionKey = true := by simp [Schema.isProtected]
  rw [Schema.contains_revised, hprotected, h.version configSet s hs]
  simp

end Guarded

theorem guarded_fresh (n : NamingPolicy) : (fresh n).Guarded := by
  have hbase : ∀ name s, (fresh n).configSets.get? name = some s → s = baseSchema := by
    intro name s hs
    rw [fresh, SortedMap.get?_insert] at hs
    split at hs
    · exact (Option.some.inj hs).symm
    · cases hs
  refine ⟨consistent_fresh n, fun name s hs => ?_, fun name s hs => ?_⟩
  · obtain rfl := hbase name s hs
    rfl
  · obtain rfl := hbase name s hs
    decide

end Cluster

/-! ## Every operation -/

/-- Services change schemas by plans only. -/
theorem ServiceCall.Makes.plan {call : ServiceCall} {updates : List SchemaUpdate}
    (h : call.Makes p (.submitSchemaUpdates table updates)) :
    ∃ current desired merge, updates = (SchemaUpdate.plan current desired merge).updates := by
  cases h with
  | asks hk => cases hk
  | creates _ _ hk => cases hk
  | deletes _ _ hk => cases hk
  | revises _ _ hk => exact hk.2
  | writes _ _ hk => cases hk

namespace Cluster

theorem Becomes.guarded {call : ServiceCall} {k : Call α} (hd : c.Becomes k d) (hk : call.Makes p k)
    (h : c.Guarded) : d.Guarded := by
  have hconsistent := hd.consistent h.consistent
  cases k with
  | createConfig base name =>
      obtain ⟨-, s, hs, rfl⟩ := hd
      exact h.withConfigSet hconsistent (h.uniqueKey base s hs) (h.version base s hs)
  | createCollection name configSet shards replicas =>
      obtain ⟨-, -, -, rfl⟩ := hd
      exact h.of_configSets hconsistent fun name s hs => ⟨name, hs⟩
  | deleteCollection name =>
      obtain ⟨-, rfl⟩ := hd
      exact h.of_configSets hconsistent fun name s hs => ⟨name, hs⟩
  | deleteConfig name =>
      obtain ⟨-, -, rfl⟩ := hd
      exact h.of_configSets hconsistent fun name' s hs => ⟨name', SortedMap.get?_of_erase hs⟩
  | submitSchemaUpdates table updates =>
      obtain ⟨known, desired, merge, rfl⟩ := hk.plan
      exact h.submitSchemaUpdates hd
  | addDocuments table docs =>
      obtain ⟨collection, staged, -, -, rfl⟩ := hd
      exact h.of_configSets hconsistent fun name s hs => ⟨name, hs⟩
  | deleteByIds table ids =>
      obtain ⟨collection, -, rfl⟩ := hd
      exact h.of_configSets hconsistent fun name s hs => ⟨name, hs⟩
  | deleteByQuery table query =>
      obtain ⟨collection, q, -, -, rfl⟩ := hd
      exact h.of_configSets hconsistent fun name s hs => ⟨name, hs⟩
  | commit table =>
      obtain ⟨collection, -, rfl⟩ := hd
      exact h.of_configSets hconsistent fun name s hs => ⟨name, hs⟩
  | _ => exact hd.elim

theorem keeps_guarded {call : ServiceCall} {k : Call α} (hk : call.Makes p k) : Keeps Guarded (perform k) :=
  keeps_perform (fun _ _ h => h.withAccount ..) fun _ h => stateAfter_serve h fun _ hd => hd.guarded hk h

end Cluster

namespace Service

variable {n : NamingPolicy} {st : ServiceState Cluster Unit}

theorem guarded_answer (naming : NamingPolicy) (base : String) (call : ServiceCall)
    (h : st.remote.Guarded) : ((inMemory naming base).answer call st).2.remote.Guarded := by
  have hpreserves : Preserves naming call Cluster.Guarded fun _ => True :=
    ⟨fun _ _ _ _ h => h.withAccount .., fun _ hk => Cluster.keeps_guarded hk, fun _ _ _ _ => id,
      fun _ _ _ => id⟩
  exact (hpreserves.answer base ⟨h, trivial⟩).1

theorem guarded_of_reachable (h : c.Reachable n) : c.Guarded := by
  induction h with
  | fresh => exact Cluster.guarded_fresh n
  | answer naming base call handle cache _ ih => exact guarded_answer naming base call ih
  | fail op status _ ih => exact ih.withAccount ..
  | clearFailure op _ ih => exact ih.withAccount ..

/-- Whatever services did to a cluster, every collection that is there has a schema with the unique key `id` and
with the fields `id` and `_version_`. -/
theorem protected_of_reachable {q : String} (h : c.Reachable n)
    (hq : c.collections.contains q = true) :
    ∃ s, c.schemaOfCollection? q = some s ∧ s.uniqueKey = Schema.idKey ∧
      s.contains Schema.idKey = true ∧ s.contains Schema.versionKey = true := by
  have hc := guarded_of_reachable h
  obtain ⟨configSet, hset⟩ := SortedMap.contains_iff.mp hq
  obtain ⟨s, hs, hschema⟩ := hc.consistent.schemaOfCollection? hset
  have hkey := hc.uniqueKey configSet s hs
  exact ⟨s, hschema, hkey, hkey ▸ hc.consistent.keyed configSet s hs, hc.version configSet s hs⟩

/-- Two services that replace the schema of `orders` under other unique keys, the second one in ignorance of the
first. -/
def ordersRekeyed : ServiceState Cluster Unit :=
  let service := inMemory ⟨"DEFAULT"⟩ Cluster.baseConfigSet
  let replaced (name : String) := ServiceCall.updateSchema "orders" (.ofFields name [.typed name .string]) false
  let stale := (service.run [.create ⟨"orders", none, 1, 1, none, none⟩, .getSchema "orders"]
    { remote := .fresh ⟨"DEFAULT"⟩ }).2
  let fresh := (service.run [replaced "total"] { remote := stale.remote }).2
  (service.run [replaced "status"] { stale with remote := fresh.remote }).2

theorem reachable_ordersRekeyed : ordersRekeyed.remote.Reachable ⟨"DEFAULT"⟩ :=
  reachable_run _ _ (reachable_run _ _ (reachable_run _ _ .fresh))

theorem protected_ordersRekeyed :
    ordersRekeyed.remote.Reachable ⟨"DEFAULT"⟩ ∧
      ordersRekeyed.remote.collections.contains "DEFAULT_orders" = true ∧
      ∃ s, ordersRekeyed.remote.schemaOfCollection? "DEFAULT_orders" = some s ∧
        s.uniqueKey = Schema.idKey ∧ s.contains Schema.idKey = true ∧
        s.contains Schema.versionKey = true := by
  have hthere : ordersRekeyed.remote.collections.contains "DEFAULT_orders" = true := by decide +kernel
  exact ⟨reachable_ordersRekeyed, hthere, protected_of_reachable reachable_ordersRekeyed hthere⟩

end Service

end TableIndex
