import TableIndex.Proofs.Cluster.Perform
import TableIndex.Proofs.Schema.Plan

/-!
# What every cluster keeps

The parts of a cluster refer to each other: collections to config-sets, staged and visible documents to
collections, and documents to their identifiers. Every call keeps these references intact, whatever it asks
for, so that no call is ever answered from a schema that is not there.
-/

namespace TableIndex

namespace Cluster

variable {α : Type} {n : NamingPolicy} {c : Cluster} {table collection configSet : String}

/-! ## Documents under their identifiers -/

/-- Every document is kept under its own identifier. -/
def KeptById (docs : SortedMap Document) : Prop := ∀ id d, docs.get? id = some d → d.id? = some id

namespace KeptById

variable {docs : SortedMap Document}

theorem empty : KeptById .empty := fun _ _ h => by cases h

theorem insert {id : String} {d : Document} (h : KeptById docs) (hd : d.id? = some id) :
    KeptById (docs.insert id d) := by
  intro id' d' h'
  rw [SortedMap.get?_insert] at h'
  split at h'
  · next he =>
      cases h'
      exact he ▸ hd
  · exact h id' d' h'

theorem erase (h : KeptById docs) (id : String) : KeptById (docs.erase id) := fun id' d' h' =>
  h id' d' (SortedMap.get?_of_erase h')

theorem insertAll {es : List (String × Document)} (h : KeptById docs)
    (hes : ∀ e ∈ es, e.2.id? = some e.1) : KeptById (es.foldl (fun m e => m.insert e.1 e.2) docs) := by
  induction es generalizing docs with
  | nil => exact h
  | cons e es ih =>
      exact ih (h.insert (hes e List.mem_cons_self)) fun e he => hes e (List.mem_cons_of_mem _ he)

theorem eraseAll (h : KeptById docs) (ids : List String) :
    KeptById (ids.foldl (fun m id => m.erase id) docs) := by
  induction ids generalizing docs with
  | nil => exact h
  | cons id ids ih => exact ih (h.erase id)

theorem entries (h : KeptById docs) : ∀ e ∈ docs.entries, e.2.id? = some e.1 := fun e he =>
  h e.1 e.2 (SortedMap.get?_eq_some_iff.mpr he)

end KeptById

theorem identified?_cons (d : Document) (docs : List Document) : identified? (d :: docs) =
    d.id?.bind fun id => (identified? docs).map ((id, d) :: ·) := by
  rw [identified?, List.mapM_cons]
  show (d.id?.map (·, d)).bind (fun e => (identified? docs).bind fun es => some (e :: es)) = _
  cases d.id? with
  | none => rfl
  | some id => cases identified? docs <;> rfl

theorem id?_of_identified? {docs : List Document} {staged : List (String × Document)}
    (h : identified? docs = some staged) : ∀ e ∈ staged, e.2.id? = some e.1 := by
  induction docs generalizing staged with
  | nil =>
      cases h
      exact nofun
  | cons d docs ih =>
      rw [identified?_cons] at h
      obtain ⟨id, hid, h⟩ := Option.bind_eq_some_iff.mp h
      obtain ⟨es, hes, rfl⟩ := Option.map_eq_some_iff.mp h
      exact List.forall_mem_cons.mpr ⟨hid, ih hes⟩

/-! ## The invariant -/

structure Consistent (c : Cluster) : Prop where
  configSet : ∀ name configSet, c.collections.get? name = some configSet →
    c.configSets.contains configSet = true
  keyed : ∀ name s, c.configSets.get? name = some s → s.contains s.uniqueKey = true
  pending : ∀ name, c.pending.contains name = true → c.collections.contains name = true
  pendingDeletes : ∀ name, c.pendingDeletes.contains name = true → c.collections.contains name = true
  committed : ∀ name, c.committed.contains name = true → c.collections.contains name = true
  pendingIds : ∀ name docs, c.pending.get? name = some docs → KeptById docs
  committedIds : ∀ name docs, c.committed.get? name = some docs → KeptById docs

theorem consistent_fresh (n : NamingPolicy) : (fresh n).Consistent where
  configSet := nofun
  keyed name s h := by
    rw [fresh, SortedMap.get?_insert] at h
    split at h
    · cases h
      decide
    · cases h
  pending := nofun
  pendingDeletes := nofun
  committed := nofun
  pendingIds := nofun
  committedIds := nofun

namespace Consistent

theorem withAccount (h : c.Consistent) (failures : List (Operation × Int)) (closed : Bool) (calls : Nat) :
    (c.withAccount failures closed calls).Consistent :=
  ⟨h.configSet, h.keyed, h.pending, h.pendingDeletes, h.committed, h.pendingIds, h.committedIds⟩

theorem schemaOfCollection? (h : c.Consistent) (hset : c.collections.get? collection = some configSet) :
    ∃ s, c.configSets.get? configSet = some s ∧ c.schemaOfCollection? collection = some s := by
  obtain ⟨s, hs⟩ := SortedMap.contains_iff.mp (h.configSet collection configSet hset)
  exact ⟨s, hs, by rw [Cluster.schemaOfCollection?, hset]; exact hs⟩

theorem pendingOf (h : c.Consistent) (collection : String) :
    KeptById ((c.pending.get? collection).getD .empty) := by
  cases hdocs : c.pending.get? collection with
  | none => exact .empty
  | some docs => exact h.pendingIds collection docs hdocs

theorem committedOf (h : c.Consistent) (collection : String) : KeptById (c.committedOf collection) := by
  rw [Cluster.committedOf]
  cases hdocs : c.committed.get? collection with
  | none => exact .empty
  | some docs => exact h.committedIds collection docs hdocs

/-! ## What an accepted call makes of it -/

/-- A config-set may get any schema that has the field of its unique key. -/
theorem withConfigSet {s : Schema} (h : c.Consistent) (hs : s.contains s.uniqueKey = true) (name : String) :
    ({ c with configSets := c.configSets.insert name s } : Cluster).Consistent := by
  refine ⟨fun name' configSet hset => ?_, fun name' t ht => ?_, h.pending, h.pendingDeletes, h.committed,
    h.pendingIds, h.committedIds⟩
  · rw [SortedMap.contains_insert, h.configSet name' configSet hset, Bool.or_true]
  · simp only [SortedMap.get?_insert] at ht
    split at ht
    · cases ht
      exact hs
    · exact h.keyed name' t ht

theorem createConfig {d : Cluster} {base name : String} (h : c.Consistent)
    (hd : c.Becomes (.createConfig base name) d) : d.Consistent := by
  obtain ⟨-, s, hs, rfl⟩ := hd
  exact h.withConfigSet (h.keyed base s hs) name

theorem createCollection {d : Cluster} {name configSet : String} {shards replicas : Nat} (h : c.Consistent)
    (hd : c.Becomes (.createCollection name configSet shards replicas) d) : d.Consistent := by
  obtain ⟨-, hset, -, rfl⟩ := hd
  have hmore : ∀ name', c.collections.contains name' = true →
      (c.collections.insert name configSet).contains name' = true := fun name' hn => by
    rw [SortedMap.contains_insert, hn, Bool.or_true]
  refine ⟨fun name' configSet' hn => ?_, h.keyed, fun name' hn => hmore name' (h.pending name' hn),
    fun name' hn => hmore name' (h.pendingDeletes name' hn),
    fun name' hn => hmore name' (h.committed name' hn), h.pendingIds, h.committedIds⟩
  simp only [SortedMap.get?_insert] at hn
  split at hn
  · cases hn
    exact hset
  · exact h.configSet name' configSet' hn

/-- A collection takes everything with it that refers to it. -/
theorem dropped (h : c.Consistent) (name : String) : (c.dropped name).Consistent := by
  have hkeys : ∀ {β : Type} {m : SortedMap β},
      (∀ name', m.contains name' = true → c.collections.contains name' = true) →
      ∀ name', (m.erase name).contains name' = true →
        (c.collections.erase name).contains name' = true := fun hm name' hn => by
    rw [SortedMap.contains_erase, Bool.and_eq_true] at hn ⊢
    exact ⟨hn.1, hm name' hn.2⟩
  exact ⟨fun name' configSet hset => h.configSet name' configSet (SortedMap.get?_of_erase hset), h.keyed,
    hkeys h.pending, hkeys h.pendingDeletes, hkeys h.committed,
    fun name' docs hdocs => h.pendingIds name' docs (SortedMap.get?_of_erase hdocs),
    fun name' docs hdocs => h.committedIds name' docs (SortedMap.get?_of_erase hdocs)⟩

theorem deleteConfig {d : Cluster} {name : String} (h : c.Consistent)
    (hd : c.Becomes (.deleteConfig name) d) : d.Consistent := by
  obtain ⟨hunused, -, rfl⟩ := hd
  refine ⟨fun name' configSet hset => ?_, fun name' s hs => h.keyed name' s (SortedMap.get?_of_erase hs),
    h.pending, h.pendingDeletes, h.committed, h.pendingIds, h.committedIds⟩
  have hne : name ≠ configSet := fun he => by
    have hmem : name ∈ c.collections.values := SortedMap.mem_values_iff.mpr ⟨name', he ▸ hset⟩
    rw [List.contains_iff_mem.mpr hmem] at hunused
    cases hunused
  rw [SortedMap.contains_erase, bne_iff_ne.mpr hne, h.configSet name' configSet hset, Bool.true_and]

theorem submitSchemaUpdates {d : Cluster} {updates : List SchemaUpdate} (h : c.Consistent)
    (hd : c.Becomes (.submitSchemaUpdates table updates) d) : d.Consistent := by
  obtain ⟨collection, configSet, s, -, hset, happly, rfl⟩ := hd
  obtain ⟨t, ht, -⟩ := h.schemaOfCollection? hset
  rw [ht, Option.getD_some] at happly
  exact h.withConfigSet (keyed_of_applyUpdates (h.keyed configSet t ht) happly).2 configSet

theorem stageAdds {staged : List (String × Document)} (h : c.Consistent)
    (hthere : c.collections.contains collection = true) (hids : ∀ e ∈ staged, e.2.id? = some e.1) :
    (c.stageAdds collection staged).Consistent := by
  refine ⟨h.configSet, h.keyed, fun name hn => ?_, h.pendingDeletes, h.committed, fun name docs hdocs => ?_,
    h.committedIds⟩
  · simp only [Cluster.stageAdds, SortedMap.contains_insert, Bool.or_eq_true, beq_iff_eq] at hn
    rcases hn with rfl | hn
    · exact hthere
    · exact h.pending name hn
  · simp only [Cluster.stageAdds, SortedMap.get?_insert] at hdocs
    split at hdocs
    · cases hdocs
      exact (h.pendingOf collection).insertAll hids
    · exact h.pendingIds name docs hdocs

theorem stageDeletes (h : c.Consistent) (hthere : c.collections.contains collection = true)
    (ids : List String) : (c.stageDeletes collection ids).Consistent := by
  refine ⟨h.configSet, h.keyed, h.pending, fun name hn => ?_, h.committed, h.pendingIds, h.committedIds⟩
  simp only [Cluster.stageDeletes, SortedMap.contains_insert, Bool.or_eq_true, beq_iff_eq] at hn
  rcases hn with rfl | hn
  · exact hthere
  · exact h.pendingDeletes name hn

theorem commitStaged (h : c.Consistent) (hthere : c.collections.contains collection = true) :
    (c.commitStaged collection).Consistent := by
  refine ⟨h.configSet, h.keyed, fun name hn => ?_, fun name hn => ?_, fun name hn => ?_,
    fun name docs hdocs => ?_, fun name docs hdocs => ?_⟩
  · simp only [Cluster.commitStaged, SortedMap.contains_erase, Bool.and_eq_true] at hn
    exact h.pending name hn.2
  · simp only [Cluster.commitStaged, SortedMap.contains_erase, Bool.and_eq_true] at hn
    exact h.pendingDeletes name hn.2
  · simp only [Cluster.commitStaged, SortedMap.contains_insert, Bool.or_eq_true, beq_iff_eq] at hn
    rcases hn with rfl | hn
    · exact hthere
    · exact h.committed name hn
  · exact h.pendingIds name docs (SortedMap.get?_of_erase hdocs)
  · simp only [Cluster.commitStaged, SortedMap.get?_insert] at hdocs
    split at hdocs
    · cases hdocs
      exact ((h.committedOf collection).eraseAll _).insertAll (h.pendingOf collection).entries
    · exact h.committedIds name docs hdocs

end Consistent

/-! ## Every call -/

theorem Becomes.consistent {call : Call α} {d : Cluster} (hd : c.Becomes call d) (h : c.Consistent) :
    d.Consistent := by
  cases call with
  | createConfig base name => exact h.createConfig hd
  | createCollection name configSet shards replicas => exact h.createCollection hd
  | deleteCollection name =>
      obtain ⟨-, rfl⟩ := hd
      exact h.dropped name
  | deleteConfig name => exact h.deleteConfig hd
  | submitSchemaUpdates table updates => exact h.submitSchemaUpdates hd
  | addDocuments table docs =>
      obtain ⟨collection, staged, hres, hids, rfl⟩ := hd
      exact h.stageAdds (contains_of_resolve? hres) (id?_of_identified? hids)
  | deleteByIds table ids =>
      obtain ⟨collection, hres, rfl⟩ := hd
      exact h.stageDeletes (contains_of_resolve? hres) ids
  | deleteByQuery table query =>
      obtain ⟨collection, q, hres, -, rfl⟩ := hd
      exact h.stageDeletes (contains_of_resolve? hres) _
  | commit table =>
      obtain ⟨collection, hres, rfl⟩ := hd
      exact h.commitStaged (contains_of_resolve? hres)
  | _ => exact hd.elim

theorem keeps_consistent (call : Call α) : Keeps Consistent (perform call) :=
  keeps_perform (fun _ _ h => h.withAccount ..) fun _ h => stateAfter_serve h fun _ hd => hd.consistent h

/-- The cluster after a call, whether it was answered or not. -/
def after (c : Cluster) (call : Call α) : Cluster := stateAfter (gateway.perform call c)

/-- What a cluster of a naming policy becomes under any calls, while connections to it are opened and closed and
calls are made to fail and to succeed again. -/
inductive Called (n : NamingPolicy) : Cluster → Prop where
  | fresh : Called n (.fresh n)
  | perform {c : Cluster} {α : Type} (call : Call α) : Called n c → Called n (c.after call)
  | connect {c : Cluster} : Called n c → Called n (stateAfter (connector.connect c))
  | close {c : Cluster} : Called n c → Called n (stateAfter (gateway.close c))
  | fail {c : Cluster} (op : Operation) (status : Int) : Called n c → Called n (c.fail op status)
  | clearFailure {c : Cluster} (op : Operation) : Called n c → Called n (c.clearFailure op)

theorem Called.consistent (h : c.Called n) : c.Consistent := by
  induction h with
  | fresh => exact consistent_fresh n
  | perform call _ ih => exact keeps_consistent call _ ih
  | connect _ ih => exact ih.withAccount ..
  | close _ ih => exact ih.withAccount ..
  | fail op status _ ih => exact ih.withAccount ..
  | clearFailure op _ ih => exact ih.withAccount ..

/-! ## Branches that are never taken -/

theorem Consistent.exists_schema (h : c.Consistent) (hres : c.resolve? table = some collection) :
    ∃ configSet s, c.collections.get? collection = some configSet ∧
      c.configSets.get? configSet = some s ∧ c.schemaOfCollection? collection = some s := by
  obtain ⟨configSet, hset⟩ := SortedMap.contains_iff.mp (contains_of_resolve? hres)
  obtain ⟨s, hs, hschema⟩ := h.schemaOfCollection? hset
  exact ⟨configSet, s, hset, hs, hschema⟩

/-- A change of a schema that is refused is refused for one of its commands. -/
theorem Consistent.status_submit {updates : List SchemaUpdate} {r : AdminResponse} {d : Cluster}
    (h : c.Consistent) (hrun : gateway.perform (.submitSchemaUpdates table updates) c = .ok r d) :
    r.status ≠ 404 := by
  obtain ⟨u, hserve, -⟩ := perform_eq_ok hrun
  rw [serve] at hserve
  obtain ⟨collection, hres, hsubmit⟩ := onCollection_eq_ok hserve
  obtain ⟨configSet, s, hset, hs, -⟩ := h.exists_schema hres
  simp only [submitUpdates, hset, hs, Option.getD_some] at hsubmit
  split at hsubmit
  · cases hsubmit
    exact (by decide : (400 : Int) ≠ 404)
  · cases hsubmit
    exact (by decide : (0 : Int) ≠ 404)

/-- In every cluster that calls lead to, collections are on config-sets that are there, config-sets define their
unique keys, only what belongs to a collection is staged or visible, and documents are kept under their own
identifiers. So no schema stands in for a missing one, and no change is refused for the lack of one. -/
theorem consistent_of_called (h : c.Called n) :
    c.Consistent ∧
      (∀ table collection, c.resolve? table = some collection →
        ∃ s, c.schemaOfCollection? collection = some s) ∧
      ∀ table updates r d, gateway.perform (.submitSchemaUpdates table updates) c = .ok r d →
        r.status ≠ 404 := by
  have hc := h.consistent
  refine ⟨hc, fun table collection hres => ?_, fun _ _ _ _ hrun => hc.status_submit hrun⟩
  obtain ⟨-, s, -, -, hs⟩ := hc.exists_schema hres
  exact ⟨s, hs⟩

/-- The collection `orders` with one document visible and staged for deletion, and another one staged. -/
def ordersStaged : Cluster :=
  (fresh ⟨"DEFAULT"⟩).after (.createConfig baseConfigSet "orders")
    |>.after (.createCollection "orders" "orders" 1 1)
    |>.after (.addDocuments "orders" [.ofList [("id", .string "1")]])
    |>.after (.commit "orders")
    |>.after (.addDocuments "orders" [.ofList [("id", .string "2")]])
    |>.after (.deleteByIds "orders" ["1"])

theorem called_ordersStaged : ordersStaged.Called ⟨"DEFAULT"⟩ :=
  .perform _ (.perform _ (.perform _ (.perform _ (.perform _ (.perform _ .fresh)))))

theorem consistent_ordersStaged :
    ordersStaged.Called ⟨"DEFAULT"⟩ ∧ ordersStaged.collections.contains "orders" = true ∧
      ordersStaged.pending.contains "orders" = true ∧
      ordersStaged.pendingDeletes.contains "orders" = true ∧
      ordersStaged.committed.contains "orders" = true ∧ ordersStaged.Consistent :=
  ⟨called_ordersStaged, by decide +kernel, by decide +kernel, by decide +kernel, by decide +kernel,
    (consistent_of_called called_ordersStaged).1⟩

end Cluster

end TableIndex
