import TableIndex.Collection.Provision
import TableIndex.Document.Write
import TableIndex.Proofs.Cluster.Perform

/-!
# What programs do to a cluster

Creating a collection adds at most that collection and its config-set, deleting one takes away both, and
writing documents leaves config-sets and collections alone.
-/

namespace TableIndex

variable {p : Provisioner} {q table : String} {c d : Cluster}

/-! ## Creating -/

theorem Provisioner.create_of_blank {σ : Type} {g : Gateway σ} {config : CollectionConfig}
    (hq : p.naming.qualify config.collectionName = none) :
    p.create g config = throw (.invalidName config.collectionName) := by
  simp only [create, hq]

theorem Provisioner.keeps_create (config : CollectionConfig)
    (hq : p.naming.qualify config.collectionName = some q) (c : Cluster) :
    Keeps (Cluster.Extends q c) (p.create Cluster.gateway config) := by
  refine Keeps.compositional.create (fun _ h => Cluster.keeps_asks (fun _ _ h => h.of_data rfl) h)
    fun q' hq' _ _ h => ?_
  obtain rfl : q = q' := Option.some.inj (hq.symm.trans hq')
  exact Cluster.keeps_creates c h

theorem Provisioner.respects_create (p : Provisioner) (config : CollectionConfig) :
    Respects Cluster.SameData (p.create Cluster.gateway config) :=
  Respects.compositional.create (fun _ _ => Cluster.respects_perform _) fun _ _ _ _ _ =>
    Cluster.respects_perform _

/-! ## Deleting -/

/-- Nothing keeps any call from being served. -/
structure Cluster.Healthy (c : Cluster) : Prop where
  opened : c.closed = false
  failures : c.failures = []

theorem Cluster.Healthy.serves (h : c.Healthy) (op : Operation) : c.Serves op :=
  ⟨h.opened, by rw [failure?, h.failures]; rfl⟩

theorem Cluster.Healthy.congr (h : c.Healthy) (hclosed : d.closed = c.closed)
    (hfailures : d.failures = c.failures) : d.Healthy :=
  ⟨hclosed.trans h.opened, hfailures.trans h.failures⟩

/-- The cluster without the collection `q`, its documents and its config-set. -/
def Cluster.without (c : Cluster) (q : String) : Cluster :=
  { c with
    configSets := c.configSets.erase q
    collections := c.collections.erase q
    pending := c.pending.erase q
    pendingDeletes := c.pendingDeletes.erase q
    committed := c.committed.erase q }

theorem Provisioner.delete_of_blank {σ : Type} {g : Gateway σ} (hq : p.naming.qualify table = none) :
    p.delete g table = pure .notFound := by
  simp only [delete, hq]

theorem Provisioner.delete_of_missing (hq : p.naming.qualify table = some q)
    (hc : c.Serves .collectionExists) (hno : c.collections.contains q = false) (cache : SchemaCache) :
    p.delete Cluster.gateway table ⟨cache, c⟩ = .ok .notFound ⟨cache, c.withCalls (c.calls + 1)⟩ := by
  have hask := Cluster.perform_collectionExists q hc
  simp only [delete, hq]
  refine (bind_of_ok (Cached.onRemoteOr_of_ok (s := ⟨cache, c⟩) hask)).trans ?_
  rw [hno]
  rfl

/-- Where no other collection uses the config-set, it goes with the collection if it is there. -/
theorem Provisioner.delete_of_unused (hq : p.naming.qualify table = some q) (hc : c.Healthy)
    (hthere : c.collections.contains q = true)
    (hunused : ∀ name, c.collections.get? name = some q → name = q) (cache : SchemaCache) :
    p.delete Cluster.gateway table ⟨cache, c⟩ =
      if c.configSets.contains q then
        .ok .deleted ⟨cache.remove q, (c.without q).withCalls (c.calls + 4)⟩
      else .ok .deletedKeepingConfigSet ⟨cache.remove q, (c.dropped q).withCalls (c.calls + 3)⟩ := by
  -- The collection goes first, then the cached schema, and then the config-set.
  let c₁ := c.withCalls (c.calls + 1)
  let c₂ := (c.dropped q).withCalls (c.calls + 2)
  let c₃ := (c.dropped q).withCalls (c.calls + 3)
  have hserves : ∀ n op, ((c.dropped q).withCalls n).Serves op := fun n op =>
    ⟨hc.opened, (hc.serves op).succeeds⟩
  have hask := Cluster.perform_collectionExists q (hc.serves .collectionExists)
  have hdrop : Cluster.gateway.changeCollection (.deleteCollection q) c₁ = .ok () c₂ :=
    Cluster.change_deleteCollection ((hc.serves _).of_data rfl) hthere
  have hforget : (Cached.forget q : EStateM DeleteError (Cached Cluster) Unit) ⟨cache, c₂⟩ =
      .ok () ⟨cache.remove q, c₂⟩ := rfl
  have hconfig : Cluster.gateway.perform (.configExists q) c₂ = .ok (c.configSets.contains q) c₃ :=
    Cluster.perform_configExists q (hserves _ _)
  simp only [delete, hq]
  refine (bind_of_ok (Cached.onRemoteOr_of_ok (s := ⟨cache, c⟩) hask)).trans ?_
  simp only [hthere, Bool.not_true, Bool.false_eq_true, ↓reduceIte]
  refine (bind_of_ok (Cached.onRemoteOr_of_ok (s := (⟨cache, c₁⟩ : Cached Cluster)) hdrop)).trans ?_
  refine (bind_of_ok hforget).trans ?_
  refine (bind_of_ok (Cached.onRemoteOr_of_ok (s := (⟨cache.remove q, c₂⟩ : Cached Cluster))
    hconfig)).trans ?_
  cases hset : c.configSets.contains q with
  | false => rfl
  | true =>
      have hfree : c₃.collections.values.contains q = false := by
        refine Bool.eq_false_iff.mpr fun h => ?_
        obtain ⟨name, hname⟩ := SortedMap.mem_values_iff.mp (List.contains_iff_mem.mp h)
        have hname : (c.collections.erase q).get? name = some q := hname
        rw [SortedMap.get?_erase] at hname
        split at hname
        · cases hname
        · next hne => exact hne (hunused name hname).symm
      have hgone := Cluster.change_deleteConfig (hserves _ _) hfree hset
      simp only [Bool.not_true, Bool.false_eq_true, ↓reduceIte]
      exact bind_of_ok (Cached.onRemoteOr_of_ok (s := (⟨cache.remove q, c₃⟩ : Cached Cluster)) hgone)

/-- Where every collection has the config-set of its name, deleting one is never refused. -/
theorem Provisioner.delete_of_own (hq : p.naming.qualify table = some q) (hc : c.Healthy)
    (hown : ∀ name configSet, c.collections.get? name = some configSet → configSet = name)
    (hset : c.collections.contains q = true → c.configSets.contains q = true) (cache : SchemaCache) :
    p.delete Cluster.gateway table ⟨cache, c⟩ =
      if c.collections.contains q then .ok .deleted ⟨cache.remove q, (c.without q).withCalls (c.calls + 4)⟩
      else .ok .notFound ⟨cache, c.withCalls (c.calls + 1)⟩ := by
  cases hin : c.collections.contains q with
  | false => exact delete_of_missing hq (hc.serves _) hin cache
  | true =>
      rw [delete_of_unused hq hc hin (fun name hname => (hown name q hname).symm) cache, if_pos (hset hin),
        if_pos rfl]

/-! ## Asking -/

theorem Provisioner.keeps_collectionExists (p : Provisioner) (table : String) (c : Cluster) :
    Keeps (Cluster.SameLayout c) (p.collectionExists Cluster.gateway table) :=
  Keeps.compositional.collectionExists p table fun _ h =>
    Cluster.keeps_asks (fun _ n h => h.withCalls n) h

theorem Provisioner.respects_collectionExists (p : Provisioner) (table : String) :
    Respects Cluster.SameData (p.collectionExists Cluster.gateway table) :=
  Respects.compositional.collectionExists p table fun _ _ => Cluster.respects_perform _

theorem Provisioner.keeps_configSetExists (p : Provisioner) (table : String) (c : Cluster) :
    Keeps (Cluster.SameLayout c) (p.configSetExists Cluster.gateway table) :=
  Keeps.compositional.configSetExists p table fun _ h =>
    Cluster.keeps_asks (fun _ n h => h.withCalls n) h

theorem Provisioner.respects_configSetExists (p : Provisioner) (table : String) :
    Respects Cluster.SameData (p.configSetExists Cluster.gateway table) :=
  Respects.compositional.configSetExists p table fun _ _ => Cluster.respects_perform _

/-! ## Writing documents -/

namespace Document

theorem keeps_index (table : String) (docs : List Document) (c : Cluster) :
    Keeps (Cluster.SameLayout c) (index Cluster.gateway table docs) :=
  Keeps.compositional.index docs fun _ h => Cluster.keeps_writes c h

theorem keeps_deleteIds (table : String) (ids : List String) (c : Cluster) :
    Keeps (Cluster.SameLayout c) (deleteIds Cluster.gateway table ids) :=
  Keeps.compositional.deleteIds ids fun _ h => Cluster.keeps_writes c h

theorem keeps_deleteQuery (table query : String) (c : Cluster) :
    Keeps (Cluster.SameLayout c) (deleteQuery Cluster.gateway table query) :=
  Keeps.compositional.deleteQuery query fun _ h => Cluster.keeps_writes c h

theorem respects_index (table : String) (docs : List Document) :
    Respects Cluster.SameData (index Cluster.gateway table docs) :=
  Respects.compositional.index docs fun _ _ => Cluster.respects_perform _

theorem respects_deleteIds (table : String) (ids : List String) :
    Respects Cluster.SameData (deleteIds Cluster.gateway table ids) :=
  Respects.compositional.deleteIds ids fun _ _ => Cluster.respects_perform _

theorem respects_deleteQuery (table query : String) :
    Respects Cluster.SameData (deleteQuery Cluster.gateway table query) :=
  Respects.compositional.deleteQuery query fun _ _ => Cluster.respects_perform _

end Document

end TableIndex
