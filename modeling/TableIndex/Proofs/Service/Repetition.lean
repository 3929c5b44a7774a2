import TableIndex.Proofs.Cluster.Repetition
import TableIndex.Proofs.Service.Coherence
import TableIndex.Proofs.Service.Retry

/-!
# Operations that are repeated

A service that has changed a schema, or made sure that a collection is there with its schema, does so again and
changes nothing then: neither what it has cached nor the cluster, up to the order in which schemas list what they
define.
-/

namespace TableIndex

/-! ## Creating again -/

namespace Provisioner

variable {p : Provisioner} {config : CollectionConfig} {q : String} {c : Cluster} {s t : Cached Cluster}

/-- The collection `q` is there, and it can be asked for. -/
structure Found (q : String) (c : Cluster) : Prop where
  serves : c.Serves .collectionExists
  there : c.collections.contains q = true

theorem Found.of_data {d : Cluster} (h : Found q c) (hd : d.data = c.data) : Found q d := by
  rw [Cluster.eq_withCalls hd.symm]
  exact ⟨⟨h.serves.opened, h.serves.succeeds⟩, h.there⟩

theorem keeps_found {table : String} {α : Type} {call : Call α} (h : call.Revises table) :
    Keeps (Found q) (Cluster.perform call) := by
  refine Cluster.keeps_perform (fun _ _ h => h.of_data rfl) fun c hc =>
    Cluster.stateAfter_serve hc fun d hd => ?_
  cases call with
  | submitSchemaUpdates table updates =>
      obtain ⟨collection, configSet, s, -, -, -, rfl⟩ := hd
      exact ⟨⟨hc.serves.opened, hc.serves.succeeds⟩, hc.there⟩
  | _ => cases h

/-- A change of a schema finds the collection where it was. -/
theorem found_of_update {naming : NamingPolicy} {table : String} {desired : Schema} {merge : Bool}
    (hs : Found q s.remote) (h : Schema.update naming Cluster.gateway table desired merge s = .ok () t) :
    Found q t.remote := by
  have hkeeps : Keeps (fun s => Found q s.remote ∧ True)
      (Schema.update naming Cluster.gateway table desired merge) :=
    (Keeps.compositional (I := Found q)).update Keeps.compositional (.onRemote fun _ => True)
      (fun _ hk => Cluster.keeps_asks (fun _ _ h => h.of_data rfl) hk) (fun _ hk => keeps_found hk)
      (fun _ _ _ h => h) (fun _ _ _ _ _ h => h) desired merge
  have ht := hkeeps s ⟨hs, trivial⟩
  rw [h] at ht
  exact ht.1

/-- A collection that was created, or was there, exists already when it is to be created again. Its schema is
merged as before. -/
theorem ensure_again {o : CreateOutcome}
    (hstore : s.cache.IsUnbounded ∨ s.remote.SchemasBuilt ∧
      ∀ desired, config.schema = some desired → desired.NonBlank)
    (h : p.ensure Cluster.gateway config s = .ok o t) :
    ∃ u, p.ensure Cluster.gateway config t = .ok .alreadyExisted u ∧ u.cache = t.cache ∧
      t.remote.Alike u.remote := by
  obtain ⟨o', s', hcreate, h⟩ := bind_eq_ok h
  obtain ⟨hcreate, hcache⟩ := Cached.onRemoteOr_eq_ok hcreate
  obtain ⟨q, hq, hserves, hthere⟩ := create_eq_ok hcreate
  have hagain : Found q t.remote →
      Cached.onRemoteOr EnsureError.create (p.create Cluster.gateway config) t =
        .ok .alreadyExisted ⟨t.cache, t.remote.withCalls (t.remote.calls + 1)⟩ := fun ht =>
    Cached.onRemoteOr_of_ok (create_of_there hq ht.serves ht.there)
  cases hschema : config.schema with
  | none =>
      simp only [hschema] at h
      cases h
      refine ⟨⟨t.cache, t.remote.withCalls (t.remote.calls + 1)⟩,
        (bind_of_ok (hagain ⟨hserves, hthere⟩)).trans ?_, rfl, .of_data rfl⟩
      simp only [hschema]
      rfl
  | some desired =>
      simp only [hschema] at h
      obtain ⟨_, t', hupdate, h⟩ := bind_eq_ok h
      cases h
      have hupdate := adaptExcept_eq_ok hupdate
      have hextends := keeps_create config hq s.remote s.remote (Cluster.SameLayout.refl s.remote).extends
      rw [hcreate] at hextends
      have hstore' : s'.cache.IsUnbounded ∨ (∀ served, s'.remote.served config.collectionName = some served →
          served.Built) ∧ desired.NonBlank := by
        rw [hcache]
        exact hstore.imp id fun ⟨hbuilt, hdesired⟩ =>
          ⟨fun _ hserved => (hbuilt.extends hextends).served hserved, hdesired desired hschema⟩
      obtain ⟨u, hu, hucache, halike⟩ := Schema.update_again (fun hm => by cases hm) hstore' hupdate
      -- The second attempt has asked for the collection before.
      have hagree := Schema.respects_update p.naming config.collectionName desired true
        ⟨t.cache, t.remote.withCalls (t.remote.calls + 1)⟩ t ⟨rfl, rfl⟩
      rw [hu] at hagree
      obtain ⟨_, v, hv, -, hvu⟩ := hagree.eq_ok
      refine ⟨v, (bind_of_ok (hagain (found_of_update ⟨hserves, hthere⟩ hupdate))).trans ?_,
        hvu.cache.trans hucache, halike.congr rfl hvu.remote⟩
      simp only [hschema]
      exact bind_of_ok (adaptExcept_of_ok hv)

end Provisioner

/-! ## Calling again -/

/-- The same handle and cache, and clusters that are alike. -/
structure ServiceState.Alike (st st' : ServiceState Cluster Unit) : Prop where
  handle : st.handle = st'.handle
  cache : st.cache = st'.cache
  remote : st.remote.Alike st'.remote

namespace Service

variable {ε α : Type} {naming : NamingPolicy} {base table : String} {st st' : ServiceState Cluster Unit}

/-- What gives `b` when it is done again on a cluster behind a cache gives `b` when a service does it again. -/
theorem again_of_run {x : EStateM ε (ServiceState Cluster Unit) α} {act : EStateM ε (Cached Cluster) α}
    {a b : α} (hrun : ∀ st, x st = onCached act (opened st)) (h : x st = .ok a st')
    (hagain : act (seen st) = .ok a ⟨st'.cache, st'.remote⟩ →
      ∃ u, act ⟨st'.cache, st'.remote⟩ = .ok b u ∧ u.cache = st'.cache ∧ st'.remote.Alike u.remote) :
    ∃ again, x st' = .ok b again ∧ st'.Alike again := by
  obtain ⟨hact, hhandle⟩ := onCached_eq_ok ((hrun st).symm.trans h)
  obtain ⟨u, hu, hcache, hremote⟩ := hagain hact
  -- The first call has left the service connected.
  have hopened : opened st' = st' := opened_of_handle hhandle
  refine ⟨{ st' with cache := u.cache, remote := u.remote }, ?_, rfl, hcache.symm, hremote⟩
  rw [hrun, hopened]
  exact onCached_of_ok hu

theorem schemasBuilt_seen (h : st.remote.SchemasBuilt) : (seen st).remote.SchemasBuilt := by
  rw [remote_seen]
  exact h

theorem ensure_again {config : CollectionConfig} {o : CreateOutcome}
    (hstore : st.cache.IsUnbounded ∨ st.remote.SchemasBuilt ∧
      ∀ desired, config.schema = some desired → desired.NonBlank)
    (h : (inMemory naming base).ensure config st = .ok o st') :
    ∃ again, (inMemory naming base).ensure config st' = .ok .alreadyExisted again ∧ st'.Alike again :=
  again_of_run (ensure_run config) h <|
    Provisioner.ensure_again (hstore.imp id fun ⟨hbuilt, hdesired⟩ => ⟨schemasBuilt_seen hbuilt, hdesired⟩)

theorem updateSchema_again {desired : Schema} {merge : Bool}
    (hkey : merge = false → ∀ served, st.remote.served table = some served →
      desired.uniqueKey = served.uniqueKey)
    (hstore : st.cache.IsUnbounded ∨
      (∀ served, st.remote.served table = some served → served.Built) ∧ desired.NonBlank)
    (h : (inMemory naming base).updateSchema table desired merge st = .ok () st') :
    ∃ again, (inMemory naming base).updateSchema table desired merge st' = .ok () again ∧
      st'.Alike again := by
  refine again_of_run (fun _ => updateSchema_run desired merge) h (Schema.update_again ?_ ?_)
  · rw [served_seen]
    exact hkey
  · rw [served_seen]
    exact hstore

/-- What a service has done it does again, and nothing changes then. Creating a collection with its schema finds
the collection there; a schema that was merged is merged once more, and so is one replaced that was replaced under
the unique key that is served. A store that keeps nothing has to read back what was written, and can if what is
served was built by the operations on schemas and what is desired has no blank name or type. -/
theorem repeats_of_ok (naming : NamingPolicy) (base : String) (st st' : ServiceState Cluster Unit) :
    let s := inMemory naming base
    (∀ config outcome, s.ensure config st = .ok outcome st' →
      (st.cache.IsUnbounded ∨ st.remote.SchemasBuilt ∧
        ∀ desired, config.schema = some desired → desired.NonBlank) →
      ∃ again, s.ensure config st' = .ok .alreadyExisted again ∧ st'.Alike again) ∧
    ∀ table desired merge, s.updateSchema table desired merge st = .ok () st' →
      (merge = false → ∀ served, st.remote.served table = some served →
        desired.uniqueKey = served.uniqueKey) →
      (st.cache.IsUnbounded ∨
        (∀ served, st.remote.served table = some served → served.Built) ∧ desired.NonBlank) →
      ∃ again, s.updateSchema table desired merge st' = .ok () again ∧ st'.Alike again :=
  ⟨fun _ _ h hstore => ensure_again hstore h, fun _ _ _ h hkey hstore => updateSchema_again hkey hstore h⟩

/-- The table `orders` is created with its schema twice, and then its schema is replaced twice by services that
keep no schemas. -/
theorem repeats_orders :
    let s := inMemory ⟨"DEFAULT"⟩ Cluster.baseConfigSet
    let fresh : ServiceState Cluster Unit := { remote := .fresh ⟨"DEFAULT"⟩ }
    let uncached := { ordersCreated with cache := .nop }
    let desired := Schema.ofFields "id" [.typed "total" .double]
    (∃ created again, s.ensure ordersDeclared fresh = .ok .created created ∧
      s.ensure ordersDeclared created = .ok .alreadyExisted again ∧ created.Alike again) ∧
    ∃ replaced again, s.updateSchema "orders" desired false uncached = .ok () replaced ∧
      s.updateSchema "orders" desired false replaced = .ok () again ∧ replaced.Alike again := by
  intro s fresh uncached desired
  constructor
  · obtain ⟨created, hcreated⟩ := exists_of_value?
      (show value? (s.ensure ordersDeclared fresh) = some .created by decide +kernel)
    obtain ⟨again, hagain, halike⟩ :=
      (repeats_of_ok ⟨"DEFAULT"⟩ Cluster.baseConfigSet fresh created).1 _ _ hcreated (.inl ⟨_, rfl⟩)
    exact ⟨created, again, hcreated, hagain, halike⟩
  · obtain ⟨replaced, hreplaced⟩ := exists_of_value?
      (show value? (s.updateSchema "orders" desired false uncached) = some () by decide +kernel)
    have hid : (uncached.remote.served "orders").map Schema.uniqueKey = some "id" := by decide +kernel
    have hkey : ∀ served, uncached.remote.served "orders" = some served →
        desired.uniqueKey = served.uniqueKey := by
      intro served h
      rw [h] at hid
      exact (Option.some.inj hid).symm
    have hdesired : desired.Legible := .ofTyped (by decide) (by decide) rfl "id"
    obtain ⟨again, hagain, halike⟩ :=
      (repeats_of_ok ⟨"DEFAULT"⟩ Cluster.baseConfigSet uncached replaced).2 _ _ _ hreplaced
        (fun _ => hkey) (.inr ⟨fun _ => schemasBuilt_ordersCreated.served, hdesired.nonBlank⟩)
    exact ⟨replaced, again, hreplaced, hagain, halike⟩

end Service

end TableIndex
