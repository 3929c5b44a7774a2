import TableIndex.Proofs.Cluster.Recovery

/-!
# Changes of schemas that are repeated

A change of a schema that was accepted is accepted again and changes nothing then, although it is planned from
another schema the second time: from the one that was cached by the first change, or from the one that is read
after it. So is the creation of a collection, with a schema or without.
-/

namespace TableIndex

namespace Schema

variable {naming : NamingPolicy} {table q : String} {cache : SchemaCache}
  {current served desired known after again : Schema} {merge : Bool}

/-! ## Planning again -/

/-- What was cached has all desired fields, and so has what is served. -/
theorem applyUpdates_again_cached (current : Schema)
    (hkey : merge = false → desired.uniqueKey = served.uniqueKey) :
    ∃ again, Cluster.applyUpdates (revised current served desired merge)
        (SchemaUpdate.plan (SchemaUpdate.plan current desired merge).schema desired merge).updates =
          .ok again ∧
      (revised current served desired merge).Alike again := by
  have hdesired : ∀ n f, desired.field? n = some f →
      (revised current served desired merge).field? n = some f := fun _ _ => field?_revised_of_desired merge
  cases merge with
  | true =>
      refine ⟨_, Cluster.applyUpdates_merge fun f hf => ?_, alike_revised hdesired fun _ _ _ => rfl⟩
      have hf : desired.contains f.name = true := contains_iff.mpr ⟨f, hf, rfl⟩
      rw [contains_revised, hf, Bool.true_or]
      exact (contains_mergedWith current desired f.name).trans (by rw [hf, Bool.true_or])
  | false =>
      have hcovers : (revised current served desired false).Covers desired := fun n hn => by
        rw [contains_revised, hn, Bool.true_or]
      refine ⟨_, Cluster.applyUpdates_plan hcovers ?_, alike_revised hdesired fun n _ hn => ?_⟩
      · rintro (⟨f, hf, -, hno⟩ | ⟨-, -, hp⟩)
        · have hno : desired.contains f.name = false := hno
          rw [contains_iff.mpr ⟨f, hf, rfl⟩] at hno
          cases hno
        · have hp : desired.isProtected served.uniqueKey = false := hp
          simp [isProtected, hkey rfl] at hp
      · have hn' : (SchemaUpdate.plan current desired false).schema.contains n = false := hn
        rw [hn']
        rfl

/-- What is read after a change has the names of what is served, and it was the same before the change. -/
theorem applyUpdates_again_read (hcurrent : ∀ n, current.contains n = served.contains n)
    (hkey : current.uniqueKey = served.uniqueKey)
    (hknown : ∀ n, known.contains n = (revised current served desired merge).contains n)
    (hkey' : known.uniqueKey = served.uniqueKey) :
    ∃ again, Cluster.applyUpdates (revised current served desired merge)
        (SchemaUpdate.plan known desired merge).updates = .ok again ∧
      (revised current served desired merge).Alike again := by
  refine ⟨_, Cluster.applyUpdates_plan (fun n hn => (hknown n).symm.trans hn)
    (not_conflict_of_contains_eq hknown hkey' desired merge),
    alike_revised (fun _ _ => field?_revised_of_desired merge) fun n hn hno => ?_⟩
  -- A field that is not desired is protected, or it would not be there any more.
  have hprotected : known.isProtected n = current.isProtected n := by
    rw [isProtected, isProtected, hkey', hkey]
  rw [contains_revised, hno, hcurrent, Bool.false_or] at hn
  rw [hprotected]
  revert hn
  cases merge <;> cases current.isProtected n <;> cases served.contains n <;> simp

/-! ## What is cached -/

theorem cacheAfter_false (cache : SchemaCache) (q : String) (current desired : Schema) :
    cacheAfter cache q current desired false = cache.insert q desired := by
  rw [cacheAfter, if_neg fun h => Bool.false_ne_true h.2]
  rfl

theorem cacheAfter_true (cache : SchemaCache) (q : String) (current desired : Schema) :
    cacheAfter cache q current desired true =
      if desired.toList = [] then cache else cache.insert q (current.mergedWith desired) := by
  rw [cacheAfter]
  by_cases hd : desired.toList = []
  · rw [if_pos hd, if_pos ⟨Cluster.updates_plan_true_eq_nil.mpr hd, rfl⟩]
  · rw [if_neg hd, if_neg fun h => hd (Cluster.updates_plan_true_eq_nil.mp h.1)]
    rfl

/-- A change that is repeated caches what was cached before. -/
theorem cacheAfter_again (hknown : merge = true → desired.toList ≠ [] → cache.IsUnbounded →
      known = current.mergedWith desired) :
    cacheAfter (cacheAfter cache q current desired merge) q known desired merge =
      cacheAfter cache q current desired merge := by
  cases merge with
  | false => rw [cacheAfter_false, cacheAfter_false, Store.insert_insert]
  | true =>
      rw [cacheAfter_true, cacheAfter_true]
      by_cases hd : desired.toList = []
      · rw [if_pos hd, if_pos hd]
      · rw [if_neg hd, if_neg hd]
        by_cases hu : cache.IsUnbounded
        · rw [hknown rfl hd hu, mergedWith_mergedWith, Store.insert_insert]
        · rw [Store.insert_of_not_unbounded hu, Store.insert_of_not_unbounded hu]

end Schema

/-! ## Clusters that are alike -/

/-- The same cluster but for the number of calls and the order in which its schemas list what they define. -/
structure Cluster.Alike (c d : Cluster) : Prop where
  naming : c.naming = d.naming
  configSets : ∀ name,
    Option.Rel (fun s t => s.same t = true) (c.configSets.get? name) (d.configSets.get? name)
  collections : c.collections = d.collections
  pending : c.pending = d.pending
  pendingDeletes : c.pendingDeletes = d.pendingDeletes
  committed : c.committed = d.committed
  failures : c.failures = d.failures
  closed : c.closed = d.closed

namespace Cluster

variable {c d : Cluster} {table : String} {s t : Schema}

theorem sameSets_refl (c : Cluster) (name : String) :
    Option.Rel (fun s t => s.same t = true) (c.configSets.get? name) (c.configSets.get? name) := by
  cases c.configSets.get? name with
  | none => exact .none
  | some s => exact .some (Schema.Alike.refl s).same

theorem Alike.of_data (h : d.data = c.data) : c.Alike d := by
  rw [eq_withCalls h.symm]
  exact ⟨rfl, sameSets_refl c, rfl, rfl, rfl, rfl, rfl, rfl⟩

theorem Alike.congr {c' d' : Cluster} (h : c.Alike d) (hc : c'.data = c.data) (hd : d'.data = d.data) :
    c'.Alike d' := by
  rw [eq_withCalls hc.symm, eq_withCalls hd.symm]
  exact ⟨h.naming, h.configSets, h.collections, h.pending, h.pendingDeletes, h.committed, h.failures,
    h.closed⟩

/-- A schema that is rewritten to one like it leaves the cluster alike. -/
theorem Rewritten.alike (h : Rewritten table s c d) (hs : c.schemaOf? table = some t) (ht : t.Alike s) :
    c.Alike d := by
  cases h with
  | untouched _ hd => exact .of_data hd
  | @written e d hset hd =>
      obtain ⟨collection, configSet, hres, hcollection, rfl⟩ := setSchema?_eq_some hset
      have ht' : c.configSets.get? configSet = some t := by
        simpa [schemaOf?, hres, schemaOfCollection?, hcollection] using hs
      rw [eq_withCalls hd.symm]
      refine ⟨rfl, fun name => ?_, rfl, rfl, rfl, rfl, rfl, rfl⟩
      show Option.Rel _ _ ((c.configSets.insert configSet s).get? name)
      rw [SortedMap.get?_insert]
      split
      · next he =>
          rw [← he, ht']
          exact .some ht.same
      · exact sameSets_refl c name

end Cluster

namespace Schema

variable {naming : NamingPolicy} {table q : String} {s t t' : Cached Cluster}
  {current served desired known after again : Schema} {merge : Bool}

/-! ## Changing again -/

/-- The second run of a change, given what is known to it. -/
theorem update_again_of_get (hq : naming.qualify table = some q)
    (hget : get naming Cluster.gateway table t = .ok known t') (hsame : t'.Same Cluster.SameData t)
    (hcache : cacheAfter t.cache q known desired merge = t.cache)
    (h : (SchemaUpdate.plan known desired merge).updates = [] ∨
      t.remote.Serves .submitSchemaUpdates ∧ ∃ after again, t.remote.schemaOf? table = some after ∧
        Cluster.applyUpdates after (SchemaUpdate.plan known desired merge).updates = .ok again ∧
        after.Alike again) :
    ∃ u, update naming Cluster.gateway table desired merge t = .ok () u ∧ u.cache = t.cache ∧
      t.remote.Alike u.remote := by
  rw [← hsame.cache] at hcache
  rcases h with hu | ⟨hserves, after, again, hschema, happly, halike⟩
  · exact ⟨_, update_of_idle hq hget hu, hcache.trans hsame.cache, .of_data hsame.remote⟩
  · have hschema : t'.remote.schemaOf? table = some after := by
      rw [Cluster.eq_withCalls hsame.remote.symm]
      exact hschema
    obtain ⟨d, hupdate, hd⟩ := update_applied hq hget (fun _ => hserves.of_data hsame.remote)
      (Cluster.served_of_schemaOf? hschema) happly
    have hremote : t'.remote.Alike d := hd.alike hschema halike
    exact ⟨_, hupdate, hcache.trans hsame.cache, hremote.congr hsame.remote.symm rfl⟩

theorem isUnbounded_of_get (h : get naming Cluster.gateway table s = .ok current t) :
    t.cache.IsUnbounded ↔ s.cache.IsUnbounded := by
  obtain ⟨q, -, ⟨-, rfl⟩ | ⟨-, -, hcache⟩⟩ := get_eq_ok h
  · exact .rfl
  · rw [hcache]
    exact Store.isUnbounded_insert ..

theorem cacheAfter_of_not_unbounded {cache : SchemaCache} (h : ¬ cache.IsUnbounded) :
    cacheAfter cache q current desired merge = cache := by
  rw [cacheAfter, Store.insert_of_not_unbounded h, ite_self]

/-- A store that keeps nothing has the changed schema fetched. -/
theorem get_again_of_fetch {s' : Cached Cluster} (hs : ¬ s.cache.IsUnbounded) (ht : ¬ t.cache.IsUnbounded)
    (hget : get naming Cluster.gateway table s = .ok current s')
    (hserved : s.remote.served table = some served) (hbuilt : served.Built) (hdesired : desired.NonBlank)
    (hd : Cluster.Rewritten table (revised current served desired merge) s'.remote t.remote) :
    ∃ known t', get naming Cluster.gateway table t = .ok known t' ∧ t'.Same Cluster.SameData t ∧
      served.read = .ok current ∧ (revised current served desired merge).read = .ok known := by
  obtain ⟨q, hq, ⟨hl, -⟩ | ⟨-, hf, -⟩⟩ := get_eq_ok hget
  · cases (Store.lookup_of_not_unbounded hs q).symm.trans hl
  · have hreadable := readable_of_fetch hf
    obtain ⟨served', hserved', hread⟩ := hreadable.read
    obtain rfl : served = served' := Option.some.inj (hserved.symm.trans hserved')
    obtain ⟨known, hknown⟩ := hdesired.exists_read_revised hbuilt hread merge
    have hagain := (hreadable.of_data (data_of_get hget)).rewritten hd hknown
    refine ⟨known, _, get_of_fetch hq (Store.lookup_of_not_unbounded ht q) hagain.fetch, ⟨?_, rfl⟩, hread,
      hknown⟩
    exact Store.insert_of_not_unbounded ht q known

/-- The second run of a change whose first plan was empty. -/
theorem update_again_of_idle {s' : Cached Cluster} (hq : naming.qualify table = some q)
    (hget : get naming Cluster.gateway table s = .ok current s')
    (hcache : t.cache = cacheAfter s'.cache q current desired merge) (hremote : t.remote = s'.remote)
    (hidle : (SchemaUpdate.plan current desired merge).updates = []) :
    ∃ u, update naming Cluster.gateway table desired merge t = .ok () u ∧ u.cache = t.cache ∧
      t.remote.Alike u.remote := by
  have hnothing := Cluster.toList_of_updates_plan hidle
  have hagain : ∀ known, cacheAfter t.cache q known desired merge = t.cache := fun known => by
    rw [hcache]
    exact cacheAfter_again fun _ hne => absurd hnothing hne
  by_cases hcached : merge = false ∧ s'.cache.IsUnbounded
  · obtain ⟨rfl, hu⟩ := hcached
    have hl : t.cache.lookup q = some desired := by
      rw [hcache, cacheAfter_false]
      exact hu.lookup_insert q desired
    refine update_again_of_get hq (get_of_cached hq hl) ⟨rfl, rfl⟩ (hagain desired) (.inl ?_)
    rw [Cluster.updates_plan_false, hnothing]
    rfl
  · -- Nothing was put into the cache, so that the second run starts where the first one has read.
    have hkept : cacheAfter s'.cache q current desired merge = s'.cache := by
      cases merge with
      | true => rw [cacheAfter_true, if_pos hnothing]
      | false => exact cacheAfter_of_not_unbounded fun hu => hcached ⟨rfl, hu⟩
    obtain ⟨cache, remote⟩ := t
    obtain rfl : cache = s'.cache := hcache.trans hkept
    obtain rfl : remote = s'.remote := hremote
    obtain ⟨u, hu, hsame⟩ := get_again hget
    exact update_again_of_get hq hu hsame (hagain current) (.inl hidle)

/-- A change that was accepted is accepted again. Then it leaves the cache as it is, and the cluster up to the
order in which schemas list what they define. -/
theorem update_again
    (hkey : merge = false → ∀ served, s.remote.served table = some served →
      desired.uniqueKey = served.uniqueKey)
    (hstore : s.cache.IsUnbounded ∨
      (∀ served, s.remote.served table = some served → served.Built) ∧ desired.NonBlank)
    (h : update naming Cluster.gateway table desired merge s = .ok () t) :
    ∃ u, update naming Cluster.gateway table desired merge t = .ok () u ∧ u.cache = t.cache ∧
      t.remote.Alike u.remote := by
  obtain ⟨q, current, s', hq, hget, hcache, ⟨hidle, hremote⟩ | ⟨hu, hserves, served, d, hserved, hd, hdata⟩⟩ :=
    update_eq_ok h
  · exact update_again_of_idle hq hget hcache hremote hidle
  have hwritten := Cluster.Rewritten.written hd hdata
  have hserves' := hwritten.serves hserves
  have hschema : t.remote.schemaOf? table = some (revised current served desired merge) :=
    (Cluster.schemaOf?_of_data hdata table).trans (Cluster.schemaOf?_setSchema? hd)
  have hserved' : s.remote.served table = some served :=
    (Cluster.served_of_data (data_of_get hget) table).symm.trans hserved
  have hput : t.cache = s'.cache.insert q (SchemaUpdate.plan current desired merge).schema := by
    rw [hcache, cacheAfter, if_neg fun hno => hu hno.1]
  by_cases hs : s'.cache.IsUnbounded
  · obtain ⟨again, happly, halike⟩ :=
      applyUpdates_again_cached current fun hm => hkey hm served hserved'
    have hl : t.cache.lookup q = some (SchemaUpdate.plan current desired merge).schema := by
      rw [hput]
      exact hs.lookup_insert q _
    refine update_again_of_get hq (get_of_cached hq hl) ⟨rfl, rfl⟩ ?_
      (.inr ⟨hserves', _, again, hschema, happly, halike⟩)
    rw [hcache]
    refine cacheAfter_again fun hm _ _ => ?_
    rw [hm]
    rfl
  · have hs₀ : ¬ s.cache.IsUnbounded := fun hs₀ => hs ((isUnbounded_of_get hget).mpr hs₀)
    have ht : ¬ t.cache.IsUnbounded := by
      rw [hput, Store.isUnbounded_insert]
      exact hs
    obtain ⟨hbuilt, hdesired⟩ := hstore.resolve_left hs₀
    have hbuilt := hbuilt served hserved'
    obtain ⟨known, t', hget', hsame, hread, hread'⟩ :=
      get_again_of_fetch hs₀ ht hget hserved' hbuilt hdesired hwritten
    have hafter : (revised current served desired merge).Built := hbuilt.revised hdesired.built merge
    obtain ⟨again, happly, halike⟩ := applyUpdates_again_read (contains_read hbuilt hread)
      (hbuilt.uniqueKey_read hread) (contains_read hafter hread') (hafter.uniqueKey_read hread')
    refine update_again_of_get hq hget' hsame ?_ (.inr ⟨hserves', _, again, hschema, happly, halike⟩)
    rw [hcache]
    exact cacheAfter_again fun _ _ hu => absurd hu hs

end Schema

end TableIndex
