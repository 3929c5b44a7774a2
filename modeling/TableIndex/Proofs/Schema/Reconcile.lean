import TableIndex.Proofs.Cluster.Perform
import TableIndex.Proofs.Schema.Read
import TableIndex.Schema.Reconcile

/-!
# Reading and changing a schema through the cache

What `Schema.get` and `Schema.update` do in each case, for every gateway. A cluster in memory lets a schema
be fetched exactly where it is `Readable`, and accepts a change exactly where nothing conflicts.
-/

namespace TableIndex

/-! ## Stores that keep what is put into them -/

namespace Store

variable {β : Type} {s : Store β}

/-- What is put into the store can be looked up. -/
def IsUnbounded (s : Store β) : Prop := ∃ entries, s = .unbounded entries

theorem lookup_remove_eq_some {key key' : String} {found : β}
    (h : (s.remove key).lookup key' = some found) : key ≠ key' ∧ s.lookup key' = some found := by
  cases s with
  | unbounded entries =>
      simp only [remove, lookup_unbounded, SortedMap.get?_erase] at h
      split at h
      · cases h
      · next hne => exact ⟨hne, h⟩
  | nop => cases h
  | unreachable => cases h

theorem lookup_remove (s : Store β) (key : String) : (s.remove key).lookup key = none := by
  cases h : (s.remove key).lookup key with
  | none => rfl
  | some found => exact absurd rfl (lookup_remove_eq_some h).1

theorem lookup_of_not_unbounded (h : ¬ s.IsUnbounded) (key : String) : s.lookup key = none := by
  cases s with
  | unbounded entries => exact absurd ⟨entries, rfl⟩ h
  | nop => rfl
  | unreachable => rfl

theorem insert_of_not_unbounded (h : ¬ s.IsUnbounded) (key : String) (value : β) :
    s.insert key value = s := by
  cases s with
  | unbounded entries => exact absurd ⟨entries, rfl⟩ h
  | nop => rfl
  | unreachable => rfl

theorem isUnbounded_of_lookup {key : String} {found : β} (h : s.lookup key = some found) : s.IsUnbounded := by
  cases s with
  | unbounded entries => exact ⟨entries, rfl⟩
  | nop => cases h
  | unreachable => cases h

theorem IsUnbounded.remove (h : s.IsUnbounded) (key : String) : (s.remove key).IsUnbounded := by
  obtain ⟨entries, rfl⟩ := h
  exact ⟨entries.erase key, rfl⟩

theorem isUnbounded_insert (s : Store β) (key : String) (value : β) :
    (s.insert key value).IsUnbounded ↔ s.IsUnbounded := by
  cases s with
  | unbounded entries => exact ⟨fun _ => ⟨entries, rfl⟩, fun _ => ⟨entries.insert key value, rfl⟩⟩
  | nop => exact .rfl
  | unreachable => exact .rfl

theorem insert_insert (s : Store β) (key : String) (value : β) :
    (s.insert key value).insert key value = s.insert key value := by
  cases s with
  | unbounded entries => exact congrArg unbounded (entries.insert_insert key value value)
  | nop => rfl
  | unreachable => rfl

theorem IsUnbounded.lookup_insert (h : s.IsUnbounded) (key : String) (value : β) :
    (s.insert key value).lookup key = some value := by
  obtain ⟨entries, rfl⟩ := h
  simp [Store.insert, SortedMap.get?_insert]

theorem lookup_insert_eq_some {key key' : String} {value found : β}
    (h : (s.insert key value).lookup key' = some found) :
    key = key' ∧ value = found ∨ key ≠ key' ∧ s.lookup key' = some found := by
  cases s with
  | unbounded entries =>
      simp only [insert, lookup_unbounded, SortedMap.get?_insert] at h
      split at h
      · next he => exact .inl ⟨he, Option.some.inj h⟩
      · next hne => exact .inr ⟨hne, h⟩
  | nop => cases h
  | unreachable => cases h

theorem lookup_insert_of_ne {key key' : String} (h : key ≠ key') (s : Store β) (value : β) :
    (s.insert key value).lookup key' = s.lookup key' := by
  cases s with
  | unbounded entries => exact SortedMap.get?_insert_of_ne h entries value
  | nop => rfl
  | unreachable => rfl

theorem lookup_remove_of_ne {key key' : String} (h : key ≠ key') (s : Store β) :
    (s.remove key).lookup key' = s.lookup key' := by
  cases s with
  | unbounded entries => exact SortedMap.get?_erase_of_ne h entries
  | nop => rfl
  | unreachable => rfl

theorem eq_of_lookup_insert {key : String} {value found : β}
    (h : (s.insert key value).lookup key = some found) : found = value := by
  rcases lookup_insert_eq_some h with ⟨-, rfl⟩ | ⟨hne, -⟩
  · rfl
  · exact absurd rfl hne

end Store

namespace Schema

variable {σ : Type} {g : Gateway σ} {naming : NamingPolicy} {table q : String} {s s' : Cached σ} {r : σ}
  {current desired : Schema} {merge : Bool}

/-! ## Reading -/

theorem get_of_blank (hq : naming.qualify table = none) :
    get naming g table s = .error (.schemaNotFound table) s := by
  rw [get, hq]
  rfl

theorem get_of_cached (hq : naming.qualify table = some q) (h : s.cache.lookup q = some current) :
    get naming g table s = .ok current s := by
  have hlookup : (Cached.lookup q : EStateM GetSchemaError (Cached σ) _) s = .ok (some current) s := by
    rw [Cached.lookup, h]
  rw [get, hq]
  exact bind_of_ok hlookup

theorem get_of_fetch (hq : naming.qualify table = some q) (h : s.cache.lookup q = none)
    (hf : fetch g q table s.remote = .ok current r) :
    get naming g table s = .ok current ⟨s.cache.insert q current, r⟩ := by
  have hlookup : (Cached.lookup q : EStateM GetSchemaError (Cached σ) _) s = .ok none s := by
    rw [Cached.lookup, h]
  rw [get, hq]
  exact (bind_of_ok hlookup).trans (bind_of_ok (Cached.onRemote_of_ok hf))

theorem get_of_fetch_error {e : GetSchemaError} (hq : naming.qualify table = some q)
    (h : s.cache.lookup q = none) (hf : fetch g q table s.remote = .error e r) :
    get naming g table s = .error e ⟨s.cache, r⟩ := by
  have hlookup : (Cached.lookup q : EStateM GetSchemaError (Cached σ) _) s = .ok none s := by
    rw [Cached.lookup, h]
  rw [get, hq]
  exact (bind_of_ok hlookup).trans (bind_of_error (Cached.onRemote_of_error hf))

/-- The ways in which reading can end. -/
inductive Reading (naming : NamingPolicy) (g : Gateway σ) (table : String) (s : Cached σ) :
    EStateM.Result GetSchemaError (Cached σ) Schema → Prop where
  | blank : naming.qualify table = none → Reading naming g table s (.error (.schemaNotFound table) s)
  | cached {q : String} {current : Schema} : naming.qualify table = some q →
      s.cache.lookup q = some current → Reading naming g table s (.ok current s)
  | fetched {q : String} {current : Schema} {r : σ} : naming.qualify table = some q →
      s.cache.lookup q = none → fetch g q table s.remote = .ok current r →
        Reading naming g table s (.ok current ⟨s.cache.insert q current, r⟩)
  | failed {q : String} {e : GetSchemaError} {r : σ} : naming.qualify table = some q →
      s.cache.lookup q = none → fetch g q table s.remote = .error e r →
        Reading naming g table s (.error e ⟨s.cache, r⟩)

theorem reading (naming : NamingPolicy) (g : Gateway σ) (table : String) (s : Cached σ) :
    Reading naming g table s (get naming g table s) := by
  cases hq : naming.qualify table with
  | none =>
      rw [get_of_blank hq]
      exact .blank hq
  | some q =>
      cases hl : s.cache.lookup q with
      | some known =>
          rw [get_of_cached hq hl]
          exact .cached hq hl
      | none =>
          cases hf : fetch g q table s.remote with
          | ok schema r =>
              rw [get_of_fetch hq hl hf]
              exact .fetched hq hl hf
          | error e r =>
              rw [get_of_fetch_error hq hl hf]
              exact .failed hq hl hf

/-- What is read is what was cached or else what is fetched, which is cached then. -/
theorem get_eq_ok (h : get naming g table s = .ok current s') :
    ∃ q, naming.qualify table = some q ∧
      (s.cache.lookup q = some current ∧ s' = s ∨
        s.cache.lookup q = none ∧ fetch g q table s.remote = .ok current s'.remote ∧
          s'.cache = s.cache.insert q current) := by
  have hread := reading naming g table s
  rw [h] at hread
  cases hread with
  | cached hq hl => exact ⟨_, hq, .inl ⟨hl, rfl⟩⟩
  | fetched hq hl hf => exact ⟨_, hq, .inr ⟨hl, hf, rfl⟩⟩

/-! ## Changing -/

theorem update_of_get_error {e : GetSchemaError} (h : get naming g table s = .error e s') :
    update naming g table desired merge s = .error (.ofGetSchema e) s' :=
  bind_of_error (adaptExcept_of_error h)

theorem cacheUpdated_run {ε : Type} (hq : naming.qualify table = some q) (s : Cached σ) :
    (cacheUpdated naming table current : EStateM ε _ _) s =
      .ok () { s with cache := s.cache.insert q current } := by
  rw [cacheUpdated, hq]
  rfl

theorem update_of_no_updates (hq : naming.qualify table = some q)
    (h : get naming g table s = .ok current s')
    (hu : (SchemaUpdate.plan current desired merge).updates = []) :
    update naming g table desired merge s =
      .ok () (if merge then s' else { s' with cache := s'.cache.insert q desired }) := by
  refine (bind_of_ok (adaptExcept_of_ok h)).trans ?_
  simp only [hu, List.isEmpty_nil, ↓reduceIte]
  cases merge with
  | true => rfl
  | false => exact cacheUpdated_run hq s'

theorem update_of_change (hq : naming.qualify table = some q)
    (h : get naming g table s = .ok current s')
    (hu : (SchemaUpdate.plan current desired merge).updates ≠ [])
    (hc : g.change (.submitSchemaUpdates table (SchemaUpdate.plan current desired merge).updates)
      s'.remote = .ok () r) :
    update naming g table desired merge s =
      .ok () ⟨s'.cache.insert q (SchemaUpdate.plan current desired merge).schema, r⟩ := by
  refine (bind_of_ok (adaptExcept_of_ok h)).trans ?_
  simp only [List.isEmpty_eq_false_iff.mpr hu, Bool.false_eq_true, ↓reduceIte]
  exact (bind_of_ok (Cached.onRemoteOr_of_ok hc)).trans (cacheUpdated_run hq _)

theorem update_of_refusal {e : ClientError} (h : get naming g table s = .ok current s')
    (hu : (SchemaUpdate.plan current desired merge).updates ≠ [])
    (hc : g.change (.submitSchemaUpdates table (SchemaUpdate.plan current desired merge).updates)
      s'.remote = .error e r) :
    update naming g table desired merge s = .error (.rejected table e) ⟨s'.cache, r⟩ := by
  refine (bind_of_ok (adaptExcept_of_ok h)).trans ?_
  simp only [List.isEmpty_eq_false_iff.mpr hu, Bool.false_eq_true, ↓reduceIte]
  exact bind_of_error (Cached.onRemoteOr_of_error hc)

/-- What is cached after a change that was accepted: only a merge of nothing leaves the cache as it was. -/
def cacheAfter (cache : SchemaCache) (q : String) (current desired : Schema) (merge : Bool) :
    SchemaCache :=
  if (SchemaUpdate.plan current desired merge).updates = [] ∧ merge = true then cache
  else cache.insert q (SchemaUpdate.plan current desired merge).schema

theorem update_of_idle (hq : naming.qualify table = some q) (hget : get naming g table s = .ok current s')
    (hu : (SchemaUpdate.plan current desired merge).updates = []) :
    update naming g table desired merge s =
      .ok () ⟨cacheAfter s'.cache q current desired merge, s'.remote⟩ := by
  rw [update_of_no_updates hq hget hu, cacheAfter]
  cases merge with
  | true => simp [hu]
  | false => simp [SchemaUpdate.plan, SchemaUpdate.replacePlan]

/-- The ways in which changing can end. -/
inductive Updating (naming : NamingPolicy) (g : Gateway σ) (table : String) (desired : Schema) (merge : Bool)
    (s : Cached σ) : EStateM.Result UpdateSchemaError (Cached σ) Unit → Prop where
  | unread {e : GetSchemaError} {t : Cached σ} : get naming g table s = .error e t →
      Updating naming g table desired merge s (.error (.ofGetSchema e) t)
  | idle {q : String} {current : Schema} {t : Cached σ} : naming.qualify table = some q →
      get naming g table s = .ok current t → (SchemaUpdate.plan current desired merge).updates = [] →
        Updating naming g table desired merge s (.ok () ⟨cacheAfter t.cache q current desired merge, t.remote⟩)
  | accepted {q : String} {current : Schema} {t : Cached σ} {r : σ} : naming.qualify table = some q →
      get naming g table s = .ok current t → (SchemaUpdate.plan current desired merge).updates ≠ [] →
      g.change (.submitSchemaUpdates table (SchemaUpdate.plan current desired merge).updates) t.remote =
        .ok () r →
        Updating naming g table desired merge s (.ok () ⟨cacheAfter t.cache q current desired merge, r⟩)
  | refused {current : Schema} {e : ClientError} {t : Cached σ} {r : σ} :
      get naming g table s = .ok current t → (SchemaUpdate.plan current desired merge).updates ≠ [] →
      g.change (.submitSchemaUpdates table (SchemaUpdate.plan current desired merge).updates) t.remote =
        .error e r →
        Updating naming g table desired merge s (.error (.rejected table e) ⟨t.cache, r⟩)

theorem updating (naming : NamingPolicy) (g : Gateway σ) (table : String) (desired : Schema) (merge : Bool)
    (s : Cached σ) : Updating naming g table desired merge s (update naming g table desired merge s) := by
  cases hget : get naming g table s with
  | error e t =>
      rw [update_of_get_error hget]
      exact .unread hget
  | ok current t =>
      obtain ⟨q, hq, -⟩ := get_eq_ok hget
      by_cases hu : (SchemaUpdate.plan current desired merge).updates = []
      · rw [update_of_idle hq hget hu]
        exact .idle hq hget hu
      · cases hchange : g.change (.submitSchemaUpdates table (SchemaUpdate.plan current desired merge).updates)
            t.remote with
        | error e r =>
            rw [update_of_refusal hget hu hchange]
            exact .refused hget hu hchange
        | ok _ r =>
            have hcache : t.cache.insert q (SchemaUpdate.plan current desired merge).schema =
                cacheAfter t.cache q current desired merge := by
              rw [cacheAfter, if_neg fun h => hu h.1]
            rw [update_of_change hq hget hu hchange, hcache]
            exact .accepted hq hget hu hchange

/-! ## Fetching from a cluster in memory -/

/-- Nothing keeps a table's schema from being fetched: the calls are served, the config-set is there, and
what is served for the table is read as `fetched`. -/
structure Readable (c : Cluster) (q table : String) (fetched : Schema) : Prop where
  configExists : c.Serves .configExists
  listFields : c.Serves .listFields
  uniqueKey : c.Serves .uniqueKey
  configSet : c.configSets.contains q = true
  read : ∃ served, c.served table = some served ∧ served.read = .ok fetched

variable {c d : Cluster} {fetched : Schema}

theorem Readable.of_data (h : Readable c q table fetched) (hd : d.data = c.data) :
    Readable d q table fetched := by
  obtain ⟨served, hserved, hread⟩ := h.read
  have hsets : d.configSets = c.configSets := congrArg (·.configSets) hd
  exact ⟨h.configExists.of_data hd, h.listFields.of_data hd, h.uniqueKey.of_data hd,
    hsets ▸ h.configSet, served, (Cluster.served_of_data hd table).trans hserved, hread⟩

theorem Readable.fetch (h : Readable c q table fetched) :
    fetch Cluster.gateway q table c = .ok fetched (c.withCalls (c.calls + 3)) := by
  obtain ⟨served, hserved, hread⟩ := h.read
  let c₁ := c.withCalls (c.calls + 1)
  let c₂ := c.withCalls (c.calls + 2)
  have hconfig := Cluster.perform_configExists q h.configExists
  have hfields : Cluster.gateway.perform (.listFields table) c₁ = .ok _ c₂ :=
    Cluster.perform_listFields_iff.mpr ⟨⟨h.listFields.opened, h.listFields.succeeds⟩, served, hserved, rfl, rfl⟩
  have hkey : Cluster.gateway.perform (.uniqueKey table) c₂ = .ok served.uniqueKey _ :=
    Cluster.perform_uniqueKey ⟨h.uniqueKey.opened, h.uniqueKey.succeeds⟩ hserved
  rw [h.configSet] at hconfig
  refine (bind_of_ok (adaptExcept_of_ok hconfig)).trans ?_
  refine (bind_of_ok (adaptExcept_of_ok hfields)).trans ?_
  refine (bind_of_ok (adaptExcept_of_ok hkey)).trans ?_
  rw [Schema.read] at hread
  rw [hread]
  rfl

/-- Whether there is a schema to fetch is asked of the config-set. -/
theorem fetch_of_unset (table : String) (h : c.Serves .configExists) (hno : c.configSets.contains q = false) :
    fetch Cluster.gateway q table c = .error (.schemaNotFound table) (c.withCalls (c.calls + 1)) := by
  have hconfig := Cluster.perform_configExists q h
  rw [hno] at hconfig
  exact bind_of_ok (adaptExcept_of_ok hconfig)

/-- What is fetched is that of the collection. -/
theorem fetch_of_unserved (h : c.Serves .configExists) (hfields : c.Serves .listFields)
    (hset : c.configSets.contains q = true) (hno : c.served table = none) :
    fetch Cluster.gateway q table c =
      .error (.remote table (Cluster.noCollection table)) (c.withCalls (c.calls + 2)) := by
  have hconfig := Cluster.perform_configExists q h
  have hlist : Cluster.gateway.perform (.listFields table) (c.withCalls (c.calls + 1)) =
      .error (Cluster.noCollection table) (c.withCalls (c.calls + 2)) := by
    have hserves : (c.withCalls (c.calls + 1)).Serves (Call.listFields table).operation :=
      ⟨hfields.opened, hfields.succeeds⟩
    have hno : (c.withCalls (c.calls + 1)).served table = none := hno
    refine (Cluster.perform_of_serves hserves).trans ?_
    rw [Cluster.serve_listFields, hno]
    rfl
  rw [hset] at hconfig
  refine (bind_of_ok (adaptExcept_of_ok hconfig)).trans ?_
  exact bind_of_error (adaptExcept_of_error hlist)

theorem unset_of_fetch {name : String} (h : fetch Cluster.gateway q table c = .error (.schemaNotFound name) d) :
    c.configSets.contains q = false := by
  rcases bind_eq_error h with h | ⟨there, c₁, hconfig, h⟩
  · obtain ⟨_, -, h⟩ := adaptExcept_eq_error h
    cases h
  have hconfig := adaptExcept_eq_ok hconfig
  rw [Cluster.perform_configExists q (Cluster.serves_of_perform hconfig)] at hconfig
  cases hconfig
  cases hset : c.configSets.contains q with
  | false => rfl
  | true =>
      -- All that follows fails in another way.
      rw [hset] at h
      rcases bind_eq_error h with h | ⟨fields, c₂, -, h⟩
      · obtain ⟨_, -, h⟩ := adaptExcept_eq_error h
        cases h
      rcases bind_eq_error h with h | ⟨key, c₃, -, h⟩
      · obtain ⟨_, -, h⟩ := adaptExcept_eq_error h
        cases h
      cases hread : ofProperties key fields with
      | ok schema =>
          rw [hread] at h
          cases h
      | error e =>
          rw [hread] at h
          cases h

/-- A schema that was changed to one that can be read can be fetched again. -/
theorem Readable.rewritten {after : Schema} (h : Readable c q table current)
    (hd : Cluster.Rewritten table after c d) (hread : after.read = .ok fetched) :
    Readable d q table fetched :=
  ⟨hd.serves h.configExists, hd.serves h.listFields, hd.serves h.uniqueKey,
    hd.contains_configSets h.configSet, after, hd.served, hread⟩

theorem readable_of_fetch (h : Schema.fetch Cluster.gateway q table c = .ok fetched d) :
    Readable c q table fetched := by
  obtain ⟨there, c₁, hconfig, h⟩ := bind_eq_ok h
  have hconfig := adaptExcept_eq_ok hconfig
  have hserves : c.Serves .configExists := Cluster.serves_of_perform hconfig
  rw [Cluster.perform_configExists q hserves] at hconfig
  cases hconfig
  cases hthere : c.configSets.contains q with
  | false =>
      rw [hthere] at h
      cases h
  | true =>
      rw [hthere] at h
      obtain ⟨fields, c₂, hfields, h⟩ := bind_eq_ok h
      obtain ⟨hfserves, served, hserved, rfl, rfl⟩ :=
        Cluster.perform_listFields_iff.mp (adaptExcept_eq_ok hfields)
      obtain ⟨key, c₃, hkey, h⟩ := bind_eq_ok h
      have hkey := adaptExcept_eq_ok hkey
      have hkserves := Cluster.serves_of_perform hkey
      rw [Cluster.perform_uniqueKey hkserves hserved] at hkey
      cases hkey
      refine ⟨hserves, ⟨hfserves.opened, hfserves.succeeds⟩, ⟨hkserves.opened, hkserves.succeeds⟩,
        hthere, served, hserved, ?_⟩
      rw [← Schema.read] at h
      cases hread : served.read with
      | error e =>
          rw [hread] at h
          cases h
      | ok t =>
          rw [hread] at h
          cases h
          rfl

theorem keeps_fetch (c : Cluster) (q table : String) :
    Keeps (fun d => d.data = c.data) (Schema.fetch Cluster.gateway q table) :=
  Keeps.compositional.fetch q table fun _ h => Cluster.keeps_asks (fun _ _ h => h) h

theorem respects_fetch (q table : String) :
    Respects Cluster.SameData (Schema.fetch Cluster.gateway q table) :=
  Respects.compositional.fetch q table fun _ _ => Cluster.respects_perform _

/-! ## Changing a schema in a cluster in memory -/

variable {s s' : Cached Cluster} {served after : Schema}

/-- A plan that the cluster can apply is accepted. -/
theorem update_applied (hq : naming.qualify table = some q)
    (hget : get naming Cluster.gateway table s = .ok current s')
    (hserves : (SchemaUpdate.plan current desired merge).updates ≠ [] →
      s'.remote.Serves .submitSchemaUpdates)
    (hserved : s'.remote.served table = some served)
    (happly : Cluster.applyUpdates served (SchemaUpdate.plan current desired merge).updates = .ok after) :
    ∃ d, update naming Cluster.gateway table desired merge s =
        .ok () ⟨cacheAfter s'.cache q current desired merge, d⟩ ∧
      Cluster.Rewritten table after s'.remote d := by
  by_cases hu : (SchemaUpdate.plan current desired merge).updates = []
  · rw [hu] at happly
    have hsame : served = after := Except.ok.inj happly
    exact ⟨s'.remote, update_of_idle hq hget hu, .untouched (hsame ▸ hserved) rfl⟩
  · obtain ⟨d, hd⟩ := Cluster.exists_setSchema? hserved after
    refine ⟨d.withCalls (s'.remote.calls + 1), ?_, .written hd rfl⟩
    rw [update_of_change hq hget hu (Cluster.change_submit (hserves hu) hserved happly hd), cacheAfter,
      if_neg fun hno => hu hno.1]

theorem update_accepted (hq : naming.qualify table = some q)
    (hget : get naming Cluster.gateway table s = .ok current s')
    (hserves : (SchemaUpdate.plan current desired merge).updates ≠ [] →
      s'.remote.Serves .submitSchemaUpdates)
    (hserved : s'.remote.served table = some served) (hc : served.Covers current)
    (h : ¬ Conflict current served desired merge) :
    ∃ d, update naming Cluster.gateway table desired merge s =
        .ok () ⟨cacheAfter s'.cache q current desired merge, d⟩ ∧
      Cluster.Rewritten table (revised current served desired merge) s'.remote d :=
  update_applied hq hget hserves hserved (Cluster.applyUpdates_plan hc h)

/-- A change that was accepted: its plan was empty, or the cluster could apply it. -/
theorem update_eq_ok {r : Cached Cluster}
    (h : update naming Cluster.gateway table desired merge s = .ok () r) :
    ∃ q current s', naming.qualify table = some q ∧
      get naming Cluster.gateway table s = .ok current s' ∧
      r.cache = cacheAfter s'.cache q current desired merge ∧
      ((SchemaUpdate.plan current desired merge).updates = [] ∧ r.remote = s'.remote ∨
        (SchemaUpdate.plan current desired merge).updates ≠ [] ∧
          s'.remote.Serves .submitSchemaUpdates ∧ ∃ served d, s'.remote.served table = some served ∧
            s'.remote.setSchema? table (revised current served desired merge) = some d ∧
            r.remote.data = d.data) := by
  have hupdate := updating naming Cluster.gateway table desired merge s
  rw [h] at hupdate
  cases hupdate with
  | idle hq hget hu => exact ⟨_, _, _, hq, hget, rfl, .inl ⟨hu, rfl⟩⟩
  | accepted hq hget hu hchange =>
      obtain ⟨hserves, served, after, d, hserved, happly, hd, rfl⟩ := Cluster.change_submit_eq_ok hchange
      obtain rfl := Cluster.eq_revised_of_applyUpdates_plan happly
      exact ⟨_, _, _, hq, hget, rfl, .inr ⟨hu, hserves, served, d, hserved, hd, rfl⟩⟩

theorem update_refused (hget : get naming Cluster.gateway table s = .ok current s')
    (hserves : s'.remote.Serves .submitSchemaUpdates)
    (hserved : s'.remote.served table = some served) (hc : served.Covers current)
    (h : Conflict current served desired merge) :
    ∃ e, update naming Cluster.gateway table desired merge s =
      .error (.rejected table e) ⟨s'.cache, s'.remote.withCalls (s'.remote.calls + 1)⟩ := by
  obtain ⟨message, hm⟩ := Cluster.applyUpdates_plan_error hc h
  have hu : (SchemaUpdate.plan current desired merge).updates ≠ [] := by
    intro hu
    rw [hu] at hm
    cases hm
  obtain ⟨e, he⟩ := Cluster.change_submit_error hserves hserved hm
  exact ⟨e, update_of_refusal hget hu he⟩

end Schema

end TableIndex
