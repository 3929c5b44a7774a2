import TableIndex.Proofs.Service.Run

/-!
# The cached schema after a merge

After a merge that was accepted a service answers with the schema it has cached. It is the one that would be
fetched but for its unique key, which the merge takes from the desired schema and the cluster keeps.
-/

namespace TableIndex

namespace Service

variable {naming : NamingPolicy} {base table q : String} {st st' : ServiceState Cluster Unit}
  {current fetched desired : Schema}

/-! ## Reading again -/

/-- The schema of a table, fetched whatever is cached. -/
def reread {σ η : Type} (s : Service σ η) (table : String) :
    EStateM GetSchemaError (ServiceState σ η) Schema := do
  s.invalidate table
  s.getSchema table

/-- The schema of a table as it is read, and as it is read once more when it was forgotten. -/
def readTwice {σ η : Type} (s : Service σ η) (table : String) :
    EStateM GetSchemaError (ServiceState σ η) (Schema × Schema) := do
  let first ← s.getSchema table
  let second ← s.reread table
  return (first, second)

theorem reread_eq (hq : naming.qualify table = some q) :
    (inMemory naming base).reread table st = onCached (Schema.get naming Cluster.gateway table)
      { opened st with cache := st.cache.remove q } := by
  have hforget : (inMemory naming base).invalidate (ε := GetSchemaError) table st =
      .ok () { st with cache := st.cache.remove q } := by
    rw [invalidate, show (inMemory naming base).naming.qualify table = some q from hq]
    rfl
  exact (bind_of_ok hforget).trans (getSchema_run ..)

theorem reread_of_fetch {r : Cluster} (hq : naming.qualify table = some q)
    (hf : Schema.fetch Cluster.gateway q table (opened st).remote = .ok fetched r) :
    (inMemory naming base).reread table st = .ok fetched
      { opened st with cache := (st.cache.remove q).insert q fetched, remote := r } :=
  (reread_eq hq).trans (onCached_of_ok (Schema.get_of_fetch hq (st.cache.lookup_remove q) hf))

theorem readable_of_reread (h : (inMemory naming base).reread table st = .ok fetched st') :
    ∃ q, naming.qualify table = some q ∧ Schema.Readable (opened st).remote q table fetched := by
  cases hq : naming.qualify table with
  | none =>
      have hforget : (inMemory naming base).invalidate (ε := GetSchemaError) table st = .ok () st := by
        rw [invalidate, show (inMemory naming base).naming.qualify table = none from hq]
        rfl
      have hget : onCached (Schema.get naming Cluster.gateway table) (opened st) =
          .error (.schemaNotFound table) (opened st) := onCached_of_error (Schema.get_of_blank hq)
      have h : (inMemory naming base).getSchema table st = .ok fetched st' :=
        (bind_of_ok hforget).symm.trans h
      rw [getSchema_run, hget] at h
      cases h
  | some q =>
      refine ⟨q, rfl, ?_⟩
      cases hf : Schema.fetch Cluster.gateway q table (opened st).remote with
      | error e r =>
          have hget : onCached (Schema.get naming Cluster.gateway table)
              { opened st with cache := st.cache.remove q } =
                .error e { opened st with cache := st.cache.remove q, remote := r } :=
            onCached_of_error (Schema.get_of_fetch_error hq (st.cache.lookup_remove q) hf)
          cases ((reread_eq hq).trans hget).symm.trans h
      | ok s r =>
          cases (reread_of_fetch hq hf).symm.trans h
          exact Schema.readable_of_fetch hf

/-! ## Reading after a merge -/

/-- What a service reads for a table where the cached schema, if there is one, is the one served. -/
theorem get_of_readable (hq : naming.qualify table = some q) {c : Cluster} {cache : SchemaCache}
    (hread : Schema.Readable c q table fetched)
    (hcache : ∀ s, cache.lookup q = some s → s.same fetched = true) :
    ∃ current s', Schema.get naming Cluster.gateway table ⟨cache, c⟩ = .ok current s' ∧
      current.same fetched = true ∧ s'.remote.data = c.data ∧
      (s'.cache.IsUnbounded ↔ cache.IsUnbounded) ∧
      (s'.cache.IsUnbounded → s'.cache.lookup q = some current) := by
  cases hl : cache.lookup q with
  | some s =>
      exact ⟨s, _, Schema.get_of_cached hq hl, hcache s hl, rfl, .rfl, fun _ => hl⟩
  | none =>
      exact ⟨fetched, _, Schema.get_of_fetch hq hl hread.fetch, (Schema.Alike.refl fetched).same, rfl,
        Store.isUnbounded_insert .., fun hu => (Store.isUnbounded_insert ..).mp hu |>.lookup_insert ..⟩

theorem rewritten_of_merge {s s' t : Cached Cluster} {served : Schema}
    (hq : naming.qualify table = some q)
    (hget : Schema.get naming Cluster.gateway table s = .ok current s')
    (hserved : s'.remote.served table = some served)
    (h : Schema.update naming Cluster.gateway table desired true s = .ok () t) :
    t.cache = Schema.cacheAfter s'.cache q current desired true ∧
      Cluster.Rewritten table (.revised current served desired true) s'.remote t.remote := by
  obtain ⟨q', current', t', hq', hget', hcache, h⟩ := Schema.update_eq_ok h
  cases hq.symm.trans hq'
  cases hget.symm.trans hget'
  refine ⟨hcache, ?_⟩
  rcases h with ⟨hidle, hremote⟩ | ⟨-, -, served', d, hserved', hd, hdata⟩
  · refine .untouched ?_ (congrArg Cluster.data hremote)
    rw [hserved, Cluster.revised_of_idle hidle]
  · cases hserved.symm.trans hserved'
    exact .written hd hdata

theorem reread_of_readable (hq : naming.qualify table = some q) (hst : st.handle = some ())
    (hread : Schema.Readable st.remote q table fetched) :
    ∃ st', (inMemory naming base).reread table st = .ok fetched st' := by
  have hf : Schema.fetch Cluster.gateway q table (opened st).remote =
      .ok fetched (st.remote.withCalls (st.remote.calls + 3)) := by
    rw [opened_of_handle hst]
    exact hread.fetch
  exact ⟨_, reread_of_fetch hq hf⟩

theorem readTwice_of_cached {first second : Schema} (hst : st.handle = some ())
    (hq : naming.qualify table = some q) (hl : st.cache.lookup q = some first)
    (hread : Schema.Readable st.remote q table second) :
    ∃ st', (inMemory naming base).readTwice table st = .ok (first, second) st' := by
  have hfirst : (inMemory naming base).getSchema table st = .ok first st := by
    rw [getSchema_run, opened_of_handle hst]
    exact onCached_of_ok (Schema.get_of_cached hq hl)
  obtain ⟨st', hsecond⟩ := reread_of_readable hq hst hread
  exact ⟨st', (bind_of_ok hfirst).trans (bind_of_ok hsecond)⟩

theorem readTwice_of_fetched (hst : st.handle = some ()) (hq : naming.qualify table = some q)
    (hl : st.cache.lookup q = none) (hread : Schema.Readable st.remote q table fetched) :
    ∃ st', (inMemory naming base).readTwice table st = .ok (fetched, fetched) st' := by
  have hget := Schema.get_of_fetch (s := ⟨st.cache, st.remote⟩) hq hl hread.fetch
  let st₁ : ServiceState Cluster Unit :=
    { st with
      cache := st.cache.insert q fetched
      remote := st.remote.withCalls (st.remote.calls + 3) }
  have hfirst : (inMemory naming base).getSchema table st = .ok fetched st₁ := by
    rw [getSchema_run, opened_of_handle hst]
    exact onCached_of_ok hget
  obtain ⟨st', hsecond⟩ : ∃ st', (inMemory naming base).reread table st₁ = .ok fetched st' :=
    reread_of_readable hq hst (hread.of_data rfl)
  exact ⟨st', (bind_of_ok hfirst).trans (bind_of_ok hsecond)⟩

/-- The two schemas read one after the other where the cache holds what a merge into `current` left of
`cache`, and where `t`, with the merged fields, is fetched. -/
theorem readTwice_after_merge (base : String) {t : Schema} {cache : SchemaCache}
    (hst : st.handle = some ()) (hq : naming.qualify table = some q)
    (hread : Schema.Readable st.remote q table t)
    (hc : st.cache = Schema.cacheAfter cache q current desired true)
    (hl : cache.IsUnbounded → cache.lookup q = some current) (hkey : current.uniqueKey = t.uniqueKey)
    (hfields : ∀ n, Option.Rel (fun f g => f.same g = true) ((current.mergedWith desired).field? n)
      (t.field? n)) :
    ∃ first second st₂, (inMemory naming base).readTwice table st = .ok (first, second) st₂ ∧
      (∀ n, Option.Rel (fun f g => f.same g = true) (first.field? n) (second.field? n)) ∧
      (first.same second = true ↔ ¬ cache.IsUnbounded ∨ desired.toList = [] ∨
        desired.uniqueKey = t.uniqueKey) := by
  by_cases hu : cache.IsUnbounded
  · by_cases hd : desired.toList = []
    · have hfirst : st.cache.lookup q = some current := by
        rw [hc, Schema.cacheAfter, if_pos ⟨by simp [Cluster.updates_plan_true, hd], rfl⟩]
        exact hl hu
      have hfields : ∀ n, Option.Rel (fun f g => f.same g = true) (current.field? n) (t.field? n) :=
        fun n => by
          have hno : desired.field? n = none := by simp [Schema.field?_eq_none_iff, hd]
          simpa [Schema.field?_mergedWith, hno] using hfields n
      obtain ⟨st₂, hrun⟩ := readTwice_of_cached hst hq hfirst hread
      exact ⟨current, t, st₂, hrun, hfields,
        iff_of_true (Schema.same_iff.mpr ⟨hkey, hfields⟩) (.inr (.inl hd))⟩
    · have hfirst : st.cache.lookup q = some (current.mergedWith desired) := by
        rw [hc, Schema.cacheAfter, if_neg (by simp [Cluster.updates_plan_true, hd])]
        exact hu.lookup_insert q _
      obtain ⟨st₂, hrun⟩ := readTwice_of_cached hst hq hfirst hread
      refine ⟨current.mergedWith desired, t, st₂, hrun, hfields, ?_⟩
      -- The unique key of the merged schema is the desired one.
      simp only [Schema.same_iff, hu, hd, not_true_eq_false, false_or]
      exact ⟨fun h => h.1, fun h => ⟨h, hfields⟩⟩
  · have hnone : st.cache.lookup q = none := by
      rw [hc, Schema.cacheAfter]
      split
      · exact Store.lookup_of_not_unbounded hu q
      · rw [Store.insert_of_not_unbounded hu]
        exact Store.lookup_of_not_unbounded hu q
    obtain ⟨st₂, hrun⟩ := readTwice_of_fetched hst hq hnone hread
    have hrefl := (Schema.Alike.refl t).same
    exact ⟨t, t, st₂, hrun, (Schema.same_iff.mp hrefl).2, iff_of_true hrefl (.inl hu)⟩

/-- After a merge that was accepted, the schema a service answers with and the one it fetches once it has
forgotten it have the same fields. They are equal exactly if nothing was cached by the merge, or if its
unique key was the one that is served. -/
theorem same_reread_iff_of_merge {st₁ : ServiceState Cluster Unit} (hbuilt : st.remote.SchemasBuilt)
    (hread : (inMemory naming base).reread table st = .ok fetched st₁)
    (hcache : ∀ q s, naming.qualify table = some q → st.cache.lookup q = some s →
      s.same fetched = true)
    (hdesired : desired.Legible)
    (hupdate : (inMemory naming base).updateSchema table desired true st = .ok () st') :
    ∃ first second st₂, (inMemory naming base).readTwice table st' = .ok (first, second) st₂ ∧
      (∀ n, Option.Rel (fun f g => f.same g = true) (first.field? n) (second.field? n)) ∧
      (first.same second = true ↔ ¬ st.cache.IsUnbounded ∨ desired.toList = [] ∨
        desired.uniqueKey = fetched.uniqueKey) := by
  obtain ⟨q, hq, hreadable⟩ := readable_of_reread hread
  obtain ⟨served, hserved, hs⟩ := hreadable.read
  have hopened : (opened st).remote.SchemasBuilt := by
    simp only [opened]
    split <;> exact hbuilt
  have hbuilt := hopened.served hserved
  obtain ⟨current, s', hget, hsame, hdata, hunbounded, hl⟩ :=
    get_of_readable hq hreadable fun s hl => hcache q s hq hl
  rw [updateSchema_run] at hupdate
  cases hmerge : Schema.update naming Cluster.gateway table desired true
      ⟨(opened st).cache, (opened st).remote⟩ with
  | error e c =>
      rw [onCached_of_error hmerge] at hupdate
      cases hupdate
  | ok _ c =>
      rw [onCached_of_ok hmerge] at hupdate
      injection hupdate with _ hst'
      obtain ⟨hc, hrewritten⟩ := rewritten_of_merge hq hget
        ((Cluster.served_of_data hdata table).trans hserved) hmerge
      obtain ⟨t, ht, hkey, hfields⟩ := Schema.read_merged hbuilt hs hsame hdesired
      have hserves : ∀ op, (opened st).remote.Serves op → c.remote.Serves op := fun op ho =>
        hrewritten.serves (ho.of_data hdata)
      have hsets : s'.remote.configSets = (opened st).remote.configSets := congrArg (·.configSets) hdata
      have hreadable' : Schema.Readable c.remote q table t :=
        ⟨hserves _ hreadable.configExists, hserves _ hreadable.listFields,
          hserves _ hreadable.uniqueKey, hrewritten.contains_configSets (hsets ▸ hreadable.configSet), _,
          hrewritten.served, ht⟩
      have hremote : st'.remote = c.remote := by rw [← hst']
      have hcache' : st'.cache = _ := (congrArg (·.cache) hst').symm.trans hc
      have hiff := readTwice_after_merge base (congrArg (·.handle) hst').symm hq
        (hremote ▸ hreadable') hcache' hl ((Schema.same_iff.mp hsame).1.trans hkey.symm) hfields
      rwa [hunbounded, hkey] at hiff

/-- A service that has created the table `orders` in a fresh cluster. -/
def ordersCreated : ServiceState Cluster Unit :=
  ((inMemory ⟨"DEFAULT"⟩ Cluster.baseConfigSet).run
    [.create ⟨"orders", none, 1, 1, none, none⟩] { remote := .fresh ⟨"DEFAULT"⟩ }).2

theorem schemasBuilt_ordersCreated : ordersCreated.remote.SchemasBuilt := by
  intro name s hs
  have hmem : s ∈ ordersCreated.remote.configSets.values := SortedMap.mem_values_iff.mpr ⟨name, hs⟩
  have hvalues : ordersCreated.remote.configSets.values = [Cluster.baseSchema, Cluster.baseSchema] := rfl
  rw [hvalues] at hmem
  obtain rfl : s = Cluster.baseSchema := by simpa using hmem
  exact Schema.legible_baseSchema.built

/-- A merge that keeps the unique key. -/
theorem same_reread_of_merge_total :
    let s := inMemory ⟨"DEFAULT"⟩ Cluster.baseConfigSet
    let desired := Schema.ofFields "id" [.typed "total" .double]
    ∃ fetched st₁ st' first second st₂, s.reread "orders" ordersCreated = .ok fetched st₁ ∧
      s.updateSchema "orders" desired true ordersCreated = .ok () st' ∧
      s.readTwice "orders" st' = .ok (first, second) st₂ ∧ first.same second = true := by
  intro s desired
  have hkey : (value? (s.reread "orders" ordersCreated)).map Schema.uniqueKey = some "id" := by
    decide +kernel
  obtain ⟨fetched, hfetched, hid⟩ := Option.map_eq_some_iff.mp hkey
  obtain ⟨st₁, hread⟩ := exists_of_value? hfetched
  obtain ⟨st', hupdate⟩ := exists_of_value?
    (show value? (s.updateSchema "orders" desired true ordersCreated) = some () by decide +kernel)
  have hcache : ∀ q s, NamingPolicy.qualify ⟨"DEFAULT"⟩ "orders" = some q →
      ordersCreated.cache.lookup q = some s → s.same fetched = true := by
    intro q s hq hl
    cases hl
  have hdesired : desired.Legible := .ofTyped (by decide) (by decide) rfl "id"
  obtain ⟨first, second, st₂, htwice, -, hiff⟩ :=
    same_reread_iff_of_merge schemasBuilt_ordersCreated hread hcache hdesired hupdate
  exact ⟨fetched, st₁, st', first, second, st₂, hread, hupdate, htwice, hiff.mpr (.inr (.inr hid.symm))⟩

/-- A merge under another unique key: the schema that is cached is not the one that is fetched. -/
theorem not_same_reread_of_merge_key :
    let s := inMemory ⟨"DEFAULT"⟩ Cluster.baseConfigSet
    let desired := Schema.ofFields "pk" [.typed "pk" .string]
    let merged := s.updateSchema "orders" desired true ordersCreated
    ordersCreated.remote.SchemasBuilt ∧ ordersCreated.cache.lookup "DEFAULT_orders" = none ∧
      desired.Legible ∧ (value? (s.reread "orders" ordersCreated)).isSome = true ∧
      value? merged = some () ∧
      (value? (s.readTwice "orders" (stateAfter merged))).map (fun p => p.1.same p.2) = some false := by
  intro s desired merged
  have hdesired : desired.Legible := .ofTyped (by decide) (by decide) rfl "pk"
  exact ⟨schemasBuilt_ordersCreated, rfl, hdesired, by decide +kernel⟩

end Service

end TableIndex
