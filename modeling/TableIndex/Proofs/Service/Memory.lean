import TableIndex.Proofs.Schema.Atomic
import TableIndex.Proofs.Service.Coherence
import TableIndex.Proofs.Service.Connected
import TableIndex.Proofs.Service.Isolation

/-!
# What a service remembers

A schema that a service has fetched is answered from its cache, whatever becomes of the cluster, until the service
itself drops it. Deleting a collection drops it, but finding the collection gone does not.
-/

namespace TableIndex

/-! ## Creating with a schema that is cached -/

theorem Provisioner.lookup_of_ensure {σ : Type} {p : Provisioner} {g : Gateway σ} {config : CollectionConfig}
    {s : Cached σ} {q : String} {schema : Schema} (hq : p.naming.qualify config.collectionName = some q)
    (hl : s.cache.lookup q = some schema)
    (h : ∀ outcome, value? (p.ensure g config s) = some outcome → config.schema = none) :
    (stateAfter (p.ensure g config s)).cache.lookup q = some schema := by
  cases hrun : p.ensure g config s with
  | ok outcome t =>
      have hnone := h outcome (by rw [hrun]; rfl)
      obtain ⟨_, u, hcreate, hrest⟩ := bind_eq_ok hrun
      rw [hnone] at hrest
      cases hrest
      exact (congrArg (·.lookup q) (Cached.onRemoteOr_eq_ok hcreate).2).trans hl
  | error e t =>
      rcases bind_eq_error hrun with hcreate | ⟨outcome, u, hcreate, hrest⟩
      · exact (congrArg (·.lookup q) (Cached.onRemoteOr_eq_error hcreate).2).trans hl
      · have hlookup : u.cache.lookup q = some schema :=
          (congrArg (·.lookup q) (Cached.onRemoteOr_eq_ok hcreate).2).trans hl
        cases hdesired : config.schema with
        | none =>
            rw [hdesired] at hrest
            cases hrest
        | some desired =>
            rw [hdesired] at hrest
            rcases bind_eq_error hrest with hupdate | ⟨_, v, -, hpure⟩
            · obtain ⟨e, hupdate, -⟩ := adaptExcept_eq_error hupdate
              exact Schema.lookup_of_update_error_of_cached hq hlookup hupdate
            · cases hpure

/-! ## What drops a schema -/

/-- An answer after which the cached schema of a table is gone or another one: it was forgotten, changed, or its
collection was removed. -/
def ServiceCall.Drops (table : String) : ServiceCall → ServiceAnswer → Prop
  | .invalidate name, _ => name = table
  | .updateSchema name _ _, .updated (.ok _) => name = table
  | .ensure config, .ensured (.ok _) => config.collectionName = table ∧ config.schema ≠ none
  | .delete name, .deleted (.ok outcome) => name = table ∧ outcome.isDeleted = true
  | .delete name, .deleted (.error e) => name = table ∧ e.effect = .partially
  | _, _ => False

namespace Service

variable {ε α : Type} {naming : NamingPolicy} {base table q : String} {call : ServiceCall}
  {st st' : ServiceState Cluster Unit} {schema : Schema}

/-- The states that a service comes to by operations that do not drop the schema of a table, while others do to the
cluster whatever they like. -/
inductive Later (s : Service Cluster Unit) (table : String) (st : ServiceState Cluster Unit) :
    ServiceState Cluster Unit → Prop where
  | refl : Later s table st st
  | own {st' : ServiceState Cluster Unit} (call : ServiceCall) : Later s table st st' →
      ¬ call.Drops table (s.answer call st').1 → Later s table st (s.answer call st').2
  | foreign {st' : ServiceState Cluster Unit} (c : Cluster) : Later s table st st' →
      Later s table st { st' with remote := c }

theorem cache_onRemote (f : Except ε α → ServiceAnswer) (act : EStateM ε Cluster α)
    (st : ServiceState Cluster Unit) : (tell f (onRemote act (opened st))).2.cache = st.cache := by
  rw [snd_tell, onRemote, stateAfter_onCached, stateAfter_onRemote]
  rfl

theorem getSchema_of_cached (hq : naming.qualify table = some q) (hl : st.cache.lookup q = some schema) :
    (inMemory naming base).getSchema table st = .ok schema (opened st) := by
  have hget : Schema.get naming Cluster.gateway table ⟨(opened st).cache, (opened st).remote⟩ =
      .ok schema ⟨(opened st).cache, (opened st).remote⟩ := Schema.get_of_cached hq hl
  rw [getSchema_run]
  exact onCached_of_ok hget

theorem lookup_ensure {config : CollectionConfig} (hq : naming.qualify config.collectionName = some q)
    (hl : st.cache.lookup q = some schema)
    (hkept : ¬ (ServiceCall.ensure config).Drops config.collectionName
      ((inMemory naming base).answer (.ensure config) st).1) :
    ((inMemory naming base).answer (.ensure config) st).2.cache.lookup q = some schema := by
  rw [answer, ensure_run] at hkept ⊢
  rw [snd_tell, stateAfter_onCached]
  refine Provisioner.lookup_of_ensure hq hl fun outcome hok => ?_
  obtain ⟨c, hrun⟩ := exists_of_value? hok
  rw [onCached_of_ok hrun] at hkept
  cases hschema : config.schema with
  | none => rfl
  | some desired => exact absurd ⟨rfl, by simp [hschema]⟩ hkept

theorem lookup_delete (hq : naming.qualify table = some q) (hl : st.cache.lookup q = some schema)
    (hkept : ¬ (ServiceCall.delete table).Drops table ((inMemory naming base).answer (.delete table) st).1) :
    ((inMemory naming base).answer (.delete table) st).2.cache.lookup q = some schema := by
  rw [answer, delete_run] at hkept ⊢
  rw [snd_tell, stateAfter_onCached]
  cases hrun : Provisioner.delete ⟨naming, base⟩ Cluster.gateway table
      ⟨(opened st).cache, (opened st).remote⟩ with
  | ok outcome c =>
      rw [onCached_of_ok hrun] at hkept
      obtain rfl : outcome = .notFound := by
        cases outcome with
        | notFound => rfl
        | _ => exact absurd ⟨rfl, rfl⟩ hkept
      exact (congrArg (·.lookup q) (Provisioner.cache_of_delete_ok hq hrun).2).trans hl
  | error e c =>
      rw [onCached_of_error hrun] at hkept
      rcases Provisioner.delete_eq_error hrun with ⟨hcache, -⟩ | ⟨name, q', cause, rfl⟩
      · exact (congrArg (·.lookup q) hcache).trans hl
      · exact absurd ⟨rfl, rfl⟩ hkept

theorem lookup_updateSchema {desired : Schema} {merge : Bool} (hq : naming.qualify table = some q)
    (hl : st.cache.lookup q = some schema)
    (hkept : ¬ (ServiceCall.updateSchema table desired merge).Drops table
      ((inMemory naming base).answer (.updateSchema table desired merge) st).1) :
    ((inMemory naming base).answer (.updateSchema table desired merge) st).2.cache.lookup q = some schema := by
  rw [answer, updateSchema_run] at hkept ⊢
  rw [snd_tell, stateAfter_onCached]
  cases hrun : Schema.update naming Cluster.gateway table desired merge
      ⟨(opened st).cache, (opened st).remote⟩ with
  | ok _ c =>
      rw [onCached_of_ok hrun] at hkept
      exact absurd rfl hkept
  | error e c => exact Schema.lookup_of_update_error_of_cached hq hl hrun

/-- Operations on other tables do not reach the entry of this one. -/
theorem lookup_answer_of_ne (hq : naming.qualify table = some q) (ht : call.table? ≠ some table)
    (hl : st.cache.lookup q = some schema) :
    ((inMemory naming base).answer call st).2.cache.lookup q = some schema := by
  have hphysical : ∀ name, call.table? = some name → naming.qualify name ≠ some q := by
    intro name hname hq'
    rw [NamingPolicy.qualify_injective hq' hq] at hname
    exact ht hname
  exact (entry_answer base hphysical).2.trans hl

theorem lookup_answer (hq : naming.qualify table = some q) (hl : st.cache.lookup q = some schema)
    (hkept : ¬ call.Drops table ((inMemory naming base).answer call st).1) :
    ((inMemory naming base).answer call st).2.cache.lookup q = some schema := by
  by_cases ht : call.table? = some table
  · have hsame : ∀ {cache : SchemaCache}, cache = st.cache → cache.lookup q = some schema := by
      rintro cache rfl
      exact hl
    cases call with
    | create config =>
        rw [answer, create_run]
        exact hsame (cache_onRemote ..)
    | ensure config =>
        obtain rfl : config.collectionName = table := Option.some.inj ht
        exact lookup_ensure hq hl hkept
    | delete name =>
        obtain rfl : name = table := Option.some.inj ht
        exact lookup_delete hq hl hkept
    | collectionExists name =>
        rw [answer, collectionExists, client_bind]
        exact hsame (cache_onRemote ..)
    | configSetExists name =>
        rw [answer, configSetExists, client_bind]
        exact hsame (cache_onRemote ..)
    | getSchema name =>
        obtain rfl : name = table := Option.some.inj ht
        rw [answer, getSchema_of_cached hq hl]
        exact hl
    | updateSchema name desired merge =>
        obtain rfl : name = table := Option.some.inj ht
        exact lookup_updateSchema hq hl hkept
    | invalidate name => exact absurd (Option.some.inj ht) hkept
    | index name docs =>
        rw [answer, index]
        split
        · exact hl
        · rw [client_bind]
          exact hsame (cache_onRemote ..)
    | deleteIds name ids =>
        rw [answer, deleteIds]
        split
        · exact hl
        · rw [client_bind]
          exact hsame (cache_onRemote ..)
    | deleteQuery name query =>
        rw [answer, deleteQuery]
        split
        · exact hl
        · rw [client_bind]
          exact hsame (cache_onRemote ..)
    | destroy => cases ht
  · exact lookup_answer_of_ne hq ht hl

theorem Later.lookup (h : Later (inMemory naming base) table st st') (hq : naming.qualify table = some q)
    (hl : st.cache.lookup q = some schema) : st'.cache.lookup q = some schema := by
  induction h with
  | refl => exact hl
  | own call _ hkept ih => exact lookup_answer hq ih hkept
  | foreign c _ ih => exact ih

/-! ## Reading anew -/

theorem fetch_of_closed {c : Cluster} (h : c.closed = true) : Schema.fetch Cluster.gateway q table c =
    .error (.remote table .closed) (c.withCalls (c.calls + 1)) := by
  have hperform : Cluster.gateway.perform (.configExists q) c = .error .closed (c.withCalls (c.calls + 1)) := by
    show Cluster.perform _ _ = _
    rw [Cluster.perform_eq, if_pos h]
  exact bind_of_error (adaptExcept_of_error hperform)

theorem closed_opened (hopen : st.handle = some () → st.remote.closed = false) :
    (opened st).remote.closed = false := by
  cases hh : st.handle with
  | none => simp [opened, hh, Cluster.reopen]
  | some u => simpa [opened, hh] using hopen hh

theorem serves_opened (hopen : st.handle = some () → st.remote.closed = false) (hfail : st.remote.failures = [])
    (op : Operation) : (opened st).remote.Serves op := by
  refine ⟨closed_opened hopen, ?_⟩
  rw [remote_opened]
  simp [Cluster.failure?, hfail]

theorem readable_opened {served : Schema} (hopen : st.handle = some () → st.remote.closed = false)
    (hfail : st.remote.failures = []) (hset : st.remote.configSets.contains q = true)
    (hserved : st.remote.served table = some served) (hread : served.read = .ok schema) :
    Schema.Readable (opened st).remote q table schema := by
  have hserves := serves_opened hopen hfail
  refine ⟨hserves _, hserves _, hserves _, ?_, served, (served_seen st table).trans hserved, hread⟩
  rw [remote_opened]
  exact hset

/-- The schema that is read anew is the one that is served, and a service that keeps what it reads answers with it,
without a call, until it drops it. Only a service that holds on to a cluster that others have closed cannot read. -/
theorem schema_remembered {served : Schema} (base : String) (hq : naming.qualify table = some q)
    (hfail : st.remote.failures = []) (hset : st.remote.configSets.contains q = true)
    (hserved : st.remote.served table = some served) (hlegible : served.Legible) :
    let s := inMemory naming base
    ((st.handle = some () → st.remote.closed = false) →
      ∃ fetched st', s.reread table st = .ok fetched st' ∧ served.same fetched = true ∧
        (st.cache.IsUnbounded → ∀ later, Later s table st' later →
          s.getSchema table later = .ok fetched (opened later) ∧
            (opened later).remote.calls = later.remote.calls)) ∧
    (st.handle = some () → st.remote.closed = true →
      ∃ st', s.reread table st = .error (.remote table .closed) st') := by
  intro s
  refine ⟨fun hopen => ?fetched, fun hh hclosed => ?closed⟩
  case fetched =>
    obtain ⟨fetched, hread, halike⟩ := hlegible.read
    have hfetch := (readable_opened hopen hfail hset hserved hread).fetch
    refine ⟨fetched, _, reread_of_fetch hq hfetch, halike.same, fun hu later hlater => ?_⟩
    have hlookup := hlater.lookup hq ((hu.remove q).lookup_insert q fetched)
    refine ⟨getSchema_of_cached hq hlookup, ?_⟩
    rw [remote_opened]
  case closed =>
    have hremote : (opened st).remote.closed = true := by
      rw [opened_of_handle hh]
      exact hclosed
    have hget := Schema.get_of_fetch_error (s := ⟨st.cache.remove q, (opened st).remote⟩) hq
      (st.cache.lookup_remove q) (fetch_of_closed hremote)
    exact ⟨_, (reread_eq hq).trans (onCached_of_error hget)⟩

/-- A table that was created is read anew, and again when others have deleted its collection and emptied the
cluster. -/
theorem schema_remembered_orders :
    let s := inMemory ⟨"DEFAULT"⟩ Cluster.baseConfigSet
    ∃ fetched st' later, s.reread "orders" ordersCreated = .ok fetched st' ∧
      Cluster.baseSchema.same fetched = true ∧ later.remote = .fresh ⟨"DEFAULT"⟩ ∧
      s.getSchema "orders" later = .ok fetched (opened later) := by
  intro s
  have hq : NamingPolicy.qualify ⟨"DEFAULT"⟩ "orders" = some "DEFAULT_orders" := by decide
  have hfail : ordersCreated.remote.failures = [] := rfl
  have hset : ordersCreated.remote.configSets.contains "DEFAULT_orders" = true := by decide +kernel
  have hserved : ordersCreated.remote.served "orders" = some Cluster.baseSchema := rfl
  obtain ⟨hfetched, -⟩ :=
    schema_remembered Cluster.baseConfigSet hq hfail hset hserved Schema.legible_baseSchema
  obtain ⟨fetched, st', hread, hsame, hlater⟩ := hfetched fun _ => rfl
  let later : ServiceState Cluster Unit := { st' with remote := .fresh ⟨"DEFAULT"⟩ }
  have hrun := (hlater ⟨.empty, rfl⟩ later (.foreign _ .refl)).1
  exact ⟨fetched, st', later, hread, hsame, rfl, hrun⟩

/-- A service that has created the table `orders`, after another one was destroyed. -/
def ordersClosed : ServiceState Cluster Unit :=
  let s := inMemory ⟨"DEFAULT"⟩ Cluster.baseConfigSet
  { ordersCreated with
    remote := (s.run [.collectionExists "orders", .destroy] { remote := ordersCreated.remote }).2.remote }

/-- The cluster that is shared is closed for both of them. -/
theorem not_read_of_closed :
    let s := inMemory ⟨"DEFAULT"⟩ Cluster.baseConfigSet
    ordersClosed.remote.Reachable ⟨"DEFAULT"⟩ ∧ ordersClosed.remote.failures = [] ∧
      ordersClosed.remote.configSets.contains "DEFAULT_orders" = true ∧
      ordersClosed.remote.served "orders" = some Cluster.baseSchema ∧ Cluster.baseSchema.Legible ∧
      (error? (s.reread "orders" ordersClosed)).bind GetSchemaError.clientError? = some .closed := by
  intro s
  have hcreated : ordersCreated.remote.Reachable ⟨"DEFAULT"⟩ := reachable_run _ _ .fresh
  exact ⟨reachable_run _ _ hcreated, rfl, by decide +kernel, rfl, Schema.legible_baseSchema, rfl⟩

/-! ## Deleting -/

/-- After a deletion that was answered the collection is gone, and the cached schema with it, unless there was no
collection to be deleted. A schema that stays cached is the only one that is read then without being served. -/
theorem forgotten_iff_of_delete {outcome : DeleteOutcome} (hq : naming.qualify table = some q)
    (h : (inMemory naming base).delete table st = .ok outcome st') :
    let s := inMemory naming base
    st'.remote.collections.contains q = false ∧
    (st'.cache.lookup q = none ↔ outcome ≠ .notFound ∨ st.cache.lookup q = none) ∧
    (∀ schema st'', s.getSchema table st' = .ok schema st'' →
      outcome = .notFound ∧ st.cache.lookup q = some schema ∨ Schema.Readable st'.remote q table schema) ∧
    ∀ schema, outcome = .notFound → st.cache.lookup q = some schema →
      s.getSchema table st' = .ok schema st' := by
  intro s
  rw [delete_run] at h
  obtain ⟨hrun, hhandle⟩ := onCached_eq_ok h
  obtain ⟨hgone, hcache⟩ := Provisioner.cache_of_delete_ok hq hrun
  have hopened : opened st' = st' := opened_of_handle hhandle
  refine ⟨hgone, ?forgotten, fun schema st'' hget => ?read, fun schema hno hl => ?stale⟩
  case forgotten =>
    rw [show st'.cache = _ from hcache]
    cases outcome with
    | notFound => simp [opened]
    | _ => simp [Store.lookup_remove]
  case read =>
    rw [getSchema_run, hopened] at hget
    obtain ⟨hget, -⟩ := onCached_eq_ok hget
    obtain ⟨q', hq', hread⟩ := Schema.get_eq_ok hget
    cases hq.symm.trans hq'
    rcases hread with ⟨hl, -⟩ | ⟨-, hfetch, -⟩
    · rw [show st'.cache = _ from hcache] at hl
      split at hl
      · next hno => exact .inl ⟨hno, hl⟩
      · rw [Store.lookup_remove] at hl
        cases hl
    · exact .inr (Schema.readable_of_fetch hfetch)
  case stale =>
    have hl' : st'.cache.lookup q = some schema := by
      rw [show st'.cache = _ from hcache, if_pos hno]
      exact hl
    have hget : s.getSchema table st' = .ok schema (opened st') := getSchema_of_cached hq hl'
    rwa [hopened] at hget

/-- A service that has created the table `orders` and read its schema. -/
def ordersRead : ServiceState Cluster Unit :=
  ((inMemory ⟨"DEFAULT"⟩ Cluster.baseConfigSet).run
    [.create ⟨"orders", none, 1, 1, none, none⟩, .getSchema "orders"] { remote := .fresh ⟨"DEFAULT"⟩ }).2

/-- It forgets the schema when it deletes the collection. -/
theorem forgotten_orders :
    let s := inMemory ⟨"DEFAULT"⟩ Cluster.baseConfigSet
    ∃ st', s.delete "orders" ordersRead = .ok .deleted st' ∧
      (ordersRead.cache.lookup "DEFAULT_orders").isSome = true ∧
      st'.cache.lookup "DEFAULT_orders" = none := by
  intro s
  have hq : NamingPolicy.qualify ⟨"DEFAULT"⟩ "orders" = some "DEFAULT_orders" := by decide
  obtain ⟨st', hrun⟩ := exists_of_value?
    (show value? (s.delete "orders" ordersRead) = some .deleted by decide +kernel)
  obtain ⟨-, hforgotten, -⟩ := forgotten_iff_of_delete hq hrun
  exact ⟨st', hrun, by decide +kernel, hforgotten.mpr (.inl nofun)⟩

/-- The same service after another one has deleted the collection. -/
def ordersStale : ServiceState Cluster Unit :=
  { ordersRead with
    remote := ((inMemory ⟨"DEFAULT"⟩ Cluster.baseConfigSet).run [.delete "orders"]
      { remote := ordersRead.remote }).2.remote }

/-- Deleting it once more is answered, but the schema stays and is read. -/
theorem remembered_although_deleted :
    let s := inMemory ⟨"DEFAULT"⟩ Cluster.baseConfigSet
    let deleted := s.delete "orders" ordersStale
    let read := s.getSchema "orders" (stateAfter deleted)
    ordersStale.remote.Reachable ⟨"DEFAULT"⟩ ∧ value? deleted = some .notFound ∧
      (stateAfter deleted).remote.collections.contains "DEFAULT_orders" = false ∧
      (stateAfter deleted).remote.resolve? "orders" = none ∧
      ((stateAfter deleted).cache.lookup "DEFAULT_orders").isSome = true ∧
      (value? read).map Schema.uniqueKey = some "id" := by
  intro s deleted read
  have hread : ordersRead.remote.Reachable ⟨"DEFAULT"⟩ := reachable_run _ _ .fresh
  exact ⟨reachable_run _ _ hread, by decide +kernel⟩

end Service

end TableIndex
