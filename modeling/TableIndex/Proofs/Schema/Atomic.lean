import TableIndex.Proofs.Cluster.Recovery
import TableIndex.Proofs.Gateway.Trace

/-!
# Changing a schema and the cache

Whatever a gateway answers, a schema is changed by at most one call, and the cache is written only with what was
read before that call or with what the plan leaves once the call was accepted.
-/

namespace TableIndex

variable {σ : Type}

namespace Schema

variable {g : Gateway σ} {naming : NamingPolicy} {table q name : String} {s t : Cached σ}
  {current desired : Schema} {merge : Bool}

/-! ## The cache -/

theorem cache_of_get_error {e : GetSchemaError} (h : get naming g table s = .error e t) :
    t.cache = s.cache := by
  have hread := reading naming g table s
  rw [h] at hread
  cases hread <;> rfl

theorem lookup_of_get (hu : s.cache.IsUnbounded) (hq : naming.qualify table = some q)
    (h : get naming g table s = .ok current t) :
    t.cache.IsUnbounded ∧ t.cache.lookup q = some current := by
  have hread := reading naming g table s
  rw [h] at hread
  cases hread with
  | cached hq' hl =>
      cases hq.symm.trans hq'
      exact ⟨hu, hl⟩
  | fetched hq' hl hf =>
      cases hq.symm.trans hq'
      exact ⟨(Store.isUnbounded_insert ..).mpr hu, hu.lookup_insert q current⟩

theorem lookup_of_get_of_ne (hname : naming.qualify table ≠ some name)
    (h : get naming g table s = .ok current t) : t.cache.lookup name = s.cache.lookup name := by
  have hread := reading naming g table s
  rw [h] at hread
  cases hread with
  | cached hq hl => rfl
  | fetched hq hl hf =>
      refine Store.lookup_insert_of_ne ?_ s.cache current
      rintro rfl
      exact hname hq

theorem lookup_cacheAfter {cache : SchemaCache} (hu : cache.IsUnbounded)
    (hl : cache.lookup q = some current) : (cacheAfter cache q current desired merge).lookup q =
      some (if (SchemaUpdate.plan current desired merge).updates = [] ∧ merge = true then current
        else (SchemaUpdate.plan current desired merge).schema) := by
  rw [cacheAfter]
  split
  · exact hl
  · exact hu.lookup_insert q _

theorem lookup_cacheAfter_of_ne (hname : q ≠ name) (cache : SchemaCache) :
    (cacheAfter cache q current desired merge).lookup name = cache.lookup name := by
  rw [cacheAfter]
  split
  · rfl
  · exact Store.lookup_insert_of_ne hname cache _

theorem lookup_of_update_error {e : UpdateSchemaError} (hu : s.cache.IsUnbounded)
    (hq : naming.qualify table = some q) (h : update naming g table desired merge s = .error e t) :
    t.cache.lookup q = s.cache.lookup q ∨ s.cache.lookup q = none ∧
      ∃ current r, fetch g q table s.remote = .ok current r ∧ t.cache.lookup q = some current := by
  have hupdate := updating naming g table desired merge s
  rw [h] at hupdate
  cases hupdate with
  | unread hget => exact .inl (congrArg (·.lookup q) (cache_of_get_error hget))
  | @refused current _ u _ hget hplan hchange =>
      have hlookup := (lookup_of_get hu hq hget).2
      have hread := reading naming g table s
      rw [hget] at hread
      cases hread with
      | cached hq' hl => exact .inl rfl
      | fetched hq' hl hf =>
          cases hq.symm.trans hq'
          exact .inr ⟨hl, current, _, hf, hlookup⟩

/-- A schema that was cached outlasts a change that fails. -/
theorem lookup_of_update_error_of_cached {e : UpdateSchemaError} (hq : naming.qualify table = some q)
    (hl : s.cache.lookup q = some current) (h : update naming g table desired merge s = .error e t) :
    t.cache.lookup q = some current := by
  rcases lookup_of_update_error (Store.isUnbounded_of_lookup hl) hq h with hsame | ⟨hnone, -⟩
  · exact hsame.trans hl
  · cases hl.symm.trans hnone

theorem lookup_of_update (hu : s.cache.IsUnbounded) (h : update naming g table desired merge s = .ok () t) :
    ∃ q current, naming.qualify table = some q ∧ value? (get naming g table s) = some current ∧
      t.cache.lookup q =
        some (if (SchemaUpdate.plan current desired merge).updates = [] ∧ merge = true then current
          else (SchemaUpdate.plan current desired merge).schema) := by
  have hupdate := updating naming g table desired merge s
  rw [h] at hupdate
  cases hupdate with
  | @idle q current u hq hget hplan =>
      obtain ⟨hunbounded, hlookup⟩ := lookup_of_get hu hq hget
      exact ⟨q, current, hq, by rw [hget]; rfl, lookup_cacheAfter hunbounded hlookup⟩
  | @accepted q current u r hq hget hplan hchange =>
      obtain ⟨hunbounded, hlookup⟩ := lookup_of_get hu hq hget
      exact ⟨q, current, hq, by rw [hget]; rfl, lookup_cacheAfter hunbounded hlookup⟩

theorem lookup_of_update_of_ne (hname : naming.qualify table ≠ some name) :
    (stateAfter (update naming g table desired merge s)).cache.lookup name = s.cache.lookup name := by
  have hne : ∀ {q}, naming.qualify table = some q → q ≠ name := fun hq hqn => hname (hqn ▸ hq)
  have hupdate := updating naming g table desired merge s
  generalize update naming g table desired merge s = result at hupdate
  cases hupdate with
  | unread hget => exact congrArg (·.lookup name) (cache_of_get_error hget)
  | idle hq hget hplan =>
      exact (lookup_cacheAfter_of_ne (hne hq) _).trans (lookup_of_get_of_ne hname hget)
  | accepted hq hget hplan hchange =>
      exact (lookup_cacheAfter_of_ne (hne hq) _).trans (lookup_of_get_of_ne hname hget)
  | refused hget hplan hchange =>
      have hlookup := lookup_of_get_of_ne hname hget
      exact hlookup

/-! ## The calls -/

/-- The exchanges that are about changing a schema. -/
def submissions (exchanges : List Exchange) : List Exchange :=
  exchanges.filter fun e => e.operation = .submitSchemaUpdates

theorem submissions_append (before after : List Exchange) :
    submissions (before ++ after) = submissions before ++ submissions after := List.filter_append ..

theorem submissions_get (g : Gateway σ) (naming : NamingPolicy) (table : String) (s : Cached (Traced σ)) :
    ∃ exchanges, (stateAfter (get naming g.traced table s)).remote.trace = s.remote.trace ++ exchanges ∧
      submissions exchanges = [] := by
  let Extended (t : Traced σ) : Prop :=
    ∃ exchanges, t.trace = s.remote.trace ++ exchanges ∧ submissions exchanges = []
  have hasks : ∀ {α : Type} (call : Call α), call.Asks → Keeps Extended (g.traced.perform call) := by
    rintro α call hcall t ⟨exchanges, htrace, hnone⟩
    obtain ⟨result, hperform⟩ := trace_perform g call t
    have hop : call.operation ≠ .submitSchemaUpdates := by
      cases call with
      | submitSchemaUpdates name updates => cases hcall
      | _ => exact nofun
    have hasked : submissions [.of call result] = [] := by
      simp [submissions, Exchange.operation_of, hop]
    refine ⟨exchanges ++ [.of call result], ?_, ?_⟩
    · rw [hperform, htrace, List.append_assoc]
    · rw [submissions_append, hnone, hasked, List.append_nil]
  have hget : Keeps (fun u : Cached (Traced σ) => Extended u.remote ∧ True) (get naming g.traced table) :=
    (Keeps.compositional (I := Extended)).get Keeps.compositional (.onRemote fun _ => True) hasks
      (fun _ _ _ h => h) fun _ _ _ _ _ h => h
  exact (hget s ⟨⟨[], (List.append_nil _).symm, rfl⟩, trivial⟩).1

/-- A plan that is submitted is so once, after all that is asked to read the schema, and changing succeeds exactly if
that submission does. -/
theorem submissions_of_get {s t : Cached (Traced σ)} {updates : List SchemaUpdate}
    (hget : get naming g.traced table s = .ok current t) :
    ∃ exchanges answer,
      (stateAfter (g.traced.change (.submitSchemaUpdates table updates) t.remote)).trace =
        s.remote.trace ++ exchanges ∧
      submissions exchanges = [.changed (.submitSchemaUpdates table updates) answer] ∧
      error? (g.traced.change (.submitSchemaUpdates table updates) t.remote) =
        (Exchange.changed (.submitSchemaUpdates table updates) answer).failure? := by
  obtain ⟨exchanges, htrace, hnone⟩ := submissions_get g naming table s
  obtain ⟨answer, hchange, herror⟩ :=
    trace_change g (.submitSchemaUpdates table updates) (fun _ => rfl) t.remote
  rw [hget] at htrace
  refine ⟨exchanges ++ [.changed (.submitSchemaUpdates table updates) answer], answer, ?_, ?_, herror⟩
  · rw [hchange, ← List.append_assoc, ← htrace]
    rfl
  · rw [submissions_append, hnone]
    rfl

/-- The plan is submitted once or, where a schema is changed without it, empty. -/
theorem submissions_update (g : Gateway σ) (naming : NamingPolicy) (table : String) (desired : Schema)
    (merge : Bool) (s : Cached (Traced σ)) :
    let read := get naming g.traced table s
    let result := update naming g.traced table desired merge s
    ∃ exchanges, (stateAfter result).remote.trace = s.remote.trace ++ exchanges ∧
      (submissions exchanges = [] ∧
          (value? result = some () → ∃ current, value? read = some current ∧
            (SchemaUpdate.plan current desired merge).updates = []) ∨
        ∃ current answer,
          let plan := SchemaUpdate.plan current desired merge
          let submission := Exchange.changed (.submitSchemaUpdates table plan.updates) answer
          value? read = some current ∧ plan.updates ≠ [] ∧ submissions exchanges = [submission] ∧
            (value? result = some () ↔ submission.failure? = none)) := by
  intro read result
  obtain ⟨exchanges, htrace, hnone⟩ := submissions_get g naming table s
  have hupdate : Updating naming g.traced table desired merge s result := updating ..
  generalize result = result at hupdate
  cases hupdate with
  | unread hget =>
      rw [hget] at htrace
      exact ⟨exchanges, htrace, .inl ⟨hnone, nofun⟩⟩
  | idle hq hget hplan =>
      rw [hget] at htrace
      exact ⟨exchanges, htrace, .inl ⟨hnone, fun _ => ⟨_, congrArg value? hget, hplan⟩⟩⟩
  | accepted hq hget hplan hchange =>
      obtain ⟨exchanges, answer, htrace, hone, herror⟩ := submissions_of_get hget
      rw [hchange] at htrace herror
      exact ⟨exchanges, htrace, .inr ⟨_, answer, congrArg value? hget, hplan, hone,
        iff_of_true rfl herror.symm⟩⟩
  | refused hget hplan hchange =>
      obtain ⟨exchanges, answer, htrace, hone, herror⟩ := submissions_of_get hget
      rw [hchange] at htrace herror
      refine ⟨exchanges, htrace, .inr ⟨_, answer, congrArg value? hget, hplan, hone, iff_of_false nofun ?_⟩⟩
      rw [← herror]
      exact nofun

theorem projects_update (g : Gateway σ) (naming : NamingPolicy) (table : String) (desired : Schema)
    (merge : Bool) : Projects (Cached.through Traced.remote) (update naming g.traced table desired merge)
      (update naming g table desired merge) := by
  have hP : Parallel fun ε α (x : EStateM ε (Traced σ) α) (y : EStateM ε σ α) => Projects Traced.remote x y :=
    Projects.parallel
  exact hP.update Projects.parallel .onRemote (fun _ _ => Traced.projects_noting _ _)
    (fun _ _ => Traced.projects_noting _ _) (fun _ _ _ => rfl) (fun _ _ _ _ _ => rfl) desired merge

/-! ## All or nothing -/

/-- A schema is changed by at most one call, with the plan for the schema that is read, and where there is such a call,
the change succeeds exactly if it is accepted. A change that fails leaves the cache as it was, but for a schema that
was fetched for it, and leaves a cluster in memory as it was. After one that succeeds the cache holds what the plan
leaves, or what was read if nothing was to be merged. -/
theorem update_atomic (naming : NamingPolicy) (g : Gateway σ) (table : String) (desired : Schema)
    (merge : Bool) (entries : SortedMap Schema) (r : Traced σ) :
    let s : Cached (Traced σ) := ⟨.unbounded entries, r⟩
    let read := get naming g.traced table s
    let result := update naming g.traced table desired merge s
    let after := (stateAfter result).cache
    (∃ exchanges, (stateAfter result).remote.trace = r.trace ++ exchanges ∧
      (submissions exchanges = [] ∧
          (value? result = some () → ∃ current, value? read = some current ∧
            (SchemaUpdate.plan current desired merge).updates = []) ∨
        ∃ current answer,
          let plan := SchemaUpdate.plan current desired merge
          let submission := Exchange.changed (.submitSchemaUpdates table plan.updates) answer
          value? read = some current ∧ plan.updates ≠ [] ∧ submissions exchanges = [submission] ∧
            (value? result = some () ↔ submission.failure? = none))) ∧
    (∀ q e, naming.qualify table = some q → error? result = some e →
      after.lookup q = entries.get? q ∨ entries.get? q = none ∧
        ∃ fetched r', fetch g.traced q table r = .ok fetched r' ∧ after.lookup q = some fetched) ∧
    (value? result = some () →
      ∃ q current, naming.qualify table = some q ∧ value? read = some current ∧
        after.lookup q =
          some (if (SchemaUpdate.plan current desired merge).updates = [] ∧ merge = true then current
            else (SchemaUpdate.plan current desired merge).schema)) ∧
    (∀ name, naming.qualify table ≠ some name → after.lookup name = entries.get? name) ∧
    update naming g table desired merge ⟨.unbounded entries, r.remote⟩ =
      viewed (Cached.through Traced.remote) result ∧
    ∀ (c d : Cached Cluster) e, update naming Cluster.gateway table desired merge c = .error e d →
      d.remote.data = c.remote.data := by
  intro s read result after
  have hu : s.cache.IsUnbounded := ⟨entries, rfl⟩
  refine ⟨submissions_update g naming table desired merge s, fun q e hq he => ?failed, fun hok => ?done,
    fun name hname => lookup_of_update_of_ne hname, projects_update g naming table desired merge s,
    fun c d e h => data_of_update_error h⟩
  case failed =>
    obtain ⟨t, ht⟩ := exists_of_error? he
    have hlookup := lookup_of_update_error hu hq ht
    rwa [← show stateAfter result = t by rw [ht]; rfl] at hlookup
  case done =>
    obtain ⟨t, ht⟩ := exists_of_value? hok
    have hlookup := lookup_of_update hu ht
    rwa [← show stateAfter result = t by rw [ht]; rfl] at hlookup

end Schema

end TableIndex
