import TableIndex.Cluster.Perform
import TableIndex.Proofs.Gateway.Programs
import TableIndex.Proofs.Map.Sorted

/-!
# What calls to a cluster do

The number of calls made so far has no influence on any answer (`respects_perform`). A call that asks, fails or
is refused changes nothing else, and a call that is accepted makes of the cluster what `Becomes` says
(`serve_eq_ok`); what a call keeps follows from there.
-/

namespace TableIndex

namespace Cluster

variable {α : Type} {c d : Cluster}

/-! ## What serving does not see -/

/-- The same cluster with everything replaced that serving a call neither reads nor changes. -/
def withAccount (c : Cluster) (failures : List (Operation × Int)) (closed : Bool) (calls : Nat) :
    Cluster :=
  { c with failures, closed, calls }

/-- The same cluster with another number of calls. -/
def withCalls (c : Cluster) (n : Nat) : Cluster := { c with calls := n }

/-- What the cluster holds: everything but the number of calls. -/
def data (c : Cluster) : Cluster := c.withCalls 0

/-- Both clusters hold the same. -/
def SameData (c d : Cluster) : Prop := c.data = d.data

theorem sameData_equivalence : Equivalence SameData := ⟨fun _ => rfl, Eq.symm, Eq.trans⟩

theorem eq_withCalls (h : c.data = d.data) : d = c.withCalls d.calls := by
  cases c
  cases d
  simp only [data, withCalls, mk.injEq] at h ⊢
  simp [h]

/-- What is done to the state of a result. -/
def mapState {ε : Type} (f : Cluster → Cluster) :
    EStateM.Result ε Cluster α → EStateM.Result ε Cluster α
  | .ok a c => .ok a (f c)
  | .error e c => .error e (f c)

section Account

variable (c : Cluster) (fs : List (Operation × Int)) (closed : Bool) (n : Nat)

theorem onCollection_withAccount (table : String) {f g : String → α × Cluster}
    (h : ∀ collection, g collection = ((f collection).1, (f collection).2.withAccount fs closed n)) :
    (c.withAccount fs closed n).onCollection table g =
      mapState (withAccount · fs closed n) (c.onCollection table f) := by
  have hres : (c.withAccount fs closed n).resolve? table = c.resolve? table := rfl
  rw [onCollection, onCollection, hres]
  cases c.resolve? table with
  | none => rfl
  | some collection => simp only [h, mapState]

theorem createConfig_withAccount (base name : String) :
    (c.withAccount fs closed n).createConfig base name =
      ((c.createConfig base name).1, (c.createConfig base name).2.withAccount fs closed n) := by
  by_cases h : c.configSets.contains name
  · simp [createConfig, withAccount, h]
  · cases hb : c.configSets.get? base <;> simp [createConfig, withAccount, h, hb]

theorem createCollection_withAccount (name configSet : String) (shards replicas : Nat) :
    (c.withAccount fs closed n).createCollection name configSet shards replicas =
      ((c.createCollection name configSet shards replicas).1,
        (c.createCollection name configSet shards replicas).2.withAccount fs closed n) := by
  by_cases h : c.collections.contains name
  · simp [createCollection, withAccount, h]
  · by_cases hs : c.configSets.contains configSet
    · by_cases hn : shards = 0 ∨ replicas = 0 <;> simp [createCollection, withAccount, h, hs, hn]
    · simp [createCollection, withAccount, h, hs]

theorem deleteCollection_withAccount (name : String) :
    (c.withAccount fs closed n).deleteCollection name =
      ((c.deleteCollection name).1, (c.deleteCollection name).2.withAccount fs closed n) := by
  by_cases h : c.collections.contains name <;> simp [deleteCollection, withAccount, h]

theorem deleteConfig_withAccount (name : String) :
    (c.withAccount fs closed n).deleteConfig name =
      ((c.deleteConfig name).1, (c.deleteConfig name).2.withAccount fs closed n) := by
  by_cases hu : c.collections.values.contains name
  · simp only [deleteConfig, withAccount, hu, ↓reduceIte]
  · by_cases h : c.configSets.contains name <;>
      simp only [deleteConfig, withAccount, hu, h, ↓reduceIte, Bool.false_eq_true]

theorem submitUpdates_withAccount (collection : String) (updates : List SchemaUpdate) :
    (c.withAccount fs closed n).submitUpdates collection updates =
      ((c.submitUpdates collection updates).1,
        (c.submitUpdates collection updates).2.withAccount fs closed n) := by
  cases hs : c.collections.get? collection with
  | none => simp only [submitUpdates, withAccount, hs]
  | some configSet =>
      cases hu : applyUpdates ((c.configSets.get? configSet).getD .default) updates <;>
        simp only [submitUpdates, withAccount, hs, hu]

theorem addDocuments_withAccount (collection : String) (docs : List Document) :
    (c.withAccount fs closed n).addDocuments collection docs =
      ((c.addDocuments collection docs).1, (c.addDocuments collection docs).2.withAccount fs closed n) := by
  cases h : identified? docs <;> simp only [addDocuments, withAccount, h, stageAdds]

theorem deleteByQuery_withAccount (collection query : String) :
    (c.withAccount fs closed n).deleteByQuery collection query =
      ((c.deleteByQuery collection query).1, (c.deleteByQuery collection query).2.withAccount fs closed n) := by
  cases h : Query.parse? (Text.trim query) <;>
    simp only [deleteByQuery, withAccount, h, stageDeletes, committedOf]

/-- No answer depends on what else fails or on the number of calls. -/
theorem serve_withAccount (call : Call α) :
    serve call (c.withAccount fs closed n) = mapState (withAccount · fs closed n) (serve call c) := by
  cases call with
  | collectionExists name => rfl
  | configExists name => rfl
  | createConfig base name => simp only [serve, createConfig_withAccount, mapState]
  | createCollection name configSet shards replicas =>
      simp only [serve, createCollection_withAccount, mapState]
  | deleteCollection name => simp only [serve, deleteCollection_withAccount, mapState]
  | deleteConfig name => simp only [serve, deleteConfig_withAccount, mapState]
  | listFields table =>
      simp only [serve]
      exact onCollection_withAccount c fs closed n table fun _ => rfl
  | uniqueKey table =>
      simp only [serve]
      exact onCollection_withAccount c fs closed n table fun _ => rfl
  | submitSchemaUpdates table updates =>
      rw [serve, serve]
      exact onCollection_withAccount c fs closed n table fun _ =>
        submitUpdates_withAccount c fs closed n _ updates
  | addDocuments table docs =>
      rw [serve, serve]
      exact onCollection_withAccount c fs closed n table fun _ =>
        addDocuments_withAccount c fs closed n _ docs
  | deleteByIds table ids =>
      simp only [serve]
      exact onCollection_withAccount c fs closed n table fun _ => rfl
  | deleteByQuery table query =>
      rw [serve, serve]
      exact onCollection_withAccount c fs closed n table fun _ =>
        deleteByQuery_withAccount c fs closed n _ query
  | commit table =>
      simp only [serve]
      exact onCollection_withAccount c fs closed n table fun _ => rfl

end Account

theorem eq_of_onCollection_error {table : String} {f : String → α × Cluster} {e : ClientError}
    (h : c.onCollection table f = .error e d) : d = c := by
  rw [onCollection] at h
  cases hres : c.resolve? table with
  | none =>
      rw [hres] at h
      cases h
      rfl
  | some collection =>
      rw [hres] at h
      cases h

theorem eq_of_serve_error {call : Call α} {e : ClientError} (h : serve call c = .error e d) : d = c := by
  cases call with
  | listFields table =>
      rw [serve] at h
      exact eq_of_onCollection_error h
  | uniqueKey table =>
      rw [serve] at h
      exact eq_of_onCollection_error h
  | submitSchemaUpdates table updates =>
      rw [serve] at h
      exact eq_of_onCollection_error h
  | addDocuments table docs =>
      rw [serve] at h
      exact eq_of_onCollection_error h
  | deleteByIds table ids =>
      rw [serve] at h
      exact eq_of_onCollection_error h
  | deleteByQuery table query =>
      rw [serve] at h
      exact eq_of_onCollection_error h
  | commit table =>
      rw [serve] at h
      exact eq_of_onCollection_error h
  | _ => cases h

theorem account_of_serve {call : Call α} {a : α} (h : serve call c = .ok a d) :
    d = d.withAccount c.failures c.closed c.calls := by
  have hsame := serve_withAccount c c.failures c.closed c.calls call
  rw [show c.withAccount c.failures c.closed c.calls = c from rfl, h] at hsame
  injection hsame

theorem closed_serve (call : Call α) (c : Cluster) : (stateAfter (serve call c)).closed = c.closed := by
  cases hserve : serve call c with
  | ok a d => exact congrArg (·.closed) (account_of_serve hserve)
  | error e d => exact congrArg (·.closed) (eq_of_serve_error hserve)

theorem serve_withCalls (call : Call α) (c : Cluster) (n : Nat) :
    serve call (c.withCalls n) = mapState (withCalls · n) (serve call c) := by
  refine (serve_withAccount c c.failures c.closed n call).trans ?_
  cases h : serve call c with
  | ok a d =>
      rw [account_of_serve h]
      rfl
  | error e d =>
      rw [eq_of_serve_error h]
      rfl

/-- What a call gives, told from the cluster as it was before it was counted. -/
theorem perform_eq (call : Call α) (c : Cluster) : perform call c =
    if c.closed then .error .closed (c.withCalls (c.calls + 1))
    else match c.failure? call.operation with
      | some status => .error (injected call.operation status) (c.withCalls (c.calls + 1))
      | none => mapState (withCalls · (c.calls + 1)) (serve call c) := by
  rw [← serve_withCalls]
  rfl

/-- Clusters that hold the same give the same answers, and hold the same afterwards. -/
theorem respects_perform (call : Call α) : Respects SameData (perform call) := by
  intro c d h
  rw [eq_withCalls h, perform_eq, perform_eq, serve_withCalls]
  show Agree Eq _ _ (if c.closed then _ else match c.failure? call.operation with
    | some _ => _
    | none => _)
  split
  · exact .error _ rfl
  · cases c.failure? call.operation with
    | some status => exact .error _ rfl
    | none =>
        cases serve call c with
        | ok a e => exact .ok rfl rfl
        | error e' e => exact .error e' rfl

/-! ## Calls that are served -/

/-- Nothing keeps a call of a kind from being served. -/
structure Serves (c : Cluster) (op : Operation) : Prop where
  opened : c.closed = false
  succeeds : c.failure? op = none

theorem Serves.of_data {op : Operation} (h : c.Serves op) (hd : d.data = c.data) : d.Serves op := by
  rw [eq_withCalls hd.symm]
  exact ⟨h.opened, h.succeeds⟩

theorem Serves.of_serve {op : Operation} {call : Call α} {a : α} (h : c.Serves op)
    (hd : serve call c = .ok a d) : d.Serves op := by
  rw [account_of_serve hd]
  exact ⟨h.opened, h.succeeds⟩

theorem perform_of_serves {call : Call α} (h : c.Serves call.operation) :
    perform call c = mapState (withCalls · (c.calls + 1)) (serve call c) := by
  rw [perform_eq, h.opened, h.succeeds]
  rfl

theorem serves_of_perform {call : Call α} {a : α} (h : perform call c = .ok a d) :
    c.Serves call.operation := by
  rw [perform_eq] at h
  split at h
  · cases h
  · next hopen =>
      split at h
      · cases h
      · next hfail => exact ⟨by simpa using hopen, hfail⟩

theorem perform_eq_ok {call : Call α} {a : α} (h : perform call c = .ok a d) :
    ∃ u, serve call c = .ok a u ∧ d = u.withCalls (c.calls + 1) := by
  rw [perform_of_serves (serves_of_perform h)] at h
  cases hserve : serve call c with
  | ok b u =>
      rw [hserve] at h
      cases h
      exact ⟨u, rfl, rfl⟩
  | error e u =>
      rw [hserve] at h
      cases h

theorem keeps_perform {I : Cluster → Prop} {call : Call α} (hcalls : ∀ c n, I c → I (c.withCalls n))
    (hserve : ∀ c, I c → I (stateAfter (serve call c))) : Keeps I (perform call) := by
  intro c hc
  rw [perform_eq]
  split
  · exact hcalls c _ hc
  · cases c.failure? call.operation with
    | some status => exact hcalls c _ hc
    | none =>
        have hc := hserve c hc
        simp only
        revert hc
        cases serve call c with
        | ok a d => exact hcalls d _
        | error e d => exact hcalls d _

/-! ## Calls that change something -/

/-- The cluster without the collection `q` and its documents. -/
def dropped (c : Cluster) (q : String) : Cluster :=
  { c with
    collections := c.collections.erase q
    pending := c.pending.erase q
    pendingDeletes := c.pendingDeletes.erase q
    committed := c.committed.erase q }

/-- Whether a result says that something was changed. -/
def accepts : {α : Type} → Call α → α → Bool
  | _, .createConfig _ _, r => r.isSuccess
  | _, .createCollection _ _ _ _, r => r.isSuccess
  | _, .deleteCollection _, r => r.isSuccess
  | _, .deleteConfig _, r => r.isSuccess
  | _, .submitSchemaUpdates _ _, r => r.isSuccess
  | _, .addDocuments _ _, r => r.isSuccess
  | _, .deleteByIds _ _, r => r.isSuccess
  | _, .deleteByQuery _ _, r => r.isSuccess
  | _, .commit _, r => r.isSuccess
  | _, _, _ => false

/-- What a call that is accepted makes of a cluster, and when. -/
def Becomes (c : Cluster) : {α : Type} → Call α → Cluster → Prop
  | _, .createConfig base name, d =>
    c.configSets.contains name = false ∧ ∃ s, c.configSets.get? base = some s ∧
      d = { c with configSets := c.configSets.insert name s }
  | _, .createCollection name configSet shards replicas, d =>
    c.collections.contains name = false ∧ c.configSets.contains configSet = true ∧
      ¬(shards = 0 ∨ replicas = 0) ∧ d = { c with collections := c.collections.insert name configSet }
  | _, .deleteCollection name, d => c.collections.contains name = true ∧ d = c.dropped name
  | _, .deleteConfig name, d =>
    c.collections.values.contains name = false ∧ c.configSets.contains name = true ∧
      d = { c with configSets := c.configSets.erase name }
  | _, .submitSchemaUpdates table updates, d =>
    ∃ collection configSet s, c.resolve? table = some collection ∧
      c.collections.get? collection = some configSet ∧
      applyUpdates ((c.configSets.get? configSet).getD .default) updates = .ok s ∧
      d = { c with configSets := c.configSets.insert configSet s }
  | _, .addDocuments table docs, d =>
    ∃ collection staged, c.resolve? table = some collection ∧ identified? docs = some staged ∧
      d = c.stageAdds collection staged
  | _, .deleteByIds table ids, d =>
    ∃ collection, c.resolve? table = some collection ∧ d = c.stageDeletes collection ids
  | _, .deleteByQuery table query, d =>
    ∃ collection q, c.resolve? table = some collection ∧ Query.parse? (Text.trim query) = some q ∧
      d = c.stageDeletes collection
        (((c.committedOf collection).entries.filter fun e => q.selects e.2).map Prod.fst)
  | _, .commit table, d => ∃ collection, c.resolve? table = some collection ∧ d = c.commitStaged collection
  | _, _, _ => False

theorem onCollection_eq_ok {table : String} {f : String → α × Cluster} {a : α}
    (h : c.onCollection table f = .ok a d) :
    ∃ collection, c.resolve? table = some collection ∧ f collection = (a, d) := by
  rw [onCollection] at h
  cases hres : c.resolve? table with
  | none =>
      rw [hres] at h
      cases h
  | some collection =>
      rw [hres] at h
      cases h
      exact ⟨collection, rfl, rfl⟩

/-- A call that is served asks, or is refused, or else is accepted. -/
theorem serve_eq_ok {call : Call α} {a : α} (h : serve call c = .ok a d) :
    accepts call a = false ∧ d = c ∨ accepts call a = true ∧ c.Becomes call d := by
  cases call with
  | collectionExists name =>
      cases h
      exact .inl ⟨rfl, rfl⟩
  | configExists name =>
      cases h
      exact .inl ⟨rfl, rfl⟩
  | createConfig base name =>
      simp only [serve, createConfig] at h
      split at h
      · cases h
        exact .inl ⟨rfl, rfl⟩
      · next hno =>
          split at h
          · cases h
            exact .inl ⟨rfl, rfl⟩
          · next s hbase =>
              cases h
              exact .inr ⟨rfl, by simpa using hno, s, hbase, rfl⟩
  | createCollection name configSet shards replicas =>
      simp only [serve, createCollection] at h
      split at h
      · cases h
        exact .inl ⟨rfl, rfl⟩
      · next hno =>
          split at h
          · cases h
            exact .inl ⟨rfl, rfl⟩
          · next hset =>
              split at h
              · cases h
                exact .inl ⟨rfl, rfl⟩
              · next hsized =>
                  cases h
                  exact .inr ⟨rfl, by simpa using hno, by simpa using hset, hsized, rfl⟩
  | deleteCollection name =>
      simp only [serve, deleteCollection] at h
      split at h
      · next hthere =>
          cases h
          exact .inr ⟨rfl, hthere, rfl⟩
      · cases h
        exact .inl ⟨rfl, rfl⟩
  | deleteConfig name =>
      simp only [serve, deleteConfig] at h
      split at h
      · cases h
        exact .inl ⟨rfl, rfl⟩
      · next hunused =>
          split at h
          · next hset =>
              cases h
              exact .inr ⟨rfl, by simpa using hunused, hset, rfl⟩
          · cases h
            exact .inl ⟨rfl, rfl⟩
  | listFields table =>
      rw [serve] at h
      obtain ⟨collection, -, h⟩ := onCollection_eq_ok h
      cases h
      exact .inl ⟨rfl, rfl⟩
  | uniqueKey table =>
      rw [serve] at h
      obtain ⟨collection, -, h⟩ := onCollection_eq_ok h
      cases h
      exact .inl ⟨rfl, rfl⟩
  | submitSchemaUpdates table updates =>
      rw [serve] at h
      obtain ⟨collection, hres, h⟩ := onCollection_eq_ok h
      rw [submitUpdates] at h
      split at h
      · cases h
        exact .inl ⟨rfl, rfl⟩
      · next configSet hset =>
          split at h
          · cases h
            exact .inl ⟨rfl, rfl⟩
          · next s happly =>
              cases h
              exact .inr ⟨rfl, collection, configSet, s, hres, hset, happly, rfl⟩
  | addDocuments table docs =>
      rw [serve] at h
      obtain ⟨collection, hres, h⟩ := onCollection_eq_ok h
      rw [addDocuments] at h
      split at h
      · cases h
        exact .inl ⟨rfl, rfl⟩
      · next staged hids =>
          cases h
          exact .inr ⟨rfl, collection, staged, hres, hids, rfl⟩
  | deleteByIds table ids =>
      rw [serve] at h
      obtain ⟨collection, hres, h⟩ := onCollection_eq_ok h
      cases h
      exact .inr ⟨rfl, collection, hres, rfl⟩
  | deleteByQuery table query =>
      rw [serve] at h
      obtain ⟨collection, hres, h⟩ := onCollection_eq_ok h
      simp only [deleteByQuery] at h
      split at h
      · cases h
        exact .inl ⟨rfl, rfl⟩
      · next q hquery =>
          cases h
          exact .inr ⟨rfl, collection, q, hres, hquery, rfl⟩
  | commit table =>
      rw [serve] at h
      obtain ⟨collection, hres, h⟩ := onCollection_eq_ok h
      cases h
      exact .inr ⟨rfl, collection, hres, rfl⟩

theorem becomes_of_accepted {call : Call α} {a : α} (h : serve call c = .ok a d)
    (ha : accepts call a = true) : c.Becomes call d := by
  rcases serve_eq_ok h with ⟨hno, -⟩ | ⟨-, hd⟩
  · rw [ha] at hno
    cases hno
  · exact hd

/-- What holds of a cluster holds of it after a call, if it holds of what the call makes of it. -/
theorem stateAfter_serve {I : Cluster → Prop} {call : Call α} (hc : I c)
    (h : ∀ d, c.Becomes call d → I d) : I (stateAfter (serve call c)) := by
  cases hserve : serve call c with
  | ok a d =>
      rcases serve_eq_ok hserve with ⟨-, rfl⟩ | ⟨-, hd⟩
      · exact hc
      · exact h d hd
  | error e d =>
      obtain rfl := eq_of_serve_error hserve
      exact hc

/-! ## Calls that fail -/

/-- A call that fails changes nothing but the number of calls. -/
theorem data_of_error {call : Call α} {e : ClientError} (h : gateway.perform call c = .error e d) :
    d.data = c.data := by
  have h : perform call c = .error e d := h
  rw [perform_eq] at h
  split at h
  · cases h
    rfl
  · split at h
    · cases h
      rfl
    · cases hserve : serve call c with
      | ok a u =>
          rw [hserve] at h
          cases h
      | error e' u =>
          rw [hserve] at h
          cases h
          rw [eq_of_serve_error hserve]
          rfl

theorem data_of_refused {call : Call α} {a : α} (h : gateway.perform call c = .ok a d)
    (ha : accepts call a = false) : d.data = c.data := by
  obtain ⟨u, hserve, rfl⟩ := perform_eq_ok h
  rcases serve_eq_ok hserve with ⟨-, rfl⟩ | ⟨hyes, -⟩
  · rfl
  · rw [ha] at hyes
    cases hyes

theorem data_of_change_error {call : Call AdminResponse} {e : ClientError}
    (hcall : ∀ a, accepts call a = a.isSuccess) (h : gateway.change call c = .error e d) :
    d.data = c.data := by
  rcases change_eq_error h with h | ⟨a, h, ha⟩
  · exact data_of_error h
  · exact data_of_refused h ((hcall a).trans ha)

theorem data_of_changeCollection_error {call : Call CollectionResponse} {e : ClientError}
    (hcall : ∀ a, accepts call a = a.isSuccess) (h : gateway.changeCollection call c = .error e d) :
    d.data = c.data := by
  rcases changeCollection_eq_error h with h | ⟨a, h, ha⟩
  · exact data_of_error h
  · exact data_of_refused h ((hcall a).trans ha)

/-! ## What one call comes to -/

theorem exists_withCalls_of_data (h : d.data = c.data) : ∃ n, d = c.withCalls n :=
  ⟨d.calls, eq_withCalls h.symm⟩

theorem perform_withCalls_eq_ok {call : Call α} {a : α} {m : Nat}
    (h : perform call (c.withCalls m) = .ok a d) :
    ∃ u, serve call c = .ok a u ∧ d = u.withCalls (m + 1) := by
  obtain ⟨v, hserve, rfl⟩ := perform_eq_ok h
  rw [serve_withCalls] at hserve
  cases hc : serve call c with
  | ok b u =>
      rw [hc] at hserve
      cases hserve
      exact ⟨u, rfl, rfl⟩
  | error e u =>
      rw [hc] at hserve
      cases hserve

/-- A question fails, or it is answered. -/
theorem perform_cases {call : Call α} {a : α} (h : serve call c = .ok a c) (m : Nat) :
    (∃ e n, gateway.perform call (c.withCalls m) = .error e (c.withCalls n)) ∨
      c.Serves call.operation ∧ ∃ n, gateway.perform call (c.withCalls m) = .ok a (c.withCalls n) := by
  cases hrun : gateway.perform call (c.withCalls m) with
  | error e d =>
      obtain ⟨n, rfl⟩ := exists_withCalls_of_data ((data_of_error hrun).trans rfl)
      exact .inl ⟨e, n, rfl⟩
  | ok b d =>
      have hserves := serves_of_perform hrun
      obtain ⟨u, hserve, rfl⟩ := perform_withCalls_eq_ok hrun
      cases h.symm.trans hserve
      exact .inr ⟨hserves.of_data rfl, _, rfl⟩

/-- A change fails without effect, or it is made. -/
theorem change_cases {call : Call AdminResponse} (hcall : ∀ a, accepts call a = a.isSuccess) (c : Cluster)
    (m : Nat) :
    (∃ e n, gateway.change call (c.withCalls m) = .error e (c.withCalls n)) ∨
      ∃ d n, c.Becomes call d ∧ gateway.change call (c.withCalls m) = .ok () (d.withCalls n) := by
  cases hrun : gateway.change call (c.withCalls m) with
  | error e d =>
      obtain ⟨n, rfl⟩ := exists_withCalls_of_data ((data_of_change_error hcall hrun).trans rfl)
      exact .inl ⟨e, n, rfl⟩
  | ok _ d =>
      obtain ⟨a, hperform, ha⟩ := change_eq_ok hrun
      obtain ⟨u, hserve, rfl⟩ := perform_withCalls_eq_ok hperform
      exact .inr ⟨u, _, becomes_of_accepted hserve ((hcall a).trans ha), rfl⟩

theorem changeCollection_cases {call : Call CollectionResponse}
    (hcall : ∀ a, accepts call a = a.isSuccess) (c : Cluster) (m : Nat) :
    (∃ e n, gateway.changeCollection call (c.withCalls m) = .error e (c.withCalls n)) ∨
      ∃ d n, c.Becomes call d ∧
        gateway.changeCollection call (c.withCalls m) = .ok () (d.withCalls n) := by
  cases hrun : gateway.changeCollection call (c.withCalls m) with
  | error e d =>
      obtain ⟨n, rfl⟩ := exists_withCalls_of_data ((data_of_changeCollection_error hcall hrun).trans rfl)
      exact .inl ⟨e, n, rfl⟩
  | ok _ d =>
      obtain ⟨a, hperform, ha⟩ := changeCollection_eq_ok hrun
      obtain ⟨u, hserve, rfl⟩ := perform_withCalls_eq_ok hperform
      exact .inr ⟨u, _, becomes_of_accepted hserve ((hcall a).trans ha), rfl⟩

/-! ## Recovery -/

/-- The same cluster where no call is made to fail any more. -/
def recovered (c : Cluster) : Cluster := { c with failures := [] }

theorem data_recovered (h : d.data = c.data) : d.recovered.data = c.recovered.data := by
  rw [eq_withCalls h.symm]
  rfl

/-- What was served is served in the same way where nothing fails. -/
theorem persists_perform (call : Call α) : Persists recovered (perform call) := by
  intro c a d h
  have hserves : c.recovered.Serves call.operation := ⟨(serves_of_perform h).opened, rfl⟩
  obtain ⟨u, hserve, rfl⟩ := perform_eq_ok h
  rw [perform_of_serves hserves, show c.recovered = c.withAccount [] c.closed c.calls from rfl,
    serve_withAccount, hserve, account_of_serve hserve]
  rfl

/-! ## Calls that ask -/

/-- A call that only asks keeps whatever does not depend on the number of calls. -/
theorem keeps_asks {I : Cluster → Prop} (hcalls : ∀ c n, I c → I (c.withCalls n)) {call : Call α}
    (h : call.Asks) : Keeps I (perform call) := by
  refine keeps_perform hcalls fun c hc => stateAfter_serve hc fun d hd => ?_
  cases call with
  | collectionExists name => exact hd.elim
  | configExists name => exact hd.elim
  | listFields table => exact hd.elim
  | uniqueKey table => exact hd.elim
  | _ => cases h

/-- The schema that calls about a table read and change. -/
def served (c : Cluster) (table : String) : Option Schema :=
  (c.resolve? table).map fun collection => (c.schemaOfCollection? collection).getD .default

theorem served_of_data (h : d.data = c.data) (table : String) : d.served table = c.served table := by
  rw [eq_withCalls h.symm]
  rfl

theorem serve_listFields (table : String) (c : Cluster) : serve (.listFields table) c =
    match c.served table with
    | some s => .ok (s.toList.map Field.toProperties) c
    | none => .error (noCollection table) c := by
  rw [serve, onCollection, served]
  cases c.resolve? table <;> rfl

theorem serve_uniqueKey (table : String) (c : Cluster) : serve (.uniqueKey table) c =
    match c.served table with
    | some s => .ok s.uniqueKey c
    | none => .error (noCollection table) c := by
  rw [serve, onCollection, served]
  cases c.resolve? table <;> rfl

theorem perform_configExists (name : String) (h : c.Serves .configExists) :
    gateway.perform (.configExists name) c =
      .ok (c.configSets.contains name) (c.withCalls (c.calls + 1)) :=
  perform_of_serves h

theorem perform_listFields_iff {table : String} {fields : List Json.Object} :
    gateway.perform (.listFields table) c = .ok fields d ↔ c.Serves .listFields ∧
      ∃ s, c.served table = some s ∧ fields = s.toList.map Field.toProperties ∧
        d = c.withCalls (c.calls + 1) := by
  have hperform : c.Serves .listFields → gateway.perform (.listFields table) c =
      mapState (withCalls · (c.calls + 1)) (serve (.listFields table) c) := fun h => perform_of_serves h
  constructor
  · intro h
    have hserves : c.Serves .listFields := serves_of_perform h
    rw [hperform hserves, serve_listFields] at h
    cases hs : c.served table with
    | none =>
        rw [hs] at h
        cases h
    | some s =>
        rw [hs] at h
        cases h
        exact ⟨hserves, s, rfl, rfl, rfl⟩
  · rintro ⟨hserves, s, hs, rfl, rfl⟩
    rw [hperform hserves, serve_listFields, hs]
    rfl

theorem perform_uniqueKey {table : String} {s : Schema} (h : c.Serves .uniqueKey)
    (hs : c.served table = some s) :
    gateway.perform (.uniqueKey table) c = .ok s.uniqueKey (c.withCalls (c.calls + 1)) := by
  refine (perform_of_serves h).trans ?_
  rw [serve_uniqueKey, hs]
  rfl

/-! ## Changing a schema -/

theorem contains_of_resolve? {table collection : String} (h : c.resolve? table = some collection) :
    c.collections.contains collection = true := by
  rw [resolve?] at h
  split at h
  · next hthere =>
      cases h
      exact hthere
  · exact (Option.filter_eq_some_iff.mp h).2

theorem served_eq_some {table : String} {s : Schema} (h : c.served table = some s) :
    ∃ collection configSet, c.resolve? table = some collection ∧
      c.collections.get? collection = some configSet ∧
      s = (c.configSets.get? configSet).getD .default := by
  obtain ⟨collection, hres, rfl⟩ := Option.map_eq_some_iff.mp h
  obtain ⟨configSet, hset⟩ := SortedMap.contains_iff.mp (contains_of_resolve? hres)
  refine ⟨collection, configSet, hres, hset, ?_⟩
  simp [schemaOfCollection?, hset]

theorem setSchema?_eq_some {table : String} {s : Schema} (h : c.setSchema? table s = some d) :
    ∃ collection configSet, c.resolve? table = some collection ∧
      c.collections.get? collection = some configSet ∧
      d = { c with configSets := c.configSets.insert configSet s } := by
  obtain ⟨collection, hres, h⟩ := Option.bind_eq_some_iff.mp h
  obtain ⟨configSet, hset, hd⟩ := Option.bind_eq_some_iff.mp h
  exact ⟨collection, configSet, hres, hset, (Option.some.inj hd).symm⟩

/-- A table that is served at all can be given another schema. -/
theorem exists_setSchema? {table : String} {s : Schema} (h : c.served table = some s) (t : Schema) :
    ∃ d, c.setSchema? table t = some d := by
  obtain ⟨collection, configSet, hres, hset, -⟩ := served_eq_some h
  exact ⟨{ c with configSets := c.configSets.insert configSet t }, by simp [setSchema?, hres, hset]⟩

theorem schemaOf?_of_data (h : d.data = c.data) (table : String) : d.schemaOf? table = c.schemaOf? table := by
  rw [eq_withCalls h.symm]
  rfl

theorem served_of_schemaOf? {table : String} {s : Schema} (h : c.schemaOf? table = some s) :
    c.served table = some s := by
  obtain ⟨collection, hres, hschema⟩ := Option.bind_eq_some_iff.mp h
  simp [served, hres, hschema]

theorem schemaOf?_setSchema? {table : String} {s : Schema} (h : c.setSchema? table s = some d) :
    d.schemaOf? table = some s := by
  obtain ⟨collection, configSet, hres, hset, rfl⟩ := setSchema?_eq_some h
  have hres' : ({ c with configSets := c.configSets.insert configSet s } : Cluster).resolve? table =
      some collection := hres
  simp [schemaOf?, hres', schemaOfCollection?, hset, SortedMap.get?_insert]

theorem served_setSchema? {table : String} {s : Schema} (h : c.setSchema? table s = some d) :
    d.served table = some s :=
  served_of_schemaOf? (schemaOf?_setSchema? h)

theorem serve_submitSchemaUpdates {table : String} {s t : Schema} {updates : List SchemaUpdate}
    (hs : c.served table = some s) (ht : applyUpdates s updates = .ok t)
    (hd : c.setSchema? table t = some d) : serve (.submitSchemaUpdates table updates) c = .ok {} d := by
  obtain ⟨collection, configSet, hres, hset, rfl⟩ := setSchema?_eq_some hd
  obtain ⟨collection', configSet', hres', hset', rfl⟩ := served_eq_some hs
  obtain rfl : collection = collection' := Option.some.inj (hres.symm.trans hres')
  obtain rfl : configSet = configSet' := Option.some.inj (hset.symm.trans hset')
  simp only [serve, onCollection, hres, submitUpdates, hset, ht]

theorem serve_submitSchemaUpdates_error {table message : String} {s : Schema}
    {updates : List SchemaUpdate} (hs : c.served table = some s)
    (ht : applyUpdates s updates = .error message) :
    serve (.submitSchemaUpdates table updates) c = .ok (.rejected 400 message) c := by
  obtain ⟨collection, configSet, hres, hset, rfl⟩ := served_eq_some hs
  simp only [serve, onCollection, hres, submitUpdates, hset, ht]

theorem change_submit {table : String} {s t : Schema} {updates : List SchemaUpdate}
    (hc : c.Serves .submitSchemaUpdates) (hs : c.served table = some s)
    (ht : applyUpdates s updates = .ok t) (hd : c.setSchema? table t = some d) :
    gateway.change (.submitSchemaUpdates table updates) c = .ok () (d.withCalls (c.calls + 1)) := by
  have hperform : gateway.perform (.submitSchemaUpdates table updates) c =
      .ok {} (d.withCalls (c.calls + 1)) := by
    refine (perform_of_serves hc).trans ?_
    rw [serve_submitSchemaUpdates hs ht hd]
    rfl
  exact bind_of_ok hperform

theorem change_submit_eq_ok {table : String} {updates : List SchemaUpdate}
    (h : gateway.change (.submitSchemaUpdates table updates) c = .ok () d) :
    c.Serves .submitSchemaUpdates ∧ ∃ s t e, c.served table = some s ∧ applyUpdates s updates = .ok t ∧
      c.setSchema? table t = some e ∧ d = e.withCalls (c.calls + 1) := by
  obtain ⟨a, hperform, ha⟩ := change_eq_ok h
  obtain ⟨u, hserve, rfl⟩ := perform_eq_ok hperform
  obtain ⟨collection, configSet, t, hres, hset, happly, rfl⟩ := becomes_of_accepted hserve ha
  refine ⟨serves_of_perform hperform, _, t, _, ?_, happly, ?_, rfl⟩
  · simp [served, hres, schemaOfCollection?, hset]
  · simp [setSchema?, hres, hset]

theorem change_submit_error {table message : String} {s : Schema} {updates : List SchemaUpdate}
    (hc : c.Serves .submitSchemaUpdates) (hs : c.served table = some s)
    (ht : applyUpdates s updates = .error message) :
    ∃ e, gateway.change (.submitSchemaUpdates table updates) c =
      .error e (c.withCalls (c.calls + 1)) := by
  have hperform : gateway.perform (.submitSchemaUpdates table updates) c =
      .ok (.rejected 400 message) (c.withCalls (c.calls + 1)) := by
    refine (perform_of_serves hc).trans ?_
    rw [serve_submitSchemaUpdates_error hs ht]
    rfl
  exact ⟨_, bind_of_ok hperform⟩

/-- What a change of a table's schema to `s` leaves: a cluster into which `s` was written, or one that is as
it was, since it served `s` before. -/
inductive Rewritten (table : String) (s : Schema) (c : Cluster) : Cluster → Prop where
  | written {d e : Cluster} : c.setSchema? table s = some d → e.data = d.data → Rewritten table s c e
  | untouched {e : Cluster} : c.served table = some s → e.data = c.data → Rewritten table s c e

namespace Rewritten

variable {table : String} {s : Schema}

theorem served (h : Rewritten table s c d) : d.served table = some s := by
  cases h with
  | written hset hd => exact (served_of_data hd table).trans (served_setSchema? hset)
  | untouched hs hd => exact (served_of_data hd table).trans hs

theorem failures (h : Rewritten table s c d) : d.failures = c.failures := by
  cases h with
  | written hset hd =>
      obtain ⟨_, _, _, _, rfl⟩ := setSchema?_eq_some hset
      exact congrArg (·.failures) hd
  | untouched hs hd => exact congrArg (·.failures) hd

theorem closed (h : Rewritten table s c d) : d.closed = c.closed := by
  cases h with
  | written hset hd =>
      obtain ⟨_, _, _, _, rfl⟩ := setSchema?_eq_some hset
      exact congrArg (·.closed) hd
  | untouched hs hd => exact congrArg (·.closed) hd

theorem naming (h : Rewritten table s c d) : d.naming = c.naming := by
  cases h with
  | written hset hd =>
      obtain ⟨_, _, _, _, rfl⟩ := setSchema?_eq_some hset
      exact congrArg (·.naming) hd
  | untouched hs hd => exact congrArg (·.naming) hd

theorem collections (h : Rewritten table s c d) : d.collections = c.collections := by
  cases h with
  | written hset hd =>
      obtain ⟨_, _, _, _, rfl⟩ := setSchema?_eq_some hset
      exact congrArg (·.collections) hd
  | untouched hs hd => exact congrArg (·.collections) hd

theorem configSets (h : Rewritten table s c d) (name : String) :
    d.configSets.get? name = c.configSets.get? name ∨ d.configSets.get? name = some s := by
  cases h with
  | written hset hd =>
      obtain ⟨_, configSet, _, _, rfl⟩ := setSchema?_eq_some hset
      have hd : d.configSets = c.configSets.insert configSet s := congrArg (·.configSets) hd
      rw [hd, SortedMap.get?_insert]
      split
      · exact .inr rfl
      · exact .inl rfl
  | untouched hs hd =>
      have hd : d.configSets = c.configSets := congrArg (·.configSets) hd
      exact .inl (by rw [hd])

theorem contains_configSets (h : Rewritten table s c d) {name : String}
    (hn : c.configSets.contains name = true) : d.configSets.contains name = true := by
  obtain ⟨t, ht⟩ := SortedMap.contains_iff.mp hn
  rcases h.configSets name with hsame | hs
  · exact SortedMap.contains_iff.mpr ⟨t, hsame.trans ht⟩
  · exact SortedMap.contains_iff.mpr ⟨s, hs⟩

theorem serves (h : Rewritten table s c d) {op : Operation} (hc : c.Serves op) : d.Serves op := by
  refine ⟨h.closed.trans hc.opened, ?_⟩
  rw [failure?, h.failures]
  exact hc.succeeds

end Rewritten

/-! ## Writing documents -/

/-- What stays as it is when only documents change. -/
structure SameLayout (c d : Cluster) : Prop where
  naming : d.naming = c.naming
  configSets : d.configSets = c.configSets
  collections : d.collections = c.collections
  failures : d.failures = c.failures
  closed : d.closed = c.closed

theorem SameLayout.refl (c : Cluster) : c.SameLayout c := ⟨rfl, rfl, rfl, rfl, rfl⟩

theorem SameLayout.of_data (h : d.data = c.data) : c.SameLayout d :=
  ⟨congrArg (·.naming) h, congrArg (·.configSets) h, congrArg (·.collections) h,
    congrArg (·.failures) h, congrArg (·.closed) h⟩

theorem SameLayout.withCalls (h : c.SameLayout d) (n : Nat) : c.SameLayout (d.withCalls n) :=
  ⟨h.naming, h.configSets, h.collections, h.failures, h.closed⟩

/-- Calls about documents change nothing else. -/
theorem keeps_writes (c : Cluster) {table : String} {call : Call α} (h : call.Writes table) :
    Keeps (SameLayout c) (perform call) := by
  refine keeps_perform (fun _ n h => h.withCalls n) fun d hd => stateAfter_serve hd fun e he => ?_
  cases call with
  | addDocuments table docs =>
      obtain ⟨collection, staged, -, -, rfl⟩ := he
      exact ⟨hd.1, hd.2, hd.3, hd.4, hd.5⟩
  | deleteByIds table ids =>
      obtain ⟨collection, -, rfl⟩ := he
      exact ⟨hd.1, hd.2, hd.3, hd.4, hd.5⟩
  | deleteByQuery table query =>
      obtain ⟨collection, q, -, -, rfl⟩ := he
      exact ⟨hd.1, hd.2, hd.3, hd.4, hd.5⟩
  | commit table =>
      obtain ⟨collection, -, rfl⟩ := he
      exact ⟨hd.1, hd.2, hd.3, hd.4, hd.5⟩
  | _ => cases h

/-! ## Creating -/

/-- What creating the collection `q` on its own config-set may add to a cluster: that config-set, as a copy
of another one, and that collection. -/
structure Extends (q : String) (c d : Cluster) : Prop where
  naming : d.naming = c.naming
  failures : d.failures = c.failures
  closed : d.closed = c.closed
  configSets : ∀ name, d.configSets.get? name = c.configSets.get? name ∨
    name = q ∧ c.configSets.get? q = none ∧
      ∃ base s, c.configSets.get? base = some s ∧ d.configSets.get? q = some s
  collections : ∀ name, d.collections.get? name = c.collections.get? name ∨
    name = q ∧ c.collections.get? q = none ∧ d.collections.get? q = some q ∧
      d.configSets.contains q = true

theorem SameLayout.extends {q : String} (h : c.SameLayout d) : Extends q c d :=
  ⟨h.naming, h.failures, h.closed, fun name => .inl (by rw [h.configSets]),
    fun name => .inl (by rw [h.collections])⟩

theorem Extends.of_data {e : Cluster} {q : String} (h : Extends q c d) (he : e.data = d.data) :
    Extends q c e := by
  rw [eq_withCalls he.symm]
  exact ⟨h.naming, h.failures, h.closed, h.configSets, h.collections⟩

theorem Extends.createConfig {e : Cluster} {base q : String} (h : Extends q c d)
    (he : d.Becomes (.createConfig base q) e) : Extends q c e := by
  obtain ⟨hq, s, hb, rfl⟩ := he
  have hnone : d.configSets.get? q = none := SortedMap.contains_eq_false_iff.mp hq
  have hc : c.configSets.get? q = none := by
    rcases h.configSets q with hsame | ⟨-, hno, -⟩
    · exact hsame.symm.trans hnone
    · exact hno
  have hbase : c.configSets.get? base = some s := by
    rcases h.configSets base with hsame | ⟨rfl, -, _, _, -, hs⟩
    · exact hsame.symm.trans hb
    · rw [hnone] at hs
      cases hs
  refine ⟨h.naming, h.failures, h.closed, fun name => ?_, fun name => ?_⟩
  · by_cases hn : q = name
    · refine .inr ⟨hn.symm, hc, base, s, hbase, ?_⟩
      simp [SortedMap.get?_insert]
    · refine (h.configSets name).imp (fun hsame => ?_) fun hnew => absurd hnew.1.symm hn
      simpa [SortedMap.get?_insert, hn] using hsame
  · refine (h.collections name).imp id fun ⟨hn, hno, hset, _⟩ => ⟨hn, hno, hset, ?_⟩
    simp [SortedMap.contains_insert]

theorem Extends.createCollection {e : Cluster} {q : String} {shards replicas : Nat} (h : Extends q c d)
    (he : d.Becomes (.createCollection q q shards replicas) e) : Extends q c e := by
  obtain ⟨hq, hset, -, rfl⟩ := he
  have hc : c.collections.get? q = none := by
    rcases h.collections q with hsame | ⟨-, hno, -⟩
    · exact hsame.symm.trans (SortedMap.contains_eq_false_iff.mp hq)
    · exact hno
  refine ⟨h.naming, h.failures, h.closed, h.configSets, fun name => ?_⟩
  by_cases hn : q = name
  · refine .inr ⟨hn.symm, hc, ?_, hset⟩
    simp [SortedMap.get?_insert]
  · refine (h.collections name).imp (fun hsame => ?_) fun hnew => absurd hnew.1.symm hn
    simpa [SortedMap.get?_insert, hn] using hsame

theorem keeps_creates (c : Cluster) {q : String} {call : Call α} (h : call.Creates q) :
    Keeps (Extends q c) (perform call) := by
  refine keeps_perform (fun _ _ h => h.of_data rfl) fun d hd => stateAfter_serve hd fun e he => ?_
  cases call with
  | createConfig base name =>
      obtain rfl : name = q := h
      exact hd.createConfig he
  | createCollection name configSet shards replicas =>
      obtain ⟨rfl, rfl⟩ : name = q ∧ configSet = q := h
      exact hd.createCollection he
  | _ => cases h

theorem change_createConfig {base q : String} {s : Schema} (h : c.Serves .createConfig)
    (hq : c.configSets.contains q = false) (hbase : c.configSets.get? base = some s) :
    gateway.change (.createConfig base q) c =
      .ok () { c with configSets := c.configSets.insert q s, calls := c.calls + 1 } := by
  have hperform : gateway.perform (.createConfig base q) c = _ := perform_of_serves h
  simp only [serve, createConfig, hq, hbase, Bool.false_eq_true, ↓reduceIte, mapState] at hperform
  exact bind_of_ok hperform

theorem change_createCollection {q : String} {shards replicas : Nat} (h : c.Serves .createCollection)
    (hq : c.collections.contains q = false) (hset : c.configSets.contains q = true)
    (hshards : shards ≠ 0) (hreplicas : replicas ≠ 0) :
    gateway.changeCollection (.createCollection q q shards replicas) c =
      .ok () { c with collections := c.collections.insert q q, calls := c.calls + 1 } := by
  have hperform : gateway.perform (.createCollection q q shards replicas) c = _ := perform_of_serves h
  simp only [serve, createCollection, hq, hset, hshards, hreplicas, Bool.not_true, Bool.false_eq_true,
    or_self, ↓reduceIte, mapState] at hperform
  exact bind_of_ok hperform

/-! ## Deleting -/

theorem perform_collectionExists (name : String) (h : c.Serves .collectionExists) :
    gateway.perform (.collectionExists name) c =
      .ok (c.collections.contains name) (c.withCalls (c.calls + 1)) :=
  perform_of_serves h

theorem change_deleteCollection {q : String} (h : c.Serves .deleteCollection)
    (hq : c.collections.contains q = true) :
    gateway.changeCollection (.deleteCollection q) c = .ok ()
      { c with
        collections := c.collections.erase q
        pending := c.pending.erase q
        pendingDeletes := c.pendingDeletes.erase q
        committed := c.committed.erase q
        calls := c.calls + 1 } := by
  have hperform : gateway.perform (.deleteCollection q) c = _ := perform_of_serves h
  simp only [serve, deleteCollection, hq, ↓reduceIte, mapState] at hperform
  exact bind_of_ok hperform

theorem change_deleteConfig {q : String} (h : c.Serves .deleteConfig)
    (hunused : c.collections.values.contains q = false) (hq : c.configSets.contains q = true) :
    gateway.change (.deleteConfig q) c =
      .ok () { c with configSets := c.configSets.erase q, calls := c.calls + 1 } := by
  have hperform : gateway.perform (.deleteConfig q) c = _ := perform_of_serves h
  simp only [serve, deleteConfig, hunused, hq, Bool.false_eq_true, ↓reduceIte, mapState] at hperform
  exact bind_of_ok hperform

end Cluster

end TableIndex
