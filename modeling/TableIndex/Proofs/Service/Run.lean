import TableIndex.Proofs.Cluster.Programs
import TableIndex.Proofs.Schema.Reconcile
import TableIndex.Service.Basic

/-!
# Runs of a service

A run is a list of calls, each answered in the state that the calls before it left. On a cluster in memory
connecting never fails, so every call acts on the cluster as it is once it is open.
-/

namespace TableIndex

/-- An operation of a service and its arguments. -/
inductive ServiceCall where
  | create (config : CollectionConfig)
  | ensure (config : CollectionConfig)
  | delete (table : String)
  | collectionExists (table : String)
  | configSetExists (table : String)
  | getSchema (table : String)
  | updateSchema (table : String) (desired : Schema) (merge : Bool)
  | invalidate (table : String)
  | index (table : String) (docs : List Document)
  | deleteIds (table : String) (ids : List String)
  | deleteQuery (table query : String)
  | destroy

/-- What an operation gives. -/
inductive ServiceAnswer where
  | created (result : Except CreateError CreateOutcome)
  | ensured (result : Except EnsureError CreateOutcome)
  | deleted (result : Except DeleteError DeleteOutcome)
  | found (result : Except ClientError Bool)
  | schema (result : Except GetSchemaError Schema)
  | updated (result : Except UpdateSchemaError Unit)
  | invalidated
  | written (result : Except DocumentError Unit)
  | destroyed (result : Except ClientError Unit)

/-- Equality of answers; schemas are compared up to order. -/
def ServiceAnswer.Same : ServiceAnswer → ServiceAnswer → Prop
  | .schema (.ok s), .schema (.ok t) => s.same t = true
  | a, b => a = b

namespace Service

variable {σ η ε ε' α β : Type}

/-- A result as an answer, and the state it leaves. -/
def tell (answer : Except ε α → ServiceAnswer) :
    EStateM.Result ε (ServiceState σ η) α → ServiceAnswer × ServiceState σ η
  | .ok a st => (answer (.ok a), st)
  | .error e st => (answer (.error e), st)

/-- The answer to one call, and the state it leaves. -/
def answer (s : Service σ η) (call : ServiceCall) (st : ServiceState σ η) :
    ServiceAnswer × ServiceState σ η :=
  match call with
  | .create config => tell .created (s.create config st)
  | .ensure config => tell .ensured (s.ensure config st)
  | .delete table => tell .deleted (s.delete table st)
  | .collectionExists table => tell .found (s.collectionExists table st)
  | .configSetExists table => tell .found (s.configSetExists table st)
  | .getSchema table => tell .schema (s.getSchema table st)
  | .updateSchema table desired merge => tell .updated (s.updateSchema table desired merge st)
  | .invalidate table => tell (ε := ClientError) (fun _ => .invalidated) (s.invalidate table st)
  | .index table docs => tell .written (s.index table docs st)
  | .deleteIds table ids => tell .written (s.deleteIds table ids st)
  | .deleteQuery table query => tell .written (s.deleteQuery table query st)
  | .destroy => tell .destroyed (s.destroy st)

/-- The answers to calls made one after the other, and the state they leave. -/
def run (s : Service σ η) : List ServiceCall → ServiceState σ η → List ServiceAnswer × ServiceState σ η
  | [], st => ([], st)
  | call :: calls, st =>
    let (a, st) := s.answer call st
    let (as, st) := s.run calls st
    (a :: as, st)

theorem run_cons (s : Service σ η) (call : ServiceCall) (calls : List ServiceCall)
    (st : ServiceState σ η) : s.run (call :: calls) st =
      ((s.answer call st).1 :: (s.run calls (s.answer call st).2).1,
        (s.run calls (s.answer call st).2).2) := rfl

/-! ## Acting on the cache and the cluster -/

section Acting

variable {act : EStateM ε (Cached σ) α} {st st' : ServiceState σ η} {a : α} {e : ε} {c : Cached σ}

theorem onCached_of_ok (h : act ⟨st.cache, st.remote⟩ = .ok a c) :
    onCached act st = .ok a { st with cache := c.cache, remote := c.remote } := by
  rw [onCached, h]

theorem onCached_of_error (h : act ⟨st.cache, st.remote⟩ = .error e c) :
    onCached act st = .error e { st with cache := c.cache, remote := c.remote } := by
  rw [onCached, h]

theorem onCached_eq_ok (h : onCached act st = .ok a st') :
    act ⟨st.cache, st.remote⟩ = .ok a ⟨st'.cache, st'.remote⟩ ∧ st'.handle = st.handle := by
  cases hact : act ⟨st.cache, st.remote⟩ with
  | error e c => cases (onCached_of_error hact).symm.trans h
  | ok a c =>
      cases (onCached_of_ok hact).symm.trans h
      exact ⟨rfl, rfl⟩

theorem onCached_eq_error (h : onCached act st = .error e st') :
    act ⟨st.cache, st.remote⟩ = .error e ⟨st'.cache, st'.remote⟩ ∧ st'.handle = st.handle := by
  cases hact : act ⟨st.cache, st.remote⟩ with
  | ok a c => cases (onCached_of_ok hact).symm.trans h
  | error e c =>
      cases (onCached_of_error hact).symm.trans h
      exact ⟨rfl, rfl⟩

theorem onCached_bind (act : EStateM ε (Cached σ) α) (k : α → EStateM ε (Cached σ) β)
    (st : ServiceState σ η) : onCached (act >>= k) st = (onCached act >>= fun a => onCached (k a)) st := by
  cases hact : act ⟨st.cache, st.remote⟩ with
  | ok a c => rw [onCached, bind_of_ok hact, bind_of_ok (onCached_of_ok hact), onCached]
  | error e c => rw [onCached, bind_of_error hact, bind_of_error (onCached_of_error hact)]

theorem onCached_adaptExcept (f : ε → ε') (act : EStateM ε (Cached σ) α) (st : ServiceState σ η) :
    onCached (EStateM.adaptExcept f act) st = EStateM.adaptExcept f (onCached act) st := by
  rw [onCached, EStateM.adaptExcept, EStateM.adaptExcept, onCached]
  cases act ⟨st.cache, st.remote⟩ <;> rfl

theorem stateAfter_onCached (act : EStateM ε (Cached σ) α) (st : ServiceState σ η) :
    stateAfter (onCached act st) =
      { st with
        cache := (stateAfter (act ⟨st.cache, st.remote⟩)).cache
        remote := (stateAfter (act ⟨st.cache, st.remote⟩)).remote } := by
  rw [onCached]
  cases act ⟨st.cache, st.remote⟩ <;> rfl

theorem snd_tell (f : Except ε α → ServiceAnswer) (r : EStateM.Result ε (ServiceState σ η) α) :
    (tell f r).2 = stateAfter r := by
  cases r <;> rfl

end Acting

end Service

/-! ## Clusters of built schemas -/

namespace Cluster

variable {c d : Cluster}

/-- The schemas of all config-sets were built by the operations on schemas. -/
def SchemasBuilt (c : Cluster) : Prop := ∀ name s, c.configSets.get? name = some s → s.Built

theorem SchemasBuilt.served {table : String} {s : Schema} (h : c.SchemasBuilt)
    (hs : c.served table = some s) : s.Built := by
  obtain ⟨collection, configSet, -, -, rfl⟩ := served_eq_some hs
  cases hset : c.configSets.get? configSet with
  | none => exact .default
  | some s => exact h configSet s hset

theorem SchemasBuilt.extends {q : String} (h : c.SchemasBuilt) (hd : Extends q c d) : d.SchemasBuilt := by
  intro name s hs
  rcases hd.configSets name with hsame | ⟨rfl, -, base, t, hbase, ht⟩
  · exact h name s (hsame.symm.trans hs)
  · obtain rfl : s = t := Option.some.inj (hs.symm.trans ht)
    exact h base s hbase

end Cluster

/-! ## On a cluster in memory -/

namespace Service

variable {ε α : Type}

/-- A service of the cluster in memory. -/
def inMemory (naming : NamingPolicy) (baseConfigSet : String) : Service Cluster Unit :=
  ⟨naming, baseConfigSet, Cluster.connector⟩

/-- The state once the service is connected. -/
def opened (st : ServiceState Cluster Unit) : ServiceState Cluster Unit :=
  { st with
    handle := some ()
    remote := if st.handle.isSome then st.remote else st.remote.reopen }

theorem opened_of_handle {st : ServiceState Cluster Unit} (h : st.handle = some ()) :
    opened st = st := by
  obtain ⟨handle, cache, remote⟩ := st
  cases h
  rfl

theorem remote_opened (st : ServiceState Cluster Unit) :
    (opened st).remote = { st.remote with closed := (opened st).remote.closed } := by
  simp only [opened]
  split <;> rfl

variable {naming : NamingPolicy} {base table : String} {st : ServiceState Cluster Unit}

theorem client_run (naming : NamingPolicy) (base : String) (st : ServiceState Cluster Unit) :
    (inMemory naming base).client st = .ok () (opened st) := by
  obtain ⟨handle, cache, remote⟩ := st
  cases handle <;> rfl

theorem client_bind (describe : ConnectError → ε)
    (k : Unit → EStateM ε (ServiceState Cluster Unit) α) (st : ServiceState Cluster Unit) :
    ((inMemory naming base).client.adaptExcept describe >>= k) st = k () (opened st) :=
  bind_of_ok (adaptExcept_of_ok (client_run naming base st))

theorem create_run (config : CollectionConfig) :
    (inMemory naming base).create config st =
      onRemote (Provisioner.create ⟨naming, base⟩ Cluster.gateway config) (opened st) :=
  client_bind ..

theorem delete_run :
    (inMemory naming base).delete table st =
      onCached (Provisioner.delete ⟨naming, base⟩ Cluster.gateway table) (opened st) :=
  client_bind ..

theorem getSchema_run :
    (inMemory naming base).getSchema table st =
      onCached (Schema.get naming Cluster.gateway table) (opened st) :=
  client_bind ..

theorem updateSchema_run (desired : Schema) (merge : Bool) :
    (inMemory naming base).updateSchema table desired merge st =
      onCached (Schema.update naming Cluster.gateway table desired merge) (opened st) :=
  client_bind ..

/-! ## What a call acts on -/

/-- The cache, and the cluster as a call finds it. -/
def seen (st : ServiceState Cluster Unit) : Cached Cluster := ⟨(opened st).cache, (opened st).remote⟩

theorem seen_onCached (act : EStateM ε (Cached Cluster) α) (st : ServiceState Cluster Unit) :
    seen (stateAfter (onCached act (opened st))) = stateAfter (act (seen st)) := by
  rw [stateAfter_onCached]
  rfl

theorem seen_onRemote (act : EStateM ε Cluster α) (st : ServiceState Cluster Unit) :
    seen (stateAfter (onRemote act (opened st))) = ⟨st.cache, stateAfter (act (seen st).remote)⟩ := by
  rw [onRemote, seen_onCached, stateAfter_onRemote]
  rfl

/-- Connecting changes nothing but whether the cluster is closed. -/
theorem remote_seen (st : ServiceState Cluster Unit) : (seen st).remote =
    st.remote.withAccount st.remote.failures (seen st).remote.closed st.remote.calls := remote_opened st

theorem served_seen (st : ServiceState Cluster Unit) (table : String) :
    (seen st).remote.served table = st.remote.served table := by
  rw [remote_seen]
  rfl

end Service

end TableIndex
