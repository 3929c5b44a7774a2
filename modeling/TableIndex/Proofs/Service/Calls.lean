import TableIndex.Proofs.Service.Run

/-!
# The calls that operations make

An operation of a service is about one table. It asks the cluster, creates or deletes what is named like the
table qualified by the service, and changes the schema or the documents of what the cluster resolves the name of
the table to.
-/

namespace TableIndex

namespace ServiceCall

/-- The table that an operation is about. -/
def table? : ServiceCall → Option String
  | create config => some config.collectionName
  | ensure config => some config.collectionName
  | delete table => some table
  | collectionExists table => some table
  | configSetExists table => some table
  | getSchema table => some table
  | updateSchema table _ _ => some table
  | invalidate table => some table
  | index table _ => some table
  | deleteIds table _ => some table
  | deleteQuery table _ => some table
  | destroy => none

/-- Whether an operation may change a schema or documents. -/
def alters : ServiceCall → Bool
  | ensure config => config.schema.isSome
  | updateSchema _ _ _ => true
  | index _ _ => true
  | deleteIds _ _ => true
  | deleteQuery _ _ => true
  | _ => false

/-- The calls that an operation of a service of the naming policy `p` may make. -/
inductive Makes (p : NamingPolicy) (call : ServiceCall) {α : Type} (k : Call α) : Prop where
  | asks : k.Asks → Makes p call k
  | creates {table q : String} :
    call.table? = some table → p.qualify table = some q → k.Creates q → Makes p call k
  | deletes {table q : String} :
    call.table? = some table → p.qualify table = some q → k.Deletes q → Makes p call k
  | revises {table : String} :
    call.table? = some table → call.alters = true → k.Revises table → Makes p call k
  | writes {table : String} :
    call.table? = some table → call.alters = true → k.Writes table → Makes p call k

end ServiceCall

namespace Service

variable {ε α : Type} {naming : NamingPolicy} {base table : String} {call : ServiceCall}
  {I : Cluster → Prop} {J : SchemaCache → Prop}

theorem keeps_onCached {act : EStateM ε (Cached Cluster) α}
    (h : Keeps (fun s => I s.remote ∧ J s.cache) act) :
    Keeps (fun st : ServiceState Cluster Unit => I st.remote ∧ J st.cache) (onCached act) := by
  intro st hst
  rw [stateAfter_onCached]
  exact h ⟨st.cache, st.remote⟩ hst

theorem keeps_onRemote {act : EStateM ε Cluster α} (h : Keeps I act) :
    Keeps (fun st : ServiceState Cluster Unit => I st.remote ∧ J st.cache) (onRemote act) :=
  keeps_onCached (h.onRemote J)

/-- What holds of the cluster is kept by every call that an operation makes, and what holds of the cache does
not depend on the cached schema of its table. -/
structure Preserves (naming : NamingPolicy) (call : ServiceCall) (I : Cluster → Prop)
    (J : SchemaCache → Prop) : Prop where
  account : ∀ c failures closed calls, I c → I (c.withAccount failures closed calls)
  calls : ∀ {α : Type} (k : Call α), call.Makes naming k → Keeps I (Cluster.perform k)
  insert : ∀ {table q}, call.table? = some table → naming.qualify table = some q →
    ∀ cache schema, J cache → J (cache.insert q schema)
  remove : ∀ {table q}, call.table? = some table → naming.qualify table = some q →
    ∀ cache, J cache → J (cache.remove q)

namespace Preserves

theorem asks (h : Preserves naming call I J) {k : Call α} (hk : k.Asks) :
    Keeps I (Cluster.gateway.perform k) := h.calls k (.asks hk)

theorem put (h : Preserves naming call I J) (ht : call.table? = some table) (q : String)
    (hq : naming.qualify table = some q) (schema : Schema) :
    Keeps (fun s : Cached Cluster => I s.remote ∧ J s.cache) (Cached.put (ε := ε) q schema) := fun s hs =>
  ⟨hs.1, h.insert ht hq s.cache schema hs.2⟩

theorem forget (h : Preserves naming call I J) (ht : call.table? = some table) (q : String)
    (hq : naming.qualify table = some q) :
    Keeps (fun s : Cached Cluster => I s.remote ∧ J s.cache) (Cached.forget (ε := ε) q) := fun s hs =>
  ⟨hs.1, h.remove ht hq s.cache hs.2⟩

theorem client (h : Preserves naming call I J) (base : String) (f : ConnectError → ε) :
    Keeps (fun st => I st.remote ∧ J st.cache) ((inMemory naming base).client.adaptExcept f) := by
  refine .adaptExcept f fun st hst => ?_
  rw [client_run]
  refine ⟨?_, hst.2⟩
  show I (opened st).remote
  rw [remote_opened]
  exact h.account _ _ _ _ hst.1

theorem acting (h : Preserves naming call I J) (base : String) (f : ConnectError → ε)
    {act : EStateM ε Cluster α} (hact : Keeps I act) :
    Keeps (fun st => I st.remote ∧ J st.cache)
      ((inMemory naming base).client.adaptExcept f >>= fun _ => onRemote act) :=
  .bind (h.client base f) fun _ => keeps_onRemote hact

theorem create (h : Preserves naming call I J) (base : String) {config : CollectionConfig}
    (ht : call.table? = some config.collectionName) :
    Keeps (fun st => I st.remote ∧ J st.cache) ((inMemory naming base).create config) :=
  h.acting base _ <| Keeps.compositional.create (fun _ hk => h.asks hk) fun _ hq _ _ hk =>
    h.calls _ (.creates ht hq hk)

theorem delete (h : Preserves naming call I J) (base : String) (ht : call.table? = some table) :
    Keeps (fun st => I st.remote ∧ J st.cache) ((inMemory naming base).delete table) :=
  .bind (h.client base _) fun _ => keeps_onCached <|
    (Keeps.compositional (I := I)).delete Keeps.compositional (.onRemote J) (fun _ hk => h.asks hk)
      (fun _ hq _ _ hk => h.calls _ (.deletes ht hq hk)) fun q hq => h.forget ht q hq

theorem getSchema (h : Preserves naming call I J) (base : String) (ht : call.table? = some table) :
    Keeps (fun st => I st.remote ∧ J st.cache) ((inMemory naming base).getSchema table) :=
  .bind (h.client base _) fun _ => keeps_onCached <|
    (Keeps.compositional (I := I)).get Keeps.compositional (.onRemote J) (fun _ hk => h.asks hk)
      (fun _ _ _ hs => hs) fun q hq schema => h.put ht q hq schema

theorem updateSchema (h : Preserves naming call I J) (base : String) (ht : call.table? = some table)
    (ha : call.alters = true) (desired : Schema) (merge : Bool) :
    Keeps (fun st => I st.remote ∧ J st.cache)
      ((inMemory naming base).updateSchema table desired merge) :=
  .bind (h.client base _) fun _ => keeps_onCached <|
    (Keeps.compositional (I := I)).update Keeps.compositional (.onRemote J) (fun _ hk => h.asks hk)
      (fun k hk => h.calls k (.revises ht ha hk)) (fun _ _ _ hs => hs)
      (fun q hq schema => h.put ht q hq schema) desired merge

theorem ensure (h : Preserves naming call I J) (base : String) {config : CollectionConfig}
    (ht : call.table? = some config.collectionName) (ha : config.schema.isSome → call.alters = true) :
    Keeps (fun st => I st.remote ∧ J st.cache) ((inMemory naming base).ensure config) := by
  refine .bind (.adaptExcept _ (h.create base ht)) fun outcome => ?_
  cases hschema : config.schema with
  | none => exact .pure outcome
  | some desired =>
      have ha : call.alters = true := ha (by rw [hschema]; rfl)
      exact .bind (.adaptExcept _ (h.updateSchema base ht ha desired true)) fun _ => .pure outcome

theorem invalidate (h : Preserves naming call I J) (base : String) (ht : call.table? = some table) :
    Keeps (fun st => I st.remote ∧ J st.cache) ((inMemory naming base).invalidate (ε := ε) table) := by
  intro st hst
  rw [Service.invalidate, show (inMemory naming base).naming = naming from rfl]
  cases hq : naming.qualify table with
  | none => exact hst
  | some q => exact keeps_onCached (h.forget ht q hq) st hst

theorem destroy (h : Preserves naming call I J) (base : String) :
    Keeps (fun st => I st.remote ∧ J st.cache) (inMemory naming base).destroy := by
  intro st hst
  rw [Service.destroy]
  cases hh : st.handle with
  | none => exact hst
  | some u =>
      have hclose : Keeps I Cluster.gateway.close := fun c hc => h.account c c.failures true c.calls hc
      exact keeps_onRemote hclose { st with handle := none } hst

/-- What the calls and the cache steps of an operation keep, the operation keeps. -/
theorem answer (h : Preserves naming call I J) (base : String) {st : ServiceState Cluster Unit}
    (hst : I st.remote ∧ J st.cache) :
    I ((inMemory naming base).answer call st).2.remote ∧
      J ((inMemory naming base).answer call st).2.cache := by
  cases call with
  | create config =>
      rw [Service.answer, snd_tell]
      exact h.create base rfl st hst
  | ensure config =>
      rw [Service.answer, snd_tell]
      exact h.ensure base rfl id st hst
  | delete table =>
      rw [Service.answer, snd_tell]
      exact h.delete base rfl st hst
  | collectionExists table =>
      rw [Service.answer, snd_tell]
      exact h.acting base _ (Keeps.compositional.collectionExists _ table fun _ hk => h.asks hk) st hst
  | configSetExists table =>
      rw [Service.answer, snd_tell]
      exact h.acting base _ (Keeps.compositional.configSetExists _ table fun _ hk => h.asks hk) st hst
  | getSchema table =>
      rw [Service.answer, snd_tell]
      exact h.getSchema base rfl st hst
  | updateSchema table desired merge =>
      rw [Service.answer, snd_tell]
      exact h.updateSchema base rfl rfl desired merge st hst
  | invalidate table =>
      rw [Service.answer, snd_tell]
      exact h.invalidate base rfl st hst
  | index table docs =>
      rw [Service.answer, snd_tell, index]
      split
      · exact hst
      · exact h.acting base _ (Keeps.compositional.index docs fun k hk =>
          h.calls k (.writes rfl rfl hk)) st hst
  | deleteIds table ids =>
      rw [Service.answer, snd_tell, deleteIds]
      split
      · exact hst
      · exact h.acting base _ (Keeps.compositional.deleteIds ids fun k hk =>
          h.calls k (.writes rfl rfl hk)) st hst
  | deleteQuery table query =>
      rw [Service.answer, snd_tell, deleteQuery]
      split
      · exact hst
      · exact h.acting base _ (Keeps.compositional.deleteQuery query fun k hk =>
          h.calls k (.writes rfl rfl hk)) st hst
  | destroy =>
      rw [Service.answer, snd_tell]
      exact h.destroy base st hst

end Preserves

end Service

end TableIndex
