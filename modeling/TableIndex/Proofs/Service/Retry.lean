import TableIndex.Proofs.Service.Connected

/-!
# Calls that are made again

Calls of a service may fail at any of their steps. Once nothing fails any more, creating a collection, with a
schema or without, and writing documents end as if nothing had failed before. Deleting a collection does not:
a config-set that could not be removed stays.
-/

namespace TableIndex

/-- The state in which no call to the cluster is made to fail any more. -/
def ServiceState.recovered (st : ServiceState Cluster Unit) : ServiceState Cluster Unit :=
  { st with remote := st.remote.recovered }

/-- Equal caches, and clusters that hold the same. -/
structure ServiceState.SameCached (st st' : ServiceState Cluster Unit) : Prop where
  cache : st.cache = st'.cache
  data : st.remote.data = st'.remote.data

/-- Whether an operation has failed. -/
def ServiceAnswer.isFailure : ServiceAnswer → Bool
  | created (.error _) => true
  | ensured (.error _) => true
  | deleted (.error _) => true
  | found (.error _) => true
  | schema (.error _) => true
  | updated (.error _) => true
  | written (.error _) => true
  | destroyed (.error _) => true
  | _ => false

/-- Equality of answers, where a collection with a schema may have been created by either of them or before. -/
def ServiceAnswer.SameButOutcome : ServiceAnswer → ServiceAnswer → Prop
  | .ensured (.ok _), .ensured (.ok _) => True
  | a, b => a = b

theorem ServiceAnswer.SameButOutcome.refl (a : ServiceAnswer) : a.SameButOutcome a := by
  cases a with
  | ensured result =>
      cases result with
      | ok o => exact trivial
      | error e => exact rfl
  | _ => exact rfl

/-- An operation that may be made again when it has failed. -/
def ServiceCall.Repeatable : ServiceCall → Prop
  | .create config => ∃ r, CollectionConfig.build r = .ok config
  | .ensure config => ∃ r, CollectionConfig.build r = .ok config
  | .index _ _ => True
  | .deleteIds _ _ => True
  | .deleteQuery _ _ => True
  | _ => False

theorem CollectionConfig.sized_of_build {r : CollectionRequest} {config : CollectionConfig}
    (h : build r = .ok config) : config.Sized := by
  rw [build] at h
  split at h
  · cases h
  · split at h
    · cases h
    · split at h
      · cases h
      · next hshards =>
          split at h
          · cases h
          · next hreplicas =>
              cases h
              exact ⟨hshards, hreplicas⟩

namespace Service

variable {ε α : Type} {naming : NamingPolicy} {base table : String} {st st' : ServiceState Cluster Unit}

theorem opened_recovered (st : ServiceState Cluster Unit) :
    opened st.recovered = (opened st).recovered := by
  obtain ⟨handle, cache, remote⟩ := st
  cases handle <;> rfl

theorem agree_onCached {Q : α → α → Prop} {act : EStateM ε (Cached Cluster) α}
    (h : Agree Q (Cached.Same Cluster.SameData) (act ⟨st.cache, st.remote⟩)
      (act ⟨st'.cache, st'.remote⟩)) :
    Agree Q ServiceState.SameCached (onCached act st) (onCached act st') := by
  rw [onCached, onCached]
  revert h
  cases act ⟨st.cache, st.remote⟩ <;> cases act ⟨st'.cache, st'.remote⟩ <;>
    rintro (⟨hq, hr⟩ | ⟨_, hr⟩)
  · exact .ok hq ⟨hr.cache, hr.remote⟩
  · exact .error _ ⟨hr.cache, hr.remote⟩

/-- What can be run again on a cluster behind a cache can be run again by a service. -/
theorem resumes_of_run {Q : α → α → Prop} {act : EStateM ε (Cached Cluster) α}
    {x : EStateM ε (ServiceState Cluster Unit) α} (hrun : ∀ st, x st = onCached act (opened st))
    (h : Resumes (Cached.recover Cluster.recovered) Q (Cached.Same Cluster.SameData) act) :
    Resumes ServiceState.recovered Q ServiceState.SameCached x := by
  intro st e st' hfail
  obtain ⟨hact, hhandle⟩ := onCached_eq_error ((hrun st).symm.trans hfail)
  have hopened : opened st'.recovered = st'.recovered := opened_of_handle hhandle
  rw [hrun, hrun, hopened, opened_recovered]
  exact agree_onCached (h _ _ _ hact)

/-- An operation that failed, and what is told of it when it is made again. -/
theorem retry_of_resumes {Q : α → α → Prop} {x : EStateM ε (ServiceState Cluster Unit) α}
    (hx : Resumes ServiceState.recovered Q ServiceState.SameCached x) {f : Except ε α → ServiceAnswer}
    (hf : ∀ a b, Q a b → (f (.ok a)).SameButOutcome (f (.ok b)))
    (hok : ∀ a, (f (.ok a)).isFailure = false) (h : (tell f (x st)).1.isFailure = true) :
    (tell f (x (tell f (x st)).2.recovered)).1.SameButOutcome (tell f (x st.recovered)).1 ∧
      (tell f (x (tell f (x st)).2.recovered)).2.SameCached (tell f (x st.recovered)).2 := by
  cases hfail : x st with
  | ok a st' =>
      rw [hfail] at h
      cases (hok a).symm.trans h
  | error e st' =>
      have hagree := hx st e st' hfail
      simp only [tell]
      revert hagree
      cases x st'.recovered <;> cases x st.recovered <;> rintro (⟨hq, hr⟩ | ⟨_, hr⟩)
      · exact ⟨hf _ _ hq, hr⟩
      · exact ⟨.refl _, hr⟩

theorem resumes_create (naming : NamingPolicy) (base : String) {config : CollectionConfig}
    (hsized : config.Sized) :
    Resumes ServiceState.recovered Eq ServiceState.SameCached ((inMemory naming base).create config) :=
  resumes_of_run (fun _ => create_run config) (.onRemote (Provisioner.resumes_create _ hsized))

theorem resumes_ensure (naming : NamingPolicy) (base : String) {config : CollectionConfig}
    (hsized : config.Sized) :
    Resumes ServiceState.recovered (fun _ _ => True) ServiceState.SameCached
      ((inMemory naming base).ensure config) :=
  resumes_of_run (ensure_run config) (Provisioner.resumes_ensure _ hsized)

theorem resumes_index (naming : NamingPolicy) (base table : String) (docs : List Document) :
    Resumes ServiceState.recovered Eq ServiceState.SameCached
      ((inMemory naming base).index table docs) :=
  .ite (.pure ()) (resumes_of_run (client_bind _ _) (.onRemote (Document.resumes_index table docs)))

theorem resumes_deleteIds (naming : NamingPolicy) (base table : String) (ids : List String) :
    Resumes ServiceState.recovered Eq ServiceState.SameCached
      ((inMemory naming base).deleteIds table ids) :=
  .ite (.pure ()) (resumes_of_run (client_bind _ _) (.onRemote (Document.resumes_deleteIds table ids)))

theorem resumes_deleteQuery (naming : NamingPolicy) (base table query : String) :
    Resumes ServiceState.recovered Eq ServiceState.SameCached
      ((inMemory naming base).deleteQuery table query) :=
  .ite (.pure ()) (resumes_of_run (client_bind _ _) (.onRemote (Document.resumes_deleteQuery table query)))

/-- When an operation failed, then once nothing fails any more it gives what it would have given without the
failure, and leaves the caches and the cluster as it would have left them. -/
theorem retry_of_failure {call : ServiceCall} (hcall : call.Repeatable)
    (h : ((inMemory naming base).answer call st).1.isFailure = true) :
    let s := inMemory naming base
    let again := s.answer call (s.answer call st).2.recovered
    let once := s.answer call st.recovered
    again.1.SameButOutcome once.1 ∧ again.2.cache = once.2.cache ∧
      again.2.remote.data = once.2.remote.data := by
  intro s again once
  suffices hretry : again.1.SameButOutcome once.1 ∧ again.2.SameCached once.2 from
    ⟨hretry.1, hretry.2.cache, hretry.2.data⟩
  cases call with
  | create config =>
      obtain ⟨r, hbuild⟩ := hcall
      exact retry_of_resumes (resumes_create naming base (CollectionConfig.sized_of_build hbuild))
        (fun a b hab => hab ▸ .refl _) (fun _ => rfl) h
  | ensure config =>
      obtain ⟨r, hbuild⟩ := hcall
      exact retry_of_resumes (resumes_ensure naming base (CollectionConfig.sized_of_build hbuild))
        (fun _ _ _ => trivial) (fun _ => rfl) h
  | index table docs =>
      exact retry_of_resumes (resumes_index naming base table docs) (fun a b hab => hab ▸ .refl _)
        (fun _ => rfl) h
  | deleteIds table ids =>
      exact retry_of_resumes (resumes_deleteIds naming base table ids) (fun a b hab => hab ▸ .refl _)
        (fun _ => rfl) h
  | deleteQuery table query =>
      exact retry_of_resumes (resumes_deleteQuery naming base table query) (fun a b hab => hab ▸ .refl _)
        (fun _ => rfl) h
  | _ => exact hcall.elim

/-- The table `orders` with a schema, to be created in a fresh cluster that refuses to change schemas. -/
def ordersDeclared : CollectionConfig :=
  ⟨"orders", none, 1, 1, none, some (.ofFields "id" [.typed "total" .double])⟩

def schemasRefused : ServiceState Cluster Unit :=
  { remote := (Cluster.fresh ⟨"DEFAULT"⟩).fail .submitSchemaUpdates 500 }

/-- A schema that could not be merged after the collection had been created is merged in the second attempt. -/
theorem retry_of_ensure_orders :
    let s := inMemory ⟨"DEFAULT"⟩ Cluster.baseConfigSet
    let again := s.answer (.ensure ordersDeclared)
      (s.answer (.ensure ordersDeclared) schemasRefused).2.recovered
    let once := s.answer (.ensure ordersDeclared) schemasRefused.recovered
    (ServiceCall.ensure ordersDeclared).Repeatable ∧
      (s.answer (.ensure ordersDeclared) schemasRefused).1.isFailure = true ∧
      again.1.SameButOutcome once.1 ∧ again.2.cache = once.2.cache ∧
      again.2.remote.data = once.2.remote.data := by
  have hcall : (ServiceCall.ensure ordersDeclared).Repeatable :=
    ⟨{ collectionName := "orders", schema := ordersDeclared.schema }, rfl⟩
  have hfail : ((inMemory ⟨"DEFAULT"⟩ Cluster.baseConfigSet).answer (.ensure ordersDeclared)
      schemasRefused).1.isFailure = true := by decide +kernel
  exact ⟨hcall, hfail, retry_of_failure hcall hfail⟩

/-! ## Deleting again -/

theorem delete_of_ok {outcome : DeleteOutcome} {s : Cached Cluster}
    (h : Provisioner.delete ⟨naming, base⟩ Cluster.gateway table (seen st) = .ok outcome s) :
    (inMemory naming base).delete table st =
      .ok outcome { opened st with cache := s.cache, remote := s.remote } :=
  delete_run.trans (onCached_of_ok h)

/-- After a deletion that was done in part, the next attempt finds no collection and leaves the config-set
alone. An attempt that had not failed would have taken it away, unless another collection uses it; so both
leave the same exactly if the collection had no config-set of its name. -/
theorem delete_retry_of_partial {e : DeleteError}
    (h : (inMemory naming base).delete table st = .error e st') (he : e.effect = .partially) :
    ∃ q again, naming.qualify table = some q ∧
      (inMemory naming base).delete table st'.recovered = .ok .notFound again ∧
      again.remote.collections.contains q = false ∧
      again.remote.configSets = st.remote.configSets ∧
      ((∀ name, st.remote.collections.get? name = some q → name = q) →
        ∃ outcome once, (inMemory naming base).delete table st.recovered = .ok outcome once ∧
          once.remote.collections.contains q = false ∧ once.remote.configSets.contains q = false ∧
          (again.remote.data = once.remote.data ↔ st.remote.configSets.contains q = false)) := by
  rw [delete_run] at h
  obtain ⟨hact, hhandle⟩ := onCached_eq_error h
  obtain ⟨q, again, hq, hagain, hgone, hkept, honce⟩ := Provisioner.delete_again hact he
  have hcollections : (opened st).remote.collections = st.remote.collections :=
    congrArg (·.collections) (remote_opened st)
  have hsets : (opened st).remote.configSets = st.remote.configSets :=
    congrArg (·.configSets) (remote_opened st)
  have hseen : seen st'.recovered = Cached.recover Cluster.recovered ⟨st'.cache, st'.remote⟩ := by
    have hopened : opened st'.recovered = st'.recovered := opened_of_handle hhandle
    rw [seen, hopened]
    rfl
  have hseen' : seen st.recovered = Cached.recover Cluster.recovered (seen st) := by
    rw [seen, opened_recovered]
    rfl
  refine ⟨q, _, hq, delete_of_ok (hseen ▸ hagain), hgone, hkept.trans hsets, fun hunused => ?_⟩
  obtain ⟨outcome, once, hrun, hgone', hmissing, hiff⟩ :=
    honce fun name hname => hunused name (hcollections ▸ hname)
  exact ⟨outcome, _, delete_of_ok (hseen' ▸ hrun), hgone', hmissing, hsets ▸ hiff⟩

/-- A service that has created the table `orders` in a cluster that refuses to delete config-sets. -/
def ordersHeld : ServiceState Cluster Unit :=
  let st := ((inMemory ⟨"DEFAULT"⟩ Cluster.baseConfigSet).run
    [.create ⟨"orders", none, 1, 1, none, none⟩] { remote := .fresh ⟨"DEFAULT"⟩ }).2
  { st with remote := st.remote.fail .deleteConfig 500 }

theorem delete_ordersHeld :
    ∃ e st', (inMemory ⟨"DEFAULT"⟩ Cluster.baseConfigSet).delete "orders" ordersHeld = .error e st' ∧
      e.effect = .partially := by
  have heffect : (error? ((inMemory ⟨"DEFAULT"⟩ Cluster.baseConfigSet).delete "orders" ordersHeld)).map
      DeleteError.effect = some .partially := by decide +kernel
  obtain ⟨e, he, heffect⟩ := Option.map_eq_some_iff.mp heffect
  obtain ⟨st', h⟩ := exists_of_error? he
  exact ⟨e, st', h, heffect⟩

theorem delete_retry_orders :
    let s := inMemory ⟨"DEFAULT"⟩ Cluster.baseConfigSet
    ∃ e st' q again, s.delete "orders" ordersHeld = .error e st' ∧ e.effect = .partially ∧
      NamingPolicy.qualify ⟨"DEFAULT"⟩ "orders" = some q ∧
      s.delete "orders" st'.recovered = .ok .notFound again ∧
      again.remote.configSets = ordersHeld.remote.configSets := by
  intro s
  obtain ⟨e, st', h, he⟩ := delete_ordersHeld
  obtain ⟨q, again, hq, hagain, -, hsets, -⟩ := delete_retry_of_partial h he
  exact ⟨e, st', q, again, h, he, hq, hagain, hsets⟩

/-- The second attempt leaves the config-set of `orders`, which no collection uses and which an attempt without
failure removes. -/
theorem configSet_left_by_retry :
    let s := inMemory ⟨"DEFAULT"⟩ Cluster.baseConfigSet
    let failed := s.delete "orders" ordersHeld
    let again := s.delete "orders" (stateAfter failed).recovered
    let once := s.delete "orders" ordersHeld.recovered
    (error? failed).map DeleteError.effect = some .partially ∧
      (stateAfter again).remote.collections.entries = [] ∧
      (stateAfter again).remote.configSets.contains "DEFAULT_orders" = true ∧
      value? once = some .deleted ∧
      (stateAfter once).remote.configSets.contains "DEFAULT_orders" = false := by
  intro s failed again once
  exact ⟨by decide +kernel, by decide +kernel, by decide +kernel, by decide +kernel, by decide +kernel⟩

end Service

end TableIndex
