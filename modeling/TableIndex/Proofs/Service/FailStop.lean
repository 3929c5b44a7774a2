import TableIndex.Proofs.Gateway.FailStop
import TableIndex.Proofs.Service.View

/-!
# Operations that fail and stop

Whatever the gateways of a service answer, an operation makes no call after one that failed or was refused, and
answers with the error of that one.
-/

namespace TableIndex

variable {σ η ε α : Type}

/-! ## Tracing -/

/-- The connector with all calls through its gateways traced. -/
def Connector.traced (c : Connector σ η) : Connector (Traced σ) η where
  connect := Traced.onRemote c.connect
  gateway := fun h => (c.gateway h).traced

/-- The service with all the calls it makes traced. -/
def Service.traced (s : Service σ η) : Service (Traced σ) η := ⟨s.naming, s.baseConfigSet, s.connector.traced⟩

/-- The state of a service without what was traced. -/
def ServiceState.untraced (st : ServiceState (Traced σ) η) : ServiceState σ η :=
  ⟨st.handle, st.cache, st.remote.remote⟩

/-- The error of the cluster's client that an answer is about, if it is about one. -/
def ServiceAnswer.clientError? : ServiceAnswer → Option ClientError
  | created (.error e) => e.clientError?
  | ensured (.error e) => e.clientError?
  | deleted (.error e) => some e.clientError
  | found (.error e) => some e
  | schema (.error e) => e.clientError?
  | updated (.error e) => e.clientError?
  | written (.error e) => some e.clientError
  | destroyed (.error e) => some e
  | _ => none

theorem Connector.through_traced (c : Connector σ η) : c.traced.Through Traced.remote id c where
  connect t := by
    simp only [traced, Traced.onRemote]
    cases c.connect t.remote <;> rfl
  perform _ _ _ := Traced.projects_noting _ _
  close _ := Traced.projects_onRemote _

namespace Service

theorem answer_untraced (s : Service σ η) (call : ServiceCall) (st : ServiceState (Traced σ) η) :
    s.answer call st.untraced = ((s.traced.answer call st).1, (s.traced.answer call st).2.untraced) := by
  have huntraced : ∀ st : ServiceState (Traced σ) η, st.through Traced.remote id = st.untraced := by
    intro st
    rw [ServiceState.through, Option.map_id]
    rfl
  rw [← huntraced, ← huntraced]
  exact answer_through s.connector.through_traced call st

/-! ## Acting -/

theorem ends_tell {cause : ε → Option ClientError} {x : EStateM ε (Cached (Traced σ)) α}
    {f : Except ε α → ServiceAnswer} (hx : FailStop (fun s => s.remote.trace) cause x)
    (hok : ∀ a, (f (.ok a)).clientError? = none) (herror : ∀ e, (f (.error e)).clientError? = cause e)
    (st : ServiceState (Traced σ) η) :
    ∃ exchanges, (tell f (onCached x st)).2.remote.trace = st.remote.trace ++ exchanges ∧
      Ends exchanges (tell f (onCached x st)).1.clientError? := by
  obtain ⟨exchanges, htrace, hends⟩ := hx ⟨st.cache, st.remote⟩
  refine ⟨exchanges, ?_, ?_⟩
  · rw [snd_tell, stateAfter_onCached]
    exact htrace
  · cases hrun : x ⟨st.cache, st.remote⟩ with
    | ok a c =>
        rw [hrun] at hends
        rw [onCached_of_ok hrun, tell, hok]
        exact hends
    | error e c =>
        rw [hrun] at hends
        rw [onCached_of_error hrun, tell, herror]
        exact hends

theorem ends_act (s : Service (Traced σ) η) (g : Gateway σ) {call : ServiceCall}
    (hneeds : call.needsCluster = true) (st : ServiceState (Traced σ) η) :
    ∃ exchanges, (s.act g.traced call st).2.remote.trace = st.remote.trace ++ exchanges ∧
      Ends exchanges (s.act g.traced call st).1.clientError? := by
  cases call with
  | create config =>
      exact ends_tell (s.provisioner.failStop_create g config).onRemote (fun _ => rfl) (fun _ => rfl) st
  | ensure config => exact ends_tell (s.provisioner.failStop_ensure g config) (fun _ => rfl) (fun _ => rfl) st
  | delete table => exact ends_tell (s.provisioner.failStop_delete g table) (fun _ => rfl) (fun _ => rfl) st
  | collectionExists table =>
      have hfound := s.provisioner.failStop_collectionExists g table
      exact ends_tell hfound.onRemote (fun _ => rfl) (fun _ => rfl) st
  | configSetExists table =>
      have hfound := s.provisioner.failStop_configSetExists g table
      exact ends_tell hfound.onRemote (fun _ => rfl) (fun _ => rfl) st
  | getSchema table => exact ends_tell (Schema.failStop_get g s.naming table) (fun _ => rfl) (fun _ => rfl) st
  | updateSchema table desired merge =>
      have hupdate := Schema.failStop_update g s.naming table desired merge
      exact ends_tell hupdate (fun _ => rfl) (fun _ => rfl) st
  | index table docs => exact ends_tell (Document.failStop_index g docs).onRemote (fun _ => rfl) (fun _ => rfl) st
  | deleteIds table ids =>
      exact ends_tell (Document.failStop_deleteIds g ids).onRemote (fun _ => rfl) (fun _ => rfl) st
  | deleteQuery table query =>
      exact ends_tell (Document.failStop_deleteQuery g query).onRemote (fun _ => rfl) (fun _ => rfl) st
  | invalidate table => cases hneeds
  | destroy => cases hneeds

/-! ## Operations -/

theorem trace_client (s : Service σ η) (st : ServiceState (Traced σ) η) :
    (stateAfter (s.traced.client st)).remote.trace = st.remote.trace := by
  cases hh : st.handle with
  | some h => rw [client_of_handle hh, stateAfter]
  | none =>
      have htrace := Traced.trace_onRemote s.connector.connect st.remote
      cases hrun : Traced.onRemote s.connector.connect st.remote with
      | ok h r =>
          rw [hrun] at htrace
          rw [client_of_connect (s := s.traced) hh hrun]
          exact htrace
      | error e r =>
          rw [hrun] at htrace
          rw [client_of_refusal (s := s.traced) hh hrun]
          exact htrace

theorem trace_of_not_needsCluster (s : Service σ η) {call : ServiceCall} (hneeds : call.needsCluster = false)
    (st : ServiceState (Traced σ) η) :
    (s.traced.answer call st).2.remote.trace = st.remote.trace := by
  by_cases hd : call = .destroy
  · subst hd
    rw [answer, destroy]
    cases hh : st.handle with
    | none => rfl
    | some h =>
        let close := Cached.onRemote (Traced.onRemote (s.connector.gateway h).close)
        show (tell .destroyed (onCached close { st with handle := none })).2.remote.trace = _
        rw [snd_tell, stateAfter_onCached, stateAfter_onRemote]
        exact Traced.trace_onRemote (s.connector.gateway h).close st.remote
  · rw [(remote_of_not_needsCluster s.traced hneeds hd st).2]

/-- What an operation calls is a list of calls of which only the last one can have failed, and if it did, its error
is the one that the operation answers with. Tracing the calls changes nothing. -/
theorem fails_and_stops (s : Service σ η) (call : ServiceCall) (st : ServiceState (Traced σ) η) :
    let after := s.traced.answer call st
    (∃ exchanges, after.2.remote.trace = st.remote.trace ++ exchanges ∧
      ∀ before e later cause, exchanges = before ++ e :: later → e.failure? = some cause →
        later = [] ∧ after.1.clientError? = some cause) ∧
    s.answer call st.untraced = (after.1, after.2.untraced) := by
  intro after
  refine ⟨?_, answer_untraced s call st⟩
  have hsilent : after.2.remote.trace = st.remote.trace → ∃ exchanges,
      after.2.remote.trace = st.remote.trace ++ exchanges ∧
      ∀ before e later cause, exchanges = before ++ e :: later → e.failure? = some cause →
        later = [] ∧ after.1.clientError? = some cause := by
    intro htrace
    refine ⟨[], by rw [htrace, List.append_nil], ?_⟩
    intro before e later cause h
    exact absurd h.symm (by simp)
  cases hneeds : call.needsCluster with
  | false => exact hsilent (trace_of_not_needsCluster s hneeds st)
  | true =>
      have hconnected := trace_client s st
      have hafter : after = _ := answer_of_needsCluster s.traced hneeds st
      cases hclient : s.traced.client st with
      | error e st' =>
          rw [hclient] at hafter hconnected
          exact hsilent ((congrArg (·.2.remote.trace) hafter).trans hconnected)
      | ok h st' =>
          rw [hclient] at hafter hconnected
          obtain ⟨exchanges, htrace, hends⟩ := ends_act s.traced (s.connector.gateway h) hneeds st'
          refine ⟨exchanges, ?_, ?_⟩
          · rw [hafter, ← hconnected]
            exact htrace
          · rintro before e later cause rfl he
            rw [hafter]
            exact hends.last he

/-- A collection that cannot be deleted keeps its config-set. -/
example :
    let s := (inMemory ⟨"DEFAULT"⟩ Cluster.baseConfigSet).traced
    let created := (s.answer (.create ⟨"orders", none, 1, 1, none, none⟩)
      { remote := { remote := .fresh ⟨"DEFAULT"⟩ } }).2.remote.remote
    let after := s.answer (.delete "orders") { remote := { remote := created.fail .deleteCollection 500 } }
    after.2.remote.trace.map Exchange.operation = [.collectionExists, .deleteCollection] ∧
      after.1.clientError?.bind ClientError.status? = some 500 := by
  decide +kernel

end Service

end TableIndex
