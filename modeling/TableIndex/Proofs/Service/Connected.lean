import TableIndex.Proofs.Cluster.Recovery
import TableIndex.Proofs.Service.Run

/-!
# What an operation does once the service is connected

Every operation that needs the cluster first asks for the handle, and then acts through the gateway of that
handle alone. So what connecting, the calls of the gateway and closing keep is kept by every operation, whatever
the connector, and related gateways make related operations.
-/

namespace TableIndex

namespace ServiceCall

/-- Whether an operation asks for the handle. -/
def needsCluster : ServiceCall → Bool
  | invalidate _ => false
  | index _ docs => !docs.isEmpty
  | deleteIds _ ids => !ids.isEmpty
  | deleteQuery _ query => !Text.isBlank query
  | destroy => false
  | _ => true

/-- What an operation answers when the service could not connect. -/
def unconnected : ServiceCall → ConnectError → ServiceAnswer
  | create _, e => .created (.error (.connect e))
  | ensure _, e => .ensured (.error (.create (.connect e)))
  | delete _, e => .deleted (.error (.connect e))
  | collectionExists _, e => .found (.error e.cause)
  | configSetExists _, e => .found (.error e.cause)
  | getSchema _, e => .schema (.error (.connect e))
  | updateSchema _ _ _, e => .updated (.error (.connect e))
  | invalidate _, _ => .invalidated
  | index _ _, e => .written (.error (.connect e))
  | deleteIds _ _, e => .written (.error (.connect e))
  | deleteQuery _ _, e => .written (.error (.connect e))
  | destroy, _ => .destroyed (.ok ())

end ServiceCall

namespace Service

variable {σ η ε α : Type} {s : Service σ η} {st st' : ServiceState σ η} {h : η}

/-! ## Connecting -/

theorem client_of_handle (hh : st.handle = some h) : s.client st = .ok h st := by
  rw [client, hh]

theorem client_of_connect {r : σ} (hh : st.handle = none) (hr : s.connector.connect st.remote = .ok h r) :
    s.client st = .ok h { st with handle := some h, remote := r } := by
  rw [client, hh]
  simp only [hr]

theorem client_of_refusal {e : ClientError} {r : σ} (hh : st.handle = none)
    (hr : s.connector.connect st.remote = .error e r) : s.client st = .error ⟨e⟩ { st with remote := r } := by
  rw [client, hh]
  simp only [hr]

theorem handle_of_client (hc : s.client st = .ok h st') : st'.handle = some h := by
  cases hh : st.handle with
  | some k =>
      cases (client_of_handle hh).symm.trans hc
      exact hh
  | none =>
      cases hr : s.connector.connect st.remote with
      | ok k r =>
          cases (client_of_connect hh hr).symm.trans hc
          rfl
      | error e r => cases (client_of_refusal hh hr).symm.trans hc

/-- A collection is created and its schema merged through one handle, although both ask for it. -/
theorem ensure_eq (s : Service σ η) (config : CollectionConfig) (st : ServiceState σ η) :
    s.ensure config st = (s.client.adaptExcept (fun e => EnsureError.create (.connect e)) >>= fun h =>
      onCached (s.provisioner.ensure (s.connector.gateway h) config)) st := by
  cases hc : s.client st with
  | error e st' =>
      have hcreate : s.create config st = .error (.connect e) st' := bind_of_error (adaptExcept_of_error hc)
      rw [bind_of_error (adaptExcept_of_error hc)]
      exact bind_of_error (adaptExcept_of_error hcreate)
  | ok h st' =>
      have hhandle := handle_of_client hc
      let g := s.connector.gateway h
      have hcreate : (s.create config).adaptExcept EnsureError.create st =
          onCached (Cached.onRemoteOr EnsureError.create (s.provisioner.create g config)) st' := by
        refine (adaptExcept_congr (bind_of_ok (adaptExcept_of_ok hc))).trans ?_
        rw [onRemote, ← onCached_adaptExcept]
        exact congrArg (onCached · st') (funext fun c => (Cached.onRemote_adaptExcept _ _ c).symm)
      rw [bind_of_ok (adaptExcept_of_ok hc), Provisioner.ensure, onCached_bind]
      refine bind_congr hcreate fun o u hu => ?_
      -- The handle is held by now, so that asking for it once more changes nothing.
      have hheld : u.handle = some h := (onCached_eq_ok hu).2.trans hhandle
      cases config.schema with
      | none => rfl
      | some desired =>
          simp only
          rw [onCached_bind]
          refine bind_congr ?_ fun _ _ _ => rfl
          rw [onCached_adaptExcept]
          exact adaptExcept_congr (bind_of_ok (adaptExcept_of_ok (client_of_handle hheld)))

theorem ensure_run {naming : NamingPolicy} {base : String} (config : CollectionConfig)
    (st : ServiceState Cluster Unit) : (inMemory naming base).ensure config st =
      onCached (Provisioner.ensure ⟨naming, base⟩ Cluster.gateway config) (opened st) :=
  (ensure_eq ..).trans (client_bind ..)

/-! ## Acting -/

/-- What an operation does through a gateway. -/
def act (s : Service σ η) (g : Gateway σ) (call : ServiceCall) (st : ServiceState σ η) :
    ServiceAnswer × ServiceState σ η :=
  match call with
  | .create config => tell .created (onRemote (s.provisioner.create g config) st)
  | .ensure config => tell .ensured (onCached (s.provisioner.ensure g config) st)
  | .delete table => tell .deleted (onCached (s.provisioner.delete g table) st)
  | .collectionExists table => tell .found (onRemote (s.provisioner.collectionExists g table) st)
  | .configSetExists table => tell .found (onRemote (s.provisioner.configSetExists g table) st)
  | .getSchema table => tell .schema (onCached (Schema.get s.naming g table) st)
  | .updateSchema table desired merge =>
    tell .updated (onCached (Schema.update s.naming g table desired merge) st)
  | .index table docs => tell .written (onRemote (Document.index g table docs) st)
  | .deleteIds table ids => tell .written (onRemote (Document.deleteIds g table ids) st)
  | .deleteQuery table query => tell .written (onRemote (Document.deleteQuery g table query) st)
  | call => s.answer call st

theorem tell_client_bind (s : Service σ η) (f : Except ε α → ServiceAnswer) (describe : ConnectError → ε)
    (k : η → EStateM ε (ServiceState σ η) α) (st : ServiceState σ η) :
    tell f ((s.client.adaptExcept describe >>= k) st) =
      match s.client st with
      | .ok h st' => tell f (k h st')
      | .error e st' => (f (.error (describe e)), st') := by
  cases hc : s.client st with
  | ok h st' => rw [bind_of_ok (adaptExcept_of_ok hc)]
  | error e st' =>
      rw [bind_of_error (adaptExcept_of_error hc)]
      rfl

/-- Connecting comes first, and what comes then goes through the gateway of the handle. -/
theorem answer_of_needsCluster (s : Service σ η) {call : ServiceCall} (h : call.needsCluster = true)
    (st : ServiceState σ η) : s.answer call st =
      match s.client st with
      | .ok h st' => s.act (s.connector.gateway h) call st'
      | .error e st' => (call.unconnected e, st') := by
  cases call with
  | create config => exact tell_client_bind ..
  | ensure config =>
      rw [answer, ensure_eq]
      exact tell_client_bind ..
  | delete table => exact tell_client_bind ..
  | collectionExists table => exact tell_client_bind ..
  | configSetExists table => exact tell_client_bind ..
  | getSchema table => exact tell_client_bind ..
  | updateSchema table desired merge => exact tell_client_bind ..
  | index table docs =>
      rw [answer, index, if_neg (by simpa [ServiceCall.needsCluster] using h)]
      exact tell_client_bind ..
  | deleteIds table ids =>
      rw [answer, deleteIds, if_neg (by simpa [ServiceCall.needsCluster] using h)]
      exact tell_client_bind ..
  | deleteQuery table query =>
      rw [answer, deleteQuery, if_neg (by simpa [ServiceCall.needsCluster] using h)]
      exact tell_client_bind ..
  | invalidate table => cases h
  | destroy => cases h

/-- An operation that does without the cluster leaves it and the handle as they are. -/
theorem remote_of_not_needsCluster (s : Service σ η) {call : ServiceCall} (h : call.needsCluster = false)
    (hd : call ≠ .destroy) (st : ServiceState σ η) :
    (s.answer call st).2.handle = st.handle ∧ (s.answer call st).2.remote = st.remote := by
  cases call with
  | invalidate table =>
      rw [answer, snd_tell, invalidate]
      cases s.naming.qualify table with
      | none => exact ⟨rfl, rfl⟩
      | some q =>
          rw [stateAfter_onCached]
          exact ⟨rfl, rfl⟩
  | index table docs =>
      rw [answer, index, if_pos (by simpa [ServiceCall.needsCluster] using h)]
      exact ⟨rfl, rfl⟩
  | deleteIds table ids =>
      rw [answer, deleteIds, if_pos (by simpa [ServiceCall.needsCluster] using h)]
      exact ⟨rfl, rfl⟩
  | deleteQuery table query =>
      rw [answer, deleteQuery, if_pos (by simpa [ServiceCall.needsCluster] using h)]
      exact ⟨rfl, rfl⟩
  | destroy => exact absurd rfl hd
  | _ => cases h

/-! ## Operations as programs -/

section Programs

variable {τ κ : Type} {P : (ε α : Type) → EStateM ε σ α → EStateM ε τ α → Prop}
  {P' : (ε α : Type) → EStateM ε (Cached σ) α → EStateM ε (Cached τ) α → Prop} {g : Gateway σ} {h : Gateway τ}

theorem parallel_ensure (hP : Parallel P) (hP' : Parallel P')
    (hlift : ∀ {ε α x y}, P ε α x y → P' ε α (Cached.onRemote x) (Cached.onRemote y))
    (hcalls : ∀ {α} (k : Call α), P _ _ (g.perform k) (h.perform k))
    (hlookup : ∀ q {ε}, P' ε _ (Cached.lookup q) (Cached.lookup q))
    (hput : ∀ q schema {ε}, P' ε _ (Cached.put q schema) (Cached.put q schema))
    (p : Provisioner) (config : CollectionConfig) :
    P' _ _ (p.ensure g config) (p.ensure h config) := by
  have hcreate : P _ _ (p.create g config) (p.create h config) :=
    hP.create (fun k _ => hcalls k) fun _ _ _ k _ => hcalls k
  refine hP'.bind (hP.onRemoteOr hlift _ hcreate) fun o => ?_
  cases config.schema with
  | none => exact hP'.pure o
  | some desired =>
      have hupdate : P' _ _ (Schema.update p.naming g config.collectionName desired true)
          (Schema.update p.naming h config.collectionName desired true) :=
        hP.update hP' hlift (fun k _ => hcalls k) (fun k _ => hcalls k) hlookup (fun q _ => hput q) desired true
      exact hP'.bind (hP'.adaptExcept _ hupdate) fun _ => hP'.pure o

/-- Through related gateways, an operation comes to related programs on the cache and the cluster. -/
theorem parallel_act (hP : Parallel P) (hP' : Parallel P')
    (hlift : ∀ {ε α x y}, P ε α x y → P' ε α (Cached.onRemote x) (Cached.onRemote y))
    (hcalls : ∀ {α} (k : Call α), P _ _ (g.perform k) (h.perform k))
    (hlookup : ∀ q {ε}, P' ε _ (Cached.lookup q) (Cached.lookup q))
    (hput : ∀ q schema {ε}, P' ε _ (Cached.put q schema) (Cached.put q schema))
    (hforget : ∀ q {ε}, P' ε _ (Cached.forget q) (Cached.forget q))
    (naming : NamingPolicy) (base : String) (c : Connector σ η) (c' : Connector τ κ) {call : ServiceCall}
    (hneeds : call.needsCluster = true) :
    ∃ (ε α : Type) (f : Except ε α → ServiceAnswer) (x : EStateM ε (Cached σ) α) (y : EStateM ε (Cached τ) α),
      P' ε α x y ∧ (∀ st, act ⟨naming, base, c⟩ g call st = tell f (onCached x st)) ∧
        ∀ st, act ⟨naming, base, c'⟩ h call st = tell f (onCached y st) := by
  let p : Provisioner := ⟨naming, base⟩
  cases call with
  | create config =>
      have hcreate : P _ _ (p.create g config) (p.create h config) :=
        hP.create (fun k _ => hcalls k) fun _ _ _ k _ => hcalls k
      exact ⟨_, _, .created, _, _, hlift hcreate, fun _ => rfl, fun _ => rfl⟩
  | ensure config =>
      have hensure := parallel_ensure hP hP' hlift hcalls hlookup hput p config
      exact ⟨_, _, .ensured, _, _, hensure, fun _ => rfl, fun _ => rfl⟩
  | delete table =>
      have hdelete : P' _ _ (p.delete g table) (p.delete h table) :=
        hP.delete hP' hlift (fun k _ => hcalls k) (fun _ _ _ k _ => hcalls k) fun q _ => hforget q
      exact ⟨_, _, .deleted, _, _, hdelete, fun _ => rfl, fun _ => rfl⟩
  | collectionExists table =>
      have hfound := hP.collectionExists p table fun k _ => hcalls k
      exact ⟨_, _, .found, _, _, hlift hfound, fun _ => rfl, fun _ => rfl⟩
  | configSetExists table =>
      have hfound := hP.configSetExists p table fun k _ => hcalls k
      exact ⟨_, _, .found, _, _, hlift hfound, fun _ => rfl, fun _ => rfl⟩
  | getSchema table =>
      have hget : P' _ _ (Schema.get naming g table) (Schema.get naming h table) :=
        hP.get hP' hlift (fun k _ => hcalls k) hlookup fun q _ => hput q
      exact ⟨_, _, .schema, _, _, hget, fun _ => rfl, fun _ => rfl⟩
  | updateSchema table desired merge =>
      have hupdate : P' _ _ (Schema.update naming g table desired merge)
          (Schema.update naming h table desired merge) :=
        hP.update hP' hlift (fun k _ => hcalls k) (fun k _ => hcalls k) hlookup (fun q _ => hput q)
          desired merge
      exact ⟨_, _, .updated, _, _, hupdate, fun _ => rfl, fun _ => rfl⟩
  | index table docs =>
      have hindex : P _ _ (Document.index g table docs) (Document.index h table docs) :=
        hP.index docs fun k _ => hcalls k
      exact ⟨_, _, .written, _, _, hlift hindex, fun _ => rfl, fun _ => rfl⟩
  | deleteIds table ids =>
      have hdelete : P _ _ (Document.deleteIds g table ids) (Document.deleteIds h table ids) :=
        hP.deleteIds ids fun k _ => hcalls k
      exact ⟨_, _, .written, _, _, hlift hdelete, fun _ => rfl, fun _ => rfl⟩
  | deleteQuery table query =>
      have hdelete : P _ _ (Document.deleteQuery g table query) (Document.deleteQuery h table query) :=
        hP.deleteQuery query fun k _ => hcalls k
      exact ⟨_, _, .written, _, _, hlift hdelete, fun _ => rfl, fun _ => rfl⟩
  | invalidate table => cases hneeds
  | destroy => cases hneeds

end Programs

/-! ## What operations keep -/

section Keeping

variable {I : σ → Prop} {g : Gateway σ}

theorem kept_onCached {x : EStateM ε (Cached σ) α} (f : Except ε α → ServiceAnswer)
    (hx : Keeps (fun c => I c.remote ∧ True) x) (hst : I st.remote) :
    (tell f (onCached x st)).2.handle = st.handle ∧ I (tell f (onCached x st)).2.remote := by
  rw [snd_tell, stateAfter_onCached]
  exact ⟨rfl, (hx ⟨st.cache, st.remote⟩ ⟨hst, trivial⟩).1⟩

/-- What the calls of a gateway keep, an operation that acts through it keeps, and the handle with it. -/
theorem kept_act (hg : ∀ {β} (k : Call β), Keeps I (g.perform k)) {call : ServiceCall}
    (h : call.needsCluster = true) (hst : I st.remote) :
    (s.act g call st).2.handle = st.handle ∧ I (s.act g call st).2.remote := by
  have hP := (Keeps.compositional (I := I)).parallel
  have hP' := (Keeps.compositional (I := fun c : Cached σ => I c.remote ∧ True)).parallel
  obtain ⟨ε, α, f, x, -, hx, hact, -⟩ := parallel_act (g := g) (h := g) hP hP' (.onRemote fun _ => True) hg
    (fun _ _ _ hs => hs) (fun _ _ _ _ hs => hs) (fun _ _ _ hs => hs) s.naming s.baseConfigSet
    s.connector s.connector h
  rw [hact st]
  exact kept_onCached f hx hst

theorem keeps_client (hc : Keeps I s.connector.connect) (hst : I st.remote) :
    I (stateAfter (s.client st)).remote := by
  cases hh : st.handle with
  | some h =>
      rw [client_of_handle hh]
      exact hst
  | none =>
      have hr := hc st.remote hst
      cases hrun : s.connector.connect st.remote with
      | ok h r =>
          rw [hrun] at hr
          rw [client_of_connect hh hrun]
          exact hr
      | error e r =>
          rw [hrun] at hr
          rw [client_of_refusal hh hrun]
          exact hr

/-- What connecting, calling and closing keep, every operation keeps. -/
theorem kept_answer (hc : Keeps I s.connector.connect)
    (hg : ∀ h {β} (k : Call β), Keeps I ((s.connector.gateway h).perform k))
    (hclose : ∀ h, Keeps I (s.connector.gateway h).close) (call : ServiceCall) (hst : I st.remote) :
    I (s.answer call st).2.remote := by
  cases hneeds : call.needsCluster with
  | true =>
      have hconnected := keeps_client hc hst
      rw [answer_of_needsCluster s hneeds]
      cases hclient : s.client st with
      | ok h st' =>
          rw [hclient] at hconnected
          exact (kept_act (hg h) hneeds hconnected).2
      | error e st' =>
          rw [hclient] at hconnected
          exact hconnected
  | false =>
      by_cases hd : call = .destroy
      · subst hd
        rw [answer, destroy]
        cases hh : st.handle with
        | none => exact hst
        | some h =>
            have hclose := (hclose h).onRemote fun _ => True
            have hst : I ({ st with handle := none } : ServiceState σ η).remote := hst
            exact (kept_onCached .destroyed hclose hst).2
      · rw [(remote_of_not_needsCluster s hneeds hd st).2]
        exact hst

end Keeping

end Service

end TableIndex
