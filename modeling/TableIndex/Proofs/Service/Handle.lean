import TableIndex.Proofs.Service.Recorded

/-!
# The handle of a service

A service either holds one handle or none, and what it does with them is a machine of these two kinds of states
(`Slot.Step`). That a closed handle is never used again is a property of the records of that machine
(`Slot.Fits`).
-/

namespace TableIndex

variable {σ η : Type}

/-! ## The slot -/

/-- The handle that is held, if there is one, and the number of handles given out so far. -/
structure Slot where
  held : Option Nat
  given : Nat

/-- The slot of a recorded service. -/
def ServiceState.slot (st : ServiceState (Recorded σ) (Nat × η)) : Slot :=
  ⟨st.handle.map Prod.fst, st.remote.given⟩

theorem ServiceState.slot_congr {st st' : ServiceState (Recorded σ) (Nat × η)} (hh : st.handle = st'.handle)
    (hg : st.remote.given = st'.remote.given) : st.slot = st'.slot := by
  rw [slot, slot, hh, hg]

/-- What a request does to the slot, with the contacts it makes and the reply it gets. -/
inductive Slot.Step : Request → Slot → List Contact → Reply (Nat × η) → Slot → Prop where
  | idle {r : Request} {slot : Slot} (reply : Reply (Nat × η)) :
      r.needsCluster = false → r ≠ .call .destroy → Step r slot [] reply slot
  | reused {r : Request} {reply : Reply (Nat × η)} {k n : Nat} (ops : List Operation) :
      r.needsCluster = true → (r = .client → ∃ h, reply = .client (.ok (k, h))) →
        Step r ⟨some k, n⟩ (ops.map (.called k)) reply ⟨some k, n⟩
  | connected {r : Request} {reply : Reply (Nat × η)} {n : Nat} (ops : List Operation) :
      r.needsCluster = true → (r = .client → ∃ h, reply = .client (.ok (n, h))) →
        Step r ⟨none, n⟩ (.connected n :: ops.map (.called n)) reply ⟨some n, n + 1⟩
  | refused {r : Request} {n : Nat} (cause : ClientError) :
      r.needsCluster = true → Step r ⟨none, n⟩ [.refused cause] (r.unconnected ⟨cause⟩) ⟨none, n⟩
  | closed {k n : Nat} (reply : Reply (Nat × η)) : Step (.call .destroy) ⟨some k, n⟩ [.closed k] reply ⟨none, n⟩
  | empty {n : Nat} : Step (.call .destroy) ⟨none, n⟩ [] (.call (.destroyed (.ok ()))) ⟨none, n⟩

/-- A log that goes with a slot: its handles were given out, the one that is held was not closed, and nothing
that follows the end of a handle is about it. -/
structure Slot.Fits (slot : Slot) (log : List Contact) : Prop where
  given : ∀ contact ∈ log, ∀ k, contact.handle? = some k → k < slot.given
  held : ∀ k, slot.held = some k → k < slot.given ∧ Contact.closed k ∉ log
  apart : log.Pairwise fun earlier later => ∀ k, earlier = .closed k → later.handle? ≠ some k

namespace Slot.Fits

variable {slot : Slot} {log : List Contact} {k n : Nat}

theorem nil : Fits ⟨none, n⟩ [] := ⟨nofun, nofun, .nil⟩

theorem apart_snoc {contact : Contact} (h : Fits slot log)
    (hopen : ∀ k, .closed k ∈ log → contact.handle? ≠ some k) :
    (log ++ [contact]).Pairwise fun earlier later => ∀ k, earlier = .closed k → later.handle? ≠ some k := by
  refine List.pairwise_append.mpr ⟨h.apart, List.pairwise_singleton .., fun earlier he later hl k hk => ?_⟩
  obtain rfl := List.mem_singleton.mp hl
  exact hopen k (hk ▸ he)

theorem given_snoc {contact : Contact} (h : Fits slot log) (hn : slot.given ≤ n)
    (hgiven : ∀ k, contact.handle? = some k → k < n) :
    ∀ c ∈ log ++ [contact], ∀ k, c.handle? = some k → k < n := by
  intro c hc k hk
  rcases List.mem_append.mp hc with hc | hc
  · exact Nat.lt_of_lt_of_le (h.given c hc k hk) hn
  · obtain rfl := List.mem_singleton.mp hc
    exact hgiven k hk

theorem not_closed_snoc {contact : Contact} (hlog : Contact.closed k ∉ log) (hne : contact ≠ .closed k) :
    Contact.closed k ∉ log ++ [contact] := by
  intro hc
  rcases List.mem_append.mp hc with hc | hc
  · exact hlog hc
  · exact hne (List.mem_singleton.mp hc).symm

theorem call (h : Fits ⟨some k, n⟩ log) (op : Operation) : Fits ⟨some k, n⟩ (log ++ [.called k op]) := by
  obtain ⟨hk, hopen⟩ := h.held k rfl
  refine ⟨h.given_snoc (Nat.le_refl n) fun k' hk' => ?_, fun k' hk' => ?_, h.apart_snoc fun k' hc hk' => ?_⟩
  · cases hk'
    exact hk
  · cases hk'
    exact ⟨hk, not_closed_snoc hopen nofun⟩
  · cases hk'
    exact hopen hc

theorem calls (h : Fits ⟨some k, n⟩ log) (ops : List Operation) :
    Fits ⟨some k, n⟩ (log ++ ops.map (.called k)) := by
  induction ops generalizing log with
  | nil =>
      rw [List.map_nil, List.append_nil]
      exact h
  | cons op ops ih =>
      rw [List.map_cons, List.append_cons]
      exact ih (h.call op)

/-- The number of a new handle is new, so that nothing in the log is about it. -/
theorem connect (h : Fits ⟨none, n⟩ log) : Fits ⟨some n, n + 1⟩ (log ++ [.connected n]) := by
  have hnew : Contact.closed n ∉ log := fun hc => Nat.lt_irrefl n (h.given _ hc n rfl)
  refine ⟨h.given_snoc (Nat.le_succ n) fun k hk => ?_, fun k hk => ?_, h.apart_snoc fun k hc hk => ?_⟩
  · cases hk
    exact Nat.lt_succ_self n
  · cases hk
    exact ⟨Nat.lt_succ_self n, not_closed_snoc hnew nofun⟩
  · cases hk
    exact hnew hc

theorem refuse (h : Fits ⟨none, n⟩ log) (cause : ClientError) : Fits ⟨none, n⟩ (log ++ [.refused cause]) :=
  ⟨h.given_snoc (Nat.le_refl n) nofun, nofun, h.apart_snoc fun _ _ => nofun⟩

theorem close (h : Fits ⟨some k, n⟩ log) : Fits ⟨none, n⟩ (log ++ [.closed k]) := by
  obtain ⟨hk, hopen⟩ := h.held k rfl
  refine ⟨h.given_snoc (Nat.le_refl n) fun k' hk' => ?_, nofun, h.apart_snoc fun k' hc hk' => ?_⟩
  · cases hk'
    exact hk
  · cases hk'
    exact hopen hc

theorem step {r : Request} {reply : Reply (Nat × η)} {contacts : List Contact} {slot' : Slot}
    (h : Fits slot log) (hstep : Step r slot contacts reply slot') : Fits slot' (log ++ contacts) := by
  cases hstep with
  | idle reply _ _ =>
      rw [List.append_nil]
      exact h
  | reused ops _ _ => exact h.calls ops
  | connected ops _ _ =>
      rw [List.append_cons]
      exact h.connect.calls ops
  | refused cause _ => exact h.refuse cause
  | closed reply => exact h.close
  | empty =>
      rw [List.append_nil]
      exact h

end Slot.Fits

/-! ## What a service does -/

namespace Service

variable {s : Service σ η} {st : ServiceState (Recorded σ) (Nat × η)}

theorem slot_of_handle {h : Nat × η} (hh : st.handle = some h) : st.slot = ⟨some h.1, st.remote.given⟩ := by
  rw [ServiceState.slot, hh, Option.map_some]

theorem slot_of_no_handle (hh : st.handle = none) : st.slot = ⟨none, st.remote.given⟩ := by
  rw [ServiceState.slot, hh, Option.map_none]

/-- What is done with a handle is to call it. -/
theorem contacts_of_acted (h : Nat × η) {r : Request} (hr : r.needsCluster = true)
    (st : ServiceState (Recorded σ) (Nat × η)) :
    ∃ ops : List Operation,
      (s.recorded.acted h r st).2.remote.log = st.remote.log ++ ops.map (.called h.1) ∧
      (s.recorded.acted h r st).2.slot = st.slot ∧
      (r = .client → ∃ h', (s.recorded.acted h r st).1 = .client (.ok (h.1, h'))) := by
  cases r with
  | client => exact ⟨[], (List.append_nil _).symm, rfl, fun _ => ⟨h.2, rfl⟩⟩
  | call c =>
      let I : Recorded σ → Prop := fun r =>
        (∃ ops : List Operation, r.log = st.remote.log ++ ops.map (.called h.1)) ∧ r.given = st.remote.given
      have hcalls : ∀ {β} (k : Call β), Keeps I ((s.recorded.connector.gateway h).perform k) := by
        intro β k r hr
        obtain ⟨⟨ops, hlog⟩, hgiven⟩ := hr
        have hafter := Recorded.stateAfter_noting (.called h.1 k.operation)
          ((s.connector.gateway h.2).perform k) r
        refine ⟨⟨ops ++ [k.operation], ?_⟩, ?_⟩
        · refine (congrArg Recorded.log hafter).trans ?_
          rw [hlog, List.map_append, List.append_assoc]
          rfl
        · exact (congrArg Recorded.given hafter).trans hgiven
      have hst : I st.remote := ⟨⟨[], (List.append_nil _).symm⟩, rfl⟩
      obtain ⟨hhandle, ⟨ops, hlog⟩, hgiven⟩ := kept_act (s := s.recorded) hcalls hr hst
      exact ⟨ops, hlog, ServiceState.slot_congr hhandle hgiven, nofun⟩

/-- A request goes with a step of the slot, and with what the step adds to the record. -/
def Steps (s : Service σ η) (r : Request) (st : ServiceState (Recorded σ) (Nat × η)) : Prop :=
  ∃ contacts, (s.recorded.reply r st).2.remote.log = st.remote.log ++ contacts ∧
    Slot.Step r st.slot contacts (s.recorded.reply r st).1 (s.recorded.reply r st).2.slot

theorem steps_of_handle {r : Request} {h : Nat × η} (hr : r.needsCluster = true) (hh : st.handle = some h) :
    Steps s r st := by
  have hrun : s.recorded.reply r st = s.recorded.acted h r st := by
    rw [reply_of_needsCluster s.recorded hr, client_of_handle hh]
  obtain ⟨ops, hlog, hkept, hclient⟩ := contacts_of_acted (s := s) h hr st
  refine ⟨ops.map (.called h.1), ?_, ?_⟩
  · rw [hrun]
    exact hlog
  · rw [hrun, hkept, slot_of_handle hh]
    exact .reused ops hr hclient

theorem steps_of_connect {r : Request} {h : η} {remote : σ} (hr : r.needsCluster = true)
    (hh : st.handle = none) (hc : s.connector.connect st.remote.remote = .ok h remote) : Steps s r st := by
  let n := st.remote.given
  let st' : ServiceState (Recorded σ) (Nat × η) :=
    { st with handle := some (n, h), remote := ⟨remote, st.remote.log ++ [.connected n], n + 1⟩ }
  have hconnect : s.recorded.connector.connect st.remote = .ok (n, h) st'.remote := by
    show Recorded.connect s.connector.connect st.remote = _
    rw [Recorded.connect, hc]
  have hrun : s.recorded.reply r st = s.recorded.acted (n, h) r st' := by
    rw [reply_of_needsCluster s.recorded hr, client_of_connect hh hconnect]
  obtain ⟨ops, hlog, hkept, hclient⟩ := contacts_of_acted (s := s) (n, h) hr st'
  refine ⟨.connected n :: ops.map (.called n), ?_, ?_⟩
  · rw [hrun, hlog, List.append_cons]
  · rw [hrun, hkept, slot_of_no_handle hh]
    exact .connected ops hr hclient

theorem steps_of_refusal {r : Request} {e : ClientError} {remote : σ} (hr : r.needsCluster = true)
    (hh : st.handle = none) (hc : s.connector.connect st.remote.remote = .error e remote) : Steps s r st := by
  let st' : ServiceState (Recorded σ) (Nat × η) :=
    { st with remote := { st.remote with remote, log := st.remote.log ++ [.refused e] } }
  have hconnect : s.recorded.connector.connect st.remote = .error e st'.remote := by
    show Recorded.connect s.connector.connect st.remote = _
    rw [Recorded.connect, hc]
  have hrun : s.recorded.reply r st = (r.unconnected ⟨e⟩, st') := by
    rw [reply_of_needsCluster s.recorded hr, client_of_refusal hh hconnect]
  have hslot : st'.slot = ⟨none, st.remote.given⟩ := slot_of_no_handle hh
  refine ⟨[.refused e], ?_, ?_⟩
  · rw [hrun]
  · rw [hrun, slot_of_no_handle hh, hslot]
    exact .refused e hr

theorem reply_destroy_of_no_handle (s : Service σ η) (hh : st.handle = none) :
    s.recorded.reply (.call .destroy) st = (.call (.destroyed (.ok ())), st) := by
  rw [reply, answer, destroy, hh]
  rfl

theorem steps_destroy (s : Service σ η) (st : ServiceState (Recorded σ) (Nat × η)) :
    Steps s (.call .destroy) st := by
  rw [Steps]
  cases hh : st.handle with
  | none =>
      rw [reply_destroy_of_no_handle s hh, slot_of_no_handle hh]
      exact ⟨[], (List.append_nil _).symm, .empty⟩
  | some h =>
      have hclosed : (s.recorded.reply (.call .destroy) st).2 =
          { st with
            handle := none
            remote :=
              { st.remote with
                remote := stateAfter ((s.connector.gateway h.2).close st.remote.remote)
                log := st.remote.log ++ [.closed h.1] } } := by
        rw [reply, answer, destroy, hh]
        simp only
        rw [snd_tell, onRemote, stateAfter_onCached, stateAfter_onRemote]
        simp only [Service.recorded, Connector.recorded, Gateway.recorded, Recorded.stateAfter_noting]
      rw [hclosed, slot_of_handle hh]
      exact ⟨[.closed h.1], rfl, .closed _⟩

theorem steps_idle {c : ServiceCall} (s : Service σ η) (hc : c.needsCluster = false) (hd : c ≠ .destroy)
    (st : ServiceState (Recorded σ) (Nat × η)) : Steps s (.call c) st := by
  obtain ⟨hhandle, hremote⟩ := remote_of_not_needsCluster s.recorded hc hd st
  have hkept : (s.recorded.reply (.call c) st).2.slot = st.slot :=
    ServiceState.slot_congr hhandle (congrArg Recorded.given hremote)
  refine ⟨[], ?_, ?_⟩
  · rw [List.append_nil]
    exact congrArg Recorded.log hremote
  · rw [hkept]
    exact .idle _ hc fun he => hd (Request.call.inj he)

theorem steps_reply (s : Service σ η) (r : Request) (st : ServiceState (Recorded σ) (Nat × η)) :
    Steps s r st := by
  cases hr : r.needsCluster with
  | true =>
      cases hh : st.handle with
      | some h => exact steps_of_handle hr hh
      | none =>
          cases hc : s.connector.connect st.remote.remote with
          | ok h remote => exact steps_of_connect hr hh hc
          | error e remote => exact steps_of_refusal hr hh hc
  | false =>
      cases r with
      | client => cases hr
      | call c =>
          by_cases hd : c = .destroy
          · rw [hd]
            exact steps_destroy s st
          · exact steps_idle s hr hd st

theorem fits_reply (s : Service σ η) (r : Request)
    (h : st.slot.Fits st.remote.log) :
    (s.recorded.reply r st).2.slot.Fits (s.recorded.reply r st).2.remote.log := by
  obtain ⟨contacts, hlog, hstep⟩ := steps_reply s r st
  rw [hlog]
  exact h.step hstep

theorem fits_after (s : Service σ η) (rs : List Request) (h : st.slot.Fits st.remote.log) :
    (s.recorded.after rs st).slot.Fits (s.recorded.after rs st).remote.log := by
  induction rs generalizing st with
  | nil => exact h
  | cons r rs ih => exact ih (fits_reply s r h)

/-- One more request, after any requests to a service that starts without a handle, is a step of the slot. Of a
handle that is closed nothing is heard any more, and without a handle there is nothing to destroy. Recording
makes no difference to what is replied. -/
theorem lifecycle (s : Service σ η) (cache : SchemaCache) (remote : σ) (rs : List Request) (r : Request) :
    let before := s.recorded.after rs { cache, remote := { remote } }
    let after := s.recorded.reply r before
    (∃ contacts, after.2.remote.log = before.remote.log ++ contacts ∧
      Slot.Step r before.slot contacts after.1 after.2.slot) ∧
    (after.2.remote.log.Pairwise fun earlier later => ∀ k, earlier = .closed k → later.handle? ≠ some k) ∧
    (r = .call .destroy → before.handle = none → after = (.call (.destroyed (.ok ())), before)) ∧
    s.reply r (s.after rs { cache, remote }) = (after.1.through Prod.snd, after.2.unrecorded) := by
  intro before after
  have hbefore : before.slot.Fits before.remote.log := fits_after s rs .nil
  refine ⟨steps_reply s r before, (fits_reply s r hbefore).apart, fun hr hno => ?_, ?_⟩
  · subst hr
    exact reply_destroy_of_no_handle s hno
  · have hplain : s.after rs { cache, remote } = before.unrecorded :=
      after_unrecorded s rs { cache, remote := { remote } }
    rw [hplain]
    exact reply_unrecorded s r before

/-- The handle that comes after a closed one is another one. -/
example (c : Cluster) :
    ((inMemory .default "").recorded.after [.client, .call .destroy, .call .destroy, .client]
      { remote := { remote := c } }).remote.log = [.connected 0, .closed 0, .connected 1] := rfl

end Service

end TableIndex
