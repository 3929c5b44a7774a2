import TableIndex.Proofs.Service.View

/-!
# Services with a record

A recorded connector numbers the handles it gives out and notes every contact with them. What is noted makes no
difference to what a service does: through a recorded connector it gives the same replies.
-/

namespace TableIndex

variable {σ η κ ε α : Type}

/-! ## Recording -/

/-- What a service does with its connector: connecting, which gives the handle of a number or is refused, and
calling and closing what is behind a handle. -/
inductive Contact where
  | connected (k : Nat)
  | refused (cause : ClientError)
  | called (k : Nat) (op : Operation)
  | closed (k : Nat)

/-- The handle that a contact is about. -/
def Contact.handle? : Contact → Option Nat
  | connected k => some k
  | refused _ => none
  | called k _ => some k
  | closed k => some k

/-- A state, the contacts made so far, and the number of handles given out. -/
structure Recorded (σ : Type) where
  remote : σ
  log : List Contact := []
  given : Nat := 0

namespace Recorded

/-- Notes a contact and acts. -/
def noting (contact : Contact) (x : EStateM ε σ α) : EStateM ε (Recorded σ) α := fun r =>
  match x r.remote with
  | .ok a s => .ok a { r with remote := s, log := r.log ++ [contact] }
  | .error e s => .error e { r with remote := s, log := r.log ++ [contact] }

/-- Notes whether connecting succeeds, and gives the handle the next number. -/
def connect (x : EStateM ClientError σ η) : EStateM ClientError (Recorded σ) (Nat × η) := fun r =>
  match x r.remote with
  | .ok h s => .ok (r.given, h) ⟨s, r.log ++ [.connected r.given], r.given + 1⟩
  | .error e s => .error e { r with remote := s, log := r.log ++ [.refused e] }

theorem stateAfter_noting (contact : Contact) (x : EStateM ε σ α) (r : Recorded σ) :
    stateAfter (noting contact x r) =
      { r with remote := stateAfter (x r.remote), log := r.log ++ [contact] } := by
  rw [noting]
  cases x r.remote <;> rfl

end Recorded

/-- The gateway of the handle `k`, with all that is done to it recorded. -/
def Gateway.recorded (g : Gateway σ) (k : Nat) : Gateway (Recorded σ) where
  perform := fun call => Recorded.noting (.called k call.operation) (g.perform call)
  close := Recorded.noting (.closed k) g.close

/-- The connector with all that is done to it recorded. -/
def Connector.recorded (c : Connector σ η) : Connector (Recorded σ) (Nat × η) where
  connect := Recorded.connect c.connect
  gateway := fun h => (c.gateway h.2).recorded h.1

/-- The service with all that it does to its connector recorded. -/
def Service.recorded (s : Service σ η) : Service (Recorded σ) (Nat × η) :=
  ⟨s.naming, s.baseConfigSet, s.connector.recorded⟩

/-! ## Requests -/

/-- What can be asked of a service: its handle, or an operation. -/
inductive Request where
  | client
  | call (call : ServiceCall)

/-- What it gives: the handle, or an answer. -/
inductive Reply (η : Type) where
  | client (result : Except ConnectError η)
  | call (answer : ServiceAnswer)

/-- A reply, and what a view shows of the handle. -/
def Reply.through (view : η → κ) : Reply η → Reply κ
  | client (.ok h) => client (.ok (view h))
  | client (.error e) => client (.error e)
  | call a => call a

namespace Request

/-- Whether a request needs a handle. -/
def needsCluster : Request → Bool
  | client => true
  | call c => c.needsCluster

/-- The reply to a request for which the service could not connect. -/
def unconnected : Request → ConnectError → Reply η
  | client, e => .client (.error e)
  | call c, e => .call (c.unconnected e)

end Request

namespace Service

/-- The reply to one request, and the state it leaves. -/
def reply (s : Service σ η) (r : Request) (st : ServiceState σ η) : Reply η × ServiceState σ η :=
  match r with
  | .client =>
    match s.client st with
    | .ok h st => (.client (.ok h), st)
    | .error e st => (.client (.error e), st)
  | .call c => ((.call (s.answer c st).1), (s.answer c st).2)

/-- The state that requests leave, made one after the other. -/
def after (s : Service σ η) (rs : List Request) (st : ServiceState σ η) : ServiceState σ η :=
  rs.foldl (fun st r => (s.reply r st).2) st

/-- The reply to a request once the service has the handle `h`. -/
def acted (s : Service σ η) (h : η) (r : Request) (st : ServiceState σ η) : Reply η × ServiceState σ η :=
  match r with
  | .client => (.client (.ok h), st)
  | .call c => ((.call (s.act (s.connector.gateway h) c st).1), (s.act (s.connector.gateway h) c st).2)

theorem reply_of_needsCluster (s : Service σ η) {r : Request} (h : r.needsCluster = true)
    (st : ServiceState σ η) : s.reply r st =
      match s.client st with
      | .ok h st' => s.acted h r st'
      | .error e st' => (r.unconnected e, st') := by
  cases r with
  | client =>
      rw [reply]
      cases s.client st <;> rfl
  | call c =>
      rw [reply, answer_of_needsCluster s h]
      cases s.client st <;> rfl

end Service

/-! ## Recording changes nothing -/

/-- The state of a service without what was recorded. -/
def ServiceState.unrecorded (st : ServiceState (Recorded σ) (Nat × η)) : ServiceState σ η :=
  ⟨st.handle.map Prod.snd, st.cache, st.remote.remote⟩

theorem Recorded.projects_noting (contact : Contact) (x : EStateM ε σ α) :
    Projects Recorded.remote (noting contact x) x := by
  intro r
  rw [noting]
  cases x r.remote <;> rfl

theorem Connector.through_recorded (c : Connector σ η) : c.recorded.Through Recorded.remote Prod.snd c where
  connect r := by
    simp only [recorded, Recorded.connect]
    cases c.connect r.remote <;> rfl
  perform _ _ _ := Recorded.projects_noting _ _
  close _ := Recorded.projects_noting _ _

namespace Service

theorem reply_unrecorded (s : Service σ η) (r : Request) (st : ServiceState (Recorded σ) (Nat × η)) :
    s.reply r st.unrecorded =
      ((s.recorded.reply r st).1.through Prod.snd, (s.recorded.reply r st).2.unrecorded) := by
  have hc := s.connector.through_recorded
  cases r with
  | client =>
      have hclient : s.client st.unrecorded = _ := client_through hc st
      rw [reply, reply, hclient, show client ⟨_, _, _⟩ st = s.recorded.client st from rfl]
      cases s.recorded.client st <;> rfl
  | call c =>
      have hanswer : s.answer c st.unrecorded = _ := answer_through hc c st
      rw [reply, reply, hanswer]
      rfl

theorem after_unrecorded (s : Service σ η) (rs : List Request) (st : ServiceState (Recorded σ) (Nat × η)) :
    s.after rs st.unrecorded = (s.recorded.after rs st).unrecorded := by
  induction rs generalizing st with
  | nil => rfl
  | cons r rs ih =>
      rw [after, List.foldl_cons, reply_unrecorded]
      exact ih _

end Service

end TableIndex
