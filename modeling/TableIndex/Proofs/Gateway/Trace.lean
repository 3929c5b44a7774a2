import TableIndex.Proofs.Gateway.Programs

/-!
# Calls and what came of them

A traced gateway notes every call with its result. Noting it makes no difference to what programs do.
-/

namespace TableIndex

variable {σ ε α β : Type}

/-! ## Exchanges -/

/-- A call and its result. -/
inductive Exchange where
  | asked (call : Call Bool) (result : Except ClientError Bool)
  | listed (call : Call (List Json.Object)) (result : Except ClientError (List Json.Object))
  | named (call : Call String) (result : Except ClientError String)
  | changed (call : Call AdminResponse) (result : Except ClientError AdminResponse)
  | changedCollection (call : Call CollectionResponse) (result : Except ClientError CollectionResponse)

namespace Exchange

/-- The exchange of a call and a result. -/
def of : {α : Type} → Call α → Except ClientError α → Exchange
  | _, .collectionExists name, r => .asked (.collectionExists name) r
  | _, .configExists name, r => .asked (.configExists name) r
  | _, .createConfig base name, r => .changed (.createConfig base name) r
  | _, .createCollection name configSet shards replicas, r =>
    .changedCollection (.createCollection name configSet shards replicas) r
  | _, .deleteCollection name, r => .changedCollection (.deleteCollection name) r
  | _, .deleteConfig name, r => .changed (.deleteConfig name) r
  | _, .listFields table, r => .listed (.listFields table) r
  | _, .uniqueKey table, r => .named (.uniqueKey table) r
  | _, .submitSchemaUpdates table updates, r => .changed (.submitSchemaUpdates table updates) r
  | _, .addDocuments table docs, r => .changed (.addDocuments table docs) r
  | _, .deleteByIds table ids, r => .changed (.deleteByIds table ids) r
  | _, .deleteByQuery table query, r => .changed (.deleteByQuery table query) r
  | _, .commit table, r => .changed (.commit table) r

/-- The kind of the call. -/
def operation : Exchange → Operation
  | asked call _ => call.operation
  | listed call _ => call.operation
  | named call _ => call.operation
  | changed call _ => call.operation
  | changedCollection call _ => call.operation

/-- The error that an exchange came to: the one of the call, or else what the cluster reports by a status other
than zero, by errors, or by not claiming success. -/
def failure? : Exchange → Option ClientError
  | asked _ (.error e) => some e
  | listed _ (.error e) => some e
  | named _ (.error e) => some e
  | changed _ (.error e) => some e
  | changedCollection _ (.error e) => some e
  | changed _ (.ok r) =>
    if r.status = 0 ∧ r.errors.isNone then none else some (.api r.status (r.errors.getD .null))
  | changedCollection _ (.ok r) =>
    if r.success ∧ r.status = 0 ∧ r.errors.isNone then none
    else some (.api r.status (r.errors.getD .null))
  | _ => none

theorem failure?_of_error (call : Call α) (e : ClientError) : (of call (.error e)).failure? = some e := by
  cases call <;> rfl

theorem failure?_of_asks {call : Call α} (h : call.Asks) (a : α) : (of call (.ok a)).failure? = none := by
  cases call with
  | collectionExists name => rfl
  | configExists name => rfl
  | listFields table => rfl
  | uniqueKey table => rfl
  | _ => cases h

theorem failure?_changed (call : Call AdminResponse) (r : AdminResponse) :
    (changed call (.ok r)).failure? = if r.isSuccess then none else some r.toError := by
  simp [failure?, AdminResponse.isSuccess, AdminResponse.toError]

theorem failure?_changedCollection (call : Call CollectionResponse) (r : CollectionResponse) :
    (changedCollection call (.ok r)).failure? = if r.isSuccess then none else some r.toError := by
  simp [failure?, CollectionResponse.isSuccess, CollectionResponse.toError, and_assoc]

theorem operation_of (call : Call α) (r : Except ClientError α) : (of call r).operation = call.operation := by
  cases call <;> rfl

end Exchange

/-! ## Traced gateways -/

/-- A state, and the exchanges made so far. -/
structure Traced (σ : Type) where
  remote : σ
  trace : List Exchange := []

namespace Traced

/-- Acts without a call. -/
def onRemote (x : EStateM ε σ α) : EStateM ε (Traced σ) α := fun t =>
  match x t.remote with
  | .ok a r => .ok a { t with remote := r }
  | .error e r => .error e { t with remote := r }

/-- Acts, and notes it as the call with what came of it. -/
def noting (call : Call α) (x : EStateM ClientError σ α) : EStateM ClientError (Traced σ) α := fun t =>
  match x t.remote with
  | .ok a r => .ok a ⟨r, t.trace ++ [.of call (.ok a)]⟩
  | .error e r => .error e ⟨r, t.trace ++ [.of call (.error e)]⟩

theorem projects_onRemote (x : EStateM ε σ α) : Projects remote (onRemote x) x := by
  intro t
  rw [onRemote]
  cases x t.remote <;> rfl

theorem projects_noting (call : Call α) (x : EStateM ClientError σ α) :
    Projects remote (noting call x) x := by
  intro t
  rw [noting]
  cases x t.remote <;> rfl

theorem trace_onRemote (x : EStateM ε σ α) (t : Traced σ) : (stateAfter (onRemote x t)).trace = t.trace := by
  rw [onRemote]
  cases x t.remote <;> rfl

end Traced

/-- The gateway with all calls traced. -/
def Gateway.traced (g : Gateway σ) : Gateway (Traced σ) where
  perform := fun call => Traced.noting call (g.perform call)
  close := Traced.onRemote g.close

section Calls

variable (g : Gateway σ)

theorem traced_of_ok {call : Call α} {a : α} {r : σ} {t : Traced σ} (h : g.perform call t.remote = .ok a r) :
    g.traced.perform call t = .ok a ⟨r, t.trace ++ [.of call (.ok a)]⟩ := by
  show Traced.noting call (g.perform call) t = _
  rw [Traced.noting, h]

theorem traced_of_error {call : Call α} {e : ClientError} {r : σ} {t : Traced σ}
    (h : g.perform call t.remote = .error e r) :
    g.traced.perform call t = .error e ⟨r, t.trace ++ [.of call (.error e)]⟩ := by
  show Traced.noting call (g.perform call) t = _
  rw [Traced.noting, h]

/-- A call adds one exchange to the trace, which is about it. -/
theorem trace_perform (call : Call α) (t : Traced σ) :
    ∃ result, (stateAfter (g.traced.perform call t)).trace = t.trace ++ [.of call result] := by
  cases hrun : g.perform call t.remote with
  | ok a r =>
      rw [traced_of_ok g hrun]
      exact ⟨.ok a, rfl⟩
  | error e r =>
      rw [traced_of_error g hrun]
      exact ⟨.error e, rfl⟩

/-- A call whose result is checked adds one exchange, which failed exactly if the check gives an error. -/
theorem trace_checked {call : Call α} {f : α → EStateM ClientError (Traced σ) β}
    (hf : ∀ a t, stateAfter (f a t) = t ∧ error? (f a t) = (Exchange.of call (.ok a)).failure?)
    (t : Traced σ) :
    ∃ result, (stateAfter ((g.traced.perform call >>= f) t)).trace = t.trace ++ [.of call result] ∧
      error? ((g.traced.perform call >>= f) t) = (Exchange.of call result).failure? := by
  cases hrun : g.perform call t.remote with
  | ok a r =>
      obtain ⟨hstate, herror⟩ := hf a ⟨r, t.trace ++ [.of call (.ok a)]⟩
      rw [bind_of_ok (traced_of_ok g hrun), hstate, herror]
      exact ⟨.ok a, rfl, rfl⟩
  | error e r =>
      rw [bind_of_error (traced_of_error g hrun)]
      exact ⟨.error e, rfl, (Exchange.failure?_of_error call e).symm⟩

theorem trace_change (call : Call AdminResponse) (hcall : ∀ r, Exchange.of call r = .changed call r)
    (t : Traced σ) :
    ∃ result, (stateAfter (g.traced.change call t)).trace = t.trace ++ [.of call result] ∧
      error? (g.traced.change call t) = (Exchange.of call result).failure? := by
  refine trace_checked g (fun a u => ?_) t
  rw [hcall, Exchange.failure?_changed]
  cases a.isSuccess <;> exact ⟨rfl, rfl⟩

theorem trace_changeCollection (call : Call CollectionResponse)
    (hcall : ∀ r, Exchange.of call r = .changedCollection call r) (t : Traced σ) :
    ∃ result, (stateAfter (g.traced.changeCollection call t)).trace = t.trace ++ [.of call result] ∧
      error? (g.traced.changeCollection call t) = (Exchange.of call result).failure? := by
  refine trace_checked g (fun a u => ?_) t
  rw [hcall, Exchange.failure?_changedCollection]
  cases a.isSuccess <;> exact ⟨rfl, rfl⟩

end Calls

end TableIndex
