import TableIndex.Proofs.Cluster.Recovery
import TableIndex.Proofs.Gateway.Trace

/-!
# Failing and stopping

After a call that failed, or whose response is no success, a program makes no other one, and its error is about
that call. Whatever a gateway answers, this holds of every program.
-/

namespace TableIndex

variable {σ τ ε ε' α β : Type}

/-! ## Exchanges of one run -/

/-- The exchanges of a program that came to an error, or to none: nothing failed before the last one, and the last
one failed with that error. -/
inductive Ends : List Exchange → Option ClientError → Prop where
  | served {es : List Exchange} : (∀ e ∈ es, e.failure? = none) → Ends es none
  | failed {es : List Exchange} {e : Exchange} {cause : ClientError} :
      (∀ e ∈ es, e.failure? = none) → e.failure? = some cause → Ends (es ++ [e]) (some cause)

namespace Ends

variable {es es' before later : List Exchange} {e : Exchange} {cause : ClientError}
  {failure : Option ClientError}

theorem nil : Ends [] none := .served nofun

theorem single (e : Exchange) : Ends [e] e.failure? := by
  cases he : e.failure? with
  | none =>
      refine .served fun e' he' => ?_
      obtain rfl := List.mem_singleton.mp he'
      exact he
  | some cause =>
      have hends : Ends ([] ++ [e]) (some cause) := .failed nofun he
      exact hends

theorem append (h : Ends es none) (h' : Ends es' failure) : Ends (es ++ es') failure := by
  obtain ⟨hes⟩ := h
  have hall : ∀ {es'' : List Exchange}, (∀ e ∈ es'', e.failure? = none) →
      ∀ e ∈ es ++ es'', e.failure? = none := fun h e he =>
    (List.mem_append.mp he).elim (hes e) (h e)
  cases h' with
  | served h => exact .served (hall h)
  | failed h he =>
      rw [← List.append_assoc]
      exact .failed (hall h) he

/-- A call that failed is the last one. -/
theorem last (h : Ends (before ++ e :: later) failure) (he : e.failure? = some cause) :
    later = [] ∧ failure = some cause := by
  generalize hes : before ++ e :: later = es at h
  cases h with
  | served h =>
      have hnone := h e (by rw [← hes]; simp)
      cases hnone.symm.trans he
  | @failed es e' cause' h he' =>
      rcases List.eq_nil_or_concat later with rfl | ⟨rest, x, rfl⟩
      · obtain ⟨-, hlast⟩ := List.append_inj' hes rfl
        obtain rfl : e = e' := List.cons.inj hlast |>.1
        exact ⟨rfl, he'.symm.trans he⟩
      · -- Then the call that failed is before the last one, where none has.
        rw [List.concat_eq_append, ← List.cons_append, ← List.append_assoc] at hes
        obtain ⟨rfl, -⟩ := List.append_inj' hes rfl
        have hnone := h e (by simp)
        cases hnone.symm.trans he

end Ends

/-- The exchanges of every run end with what the result of the run is about. -/
def FailStop (trace : τ → List Exchange) (cause : ε → Option ClientError) (x : EStateM ε τ α) : Prop :=
  ∀ s, ∃ exchanges, trace (stateAfter (x s)) = trace s ++ exchanges ∧
    Ends exchanges ((error? (x s)).bind cause)

namespace FailStop

variable {trace : τ → List Exchange} {cause : ε → Option ClientError} {cause' : ε' → Option ClientError}
  {x : EStateM ε τ α}

theorem pure (a : α) : FailStop trace cause (Pure.pure a) := fun s =>
  ⟨[], (List.append_nil (trace s)).symm, .nil⟩

theorem throw {e : ε} (h : cause e = none) : FailStop trace cause (MonadExcept.throw e : EStateM ε τ α) := by
  intro s
  refine ⟨[], (List.append_nil (trace s)).symm, ?_⟩
  show Ends [] (cause e)
  rw [h]
  exact .nil

theorem silent (h : ∀ s, ∃ a t, x s = .ok a t ∧ trace t = trace s) : FailStop trace cause x := by
  intro s
  obtain ⟨a, t, hx, ht⟩ := h s
  rw [hx]
  exact ⟨[], by rw [List.append_nil]; exact ht, .nil⟩

theorem bind {f : α → EStateM ε τ β} (hx : FailStop trace cause x) (hf : ∀ a, FailStop trace cause (f a)) :
    FailStop trace cause (x >>= f) := by
  intro s
  obtain ⟨es, htrace, hends⟩ := hx s
  cases hrun : x s with
  | ok a t =>
      rw [hrun] at htrace hends
      obtain ⟨es', htrace', hends'⟩ := hf a t
      rw [bind_of_ok hrun]
      refine ⟨es ++ es', ?_, hends.append hends'⟩
      rw [htrace', ← List.append_assoc, ← htrace]
      rfl
  | error e t =>
      rw [hrun] at htrace hends
      rw [bind_of_error hrun]
      exact ⟨es, htrace, hends⟩

theorem ite {c : Prop} [Decidable c] {y : EStateM ε τ α} (hx : FailStop trace cause x)
    (hy : FailStop trace cause y) : FailStop trace cause (if c then x else y) := by
  split
  · exact hx
  · exact hy

/-- Other words for an error are about the same call. -/
theorem adaptExcept {f : ε → ε'} (hf : ∀ e, cause' (f e) = cause e) (hx : FailStop trace cause x) :
    FailStop trace cause' (EStateM.adaptExcept f x) := by
  intro s
  obtain ⟨es, htrace, hends⟩ := hx s
  cases hrun : x s with
  | ok a t =>
      rw [hrun] at htrace hends
      rw [adaptExcept_of_ok hrun]
      exact ⟨es, htrace, hends⟩
  | error e t =>
      rw [hrun] at htrace hends
      rw [adaptExcept_of_error hrun]
      refine ⟨es, htrace, ?_⟩
      show Ends es (cause' (f e))
      rw [hf]
      exact hends

theorem onRemote (hx : FailStop trace cause x) :
    FailStop (fun s => trace s.remote) cause (Cached.onRemote x) := by
  intro s
  obtain ⟨es, htrace, hends⟩ := hx s.remote
  refine ⟨es, ?_, ?_⟩
  · rw [stateAfter_onRemote]
    exact htrace
  · cases hrun : x s.remote with
    | ok a r =>
        rw [hrun] at hends
        rw [Cached.onRemote_of_ok hrun]
        exact hends
    | error e r =>
        rw [hrun] at hends
        rw [Cached.onRemote_of_error hrun]
        exact hends

theorem onRemoteOr {f : ε → ε'} (hf : ∀ e, cause' (f e) = cause e) (hx : FailStop trace cause x) :
    FailStop (fun s => trace s.remote) cause' (Cached.onRemoteOr f x) :=
  (hx.adaptExcept hf).onRemote

/-- A call that adds one exchange, and fails as that does. -/
theorem exchange {call : Call α} {x : EStateM ClientError (Traced σ) β}
    (h : ∀ t, ∃ result, (stateAfter (x t)).trace = t.trace ++ [.of call result] ∧
      error? (x t) = (Exchange.of call result).failure?) : FailStop Traced.trace some x := by
  intro t
  obtain ⟨result, htrace, herror⟩ := h t
  rw [herror, Option.bind_fun_some]
  exact ⟨[.of call result], htrace, .single _⟩

end FailStop

/-! ## Calls -/

section Calls

variable (g : Gateway σ)

theorem failStop_asks {call : Call α} (h : call.Asks) : FailStop Traced.trace some (g.traced.perform call) := by
  have hpure : FailStop Traced.trace some (g.traced.perform call >>= Pure.pure) :=
    .exchange (trace_checked g fun a _ => ⟨rfl, (Exchange.failure?_of_asks h a).symm⟩)
  rwa [bind_pure] at hpure

theorem failStop_change {call : Call AdminResponse} (hcall : ∀ r, Exchange.of call r = .changed call r) :
    FailStop Traced.trace some (g.traced.change call) := .exchange (trace_change g call hcall)

theorem failStop_changeCollection {call : Call CollectionResponse}
    (hcall : ∀ r, Exchange.of call r = .changedCollection call r) :
    FailStop Traced.trace some (g.traced.changeCollection call) :=
  .exchange (trace_changeCollection g call hcall)

end Calls

/-! ## Programs -/

section Programs

variable (g : Gateway σ)

theorem Provisioner.failStop_create (p : Provisioner) (config : CollectionConfig) :
    FailStop Traced.trace CreateError.clientError? (p.create g.traced config) := by
  simp only [create]
  cases p.naming.qualify config.collectionName with
  | none => exact .throw rfl
  | some q =>
      have htail : ∀ there : Bool, FailStop Traced.trace CreateError.clientError?
          (do
            (g.traced.changeCollection (.createCollection q q config.shards config.replicas)).adaptExcept
              (CreateError.collection config.collectionName q (!there))
            return CreateOutcome.created) := fun there =>
        .bind (.adaptExcept (fun _ => rfl) (failStop_changeCollection g fun _ => rfl)) fun _ => .pure _
      refine .bind (.adaptExcept (fun _ => rfl) (failStop_asks g trivial)) fun exists_ => .ite (.pure _) ?_
      refine .bind (.adaptExcept (fun _ => rfl) (failStop_asks g trivial)) fun there => .ite ?_ (htail there)
      exact .bind (.adaptExcept (fun _ => rfl) (failStop_change g fun _ => rfl)) fun _ => htail there

theorem Provisioner.failStop_collectionExists (p : Provisioner) (table : String) :
    FailStop Traced.trace some (p.collectionExists g.traced table) := by
  rw [collectionExists]
  cases p.naming.qualify table with
  | none => exact .pure _
  | some q => exact failStop_asks g trivial

theorem Provisioner.failStop_configSetExists (p : Provisioner) (table : String) :
    FailStop Traced.trace some (p.configSetExists g.traced table) := by
  rw [configSetExists]
  cases p.naming.qualify table with
  | none => exact .pure _
  | some q => exact failStop_asks g trivial

theorem Provisioner.failStop_delete (p : Provisioner) (table : String) :
    FailStop (fun s => s.remote.trace) (fun e => some e.clientError) (p.delete g.traced table) := by
  simp only [delete]
  cases p.naming.qualify table with
  | none => exact .pure _
  | some q =>
      refine .bind (.onRemoteOr (fun _ => rfl) (failStop_asks g trivial)) fun there => .ite (.pure _) ?_
      refine .bind (.onRemoteOr (fun _ => rfl) (failStop_changeCollection g fun _ => rfl)) fun _ => ?_
      refine .bind (.silent fun s => ⟨(), _, rfl, rfl⟩) fun _ => ?_
      refine .bind (.onRemoteOr (fun _ => rfl) (failStop_asks g trivial)) fun there => .ite (.pure _) ?_
      exact .bind (.onRemoteOr (fun _ => rfl) (failStop_change g fun _ => rfl)) fun _ => .pure _

namespace Schema

variable (naming : NamingPolicy) (table : String)

theorem failStop_fetch (q : String) :
    FailStop Traced.trace GetSchemaError.clientError? (fetch g.traced q table) := by
  refine .bind (.adaptExcept (fun _ => rfl) (failStop_asks g trivial)) fun there => .ite (.throw rfl) ?_
  refine .bind (.adaptExcept (fun _ => rfl) (failStop_asks g trivial)) fun fields => ?_
  refine .bind (.adaptExcept (fun _ => rfl) (failStop_asks g trivial)) fun key => ?_
  cases ofProperties key fields with
  | ok schema => exact .pure schema
  | error cause => exact .throw rfl

theorem failStop_get :
    FailStop (fun s => s.remote.trace) GetSchemaError.clientError? (get naming g.traced table) := by
  rw [get]
  cases naming.qualify table with
  | none => exact .throw rfl
  | some q =>
      refine .bind (.silent fun s => ⟨s.cache.lookup q, s, rfl, rfl⟩) fun known => ?_
      cases known with
      | some schema => exact .pure schema
      | none =>
          refine .bind (failStop_fetch g table q).onRemote fun schema => ?_
          exact .bind (.silent fun s => ⟨(), _, rfl, rfl⟩) fun _ => .pure schema

theorem clientError?_ofGetSchema (e : GetSchemaError) :
    (UpdateSchemaError.ofGetSchema e).clientError? = e.clientError? := by
  cases e <;> rfl

theorem failStop_update (desired : Schema) (merge : Bool) :
    FailStop (fun s => s.remote.trace) UpdateSchemaError.clientError?
      (update naming g.traced table desired merge) := by
  have hupdated : ∀ schema, FailStop (fun s : Cached (Traced σ) => s.remote.trace)
      UpdateSchemaError.clientError? (cacheUpdated naming table schema) := fun schema => by
    rw [cacheUpdated]
    cases naming.qualify table with
    | none => exact .pure _
    | some q => exact .silent fun s => ⟨(), _, rfl, rfl⟩
  rw [update_eq]
  refine .bind (.adaptExcept clientError?_ofGetSchema (failStop_get g naming table)) fun current => ?_
  rw [submit]
  refine .ite (.ite (hupdated _) (.pure ())) ?_
  exact .bind (.onRemoteOr (fun _ => rfl) (failStop_change g fun _ => rfl)) fun _ => hupdated _

end Schema

theorem Provisioner.failStop_ensure (p : Provisioner) (config : CollectionConfig) :
    FailStop (fun s => s.remote.trace) EnsureError.clientError? (p.ensure g.traced config) := by
  refine .bind (.onRemoteOr (fun _ => rfl) (p.failStop_create g config)) fun outcome => ?_
  cases config.schema with
  | none => exact .pure outcome
  | some desired =>
      have hupdate := Schema.failStop_update g p.naming config.collectionName desired true
      exact .bind (.adaptExcept (fun _ => rfl) hupdate) fun _ => .pure outcome

namespace Document

variable {table : String}

theorem failStop_writeAndCommit {write : Call AdminResponse}
    (hwrite : ∀ r, Exchange.of write r = .changed write r) :
    FailStop Traced.trace (fun e => some e.clientError) (writeAndCommit g.traced table write) :=
  .bind (.adaptExcept (fun _ => rfl) (failStop_change g hwrite)) fun _ =>
    .adaptExcept (fun _ => rfl) (failStop_change g fun _ => rfl)

theorem failStop_index (docs : List Document) :
    FailStop Traced.trace (fun e => some e.clientError) (index g.traced table docs) :=
  .ite (.pure ()) (failStop_writeAndCommit g fun _ => rfl)

theorem failStop_deleteIds (ids : List String) :
    FailStop Traced.trace (fun e => some e.clientError) (deleteIds g.traced table ids) :=
  .ite (.pure ()) (failStop_writeAndCommit g fun _ => rfl)

theorem failStop_deleteQuery (query : String) :
    FailStop Traced.trace (fun e => some e.clientError) (deleteQuery g.traced table query) :=
  .ite (.pure ()) (failStop_writeAndCommit g fun _ => rfl)

end Document

end Programs

end TableIndex
