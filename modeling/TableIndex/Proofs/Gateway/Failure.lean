import TableIndex.Proofs.Cluster.Perform

/-!
# Errors that tell what was changed

An error says whether any part of an operation was done. It is honest if one without effect is only reported
where nothing was changed, which follows from the order of the calls: up to the first one that changes something
nothing was, and after it every error is marked.
-/

namespace TableIndex

variable {ε ε' σ α β : Type} {R : σ → σ → Prop} {eff : ε → RemoteEffect} {eff' : ε' → RemoteEffect}

/-! ## Programs -/

/-- Whatever comes of it, the program leaves a related state. -/
def Inert (R : σ → σ → Prop) (x : EStateM ε σ α) : Prop := ∀ s, R s (stateAfter (x s))

/-- Where the program reports an error without effect, it leaves a related state. -/
def Honest (R : σ → σ → Prop) (eff : ε → RemoteEffect) (x : EStateM ε σ α) : Prop :=
  ∀ s e t, x s = .error e t → eff e = .none → R s t

/-- Every error of the program reports an effect. -/
def Marked (eff : ε → RemoteEffect) (x : EStateM ε σ α) : Prop :=
  ∀ s e t, x s = .error e t → eff e = .partially

namespace Inert

variable {x : EStateM ε σ α}

theorem of_ok (h : Inert R x) {s t : σ} {a : α} (hx : x s = .ok a t) : R s t := by
  have hs := h s
  rwa [hx] at hs

theorem of_error (h : Inert R x) {s t : σ} {e : ε} (hx : x s = .error e t) : R s t := by
  have hs := h s
  rwa [hx] at hs

theorem adaptExcept (f : ε → ε') (h : Inert R x) : Inert R (EStateM.adaptExcept f x) := by
  intro s
  have hs := h s
  rw [EStateM.adaptExcept]
  revert hs
  cases x s <;> exact id

theorem onRemote (h : Inert R x) : Inert (fun s t => R s.remote t.remote) (Cached.onRemote x) := by
  intro s
  rw [stateAfter_onRemote]
  exact h s.remote

end Inert

namespace Marked

theorem pure (a : α) : Marked eff (Pure.pure a : EStateM ε σ α) := fun _ _ _ h => by cases h

theorem bind {x : EStateM ε σ α} {f : α → EStateM ε σ β} (hx : Marked eff x) (hf : ∀ a, Marked eff (f a)) :
    Marked eff (x >>= f) := by
  intro s e t h
  rcases bind_eq_error h with h | ⟨a, u, -, h⟩
  · exact hx s e t h
  · exact hf a u e t h

theorem ite {c : Prop} [Decidable c] {x y : EStateM ε σ α} (hx : Marked eff x) (hy : Marked eff y) :
    Marked eff (if c then x else y) := by
  split
  · exact hx
  · exact hy

/-- What words an error gets decides whether it is marked. -/
theorem adaptExcept {x : EStateM ε σ α} {f : ε → ε'} (hf : ∀ e, eff' (f e) = .partially) :
    Marked eff' (EStateM.adaptExcept f x) := by
  intro s e t h
  obtain ⟨e, -, rfl⟩ := adaptExcept_eq_error h
  exact hf e

theorem onRemoteOr {x : EStateM ε σ α} {f : ε → ε'} (hf : ∀ e, eff' (f e) = .partially) :
    Marked eff' (Cached.onRemoteOr f x) := by
  intro s e t h
  obtain ⟨⟨e, -, rfl⟩, -⟩ := Cached.onRemoteOr_eq_error h
  exact hf e

end Marked

namespace Honest

theorem pure (a : α) : Honest R eff (Pure.pure a : EStateM ε σ α) := fun _ _ _ h => by cases h

theorem throw (hR : Equivalence R) (e : ε) : Honest R eff (MonadExcept.throw e : EStateM ε σ α) := by
  intro s e' t h _
  cases h
  exact hR.refl s

theorem ite {c : Prop} [Decidable c] {x y : EStateM ε σ α} (hx : Honest R eff x) (hy : Honest R eff y) :
    Honest R eff (if c then x else y) := by
  split
  · exact hx
  · exact hy

/-- What comes first may change nothing … -/
theorem bind {x : EStateM ε σ α} {f : α → EStateM ε σ β} (hR : Equivalence R) (hx : Inert R x)
    (hf : ∀ a, Honest R eff (f a)) : Honest R eff (x >>= f) := by
  intro s e u h hnone
  rcases bind_eq_error h with h | ⟨a, t, ha, h⟩
  · exact hx.of_error h
  · exact hR.trans (hx.of_ok ha) (hf a t e u h hnone)

/-- … or else every error after it has to be marked. -/
theorem bind_marked {x : EStateM ε σ α} {f : α → EStateM ε σ β} (hx : Honest R eff x)
    (hf : ∀ a, Marked eff (f a)) : Honest R eff (x >>= f) := by
  intro s e u h hnone
  rcases bind_eq_error h with h | ⟨a, t, -, h⟩
  · exact hx s e u h hnone
  · cases (hf a t e u h).symm.trans hnone

theorem adaptExcept {x : EStateM ε σ α} {f : ε → ε'} (h : Honest R (fun e => eff' (f e)) x) :
    Honest R eff' (EStateM.adaptExcept f x) := by
  intro s e' t he hnone
  obtain ⟨e, hx, rfl⟩ := adaptExcept_eq_error he
  exact h s e t hx hnone

theorem onRemote {x : EStateM ε σ α} (h : Honest R eff x) :
    Honest (fun s t => R s.remote t.remote) eff (Cached.onRemote x) := fun s e t he hnone =>
  h s.remote e t.remote (Cached.onRemote_eq_error he).1 hnone

end Honest

/-! ## Gateways -/

/-- A call that fails, or whose answer does not say that something was changed, changes nothing. -/
structure Gateway.Careful (g : Gateway σ) (R : σ → σ → Prop) : Prop where
  fails : ∀ {α : Type} {call : Call α} {s e t}, g.perform call s = .error e t → R s t
  refuses : ∀ {α : Type} {call : Call α} {s a t}, g.perform call s = .ok a t →
    Cluster.accepts call a = false → R s t

namespace Gateway.Careful

variable {g : Gateway σ}

theorem asks (h : g.Careful R) {call : Call α} (hcall : ∀ a, Cluster.accepts call a = false) :
    Inert R (g.perform call) := by
  intro s
  cases hrun : g.perform call s with
  | ok a t => exact h.refuses hrun (hcall a)
  | error e t => exact h.fails hrun

theorem change (h : g.Careful R) {call : Call AdminResponse}
    (hcall : ∀ a, Cluster.accepts call a = a.isSuccess) (f : ClientError → ε) :
    Honest R eff ((g.change call).adaptExcept f) := by
  refine .adaptExcept fun s e t he _ => ?_
  rcases change_eq_error he with he | ⟨a, ha, hno⟩
  · exact h.fails he
  · exact h.refuses ha ((hcall a).trans hno)

theorem changeCollection (h : g.Careful R) {call : Call CollectionResponse}
    (hcall : ∀ a, Cluster.accepts call a = a.isSuccess) (f : ClientError → ε) :
    Honest R eff ((g.changeCollection call).adaptExcept f) := by
  refine .adaptExcept fun s e t he _ => ?_
  rcases changeCollection_eq_error he with he | ⟨a, ha, hno⟩
  · exact h.fails he
  · exact h.refuses ha ((hcall a).trans hno)

end Gateway.Careful

/-! ## Creating and deleting -/

section Programs

variable {g : Gateway σ}

/-- A config-set that the attempt made is told of in the error of the step after it. -/
theorem Provisioner.honest_create (hR : Equivalence R) (hg : g.Careful R) (p : Provisioner)
    (config : CollectionConfig) : Honest R CreateError.effect (p.create g config) := by
  simp only [create]
  cases p.naming.qualify config.collectionName with
  | none => exact .throw hR _
  | some q =>
      refine .bind hR (.adaptExcept _ (hg.asks fun _ => rfl)) fun exists_ => .ite (.pure _) ?_
      refine .bind hR (.adaptExcept _ (hg.asks fun _ => rfl)) fun there => ?_
      cases there with
      | true => exact .bind_marked (hg.changeCollection (fun _ => rfl) _) fun _ => .pure _
      | false =>
          exact .bind_marked (hg.change (fun _ => rfl) _) fun _ =>
            .bind (.adaptExcept fun _ => rfl) fun _ => .pure _

/-- Once the collection is gone, whatever fails is about the config-set. -/
theorem Provisioner.honest_delete (hR : Equivalence R) (hg : g.Careful R) (p : Provisioner)
    (table : String) :
    Honest (fun s t : Cached σ => R s.remote t.remote) DeleteError.effect (p.delete g table) := by
  have hR' : Equivalence fun s t : Cached σ => R s.remote t.remote :=
    ⟨fun s => hR.refl s.remote, hR.symm, hR.trans⟩
  have hforget : ∀ q, Marked DeleteError.effect (Cached.forget (σ := σ) q) := fun q s e t h => by cases h
  simp only [delete]
  cases p.naming.qualify table with
  | none => exact .pure _
  | some q =>
      have hasks : Inert R (g.perform (.collectionExists q)) := hg.asks fun _ => rfl
      refine .bind hR' (hasks.adaptExcept _).onRemote fun there => .ite (.pure _) ?_
      refine .bind_marked (hg.changeCollection (fun _ => rfl) _).onRemote fun _ => ?_
      refine .bind (hforget q) fun _ => .bind (.onRemoteOr fun _ => rfl) fun there => .ite (.pure _) ?_
      exact .bind (.onRemoteOr fun _ => rfl) fun _ => .pure _

/-! ## Writing documents -/

namespace Document

/-- What was sent stays staged when the commit fails. -/
theorem honest_writeAndCommit (hg : g.Careful R) (table : String) {write : Call AdminResponse}
    (hwrite : ∀ a, Cluster.accepts write a = a.isSuccess) :
    Honest R DocumentError.effect (writeAndCommit g table write) :=
  .bind_marked (hg.change hwrite _) fun _ => .adaptExcept fun _ => rfl

theorem honest_index (hg : g.Careful R) (table : String) (docs : List Document) :
    Honest R DocumentError.effect (index g table docs) :=
  .ite (.pure ()) (honest_writeAndCommit hg table fun _ => rfl)

theorem honest_deleteIds (hg : g.Careful R) (table : String) (ids : List String) :
    Honest R DocumentError.effect (deleteIds g table ids) :=
  .ite (.pure ()) (honest_writeAndCommit hg table fun _ => rfl)

theorem honest_deleteQuery (hg : g.Careful R) (table query : String) :
    Honest R DocumentError.effect (deleteQuery g table query) :=
  .ite (.pure ()) (honest_writeAndCommit hg table fun _ => rfl)

end Document

end Programs

end TableIndex
