import TableIndex.Cache

/-!
# Programs that keep state and may fail

What a program keeps it keeps in failing, too: its steps may have changed the state before one of them
failed. `Keeps` is about one run, `Projects` about the runs of two programs, `Respects` about two runs that
start from related states, and `Resumes` about a run after one that failed.
-/

namespace TableIndex

variable {ε ε' σ τ α β : Type}

/-- The value of a result, if it is one. -/
def value? : EStateM.Result ε σ α → Option α
  | .ok a _ => some a
  | .error _ _ => none

theorem exists_of_value? {r : EStateM.Result ε σ α} {a : α} (h : value? r = some a) :
    ∃ s, r = .ok a s := by
  cases r with
  | ok b s => exact ⟨s, by rw [Option.some.inj h]⟩
  | error e s => cases h

/-- The error of a result, if it is one. -/
def error? : EStateM.Result ε σ α → Option ε
  | .ok _ _ => none
  | .error e _ => some e

theorem exists_of_error? {r : EStateM.Result ε σ α} {e : ε} (h : error? r = some e) :
    ∃ s, r = .error e s := by
  cases r with
  | ok a s => cases h
  | error e' s => exact ⟨s, by rw [Option.some.inj h]⟩

/-! ## Steps -/

section Steps

variable {x : EStateM ε σ α} {f : α → EStateM ε σ β} {g : ε → ε'} {a : α} {b : β} {e : ε} {s t u : σ}

theorem bind_of_ok (h : x s = .ok a t) : (x >>= f) s = f a t := by
  show EStateM.bind x f s = _
  rw [EStateM.bind, h]

theorem bind_of_error (h : x s = .error e t) : (x >>= f) s = .error e t := by
  show EStateM.bind x f s = _
  rw [EStateM.bind, h]

theorem bind_eq_ok (h : (x >>= f) s = .ok b u) : ∃ a t, x s = .ok a t ∧ f a t = .ok b u := by
  cases hx : x s with
  | ok a t =>
      rw [bind_of_ok hx] at h
      exact ⟨a, t, rfl, h⟩
  | error e t =>
      rw [bind_of_error hx] at h
      cases h

theorem bind_eq_error (h : (x >>= f) s = .error e u) :
    x s = .error e u ∨ ∃ a t, x s = .ok a t ∧ f a t = .error e u := by
  cases hx : x s with
  | ok a t =>
      rw [bind_of_ok hx] at h
      exact .inr ⟨a, t, rfl, h⟩
  | error e' t =>
      rw [bind_of_error hx] at h
      cases h
      exact .inl rfl

theorem bind_congr {y : EStateM ε σ α} {k : α → EStateM ε σ β} (hx : x s = y t)
    (hf : ∀ a u, y t = .ok a u → f a u = k a u) : (x >>= f) s = (y >>= k) t := by
  cases hy : y t with
  | ok a u =>
      rw [bind_of_ok (hx.trans hy), bind_of_ok hy]
      exact hf a u hy
  | error e u => rw [bind_of_error (hx.trans hy), bind_of_error hy]

theorem adaptExcept_of_ok (h : x s = .ok a t) : EStateM.adaptExcept g x s = .ok a t := by
  rw [EStateM.adaptExcept, h]

theorem adaptExcept_of_error (h : x s = .error e t) : EStateM.adaptExcept g x s = .error (g e) t := by
  rw [EStateM.adaptExcept, h]

theorem adaptExcept_congr {y : EStateM ε σ α} (h : x s = y t) :
    EStateM.adaptExcept g x s = EStateM.adaptExcept g y t := by
  rw [EStateM.adaptExcept, EStateM.adaptExcept, h]

theorem adaptExcept_eq_ok (h : EStateM.adaptExcept g x s = .ok a t) : x s = .ok a t := by
  cases hx : x s with
  | ok b u =>
      rw [adaptExcept_of_ok hx] at h
      cases h
      rfl
  | error e u =>
      rw [adaptExcept_of_error hx] at h
      cases h

theorem adaptExcept_eq_error {e' : ε'} (h : EStateM.adaptExcept g x s = .error e' t) :
    ∃ e, x s = .error e t ∧ g e = e' := by
  cases hx : x s with
  | ok a u =>
      rw [adaptExcept_of_ok hx] at h
      cases h
  | error e u =>
      rw [adaptExcept_of_error hx] at h
      cases h
      exact ⟨e, rfl, rfl⟩

/-! A value that is checked, and then dropped. -/

section Check

variable {p : α → Bool} {f : α → ε} {s t : σ} {e : ε}

theorem check_eq_ok (h : (x >>= fun a => if p a then pure () else throw (f a)) s = .ok () t) :
    ∃ a, x s = .ok a t ∧ p a = true := by
  obtain ⟨a, u, ha, h⟩ := bind_eq_ok h
  split at h
  · next hp =>
      cases h
      exact ⟨a, ha, hp⟩
  · cases h

theorem check_eq_error (h : (x >>= fun a => if p a then pure () else throw (f a)) s = .error e t) :
    x s = .error e t ∨ ∃ a, x s = .ok a t ∧ p a = false := by
  rcases bind_eq_error h with h | ⟨a, u, ha, h⟩
  · exact .inl h
  · split at h
    · cases h
    · next hp =>
        cases h
        exact .inr ⟨a, ha, by simpa using hp⟩

end Check

end Steps

/-! ## Steps behind a cache -/

namespace Cached

variable {x : EStateM ε σ α} {f : ε → ε'} {a : α} {e : ε} {r : σ} {s : Cached σ}

theorem onRemote_of_ok (h : x s.remote = .ok a r) : onRemote x s = .ok a ⟨s.cache, r⟩ := by
  rw [onRemote, h]

theorem onRemote_of_error (h : x s.remote = .error e r) : onRemote x s = .error e ⟨s.cache, r⟩ := by
  rw [onRemote, h]

theorem onRemote_adaptExcept (f : ε → ε') (x : EStateM ε σ α) (s : Cached σ) :
    onRemote (EStateM.adaptExcept f x) s = EStateM.adaptExcept f (onRemote x) s := by
  rw [onRemote, EStateM.adaptExcept, EStateM.adaptExcept, onRemote]
  cases x s.remote <;> rfl

theorem onRemoteOr_of_ok (h : x s.remote = .ok a r) : onRemoteOr f x s = .ok a ⟨s.cache, r⟩ :=
  onRemote_of_ok (adaptExcept_of_ok h)

theorem onRemoteOr_of_error (h : x s.remote = .error e r) :
    onRemoteOr f x s = .error (f e) ⟨s.cache, r⟩ :=
  onRemote_of_error (adaptExcept_of_error h)

theorem onRemote_eq_ok {t : Cached σ} (h : onRemote x s = .ok a t) :
    x s.remote = .ok a t.remote ∧ t.cache = s.cache := by
  cases hx : x s.remote with
  | ok b r =>
      rw [onRemote_of_ok hx] at h
      cases h
      exact ⟨rfl, rfl⟩
  | error e r =>
      rw [onRemote_of_error hx] at h
      cases h

theorem onRemote_eq_error {t : Cached σ} (h : onRemote x s = .error e t) :
    x s.remote = .error e t.remote ∧ t.cache = s.cache := by
  cases hx : x s.remote with
  | ok b r =>
      rw [onRemote_of_ok hx] at h
      cases h
  | error e' r =>
      rw [onRemote_of_error hx] at h
      cases h
      exact ⟨rfl, rfl⟩

theorem onRemoteOr_eq_ok {t : Cached σ} (h : onRemoteOr f x s = .ok a t) :
    x s.remote = .ok a t.remote ∧ t.cache = s.cache :=
  ⟨adaptExcept_eq_ok (onRemote_eq_ok h).1, (onRemote_eq_ok h).2⟩

theorem onRemoteOr_eq_error {e' : ε'} {t : Cached σ} (h : onRemoteOr f x s = .error e' t) :
    (∃ e, x s.remote = .error e t.remote ∧ f e = e') ∧ t.cache = s.cache :=
  ⟨adaptExcept_eq_error (onRemote_eq_error h).1, (onRemote_eq_error h).2⟩

end Cached

/-! ## Programs made of steps -/

/-- A property of programs that holds of what is made up of programs with the property. -/
structure Compositional (P : (ε α : Type) → EStateM ε σ α → Prop) : Prop where
  pure {ε α : Type} (a : α) : P ε α (Pure.pure a)
  throw {ε α : Type} (e : ε) : P ε α (MonadExcept.throw e)
  bind {ε α β : Type} {x : EStateM ε σ α} {f : α → EStateM ε σ β} :
    P ε α x → (∀ a, P ε β (f a)) → P ε β (x >>= f)
  adaptExcept {ε ε' α : Type} {x : EStateM ε σ α} (f : ε → ε') :
    P ε α x → P ε' α (EStateM.adaptExcept f x)

/-- A relation between programs on states of two kinds that holds of what is made up alike of related ones. -/
structure Parallel (P : (ε α : Type) → EStateM ε σ α → EStateM ε τ α → Prop) : Prop where
  pure {ε α : Type} (a : α) : P ε α (Pure.pure a) (Pure.pure a)
  throw {ε α : Type} (e : ε) : P ε α (MonadExcept.throw e) (MonadExcept.throw e)
  bind {ε α β : Type} {x : EStateM ε σ α} {y : EStateM ε τ α} {f : α → EStateM ε σ β} {g : α → EStateM ε τ β} :
    P ε α x y → (∀ a, P ε β (f a) (g a)) → P ε β (x >>= f) (y >>= g)
  adaptExcept {ε ε' α : Type} {x : EStateM ε σ α} {y : EStateM ε τ α} (f : ε → ε') :
    P ε α x y → P ε' α (EStateM.adaptExcept f x) (EStateM.adaptExcept f y)

theorem Parallel.ite {P : (ε α : Type) → EStateM ε σ α → EStateM ε τ α → Prop} {c : Prop} [Decidable c]
    {x x' : EStateM ε σ α} {y y' : EStateM ε τ α} (hx : P ε α x y) (hx' : P ε α x' y') :
    P ε α (if c then x else x') (if c then y else y') := by
  split
  · exact hx
  · exact hx'

/-- A property of programs is a relation that does not look at the second one. -/
theorem Compositional.parallel {P : (ε α : Type) → EStateM ε σ α → Prop} (hP : Compositional P) :
    Parallel fun ε α x (_ : EStateM ε σ α) => P ε α x :=
  ⟨hP.pure, hP.throw, hP.bind, hP.adaptExcept⟩

/-! ## One run -/

/-- The state that a program leaves, whether it failed or not. -/
def stateAfter : EStateM.Result ε σ α → σ
  | .ok _ s => s
  | .error _ s => s

/-- Every run from a state with the property leaves one with it. -/
def Keeps (I : σ → Prop) (x : EStateM ε σ α) : Prop := ∀ s, I s → I (stateAfter (x s))

namespace Keeps

variable {I : σ → Prop}

theorem pure (a : α) : Keeps I (Pure.pure a : EStateM ε σ α) := fun _ h => h

theorem throw (e : ε) : Keeps I (MonadExcept.throw e : EStateM ε σ α) := fun _ h => h

theorem bind {x : EStateM ε σ α} {f : α → EStateM ε σ β} (hx : Keeps I x) (hf : ∀ a, Keeps I (f a)) :
    Keeps I (x >>= f) := by
  intro s hs
  have hx := hx s hs
  show I (stateAfter (EStateM.bind x f s))
  unfold EStateM.bind
  cases hr : x s with
  | ok a s' =>
      rw [hr] at hx
      exact hf a s' hx
  | error e s' =>
      rw [hr] at hx
      exact hx

theorem adaptExcept {x : EStateM ε σ α} (f : ε → ε') (hx : Keeps I x) :
    Keeps I (EStateM.adaptExcept f x) := by
  intro s hs
  have hx := hx s hs
  unfold EStateM.adaptExcept
  cases hr : x s with
  | ok a s' =>
      rw [hr] at hx
      exact hx
  | error e s' =>
      rw [hr] at hx
      exact hx

theorem compositional : Compositional fun ε α (x : EStateM ε σ α) => Keeps I x :=
  ⟨.pure, .throw, .bind, .adaptExcept⟩

end Keeps

theorem Keeps.onRemote {I : σ → Prop} {x : EStateM ε σ α} (J : SchemaCache → Prop) (hx : Keeps I x) :
    Keeps (fun s => I s.remote ∧ J s.cache) (Cached.onRemote x) := by
  intro s hs
  have hx := hx s.remote hs.1
  cases hr : x s.remote with
  | ok a r =>
      rw [hr] at hx
      rw [Cached.onRemote_of_ok hr]
      exact ⟨hx, hs.2⟩
  | error e r =>
      rw [hr] at hx
      rw [Cached.onRemote_of_error hr]
      exact ⟨hx, hs.2⟩

theorem stateAfter_onRemote (x : EStateM ε σ α) (s : Cached σ) :
    stateAfter (Cached.onRemote x s) = ⟨s.cache, stateAfter (x s.remote)⟩ := by
  rw [Cached.onRemote]
  cases x s.remote <;> rfl

/-! ## Two programs -/

/-- A result, and what a view shows of the state. -/
def viewed (view : σ → τ) : EStateM.Result ε σ α → EStateM.Result ε τ α
  | .ok a s => .ok a (view s)
  | .error e s => .error e (view s)

/-- Through a view, the runs of one program are those of another. -/
def Projects (view : σ → τ) (x : EStateM ε σ α) (y : EStateM ε τ α) : Prop :=
  ∀ s, y (view s) = viewed view (x s)

/-- A view of the state behind the cache. -/
def Cached.through (view : σ → τ) (s : Cached σ) : Cached τ := ⟨s.cache, view s.remote⟩

namespace Projects

variable {view : σ → τ} {x : EStateM ε σ α} {y : EStateM ε τ α}

theorem bind {f : α → EStateM ε σ β} {g : α → EStateM ε τ β} (hx : Projects view x y)
    (hf : ∀ a, Projects view (f a) (g a)) : Projects view (x >>= f) (y >>= g) := by
  intro s
  have hy := hx s
  cases hr : x s with
  | ok a t =>
      rw [hr] at hy
      rw [bind_of_ok hr, bind_of_ok hy]
      exact hf a t
  | error e t =>
      rw [hr] at hy
      rw [bind_of_error hr, bind_of_error hy]
      rfl

theorem adaptExcept (f : ε → ε') (hx : Projects view x y) :
    Projects view (EStateM.adaptExcept f x) (EStateM.adaptExcept f y) := by
  intro s
  have hy := hx s
  cases hr : x s with
  | ok a t =>
      rw [hr] at hy
      rw [adaptExcept_of_ok hr, adaptExcept_of_ok hy]
      rfl
  | error e t =>
      rw [hr] at hy
      rw [adaptExcept_of_error hr, adaptExcept_of_error hy]
      rfl

theorem parallel : Parallel fun ε α (x : EStateM ε σ α) (y : EStateM ε τ α) => Projects view x y :=
  ⟨fun _ _ => rfl, fun _ _ => rfl, .bind, .adaptExcept⟩

theorem onRemote (hx : Projects view x y) :
    Projects (Cached.through view) (Cached.onRemote x) (Cached.onRemote y) := by
  intro s
  rw [Cached.onRemote, Cached.onRemote, Cached.through, hx s.remote]
  cases x s.remote <;> rfl

end Projects

/-! ## Two runs -/

/-- Two runs end alike: with related values or with the same error, and in related states. -/
inductive Agree (Q : α → α → Prop) (R : σ → σ → Prop) :
    EStateM.Result ε σ α → EStateM.Result ε σ α → Prop where
  | ok {a b : α} {s t : σ} : Q a b → R s t → Agree Q R (.ok a s) (.ok b t)
  | error (e : ε) {s t : σ} : R s t → Agree Q R (.error e s) (.error e t)

namespace Agree

variable {Q : α → α → Prop} {R : σ → σ → Prop} {s t : σ}

theorem bind {Q' : β → β → Prop} {x y : EStateM ε σ α} {f g : α → EStateM ε σ β}
    (hx : Agree Q R (x s) (y t)) (hf : ∀ a b s t, Q a b → R s t → Agree Q' R (f a s) (g b t)) :
    Agree Q' R ((x >>= f) s) ((y >>= g) t) := by
  show Agree Q' R (EStateM.bind x f s) (EStateM.bind y g t)
  unfold EStateM.bind
  revert hx
  cases x s <;> cases y t <;> rintro (⟨hq, hr⟩ | ⟨_, hr⟩)
  · exact hf _ _ _ _ hq hr
  · exact .error _ hr

theorem adaptExcept {x : EStateM ε σ α} (f : ε → ε') (hx : Agree Q R (x s) (x t)) :
    Agree Q R (EStateM.adaptExcept f x s) (EStateM.adaptExcept f x t) := by
  unfold EStateM.adaptExcept
  revert hx
  cases x s <;> cases x t <;> rintro (⟨hq, hr⟩ | ⟨_, hr⟩)
  · exact .ok hq hr
  · exact .error _ hr

theorem eq_ok {p : EStateM.Result ε σ α} {b : α} (h : Agree Q R p (.ok b t)) :
    ∃ a s, p = .ok a s ∧ Q a b ∧ R s t := by
  cases h with
  | ok hq hr => exact ⟨_, _, rfl, hq, hr⟩

theorem imp {Q' : α → α → Prop} {p q : EStateM.Result ε σ α} (h : Agree Q R p q)
    (hQ : ∀ a b, Q a b → Q' a b) : Agree Q' R p q := by
  cases h with
  | ok hq hr => exact .ok (hQ _ _ hq) hr
  | error e hr => exact .error e hr

theorem trans {p q r : EStateM.Result ε σ α} (hR : Equivalence R)
    (hQ : ∀ a b c, Q a b → Q b c → Q a c) (h : Agree Q R p q) (h' : Agree Q R q r) :
    Agree Q R p r := by
  cases h with
  | ok hq hr =>
      cases h' with
      | ok hq' hr' => exact .ok (hQ _ _ _ hq hq') (hR.trans hr hr')
  | error e hr =>
      cases h' with
      | error e hr' => exact .error e (hR.trans hr hr')

end Agree

/-- Runs from related states end alike, with the same value. -/
def Respects (R : σ → σ → Prop) (x : EStateM ε σ α) : Prop := ∀ s t, R s t → Agree Eq R (x s) (x t)

namespace Respects

variable {R : σ → σ → Prop}

theorem pure (a : α) : Respects R (Pure.pure a : EStateM ε σ α) := fun _ _ h => .ok rfl h

theorem throw (e : ε) : Respects R (MonadExcept.throw e : EStateM ε σ α) := fun _ _ h => .error e h

theorem bind {x : EStateM ε σ α} {f : α → EStateM ε σ β} (hx : Respects R x)
    (hf : ∀ a, Respects R (f a)) : Respects R (x >>= f) := fun s t h =>
  (hx s t h).bind fun a _ s t hab h => hab ▸ hf a s t h

theorem adaptExcept {x : EStateM ε σ α} (f : ε → ε') (hx : Respects R x) :
    Respects R (EStateM.adaptExcept f x) := fun s t h => (hx s t h).adaptExcept f

theorem compositional : Compositional fun ε α (x : EStateM ε σ α) => Respects R x :=
  ⟨.pure, .throw, .bind, .adaptExcept⟩

end Respects

/-- Two states behind equal caches. -/
structure Cached.Same (R : σ → σ → Prop) (s t : Cached σ) : Prop where
  cache : s.cache = t.cache
  remote : R s.remote t.remote

theorem Cached.same_equivalence {R : σ → σ → Prop} (hR : Equivalence R) : Equivalence (Cached.Same R) where
  refl s := ⟨rfl, hR.refl s.remote⟩
  symm h := ⟨h.cache.symm, hR.symm h.remote⟩
  trans h h' := ⟨h.cache.trans h'.cache, hR.trans h.remote h'.remote⟩

theorem Agree.onRemote {Q : α → α → Prop} {R : σ → σ → Prop} {x : EStateM ε σ α} {s t : Cached σ}
    (hc : s.cache = t.cache) (hx : Agree Q R (x s.remote) (x t.remote)) :
    Agree Q (Cached.Same R) (Cached.onRemote x s) (Cached.onRemote x t) := by
  rw [Cached.onRemote, Cached.onRemote]
  revert hx
  cases x s.remote <;> cases x t.remote <;> rintro (⟨hq, hr⟩ | ⟨_, hr⟩)
  · exact .ok hq ⟨hc, hr⟩
  · exact .error _ ⟨hc, hr⟩

theorem Respects.onRemote {R : σ → σ → Prop} {x : EStateM ε σ α} (hx : Respects R x) :
    Respects (Cached.Same R) (Cached.onRemote x) := fun _ _ h =>
  .onRemote h.cache (hx _ _ h.remote)

theorem Respects.lookup {R : σ → σ → Prop} (q : String) :
    Respects (Cached.Same R) (Cached.lookup q : EStateM ε (Cached σ) _) := fun _ _ h =>
  .ok (by rw [h.cache]) h

theorem Respects.put {R : σ → σ → Prop} (q : String) (schema : Schema) :
    Respects (Cached.Same R) (Cached.put q schema : EStateM ε (Cached σ) _) := fun _ _ h =>
  .ok rfl ⟨by rw [h.cache], h.remote⟩

/-! ## Recovery -/

/-- What a recovery does to the state behind a cache. -/
def Cached.recover (r : σ → σ) (s : Cached σ) : Cached σ := ⟨s.cache, r s.remote⟩

/-- A run that succeeds succeeds after a recovery, too, and leaves what it left. -/
def Persists (r : σ → σ) (x : EStateM ε σ α) : Prop := ∀ s a t, x s = .ok a t → x (r s) = .ok a (r t)

namespace Persists

variable {r : σ → σ}

theorem pure (a : α) : Persists r (Pure.pure a : EStateM ε σ α) := by
  intro s b t h
  cases h
  rfl

theorem throw (e : ε) : Persists r (MonadExcept.throw e : EStateM ε σ α) := by
  intro s b t h
  cases h

theorem bind {x : EStateM ε σ α} {f : α → EStateM ε σ β} (hx : Persists r x)
    (hf : ∀ a, Persists r (f a)) : Persists r (x >>= f) := by
  intro s b u h
  obtain ⟨a, t, ha, hb⟩ := bind_eq_ok h
  exact (bind_of_ok (hx s a t ha)).trans (hf a t b u hb)

theorem adaptExcept {x : EStateM ε σ α} (f : ε → ε') (hx : Persists r x) :
    Persists r (EStateM.adaptExcept f x) := fun s a t h =>
  adaptExcept_of_ok (hx s a t (adaptExcept_eq_ok h))

theorem compositional : Compositional fun ε α (x : EStateM ε σ α) => Persists r x :=
  ⟨.pure, .throw, .bind, .adaptExcept⟩

theorem onRemote {x : EStateM ε σ α} (hx : Persists r x) :
    Persists (Cached.recover r) (Cached.onRemote x) := by
  intro s a t h
  obtain ⟨h, hc⟩ := Cached.onRemote_eq_ok h
  refine (Cached.onRemote_of_ok (s := s.recover r) (hx _ _ _ h)).trans ?_
  rw [Cached.recover, Cached.recover, hc]

theorem lookup (q : String) : Persists (Cached.recover r) (Cached.lookup q : EStateM ε _ _) := by
  intro s a t h
  cases h
  rfl

theorem put (q : String) (schema : Schema) :
    Persists (Cached.recover r) (Cached.put q schema : EStateM ε _ _) := by
  intro s a t h
  cases h
  rfl

end Persists

/-- A program that failed ends, when it is run again after a recovery, as it would have ended there in the
first place. -/
def Resumes (r : σ → σ) (Q : α → α → Prop) (R : σ → σ → Prop) (x : EStateM ε σ α) : Prop :=
  ∀ s e t, x s = .error e t → Agree Q R (x (r t)) (x (r s))

namespace Resumes

variable {r : σ → σ} {Q : α → α → Prop} {R : σ → σ → Prop}

theorem pure (a : α) : Resumes r Q R (Pure.pure a : EStateM ε σ α) := by
  intro s e t h
  cases h

theorem ite {c : Prop} [Decidable c] {x y : EStateM ε σ α} (hx : Resumes r Q R x)
    (hy : Resumes r Q R y) : Resumes r Q R (if c then x else y) := by
  split
  · exact hx
  · exact hy

/-- What changes nothing when it fails can be run again. -/
theorem of_respects {x : EStateM ε σ α} (hx : Respects R x)
    (h : ∀ s e t, x s = .error e t → R (r t) (r s)) : Resumes r Eq R x := fun s e t he =>
  hx _ _ (h s e t he)

theorem imp {Q' : α → α → Prop} {x : EStateM ε σ α} (hx : Resumes r Q R x)
    (hQ : ∀ a b, Q a b → Q' a b) : Resumes r Q' R x := fun s e t h => (hx s e t h).imp hQ

theorem adaptExcept {x : EStateM ε σ α} (f : ε → ε') (hx : Resumes r Q R x) :
    Resumes r Q R (EStateM.adaptExcept f x) := by
  intro s e t h
  obtain ⟨e, he, -⟩ := adaptExcept_eq_error h
  exact (hx s e t he).adaptExcept f

/-- Only the first part can fail. -/
theorem map {Q' : β → β → Prop} {x : EStateM ε σ α} (f : α → β) (hx : Resumes r Q R x)
    (hQ : ∀ a b, Q a b → Q' (f a) (f b)) : Resumes r Q' R (x >>= fun a => Pure.pure (f a)) := by
  intro s e u h
  rcases bind_eq_error h with hfail | ⟨a, t, -, hfail⟩
  · exact (hx s e u hfail).bind fun a b _ _ hab hst => .ok (hQ a b hab) hst
  · cases hfail

/-- A first part that is done when the second one fails is run again without effect. -/
theorem bind {Q' : β → β → Prop} {x : EStateM ε σ α} {f : α → EStateM ε σ β}
    (hR : Equivalence R) (hQ : ∀ a b c, Q' a b → Q' b c → Q' a c) (hx : Resumes r Q R x)
    (hpersists : Persists r x)
    (hagain : ∀ s a t e u, x s = .ok a t → f a t = .error e u →
      ∃ b v, x (r u) = .ok b v ∧ Q b a ∧ R v (r u))
    (hf : ∀ a, Resumes r Q' R (f a))
    (hrespects : ∀ a b s t, Q a b → R s t → Agree Q' R (f a s) (f b t)) :
    Resumes r Q' R (x >>= f) := by
  intro s e u h
  rcases bind_eq_error h with hfail | ⟨a, t, ha, hfail⟩
  · exact (hx s e u hfail).bind hrespects
  · obtain ⟨b, v, hb, hq, hv⟩ := hagain s a t e u ha hfail
    rw [bind_of_ok hb, bind_of_ok (hpersists s a t ha)]
    exact (hrespects b a v (r u) hq hv).trans hR hQ (hf a t e u hfail)

theorem onRemote {x : EStateM ε σ α} (hx : Resumes r Q R x) :
    Resumes (Cached.recover r) Q (Cached.Same R) (Cached.onRemote x) := by
  intro s e t h
  obtain ⟨h, hc⟩ := Cached.onRemote_eq_error h
  exact .onRemote hc (hx _ _ _ h)

end Resumes

end TableIndex
