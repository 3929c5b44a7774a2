import TableIndex.Proofs.Gateway.Failure
import TableIndex.Proofs.Service.Run
import TableIndex.Service.Watched

/-!
# Operations that fail without effect

An operation of a service that reports no effect left everything as it was, as long as its connector and the
gateways it opens change nothing when they fail. A cluster in memory is such, whether connecting to it is
refused or not.
-/

namespace TableIndex

variable {σ η ε α : Type} {R : σ → σ → Prop} {eff : ε → RemoteEffect}

/-! ## Connectors -/

/-- Connecting changes nothing, and neither does a call that fails or is refused. -/
structure Connector.Careful (k : Connector σ η) (R : σ → σ → Prop) : Prop where
  connect : Inert R k.connect
  gateway : ∀ h, (k.gateway h).Careful R

namespace Watched

variable {x : EStateM ε σ α} {w w' : Watched σ}

theorem onRemote_eq_ok {a : α} (h : onRemote x w = .ok a w') : x w.remote = .ok a w'.remote := by
  rw [onRemote] at h
  cases hx : x w.remote with
  | ok b r =>
      rw [hx] at h
      cases h
      rfl
  | error e r =>
      rw [hx] at h
      cases h

theorem onRemote_eq_error {e : ε} (h : onRemote x w = .error e w') : x w.remote = .error e w'.remote := by
  rw [onRemote] at h
  cases hx : x w.remote with
  | ok a r =>
      rw [hx] at h
      cases h
  | error e' r =>
      rw [hx] at h
      cases h
      rfl

theorem inert_onRemote (hx : Inert R x) : Inert (fun w w' => R w.remote w'.remote) (onRemote x) := by
  intro w
  cases hrun : onRemote x w with
  | ok a w' => exact hx.of_ok (onRemote_eq_ok hrun)
  | error e w' => exact hx.of_error (onRemote_eq_error hrun)

end Watched

theorem Gateway.Careful.watched {g : Gateway σ} (h : g.Careful R) :
    g.watched.Careful fun w w' => R w.remote w'.remote where
  fails he := h.fails (Watched.onRemote_eq_error he)
  refuses hok hno := h.refuses (Watched.onRemote_eq_ok hok) hno

theorem Connector.Careful.watched {k : Connector σ η} (hR : Equivalence R) (h : k.Careful R) :
    k.watched.Careful fun w w' => R w.remote w'.remote where
  connect w := by
    obtain ⟨remote, connects, refusal⟩ := w
    cases refusal with
    | some cause => exact hR.refl remote
    | none => exact Watched.inert_onRemote h.connect ⟨remote, connects + 1, none⟩
  gateway handle := (h.gateway handle).watched

/-! ## Services -/

namespace Service

variable {s : Service σ η}

theorem inert_client (hR : Equivalence R) (hs : s.connector.Careful R) :
    Inert (fun st st' => R st.remote st'.remote) s.client := by
  intro st
  rw [client]
  cases st.handle with
  | some h => exact hR.refl st.remote
  | none =>
      cases hconnect : s.connector.connect st.remote with
      | ok h r => exact hs.connect.of_ok hconnect
      | error e r => exact hs.connect.of_error hconnect

theorem honest_onCached {act : EStateM ε (Cached σ) α}
    (h : Honest (fun c d => R c.remote d.remote) eff act) :
    Honest (fun st st' : ServiceState σ η => R st.remote st'.remote) eff (onCached act) := by
  intro st e st' he hnone
  rw [onCached] at he
  cases hact : act ⟨st.cache, st.remote⟩ with
  | ok a c =>
      rw [hact] at he
      cases he
  | error e' c =>
      rw [hact] at he
      cases he
      exact h _ _ _ hact hnone

/-- What is done once the service is connected decides. -/
theorem honest_connected {act : η → EStateM ε (Cached σ) α} (hR : Equivalence R)
    (hs : s.connector.Careful R) (f : ConnectError → ε)
    (h : ∀ handle, Honest (fun c d => R c.remote d.remote) eff (act handle)) :
    Honest (fun st st' => R st.remote st'.remote) eff
      (s.client.adaptExcept f >>= fun handle => onCached (act handle)) :=
  .bind ⟨fun st => hR.refl st.remote, hR.symm, hR.trans⟩ ((inert_client hR hs).adaptExcept f) fun handle =>
    honest_onCached (h handle)

theorem honest_create (hR : Equivalence R) (hs : s.connector.Careful R) (config : CollectionConfig) :
    Honest (fun st st' => R st.remote st'.remote) CreateError.effect (s.create config) :=
  honest_connected hR hs _ fun h => (Provisioner.honest_create hR (hs.gateway h) _ config).onRemote

theorem honest_delete (hR : Equivalence R) (hs : s.connector.Careful R) (table : String) :
    Honest (fun st st' => R st.remote st'.remote) DeleteError.effect (s.delete table) :=
  honest_connected hR hs _ fun h => Provisioner.honest_delete hR (hs.gateway h) _ table

/-- Once the collection is there, every error is about its schema. -/
theorem honest_ensure (hR : Equivalence R) (hs : s.connector.Careful R) (config : CollectionConfig) :
    Honest (fun st st' => R st.remote st'.remote) EnsureError.effect (s.ensure config) := by
  refine .bind_marked (.adaptExcept (honest_create hR hs config)) fun outcome => ?_
  cases config.schema with
  | none => exact .pure outcome
  | some desired => exact .bind (.adaptExcept fun _ => rfl) fun _ => .pure outcome

theorem honest_index (hR : Equivalence R) (hs : s.connector.Careful R) (table : String)
    (docs : List Document) :
    Honest (fun st st' => R st.remote st'.remote) DocumentError.effect (s.index table docs) :=
  .ite (.pure ()) (honest_connected hR hs _ fun h =>
    (Document.honest_index (hs.gateway h) table docs).onRemote)

theorem honest_deleteIds (hR : Equivalence R) (hs : s.connector.Careful R) (table : String)
    (ids : List String) :
    Honest (fun st st' => R st.remote st'.remote) DocumentError.effect (s.deleteIds table ids) :=
  .ite (.pure ()) (honest_connected hR hs _ fun h =>
    (Document.honest_deleteIds (hs.gateway h) table ids).onRemote)

theorem honest_deleteQuery (hR : Equivalence R) (hs : s.connector.Careful R) (table query : String) :
    Honest (fun st st' => R st.remote st'.remote) DocumentError.effect (s.deleteQuery table query) :=
  .ite (.pure ()) (honest_connected hR hs _ fun h =>
    (Document.honest_deleteQuery (hs.gateway h) table query).onRemote)

end Service

/-! ## Answers -/

/-- The effect that an answer reports, if it is an error that tells of one. -/
def ServiceAnswer.effect? : ServiceAnswer → Option RemoteEffect
  | created (.error e) => some e.effect
  | ensured (.error e) => some e.effect
  | deleted (.error e) => some e.effect
  | written (.error e) => some e.effect
  | _ => none

namespace Service

variable {s : Service σ η} {st : ServiceState σ η}

/-- An effect is told of by an error only. -/
theorem eq_error_of_tell {x : EStateM ε (ServiceState σ η) α} {f : Except ε α → ServiceAnswer} {r : RemoteEffect}
    (hok : ∀ a, (f (.ok a)).effect? = none) (herror : ∀ e, (f (.error e)).effect? = some (eff e))
    (h : (tell f (x st)).1.effect? = some r) :
    ∃ e, x st = .error e (tell f (x st)).2 ∧ eff e = r := by
  cases hrun : x st with
  | ok a st' =>
      rw [hrun] at h
      cases (hok a).symm.trans h
  | error e st' =>
      rw [hrun] at h
      exact ⟨e, rfl, Option.some.inj ((herror e).symm.trans h)⟩

theorem related_of_tell {x : EStateM ε (ServiceState σ η) α} {f : Except ε α → ServiceAnswer}
    (hx : Honest (fun st st' => R st.remote st'.remote) eff x) (hok : ∀ a, (f (.ok a)).effect? = none)
    (herror : ∀ e, (f (.error e)).effect? = some (eff e)) (h : (tell f (x st)).1.effect? = some .none) :
    R st.remote (tell f (x st)).2.remote := by
  obtain ⟨e, hrun, he⟩ := eq_error_of_tell hok herror h
  exact hx st e _ hrun he

theorem effect?_tell_ne {f : Except ε α → ServiceAnswer} (hf : ∀ r, (f r).effect? = none)
    (r : EStateM.Result ε (ServiceState σ η) α) : (tell f r).1.effect? ≠ some .none := by
  intro h
  cases r with
  | ok a st => cases (hf (.ok a)).symm.trans h
  | error e st => cases (hf (.error e)).symm.trans h

/-- An operation that reports no effect had none. -/
theorem related_of_effect_none (hR : Equivalence R) (hs : s.connector.Careful R) {call : ServiceCall}
    (h : (s.answer call st).1.effect? = some .none) : R st.remote (s.answer call st).2.remote := by
  cases call with
  | create config => exact related_of_tell (honest_create hR hs config) (fun _ => rfl) (fun _ => rfl) h
  | ensure config => exact related_of_tell (honest_ensure hR hs config) (fun _ => rfl) (fun _ => rfl) h
  | delete table => exact related_of_tell (honest_delete hR hs table) (fun _ => rfl) (fun _ => rfl) h
  | index table docs => exact related_of_tell (honest_index hR hs table docs) (fun _ => rfl) (fun _ => rfl) h
  | deleteIds table ids =>
      exact related_of_tell (honest_deleteIds hR hs table ids) (fun _ => rfl) (fun _ => rfl) h
  | deleteQuery table query =>
      exact related_of_tell (honest_deleteQuery hR hs table query) (fun _ => rfl) (fun _ => rfl) h
  | collectionExists table => exact absurd h (effect?_tell_ne (fun _ => rfl) _)
  | configSetExists table => exact absurd h (effect?_tell_ne (fun _ => rfl) _)
  | getSchema table => exact absurd h (effect?_tell_ne (fun _ => rfl) _)
  | updateSchema table desired merge => exact absurd h (effect?_tell_ne (fun _ => rfl) _)
  | invalidate table => exact absurd h (effect?_tell_ne (fun _ => rfl) _)
  | destroy => exact absurd h (effect?_tell_ne (fun _ => rfl) _)

end Service

/-! ## On a cluster in memory -/

/-- The same config-sets and collections, and the same documents staged and visible. -/
structure Cluster.SameContents (c d : Cluster) : Prop where
  configSets : c.configSets = d.configSets
  collections : c.collections = d.collections
  pending : c.pending = d.pending
  pendingDeletes : c.pendingDeletes = d.pendingDeletes
  committed : c.committed = d.committed

namespace Cluster

theorem sameContents_equivalence : Equivalence SameContents where
  refl _ := ⟨rfl, rfl, rfl, rfl, rfl⟩
  symm h := ⟨h.configSets.symm, h.collections.symm, h.pending.symm, h.pendingDeletes.symm, h.committed.symm⟩
  trans h h' := ⟨h.configSets.trans h'.configSets, h.collections.trans h'.collections,
    h.pending.trans h'.pending, h.pendingDeletes.trans h'.pendingDeletes, h.committed.trans h'.committed⟩

theorem SameContents.of_data {c d : Cluster} (h : d.data = c.data) : c.SameContents d := by
  rw [eq_withCalls h.symm]
  exact ⟨rfl, rfl, rfl, rfl, rfl⟩

theorem careful_connector : connector.Careful SameContents where
  connect _ := ⟨rfl, rfl, rfl, rfl, rfl⟩
  gateway _ :=
    { fails := fun he => .of_data (data_of_error he)
      refuses := fun hok hno => .of_data (data_of_refused hok hno) }

end Cluster

namespace Service

variable {naming : NamingPolicy} {base : String}

/-- An operation whose error reports no effect leaves config-sets, collections and documents as they were,
whichever calls are made to fail and whether connecting is refused or not. -/
theorem sameContents_of_effect_none {st : ServiceState (Watched Cluster) Unit} {call : ServiceCall}
    (h : ((inMemory naming base).watched.answer call st).1.effect? = some .none) :
    st.remote.remote.SameContents ((inMemory naming base).watched.answer call st).2.remote.remote :=
  have hequiv := Cluster.sameContents_equivalence
  related_of_effect_none (R := fun w w' : Watched Cluster => w.remote.SameContents w'.remote)
    ⟨fun w => hequiv.refl w.remote, hequiv.symm, hequiv.trans⟩
    (Cluster.careful_connector.watched hequiv) h

/-- A watched service that has created the table `orders` in a fresh cluster. -/
def ordersWatched : ServiceState (Watched Cluster) Unit :=
  ((inMemory ⟨"DEFAULT"⟩ Cluster.baseConfigSet).watched.run
    [.create ⟨"orders", none, 1, 1, none, none⟩] { remote := { remote := .fresh ⟨"DEFAULT"⟩ } }).2

/-- Of documents of which one lacks an identifier none is staged. -/
theorem sameContents_ordersWatched :
    let s := (inMemory ⟨"DEFAULT"⟩ Cluster.baseConfigSet).watched
    let call := ServiceCall.index "orders" [.ofList [("id", .string "1")], .empty]
    (s.answer call ordersWatched).1.effect? = some .none ∧
      ordersWatched.remote.remote.SameContents (s.answer call ordersWatched).2.remote.remote := by
  intro s call
  have hnone : (s.answer call ordersWatched).1.effect? = some .none := by decide +kernel
  exact ⟨hnone, sameContents_of_effect_none hnone⟩

end Service

end TableIndex
