import Mathlib.Logic.Function.Basic
import TableIndex.Proofs.Cluster.Perform
import TableIndex.Proofs.Gateway.Trace

/-!
# Handles of one cluster

Several holders connect, and each makes calls and closes through the handle that it was given. Behind all the handles
of a cluster in memory is one mark that it is closed: whoever closes a handle closes them all, and whoever connects
opens them all again, as if nothing had been closed (`run_around_close`).
-/

namespace TableIndex

/-! ## Moves -/

/-- The handles that were given out, under the names of their holders, and the state behind them. -/
structure Handles (ι σ η : Type) where
  held : ι → Option η := fun _ => none
  remote : σ

/-- What a holder does. A handle that was closed stays with its holder, who may go on calling. -/
inductive Move (ι : Type) : Type 1 where
  | connect (h : ι)
  | call (h : ι) {α : Type} (asked : Call α)
  | close (h : ι)

/-- What came of a move. -/
inductive Reaction where
  | connected (result : Except ClientError Unit)
  | called (exchange : Exchange)
  | closed (result : Except ClientError Unit)
  /-- The holder has no handle. -/
  | absent

namespace Move

variable {ι η : Type}

/-- Whether a holder asks for a handle. -/
def connects : Move ι → Bool
  | connect _ => true
  | call _ _ => false
  | close _ => false

/-- Whether a move is a call through a handle, given who has one. -/
def reaches (held : ι → Option η) : Move ι → Bool
  | connect _ => false
  | call h _ => (held h).isSome
  | close _ => false

/-- What a move comes to while the cluster is closed: calls fail, and closing once more does no harm. -/
def refused (held : ι → Option η) : Move ι → Reaction
  | connect _ => .connected (.ok ())
  | call h asked => if (held h).isSome then .called (.of asked (.error .closed)) else .absent
  | close h => if (held h).isSome then .closed (.ok ()) else .absent

end Move

/-- Acts through the handle of a holder. -/
def Handles.through {ι σ η α : Type} (st : Handles ι σ η) (h : ι) (react : Except ClientError α → Reaction)
    (act : η → EStateM ClientError σ α) : Reaction × Handles ι σ η :=
  match st.held h with
  | some x =>
    match act x st.remote with
    | .ok a r => (react (.ok a), { st with remote := r })
    | .error e r => (react (.error e), { st with remote := r })
  | none => (.absent, st)

namespace Connector

variable {ι σ η : Type} [DecidableEq ι]

/-- What comes of one move, and the handles afterwards. -/
def move (k : Connector σ η) (st : Handles ι σ η) : Move ι → Reaction × Handles ι σ η
  | .connect h =>
    match k.connect st.remote with
    | .ok x r => (.connected (.ok ()), ⟨Function.update st.held h (some x), r⟩)
    | .error e r => (.connected (.error e), { st with remote := r })
  | .call h asked => st.through h (fun r => .called (.of asked r)) fun x => (k.gateway x).perform asked
  | .close h => st.through h .closed fun x => (k.gateway x).close

/-- What comes of moves made one after the other, and the handles afterwards. -/
def run (k : Connector σ η) : List (Move ι) → Handles ι σ η → List Reaction × Handles ι σ η
  | [], st => ([], st)
  | m :: ms, st =>
    let (r, st) := k.move st m
    let (rs, st) := k.run ms st
    (r :: rs, st)

variable {k : Connector σ η} {st : Handles ι σ η}

theorem run_cons (m : Move ι) (ms : List (Move ι)) : k.run (m :: ms) st =
    ((k.move st m).1 :: (k.run ms (k.move st m).2).1, (k.run ms (k.move st m).2).2) := rfl

theorem run_append (ms ns : List (Move ι)) : k.run (ms ++ ns) st =
    ((k.run ms st).1 ++ (k.run ns (k.run ms st).2).1, (k.run ns (k.run ms st).2).2) := by
  induction ms generalizing st with
  | nil => rfl
  | cons m ms ih => simp only [List.cons_append, run_cons, ih]

end Connector

namespace Handles

variable {ι σ η α : Type} {st st' : Handles ι σ η} {h : ι} {react : Except ClientError α → Reaction}
  {act : η → EStateM ClientError σ α}

theorem through_of_none (hh : st.held h = none) : st.through h react act = (.absent, st) := by
  rw [through, hh]

theorem through_of_ok {x : η} {a : α} {r : σ} (hh : st.held h = some x) (hact : act x st.remote = .ok a r) :
    st.through h react act = (react (.ok a), { st with remote := r }) := by
  simp only [through, hh, hact]

theorem through_of_error {x : η} {e : ClientError} {r : σ} (hh : st.held h = some x)
    (hact : act x st.remote = .error e r) :
    st.through h react act = (react (.error e), { st with remote := r }) := by
  simp only [through, hh, hact]

/-- The same holders, with related states behind their handles. -/
structure Alike (R : σ → σ → Prop) (st st' : Handles ι σ η) : Prop where
  held : st.held = st'.held
  remote : R st.remote st'.remote

theorem Alike.through {R : σ → σ → Prop} (hst : st.Alike R st') (hact : ∀ x, Respects R (act x)) :
    (st.through h react act).1 = (st'.through h react act).1 ∧
      (st.through h react act).2.Alike R (st'.through h react act).2 := by
  cases hh : st.held h with
  | none =>
      rw [through_of_none hh, through_of_none (hst.held ▸ hh)]
      exact ⟨rfl, hst⟩
  | some x =>
      have hx := hact x _ _ hst.remote
      cases hrun : act x st.remote <;> cases hrun' : act x st'.remote <;> rw [hrun, hrun'] at hx
      case ok.ok =>
        cases hx with
        | ok hab hr =>
            rw [through_of_ok hh hrun, through_of_ok (hst.held ▸ hh) hrun']
            exact ⟨by rw [hab], hst.held, hr⟩
      case error.error =>
        cases hx with
        | error e hr =>
            rw [through_of_error hh hrun, through_of_error (hst.held ▸ hh) hrun']
            exact ⟨rfl, hst.held, hr⟩
      all_goals cases hx

end Handles

namespace Cluster

variable {ι α : Type} [DecidableEq ι] {st st' : Handles ι Cluster Unit} {m : Move ι} {ms : List (Move ι)}

/-! ## While the cluster is closed -/

theorem perform_of_closed {c : Cluster} (h : c.closed = true) (call : Call α) :
    perform call c = .error .closed (c.withCalls (c.calls + 1)) := by
  rw [perform_eq, if_pos h]

/-- While the cluster is closed a move that does not connect changes nothing but the count of calls. -/
theorem move_of_closed (hc : st.remote.closed = true) (hm : m.connects = false) :
    connector.move st m = (m.refused st.held,
      { st with remote := st.remote.withCalls (st.remote.calls + if m.reaches st.held then 1 else 0) }) := by
  cases m with
  | connect h => cases hm
  | call h asked =>
      rw [Connector.move, Move.refused, Move.reaches]
      cases hh : st.held h with
      | none => exact Handles.through_of_none hh
      | some x => exact Handles.through_of_error hh (perform_of_closed hc asked)
  | close h =>
      rw [Connector.move, Move.refused, Move.reaches]
      cases hh : st.held h with
      | none => exact Handles.through_of_none hh
      | some x =>
          have hclose : (connector.gateway x).close st.remote = .ok () st.remote :=
            congrArg (EStateM.Result.ok ()) (by rw [← hc])
          exact Handles.through_of_ok hh hclose

theorem run_of_closed (hc : st.remote.closed = true) (hms : ∀ m ∈ ms, m.connects = false) :
    connector.run ms st = (ms.map (·.refused st.held),
      { st with remote := st.remote.withCalls (st.remote.calls + ms.countP (·.reaches st.held)) }) := by
  induction ms generalizing st with
  | nil => rfl
  | cons m ms ih =>
      obtain ⟨hm, hms⟩ := List.forall_mem_cons.mp hms
      rw [Connector.run_cons, move_of_closed hc hm, ih (by exact hc) hms, List.map_cons, List.countP_cons,
        Nat.add_comm (ms.countP _), ← Nat.add_assoc]
      rfl

/-! ## What moves do not see -/

/-- Moves do not see the count of calls. -/
theorem move_congr (h : st.Alike SameData st') (m : Move ι) :
    (connector.move st m).1 = (connector.move st' m).1 ∧
      (connector.move st m).2.Alike SameData (connector.move st' m).2 := by
  cases m with
  | connect h' =>
      refine ⟨rfl, ?_, congrArg reopen h.remote⟩
      exact congrArg (fun held : ι → Option Unit => Function.update held h' (some ())) h.held
  | call h' asked => exact h.through fun _ => respects_perform asked
  | close h' =>
      refine h.through fun _ c d hcd => .ok rfl ?_
      exact congrArg (fun e => { e with closed := true }) hcd

theorem run_congr (h : st.Alike SameData st') (ms : List (Move ι)) :
    (connector.run ms st).1 = (connector.run ms st').1 ∧
      (connector.run ms st).2.Alike SameData (connector.run ms st').2 := by
  induction ms generalizing st st' with
  | nil => exact ⟨rfl, h⟩
  | cons m ms ih =>
      obtain ⟨hreaction, hm⟩ := move_congr h m
      obtain ⟨hreactions, hms⟩ := ih hm
      rw [Connector.run_cons, Connector.run_cons, hreaction, hreactions]
      exact ⟨rfl, hms⟩

/-- Connecting forgets that the cluster was closed. -/
theorem move_connect_reopened (st : Handles ι Cluster Unit) (h : ι) (closed : Bool) (n : Nat) :
    (connector.move { st with remote := { st.remote with closed := closed, calls := n } } (.connect h)).2.Alike
      SameData (connector.move st (.connect h)).2 := ⟨rfl, rfl⟩

/-! ## Closing -/

theorem run_close {h : ι} (hh : (st.held h).isSome = true) (hms : ∀ m ∈ ms, m.connects = false) :
    connector.run (.close h :: ms) st =
      (.closed (.ok ()) :: ms.map (·.refused st.held),
        { st with
          remote := { st.remote with
            closed := true
            calls := st.remote.calls + ms.countP (·.reaches st.held) } }) := by
  obtain ⟨x, hx⟩ := Option.isSome_iff_exists.mp hh
  have hgateway : (connector.gateway x).close st.remote = .ok () { st.remote with closed := true } := rfl
  have hclose : connector.move st (.close h) =
      (.closed (.ok ()), { st with remote := { st.remote with closed := true } }) := by
    rw [Connector.move]
    exact Handles.through_of_ok hx hgateway
  rw [Connector.run_cons, hclose, run_of_closed rfl hms]
  rfl

/-- Once a holder closes its handle, all calls of all holders fail and change nothing but the count of calls, until
someone connects. From then on everything, on the handles that were closed too, is as if neither the closing nor
anything since had happened. -/
theorem run_around_close (st : Handles ι Cluster Unit) {h : ι} (hh : (st.held h).isSome = true)
    {between : List (Move ι)} (hbetween : ∀ m ∈ between, m.connects = false) (h' : ι) (after : List (Move ι)) :
    connector.run (.close h :: between) st =
        (.closed (.ok ()) :: between.map (·.refused st.held),
          { st with
            remote := { st.remote with
              closed := true
              calls := st.remote.calls + between.countP (·.reaches st.held) } }) ∧
      (connector.run (.close h :: between ++ .connect h' :: after) st).1 =
        .closed (.ok ()) :: between.map (·.refused st.held) ++ (connector.run (.connect h' :: after) st).1 ∧
      (connector.run (.close h :: between ++ .connect h' :: after) st).2.Alike SameData
        (connector.run (.connect h' :: after) st).2 := by
  have hreopened := move_connect_reopened st h' true (st.remote.calls + between.countP (·.reaches st.held))
  obtain ⟨hreactions, hafter⟩ := run_congr hreopened after
  rw [Connector.run_append, run_close hh hbetween, Connector.run_cons, hreactions]
  exact ⟨rfl, rfl, hafter⟩

theorem run_around_close_shared :
    let st : Handles Nat Cluster Unit := (connector.run [.connect 0, .connect 1] { remote := fresh .default }).2
    let ask : Move Nat := .call 0 (.configExists baseConfigSet)
    (connector.run ([.close 1, ask] ++ [.connect 1, ask]) st).1 =
      [.closed (.ok ()), .called (.of (.configExists baseConfigSet) (.error .closed)), .connected (.ok ()),
        .called (.of (.configExists baseConfigSet) (.ok true))] := by
  intro st ask
  have hbetween : ∀ m ∈ [ask], m.connects = false := List.forall_mem_singleton.mpr rfl
  obtain ⟨-, hreactions, -⟩ := run_around_close st (h := 1) rfl hbetween 1 [ask]
  exact hreactions.trans rfl

/-- A call on one handle fails because another one was closed, and a call on a handle that was closed is answered
because someone else connected. -/
theorem close_not_confined :
    let st : Handles Nat Cluster Unit := (connector.run [.connect 0, .connect 1] { remote := fresh .default }).2
    let ask : Move Nat := .call 0 (.configExists baseConfigSet)
    (connector.run [ask] st).1 = [.called (.of (.configExists baseConfigSet) (.ok true))] ∧
      (connector.run [.close 1, ask] st).1.getLast? =
        some (.called (.of (.configExists baseConfigSet) (.error .closed))) ∧
      (connector.run [.close 0, .connect 2, ask] st).1.getLast? =
        some (.called (.of (.configExists baseConfigSet) (.ok true))) :=
  ⟨rfl, rfl, rfl⟩

end Cluster

end TableIndex
