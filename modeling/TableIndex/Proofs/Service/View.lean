import TableIndex.Proofs.Service.Connected

/-!
# Services seen through a view

A connector that keeps more than another may do the same for all that a view shows. Then a service does the same
through both of them.
-/

namespace TableIndex

variable {σ τ η κ ε α : Type} {view : σ → τ} {handle : η → κ}

/-- Through a view of the state and one of the handles, one connector does what another does. -/
structure Connector.Through (view : σ → τ) (handle : η → κ) (c : Connector σ η) (d : Connector τ κ) :
    Prop where
  connect : ∀ r, d.connect (view r) =
    match c.connect r with
    | .ok h r => .ok (handle h) (view r)
    | .error e r => .error e (view r)
  perform : ∀ h {α : Type} (call : Call α),
    Projects view ((c.gateway h).perform call) ((d.gateway (handle h)).perform call)
  close : ∀ h, Projects view (c.gateway h).close (d.gateway (handle h)).close

/-- What is seen of the state of a service. -/
def ServiceState.through (view : σ → τ) (handle : η → κ) (st : ServiceState σ η) : ServiceState τ κ :=
  ⟨st.handle.map handle, st.cache, view st.remote⟩

namespace Service

variable {c : Connector σ η} {d : Connector τ κ} {naming : NamingPolicy} {base : String} {call : ServiceCall}

theorem tell_through {x : EStateM ε (Cached σ) α} {y : EStateM ε (Cached τ) α} (f : Except ε α → ServiceAnswer)
    (h : Projects (Cached.through view) x y) (st : ServiceState σ η) :
    tell f (onCached y (st.through view handle)) =
      ((tell f (onCached x st)).1, (tell f (onCached x st)).2.through view handle) := by
  have hy : y ⟨(st.through view handle).cache, (st.through view handle).remote⟩ =
      viewed (Cached.through view) (x ⟨st.cache, st.remote⟩) := h ⟨st.cache, st.remote⟩
  rw [onCached, hy, onCached]
  cases x ⟨st.cache, st.remote⟩ <;> rfl

theorem act_through {g : Gateway σ} {g' : Gateway τ}
    (hg : ∀ {α : Type} (call : Call α), Projects view (g.perform call) (g'.perform call))
    (hcall : call.needsCluster = true) (st : ServiceState σ η) :
    act ⟨naming, base, d⟩ g' call (st.through view handle) =
      ((act ⟨naming, base, c⟩ g call st).1, (act ⟨naming, base, c⟩ g call st).2.through view handle) := by
  obtain ⟨ε, α, f, x, y, hxy, hx, hy⟩ := parallel_act Projects.parallel Projects.parallel .onRemote
    hg (fun _ _ _ => rfl) (fun _ _ _ _ => rfl) (fun _ _ _ => rfl) naming base c d hcall
  rw [hx, hy]
  exact tell_through f hxy st

theorem client_through (hc : c.Through view handle d) (st : ServiceState σ η) :
    client ⟨naming, base, d⟩ (st.through view handle) =
      match client ⟨naming, base, c⟩ st with
      | .ok h st' => .ok (handle h) (st'.through view handle)
      | .error e st' => .error e (st'.through view handle) := by
  obtain ⟨held, cache, remote⟩ := st
  cases held with
  | some h => rfl
  | none =>
      have hd := hc.connect remote
      cases hrun : c.connect remote with
      | ok h r =>
          rw [hrun] at hd
          rw [client_of_connect rfl hd, client_of_connect rfl hrun]
          rfl
      | error e r =>
          rw [hrun] at hd
          rw [client_of_refusal rfl hd, client_of_refusal rfl hrun]
          rfl

/-- Through the view, the answers are those of the other service. -/
theorem answer_through (hc : c.Through view handle d) (call : ServiceCall) (st : ServiceState σ η) :
    answer ⟨naming, base, d⟩ call (st.through view handle) =
      ((answer ⟨naming, base, c⟩ call st).1, (answer ⟨naming, base, c⟩ call st).2.through view handle) := by
  cases hneeds : call.needsCluster with
  | true =>
      rw [answer_of_needsCluster _ hneeds, answer_of_needsCluster _ hneeds, client_through hc]
      cases client ⟨naming, base, c⟩ st with
      | ok h st' => exact act_through (hc.perform h) hneeds st'
      | error e st' => rfl
  | false =>
      cases call with
      | invalidate table =>
          simp only [answer, invalidate]
          cases naming.qualify table with
          | none => rfl
          | some q => exact tell_through _ (x := Cached.forget q) (fun _ => rfl) st
      | index table docs =>
          have hempty : docs.isEmpty = true := by simpa [ServiceCall.needsCluster] using hneeds
          rw [answer, answer, index, index, if_pos hempty, if_pos hempty]
          rfl
      | deleteIds table ids =>
          have hempty : ids.isEmpty = true := by simpa [ServiceCall.needsCluster] using hneeds
          rw [answer, answer, deleteIds, deleteIds, if_pos hempty, if_pos hempty]
          rfl
      | deleteQuery table query =>
          have hblank : Text.isBlank query = true := by simpa [ServiceCall.needsCluster] using hneeds
          rw [answer, answer, deleteQuery, deleteQuery, if_pos hblank, if_pos hblank]
          rfl
      | destroy =>
          obtain ⟨held, cache, remote⟩ := st
          cases held with
          | none => rfl
          | some h => exact tell_through .destroyed (hc.close h).onRemote ⟨none, cache, remote⟩
      | _ => cases hneeds

end Service

end TableIndex
