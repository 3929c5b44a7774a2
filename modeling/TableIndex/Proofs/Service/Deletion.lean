import TableIndex.Proofs.Service.Connected
import TableIndex.Proofs.Service.Documents

/-!
# Deletions over staged documents

A commit that fails leaves staged what was sent. A later deletion does not reach it: the commit of the deletion
deletes what is visible, and then adds what was staged.
-/

namespace TableIndex

namespace Service

variable {naming n : NamingPolicy} {base table : String} {st st' : ServiceState Cluster Unit} {x : Document}

/-- The operations of a service make calls, and connect and close in between. -/
theorem called_of_reachable {c : Cluster} (h : c.Reachable n) : c.Called n := by
  induction h with
  | fresh => exact .fresh
  | answer naming base call handle cache _ ih =>
      have hst : (⟨handle, cache, _⟩ : ServiceState Cluster Unit).remote.Called n := ih
      refine kept_answer (I := Cluster.Called n) ?_ ?_ ?_ call hst
      · exact fun _ hc => hc.connect
      · exact fun _ _ k _ hc => hc.perform k
      · exact fun _ _ hc => hc.close
  | fail op status _ ih => exact ih.fail op status
  | clearFailure op _ ih => exact ih.clearFailure op

theorem staged_seen (st : ServiceState Cluster Unit) (table : String) :
    (seen st).remote.staged table = st.remote.staged table := by
  rw [remote_seen]
  rfl

theorem consistent_seen (h : st.remote.Consistent) : (seen st).remote.Consistent := by
  rw [remote_seen]
  exact h.withAccount ..

/-- A write that was answered was made to the cluster as it was seen. -/
theorem write_eq_ok {write : EStateM DocumentError Cluster Unit} (h : onRemote write (opened st) = .ok () st') :
    write (seen st).remote = .ok () st'.remote :=
  (Cached.onRemote_eq_ok (onCached_eq_ok h).1).1

theorem mem_documents_of_deleteIds {ids : List String} {id : String} (hst : st.remote.Consistent)
    (h : (inMemory naming base).deleteIds table ids st = .ok () st') (hx : x.id? = some id) (hid : id ∈ ids) :
    x ∈ st'.remote.documents table ↔ x ∈ st.remote.staged table := by
  have hne : ids.isEmpty = false := List.isEmpty_eq_false_iff.mpr (List.ne_nil_of_mem hid)
  rw [deleteIds_run hne] at h
  rw [← staged_seen]
  exact Cluster.mem_documents_of_deleteIds (consistent_seen hst) (write_eq_ok h) hx hid

theorem mem_documents_of_deleteQuery {query : String}
    (h : (inMemory naming base).deleteQuery table query st = .ok () st') (hx : x.meets query = true) :
    x ∈ st'.remote.documents table ↔ x ∈ st.remote.staged table := by
  cases hblank : Text.isBlank query with
  | true =>
      -- A blank query deletes nothing, and no document is what it asks for.
      have hcolon : (Text.trim query).toList.contains ':' = false := by
        rw [Text.trim_of_isBlank hblank]
        rfl
      rw [Document.meets_of_no_colon hcolon] at hx
      cases hx
  | false =>
      rw [deleteQuery_run hblank] at h
      rw [← staged_seen]
      exact Cluster.mem_documents_of_deleteQuery (write_eq_ok h) hx

/-- Of the documents that a deletion asks for, those are visible when it returns that an earlier write had left
staged, and no others. -/
theorem visible_after_deletion (hcalled : st.remote.Called n) :
    (∀ ids st', (inMemory naming base).deleteIds table ids st = .ok () st' →
      ∀ x : Document, (∃ id ∈ ids, x.id? = some id) →
        (x ∈ st'.remote.documents table ↔ x ∈ st.remote.staged table)) ∧
    ∀ query st', (inMemory naming base).deleteQuery table query st = .ok () st' →
      ∀ x : Document, x.meets query = true →
        (x ∈ st'.remote.documents table ↔ x ∈ st.remote.staged table) := by
  constructor
  · rintro ids st' h x ⟨id, hid, hx⟩
    exact mem_documents_of_deleteIds hcalled.consistent h hx hid
  · exact fun query st' h x hx => mem_documents_of_deleteQuery h hx

/-- A service that has created the table `orders` and added the document `1` to it; then the commit of the
document `2` failed, and commits succeed again. -/
def ordersUncommitted : ServiceState Cluster Unit :=
  let s := inMemory ⟨"DEFAULT"⟩ Cluster.baseConfigSet
  let st := (s.run [.create ⟨"orders", none, 1, 1, none, none⟩, .index "orders" [.ofList [("id", .string "1")]]]
    { remote := .fresh ⟨"DEFAULT"⟩ }).2
  let st := (s.answer (.index "orders" [.ofList [("id", .string "2")]])
    { st with remote := st.remote.fail .commit 500 }).2
  { st with remote := st.remote.clearFailure .commit }

theorem reachable_ordersUncommitted : ordersUncommitted.remote.Reachable ⟨"DEFAULT"⟩ :=
  .clearFailure _ (.answer _ _ _ _ _ (.fail _ _ (reachable_run _ _ .fresh)))

/-- The document `1` is deleted, and the document `2` is not. -/
theorem visible_after_deletion_orders :
    let st := ordersUncommitted
    let s := inMemory ⟨"DEFAULT"⟩ Cluster.baseConfigSet
    let st' := stateAfter (s.deleteIds "orders" ["1", "2"] st)
    st.remote.Called ⟨"DEFAULT"⟩ ∧ s.deleteIds "orders" ["1", "2"] st = .ok () st' ∧
      (st.remote.documents "orders").map (·.id?) = [some "1"] ∧
      (st'.remote.documents "orders").map (·.id?) = [some "2"] ∧
      ∀ x : Document, (∃ id ∈ ["1", "2"], x.id? = some id) →
        (x ∈ st'.remote.documents "orders" ↔ x ∈ st.remote.staged "orders") := by
  intro st s st'
  have hcalled : st.remote.Called ⟨"DEFAULT"⟩ := called_of_reachable reachable_ordersUncommitted
  have hrun : s.deleteIds "orders" ["1", "2"] st = .ok () st' := rfl
  exact ⟨hcalled, hrun, by decide +kernel, by decide +kernel, (visible_after_deletion hcalled).1 _ _ hrun⟩

/-- A document that was staged is visible after a deletion that asks for it, by its identifier or by a query. -/
theorem visible_although_deleted :
    let s := inMemory ⟨"DEFAULT"⟩ Cluster.baseConfigSet
    let byIds := stateAfter (s.deleteIds "orders" ["2"] ordersUncommitted)
    let byQuery := stateAfter (s.deleteQuery "orders" "*:*" ordersUncommitted)
    ordersUncommitted.remote.Reachable ⟨"DEFAULT"⟩ ∧
      s.deleteIds "orders" ["2"] ordersUncommitted = .ok () byIds ∧
      (byIds.remote.documents "orders").map (·.id?) = [some "1", some "2"] ∧
      s.deleteQuery "orders" "*:*" ordersUncommitted = .ok () byQuery ∧
      (byQuery.remote.documents "orders").map (·.id?) = [some "2"] :=
  ⟨reachable_ordersUncommitted, rfl, by decide +kernel, rfl, by decide +kernel⟩

end Service

end TableIndex
