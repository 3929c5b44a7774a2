import TableIndex.Proofs.Cluster.Documents
import TableIndex.Proofs.Service.Isolation

/-!
# Documents of a table

Where nothing is staged and no call is made to fail, a table is a map from identifiers to documents: calls that
write do to what is visible what they say, one after the other, and leave nothing staged.
-/

namespace TableIndex

/-- A call about the documents or the schema of one table. -/
inductive TableCall where
  | index (docs : List Document)
  | deleteIds (ids : List String)
  | deleteQuery (query : String)
  | updateSchema (desired : Schema) (merge : Bool)

namespace TableCall

/-- The operation of a service on a table. -/
def on (table : String) : TableCall → ServiceCall
  | index docs => .index table docs
  | deleteIds ids => .deleteIds table ids
  | deleteQuery query => .deleteQuery table query
  | updateSchema desired merge => .updateSchema table desired merge

/-- Whether a call is refused: one of the documents has no identifier, or the query is neither blank nor has a
colon. -/
def refused : TableCall → Bool
  | index docs => docs.any (·.id?.isNone)
  | deleteQuery query => !Text.isBlank query && !(Text.trim query).toList.contains ':'
  | _ => false

/-- A call that asks for nothing that can be done: the field `id` of a document is neither a text nor a number, or a
query that is not blank has no colon. -/
def Unfit : TableCall → Prop
  | index docs => ∃ d ∈ docs, ∀ id, ¬d.Identified id
  | deleteQuery query => Text.isBlank query = false ∧ ':' ∉ (Text.trim query).toList
  | _ => False

/-- What a call makes of the documents of a table. -/
def revise (call : TableCall) (m : SortedMap Document) : SortedMap Document :=
  if call.refused then m
  else match call with
    | index docs => docs.foldl (fun m d => d.id?.elim m (m.insert · d)) m
    | deleteIds ids => ids.foldl (fun m id => m.erase id) m
    | deleteQuery query => m.filter fun _ d => !d.meets query
    | updateSchema _ _ => m

/-- The answers that a call may get; nothing is said of whether a change of a schema succeeds. -/
def Answers : TableCall → ServiceAnswer → Prop
  | updateSchema _ _, .updated _ => True
  | updateSchema _ _, _ => False
  | call, .written (.ok ()) => call.refused = false
  | call, .written (.error _) => call.refused = true
  | _, _ => False

theorem revise_of_refused {call : TableCall} (h : call.refused = true) (m : SortedMap Document) :
    call.revise m = m := if_pos h

theorem revise_index {docs : List Document} (h : (index docs).refused = false) (m : SortedMap Document) :
    (index docs).revise m = docs.foldl (fun m d => d.id?.elim m (m.insert · d)) m :=
  if_neg (Bool.eq_false_iff.mp h)

theorem revise_deleteQuery {query : String} (h : (deleteQuery query).refused = false)
    (m : SortedMap Document) : (deleteQuery query).revise m = m.filter fun _ d => !d.meets query :=
  if_neg (Bool.eq_false_iff.mp h)

theorem refused_iff (call : TableCall) : call.refused = true ↔ call.Unfit := by
  cases call with
  | index docs => simp [refused, Unfit, Document.id?_eq_none_iff]
  | deleteQuery query => simp [refused, Unfit]
  | deleteIds ids => simp [refused, Unfit]
  | updateSchema desired merge => simp [refused, Unfit]

/-- Documents with identifiers are put under them, one after the other. -/
theorem revise_of_identified {docs : List Document} {ids : List String}
    (h : List.Forall₂ Document.Identified docs ids) (m : SortedMap Document) :
    (index docs).revise m = (ids.zip docs).foldl (fun m e => m.insert e.1 e.2) m := by
  have hids := Cluster.identified?_of_identified h
  have hfit : (index docs).refused = false := by
    rw [refused, ← Bool.not_eq_true, ← Cluster.identified?_eq_none_iff, hids]
    exact nofun
  rw [revise_index hfit, Cluster.foldl_identified hids]

end TableCall

namespace Service

variable {ε α : Type} {naming : NamingPolicy} {base table q : String} {st st' : ServiceState Cluster Unit}
  {m m' : SortedMap Document}

/-! ## One call -/

/-- The service finds the cluster open and all calls succeeding, and the table as it is told. -/
structure Finds (table q : String) (m : SortedMap Document) (st : ServiceState Cluster Unit) : Prop where
  healthy : (seen st).remote.Healthy
  shows : (seen st).remote.Shows table q m

theorem shows_seen : (seen st).remote.Shows table q m ↔ st.remote.Shows table q m := by
  rw [remote_seen]
  exact ⟨Cluster.Shows.of_account, (·.withAccount _ _ _)⟩

theorem finds_onRemote {act : EStateM ε Cluster α} {c : Cluster}
    (h : stateAfter (act (seen st).remote) = c) (hc : c.Healthy) (hshows : c.Shows table q m) :
    Finds table q m (stateAfter (onRemote act (opened st))) := by
  constructor
  · rw [seen_onRemote, h]
    exact hc
  · rw [seen_onRemote, h]
    exact hshows

theorem written_of_ok {act : EStateM DocumentError Cluster Unit} {c : Cluster}
    (h : act (seen st).remote = .ok () c) (hc : c.Healthy) (hshows : c.Shows table q m) :
    (tell .written (onRemote act (opened st))).1 = .written (.ok ()) ∧
      Finds table q m (tell .written (onRemote act (opened st))).2 := by
  constructor
  · rw [onRemote, onCached_of_ok (Cached.onRemote_of_ok h)]
    rfl
  · rw [snd_tell]
    exact finds_onRemote (by rw [h]; rfl) hc hshows

theorem written_of_error {act : EStateM DocumentError Cluster Unit} (hst : Finds table q m st)
    (h : ∃ e n, act (seen st).remote = .error e ((seen st).remote.withCalls n)) :
    (∃ e, (tell .written (onRemote act (opened st))).1 = .written (.error e)) ∧
      Finds table q m (tell .written (onRemote act (opened st))).2 := by
  obtain ⟨e, n, h⟩ := h
  constructor
  · rw [onRemote, onCached_of_error (Cached.onRemote_of_error h)]
    exact ⟨e, rfl⟩
  · rw [snd_tell]
    refine finds_onRemote (c := (seen st).remote.withCalls n) (by rw [h]; rfl) ?_ ?_
    · exact ⟨hst.healthy.opened, hst.healthy.failures⟩
    · exact hst.shows.withAccount _ _ _

theorem index_run {docs : List Document} (h : docs.isEmpty = false) :
    (inMemory naming base).index table docs st =
      onRemote (Document.writeAndCommit Cluster.gateway table (.addDocuments table docs)) (opened st) := by
  rw [index, if_neg (by simp [h])]
  refine (client_bind ..).trans ?_
  rw [Document.index, if_neg (by simp [h])]
  rfl

theorem deleteIds_run {ids : List String} (h : ids.isEmpty = false) :
    (inMemory naming base).deleteIds table ids st =
      onRemote (Document.writeAndCommit Cluster.gateway table (.deleteByIds table ids)) (opened st) := by
  rw [deleteIds, if_neg (by simp [h])]
  refine (client_bind ..).trans ?_
  rw [Document.deleteIds, if_neg (by simp [h])]
  rfl

theorem deleteQuery_run {query : String} (h : Text.isBlank query = false) :
    (inMemory naming base).deleteQuery table query st =
      onRemote (Document.writeAndCommit Cluster.gateway table (.deleteByQuery table query)) (opened st) := by
  rw [deleteQuery, if_neg (by simp [h])]
  refine (client_bind ..).trans ?_
  rw [Document.deleteQuery, if_neg (by simp [h])]
  rfl

/-- A change of a schema leaves documents alone, whether it succeeds or not. -/
theorem finds_updateSchema (hst : Finds table q m st) (desired : Schema) (merge : Bool) :
    Finds table q m
      (stateAfter ((inMemory naming base).updateSchema table desired merge st)) := by
  let I : Cluster → Prop := fun c => c.Healthy ∧ c.Shows table q m
  have hcalls : ∀ c n, I c → I (c.withCalls n) := fun c n hc =>
    ⟨⟨hc.1.opened, hc.1.failures⟩, hc.2.withAccount _ _ _⟩
  have hrevises : ∀ {α} (k : Call α), k.Revises table → Keeps I (Cluster.gateway.perform k) := by
    intro α k hk
    refine Cluster.keeps_perform hcalls fun c hc => Cluster.stateAfter_serve hc fun d hd => ?_
    cases k with
    | submitSchemaUpdates name updates =>
        obtain ⟨collection, configSet, s, -, -, -, rfl⟩ := hd
        exact ⟨⟨hc.1.opened, hc.1.failures⟩, hc.2.resolve, hc.2.staged, hc.2.doomed, hc.2.committed⟩
    | _ => exact hk.elim
  have hkeeps : Keeps (fun s => I s.remote ∧ True) (Schema.update naming Cluster.gateway table desired merge) :=
    (Keeps.compositional (I := I)).update Keeps.compositional (.onRemote fun _ => True)
      (fun _ hk => Cluster.keeps_asks hcalls hk) hrevises (fun _ _ _ hs => hs) (fun _ _ _ _ _ hs => hs)
      desired merge
  have hafter := (hkeeps (seen st) ⟨⟨hst.healthy, hst.shows⟩, trivial⟩).1
  rw [updateSchema_run]
  constructor
  · rw [seen_onCached]
    exact hafter.1
  · rw [seen_onCached]
    exact hafter.2

theorem filter_of_blank {query : String} (h : Text.isBlank query = true) (m : SortedMap Document) :
    m.filter (fun _ d => !d.meets query) = m := by
  have hcolon : (Text.trim query).toList.contains ':' = false := by
    rw [Text.trim_of_isBlank h]
    rfl
  refine SortedMap.ext_get? fun id => ?_
  rw [SortedMap.get?_filter]
  cases m.get? id with
  | none => rfl
  | some d => rw [Option.filter_some, Document.meets_of_no_colon hcolon, Bool.not_false, if_pos rfl]

theorem finds_index (naming : NamingPolicy) (base : String) (hst : Finds table q m st) (docs : List Document) :
    (TableCall.index docs).Answers ((inMemory naming base).answer (.index table docs) st).1 ∧
      Finds table q ((TableCall.index docs).revise m)
        ((inMemory naming base).answer (.index table docs) st).2 := by
  rw [answer]
  cases hrefused : (TableCall.index docs).refused with
  | true =>
      have hne : docs.isEmpty = false := by
        cases docs with
        | nil => cases hrefused
        | cons d docs => rfl
      obtain ⟨⟨e, ha⟩, hst⟩ := written_of_error hst (hst.shows.index_refused hst.healthy hrefused)
      rw [index_run hne, ha, TableCall.revise_of_refused hrefused]
      exact ⟨hrefused, hst⟩
  | false =>
      rw [TableCall.revise_index hrefused]
      cases hempty : docs.isEmpty with
      | true =>
          obtain rfl := List.isEmpty_iff.mp hempty
          exact ⟨rfl, hst⟩
      | false =>
          obtain ⟨c, hrun, hc, hs⟩ := hst.shows.index hst.healthy hrefused
          obtain ⟨ha, hst⟩ := written_of_ok hrun hc hs
          rw [index_run hempty, ha]
          exact ⟨hrefused, hst⟩

theorem finds_deleteIds (naming : NamingPolicy) (base : String) (hst : Finds table q m st) (ids : List String) :
    (TableCall.deleteIds ids).Answers ((inMemory naming base).answer (.deleteIds table ids) st).1 ∧
      Finds table q ((TableCall.deleteIds ids).revise m)
        ((inMemory naming base).answer (.deleteIds table ids) st).2 := by
  rw [answer]
  cases hempty : ids.isEmpty with
  | true =>
      obtain rfl := List.isEmpty_iff.mp hempty
      exact ⟨rfl, hst⟩
  | false =>
      obtain ⟨c, hrun, hc, hs⟩ := hst.shows.deleteIds hst.healthy ids
      obtain ⟨ha, hst⟩ := written_of_ok hrun hc hs
      rw [deleteIds_run hempty, ha]
      exact ⟨rfl, hst⟩

theorem finds_deleteQuery (naming : NamingPolicy) (base : String) (hst : Finds table q m st) (query : String) :
    (TableCall.deleteQuery query).Answers ((inMemory naming base).answer (.deleteQuery table query) st).1 ∧
      Finds table q ((TableCall.deleteQuery query).revise m)
        ((inMemory naming base).answer (.deleteQuery table query) st).2 := by
  rw [answer]
  cases hblank : Text.isBlank query with
  | true =>
      have hrefused : (TableCall.deleteQuery query).refused = false := by
        rw [TableCall.refused, hblank]
        rfl
      have hrun : (inMemory naming base).deleteQuery table query st = .ok () st := by
        rw [Service.deleteQuery, if_pos hblank]
        rfl
      rw [hrun, TableCall.revise_deleteQuery hrefused, filter_of_blank hblank]
      exact ⟨hrefused, hst⟩
  | false =>
      have hcolon : (TableCall.deleteQuery query).refused = !(Text.trim query).toList.contains ':' := by
        rw [TableCall.refused, hblank]
        rfl
      rw [deleteQuery_run hblank]
      cases hrefused : (TableCall.deleteQuery query).refused with
      | true =>
          have hcolon := (Bool.not_eq_true' _).mp (hcolon.symm.trans hrefused)
          obtain ⟨⟨e, ha⟩, hst⟩ := written_of_error hst (hst.shows.deleteQuery_refused hst.healthy hcolon)
          rw [ha, TableCall.revise_of_refused hrefused]
          exact ⟨hrefused, hst⟩
      | false =>
          have hcolon := (Bool.not_eq_false' _).mp (hcolon.symm.trans hrefused)
          obtain ⟨c, hrun, hc, hs⟩ := hst.shows.deleteQuery hst.healthy hcolon
          obtain ⟨ha, hst⟩ := written_of_ok hrun hc hs
          rw [ha, TableCall.revise_deleteQuery hrefused]
          exact ⟨hrefused, hst⟩

/-- What one call does to what is visible. -/
theorem finds_answer (naming : NamingPolicy) (base : String) (hst : Finds table q m st) (call : TableCall) :
    call.Answers ((inMemory naming base).answer (call.on table) st).1 ∧
      Finds table q (call.revise m) ((inMemory naming base).answer (call.on table) st).2 := by
  cases call with
  | index docs => exact finds_index naming base hst docs
  | deleteIds ids => exact finds_deleteIds naming base hst ids
  | deleteQuery query => exact finds_deleteQuery naming base hst query
  | updateSchema desired merge =>
      rw [TableCall.on, answer, snd_tell]
      refine ⟨?_, finds_updateSchema hst desired merge⟩
      cases (inMemory naming base).updateSchema table desired merge st with
      | ok a st' => exact trivial
      | error e st' => exact trivial

/-! ## Runs -/

theorem finds_run (naming : NamingPolicy) (base : String) (calls : List TableCall) (hst : Finds table q m st) :
    List.Forall₂ TableCall.Answers calls ((inMemory naming base).run (calls.map (·.on table)) st).1 ∧
      Finds table q (calls.foldl (fun m call => call.revise m) m)
        ((inMemory naming base).run (calls.map (·.on table)) st).2 := by
  induction calls generalizing st m with
  | nil => exact ⟨.nil, hst⟩
  | cons call calls ih =>
      obtain ⟨ha, hst⟩ := finds_answer naming base hst call
      obtain ⟨has, hst⟩ := ih hst
      exact ⟨.cons ha has, hst⟩

/-- Where the table has a collection without staged writes and no call is made to fail, what is visible after
any run of calls on the table is what the calls make, one after the other, of what was visible before. Exactly those
are refused that ask for nothing that can be done, and documents are put under the texts and numbers in their field
`id`. -/
theorem documents_run (naming : NamingPolicy) (base : String) (hshows : st.remote.Shows table q m)
    (hhealthy : (seen st).remote.Healthy) (calls : List TableCall) :
    let r := (inMemory naming base).run (calls.map (·.on table)) st
    List.Forall₂ TableCall.Answers calls r.1 ∧
      r.2.remote.documents table = (calls.foldl (fun m call => call.revise m) m).values ∧
      ∀ call ∈ calls, (call.refused = true ↔ call.Unfit) ∧
        ∀ docs ids, call = .index docs → List.Forall₂ Document.Identified docs ids →
          ∀ m, call.revise m = (ids.zip docs).foldl (fun m e => m.insert e.1 e.2) m := by
  obtain ⟨hanswers, hst⟩ := finds_run naming base calls ⟨hhealthy, shows_seen.mpr hshows⟩
  refine ⟨hanswers, (shows_seen.mp hst.shows).documents, fun call _ => ⟨call.refused_iff, ?_⟩⟩
  rintro docs ids rfl hids m
  exact TableCall.revise_of_identified hids m

/-- Of two documents the query selects the one that was added first, the other one is identified by a number, and a
document without identifier is not added. -/
theorem documents_run_orders :
    let st := besideOrders "items"
    let calls : List TableCall :=
      [.index [.ofList [("id", .string "1"), ("state", .string "open")], .ofList [("id", .number (.int 2))]],
        .deleteQuery " state:open ", .index [.ofList [("state", .string "open")]]]
    let m : SortedMap Document := .empty
    let r := (inMemory ⟨"DEFAULT"⟩ Cluster.baseConfigSet).run (calls.map (·.on "orders")) st
    st.remote.Shows "orders" "DEFAULT_orders" m ∧ (seen st).remote.Healthy ∧
      List.Forall₂ TableCall.Answers calls r.1 ∧
      r.2.remote.documents "orders" = (calls.foldl (fun m call => call.revise m) m).values ∧
      (r.2.remote.documents "orders").map (·.id?) = [some "2"] := by
  intro st calls m r
  have hshows : st.remote.Shows "orders" "DEFAULT_orders" m := ⟨by decide +kernel, rfl, rfl, rfl⟩
  have hhealthy : (seen st).remote.Healthy := ⟨rfl, rfl⟩
  obtain ⟨hanswers, hdocuments, -⟩ := documents_run ⟨"DEFAULT"⟩ Cluster.baseConfigSet hshows hhealthy calls
  exact ⟨hshows, hhealthy, hanswers, hdocuments, by decide +kernel⟩

end Service

end TableIndex
