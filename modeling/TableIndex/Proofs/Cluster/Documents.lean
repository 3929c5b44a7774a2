import Mathlib.Data.List.Forall2
import TableIndex.Proofs.Cluster.Consistent
import TableIndex.Proofs.Cluster.Programs
import TableIndex.Proofs.Text.Cutting

/-!
# Staged and visible documents

A write stages what it adds or deletes, and the commit after it makes everything visible that is staged. The
commit deletes before it adds, and what a query selects are visible documents, so a deletion misses whatever
an earlier write has left staged.
-/

namespace TableIndex

/-! ## Queries -/

namespace Text

theorem splitFirst_eq (sep : Char) (cs : List Char) : splitFirst sep cs =
    if cs.contains sep then some (cs.takeWhile (· != sep), (cs.dropWhile (· != sep)).drop 1) else none := by
  induction cs with
  | nil => rfl
  | cons c cs ih =>
      rw [splitFirst, ih]
      by_cases hc : c = sep
      · simp [hc]
      · have hc' : ¬ sep = c := fun h => hc h.symm
        by_cases hin : sep ∈ cs <;> simp [hc, hc', hin]

end Text

/-- What a query compares with its value: a string as it is, and anything else as JSON. -/
def Json.queryText : Json → String
  | .string s => s
  | v => v.compact

/-- Whether a document is what a query asks for: `*:*` asks for all of them, and any other query, blanks around
it aside, has the name of a field before its first colon and the text of that field behind it. -/
def Document.meets (query : String) (d : Document) : Bool :=
  let text := (Text.trim query).toList
  let name := text.takeWhile (· != ':')
  let value := (text.dropWhile (· != ':')).drop 1
  Text.trim query == "*:*" ||
    text.contains ':' && (d.field? (String.ofList name)).any (·.queryText == String.ofList value)

theorem Document.meets_of_no_colon {query : String} (h : (Text.trim query).toList.contains ':' = false)
    (d : Document) : d.meets query = false := by
  have hall : (Text.trim query == "*:*") = false := by
    refine beq_eq_false_iff_ne.mpr fun he => ?_
    rw [he] at h
    cases h
  rw [meets, hall, h, Bool.false_and, Bool.or_false]

/-! ## Identifiers -/

/-- What identifies a document: the text in its field `id`, or the text of the number there. -/
inductive Document.Identified (d : Document) : String → Prop where
  | text {s : String} : d.field? Document.idKey = some (.string s) → Identified d s
  | number {n : Json.Number} : d.field? Document.idKey = some (.number n) → Identified d (String.ofList n.text)

theorem Document.id?_eq_some_iff {d : Document} {id : String} : d.id? = some id ↔ d.Identified id := by
  constructor
  · intro h
    unfold Document.id? at h
    split at h
    · next hfield => exact Option.some.inj h ▸ .text hfield
    · next hfield => exact Option.some.inj h ▸ .number hfield
    · cases h
  · intro h
    cases h with
    | text hfield => rw [Document.id?, hfield]
    | number hfield => rw [Document.id?, hfield]

theorem Document.id?_eq_none_iff {d : Document} : d.id? = none ↔ ∀ id, ¬d.Identified id := by
  rw [Option.eq_none_iff_forall_not_mem]
  exact forall_congr' fun _ => not_congr Document.id?_eq_some_iff

namespace Cluster

theorem parse?_eq_none_iff {text : String} : Query.parse? text = none ↔ text.toList.contains ':' = false := by
  rw [Query.parse?, Text.splitFirst_eq]
  split
  · next he =>
      rw [he]
      decide
  · cases text.toList.contains ':' <;> simp

theorem selects_eq_meets {query : String} {q : Query} (h : Query.parse? (Text.trim query) = some q)
    (d : Document) : q.selects d = d.meets query := by
  rw [Query.parse?, Text.splitFirst_eq] at h
  rw [Document.meets]
  split at h
  · next he =>
      cases h
      rw [he]
      rfl
  · next he =>
      rw [beq_eq_false_iff_ne.mpr he, Bool.false_or]
      cases hcolon : (Text.trim query).toList.contains ':' with
      | false =>
          rw [hcolon] at h
          cases h
      | true =>
          rw [hcolon] at h
          cases h
          rw [Query.selects, Bool.true_and]
          cases d.field? _ with
          | none => rfl
          | some v => cases v <;> rfl

variable {c d : Cluster} {table q : String} {m : SortedMap Document}

/-! ## Identified documents -/

theorem identified?_eq_none_iff {docs : List Document} :
    identified? docs = none ↔ docs.any (·.id?.isNone) = true := by
  induction docs with
  | nil => simp [identified?]
  | cons d docs ih =>
      rw [identified?_cons, List.any_cons]
      cases d.id? with
      | none => simp
      | some id => simpa using ih

theorem identified?_of_identified {docs : List Document} {ids : List String}
    (h : List.Forall₂ Document.Identified docs ids) : identified? docs = some (ids.zip docs) := by
  induction h with
  | nil => rfl
  | cons hd _ ih =>
      rw [identified?_cons, Document.id?_eq_some_iff.mpr hd, ih]
      rfl

theorem foldl_identified {docs : List Document} {staged : List (String × Document)}
    (h : identified? docs = some staged) (m : SortedMap Document) :
    staged.foldl (fun m e => m.insert e.1 e.2) m = docs.foldl (fun m d => d.id?.elim m (m.insert · d)) m := by
  induction docs generalizing staged m with
  | nil =>
      cases h
      rfl
  | cons d docs ih =>
      rw [identified?_cons] at h
      obtain ⟨id, hid, h⟩ := Option.bind_eq_some_iff.mp h
      obtain ⟨es, hes, rfl⟩ := Option.map_eq_some_iff.mp h
      rw [List.foldl_cons, List.foldl_cons, hid]
      exact ih hes _

/-! ## What is staged -/

/-- The documents of a collection that the next commit adds. -/
def stagedOf (c : Cluster) (collection : String) : SortedMap Document :=
  (c.pending.get? collection).getD .empty

/-- The identifiers of a collection that the next commit deletes. -/
def doomedOf (c : Cluster) (collection : String) : SortedMap Unit :=
  (c.pendingDeletes.get? collection).getD .empty

section Staging

variable (c : Cluster) (q : String)

@[simp] theorem stagedOf_stageAdds (staged : List (String × Document)) :
    (c.stageAdds q staged).stagedOf q = staged.foldl (fun m e => m.insert e.1 e.2) (c.stagedOf q) := by
  rw [stagedOf, stageAdds, SortedMap.get?_insert_self]
  rfl

@[simp] theorem doomedOf_stageAdds (staged : List (String × Document)) :
    (c.stageAdds q staged).doomedOf q = c.doomedOf q := rfl

@[simp] theorem committedOf_stageAdds (staged : List (String × Document)) :
    (c.stageAdds q staged).committedOf q = c.committedOf q := rfl

@[simp] theorem stagedOf_stageDeletes (ids : List String) :
    (c.stageDeletes q ids).stagedOf q = c.stagedOf q := rfl

@[simp] theorem committedOf_stageDeletes (ids : List String) :
    (c.stageDeletes q ids).committedOf q = c.committedOf q := rfl

@[simp] theorem contains_doomedOf_stageDeletes (ids : List String) (id : String) :
    ((c.stageDeletes q ids).doomedOf q).contains id = (ids.contains id || (c.doomedOf q).contains id) := by
  have hfold : ∀ m : SortedMap Unit,
      (ids.foldl (fun m id => m.insert id ()) m).contains id = (ids.contains id || m.contains id) := by
    induction ids with
    | nil => exact fun m => rfl
    | cons id' ids ih =>
        intro m
        rw [List.foldl_cons, ih, SortedMap.contains_insert, List.contains_cons, Bool.beq_comm,
          Bool.or_left_comm, Bool.or_assoc]
  rw [doomedOf, stageDeletes, SortedMap.get?_insert_self]
  exact hfold _

@[simp] theorem stagedOf_commitStaged : (c.commitStaged q).stagedOf q = .empty := by
  rw [stagedOf, commitStaged, SortedMap.get?_erase, if_pos rfl]
  rfl

@[simp] theorem doomedOf_commitStaged : (c.commitStaged q).doomedOf q = .empty := by
  rw [doomedOf, commitStaged, SortedMap.get?_erase, if_pos rfl]
  rfl

/-- What is staged is added after what is doomed was deleted. -/
theorem get?_committedOf_commitStaged (id : String) :
    ((c.commitStaged q).committedOf q).get? id =
      ((c.stagedOf q).get? id).or
        (if (c.doomedOf q).contains id then none else (c.committedOf q).get? id) := by
  rw [committedOf, commitStaged, SortedMap.get?_insert_self, Option.getD_some]
  refine (SortedMap.get?_foldl_entries (c.stagedOf q) _ id).trans ?_
  rw [SortedMap.get?_foldl_erase]
  simp only [SortedMap.mem_keys_iff]
  rfl

end Staging

/-! ## Collections without staged writes -/

/-- The table has the collection `q`, where the documents `m` are visible and nothing is staged. -/
structure Shows (table q : String) (m : SortedMap Document) (c : Cluster) : Prop where
  resolve : c.resolve? table = some q
  staged : c.stagedOf q = .empty
  doomed : c.doomedOf q = .empty
  committed : c.committedOf q = m

namespace Shows

theorem documents (h : c.Shows table q m) : c.documents table = m.values := by
  rw [Cluster.documents, h.resolve]
  exact congrArg SortedMap.values h.committed

theorem withAccount (h : c.Shows table q m) (failures : List (Operation × Int)) (closed : Bool) (calls : Nat) :
    (c.withAccount failures closed calls).Shows table q m :=
  ⟨h.resolve, h.staged, h.doomed, h.committed⟩

theorem of_account {failures : List (Operation × Int)} {closed : Bool} {calls : Nat}
    (h : (c.withAccount failures closed calls).Shows table q m) : c.Shows table q m :=
  ⟨h.resolve, h.staged, h.doomed, h.committed⟩

/-- Documents that are added to a collection without staged writes replace those of their identifiers. -/
theorem adds (h : c.Shows table q m) (staged : List (String × Document)) :
    ((c.stageAdds q staged).commitStaged q).Shows table q (staged.foldl (fun m e => m.insert e.1 e.2) m) := by
  refine ⟨h.resolve, stagedOf_commitStaged .., doomedOf_commitStaged .., SortedMap.ext_get? fun id => ?_⟩
  rw [get?_committedOf_commitStaged, stagedOf_stageAdds, doomedOf_stageAdds, committedOf_stageAdds, h.staged,
    h.doomed, h.committed, SortedMap.get?_foldl_insert_eq_or staged m]
  rfl

theorem deletes (h : c.Shows table q m) (ids : List String) :
    ((c.stageDeletes q ids).commitStaged q).Shows table q (ids.foldl (fun m id => m.erase id) m) := by
  refine ⟨h.resolve, stagedOf_commitStaged .., doomedOf_commitStaged .., SortedMap.ext_get? fun id => ?_⟩
  rw [get?_committedOf_commitStaged, stagedOf_stageDeletes, contains_doomedOf_stageDeletes,
    committedOf_stageDeletes, h.staged, h.doomed, h.committed, SortedMap.get?_foldl_erase]
  simp [SortedMap.contains]

theorem deletesSelected (h : c.Shows table q m) (query : Query) :
    ((c.stageDeletes q
        (((c.committedOf q).entries.filter fun e => query.selects e.2).map Prod.fst)).commitStaged q).Shows
      table q (m.filter fun _ d => !query.selects d) := by
  rw [h.committed, ← SortedMap.foldl_erase_keys_filter]
  exact h.deletes _

end Shows

/-! ## Writes and their commits -/

section Writes

variable {write : Call AdminResponse} {r : AdminResponse}

theorem perform_of_serve (hc : c.Serves write.operation) (h : serve write c = .ok r d) :
    gateway.perform write c = .ok r (d.withCalls (c.calls + 1)) := by
  refine (perform_of_serves hc).trans ?_
  rw [h]
  rfl

theorem writeAndCommit_of_refusal (hc : c.Healthy) (h : serve write c = .ok r c) (hr : r.isSuccess = false) :
    ∃ e n, Document.writeAndCommit gateway table write c = .error e (c.withCalls n) := by
  have hperform := perform_of_serve (hc.serves _) h
  exact ⟨_, _, bind_of_error (adaptExcept_of_error (change_of_refusal hperform hr))⟩

theorem writeAndCommit_of_serve {m' : SortedMap Document} (hc : c.Healthy) (h : serve write c = .ok r d)
    (hr : r.isSuccess = true) (hd : d.resolve? table = some q)
    (hshows : (d.commitStaged q).Shows table q m') :
    ∃ e, Document.writeAndCommit gateway table write c = .ok () e ∧ e.Healthy ∧ e.Shows table q m' := by
  have hwrite := change_of_success (perform_of_serve (hc.serves _) h) hr
  have haccount := account_of_serve h
  -- The write changes nothing of what the commit depends on.
  let d' := d.withCalls (c.calls + 1)
  have hhealthy : d'.Healthy := by
    refine hc.congr ?_ ?_
    · exact congrArg (·.closed) haccount
    · exact congrArg (·.failures) haccount
  have hcommit : serve (.commit table) d' = .ok {} (d'.commitStaged q) := by
    have hd' : d'.resolve? table = some q := hd
    rw [serve, onCollection, hd']
  have hperform : gateway.perform (.commit table) d' = .ok {} ((d'.commitStaged q).withCalls (d'.calls + 1)) :=
    perform_of_serve (hhealthy.serves _) hcommit
  have hcommit := change_of_success hperform rfl
  refine ⟨_, (bind_of_ok (adaptExcept_of_ok hwrite)).trans (adaptExcept_of_ok hcommit), ?_, ?_⟩
  · exact ⟨hhealthy.opened, hhealthy.failures⟩
  · exact hshows.withAccount _ _ _

/-- Documents that all have identifiers are visible after the write that adds them. -/
theorem Shows.index (h : c.Shows table q m) (hc : c.Healthy) {docs : List Document}
    (hids : docs.any (·.id?.isNone) = false) :
    ∃ e, Document.writeAndCommit gateway table (.addDocuments table docs) c = .ok () e ∧ e.Healthy ∧
      e.Shows table q (docs.foldl (fun m d => d.id?.elim m (m.insert · d)) m) := by
  cases hstaged : identified? docs with
  | none =>
      rw [identified?_eq_none_iff.mp hstaged] at hids
      cases hids
  | some staged =>
      have hserve : serve (.addDocuments table docs) c = .ok {} (c.stageAdds q staged) := by
        rw [serve, onCollection, h.resolve]
        simp only [addDocuments, hstaged]
      rw [← foldl_identified hstaged]
      exact writeAndCommit_of_serve hc hserve rfl h.resolve (h.adds staged)

theorem Shows.index_refused (h : c.Shows table q m) (hc : c.Healthy) {docs : List Document}
    (hids : docs.any (·.id?.isNone) = true) :
    ∃ e n, Document.writeAndCommit gateway table (.addDocuments table docs) c = .error e (c.withCalls n) := by
  refine writeAndCommit_of_refusal hc (r := .rejected 400 "Document is missing mandatory uniqueKey field: id")
    ?_ rfl
  rw [serve, onCollection, h.resolve]
  simp only [addDocuments, identified?_eq_none_iff.mpr hids]

theorem Shows.deleteIds (h : c.Shows table q m) (hc : c.Healthy) (ids : List String) :
    ∃ e, Document.writeAndCommit gateway table (.deleteByIds table ids) c = .ok () e ∧ e.Healthy ∧
      e.Shows table q (ids.foldl (fun m id => m.erase id) m) := by
  have hserve : serve (.deleteByIds table ids) c = .ok {} (c.stageDeletes q ids) := by
    rw [serve, onCollection, h.resolve]
  exact writeAndCommit_of_serve hc hserve rfl h.resolve (h.deletes ids)

theorem Shows.deleteQuery (h : c.Shows table q m) (hc : c.Healthy) {query : String}
    (hquery : (Text.trim query).toList.contains ':' = true) :
    ∃ e, Document.writeAndCommit gateway table (.deleteByQuery table query) c = .ok () e ∧ e.Healthy ∧
      e.Shows table q (m.filter fun _ d => !d.meets query) := by
  cases hparse : Query.parse? (Text.trim query) with
  | none =>
      rw [parse?_eq_none_iff.mp hparse] at hquery
      cases hquery
  | some parsed =>
      have hserve : serve (.deleteByQuery table query) c = .ok {} (c.stageDeletes q
          (((c.committedOf q).entries.filter fun e => parsed.selects e.2).map Prod.fst)) := by
        rw [serve, onCollection, h.resolve]
        simp only [deleteByQuery, hparse]
      have hselects : parsed.selects = Document.meets query := funext (selects_eq_meets hparse)
      rw [← hselects]
      exact writeAndCommit_of_serve hc hserve rfl h.resolve (h.deletesSelected parsed)

theorem Shows.deleteQuery_refused (h : c.Shows table q m) (hc : c.Healthy) {query : String}
    (hquery : (Text.trim query).toList.contains ':' = false) :
    ∃ e n, Document.writeAndCommit gateway table (.deleteByQuery table query) c =
      .error e (c.withCalls n) := by
  refine writeAndCommit_of_refusal hc
    (r := .rejected 400 ("Cannot parse '" ++ Text.trim query ++ "'")) ?_ rfl
  rw [serve, onCollection, h.resolve]
  simp only [deleteByQuery, parse?_eq_none_iff.mpr hquery]

end Writes

/-! ## Deletions over staged documents -/

/-- The documents of a table that the next commit adds. -/
def staged (c : Cluster) (table : String) : List Document :=
  match c.resolve? table with
  | some collection => (c.stagedOf collection).values
  | none => []

/-- A document that was visible only under deleted identifiers is visible after the commit if it was staged. -/
theorem mem_committedOf_of_deletes {ids : List String} {x : Document}
    (hids : ∀ id, (c.committedOf q).get? id = some x → id ∈ ids) :
    x ∈ (((c.stageDeletes q ids).commitStaged q).committedOf q).values ↔ x ∈ (c.stagedOf q).values := by
  simp only [SortedMap.mem_values_iff, get?_committedOf_commitStaged, stagedOf_stageDeletes,
    contains_doomedOf_stageDeletes, committedOf_stageDeletes]
  constructor
  · rintro ⟨id, hid⟩
    rcases Option.or_eq_some_iff.mp hid with hstaged | ⟨-, hleft⟩
    · exact ⟨id, hstaged⟩
    · split at hleft
      · cases hleft
      · next hkept => exact absurd (by simp [hids id hleft]) hkept
  · rintro ⟨id, hid⟩
    exact ⟨id, Option.or_eq_some_iff.mpr (.inl hid)⟩

section Deletions

variable {write : Call AdminResponse} {e : Cluster} {x : Document}

theorem writeAndCommit_eq_ok (hwrite : ∀ a, accepts write a = a.isSuccess)
    (h : Document.writeAndCommit gateway table write c = .ok () e) :
    ∃ d q n, c.Becomes write d ∧ d.resolve? table = some q ∧ e = (d.commitStaged q).withCalls n := by
  obtain ⟨⟨⟩, u, hchange, hcommit⟩ := bind_eq_ok h
  obtain ⟨a, hperform, ha⟩ := change_eq_ok (adaptExcept_eq_ok hchange)
  obtain ⟨d, hserve, rfl⟩ := perform_withCalls_eq_ok (c := c) (m := c.calls) hperform
  obtain ⟨b, hperform, hb⟩ := change_eq_ok (adaptExcept_eq_ok hcommit)
  obtain ⟨u, hserved, rfl⟩ := perform_withCalls_eq_ok hperform
  obtain ⟨q, hresolve, rfl⟩ := becomes_of_accepted hserved hb
  exact ⟨d, q, _, becomes_of_accepted hserve ((hwrite a).trans ha), hresolve, rfl⟩

/-- Of the documents with a deleted identifier those stay visible, or become visible, that were staged. -/
theorem mem_documents_of_deleteIds {ids : List String} {id : String} (hc : c.Consistent)
    (h : Document.writeAndCommit gateway table (.deleteByIds table ids) c = .ok () e)
    (hx : x.id? = some id) (hid : id ∈ ids) : x ∈ e.documents table ↔ x ∈ c.staged table := by
  obtain ⟨d, q, n, ⟨q', hq', rfl⟩, hq, rfl⟩ := writeAndCommit_eq_ok (fun _ => rfl) h
  obtain rfl : q' = q := Option.some.inj (hq'.symm.trans hq)
  have hids : ∀ id', (c.committedOf q').get? id' = some x → id' ∈ ids := fun id' hx' => by
    obtain rfl : id' = id := Option.some.inj ((hc.committedOf q' id' x hx').symm.trans hx)
    exact hid
  have hresolve : (((c.stageDeletes q' ids).commitStaged q').withCalls n).resolve? table = some q' := hq
  rw [documents, hresolve, staged, hq']
  exact mem_committedOf_of_deletes hids

theorem mem_documents_of_deleteQuery {query : String}
    (h : Document.writeAndCommit gateway table (.deleteByQuery table query) c = .ok () e)
    (hx : x.meets query = true) : x ∈ e.documents table ↔ x ∈ c.staged table := by
  obtain ⟨d, q, n, ⟨q', parsed, hq', hparse, rfl⟩, hq, rfl⟩ := writeAndCommit_eq_ok (fun _ => rfl) h
  obtain rfl : q' = q := Option.some.inj (hq'.symm.trans hq)
  let ids := ((c.committedOf q').entries.filter fun e => parsed.selects e.2).map Prod.fst
  have hids : ∀ id, (c.committedOf q').get? id = some x → id ∈ ids := fun id hx' => by
    have hselects : parsed.selects x = true := (selects_eq_meets hparse x).trans hx
    exact List.mem_map.mpr ⟨(id, x), List.mem_filter.mpr ⟨SortedMap.get?_eq_some_iff.mp hx', hselects⟩, rfl⟩
  have hresolve : (((c.stageDeletes q' ids).commitStaged q').withCalls n).resolve? table = some q' := hq
  rw [documents, hresolve, staged, hq']
  exact mem_committedOf_of_deletes hids

end Deletions

end Cluster

end TableIndex
