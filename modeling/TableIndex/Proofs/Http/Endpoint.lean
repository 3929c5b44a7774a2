import TableIndex.Http.Client
import TableIndex.Proofs.Url.Parser
import TableIndex.Proofs.Url.Relative

/-!
# What is joined to an endpoint

An endpoint is to keep its last segment when a relative path is joined to it, for which its own path must end with a
slash. The slash is put at the end of the whole text: it ends the path where the text has neither a query nor a
fragment, and else it is a part of these.
-/

namespace TableIndex.Http

open Url

variable {endpoint : Url} {segments : List Segment}

/-- An endpoint that relative paths are resolved below. -/
structure Joins (endpoint : Url) : Prop where
  closed : endpoint.path.text.getLast? = some '/'
  joined : ∃ u, endpoint.join (Client.collectionsPath.map String.toList) = some u ∧ u.scheme = endpoint.scheme ∧
    u.authority = endpoint.authority ∧ u.path.text = endpoint.path.text ++ "admin/collections".toList

theorem fixed_of_mem_collectionsPath : ∀ n ∈ Client.collectionsPath.map String.toList, Path.Fixed n := by
  intro n hn
  simp only [Client.collectionsPath, List.map_cons, List.map_nil, List.mem_cons, List.not_mem_nil, or_false] at hn
  rcases hn with rfl | rfl
  · exact ⟨⟨by decide, by decide, by decide⟩, by decide⟩
  · exact ⟨⟨by decide, by decide, by decide⟩, by decide⟩

/-- A path that is closed is all that joining needs. -/
theorem joins_iff (h : Hierarchical endpoint segments) : Joins endpoint ↔ segments.getLast? = some [] := by
  rw [← Path.getLast?_text_iff h.slashless, ← h.text_eq]
  refine ⟨Joins.closed, fun hclosed => ⟨hclosed, ?_⟩⟩
  rw [h.text_eq, Path.getLast?_text_iff h.slashless] at hclosed
  refine ⟨_, join_of_closed h hclosed (by decide) fixed_of_mem_collectionsPath, rfl, rfl, ?_⟩
  obtain ⟨front, rfl⟩ := List.getLast?_eq_some_iff.mp hclosed
  rw [h.text_eq, Path.text_closed, List.append_assoc]
  simp only [Location.text, List.dropLast_concat, Path.text_append]
  rfl

namespace Options

variable {text : String} {o : Options}

/-- The text of an endpoint without outer blanks. -/
def trimmed (text : String) : List Char := Text.trimBy Text.isSpace text.toList

theorem of_ofEndpoint (h : ofEndpoint text = .ok o) : Url.parse (withSlash text).toList = .ok o.endpoint ∧
    ∃ segments, Hierarchical o.endpoint segments := by
  unfold ofEndpoint at h
  simp only at h
  split at h
  · nomatch h
  · next endpoint hparse =>
    split at h
    · next hbase =>
      obtain rfl := Except.ok.inj h
      refine ⟨hparse, ?_⟩
      unfold isBase at hbase
      split at hbase
      · next segments hpath => exact ⟨segments, hierarchical_of_parse hparse hpath⟩
      · nomatch hbase
    · nomatch h

theorem withSlash_eq (text : String) : (withSlash text).toList =
    if (trimmed text).getLast? = some '/' then trimmed text else trimmed text ++ ['/'] := by
  rw [withSlash, String.toList_ofList]
  rfl

theorem getLast?_withSlash (text : String) : (withSlash text).toList.getLast? = some '/' := by
  rw [withSlash_eq]
  split
  · assumption
  · exact List.getLast?_concat

/-- Behind a mark the slash changes nothing about the path. -/
theorem path_of_marked (h : ofEndpoint text = .ok o) (hmark : ∃ c ∈ trimmed text, isMark c = true) :
    ∃ v, Url.parse (trimmed text) = .ok v ∧ v.path = o.endpoint.path := by
  obtain ⟨hparse, -⟩ := of_ofEndpoint h
  obtain ⟨d, hd, hd'⟩ := hmark
  rcases Text.free_or_append isMark (trimmed text) with hfree | ⟨a, c, b, htext, ha, hc⟩
  · exact absurd hd' (by simp [hfree d hd])
  · obtain ⟨b', hb'⟩ : ∃ b', (withSlash text).toList = a ++ c :: b' := by
      rw [withSlash_eq, htext]
      split
      · exact ⟨b, rfl⟩
      · exact ⟨b ++ ['/'], by rw [List.append_assoc, List.cons_append]⟩
    have htail := parse_tail ha hc b b'
    rw [← htext, ← hb', hparse] at htail
    cases hv : Url.parse (trimmed text) with
    | error e =>
        rw [hv] at htail
        nomatch htail
    | ok v =>
        rw [hv] at htail
        have hsame : withoutTail v = withoutTail o.endpoint := Except.ok.inj htail
        have hpath : (withoutTail v).path = (withoutTail o.endpoint).path := congrArg Url.path hsame
        exact ⟨v, rfl, hpath⟩

/-- An endpoint that is accepted keeps its last segment if its text has no query and no fragment and names a path at
all, and else if the path is closed without the slash that was added. -/
theorem joins_of_ofEndpoint (h : ofEndpoint text = .ok o) :
    ((∀ c ∈ trimmed text, isMark c = false) → (Joins o.endpoint ↔ o.endpoint.path.text ≠ [])) ∧
    ((∃ c ∈ trimmed text, isMark c = true) → (Joins o.endpoint ↔
      ∃ v, Url.parse (trimmed text) = .ok v ∧ v.path.text.getLast? = some '/')) ∧
    (o.endpoint.scheme.isSpecial = true → o.endpoint.path.text ≠ []) := by
  obtain ⟨hparse, segments, hendpoint⟩ := of_ofEndpoint h
  have hjoins := joins_iff hendpoint
  refine ⟨fun hfree => ?_, fun hmark => ?_, fun hspecial => ?_⟩
  · rw [hjoins, hendpoint.text_eq, ne_eq, Path.text_eq_nil_iff]
    have hunmarked : ∀ c ∈ (withSlash text).toList, isMark c = false := by
      rw [withSlash_eq]
      split
      · exact hfree
      · exact List.forall_mem_append.mpr ⟨hfree, List.forall_mem_singleton.mpr rfl⟩
    rcases getLast?_of_parse hparse hendpoint.path_eq hunmarked (getLast?_withSlash text) with hclosed | ⟨hnil, -⟩
    · exact iff_of_true hclosed fun hnil => by rw [hnil] at hclosed; nomatch hclosed
    · exact iff_of_false (by rw [hnil]; exact nofun) fun hne => hne hnil
  · obtain ⟨v, hv, hsame⟩ := path_of_marked h hmark
    rw [hjoins, ← Path.getLast?_text_iff hendpoint.slashless, ← hendpoint.text_eq, ← hsame]
    refine ⟨fun hclosed => ⟨v, hv, hclosed⟩, ?_⟩
    rintro ⟨v', hv', hclosed⟩
    obtain rfl := Except.ok.inj (hv.symm.trans hv')
    exact hclosed
  · rw [hendpoint.text_eq, ne_eq, Path.text_eq_nil_iff]
    exact hendpoint.nonempty hspecial

/-- A URL on the machine itself, by its address. -/
def loopback (segments : List Segment) (query : Option (List Char)) : Url where
  scheme := .http
  authority := some { host := .ipv6 [0, 0, 0, 0, 0, 0, 0, 1], port := some 8983 }
  path := .hierarchy segments
  query := query

theorem joins_of_ofEndpoint_unmarked : ∃ o, ofEndpoint "http://[::1]:8983/solr" = .ok o ∧ Joins o.endpoint := by
  have hok : ofEndpoint "http://[::1]:8983/solr" = .ok { endpoint := loopback ["solr".toList, []] none } := rfl
  have hnone : (trimmed "http://[::1]:8983/solr").any isMark = false := by decide
  have hfree := fun c hc => Bool.eq_false_iff.mpr (List.any_eq_false.mp hnone c hc)
  exact ⟨_, hok, ((joins_of_ofEndpoint hok).1 hfree).mpr (by decide)⟩

/-- The slash behind a query closes no path, and what is joined loses the last segment. -/
theorem segment_lost_before_query : ∃ o u, ofEndpoint "http://[::1]:8983/solr?x=1" = .ok o ∧
    o.endpoint.path.text = "/solr".toList ∧ ¬ Joins o.endpoint ∧
    o.endpoint.join (Client.collectionsPath.map String.toList) = some u ∧
    u.path.text = "/admin/collections".toList := by
  refine ⟨{ endpoint := loopback ["solr".toList] (some "x=1/".toList) },
    loopback ["admin".toList, "collections".toList] none, rfl, by decide, fun h => ?_, rfl, by decide⟩
  exact absurd h.closed (by decide)

end Options

end TableIndex.Http
