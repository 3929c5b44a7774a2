import TableIndex.Proofs.Http.Calls

/-!
# Failures in answers

An answer tells of a failure by its status, by a body that is not JSON, by the status in the body or by errors in it.
The status in the body is narrowed to 32 bits, so that one which is a multiple of `2 ^ 32`, or which 64 bits do not
hold, is taken for success.
-/

namespace TableIndex.Http

variable {α : Type} {body : Json} {text : String} {status : Nat} {i : Int}

/-! ## The status in a body -/

/-- The whole number that a body reports as its status. -/
def reported? (body : Json) : Option Int :=
  ((body.get? "responseHeader").bind (Json.get? "status")).bind Json.asInt?

theorem toInt32_eq_zero_iff : toInt32 i = 0 ↔ (0x100000000 : Int) ∣ i := by
  unfold toInt32
  exact Int.dvd_iff_bmod_eq_zero.symm

theorem toInt32_of_fits (hlow : -0x80000000 ≤ i) (hhigh : i < 0x80000000) : toInt32 i = i := by
  unfold toInt32
  apply Int.bmod_eq_of_le
  · omega
  · omega

theorem bodyStatus_of_reported (h : reported? body = some i) :
    bodyStatus body = if i < 0x8000000000000000 then toInt32 i else 0 := by
  unfold reported? at h
  rw [bodyStatus, h]

theorem bodyStatus_of_fits (h : reported? body = some i) (hlow : -0x80000000 ≤ i) (hhigh : i < 0x80000000) :
    bodyStatus body = i := by
  rw [bodyStatus_of_reported h, if_pos (by omega), toInt32_of_fits hlow hhigh]

theorem bodyStatus_eq_zero_iff : bodyStatus body = 0 ↔
    ∀ i, reported? body = some i → i < 0x8000000000000000 → (0x100000000 : Int) ∣ i := by
  cases h : reported? body with
  | none =>
      unfold reported? at h
      rw [bodyStatus, h]
      exact iff_of_true rfl nofun
  | some i =>
      rw [bodyStatus_of_reported h]
      by_cases hi : i < 0x8000000000000000
      · simp [hi, toInt32_eq_zero_iff]
      · simp [hi]

/-! ## What an answer tells of -/

theorem bodyErrors_eq_none_iff : bodyErrors body = none ↔
    ∀ key ∈ errorKeys, ∀ e, body.get? key = some e → e.isNull = true := by
  unfold bodyErrors
  rw [List.find?_eq_none]
  simp only [List.mem_filterMap, Bool.not_eq_true', Bool.not_eq_false]
  constructor
  · intro h key hkey e he
    exact h e ⟨key, hkey, he⟩
  · rintro h e ⟨key, hkey, he⟩
    exact h key hkey e he

/-- What a body tells of a failure: a status other than zero, as far as 32 bits show it, or errors. -/
inductive Complains (body : Json) : Prop where
  | status {i : Int} : reported? body = some i → i < 0x8000000000000000 → ¬ (0x100000000 : Int) ∣ i → Complains body
  | errors {key : String} {e : Json} : key ∈ errorKeys → body.get? key = some e → e.isNull = false → Complains body

theorem isSuccess_adminResponse_iff : (adminResponse body).isSuccess = true ↔ ¬ Complains body := by
  have hiff : (adminResponse body).isSuccess = true ↔ bodyStatus body = 0 ∧ bodyErrors body = none := by
    simp [AdminResponse.isSuccess, adminResponse]
  rw [hiff, bodyStatus_eq_zero_iff, bodyErrors_eq_none_iff]
  constructor
  · rintro ⟨hstatus, herrors⟩ (⟨hi, hlt, hnot⟩ | ⟨hkey, he, hnull⟩)
    · exact hnot (hstatus _ hi hlt)
    · cases hnull.symm.trans (herrors _ hkey _ he)
  · intro h
    refine ⟨fun i hi hlt => ?_, fun key hkey e he => ?_⟩
    · by_cases hdvd : (0x100000000 : Int) ∣ i
      · exact hdvd
      · exact absurd (.status hi hlt hdvd) h
    · cases hnull : e.isNull with
      | true => rfl
      | false => exact absurd (.errors hkey he hnull) h

/-- What an answer tells of a failure. -/
inductive Fails (status : Nat) (text : String) : Prop where
  | refused : isSuccessStatus status = false → Fails status text
  | notJson : Json.parse? text = none → Fails status text
  | body {body : Json} : Json.parse? text = some body → Complains body → Fails status text

theorem fails_iff_of_success (hstatus : isSuccessStatus status = true) (hbody : Json.parse? text = some body) :
    Fails status text ↔ Complains body := by
  constructor
  · rintro (h | h | ⟨h, hcomplains⟩)
    · cases hstatus.symm.trans h
    · cases hbody.symm.trans h
    · cases hbody.symm.trans h
      exact hcomplains
  · exact .body hbody

theorem exists_of_not_fails (h : ¬ Fails status text) :
    isSuccessStatus status = true ∧ ∃ body, Json.parse? text = some body ∧ ¬ Complains body := by
  cases hstatus : isSuccessStatus status with
  | false => exact absurd (.refused hstatus) h
  | true =>
      cases hbody : Json.parse? text with
      | none => exact absurd (.notJson hbody) h
      | some body => exact ⟨rfl, body, rfl, fun hcomplains => h (.body hbody hcomplains)⟩

/-! ## Requests that are answered -/

namespace Client

variable {c : Client} {place : Call.Place} {x : EStateM ClientError Web α} {w w' : Web} {e : ClientError} {u : Url}
  {method : Method} {pairs : List (String × String)} {sent : Option String}

theorem address_eq_error (h : c.address place = .error e) : ∃ detail, e = .invalidUrl detail := by
  have hurl : ∀ names e, c.url names = .error e → ∃ detail, e = .invalidUrl detail := by
    intro names e h
    unfold url at h
    split at h
    · cases h
    · cases h
      exact ⟨_, rfl⟩
  cases place with
  | admin names => exact hurl names e h
  | table table names =>
      rw [address, tableUrl] at h
      split at h
      · cases h
        exact ⟨_, rfl⟩
      · exact hurl _ e h

theorem sendTo_of_error (h : c.address place = .error e) : c.sendTo place method pairs sent w = .error e w := by
  rw [sendTo, h]
  rfl

theorem sendTo_of_closed (h : c.address place = .ok u) (hclosed : w.closed.contains c.number = true) :
    c.sendTo place method pairs sent w = .error .closed w := by
  rw [sendTo, h]
  show c.send method u pairs sent w = _
  unfold send
  rw [bind_of_ok (show Web.isClosed c.number w = .ok _ w from rfl), hclosed]
  rfl

theorem sendTo_of_answered (method : Method) (pairs : List (String × String)) (sent : Option String)
    (h : c.address place = .ok u) (hopen : w.closed.contains c.number = false)
    (hnext : w.next.1 = .answered status text) : ∃ w',
      c.sendTo place method pairs sent w =
        (MonadExcept.ofExcept (readAnswer status text) : EStateM ClientError Web Json) w' := by
  rw [sendTo, h]
  show ∃ w', c.send method u pairs sent w = _
  refine ⟨{ w with scheduled := w.next.2, sent := c.request method u pairs sent :: w.sent }, ?_⟩
  have hexchange : Web.exchange (c.request method u pairs sent) w = .ok (status, text)
      { w with scheduled := w.next.2, sent := c.request method u pairs sent :: w.sent } := by
    simp [Web.exchange, hnext]
  unfold send
  rw [bind_of_ok (show Web.isClosed c.number w = .ok _ w from rfl), hopen]
  exact bind_of_ok hexchange

/-- A request that is answered is refused beforehand, for its address or because the client was closed, or it comes to
the body of the answer or to the error that it is read as. -/
theorem Asks.cases (h : c.Asks place x) (hnext : w.next.1 = .answered status text) :
    (∃ detail, x w = .error (.invalidUrl detail) w) ∨ x w = .error .closed w ∨
    (∃ e w', readAnswer status text = .error e ∧ x w = .error e w') ∨
    ∃ body w', readAnswer status text = .ok body ∧
      (((adminResponse body).isSuccess = false ∧ x w = .error (adminResponse body).toError w') ∨
        ((adminResponse body).isSuccess = true ∧
          ((∃ a, x w = .ok a w') ∨ ∃ detail, x w = .error (.unexpectedResponse detail) w'))) := by
  obtain ⟨method, pairs, sent, k, rfl, hrefuses, hreads⟩ := h
  cases haddress : c.address place with
  | error e =>
      obtain ⟨detail, rfl⟩ := address_eq_error haddress
      exact .inl ⟨detail, bind_of_error (sendTo_of_error haddress)⟩
  | ok u =>
      cases hclosed : w.closed.contains c.number with
      | true => exact .inr (.inl (bind_of_error (sendTo_of_closed haddress hclosed)))
      | false =>
          obtain ⟨w', hsend⟩ := sendTo_of_answered method pairs sent haddress hclosed hnext
          cases hread : readAnswer status text with
          | error e =>
              rw [hread] at hsend
              exact .inr (.inr (.inl ⟨e, w', rfl, bind_of_error hsend⟩))
          | ok body =>
              rw [hread] at hsend
              refine .inr (.inr (.inr ⟨body, w', rfl, ?_⟩))
              rw [bind_of_ok hsend]
              cases hsuccess : (adminResponse body).isSuccess with
              | false => exact .inl ⟨rfl, hrefuses body w' hsuccess⟩
              | true => exact .inr ⟨rfl, hreads body hsuccess w'⟩

theorem readAnswer_eq_ok (h : readAnswer status text = .ok body) :
    isSuccessStatus status = true ∧ Json.parse? text = some body := by
  unfold readAnswer at h
  split at h
  · next hstatus =>
      split at h
      · next hbody =>
          cases h
          exact ⟨hstatus, hbody⟩
      · cases h
  · cases h

/-- Where reading an answer comes to a reported status, the answer is refused, and the status is the one in the body
unless there is none. -/
theorem readAnswer_eq_api {reported : Int} {errors : Json}
    (h : readAnswer status text = .error (.api reported errors)) :
    isSuccessStatus status = false ∧ ((Json.parse? text = none ∧ reported = status) ∨ ∃ body,
      Json.parse? text = some body ∧ reported = if bodyStatus body = 0 then (status : Int) else bodyStatus body) := by
  unfold readAnswer at h
  split at h
  · split at h <;> cases h
  · next hstatus =>
      refine ⟨by simpa using hstatus, ?_⟩
      unfold failure at h
      split at h
      · next body hbody =>
          cases h
          exact .inr ⟨body, hbody, rfl⟩
      · next hnone =>
          cases h
          exact .inl ⟨hnone, rfl⟩

theorem Asks.fails (h : c.Asks place x) (hnext : w.next.1 = .answered status text) (hfails : Fails status text) :
    ∃ e w', x w = .error e w' := by
  rcases h.cases hnext with ⟨detail, hx⟩ | hx | ⟨e, w', -, hx⟩ | ⟨body, w', hread, ⟨-, hx⟩ | ⟨hsuccess, -⟩⟩
  · exact ⟨_, w, hx⟩
  · exact ⟨_, w, hx⟩
  · exact ⟨e, w', hx⟩
  · exact ⟨_, w', hx⟩
  · obtain ⟨hstatus, hbody⟩ := readAnswer_eq_ok hread
    exact absurd ((fails_iff_of_success hstatus hbody).mp hfails) (isSuccess_adminResponse_iff.mp hsuccess)

/-- A reported status is the one in the body, or that of the answer itself where it is not a success and its body has
none. -/
theorem Asks.reported (h : c.Asks place x) (hnext : w.next.1 = .answered status text) {reported : Int} {errors : Json}
    (hx : x w = .error (.api reported errors) w') :
    (∃ body, Json.parse? text = some body ∧ reported = bodyStatus body ∧
        (isSuccessStatus status = false → bodyStatus body ≠ 0)) ∨
      isSuccessStatus status = false ∧ reported = status ∧
        ∀ body, Json.parse? text = some body → bodyStatus body = 0 := by
  rcases h.cases hnext with ⟨detail, hx'⟩ | hx' | ⟨e, w'', hread, hx'⟩ |
    ⟨body, w'', hread, ⟨-, hx'⟩ | ⟨-, ⟨a, hx'⟩ | ⟨detail, hx'⟩⟩⟩
  · cases hx.symm.trans hx'
  · cases hx.symm.trans hx'
  · cases hx.symm.trans hx'
    obtain ⟨hstatus, ⟨hnone, hreported⟩ | ⟨body, hbody, hreported⟩⟩ := readAnswer_eq_api hread
    · exact .inr ⟨hstatus, hreported, by simp [hnone]⟩
    · by_cases hzero : bodyStatus body = 0
      · rw [if_pos hzero] at hreported
        exact .inr ⟨hstatus, hreported, by simp [hbody, hzero]⟩
      · rw [if_neg hzero] at hreported
        exact .inl ⟨body, hbody, hreported, fun _ => hzero⟩
  · cases hx.symm.trans hx'
    obtain ⟨hstatus, hbody⟩ := readAnswer_eq_ok hread
    exact .inl ⟨body, hbody, rfl, by simp [hstatus]⟩
  · cases hx.symm.trans hx'
  · cases hx.symm.trans hx'

theorem sendTo_of_not_fails (method : Method) (pairs : List (String × String)) (sent : Option String)
    (hu : c.address place = .ok u) (hopen : w.closed.contains c.number = false)
    (hnext : w.next.1 = .answered status text) (hnot : ¬ Fails status text) :
    ∃ body w', c.sendTo place method pairs sent w = .ok body w' ∧ (adminResponse body).isSuccess = true := by
  obtain ⟨hsuccess, body, hbody, hquiet⟩ := exists_of_not_fails hnot
  obtain ⟨w', hsend⟩ := sendTo_of_answered method pairs sent hu hopen hnext
  rw [readAnswer, if_pos hsuccess, hbody] at hsend
  exact ⟨body, w', hsend, isSuccess_adminResponse_iff.mpr hquiet⟩

theorem Asks.accepts (h : c.Asks place x) (hu : c.address place = .ok u) (hopen : w.closed.contains c.number = false)
    (hnext : w.next.1 = .answered status text) (hnot : ¬ Fails status text) :
    (∃ a w', x w = .ok a w') ∨ ∃ detail w', x w = .error (.unexpectedResponse detail) w' := by
  obtain ⟨method, pairs, sent, k, rfl, -, hreads⟩ := h
  obtain ⟨body, w', hsend, hsuccess⟩ := sendTo_of_not_fails method pairs sent hu hopen hnext hnot
  rw [bind_of_ok hsend]
  rcases hreads body hsuccess w' with ⟨a, ha⟩ | ⟨detail, hmissing⟩
  · exact .inl ⟨a, w', ha⟩
  · exact .inr ⟨detail, w', hmissing⟩

theorem accepts_of_responds {call : Call α} (hresponds : call.responds = true) (hu : c.address call.place = .ok u)
    (hopen : w.closed.contains c.number = false) (hnext : w.next.1 = .answered status text)
    (hnot : ¬ Fails status text) : ∃ w', c.outcome call w = .ok () w' := by
  obtain ⟨method, pairs, sent, hcall⟩ := outcome_of_responds (c := c) hresponds
  obtain ⟨body, w', hsend, hsuccess⟩ := sendTo_of_not_fails method pairs sent hu hopen hnext hnot
  refine ⟨w', ?_⟩
  rw [hcall, bind_of_ok hsend, AdminResponse.toResult, hsuccess]
  rfl

/-- A call whose answer tells of a failure fails. The status that its error reports is the one in the body if that is
not zero and 32 bits hold it, and it is never zero where the answer itself is not a success. On every other answer, be
there a status in its body that 32 bits do not show or not, a call with a response succeeds, and any other call succeeds
or misses what it asked for. -/
theorem fails_of_answer (c : Client) (call : Call α) {w : Web} {status : Nat} {text : String}
    (hstatus : ErrorCode.isHttpStatus status = true) (hnext : w.next.1 = .answered status text) :
    (Fails status text → ∃ e w', c.outcome call w = .error e w') ∧
    (∀ reported errors w', c.outcome call w = .error (.api reported errors) w' →
      (∀ body i, Json.parse? text = some body → reported? body = some i → i ≠ 0 → -0x80000000 ≤ i → i < 0x80000000 →
        reported = i) ∧
      (isSuccessStatus status = false → reported ≠ 0)) ∧
    (¬ Fails status text → w.closed.contains c.number = false → ∀ u, c.address call.place = .ok u →
      (∃ w', c.outcome call w = .ok () w') ∨
        call.responds = false ∧ ∃ detail w', c.outcome call w = .error (.unexpectedResponse detail) w') := by
  have hasks := asks_outcome (c := c) call
  refine ⟨hasks.fails hnext, fun reported errors w' hx => ?_, fun hnot hopen u hu => ?_⟩
  · have hpositive : (status : Int) ≠ 0 := by
      simp only [ErrorCode.isHttpStatus, Bool.and_eq_true, decide_eq_true_eq] at hstatus
      omega
    rcases hasks.reported hnext hx with ⟨body, hbody, rfl, hne⟩ | ⟨hrefused, rfl, hzero⟩
    · refine ⟨fun body' i hbody' hi _ hlow hhigh => ?_, hne⟩
      cases hbody.symm.trans hbody'
      exact bodyStatus_of_fits hi hlow hhigh
    · refine ⟨fun body i hbody hi hne hlow hhigh => ?_, fun _ => hpositive⟩
      exact absurd ((bodyStatus_of_fits hi hlow hhigh).symm.trans (hzero body hbody)) hne
  · cases hresponds : call.responds with
    | true => exact .inl (accepts_of_responds hresponds hu hopen hnext hnot)
    | false =>
        rcases hasks.accepts hu hopen hnext hnot with ⟨⟨⟩, w', hok⟩ | ⟨detail, w', hmissing⟩
        · exact .inl ⟨w', hok⟩
        · exact .inr ⟨rfl, detail, w', hmissing⟩

/-- A web that answers every request in the same way. -/
def answering (status : Nat) (text : String) : Web := { afterwards := .answered status text }

/-- A client of a cluster on the same machine. -/
def localClient : Client := ⟨.default, 0⟩

/-- A status below zero in the body of an answer that is a success. -/
theorem fails_of_answer_commit :
    let text := "\x7b\"responseHeader\":\x7b\"status\":-7\x7d\x7d"
    ErrorCode.isHttpStatus 200 = true ∧ (answering 200 text).next.1 = .answered 200 text ∧ Fails 200 text ∧
      ∃ e w', localClient.outcome (.commit "orders") (answering 200 text) = .error e w' := by
  intro text
  have hreported : (Json.parse? text).bind reported? = some (-7) := by decide +kernel
  obtain ⟨body, hbody, hstatus⟩ := Option.bind_eq_some_iff.mp hreported
  have hfails : Fails 200 text := .body hbody (.status hstatus (by decide) (by decide))
  exact ⟨rfl, rfl, hfails, (fails_of_answer localClient (.commit "orders") rfl rfl).1 hfails⟩

/-- The status `2 ^ 32` is taken for none, so that the call succeeds. -/
theorem accepted_although_reported :
    let text := "\x7b\"responseHeader\":\x7b\"status\":4294967296\x7d\x7d"
    (Json.parse? text).bind reported? = some 4294967296 ∧
      value? (localClient.outcome (.commit "orders") (answering 200 text)) = some () := by
  decide +kernel

end Client

end TableIndex.Http
