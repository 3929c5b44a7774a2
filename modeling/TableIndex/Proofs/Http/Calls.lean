import TableIndex.Http.Client
import TableIndex.Proofs.Effect

/-!
# Calls as requests

Every call of a client is one request, to a place that depends on the call alone, and then a judgement of the body of
its answer: a body that tells of a failure comes to its error, be it when the body is read or when the response is
looked at.
-/

namespace TableIndex

variable {α β : Type}

namespace Call

/-- What the address of a call names below the endpoint. -/
inductive Place where
  | admin (names : List String)
  | table (table : String) (names : List String)

/-- Where a call goes. -/
def place : {α : Type} → Call α → Place
  | _, collectionExists _ => .admin Http.Client.collectionsPath
  | _, configExists _ => .admin Http.Client.configSetsPath
  | _, createConfig _ _ => .admin Http.Client.configSetsPath
  | _, createCollection _ _ _ _ => .admin Http.Client.collectionsPath
  | _, deleteCollection _ => .admin Http.Client.collectionsPath
  | _, deleteConfig _ => .admin Http.Client.configSetsPath
  | _, listFields table => .table table ["schema", "fields"]
  | _, uniqueKey table => .table table ["schema", "uniquekey"]
  | _, submitSchemaUpdates table _ => .table table ["schema"]
  | _, addDocuments table _ => .table table ["update"]
  | _, deleteByIds table _ => .table table ["update"]
  | _, deleteByQuery table _ => .table table ["update"]
  | _, commit table => .table table ["update"]

/-- Whether a call is answered with a response, which may not be a success. -/
def responds : {α : Type} → Call α → Bool
  | _, collectionExists _ => false
  | _, configExists _ => false
  | _, listFields _ => false
  | _, uniqueKey _ => false
  | _, _ => true

/-- What becomes of a result when a response must be a success. -/
def settle : {α : Type} → Call α → α → Except ClientError Unit
  | _, createConfig _ _, r => r.toResult.map fun _ => ()
  | _, createCollection _ _ _ _, r => r.toResult.map fun _ => ()
  | _, deleteCollection _, r => r.toResult.map fun _ => ()
  | _, deleteConfig _, r => r.toResult.map fun _ => ()
  | _, submitSchemaUpdates _ _, r => r.toResult.map fun _ => ()
  | _, addDocuments _ _, r => r.toResult.map fun _ => ()
  | _, deleteByIds _ _, r => r.toResult.map fun _ => ()
  | _, deleteByQuery _ _, r => r.toResult.map fun _ => ()
  | _, commit _, r => r.toResult.map fun _ => ()
  | _, collectionExists _, _ => .ok ()
  | _, configExists _, _ => .ok ()
  | _, listFields _, _ => .ok ()
  | _, uniqueKey _, _ => .ok ()

end Call

namespace Http

/-! ## Judging bodies -/

theorem isSuccess_collectionResponse (body : Json) :
    (collectionResponse body).isSuccess = (adminResponse body).isSuccess := by
  cases h : (adminResponse body).isSuccess with
  | true =>
      unfold AdminResponse.isSuccess at h
      simp [collectionResponse, CollectionResponse.isSuccess, AdminResponse.isSuccess, h]
  | false =>
      unfold AdminResponse.isSuccess at h
      simp [collectionResponse, CollectionResponse.isSuccess, Bool.and_assoc, h]

theorem toResult_collectionResponse (body : Json) :
    ((collectionResponse body).toResult.map fun _ => ()) = (adminResponse body).toResult.map fun _ => () := by
  rw [CollectionResponse.toResult, isSuccess_collectionResponse, AdminResponse.toResult]
  split <;> rfl

/-- A program without effects, which fails only where something is missing. -/
def Reads (x : EStateM ClientError Web α) : Prop :=
  ∀ w, (∃ a, x w = .ok a w) ∨ ∃ detail, x w = .error (.unexpectedResponse detail) w

namespace Reads

theorem pure (a : α) : Reads (pure a) := fun _ => .inl ⟨a, rfl⟩

theorem missing (detail : String) : Reads (throw (.unexpectedResponse detail) : EStateM ClientError Web α) :=
  fun _ => .inr ⟨detail, rfl⟩

theorem bind {x : EStateM ClientError Web α} {f : α → EStateM ClientError Web β} (hx : Reads x)
    (hf : ∀ a, Reads (f a)) : Reads (x >>= f) := by
  intro w
  rcases hx w with ⟨a, ha⟩ | ⟨detail, hmissing⟩
  · rw [bind_of_ok ha]
    exact hf a w
  · exact .inr ⟨detail, bind_of_error hmissing⟩

theorem mapM {f : α → EStateM ClientError Web β} (hf : ∀ a, Reads (f a)) (as : List α) : Reads (as.mapM f) := by
  induction as with
  | nil => exact pure []
  | cons a as ih =>
      rw [List.mapM_cons]
      exact (hf a).bind fun b => ih.bind fun bs => pure (b :: bs)

end Reads

namespace Client

variable (c : Client)

/-- The address of a place. -/
def address : Call.Place → Except ClientError Url
  | .admin names => c.url names
  | .table table names => c.tableUrl table names

/-- Sends a request to a place. -/
def sendTo (place : Call.Place) (method : Method) (pairs : List (String × String)) (body : Option String) :
    EStateM ClientError Web Json := do
  let u ← MonadExcept.ofExcept (c.address place)
  c.send method u pairs body

/-- A call, where a response without success is the error that it stands for. -/
def outcome (call : Call α) : EStateM ClientError Web Unit := do
  let a ← c.perform call
  MonadExcept.ofExcept (call.settle a)

/-- A program is one request to a place. A body that tells of a failure is the error of the program, and in any other
something may be missing. -/
def Asks (place : Call.Place) (x : EStateM ClientError Web α) : Prop :=
  ∃ method pairs body k, x = c.sendTo place method pairs body >>= k ∧
    (∀ answer w, (adminResponse answer).isSuccess = false →
      k answer w = .error (adminResponse answer).toError w) ∧
    ∀ answer, (adminResponse answer).isSuccess = true → Reads (k answer)

variable {c} {place : Call.Place} {call : Call α}

theorem Asks.bind {x : EStateM ClientError Web α} {f : α → EStateM ClientError Web β} (hx : c.Asks place x)
    (hf : ∀ a, Reads (f a)) : c.Asks place (x >>= f) := by
  obtain ⟨method, pairs, body, k, rfl, hrefused, haccepted⟩ := hx
  refine ⟨method, pairs, body, fun answer => k answer >>= f, bind_assoc .., fun answer w h => ?_, fun answer h => ?_⟩
  · exact bind_of_error (hrefused answer w h)
  · exact (haccepted answer h).bind hf

/-- A request whose answer must be a success before anything is read in it. -/
theorem asks_read {f : Json → EStateM ClientError Web α} (hf : ∀ answer, Reads (f answer)) (method : Method)
    (pairs : List (String × String)) (body : Option String) : c.Asks place (do
      let answer ← c.sendTo place method pairs body
      let _ ← MonadExcept.ofExcept (adminResponse answer).toResult
      f answer) := by
  refine ⟨method, pairs, body, _, rfl, fun answer w h => ?_, fun answer h => ?_⟩
  · rw [AdminResponse.toResult, h]
    rfl
  · rw [AdminResponse.toResult, h]
    exact hf answer

theorem asks_listNames (path : List String) (key : String) : c.Asks (.admin path) (c.listNames path key) := by
  refine asks_read (fun answer => ?_) .get [("action", "LIST")] none
  split
  · exact .pure _
  · exact .missing _

theorem asks_getOfTable (table : String) (names : List String) :
    c.Asks (.table table names) (c.getOfTable table names) := by
  have hsend : c.getOfTable table names = (do
      let answer ← c.sendTo (.table table names) .get [] none
      let _ ← MonadExcept.ofExcept (adminResponse answer).toResult
      return answer) := by
    simp only [getOfTable, sendTo, address, bind_assoc]
  rw [hsend]
  exact asks_read (fun answer => .pure answer) .get [] none

theorem asks_listFields (table : String) : c.Asks (.table table ["schema", "fields"]) (c.listFields table) := by
  refine (asks_getOfTable ..).bind fun answer => ?_
  split
  · refine .mapM (fun v => ?_) _
    split
    · exact .pure _
    · exact .missing _
  · exact .missing _

theorem asks_uniqueKey (table : String) : c.Asks (.table table ["schema", "uniquekey"]) (c.uniqueKey table) := by
  refine (asks_getOfTable ..).bind fun answer => ?_
  split
  · exact .pure _
  · exact .missing _

theorem settle_postToTable (table : String) (names : List String) (body : String)
    (f : AdminResponse → Except ClientError Unit) :
    (c.postToTable table names body >>= fun r => MonadExcept.ofExcept (f r)) =
      c.sendTo (.table table names) .post [] (some body) >>= fun answer =>
        MonadExcept.ofExcept (f (adminResponse answer)) := by
  simp only [postToTable, sendTo, address, bind_assoc, pure_bind]

/-- A call that is answered with a response is one request, and the body is a success or the error. -/
theorem outcome_of_responds (h : call.responds = true) : ∃ method pairs body, c.outcome call = (do
    let answer ← c.sendTo call.place method pairs body
    MonadExcept.ofExcept ((adminResponse answer).toResult.map fun _ => ())) := by
  cases call with
  | collectionExists name => cases h
  | configExists name => cases h
  | listFields table => cases h
  | uniqueKey table => cases h
  | createConfig base name =>
      simp only [outcome, perform, bind_assoc, pure_bind]
      exact ⟨_, _, _, rfl⟩
  | deleteConfig name =>
      simp only [outcome, perform, bind_assoc, pure_bind]
      exact ⟨_, _, _, rfl⟩
  | createCollection name configSet shards replicas =>
      simp only [outcome, perform, bind_assoc, pure_bind, Call.settle, toResult_collectionResponse]
      exact ⟨_, _, _, rfl⟩
  | deleteCollection name =>
      simp only [outcome, perform, bind_assoc, pure_bind, Call.settle, toResult_collectionResponse]
      exact ⟨_, _, _, rfl⟩
  | submitSchemaUpdates table updates => exact ⟨_, _, _, settle_postToTable ..⟩
  | addDocuments table docs => exact ⟨_, _, _, settle_postToTable ..⟩
  | deleteByIds table ids => exact ⟨_, _, _, settle_postToTable ..⟩
  | deleteByQuery table query => exact ⟨_, _, _, settle_postToTable ..⟩
  | commit table => exact ⟨_, _, _, settle_postToTable ..⟩

theorem asks_outcome (call : Call α) : c.Asks call.place (c.outcome call) := by
  cases h : call.responds with
  | true =>
      obtain ⟨method, pairs, body, hcall⟩ := outcome_of_responds (c := c) h
      refine ⟨method, pairs, body, _, hcall, fun answer w h => ?_, fun answer h => ?_⟩
      · rw [AdminResponse.toResult, h]
        rfl
      · rw [AdminResponse.toResult, h]
        exact .pure ()
  | false =>
      cases call with
      | collectionExists name => exact ((asks_listNames ..).bind fun _ => .pure _).bind fun _ => .pure _
      | configExists name => exact ((asks_listNames ..).bind fun _ => .pure _).bind fun _ => .pure _
      | listFields table => exact (asks_listFields table).bind fun _ => .pure _
      | uniqueKey table => exact (asks_uniqueKey table).bind fun _ => .pure _
      | _ => cases h

end Client

end Http

end TableIndex
