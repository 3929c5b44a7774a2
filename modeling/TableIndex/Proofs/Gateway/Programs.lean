import TableIndex.Collection.Provision
import TableIndex.Document.Write
import TableIndex.Proofs.Effect
import TableIndex.Schema.Reconcile

/-!
# The calls that programs make

What holds of every call that a program may make holds of the program, if it is a property that steps hand
on. The same goes for a program behind two gateways and what relates their calls. All programs ask; apart from
that each kind of program makes calls of one kind only.
-/

namespace TableIndex

/-! ## Changes -/

section Changes

variable {σ : Type} {g : Gateway σ} {s t : σ} {e : ClientError}

theorem change_of_success {call : Call AdminResponse} {a : AdminResponse}
    (h : g.perform call s = .ok a t) (ha : a.isSuccess = true) : g.change call s = .ok () t := by
  refine (bind_of_ok h).trans ?_
  rw [if_pos ha]
  rfl

theorem change_of_refusal {call : Call AdminResponse} {a : AdminResponse}
    (h : g.perform call s = .ok a t) (ha : a.isSuccess = false) : g.change call s = .error a.toError t := by
  refine (bind_of_ok h).trans ?_
  rw [if_neg (by simp [ha])]
  rfl

theorem change_eq_ok {call : Call AdminResponse} (h : g.change call s = .ok () t) :
    ∃ a, g.perform call s = .ok a t ∧ a.isSuccess = true := check_eq_ok h

theorem change_eq_error {call : Call AdminResponse} (h : g.change call s = .error e t) :
    g.perform call s = .error e t ∨ ∃ a, g.perform call s = .ok a t ∧ a.isSuccess = false :=
  check_eq_error h

theorem changeCollection_eq_ok {call : Call CollectionResponse} (h : g.changeCollection call s = .ok () t) :
    ∃ a, g.perform call s = .ok a t ∧ a.isSuccess = true := check_eq_ok h

theorem changeCollection_eq_error {call : Call CollectionResponse}
    (h : g.changeCollection call s = .error e t) :
    g.perform call s = .error e t ∨ ∃ a, g.perform call s = .ok a t ∧ a.isSuccess = false :=
  check_eq_error h

end Changes

/-! ## Kinds of calls -/

namespace Call

/-- A call that changes nothing. -/
def Asks : {α : Type} → Call α → Prop
  | _, collectionExists _ => True
  | _, configExists _ => True
  | _, listFields _ => True
  | _, uniqueKey _ => True
  | _, _ => False

/-- A call that makes the collection `q` or its config-set. -/
def Creates (q : String) : {α : Type} → Call α → Prop
  | _, createConfig _ name => name = q
  | _, createCollection name configSet _ _ => name = q ∧ configSet = q
  | _, _ => False

/-- A call that removes the collection `q` or its config-set. -/
def Deletes (q : String) : {α : Type} → Call α → Prop
  | _, deleteCollection name => name = q
  | _, deleteConfig name => name = q
  | _, _ => False

/-- A call that changes the schema of a table as planned. -/
def Revises (table : String) : {α : Type} → Call α → Prop
  | _, submitSchemaUpdates name updates =>
    name = table ∧ ∃ current desired merge, updates = (SchemaUpdate.plan current desired merge).updates
  | _, _ => False

/-- A call that changes the documents of a table. -/
def Writes (table : String) : {α : Type} → Call α → Prop
  | _, addDocuments name _ => name = table
  | _, deleteByIds name _ => name = table
  | _, deleteByQuery name _ => name = table
  | _, commit name => name = table
  | _, _ => False

end Call

/-! ## Programs -/

/-- What changing a schema comes to once the plan for it is made. -/
def Schema.submit {σ : Type} (naming : NamingPolicy) (g : Gateway σ) (table : String) (merge : Bool)
    (plan : SchemaUpdate.Plan) : EStateM UpdateSchemaError (Cached σ) Unit :=
  if plan.updates.isEmpty then
    if !merge then cacheUpdated naming table plan.schema else pure ()
  else do
    Cached.onRemoteOr (UpdateSchemaError.rejected table) (g.change (.submitSchemaUpdates table plan.updates))
    cacheUpdated naming table plan.schema

theorem Schema.update_eq {σ : Type} (naming : NamingPolicy) (g : Gateway σ) (table : String)
    (desired : Schema) (merge : Bool) : update naming g table desired merge =
      ((get naming g table).adaptExcept UpdateSchemaError.ofGetSchema >>= fun current =>
        submit naming g table merge (SchemaUpdate.plan current desired merge)) := rfl

namespace Parallel

variable {σ τ : Type} {P : (ε α : Type) → EStateM ε σ α → EStateM ε τ α → Prop} {g : Gateway σ} {h : Gateway τ}

/-! ## Behind a gateway -/

theorem change (hP : Parallel P) {call : Call AdminResponse} (hcall : P _ _ (g.perform call) (h.perform call)) :
    P _ _ (g.change call) (h.change call) :=
  hP.bind hcall fun _ => ite (hP.pure ()) (hP.throw _)

theorem changeCollection (hP : Parallel P) {call : Call CollectionResponse}
    (hcall : P _ _ (g.perform call) (h.perform call)) :
    P _ _ (g.changeCollection call) (h.changeCollection call) :=
  hP.bind hcall fun _ => ite (hP.pure ()) (hP.throw _)

theorem create (hP : Parallel P) {p : Provisioner} {config : CollectionConfig}
    (hasks : ∀ {α} (call : Call α), call.Asks → P _ _ (g.perform call) (h.perform call))
    (hcreates : ∀ q, p.naming.qualify config.collectionName = some q →
      ∀ {α} (call : Call α), call.Creates q → P _ _ (g.perform call) (h.perform call)) :
    P _ _ (p.create g config) (p.create h config) := by
  simp only [Provisioner.create]
  cases hq : p.naming.qualify config.collectionName with
  | none => exact hP.throw _
  | some q =>
      have htail : ∀ there : Bool, P _ _
          (do
            (g.changeCollection (.createCollection q q config.shards config.replicas)).adaptExcept
              (CreateError.collection config.collectionName q (!there))
            return CreateOutcome.created)
          (do
            (h.changeCollection (.createCollection q q config.shards config.replicas)).adaptExcept
              (CreateError.collection config.collectionName q (!there))
            return CreateOutcome.created) := fun there =>
        hP.bind (hP.adaptExcept _ (hP.changeCollection (hcreates q hq _ ⟨rfl, rfl⟩))) fun _ => hP.pure _
      refine hP.bind (hP.adaptExcept _ (hasks _ trivial)) fun exists_ => ite (hP.pure _) ?_
      refine hP.bind (hP.adaptExcept _ (hasks _ trivial)) fun there => ite ?_ (htail there)
      exact hP.bind (hP.adaptExcept _ (hP.change (hcreates q hq _ rfl))) fun _ => htail there

theorem collectionExists (hP : Parallel P) (p : Provisioner) (table : String)
    (hasks : ∀ {α} (call : Call α), call.Asks → P _ _ (g.perform call) (h.perform call)) :
    P _ _ (p.collectionExists g table) (p.collectionExists h table) := by
  rw [Provisioner.collectionExists, Provisioner.collectionExists]
  cases p.naming.qualify table with
  | none => exact hP.pure _
  | some q => exact hasks _ trivial

theorem configSetExists (hP : Parallel P) (p : Provisioner) (table : String)
    (hasks : ∀ {α} (call : Call α), call.Asks → P _ _ (g.perform call) (h.perform call)) :
    P _ _ (p.configSetExists g table) (p.configSetExists h table) := by
  rw [Provisioner.configSetExists, Provisioner.configSetExists]
  cases p.naming.qualify table with
  | none => exact hP.pure _
  | some q => exact hasks _ trivial

theorem fetch (hP : Parallel P) (q table : String)
    (hasks : ∀ {α} (call : Call α), call.Asks → P _ _ (g.perform call) (h.perform call)) :
    P _ _ (Schema.fetch g q table) (Schema.fetch h q table) := by
  refine hP.bind (hP.adaptExcept _ (hasks _ trivial)) fun there => ite (hP.throw _) ?_
  refine hP.bind (hP.adaptExcept _ (hasks _ trivial)) fun fields => ?_
  refine hP.bind (hP.adaptExcept _ (hasks _ trivial)) fun key => ?_
  cases Schema.ofProperties key fields with
  | ok schema => exact hP.pure schema
  | error cause => exact hP.throw _

theorem writeAndCommit (hP : Parallel P) {table : String} {write : Call AdminResponse}
    (hwrites : ∀ {α} (call : Call α), call.Writes table → P _ _ (g.perform call) (h.perform call))
    (hwrite : write.Writes table) :
    P _ _ (Document.writeAndCommit g table write) (Document.writeAndCommit h table write) :=
  hP.bind (hP.adaptExcept _ (hP.change (hwrites _ hwrite))) fun _ =>
    hP.adaptExcept _ (hP.change (hwrites _ rfl))

theorem index (hP : Parallel P) {table : String} (docs : List Document)
    (hwrites : ∀ {α} (call : Call α), call.Writes table → P _ _ (g.perform call) (h.perform call)) :
    P _ _ (Document.index g table docs) (Document.index h table docs) :=
  ite (hP.pure ()) (hP.writeAndCommit hwrites rfl)

theorem deleteIds (hP : Parallel P) {table : String} (ids : List String)
    (hwrites : ∀ {α} (call : Call α), call.Writes table → P _ _ (g.perform call) (h.perform call)) :
    P _ _ (Document.deleteIds g table ids) (Document.deleteIds h table ids) :=
  ite (hP.pure ()) (hP.writeAndCommit hwrites rfl)

theorem deleteQuery (hP : Parallel P) {table : String} (query : String)
    (hwrites : ∀ {α} (call : Call α), call.Writes table → P _ _ (g.perform call) (h.perform call)) :
    P _ _ (Document.deleteQuery g table query) (Document.deleteQuery h table query) :=
  ite (hP.pure ()) (hP.writeAndCommit hwrites rfl)

/-! ## Behind a gateway and a cache -/

section Cached

variable {P' : (ε α : Type) → EStateM ε (Cached σ) α → EStateM ε (Cached τ) α → Prop} {p : Provisioner}
  {naming : NamingPolicy} {table : String}

theorem onRemoteOr (hP : Parallel P)
    (hlift : ∀ {ε α x y}, P ε α x y → P' ε α (Cached.onRemote x) (Cached.onRemote y))
    {ε ε' α : Type} {x : EStateM ε σ α} {y : EStateM ε τ α} (f : ε → ε') (hx : P ε α x y) :
    P' ε' α (Cached.onRemoteOr f x) (Cached.onRemoteOr f y) :=
  hlift (hP.adaptExcept f hx)

theorem delete (hP : Parallel P) (hP' : Parallel P')
    (hlift : ∀ {ε α x y}, P ε α x y → P' ε α (Cached.onRemote x) (Cached.onRemote y))
    (hasks : ∀ {α} (call : Call α), call.Asks → P _ _ (g.perform call) (h.perform call))
    (hdeletes : ∀ q, p.naming.qualify table = some q →
      ∀ {α} (call : Call α), call.Deletes q → P _ _ (g.perform call) (h.perform call))
    (hforget : ∀ q, p.naming.qualify table = some q → ∀ {ε}, P' ε _ (Cached.forget q) (Cached.forget q)) :
    P' _ _ (p.delete g table) (p.delete h table) := by
  simp only [Provisioner.delete]
  cases hq : p.naming.qualify table with
  | none => exact hP'.pure _
  | some q =>
      have honRemote := @onRemoteOr _ _ P P' hP hlift
      refine hP'.bind (honRemote _ (hasks _ trivial)) fun there => ite (hP'.pure _) ?_
      refine hP'.bind (honRemote _ (hP.changeCollection (hdeletes q hq _ rfl))) fun _ => ?_
      refine hP'.bind (hforget q hq) fun _ => ?_
      refine hP'.bind (honRemote _ (hasks _ trivial)) fun there => ite (hP'.pure _) ?_
      exact hP'.bind (honRemote _ (hP.change (hdeletes q hq _ rfl))) fun _ => hP'.pure _

theorem get (hP : Parallel P) (hP' : Parallel P')
    (hlift : ∀ {ε α x y}, P ε α x y → P' ε α (Cached.onRemote x) (Cached.onRemote y))
    (hasks : ∀ {α} (call : Call α), call.Asks → P _ _ (g.perform call) (h.perform call))
    (hlookup : ∀ q {ε}, P' ε _ (Cached.lookup q) (Cached.lookup q))
    (hput : ∀ q, naming.qualify table = some q →
      ∀ schema {ε}, P' ε _ (Cached.put q schema) (Cached.put q schema)) :
    P' _ _ (Schema.get naming g table) (Schema.get naming h table) := by
  rw [Schema.get, Schema.get]
  cases hq : naming.qualify table with
  | none => exact hP'.throw _
  | some q =>
      refine hP'.bind (hlookup q) fun known => ?_
      cases known with
      | some schema => exact hP'.pure schema
      | none =>
          refine hP'.bind (hlift (hP.fetch q table hasks)) fun schema => ?_
          exact hP'.bind (hput q hq schema) fun _ => hP'.pure schema

theorem cacheUpdated (hP' : Parallel P')
    (hput : ∀ q, naming.qualify table = some q →
      ∀ schema {ε}, P' ε _ (Cached.put q schema) (Cached.put q schema))
    (schema : Schema) {ε : Type} :
    P' ε _ (Schema.cacheUpdated naming table schema) (Schema.cacheUpdated naming table schema) := by
  rw [Schema.cacheUpdated, Schema.cacheUpdated]
  cases hq : naming.qualify table with
  | none => exact hP'.pure _
  | some q => exact hput q hq schema

theorem submit (hP : Parallel P) (hP' : Parallel P')
    (hlift : ∀ {ε α x y}, P ε α x y → P' ε α (Cached.onRemote x) (Cached.onRemote y))
    (merge : Bool) (plan : SchemaUpdate.Plan)
    (hsubmits : P _ _ (g.perform (.submitSchemaUpdates table plan.updates))
      (h.perform (.submitSchemaUpdates table plan.updates)))
    (hput : ∀ q, naming.qualify table = some q →
      ∀ schema {ε}, P' ε _ (Cached.put q schema) (Cached.put q schema)) :
    P' _ _ (Schema.submit naming g table merge plan) (Schema.submit naming h table merge plan) := by
  have hupdated := @cacheUpdated _ _ P' naming table hP' hput plan.schema
  rw [Schema.submit, Schema.submit]
  refine ite (ite hupdated (hP'.pure ())) ?_
  exact hP'.bind (hP.onRemoteOr hlift _ (hP.change hsubmits)) fun _ => hupdated

theorem update (hP : Parallel P) (hP' : Parallel P')
    (hlift : ∀ {ε α x y}, P ε α x y → P' ε α (Cached.onRemote x) (Cached.onRemote y))
    (hasks : ∀ {α} (call : Call α), call.Asks → P _ _ (g.perform call) (h.perform call))
    (hrevises : ∀ {α} (call : Call α), call.Revises table → P _ _ (g.perform call) (h.perform call))
    (hlookup : ∀ q {ε}, P' ε _ (Cached.lookup q) (Cached.lookup q))
    (hput : ∀ q, naming.qualify table = some q →
      ∀ schema {ε}, P' ε _ (Cached.put q schema) (Cached.put q schema))
    (desired : Schema) (merge : Bool) :
    P' _ _ (Schema.update naming g table desired merge) (Schema.update naming h table desired merge) := by
  rw [Schema.update_eq, Schema.update_eq]
  exact hP'.bind (hP'.adaptExcept _ (hP.get hP' hlift hasks hlookup hput)) fun current =>
    hP.submit hP' hlift merge _ (hrevises _ ⟨rfl, current, desired, merge, rfl⟩) hput

end Cached

end Parallel

/-! ## One program -/

namespace Compositional

variable {σ : Type} {P : (ε α : Type) → EStateM ε σ α → Prop} {g : Gateway σ}

theorem change (hP : Compositional P) {call : Call AdminResponse} (h : P _ _ (g.perform call)) :
    P _ _ (g.change call) := hP.parallel.change (h := g) h

theorem create (hP : Compositional P) {p : Provisioner} {config : CollectionConfig}
    (hasks : ∀ {α} (call : Call α), call.Asks → P _ _ (g.perform call))
    (hcreates : ∀ q, p.naming.qualify config.collectionName = some q →
      ∀ {α} (call : Call α), call.Creates q → P _ _ (g.perform call)) :
    P _ _ (p.create g config) := hP.parallel.create (h := g) hasks hcreates

theorem collectionExists (hP : Compositional P) (p : Provisioner) (table : String)
    (hasks : ∀ {α} (call : Call α), call.Asks → P _ _ (g.perform call)) :
    P _ _ (p.collectionExists g table) := hP.parallel.collectionExists (h := g) p table hasks

theorem configSetExists (hP : Compositional P) (p : Provisioner) (table : String)
    (hasks : ∀ {α} (call : Call α), call.Asks → P _ _ (g.perform call)) :
    P _ _ (p.configSetExists g table) := hP.parallel.configSetExists (h := g) p table hasks

theorem fetch (hP : Compositional P) (q table : String)
    (hasks : ∀ {α} (call : Call α), call.Asks → P _ _ (g.perform call)) :
    P _ _ (Schema.fetch g q table) := hP.parallel.fetch (h := g) q table hasks

theorem index (hP : Compositional P) {table : String} (docs : List Document)
    (hwrites : ∀ {α} (call : Call α), call.Writes table → P _ _ (g.perform call)) :
    P _ _ (Document.index g table docs) := hP.parallel.index (h := g) docs hwrites

theorem deleteIds (hP : Compositional P) {table : String} (ids : List String)
    (hwrites : ∀ {α} (call : Call α), call.Writes table → P _ _ (g.perform call)) :
    P _ _ (Document.deleteIds g table ids) := hP.parallel.deleteIds (h := g) ids hwrites

theorem deleteQuery (hP : Compositional P) {table : String} (query : String)
    (hwrites : ∀ {α} (call : Call α), call.Writes table → P _ _ (g.perform call)) :
    P _ _ (Document.deleteQuery g table query) := hP.parallel.deleteQuery (h := g) query hwrites

section Cached

variable {P' : (ε α : Type) → EStateM ε (Cached σ) α → Prop} {p : Provisioner} {naming : NamingPolicy}
  {table : String}

theorem delete (hP : Compositional P) (hP' : Compositional P')
    (hlift : ∀ {ε α x}, P ε α x → P' ε α (Cached.onRemote x))
    (hasks : ∀ {α} (call : Call α), call.Asks → P _ _ (g.perform call))
    (hdeletes : ∀ q, p.naming.qualify table = some q →
      ∀ {α} (call : Call α), call.Deletes q → P _ _ (g.perform call))
    (hforget : ∀ q, p.naming.qualify table = some q → ∀ {ε}, P' ε _ (Cached.forget q)) :
    P' _ _ (p.delete g table) :=
  hP.parallel.delete (h := g) hP'.parallel hlift hasks hdeletes hforget

theorem get (hP : Compositional P) (hP' : Compositional P')
    (hlift : ∀ {ε α x}, P ε α x → P' ε α (Cached.onRemote x))
    (hasks : ∀ {α} (call : Call α), call.Asks → P _ _ (g.perform call))
    (hlookup : ∀ q {ε}, P' ε _ (Cached.lookup q))
    (hput : ∀ q, naming.qualify table = some q → ∀ schema {ε}, P' ε _ (Cached.put q schema)) :
    P' _ _ (Schema.get naming g table) :=
  hP.parallel.get (h := g) hP'.parallel hlift hasks hlookup hput

theorem submit (hP : Compositional P) (hP' : Compositional P')
    (hlift : ∀ {ε α x}, P ε α x → P' ε α (Cached.onRemote x))
    (merge : Bool) (plan : SchemaUpdate.Plan)
    (hsubmits : P _ _ (g.perform (.submitSchemaUpdates table plan.updates)))
    (hput : ∀ q, naming.qualify table = some q → ∀ schema {ε}, P' ε _ (Cached.put q schema)) :
    P' _ _ (Schema.submit naming g table merge plan) :=
  hP.parallel.submit (h := g) hP'.parallel hlift merge plan hsubmits hput

theorem update (hP : Compositional P) (hP' : Compositional P')
    (hlift : ∀ {ε α x}, P ε α x → P' ε α (Cached.onRemote x))
    (hasks : ∀ {α} (call : Call α), call.Asks → P _ _ (g.perform call))
    (hrevises : ∀ {α} (call : Call α), call.Revises table → P _ _ (g.perform call))
    (hlookup : ∀ q {ε}, P' ε _ (Cached.lookup q))
    (hput : ∀ q, naming.qualify table = some q → ∀ schema {ε}, P' ε _ (Cached.put q schema))
    (desired : Schema) (merge : Bool) : P' _ _ (Schema.update naming g table desired merge) :=
  hP.parallel.update (h := g) hP'.parallel hlift hasks hrevises hlookup hput desired merge

end Cached

end Compositional

end TableIndex
