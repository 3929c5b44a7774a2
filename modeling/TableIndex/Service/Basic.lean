import TableIndex.Collection.Provision
import TableIndex.Document.Write
import TableIndex.Schema.Reconcile

/-!
# The indexing service

What a program holds on to: one service per cluster. A service connects when an operation first needs the
cluster, keeps the handle for all later operations, and closes it when it is destroyed; the operation
after that connects again. It also keeps the schemas it has seen.
-/

namespace TableIndex

/-- Why the index of a table cannot be made as it should be. -/
inductive EnsureError where
  | create (cause : CreateError)
  /-- The collection is there, but its schema could not be brought up to date. -/
  | schema (cause : UpdateSchemaError)
deriving Repr, Inhabited

namespace EnsureError

/-- The text of the error. -/
def message : EnsureError → String
  | create cause => cause.message
  | schema cause => cause.message

/-- The error of the cluster's client behind it, if there is one. -/
def clientError? : EnsureError → Option ClientError
  | create cause => cause.clientError?
  | schema cause => cause.clientError?

/-- The code of the error. -/
def code : EnsureError → ErrorCode
  | create cause => cause.code
  | schema cause => cause.code

/-- Once the collection is there, any failure counts as a partial effect. -/
def effect : EnsureError → RemoteEffect
  | create cause => cause.effect
  | schema _ => .partially

end EnsureError

/-- A service: whose tables it serves, where their config-sets are copied from, and how it connects. -/
structure Service (σ η : Type) where
  naming : NamingPolicy
  baseConfigSet : String
  connector : Connector σ η

/-- What changes while a service runs. -/
structure ServiceState (σ η : Type) where
  /-- The open handle, if there is one. -/
  handle : Option η := none
  cache : SchemaCache := .ofKind .unbounded
  remote : σ

namespace Service

variable {σ η ε α : Type}

/-- Acts on the cache and the cluster. -/
def onCached (act : EStateM ε (Cached σ) α) : EStateM ε (ServiceState σ η) α := fun s =>
  match act ⟨s.cache, s.remote⟩ with
  | .ok a c => .ok a { s with cache := c.cache, remote := c.remote }
  | .error e c => .error e { s with cache := c.cache, remote := c.remote }

/-- Acts on the cluster. -/
def onRemote (act : EStateM ε σ α) : EStateM ε (ServiceState σ η) α :=
  onCached (Cached.onRemote act)

/-- The open handle; connects if there is none. A failed attempt leaves none. -/
def client (s : Service σ η) : EStateM ConnectError (ServiceState σ η) η := fun st =>
  match st.handle with
  | some h => .ok h st
  | none =>
    match s.connector.connect st.remote with
    | .ok h r => .ok h { st with handle := some h, remote := r }
    | .error e r => .error ⟨e⟩ { st with remote := r }

/-- Closes the open handle, if there is one. Cached schemas are kept. -/
def destroy (s : Service σ η) : EStateM ClientError (ServiceState σ η) Unit := fun st =>
  match st.handle with
  | some h => onRemote (s.connector.gateway h).close { st with handle := none }
  | none => .ok () st

/-- Who creates and deletes the service's collections. -/
def provisioner (s : Service σ η) : Provisioner := ⟨s.naming, s.baseConfigSet⟩

/-! ## Collections -/

/-- Creates the collection of a table. -/
def create (s : Service σ η) (config : CollectionConfig) :
    EStateM CreateError (ServiceState σ η) CreateOutcome := do
  let h ← s.client.adaptExcept .connect
  onRemote (s.provisioner.create (s.connector.gateway h) config)

/-- Deletes the collection of a table. -/
def delete (s : Service σ η) (table : String) :
    EStateM DeleteError (ServiceState σ η) DeleteOutcome := do
  let h ← s.client.adaptExcept .connect
  onCached (s.provisioner.delete (s.connector.gateway h) table)

/-- Whether the collection of a table exists. -/
def collectionExists (s : Service σ η) (table : String) :
    EStateM ClientError (ServiceState σ η) Bool := do
  let h ← s.client.adaptExcept ConnectError.cause
  onRemote (s.provisioner.collectionExists (s.connector.gateway h) table)

/-- Whether the config-set of a table exists. -/
def configSetExists (s : Service σ η) (table : String) :
    EStateM ClientError (ServiceState σ η) Bool := do
  let h ← s.client.adaptExcept ConnectError.cause
  onRemote (s.provisioner.configSetExists (s.connector.gateway h) table)

/-! ## Schemas -/

/-- The schema of a table. -/
def getSchema (s : Service σ η) (table : String) :
    EStateM GetSchemaError (ServiceState σ η) Schema := do
  let h ← s.client.adaptExcept .connect
  onCached (Schema.get s.naming (s.connector.gateway h) table)

/-- Changes the schema of a table. -/
def updateSchema (s : Service σ η) (table : String) (desired : Schema) (merge : Bool) :
    EStateM UpdateSchemaError (ServiceState σ η) Unit := do
  let h ← s.client.adaptExcept .connect
  onCached (Schema.update s.naming (s.connector.gateway h) table desired merge)

/-- Forgets the cached schema of a table. -/
def invalidate (s : Service σ η) (table : String) : EStateM ε (ServiceState σ η) Unit :=
  match s.naming.qualify table with
  | some collection => onCached (Cached.forget collection)
  | none => return ()

/-- Creates the collection of a table if it is missing, and merges the declared schema into it. -/
def ensure (s : Service σ η) (config : CollectionConfig) :
    EStateM EnsureError (ServiceState σ η) CreateOutcome := do
  let outcome ← (s.create config).adaptExcept EnsureError.create
  if let some schema := config.schema then
    (s.updateSchema config.collectionName schema true).adaptExcept EnsureError.schema
  return outcome

/-! ## Documents -/

/-- Adds documents to a table; adding none does not even connect. -/
def index (s : Service σ η) (table : String) (docs : List Document) :
    EStateM DocumentError (ServiceState σ η) Unit :=
  if docs.isEmpty then return ()
  else do
    let h ← s.client.adaptExcept .connect
    onRemote (Document.index (s.connector.gateway h) table docs)

/-- Removes documents of a table; removing none does not even connect. -/
def deleteIds (s : Service σ η) (table : String) (ids : List String) :
    EStateM DocumentError (ServiceState σ η) Unit :=
  if ids.isEmpty then return ()
  else do
    let h ← s.client.adaptExcept .connect
    onRemote (Document.deleteIds (s.connector.gateway h) table ids)

/-- Removes the documents that a query selects; a blank query does not even connect. -/
def deleteQuery (s : Service σ η) (table query : String) :
    EStateM DocumentError (ServiceState σ η) Unit :=
  if Text.isBlank query then return ()
  else do
    let h ← s.client.adaptExcept .connect
    onRemote (Document.deleteQuery (s.connector.gateway h) table query)

end Service

end TableIndex
