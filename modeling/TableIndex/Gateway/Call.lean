import TableIndex.Document.Basic
import TableIndex.Gateway.Response
import TableIndex.Schema.Update

/-!
# Calls to a cluster

Everything that is ever asked of a cluster is a `Call`, indexed by the type of its result. A `Gateway`
performs calls; it may be a cluster in memory or a client of a remote one, and nothing is assumed of its
answers. State that a gateway acts on is passed along, so that a failed call may have changed it too.
-/

namespace TableIndex

/-- The kinds of calls. -/
inductive Operation where
  | collectionExists
  | configExists
  | createConfig
  | createCollection
  | deleteCollection
  | deleteConfig
  | listFields
  | uniqueKey
  | submitSchemaUpdates
  | addDocuments
  | deleteByIds
  | deleteByQuery
  | commit
deriving DecidableEq, Repr, Inhabited

namespace Operation

/-- All kinds of calls. -/
def all : List Operation :=
  [collectionExists, configExists, createConfig, createCollection, deleteCollection, deleteConfig,
    listFields, uniqueKey, submitSchemaUpdates, addDocuments, deleteByIds, deleteByQuery, commit]

/-- The name of a kind of call. -/
def name : Operation → String
  | collectionExists => "CollectionExists"
  | configExists => "ConfigExists"
  | createConfig => "CreateConfig"
  | createCollection => "CreateCollection"
  | deleteCollection => "DeleteCollection"
  | deleteConfig => "DeleteConfig"
  | listFields => "ListFields"
  | uniqueKey => "UniqueKey"
  | submitSchemaUpdates => "SubmitSchemaUpdates"
  | addDocuments => "AddDocuments"
  | deleteByIds => "DeleteByIds"
  | deleteByQuery => "DeleteByQuery"
  | commit => "Commit"

/-- The kind of call with a name. -/
def ofName? (name : String) : Option Operation := all.find? (·.name == name)

end Operation

/-- A call and the type of its result. Collections and config-sets are named physically; calls about
schemas and documents name the table and leave the rest to the cluster. -/
inductive Call : Type → Type where
  | collectionExists (name : String) : Call Bool
  | configExists (name : String) : Call Bool
  | createConfig (base name : String) : Call AdminResponse
  | createCollection (name configSet : String) (shards replicas : Nat) : Call CollectionResponse
  | deleteCollection (name : String) : Call CollectionResponse
  | deleteConfig (name : String) : Call AdminResponse
  | listFields (table : String) : Call (List Json.Object)
  | uniqueKey (table : String) : Call String
  | submitSchemaUpdates (table : String) (updates : List SchemaUpdate) : Call AdminResponse
  | addDocuments (table : String) (documents : List Document) : Call AdminResponse
  | deleteByIds (table : String) (ids : List String) : Call AdminResponse
  | deleteByQuery (table : String) (query : String) : Call AdminResponse
  | commit (table : String) : Call AdminResponse

/-- The kind of a call. -/
def Call.operation : {α : Type} → Call α → Operation
  | _, collectionExists _ => .collectionExists
  | _, configExists _ => .configExists
  | _, createConfig _ _ => .createConfig
  | _, createCollection _ _ _ _ => .createCollection
  | _, deleteCollection _ => .deleteCollection
  | _, deleteConfig _ => .deleteConfig
  | _, listFields _ => .listFields
  | _, uniqueKey _ => .uniqueKey
  | _, submitSchemaUpdates _ _ => .submitSchemaUpdates
  | _, addDocuments _ _ => .addDocuments
  | _, deleteByIds _ _ => .deleteByIds
  | _, deleteByQuery _ _ => .deleteByQuery
  | _, commit _ => .commit

/-- Something that performs calls on a state of type `σ`. -/
structure Gateway (σ : Type) where
  /-- Performs a call. -/
  perform : {α : Type} → Call α → EStateM ClientError σ α
  /-- Gives the connection up; later calls fail. -/
  close : EStateM ClientError σ Unit

namespace Gateway

variable {σ : Type}

/-- Performs a change; a response without success is the error it stands for. -/
def change (g : Gateway σ) (call : Call AdminResponse) : EStateM ClientError σ Unit := do
  let r ← g.perform call
  if r.isSuccess then return () else throw r.toError

/-- Performs a change of a collection; a response without success is the error it stands for. -/
def changeCollection (g : Gateway σ) (call : Call CollectionResponse) :
    EStateM ClientError σ Unit := do
  let r ← g.perform call
  if r.isSuccess then return () else throw r.toError

end Gateway

/-- Something that opens gateways, each known by a handle of type `η`. -/
structure Connector (σ η : Type) where
  /-- Opens a gateway. -/
  connect : EStateM ClientError σ η
  /-- The gateway behind a handle. -/
  gateway : η → Gateway σ

end TableIndex
