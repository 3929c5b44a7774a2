import TableIndex.Cache
import TableIndex.Collection.Config
import TableIndex.Gateway.Call
import TableIndex.Naming

/-!
# Creating and deleting the collection of a table

Every table has a config-set of its own, named like its collection, so that no two collections share a schema.
Creating makes the config-set first, deleting removes it last; a failure in between leaves half of the work
behind, and its error says so.
-/

namespace TableIndex

/-- What creating a collection did. -/
inductive CreateOutcome where
  | created
  /-- The collection was there; nothing was changed. -/
  | alreadyExisted
deriving DecidableEq, Repr, Inhabited

namespace CreateOutcome

/-- The name of the outcome. -/
def name : CreateOutcome → String
  | created => "Created"
  | alreadyExisted => "AlreadyExisted"

/-- Whether a collection was created. -/
def isCreated : CreateOutcome → Bool
  | created => true
  | alreadyExisted => false

end CreateOutcome

/-- What deleting a collection did. -/
inductive DeleteOutcome where
  /-- The collection and its config-set are gone. -/
  | deleted
  /-- The collection is gone; it had no config-set of its name. -/
  | deletedKeepingConfigSet
  /-- There was no collection. -/
  | notFound
deriving DecidableEq, Repr, Inhabited

namespace DeleteOutcome

/-- The name of the outcome. -/
def name : DeleteOutcome → String
  | deleted => "Deleted"
  | deletedKeepingConfigSet => "DeletedKeepingConfigSet"
  | notFound => "NotFound"

/-- Whether a collection was removed. -/
def isDeleted : DeleteOutcome → Bool
  | notFound => false
  | _ => true

/-- Whether both the collection and its config-set were removed. -/
def isComplete : DeleteOutcome → Bool
  | deleted => true
  | _ => false

end DeleteOutcome

/-- Why a collection cannot be created. -/
inductive CreateError where
  | connect (cause : ConnectError)
  | invalidName (table : String)
  | lookup (table : String) (cause : ClientError)
  | configSet (table name : String) (cause : ClientError)
  /-- `configSetCreated` says whether this attempt made the config-set. -/
  | collection (table name : String) (configSetCreated : Bool) (cause : ClientError)
deriving Repr, Inhabited

namespace CreateError

/-- The text of the error. -/
def message : CreateError → String
  | connect cause => cause.message
  | invalidName table => "Table name '" ++ table ++ "' cannot be mapped to a collection name"
  | lookup table cause => "Error while checking the index of table '" ++ table ++ "': " ++ cause.message
  | configSet table name cause =>
    "Error in deploying the index configuration '" ++ name ++ "' for table '" ++ table ++ "': "
      ++ cause.message
  | collection table name _ cause =>
    "Error in creating collection '" ++ name ++ "' for table '" ++ table ++ "': " ++ cause.message

/-- The error of the cluster's client behind it, if there is one. -/
def clientError? : CreateError → Option ClientError
  | connect cause => some cause.cause
  | invalidName _ => none
  | lookup _ cause => some cause
  | configSet _ _ cause => some cause
  | collection _ _ _ cause => some cause

/-- A config-set made by the failed attempt stays. -/
def effect : CreateError → RemoteEffect
  | collection _ _ true _ => .partially
  | _ => .none

/-- The code of what went wrong last. -/
def causeCode : CreateError → ErrorCode
  | connect cause => cause.code
  | invalidName _ => .invalidArgument
  | lookup _ cause => cause.code
  | configSet _ _ cause => cause.code
  | collection _ _ _ cause => cause.code

/-- The code of the error. -/
def code (e : CreateError) : ErrorCode := e.effect.code e.causeCode

end CreateError

/-- Why a collection cannot be deleted. -/
inductive DeleteError where
  | connect (cause : ConnectError)
  | lookup (table : String) (cause : ClientError)
  | collection (table name : String) (cause : ClientError)
  | configSet (table name : String) (cause : ClientError)
deriving Repr, Inhabited

namespace DeleteError

/-- The text of the error. -/
def message : DeleteError → String
  | connect cause => cause.message
  | lookup table cause => "Error while checking the index of table '" ++ table ++ "': " ++ cause.message
  | collection table name cause =>
    "Error in deleting collection '" ++ name ++ "' of table '" ++ table ++ "': " ++ cause.message
  | configSet table name cause =>
    "Collection of table '" ++ table ++ "' was deleted but its config-set '" ++ name ++ "' was not: "
      ++ cause.message

/-- The error of the cluster's client behind it. -/
def clientError : DeleteError → ClientError
  | connect cause => cause.cause
  | lookup _ cause => cause
  | collection _ _ cause => cause
  | configSet _ _ cause => cause

/-- A failure about the config-set comes after the collection is gone. -/
def effect : DeleteError → RemoteEffect
  | configSet _ _ _ => .partially
  | _ => .none

/-- The code of what went wrong last. -/
def causeCode : DeleteError → ErrorCode
  | connect cause => cause.code
  | lookup _ cause => cause.code
  | collection _ _ cause => cause.code
  | configSet _ _ cause => cause.code

/-- The code of the error. -/
def code (e : DeleteError) : ErrorCode := e.effect.code e.causeCode

end DeleteError

/-- Whoever creates and deletes collections: how names are made, and the config-set that a table's own
is copied from unless its configuration asks for another. -/
structure Provisioner where
  naming : NamingPolicy
  baseConfigSet : String
deriving Repr

namespace Provisioner

variable {σ : Type}

/-- Creates the collection of a table, and before it the config-set if that is missing. -/
def create (p : Provisioner) (g : Gateway σ) (config : CollectionConfig) :
    EStateM CreateError σ CreateOutcome := do
  let table := config.collectionName
  match p.naming.qualify table with
  | none => throw (.invalidName table)
  | some name =>
    if ← (g.perform (.collectionExists name)).adaptExcept (CreateError.lookup table) then
      return .alreadyExisted
    let there ← (g.perform (.configExists name)).adaptExcept (CreateError.lookup table)
    if !there then
      let base := config.requestedConfigSet.getD p.baseConfigSet
      (g.change (.createConfig base name)).adaptExcept (CreateError.configSet table name)
    (g.changeCollection (.createCollection name name config.shards config.replicas)).adaptExcept
      (CreateError.collection table name (!there))
    return .created

/-- Deletes the collection of a table if it is there, and then forgets its schema and deletes its config-set. -/
def delete (p : Provisioner) (g : Gateway σ) (table : String) :
    EStateM DeleteError (Cached σ) DeleteOutcome := do
  match p.naming.qualify table with
  | none => return .notFound
  | some name =>
    if !(← Cached.onRemoteOr (DeleteError.lookup table) (g.perform (.collectionExists name))) then
      return .notFound
    Cached.onRemoteOr (DeleteError.collection table name)
      (g.changeCollection (.deleteCollection name))
    Cached.forget name
    if !(← Cached.onRemoteOr (DeleteError.configSet table name) (g.perform (.configExists name))) then
      return .deletedKeepingConfigSet
    Cached.onRemoteOr (DeleteError.configSet table name) (g.change (.deleteConfig name))
    return .deleted

/-- Whether the collection of a table exists; one with a blank name does not. -/
def collectionExists (p : Provisioner) (g : Gateway σ) (table : String) :
    EStateM ClientError σ Bool :=
  match p.naming.qualify table with
  | some name => g.perform (.collectionExists name)
  | none => return false

/-- Whether the config-set of a table exists; one with a blank name does not. -/
def configSetExists (p : Provisioner) (g : Gateway σ) (table : String) :
    EStateM ClientError σ Bool :=
  match p.naming.qualify table with
  | some name => g.perform (.configExists name)
  | none => return false

end Provisioner

end TableIndex
