import TableIndex.Cache
import TableIndex.Gateway.Call
import TableIndex.Naming

/-!
# Reading and changing the schema of a table

A schema is read through the cache. A change is planned from the schema so read; the cache is written
only after the cluster has accepted all of the plan. Config-sets and cache entries go by physical names,
calls about the schema by the name of the table.
-/

namespace TableIndex

/-- Why the schema of a table cannot be read. -/
inductive GetSchemaError where
  | connect (cause : ConnectError)
  | schemaNotFound (table : String)
  | remote (table : String) (cause : ClientError)
  | malformed (table : String) (cause : FieldError)
deriving Repr, Inhabited

namespace GetSchemaError

/-- The text of the error. -/
def message : GetSchemaError → String
  | connect cause => cause.message
  | schemaNotFound table => "No schema found for table '" ++ table ++ "'"
  | remote table cause => "Error in fetching the schema of table '" ++ table ++ "': " ++ cause.message
  | malformed table cause => "Schema of table '" ++ table ++ "' could not be read: " ++ cause.message

/-- The error of the cluster's client behind it, if there is one. -/
def clientError? : GetSchemaError → Option ClientError
  | connect cause => some cause.cause
  | remote _ cause => some cause
  | _ => none

/-- The code of the error. -/
def code : GetSchemaError → ErrorCode
  | connect cause => cause.code
  | schemaNotFound _ => .notFound
  | remote _ cause => cause.code
  | malformed _ _ => .internal

end GetSchemaError

/-- Why the schema of a table cannot be changed. -/
inductive UpdateSchemaError where
  | connect (cause : ConnectError)
  | schemaNotFound (table : String)
  | getSchema (cause : GetSchemaError)
  | rejected (table : String) (cause : ClientError)
deriving Repr, Inhabited

namespace UpdateSchemaError

/-- The text of the error. -/
def message : UpdateSchemaError → String
  | connect cause => cause.message
  | schemaNotFound table => "No schema found for table '" ++ table ++ "'"
  | getSchema cause => cause.message
  | rejected table cause => "Schema update of table '" ++ table ++ "' was rejected: " ++ cause.message

/-- The error of the cluster's client behind it, if there is one. -/
def clientError? : UpdateSchemaError → Option ClientError
  | connect cause => some cause.cause
  | schemaNotFound _ => none
  | getSchema cause => cause.clientError?
  | rejected _ cause => some cause

/-- The code of the error. -/
def code : UpdateSchemaError → ErrorCode
  | connect cause => cause.code
  | schemaNotFound _ => .notFound
  | getSchema cause => cause.code
  | rejected _ cause => cause.code

/-- A schema that cannot be read cannot be changed. -/
def ofGetSchema : GetSchemaError → UpdateSchemaError
  | .connect cause => .connect cause
  | .schemaNotFound table => .schemaNotFound table
  | e => .getSchema e

end UpdateSchemaError

namespace Schema

variable {σ : Type}

/-- Fetches the schema that the cluster serves for a table. -/
def fetch (g : Gateway σ) (collection table : String) : EStateM GetSchemaError σ Schema := do
  if !(← (g.perform (.configExists collection)).adaptExcept (.remote table)) then
    throw (.schemaNotFound table)
  let fields ← (g.perform (.listFields table)).adaptExcept (.remote table)
  let uniqueKey ← (g.perform (.uniqueKey table)).adaptExcept (.remote table)
  match ofProperties uniqueKey fields with
  | .ok schema => return schema
  | .error cause => throw (.malformed table cause)

/-- The schema of a table: the cached one, or else the one fetched, which is then cached. -/
def get (naming : NamingPolicy) (g : Gateway σ) (table : String) :
    EStateM GetSchemaError (Cached σ) Schema :=
  match naming.qualify table with
  | none => throw (.schemaNotFound table)
  | some collection => do
    match ← Cached.lookup collection with
    | some schema => return schema
    | none =>
      let schema ← Cached.onRemote (fetch g collection table)
      Cached.put collection schema
      return schema

/-- Caches the schema of a table, unless its name is blank. -/
def cacheUpdated {ε : Type} (naming : NamingPolicy) (table : String) (schema : Schema) :
    EStateM ε (Cached σ) Unit :=
  match naming.qualify table with
  | some collection => Cached.put collection schema
  | none => return ()

/-- Replaces the schema of a table by `desired`, or merges `desired` into it. A plan without commands is not
submitted; a merge of nothing leaves the cache alone, too. -/
def update (naming : NamingPolicy) (g : Gateway σ) (table : String) (desired : Schema)
    (merge : Bool) : EStateM UpdateSchemaError (Cached σ) Unit := do
  let current ← (get naming g table).adaptExcept UpdateSchemaError.ofGetSchema
  let plan := SchemaUpdate.plan current desired merge
  if plan.updates.isEmpty then
    if !merge then cacheUpdated naming table plan.schema
  else
    Cached.onRemoteOr (UpdateSchemaError.rejected table)
      (g.change (.submitSchemaUpdates table plan.updates))
    cacheUpdated naming table plan.schema

end Schema

end TableIndex
