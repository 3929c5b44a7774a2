import TableIndex.Gateway.Call
import TableIndex.Http.Answer
import TableIndex.Http.Options
import TableIndex.Http.Web
import TableIndex.Url.Relative

/-!
# The client of a cluster

A client turns every call into one request: collections and config-sets are managed under `admin`, and
schema and documents of a table under the table's own name, which is written as a segment of the path.
-/

namespace TableIndex.Http

/-- A client: where its cluster is, and the number it is known by. -/
structure Client where
  options : Options
  number : Nat
deriving Repr, Inhabited

namespace Client

/-- What a client calls itself. -/
def userAgent : String := "recordindex v0.1.0"

/-- Where collections are managed. -/
def collectionsPath : List String := ["admin", "collections"]

/-- Where config-sets are managed. -/
def configSetsPath : List String := ["admin", "configs"]

/-- The URL of segments below the endpoint. -/
def url (c : Client) (names : List String) : Except ClientError Url :=
  match c.options.endpoint.below names with
  | some u => .ok u
  | none => .error (.invalidUrl (toString c.options.endpoint))

/-- Whether a table name is empty or a dot segment, blanks around it aside. -/
def isNoSegment (table : String) : Bool := ["", ".", ".."].contains (Text.trim table)

/-- The URL of segments below the name of a table. -/
def tableUrl (c : Client) (table : String) (names : List String) : Except ClientError Url :=
  if isNoSegment table then .error (.invalidUrl ("'" ++ table ++ "' is not a collection name"))
  else c.url (table :: names)

/-! ## Requests -/

/-- The request for a URL with names and values in its query. -/
def request (c : Client) (method : Method) (u : Url) (pairs : List (String × String))
    (body : Option String) : Request where
  method := method
  target := String.ofList (u.withQueryPairs (("wt", "json") :: pairs)).target
  authorization := c.options.authorization?
  userAgent := userAgent
  body := body

/-- Sends a request, unless the client was closed, and reads the answer. -/
def send (c : Client) (method : Method) (u : Url) (pairs : List (String × String))
    (body : Option String) : EStateM ClientError Web Json := do
  if ← Web.isClosed c.number then throw .closed
  let (status, text) ← Web.exchange (c.request method u pairs body)
  MonadExcept.ofExcept (readAnswer status text)

/-- Asks for something about a path. -/
def get (c : Client) (path : List String) (pairs : List (String × String)) :
    EStateM ClientError Web Json := do
  let u ← MonadExcept.ofExcept (c.url path)
  c.send .get u pairs none

/-- Asks for something about a table. -/
def getOfTable (c : Client) (table : String) (names : List String) :
    EStateM ClientError Web Json := do
  let u ← MonadExcept.ofExcept (c.tableUrl table names)
  let body ← c.send .get u [] none
  let _ ← MonadExcept.ofExcept (adminResponse body).toResult
  return body

/-- Changes something about a table. -/
def postToTable (c : Client) (table : String) (names : List String) (body : String) :
    EStateM ClientError Web AdminResponse := do
  let u ← MonadExcept.ofExcept (c.tableUrl table names)
  return adminResponse (← c.send .post u [] (some body))

/-! ## Calls -/

/-- The names under a key of what a path lists. -/
def listNames (c : Client) (path : List String) (key : String) :
    EStateM ClientError Web (List String) := do
  let body ← c.get path [("action", "LIST")]
  let _ ← MonadExcept.ofExcept (adminResponse body).toResult
  match (body.get? key).bind Json.asArray? with
  | some items => return items.filterMap Json.asString?
  | none => throw (.unexpectedResponse ("missing '" ++ key ++ "' in " ++ "/".intercalate path))

/-- The fields of a table's schema. -/
def listFields (c : Client) (table : String) : EStateM ClientError Web (List Json.Object) := do
  let body ← c.getOfTable table ["schema", "fields"]
  match (body.get? "fields").bind Json.asArray? with
  | some items =>
    items.mapM fun v => match v.asObject? with
      | some o => return o
      | none =>
        throw (.unexpectedResponse ("field of " ++ table ++ " is not an object: " ++ v.compact))
  | none => throw (.unexpectedResponse ("missing 'fields' for " ++ table))

/-- The unique key of a table's schema. -/
def uniqueKey (c : Client) (table : String) : EStateM ClientError Web String := do
  let body ← c.getOfTable table ["schema", "uniquekey"]
  match (body.get? "uniqueKey").bind Json.asString? with
  | some key => return key
  | none => throw (.unexpectedResponse ("missing 'uniqueKey' for " ++ table))

/-- The body that adds documents. -/
def documentsBody (docs : List Document) : String :=
  "[" ++ ",".intercalate (docs.map Document.toJsonText) ++ "]"

/-- The body that deletes documents by their identifiers. -/
def deleteIdsBody (ids : List String) : String :=
  (Json.object [("delete", .array (ids.map .string))]).compact

/-- The body that deletes the documents that a query selects. -/
def deleteQueryBody (query : String) : String :=
  (Json.object [("delete", .object [("query", .string query)])]).compact

/-- The body that makes staged changes visible. -/
def commitBody : String := (Json.object [("commit", .object [])]).compact

/-- Performs a call. -/
def perform (c : Client) : {α : Type} → Call α → EStateM ClientError Web α
  | _, .collectionExists name => return (← c.listNames collectionsPath "collections").contains name
  | _, .configExists name => return (← c.listNames configSetsPath "configSets").contains name
  | _, .createConfig base name =>
    return adminResponse (← c.get configSetsPath
      [("action", "CREATE"), ("name", name), ("baseConfigSet", base)])
  | _, .createCollection name configSet shards replicas =>
    return collectionResponse (← c.get collectionsPath
      [("action", "CREATE"), ("name", name), ("collection.configName", configSet),
        ("numShards", toString shards), ("replicationFactor", toString replicas),
        ("maxShardsPerNode", toString shards)])
  | _, .deleteCollection name =>
    return collectionResponse (← c.get collectionsPath [("action", "DELETE"), ("name", name)])
  | _, .deleteConfig name =>
    return adminResponse (← c.get configSetsPath [("action", "DELETE"), ("name", name)])
  | _, .listFields table => c.listFields table
  | _, .uniqueKey table => c.uniqueKey table
  | _, .submitSchemaUpdates table updates => c.postToTable table ["schema"] (SchemaUpdate.body updates)
  | _, .addDocuments table docs => c.postToTable table ["update"] (documentsBody docs)
  | _, .deleteByIds table ids => c.postToTable table ["update"] (deleteIdsBody ids)
  | _, .deleteByQuery table query => c.postToTable table ["update"] (deleteQueryBody query)
  | _, .commit table => c.postToTable table ["update"] commitBody

/-- The gateway of a client. -/
def gateway (c : Client) : Gateway Web where
  perform := c.perform
  close := Web.closeClient c.number

end Client

/-- Opens clients of one cluster. -/
def connector (options : Options) : Connector Web Nat where
  connect := Web.openClient
  gateway := fun number => (Client.mk options number).gateway

end TableIndex.Http
