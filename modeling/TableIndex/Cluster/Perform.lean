import TableIndex.Cluster.Basic

/-!
# Calls to a cluster in memory

`Cluster.perform` serves a call. A call on a closed cluster and a call of a kind that is made to fail
change nothing but the count of calls. A call that is refused gets a response that says why.
-/

namespace TableIndex

/-- A response of status 400 or the like, with one message. -/
def AdminResponse.rejected (status : Int) (message : String) : AdminResponse where
  status := status
  errors := some (.array [.object [("errorMessages", .array [.string message])]])

/-- A refusal to change a collection. -/
def CollectionResponse.rejected (message : String) : CollectionResponse where
  status := 400
  success := false
  errors := some (.object [("msg", .string message)])

namespace Cluster

/-! ## Schema commands -/

/-- Applies one command to a schema, or says why it cannot be. -/
def applyUpdate (s : Schema) : SchemaUpdate → Except String Schema
  | .addField f =>
    if s.contains f.name then .error ("Field '" ++ f.name ++ "' already exists.") else .ok (s.add f)
  | .replaceField f =>
    if s.contains f.name then .ok (s.add f)
    else .error ("The field '" ++ f.name
      ++ "' is not present in this schema, and so cannot be replaced.")
  | .deleteField name =>
    if !s.contains name then
      .error ("The field '" ++ name ++ "' is not present in this schema, and so cannot be deleted.")
    else if name = s.uniqueKey then
      .error ("Can't delete '" ++ name ++ "' because it's the uniqueKey field.")
    else .ok (s.remove name)

/-- Applies commands one after the other; the first that cannot be applied refuses them all. -/
def applyUpdates (s : Schema) (updates : List SchemaUpdate) : Except String Schema :=
  updates.foldlM applyUpdate s

/-! ## Queries -/

/-- What a query selects. -/
inductive Query where
  | all
  | term (field value : String)
deriving DecidableEq, Repr

/-- The query in a text without outer blanks: `*:*`, or a field and a value around the first colon. -/
def Query.parse? (text : String) : Option Query :=
  if text = "*:*" then some .all
  else (Text.splitFirst ':' text.toList).map fun (f, v) => .term (String.ofList f) (String.ofList v)

/-- Whether a query selects a document: a field that is a string must be the value, and any other must
have it as its JSON text. -/
def Query.selects : Query → Document → Bool
  | .all, _ => true
  | .term field value, d =>
    match d.field? field with
    | some (.string s) => s == value
    | some v => v.compact == value
    | none => false

/-! ## Serving calls -/

/-- The error for a table without collection. -/
def noCollection (table : String) : ClientError :=
  .api 404 (.object [("msg", .string ("Can not find collection: " ++ table))])

/-- The error of a call that is made to fail. -/
def injected (op : Operation) (status : Int) : ClientError :=
  .api status (.object [("msg", .string ("injected failure for " ++ op.name))])

/-- Stages identifiers for deletion. -/
def stageDeletes (c : Cluster) (collection : String) (ids : List String) : Cluster :=
  let staged := (c.pendingDeletes.get? collection).getD .empty
  let staged := ids.foldl (fun m id => m.insert id ()) staged
  { c with pendingDeletes := c.pendingDeletes.insert collection staged }

/-- Stages documents that have identifiers. -/
def stageAdds (c : Cluster) (collection : String) (docs : List (String × Document)) : Cluster :=
  let staged := (c.pending.get? collection).getD .empty
  { c with pending := c.pending.insert collection (docs.foldl (fun m e => m.insert e.1 e.2) staged) }

/-- Makes what is staged visible: deletions first, then additions. -/
def commitStaged (c : Cluster) (collection : String) : Cluster :=
  let deletes := ((c.pendingDeletes.get? collection).getD .empty).keys
  let adds := ((c.pending.get? collection).getD .empty).entries
  let kept := deletes.foldl (fun m id => m.erase id) (c.committedOf collection)
  { c with
    pendingDeletes := c.pendingDeletes.erase collection
    pending := c.pending.erase collection
    committed := c.committed.insert collection (adds.foldl (fun m e => m.insert e.1 e.2) kept) }

/-- The documents with their identifiers, if all have one. -/
def identified? (docs : List Document) : Option (List (String × Document)) :=
  docs.mapM fun d => d.id?.map fun id => (id, d)

/-- Creates a config-set as a copy of another. -/
def createConfig (c : Cluster) (base name : String) : AdminResponse × Cluster :=
  if c.configSets.contains name then (.rejected 400 ("ConfigSet already exists: " ++ name), c)
  else match c.configSets.get? base with
    | none => (.rejected 400 ("Base ConfigSet does not exist: " ++ base), c)
    | some schema => ({}, { c with configSets := c.configSets.insert name schema })

/-- Creates a collection on a config-set. -/
def createCollection (c : Cluster) (name configSet : String) (shards replicas : Nat) :
    CollectionResponse × Cluster :=
  if c.collections.contains name then (.rejected ("collection already exists: " ++ name), c)
  else if !c.configSets.contains configSet then
    (.rejected ("Can not find the specified config set: " ++ configSet), c)
  else if shards = 0 ∨ replicas = 0 then
    (.rejected "numShards and replicationFactor must be positive", c)
  else ({}, { c with collections := c.collections.insert name configSet })

/-- Deletes a collection with all its documents. -/
def deleteCollection (c : Cluster) (name : String) : CollectionResponse × Cluster :=
  if c.collections.contains name then
    ({}, { c with
      collections := c.collections.erase name
      pending := c.pending.erase name
      pendingDeletes := c.pendingDeletes.erase name
      committed := c.committed.erase name })
  else (.rejected ("Could not find collection : " ++ name), c)

/-- Deletes a config-set that no collection uses. -/
def deleteConfig (c : Cluster) (name : String) : AdminResponse × Cluster :=
  if c.collections.values.contains name then
    (.rejected 400
      ("Can not delete ConfigSet as it is currently being used by a collection: " ++ name), c)
  else if c.configSets.contains name then ({}, { c with configSets := c.configSets.erase name })
  else (.rejected 400 ("ConfigSet does not exist to delete: " ++ name), c)

/-- Applies commands to the schema of a collection, all or none. -/
def submitUpdates (c : Cluster) (collection : String) (updates : List SchemaUpdate) :
    AdminResponse × Cluster :=
  match c.collections.get? collection with
  | none => (.rejected 404 ("No config-set for " ++ collection), c)
  | some configSet =>
    match applyUpdates ((c.configSets.get? configSet).getD .default) updates with
    | .error message => (.rejected 400 message, c)
    | .ok schema => ({}, { c with configSets := c.configSets.insert configSet schema })

/-- Stages documents, all or none. -/
def addDocuments (c : Cluster) (collection : String) (docs : List Document) :
    AdminResponse × Cluster :=
  match identified? docs with
  | none => (.rejected 400 "Document is missing mandatory uniqueKey field: id", c)
  | some docs => ({}, c.stageAdds collection docs)

/-- Stages the visible documents that a query selects for deletion. -/
def deleteByQuery (c : Cluster) (collection query : String) : AdminResponse × Cluster :=
  let text := Text.trim query
  match Query.parse? text with
  | none => (.rejected 400 ("Cannot parse '" ++ text ++ "'"), c)
  | some q =>
    ({}, c.stageDeletes collection
      (((c.committedOf collection).entries.filter fun e => q.selects e.2).map Prod.fst))

/-- Serves a call about a table's collection, if there is one. -/
def onCollection {α : Type} (c : Cluster) (table : String) (serve : String → α × Cluster) :
    EStateM.Result ClientError Cluster α :=
  match c.resolve? table with
  | some collection => let (r, c) := serve collection; .ok r c
  | none => .error (noCollection table) c

/-- Serves a call that is neither stopped by a closed connection nor made to fail. -/
def serve : {α : Type} → Call α → EStateM ClientError Cluster α
  | _, .collectionExists name, c => .ok (c.collections.contains name) c
  | _, .configExists name, c => .ok (c.configSets.contains name) c
  | _, .createConfig base name, c => let (r, c) := c.createConfig base name; .ok r c
  | _, .createCollection name configSet shards replicas, c =>
    let (r, c) := c.createCollection name configSet shards replicas; .ok r c
  | _, .deleteCollection name, c => let (r, c) := c.deleteCollection name; .ok r c
  | _, .deleteConfig name, c => let (r, c) := c.deleteConfig name; .ok r c
  | _, .listFields table, c =>
    c.onCollection table fun collection =>
      (((c.schemaOfCollection? collection).getD .default).toList.map Field.toProperties, c)
  | _, .uniqueKey table, c =>
    c.onCollection table fun collection =>
      (((c.schemaOfCollection? collection).getD .default).uniqueKey, c)
  | _, .submitSchemaUpdates table updates, c =>
    c.onCollection table fun collection => c.submitUpdates collection updates
  | _, .addDocuments table docs, c =>
    c.onCollection table fun collection => c.addDocuments collection docs
  | _, .deleteByIds table ids, c =>
    c.onCollection table fun collection => ({}, c.stageDeletes collection ids)
  | _, .deleteByQuery table query, c =>
    c.onCollection table fun collection => c.deleteByQuery collection query
  | _, .commit table, c => c.onCollection table fun collection => ({}, c.commitStaged collection)

/-- Performs a call: counts it, and serves it unless the connection is closed or it is made to fail. -/
def perform {α : Type} (call : Call α) : EStateM ClientError Cluster α := fun c =>
  let c := { c with calls := c.calls + 1 }
  if c.closed then .error .closed c
  else match c.failure? call.operation with
    | some status => .error (injected call.operation status) c
    | none => serve call c

/-- The gateway to a cluster in memory. -/
def gateway : Gateway Cluster where
  perform := perform
  close := fun c => .ok () { c with closed := true }

/-- Connects to a cluster in memory. All connections share the cluster, and a new one reopens it. -/
def connector : Connector Cluster Unit where
  connect := fun c => .ok () c.reopen
  gateway := fun _ => gateway

end Cluster

end TableIndex
