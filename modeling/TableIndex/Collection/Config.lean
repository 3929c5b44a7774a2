import TableIndex.Schema.Basic

/-!
# What a collection is to be like

`CollectionConfig.build` checks a request for a collection; the checks are made in the order of the
constructors of `CollectionConfigError`.
-/

namespace TableIndex

/-- Why a request for a collection is refused. -/
inductive CollectionConfigError where
  | emptyCollectionName
  | emptyServerUrl
  | invalidShards
  | invalidReplicas
deriving DecidableEq, Repr, Inhabited

namespace CollectionConfigError

/-- The text of the error. -/
def message : CollectionConfigError → String
  | emptyCollectionName => "Collection name cannot be empty"
  | emptyServerUrl => "Cluster address cannot be empty when it is given"
  | invalidShards => "Number of shards must be at least 1"
  | invalidReplicas => "Number of replicas must be at least 1"

/-- Every such error is one of the caller's. -/
def code (_ : CollectionConfigError) : ErrorCode := .invalidArgument

end CollectionConfigError

/-- A request for the collection of a table, not yet checked. -/
structure CollectionRequest where
  collectionName : String
  solrServerUrl : Option String := none
  shards : Nat := 1
  replicas : Nat := 1
  configSet : Option String := none
  schema : Option Schema := none

/-- A request that passed the checks. -/
structure CollectionConfig where
  collectionName : String
  solrServerUrl : Option String
  shards : Nat
  replicas : Nat
  /-- The config-set asked for; never blank. -/
  requestedConfigSet : Option String
  schema : Option Schema

namespace CollectionConfig

/-- Checks a request; a blank config-set counts as none. -/
def build (r : CollectionRequest) : Except CollectionConfigError CollectionConfig :=
  if Text.isBlank r.collectionName then .error .emptyCollectionName
  else if r.solrServerUrl.any Text.isBlank then .error .emptyServerUrl
  else if r.shards = 0 then .error .invalidShards
  else if r.replicas = 0 then .error .invalidReplicas
  else .ok {
    collectionName := r.collectionName
    solrServerUrl := r.solrServerUrl
    shards := r.shards
    replicas := r.replicas
    requestedConfigSet := r.configSet.filter fun name => !Text.isBlank name
    schema := r.schema }

/-- The config-set, which is named like the collection if none was asked for. -/
def configSet (c : CollectionConfig) : String := c.requestedConfigSet.getD c.collectionName

end CollectionConfig

end TableIndex
