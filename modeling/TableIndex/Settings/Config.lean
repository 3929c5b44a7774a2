import TableIndex.Cache
import TableIndex.Http.Options
import TableIndex.Naming

/-!
# The configuration of a service

Where the cluster is, whose tables are served, and what new tables are made of. Whatever is not given has
a default, but for the address of the cluster.
-/

namespace TableIndex

/-- What a configuration says. -/
structure Config where
  solrServerUrl : String
  configSet : String := "_default"
  shards : Nat := 1
  replicas : Nat := 1
  tenantDomain : Option String := none
  requestTimeoutMs : Nat := 30000
  authToken : Option String := none
  schemaCache : CacheKind := .unbounded
deriving DecidableEq, Repr

namespace Config

/-- What is wrong with a configuration that can be read. -/
inductive Flaw where
  | blankServerUrl
  | blankConfigSet
  | noShards
  | noReplicas
  /-- No client can be made of it. -/
  | client (cause : ClientError)
deriving Repr, Inhabited

/-- The text that names a flaw. -/
def Flaw.reason : Flaw → String
  | blankServerUrl => "solr_server_url cannot be empty"
  | blankConfigSet => "config_set cannot be empty"
  | noShards => "shards must be greater than 0"
  | noReplicas => "replicas must be greater than 0"
  | client cause => cause.message

/-- The first flaw of a configuration on its own. -/
def flaw? (c : Config) : Option Flaw :=
  if Text.isBlank c.solrServerUrl then some .blankServerUrl
  else if Text.isBlank c.configSet then some .blankConfigSet
  else if c.shards = 0 then some .noShards
  else if c.replicas = 0 then some .noReplicas
  else none

/-- How the configured tenant's tables are named. -/
def naming (c : Config) : NamingPolicy := .ofDomain? c.tenantDomain

/-- What a client is to know. -/
def clientOptions (c : Config) : Except ClientError Http.Options := do
  let o := { ← Http.Options.ofEndpoint c.solrServerUrl with timeoutMs := c.requestTimeoutMs }
  match c.authToken with
  | some token => o.withToken token
  | none => return o

/-! ## As JSON -/

/-- A kind of cache as JSON. -/
def cacheJson : CacheKind → Json
  | .unbounded => .object [("unbounded", .object [])]
  | .nop => .string "nop"

/-- A text that may be missing as JSON. -/
def optionalJson : Option String → Json
  | some s => .string s
  | none => .null

/-- A configuration as JSON. -/
def toJson (c : Config) : Json :=
  .ofMembers [("solr_server_url", .string c.solrServerUrl), ("config_set", .string c.configSet),
    ("shards", .nat c.shards), ("replicas", .nat c.replicas),
    ("tenant_domain", optionalJson c.tenantDomain), ("request_timeout_ms", .nat c.requestTimeoutMs),
    ("auth_token", optionalJson c.authToken), ("schema_cache", cacheJson c.schemaCache)]

end Config

end TableIndex
