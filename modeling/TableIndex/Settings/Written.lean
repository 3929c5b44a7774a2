import TableIndex.Json.Reader
import TableIndex.Json.Record
import TableIndex.Settings.Config

/-!
# Configurations in JSON

A configuration may also be written as a JSON record, and so may a kind of cache and a naming policy.
-/

namespace TableIndex

open Json (Form)

/-- The kind of cache that a form writes. -/
def CacheKind.ofForm? (f : Form) : Option CacheKind :=
  match f.choice? with
  | some ("nop", more) => if Form.isNothing more then some .nop else none
  | some ("unbounded", some more) => (more.fields? []).map fun _ => .unbounded
  | _ => none

/-- The kind of cache that a text writes. -/
def CacheKind.parse? (text : String) : Option CacheKind := (Form.read? text).bind ofForm?

/-- The policy that a text writes; its domain is taken as it stands. -/
def NamingPolicy.parse? (text : String) : Option NamingPolicy := do
  match ← (← Form.read? text).fields? ["tenant_domain"] with
  | [some f] => some ⟨← f.text?⟩
  | _ => none

/-- A policy as JSON. -/
def NamingPolicy.toJson (p : NamingPolicy) : Json := .object [("tenant_domain", .string p.tenantDomain)]

namespace Config

/-- The fields of a configuration in order. -/
def fieldNames : List String :=
  ["solr_server_url", "config_set", "shards", "replicas", "tenant_domain", "request_timeout_ms",
    "auth_token", "schema_cache"]

/-- A text that may be null. -/
def optionalText? : Form → Option (Option String)
  | .null => some none
  | f => f.text?.map some

/-- A field, or its default if it is not there. -/
def fieldOr {α : Type} (default : α) (decode : Form → Option α) : Option Form → Option α
  | none => some default
  | some f => decode f

/-- The configuration that a form writes. -/
def ofForm? (f : Form) : Option Config := do
  match ← f.fields? fieldNames with
  | [some url, configSet, shards, replicas, tenantDomain, timeout, authToken, schemaCache] =>
    let c : Config := { solrServerUrl := ← url.text? }
    some { c with
      configSet := ← fieldOr c.configSet Form.text? configSet
      shards := ← fieldOr c.shards (Form.natBelow? 0x100000000) shards
      replicas := ← fieldOr c.replicas (Form.natBelow? 0x100000000) replicas
      tenantDomain := ← fieldOr none optionalText? tenantDomain
      requestTimeoutMs := ← fieldOr c.requestTimeoutMs (Form.natBelow? 0x10000000000000000) timeout
      authToken := ← fieldOr none optionalText? authToken
      schemaCache := ← fieldOr c.schemaCache CacheKind.ofForm? schemaCache }
  | _ => none

/-- The configuration that a text writes. -/
def parse? (text : String) : Option Config := (Form.read? text).bind ofForm?

end Config

end TableIndex
