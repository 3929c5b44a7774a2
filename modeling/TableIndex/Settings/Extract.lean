import TableIndex.Settings.Config
import TableIndex.Settings.Value

/-!
# A configuration from settings

The settings are looked at in the order of their keys, and the first one that is not as it should be is
reported; that the address of the cluster is missing comes last.
-/

namespace TableIndex.Settings

/-- What may be wrong with a setting. -/
inductive Problem where
  | missingField (name : String)
  | invalidType
  | invalidValue
  | unknownVariant
  /-- The file is no mapping at all. -/
  | unreadable
deriving DecidableEq, Repr, Inhabited

/-- What is wrong, and with which setting. -/
structure ExtractError where
  problem : Problem
  path : List String := []
deriving DecidableEq, Repr, Inhabited

/-- What a kind of setting makes of a value. -/
abbrev Decoder (α : Type) := Value → Except ExtractError α

namespace Decoder

/-- A text, also one of a single character. -/
def text : Decoder String
  | .text s => .ok s
  | .char c => .ok (String.ofList [c])
  | _ => .error ⟨.invalidType, []⟩

/-- A text that may be nothing. -/
def optionalText : Decoder (Option String)
  | .null => .ok none
  | v => some <$> text v

/-- A natural number below a bound. A whole number of 64 bits that is none is a wrong value, a longer one
is a wrong type. -/
def natBelow (bound : Nat) : Decoder Nat
  | .whole n =>
    if n < -0x8000000000000000 || 0x10000000000000000 ≤ n then .error ⟨.invalidType, []⟩
    else if 0 ≤ n && n < bound then .ok n.toNat
    else .error ⟨.invalidValue, []⟩
  | _ => .error ⟨.invalidType, []⟩

/-- What belongs to a kind of cache under its name. -/
def cacheMember (name : String) (v : Value) : Except ExtractError CacheKind :=
  match name, v with
  | "nop", .null => .ok .nop
  | "nop", _ => .error ⟨.invalidType, ["nop"]⟩
  | "unbounded", .dict _ => .ok .unbounded
  | "unbounded", .list _ => .ok .unbounded
  | "unbounded", _ => .error ⟨.invalidType, ["unbounded"]⟩
  | _, _ => .error ⟨.unknownVariant, [name]⟩

/-- A kind of cache by its number. Like its name, the number is not enough for an unbounded one. -/
def numberedCache (n : Int) : Except ExtractError CacheKind :=
  if n = 1 then .ok .nop
  else if 1 < n && n < 0x100000000 then .error ⟨.invalidValue, []⟩
  else .error ⟨.invalidType, []⟩

/-- A kind of cache: the name or number of one that needs nothing else, or a dictionary, of which the first
member counts. -/
def cacheKind : Decoder CacheKind
  | .text "nop" => .ok .nop
  | .text "unbounded" => .error ⟨.invalidType, []⟩
  | .text _ => .error ⟨.unknownVariant, []⟩
  | .whole n => numberedCache n
  | .dict ((name, v) :: _) => cacheMember name v
  | _ => .error ⟨.invalidType, []⟩

end Decoder

/-- The setting under a key; errors name the key. -/
def Dict.setting? {α : Type} (d : Dict) (key : String) (decode : Decoder α) :
    Except ExtractError (Option α) :=
  match d.get? key with
  | none => .ok none
  | some v =>
    match decode v with
    | .ok a => .ok (some a)
    | .error e => .error { e with path := key :: e.path }

/-- The configuration that settings make; unknown ones are passed over. -/
def Dict.toConfig (d : Dict) : Except ExtractError Config := do
  let authToken ← d.setting? "auth_token" Decoder.optionalText
  let configSet ← d.setting? "config_set" Decoder.text
  let replicas ← d.setting? "replicas" (Decoder.natBelow 0x100000000)
  let requestTimeoutMs ← d.setting? "request_timeout_ms" (Decoder.natBelow 0x10000000000000000)
  let schemaCache ← d.setting? "schema_cache" Decoder.cacheKind
  let shards ← d.setting? "shards" (Decoder.natBelow 0x100000000)
  let solrServerUrl ← d.setting? "solr_server_url" Decoder.text
  let tenantDomain ← d.setting? "tenant_domain" Decoder.optionalText
  match solrServerUrl with
  | none => .error ⟨.missingField "solr_server_url", []⟩
  | some solrServerUrl =>
    let c : Config := { solrServerUrl }
    return { c with
      configSet := configSet.getD c.configSet
      shards := shards.getD c.shards
      replicas := replicas.getD c.replicas
      tenantDomain := tenantDomain.getD none
      requestTimeoutMs := requestTimeoutMs.getD c.requestTimeoutMs
      authToken := authToken.getD none
      schemaCache := schemaCache.getD c.schemaCache }

end TableIndex.Settings
