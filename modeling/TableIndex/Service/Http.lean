import TableIndex.Http.Client
import TableIndex.Service.Basic
import TableIndex.Settings.Load

/-!
# Services as configured

A configuration makes a service that reaches its cluster in whatever way a connector offers, and in
particular one that reaches it over HTTP.
-/

namespace TableIndex

variable {σ η : Type}

/-- The service of a configuration. -/
def Service.ofConfig (config : Config) (connector : Connector σ η) : Service σ η where
  naming := config.naming
  baseConfigSet := config.configSet
  connector := connector

/-- A service of a configuration starts without a handle and with an empty cache. -/
def ServiceState.ofConfig (config : Config) (remote : σ) : ServiceState σ η where
  cache := .ofKind config.schemaCache
  remote := remote

/-- The service of a configuration that reaches its cluster over HTTP; the configuration is checked
first. -/
def Service.overHttp (config : Config) : Except ConfigError (Service Http.Web Nat) :=
  match config.flaw? with
  | some flaw => .error (.invalid flaw)
  | none =>
    match config.clientOptions with
    | .ok options => .ok (.ofConfig config (Http.connector options))
    | .error cause => .error (.invalid (.client cause))

end TableIndex
