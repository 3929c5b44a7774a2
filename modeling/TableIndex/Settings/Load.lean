import TableIndex.Settings.Extract
import TableIndex.Settings.Plain
import TableIndex.Settings.Variable

/-!
# Loading a configuration

A configuration is read from a file, and the environment goes before the file. It must be without flaws.
-/

namespace TableIndex

/-- Why there is no configuration. -/
inductive ConfigError where
  | missingFile (path : String)
  | extract (cause : Settings.ExtractError)
  | invalid (flaw : Config.Flaw)
deriving Repr, Inhabited

namespace ConfigError

/-- The text of the error. -/
def message : ConfigError → String
  | missingFile path => "Configuration file cannot be found at: " ++ path
  | extract _ => "Error in processing configuration"
  | invalid flaw => "Invalid configuration: " ++ flaw.reason

/-- Every such error is one of whoever configures. -/
def code (_ : ConfigError) : ErrorCode := .invalidArgument

end ConfigError

/-- What is found at a path. -/
inductive Found where
  | nothing
  | directory
  | file (text : String)
deriving DecidableEq, Repr, Inhabited

/-- A directory that holds files only, seen from inside. -/
structure Directory where
  files : List (String × String) := []
deriving Repr, Inhabited

/-- What is found at a path. Parts that are empty or a dot stay in place, and none of them may follow a file;
outside the directory there are only directories. -/
def Directory.find (d : Directory) (path : String) : Found :=
  let written := Text.splitAt '/' path.toList
  let parts := written.filter fun p => !p.isEmpty && p != ['.']
  if path.isEmpty then .nothing
  else if parts.all (· = ['.', '.']) then .directory
  else if path.toList.head? = some '/' then .nothing
  else match parts with
    | [name] =>
      match d.files.lookup (String.ofList name) with
      | some text => if written.getLast? = some name then .file text else .nothing
      | none => .nothing
    | _ => .nothing

namespace Config

/-- Where a configuration is if nobody says otherwise. -/
def defaultPath : String := "./indexer_config.yaml"

/-- The variable that may say otherwise. -/
def pathVariable : String := "RECORDINDEX_CONFIG_PATH"

/-- The variables that matter, in the order of their names. -/
def variableNames : List String :=
  ["RECORDINDEX_AUTH_TOKEN", pathVariable, "RECORDINDEX_CONFIG_SET", "RECORDINDEX_REPLICAS",
    "RECORDINDEX_REQUEST_TIMEOUT_MS", "RECORDINDEX_SCHEMA_CACHE", "RECORDINDEX_SCHEMA_CACHE__NOP",
    "RECORDINDEX_SCHEMA_CACHE__UNBOUNDED", "RECORDINDEX_SHARDS", "RECORDINDEX_SOLR_SERVER_URL",
    "RECORDINDEX_TENANT_DOMAIN"]

/-- The settings of a file; a directory has none. -/
def settingsOf? : Found → Option Settings.Dict
  | .file text => Settings.Plain.read? text
  | _ => some .empty

/-- The settings of a file and of the environment. -/
def settings (found : Found) (environment : List (String × String)) :
    Except Settings.ExtractError Settings.Dict :=
  match settingsOf? found with
  | some d => .ok (d.withVariables environment)
  | none => .error ⟨.unreadable, []⟩

/-- The configuration that is found at a path. -/
def loadFrom (find : String → Found) (environment : List (String × String)) (path : String) :
    Except ConfigError Config :=
  if find path = .nothing then .error (.missingFile path)
  else match (settings (find path) environment).bind Settings.Dict.toConfig with
    | .error e => .error (.extract e)
    | .ok c =>
      match c.flaw? with
      | some flaw => .error (.invalid flaw)
      | none => .ok c

/-- Where the configuration is: at the given path, or else at that of the environment, or else at the
default path. -/
def pathOf (environment : List (String × String)) (path : Option String) : String :=
  path.getD ((environment.lookup pathVariable).getD defaultPath)

/-- The configuration at the path that is given or meant. -/
def load (find : String → Found) (environment : List (String × String)) (path : Option String) :
    Except ConfigError Config :=
  loadFrom find environment (pathOf environment path)

end Config

end TableIndex
