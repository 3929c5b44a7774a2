import TableIndex.CommandLine.Command
import TableIndex.Schema.Text
import TableIndex.Service.Http

/-!
# Running commands

`Command.run` carries a command out with a service and returns the line it has to say; `Invocation.run`
starts from the configuration. The exit status is 0 for success, 1 for failure and 2 for arguments that
make no sense.
-/

namespace TableIndex.CommandLine

/-- Why a command fails. -/
inductive CommandError where
  | schemaText (cause : SchemaTextError)
  | config (cause : CollectionConfigError)
  | ensure (cause : EnsureError)
  | updateSchema (cause : UpdateSchemaError)
  | getSchema (cause : GetSchemaError)
  | delete (cause : DeleteError)
  | client (cause : ClientError)
deriving Repr, Inhabited

/-- The text of the error. -/
def CommandError.message : CommandError → String
  | schemaText cause => cause.message
  | config cause => cause.message
  | ensure cause => cause.message
  | updateSchema cause => cause.message
  | getSchema cause => cause.message
  | delete cause => cause.message
  | client cause => cause.message

namespace Command

variable {σ η : Type}

/-- A schema as it is shown. -/
def schemaJson (s : Schema) : Json :=
  .ofMembers [("uniqueKey", .string s.uniqueKey),
    ("fields", .array (s.toList.map fun f => .ofObject f.toProperties))]

/-- The schema that a text declares. -/
def readSchema (primaryKey : Option String) (text : String) : Except CommandError Schema :=
  (Schema.parse primaryKey text).mapError .schemaText

/-- The collection that `ensure` asks for. -/
def request (c : Config) (table : String) (schema primaryKey : Option String)
    (shards replicas : Option Nat) (configSet : Option String) :
    Except CommandError CollectionConfig := do
  let schema ← schema.mapM (readSchema primaryKey)
  (CollectionConfig.build
    { collectionName := table
      shards := shards.getD c.shards
      replicas := replicas.getD c.replicas
      configSet, schema }).mapError .config

/-- Carries a command out; the result is what it has to say. -/
def run (c : Config) (s : Service σ η) :
    Command → EStateM CommandError (ServiceState σ η) String
  | .ensure table schema primaryKey shards replicas configSet => do
    let config ← MonadExcept.ofExcept (request c table schema primaryKey shards replicas configSet)
    let outcome ← (s.ensure config).adaptExcept .ensure
    return table ++ ": " ++ outcome.name
  | .updateSchema table schema primaryKey replace => do
    let schema ← MonadExcept.ofExcept (readSchema primaryKey schema)
    (s.updateSchema table schema (!replace)).adaptExcept .updateSchema
    return table ++ ": schema updated"
  | .showSchema table => do
    let schema ← (s.getSchema table).adaptExcept .getSchema
    return (schemaJson schema).pretty
  | .drop table => do
    let outcome ← (s.delete table).adaptExcept .delete
    return table ++ ": " ++ outcome.name
  | .exists table => do
    let collection ← (s.collectionExists table).adaptExcept .client
    let configSet ← (s.configSetExists table).adaptExcept .client
    return table ++ ": collection=" ++ toString collection ++ " config_set=" ++ toString configSet

end Command

/-- How a run of the program ends, and the web it leaves. -/
structure Outcome where
  exitStatus : Nat
  stdout : String := ""
  stderr : String := ""
  web : Http.Web

/-- What the program says of its version. -/
def versionLine : String := "recordindex 0.1.0\n"

/-- How a run ends that does not come to a command. -/
def Stop.outcome (web : Http.Web) : Stop → Outcome
  | .help => { exitStatus := 0, web }
  | .version => { exitStatus := 0, stdout := versionLine, web }
  | .misuse => { exitStatus := 2, web }

/-- Carries a command out, and gives the handle up afterwards. -/
def runWith (c : Config) (s : Service Http.Web Nat) (command : Command) (web : Http.Web) : Outcome :=
  let close (st : ServiceState Http.Web Nat) : Http.Web :=
    match s.destroy st with
    | .ok _ st => st.remote
    | .error _ st => st.remote
  match command.run c s (.ofConfig c web) with
  | .ok line st => { exitStatus := 0, stdout := line ++ "\n", web := close st }
  | .error e st => { exitStatus := 1, stderr := e.message ++ "\n", web := close st }

/-- Runs what the arguments ask for. -/
def Invocation.run (i : Invocation) (find : String → Found) (environment : List (String × String))
    (web : Http.Web) : Outcome :=
  match Config.load find environment i.configPath with
  | .error e =>
    { exitStatus := 1, stderr := "Failed to load configuration: " ++ e.message ++ "\n", web }
  | .ok c =>
    match Service.overHttp c with
    | .error e => { exitStatus := 1, stderr := e.message ++ "\n", web }
    | .ok s => runWith c s i.command web

/-- Runs the program on its arguments. -/
def run (find : String → Found) (environment : List (String × String)) (arguments : List String)
    (web : Http.Web) : Outcome :=
  match Invocation.parse none arguments with
  | .ok i => i.run find environment web
  | .error stop => stop.outcome web

end TableIndex.CommandLine
