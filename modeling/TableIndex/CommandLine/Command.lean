import TableIndex.CommandLine.Arguments

/-!
# Commands

What the program can be told to do, each about one table, and how that is written as arguments.
-/

namespace TableIndex.CommandLine

/-- Something to do with the index of a table. -/
inductive Command where
  /-- Create the index if it is missing, and merge in the schema. -/
  | ensure (table : String) (schema primaryKey : Option String) (shards replicas : Option Nat)
    (configSet : Option String)
  /-- Merge a schema into the index, or replace the one it has. -/
  | updateSchema (table schema : String) (primaryKey : Option String) (replace : Bool)
  | showSchema (table : String)
  /-- Delete the index and its config-set. -/
  | drop (table : String)
  | exists (table : String)
deriving Repr, Inhabited

/-- What the arguments ask for. -/
structure Invocation where
  configPath : Option String := none
  command : Command
deriving Repr, Inhabited

/-- A number of 32 bits. -/
def count? (text : String) : Option Nat :=
  let ds := match text.toList with
    | '+' :: ds => ds
    | ds => ds
  let n := ds.foldl (fun n c => n * 10 + (c.toNat - 0x30)) 0
  if ds.isEmpty || !ds.all Char.isDigit || 0x100000000 ≤ n then none else some n

/-- Whether a text is a number of 32 bits. -/
def isCount (text : String) : Bool := (count? text).isSome

/-- Any text will do. -/
def isAny (_ : String) : Bool := true

/-- The table, which must be there. -/
def Given.table (g : Given) : Except Stop String :=
  match g.plain with
  | [table] => .ok table
  | _ => .error .misuse

namespace Command

/-- The arguments of `ensure`. -/
def parseEnsure (arguments : List String) : Except Stop Command := do
  let g ← Given.collect
    { options := [("schema", isAny), ("primary-key", isAny), ("shards", isCount),
        ("replicas", isCount), ("config-set", isAny)]
      plain := 1 } {} arguments
  return .ensure (← g.table) (g.option? "schema") (g.option? "primary-key")
    ((g.option? "shards").bind count?) ((g.option? "replicas").bind count?) (g.option? "config-set")

/-- The arguments of `update-schema`. -/
def parseUpdateSchema (arguments : List String) : Except Stop Command := do
  let g ← Given.collect
    { options := [("schema", isAny), ("primary-key", isAny)], switches := ["replace"], plain := 1 } {}
    arguments
  match g.option? "schema" with
  | some schema =>
    return .updateSchema (← g.table) schema (g.option? "primary-key") (g.switches.contains "replace")
  | none => throw .misuse

/-- The arguments of a command that takes a table and nothing else. -/
def parseTable (command : String → Command) (arguments : List String) : Except Stop Command := do
  return command (← (← Given.collect { plain := 1 } {} arguments).table)

/-- The commands with the readers of their arguments. -/
def all : List (String × (List String → Except Stop Command)) :=
  [("ensure", parseEnsure), ("update-schema", parseUpdateSchema), ("show-schema", parseTable showSchema),
    ("drop", parseTable drop), ("exists", parseTable .exists)]

end Command

namespace Invocation

/-- The short options that may come before the command. -/
def shorts : List Short :=
  [⟨'c', "config-path", true⟩, ⟨'h', "help", false⟩, ⟨'V', "version", false⟩]

/-- What follows the word `help`: nothing, or a command. -/
def parseHelp : List String → Stop
  | [] => .help
  | [name] => if name == "help" || (Command.all.lookup name).isSome then .help else .misuse
  | _ => .misuse

/-- Reads the arguments of the program: options that come before the command, and the command. -/
def parse (configPath : Option String) : List String → Except Stop Invocation
  | [] => .error .misuse
  | argument :: rest =>
    match Token.ofArgument shorts argument with
    | .option "help" none => .error .help
    | .option "version" none => .error .version
    | .option "config-path" attached =>
      if configPath.isSome then .error .misuse
      else match attached, rest with
        | some path, rest => parse (some path) rest
        | none, path :: rest => if canBeValue path then parse (some path) rest else .error .misuse
        | none, [] => .error .misuse
    | .plain "help" => .error (parseHelp rest)
    | .plain name =>
      match Command.all.lookup name with
      | some read => (read rest).map fun command => { configPath, command }
      | none => .error .misuse
    | _ => .error .misuse

end Invocation

end TableIndex.CommandLine
