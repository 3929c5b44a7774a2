import TableIndex.Text.Blank

/-!
# Arguments

The arguments of a command: options with a value, switches without, and what stands on its own. A long
option has its value behind an equals sign or in the next argument, a short one may also have it without
anything between.
-/

namespace TableIndex.CommandLine

/-- An argument on its own. -/
inductive Token where
  | plain (text : String)
  /-- An option by its name, and the value that is in the same argument. -/
  | option (name : String) (attached : Option String)
  /-- All arguments behind it stand on their own. -/
  | endOfOptions
deriving DecidableEq, Repr, Inhabited

/-- A letter that stands for an option. -/
structure Short where
  letter : Char
  name : String
  hasValue : Bool := false
deriving DecidableEq, Repr, Inhabited

/-- What an argument is, given the short options. What follows the letter of one without value does not
matter. -/
def Token.ofArgument (shorts : List Short) (argument : String) : Token :=
  match argument.toList with
  | ['-', '-'] => .endOfOptions
  | '-' :: '-' :: cs =>
    match Text.splitFirst '=' cs with
    | some (name, v) => .option (String.ofList name) (some (String.ofList v))
    | none => .option (String.ofList cs) none
  | '-' :: c :: cs =>
    match shorts.find? (·.letter == c) with
    | none => .option (String.ofList ['-', c]) none
    | some s =>
      match s.hasValue, cs with
      | true, '=' :: v => .option s.name (some (String.ofList v))
      | true, c :: v => .option s.name (some (String.ofList (c :: v)))
      | _, _ => .option s.name none
  | _ => .plain argument

/-- Whether an argument can be the value of the option before it. -/
def canBeValue (argument : String) : Bool :=
  match argument.toList with
  | '-' :: _ :: _ => false
  | _ => true

/-- Why arguments are not followed. -/
inductive Stop where
  | help
  | version
  | misuse
deriving DecidableEq, Repr, Inhabited

/-- What a command takes. -/
structure Accepted where
  /-- The options with a value, and what their values must be like. -/
  options : List (String × (String → Bool)) := []
  switches : List String := []
  /-- How many arguments may stand on their own. -/
  plain : Nat := 0

/-- The arguments of a command. -/
structure Given where
  options : List (String × String) := []
  switches : List String := []
  plain : List String := []
deriving Repr, Inhabited

namespace Given

/-- Adds an argument that stands on its own. -/
def addPlain (a : Accepted) (g : Given) (text : String) : Except Stop Given :=
  if g.plain.length < a.plain then .ok { g with plain := g.plain ++ [text] } else .error .misuse

/-- Adds an option with its value; none may be given twice. -/
def addOption (a : Accepted) (g : Given) (name value : String) : Except Stop Given :=
  match a.options.lookup name with
  | some isValid =>
    if isValid value && (g.options.lookup name).isNone then
      .ok { g with options := g.options ++ [(name, value)] }
    else .error .misuse
  | none => .error .misuse

/-- Adds a switch; none may be given twice. -/
def addSwitch (g : Given) (name : String) : Except Stop Given :=
  if g.switches.contains name then .error .misuse else .ok { g with switches := name :: g.switches }

/-- Collects the arguments of a command. -/
def collect (a : Accepted) (g : Given) : List String → Except Stop Given
  | [] => .ok g
  | argument :: rest =>
    match Token.ofArgument [⟨'h', "help", false⟩] argument with
    | .endOfOptions => rest.foldlM (addPlain a) g
    | .plain text => do collect a (← g.addPlain a text) rest
    | .option "help" none => .error .help
    | .option name none =>
      if a.switches.contains name then do collect a (← g.addSwitch name) rest
      else match rest with
        | v :: rest =>
          if canBeValue v then do collect a (← g.addOption a name v) rest else .error .misuse
        | [] => .error .misuse
    | .option name (some v) => do collect a (← g.addOption a name v) rest

/-- The value of an option. -/
def option? (g : Given) (name : String) : Option String := g.options.lookup name

end Given

end TableIndex.CommandLine
