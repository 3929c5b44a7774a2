import TableIndex.Log.Directive

/-!
# Which log messages are let through

A filter is a list of directives, written with commas between them. A directive sets the limit for the
targets that start with its own; for each target the greatest such directive counts, and of two that are
equal the later one. Errors always pass, and so do the messages of the program's own parts down to
debugging.
-/

namespace TableIndex.Log

/-- The directives that decide without knowing about spans, as written. -/
abbrev Filter := List Directive

namespace Filter

/-- The directives of a text; what is no directive is passed over. -/
def directives (text : String) : List Directive :=
  ((Text.splitAt ',' text.toList).filter (!·.isEmpty)).filterMap fun p => Directive.parse? (String.ofList p)

/-- The filter that a text writes. Without any directive only errors pass; with none but those about spans
nothing does. -/
def parse (text : String) : Filter :=
  match directives text with
  | [] => [{ limit := some .error }]
  | ds => ds.filter (·.isStatic)

/-- The directive that counts of two, the second being the later one. -/
def better (best : Option Directive) (d : Directive) : Option Directive :=
  match best with
  | some b => if d.order b = .lt then some b else some d
  | none => some d

/-- Whether a message of a target and level is let through. -/
def isEnabled (f : Filter) (target : String) (level : Level) : Bool :=
  match (f.filter (·.isAbout target)).foldl better none with
  | some d => d.limit.passes level
  | none => false

end Filter

/-! ## The filter of this program -/

/-- A rule that whoever runs the program adds. -/
structure Rule where
  crateName : String
  level : Level
deriving DecidableEq, Repr, Inhabited

/-- The rule that a form writes. -/
def Rule.ofForm? (f : Json.Form) : Option Rule := do
  match ← f.fields? ["crate_name", "filter_level"] with
  | [some name, some level] => some { crateName := ← name.text?, level := ← Level.ofForm? level }
  | _ => none

/-- The parts of this program. -/
def ownTargets : List String :=
  ["recordindex", "recordindex_cache", "recordindex_config", "recordindex_error",
    "recordindex_tracing", "recordindex_types"]

/-- A target and a limit as a directive. -/
def directiveText (target : String) (level : Level) : String := target ++ "=" ++ level.name

/-- The directives of this program with the rules added. -/
def filterText (rules : List Rule) : String :=
  ",".intercalate ([Level.error.name] ++ ownTargets.map (directiveText · .debug)
    ++ rules.map fun r => directiveText r.crateName r.level)

/-- The filter of this program, unless the environment gives another one. -/
def globalFilter (rules : List Rule) (override : Option String) : Filter :=
  Filter.parse (override.getD (filterText rules))

/-! ## Setting logging up -/

/-- Why logging cannot be set up. -/
inductive InitError where
  | noLayers
  | alreadySet
deriving DecidableEq, Repr, Inhabited

/-- The text of the error. -/
def InitError.message : InitError → String
  | noLayers => "No tracing layers were provided"
  | alreadySet =>
    "Global tracing subscriber is already set: a global default trace dispatcher has already been set"

end TableIndex.Log
