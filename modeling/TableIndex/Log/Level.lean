import TableIndex.Json.Reader
import TableIndex.Json.Record
import TableIndex.Text.Lowercase

/-!
# Levels of log messages

Five levels, the most severe first. A limit lets a level pass together with all that are more severe.
-/

namespace TableIndex.Log

/-- How severe a message is. -/
inductive Level where
  | error
  | warn
  | info
  | debug
  | trace
deriving DecidableEq, Repr, Inhabited

namespace Level

/-- All levels, the most severe first. -/
def all : List Level := [error, warn, info, debug, trace]

/-- The name of a level. -/
def name : Level → String
  | error => "error"
  | warn => "warn"
  | info => "info"
  | debug => "debug"
  | trace => "trace"

/-- The place of a level; the most severe one is first. -/
def rank : Level → Nat
  | error => 1
  | warn => 2
  | info => 3
  | debug => 4
  | trace => 5

/-- The level with a name. -/
def ofName? (name : String) : Option Level := all.find? (·.name == name)

/-- The level that a form writes. -/
def ofForm? (f : Json.Form) : Option Level :=
  match f.choice? with
  | some (name, more) => if Json.Form.isNothing more then ofName? name else none
  | none => none

/-- The level that a text writes. -/
def parse? (text : String) : Option Level := (Json.Form.read? text).bind ofForm?

end Level

/-- The least severe level that passes; `none` lets nothing pass. -/
abbrev Limit := Option Level

namespace Limit

/-- Whether a limit lets a level pass. -/
def passes (l : Limit) (level : Level) : Bool := l.any (level.rank ≤ ·.rank)

/-- The limit that a text names, in any case, or numbers; the empty text lets errors pass. -/
def parse? (text : String) : Option Limit :=
  let number := match text.toList with
    | '+' :: ds => if ds.isEmpty || !ds.all Char.isDigit then none else (String.ofList ds).toNat?
    | ds => if ds.isEmpty || !ds.all Char.isDigit then none else text.toNat?
  let lower := Text.asciiLower text
  if number = some 0 || lower = "off" then some none
  else if text.isEmpty then some (some .error)
  else match Level.all.find? (fun l => number == some l.rank || lower == l.name) with
    | some level => some (some level)
    | none => none

end Limit

end TableIndex.Log
