import TableIndex.Schema.Basic

/-!
# Changes of a schema

A schema is changed by a list of commands, each about one field. `SchemaUpdate.plan` finds the commands
that a wanted schema takes.
-/

namespace TableIndex

/-- A command about one field. -/
inductive SchemaUpdate where
  | addField (field : Field)
  | replaceField (field : Field)
  | deleteField (name : String)
deriving Repr, Inhabited

namespace SchemaUpdate

/-- The name of the command. -/
def command : SchemaUpdate → String
  | addField _ => "add-field"
  | replaceField _ => "replace-field"
  | deleteField _ => "delete-field"

/-- The name of the field concerned. -/
def fieldName : SchemaUpdate → String
  | addField f => f.name
  | replaceField f => f.name
  | deleteField name => name

/-- The argument of the command. -/
def payload : SchemaUpdate → Json
  | addField f => .ofObject f.toProperties
  | replaceField f => .ofObject f.toProperties
  | deleteField name => .object [("name", .string name)]

/-- The body of a request for several commands: one object with a member per command, in order. Commands
may repeat, so this is no `Json` value. -/
def body (updates : List SchemaUpdate) : String :=
  Json.compactInOrder (updates.map fun u => (u.command, u.payload))

/-! ## Plans -/

/-- What to do, and the schema that is kept in the cache afterwards. -/
structure Plan where
  updates : List SchemaUpdate
  schema : Schema

/-- Adds the field, or replaces it if it is there. -/
def addOrReplace (isThere : Bool) (f : Field) : SchemaUpdate :=
  if isThere then replaceField f else addField f

/-- Overlays `current` by `desired`; nothing is deleted. -/
def mergePlan (current desired : Schema) : Plan where
  updates := desired.toList.map fun f => addOrReplace (current.contains f.name) f
  schema := current.mergedWith desired

/-- Replaces `current` by `desired`: every field that is not protected is deleted, and then those of `desired`
are added; protected ones are replaced, or stay if `desired` has none of their name. -/
def replacePlan (current desired : Schema) : Plan where
  updates :=
    (current.toList.filter fun f => !current.isProtected f.name).map (deleteField ·.name)
      ++ desired.toList.map fun f =>
          addOrReplace (current.contains f.name && current.isProtected f.name) f
  schema := desired

/-- The plan to replace `current` by `desired`, or to merge `desired` into it. -/
def plan (current desired : Schema) (merge : Bool) : Plan :=
  if merge then mergePlan current desired else replacePlan current desired

end SchemaUpdate

end TableIndex
