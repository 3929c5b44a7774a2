import TableIndex.Gateway.Call
import TableIndex.Naming

/-!
# A cluster in memory

The state of a cluster: config-sets with their schemas, collections with their config-sets, and the
documents of every collection, of which some are staged until the next commit. Collections of one
config-set share its schema.
-/

namespace TableIndex

/-- What a cluster holds. -/
structure Cluster where
  /-- How the cluster itself qualifies table names. -/
  naming : NamingPolicy
  /-- The schema of every config-set. -/
  configSets : SortedMap Schema
  /-- The config-set of every collection. -/
  collections : SortedMap String := .empty
  /-- Staged documents under their identifiers, for every collection that has any. -/
  pending : SortedMap (SortedMap Document) := .empty
  /-- Identifiers staged for deletion, for every collection that has any. -/
  pendingDeletes : SortedMap (SortedMap Unit) := .empty
  /-- Visible documents under their identifiers, for every collection that was committed to. -/
  committed : SortedMap (SortedMap Document) := .empty
  /-- The kinds of calls that fail, with the status that each reports. -/
  failures : List (Operation × Int) := []
  /-- Whether the connection to the cluster was given up. -/
  closed : Bool := false
  /-- The number of calls made so far. -/
  calls : Nat := 0
deriving Repr

namespace Cluster

/-- The config-set that every cluster starts with. -/
def baseConfigSet : String := "_default"

/-- The schema that every cluster starts with. -/
def baseSchema : Schema :=
  .ofFields Schema.idKey
    [((Field.typed Schema.idKey .string).withIndexed true |>.withStored true).withProperty "required"
        (.bool true),
      (Field.typed Schema.versionKey .long).withIndexed false |>.withStored false]

/-- A cluster without collections. -/
def fresh (naming : NamingPolicy) : Cluster where
  naming := naming
  configSets := SortedMap.empty.insert baseConfigSet baseSchema

instance : Inhabited Cluster := ⟨fresh .default⟩

/-- Makes the calls of one kind fail. -/
def fail (c : Cluster) (op : Operation) (status : Int) : Cluster :=
  { c with failures := (op, status) :: c.failures.filter (·.1 != op) }

/-- Lets the calls of one kind succeed again. -/
def clearFailure (c : Cluster) (op : Operation) : Cluster :=
  { c with failures := c.failures.filter (·.1 != op) }

/-- The status with which the calls of one kind fail. -/
def failure? (c : Cluster) (op : Operation) : Option Int :=
  (c.failures.find? (·.1 == op)).map Prod.snd

/-- Opens the connection again. -/
def reopen (c : Cluster) : Cluster := { c with closed := false }

/-- The collection that a table name means: the one of this very name, or else the one that the name
qualifies to. -/
def resolve? (c : Cluster) (table : String) : Option String :=
  if c.collections.contains table then some table
  else (c.naming.qualify table).filter c.collections.contains

/-- The schema of a collection. -/
def schemaOfCollection? (c : Cluster) (collection : String) : Option Schema := do
  c.configSets.get? (← c.collections.get? collection)

/-- The schema that a table's collection serves. -/
def schemaOf? (c : Cluster) (table : String) : Option Schema := do
  c.schemaOfCollection? (← c.resolve? table)

/-- Writes a schema into the config-set of a table's collection; `none` if there is no collection. -/
def setSchema? (c : Cluster) (table : String) (schema : Schema) : Option Cluster := do
  let configSet ← c.collections.get? (← c.resolve? table)
  some { c with configSets := c.configSets.insert configSet schema }

/-- The visible documents of a collection. -/
def committedOf (c : Cluster) (collection : String) : SortedMap Document :=
  (c.committed.get? collection).getD .empty

/-- The visible documents of a table, in the order of their identifiers. -/
def documents (c : Cluster) (table : String) : List Document :=
  match c.resolve? table with
  | some collection => (c.committedOf collection).values
  | none => []

end Cluster

end TableIndex
