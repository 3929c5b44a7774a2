import TableIndex.Map.Sorted

/-!
# Values of settings

Settings are collected from a file and from the environment before they are understood. Values of either
kind are merged: what comes later replaces what was there, but dictionaries are united.
-/

namespace TableIndex.Settings

/-- A value as found. -/
inductive Value where
  | null
  | bool (value : Bool)
  | whole (value : Int)
  /-- A number that is not whole; no setting takes one, so its value does not matter. -/
  | fraction
  | char (value : Char)
  | text (value : String)
  | list (items : List Value)
  /-- The members are sorted by key. -/
  | dict (members : List (String × Value))
deriving Repr, Inhabited

/-- Values under their keys. -/
abbrev Dict := SortedMap Value

namespace Value

/-- A dictionary of the given members. -/
def ofDict (d : Dict) : Value := .dict d.entries

/-- The members of a dictionary. -/
def asDict? : Value → Option Dict
  | .dict members => some (SortedMap.ofList members)
  | _ => none

mutual

/-- The first value with the second one merged into it. -/
def merge (a : Value) : Value → Value
  | .dict members => ofDict (mergeMembers ((asDict? a).getD .empty) members)
  | v => v

/-- The dictionary with the members merged into it. -/
def mergeMembers (d : Dict) : List (String × Value) → Dict
  | [] => d
  | (k, v) :: members =>
    mergeMembers (d.insert k (match d.get? k with
      | some a => merge a v
      | none => v)) members

end

/-- The value in nested dictionaries, one for every key. -/
def nest (v : Value) : List String → Value
  | [] => v
  | k :: ks => .dict [(k, nest v ks)]

end Value

end TableIndex.Settings
