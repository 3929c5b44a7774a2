import TableIndex.Map.Sorted
import TableIndex.Number.Binary64

/-!
# JSON values

Values with whole numbers of 64 bits beside doubles. The members of an object made by this library are
sorted by key; `Json.same` is equality up to the sign of zero.
-/

namespace TableIndex

/-- A number: a whole one from `-2 ^ 63` up to below `2 ^ 64`, or a double. -/
inductive Json.Number where
  | int (value : Int)
  | float (value : Binary64)
deriving DecidableEq, Repr, Inhabited

/-- A JSON value. -/
inductive Json where
  | null
  | bool (value : Bool)
  | number (value : Json.Number)
  | string (value : String)
  | array (items : List Json)
  | object (members : List (String × Json))
deriving Repr, Inhabited

namespace Json

/-- A whole number is never equal to a double; the two zeros are equal doubles. -/
def Number.same : Number → Number → Bool
  | .int a, .int b => a == b
  | .float x, .float y => x.same y
  | _, _ => false

mutual

/-- Equality up to the sign of zero. -/
def same : Json → Json → Bool
  | .null, .null => true
  | .bool a, .bool b => a == b
  | .number a, .number b => a.same b
  | .string a, .string b => a == b
  | .array as, .array bs => sameItems as bs
  | .object as, .object bs => sameMembers as bs
  | _, _ => false

/-- Equality of the items of two arrays. -/
def sameItems : List Json → List Json → Bool
  | [], [] => true
  | a :: as, b :: bs => same a b && sameItems as bs
  | _, _ => false

/-- Equality of the members of two objects. -/
def sameMembers : List (String × Json) → List (String × Json) → Bool
  | [], [] => true
  | (k, a) :: as, (l, b) :: bs => k == l && same a b && sameMembers as bs
  | _, _ => false

end

/-- The members of an object, sorted by key. -/
abbrev Object := SortedMap Json

/-- The object with the given members. -/
def ofObject (o : Object) : Json := .object o.entries

/-- The object with the given members; a later member replaces an earlier one with its key. -/
def ofMembers (members : List (String × Json)) : Json := ofObject (SortedMap.ofList members)

/-- A natural number as a value. -/
def nat (n : Nat) : Json := .number (.int n)

/-! ## Access -/

/-- The text of a string. -/
def asString? : Json → Option String
  | .string s => some s
  | _ => none

/-- The value of a boolean. -/
def asBool? : Json → Option Bool
  | .bool b => some b
  | _ => none

/-- The value of a whole number. -/
def asInt? : Json → Option Int
  | .number (.int i) => some i
  | _ => none

/-- The items of an array. -/
def asArray? : Json → Option (List Json)
  | .array items => some items
  | _ => none

/-- The members of an object. -/
def asObject? : Json → Option Object
  | .object members => some (SortedMap.ofList members)
  | _ => none

/-- The member with the key `k`, if the value is an object that has one. -/
def get? (k : String) : Json → Option Json
  | .object members => (members.find? (·.1 == k)).map Prod.snd
  | _ => none

/-- Whether the value is `null`. -/
def isNull : Json → Bool
  | .null => true
  | _ => false

/-! ## Small lemmas -/

theorem Number.same_refl : (n : Number) → n.same n = true
  | .int _ => by simp [same]
  | .float x => by simp [same, Binary64.same_refl]

mutual

theorem same_refl : (v : Json) → v.same v = true
  | .null => by simp [same]
  | .bool _ => by simp [same]
  | .number n => by simp [same, Number.same_refl]
  | .string _ => by simp [same]
  | .array items => by simp [same, sameItems_refl items]
  | .object members => by simp [same, sameMembers_refl members]

theorem sameItems_refl : (l : List Json) → sameItems l l = true
  | [] => by simp [sameItems]
  | a :: as => by simp [sameItems, same_refl a, sameItems_refl as]

theorem sameMembers_refl : (l : List (String × Json)) → sameMembers l l = true
  | [] => by simp [sameMembers]
  | (_, a) :: as => by simp [sameMembers, same_refl a, sameMembers_refl as]

end

end Json

end TableIndex
