import TableIndex.Schema.Basic

/-!
# Schemas as text

A schema can be declared in one line: fields separated by commas, each a list of `key:value` pairs
separated by blanks, as in `name:price type:double indexed:true, name:symbol type:string`.
-/

namespace TableIndex

/-- Why a text declares no schema. Positions count the fields from zero. -/
inductive SchemaTextError where
  | missingSeparator (position : Nat) (property : String)
  | emptyKey (position : Nat)
  | duplicateProperty (position : Nat) (key : String)
  | missingName (position : Nat)
  | duplicateField (name : String)
  | invalidField (cause : FieldError)
deriving Repr, Inhabited

namespace SchemaTextError

/-- The text of the error. -/
def message : SchemaTextError → String
  | missingSeparator position property =>
    "Property '" ++ property ++ "' of field #" ++ toString position ++ " is not a key:value pair"
  | emptyKey position => "Field #" ++ toString position ++ " has a property with an empty key"
  | duplicateProperty position key =>
    "Field #" ++ toString position ++ " defines '" ++ key ++ "' more than once"
  | missingName position => "Field #" ++ toString position ++ " has no 'name' property"
  | duplicateField name => "Field '" ++ name ++ "' is defined more than once"
  | invalidField cause => cause.message

/-- Every such error is one of the caller's. -/
def code (_ : SchemaTextError) : ErrorCode := .invalidArgument

end SchemaTextError

namespace Schema

/-- The number that decimal digits write after a sign, if it fits 64 bits with a sign. -/
def signed? (negative : Bool) (ds : List Char) : Option Int :=
  if ds.isEmpty || !ds.all Char.isDigit then none
  else
    let n := ds.foldl (fun n c => n * 10 + (c.toNat - '0'.toNat)) 0
    let i : Int := if negative then -n else n
    if -0x8000000000000000 ≤ i ∧ i < 0x8000000000000000 then some i else none

/-- The number that an optional sign and decimal digits write, if it fits 64 bits with a sign. -/
def int64? : List Char → Option Int
  | '-' :: ds => signed? true ds
  | '+' :: ds => signed? false ds
  | ds => signed? false ds

/-- The value that a text stands for: a truth value, a whole number, or itself. -/
def scalar (cs : List Char) : Json :=
  if cs = "true".toList then .bool true
  else if cs = "false".toList then .bool false
  else match int64? cs with
    | some i => .number (.int i)
    | none => .string (String.ofList cs)

/-- The value of a property: names and types are taken as they stand. -/
def propertyValue (key : String) (value : List Char) : Json :=
  if key = Field.nameKey ∨ key = Field.typeKey then .string (String.ofList value) else scalar value

/-- Adds one `key:value` pair to the properties read so far. -/
def readPair (position : Nat) (o : Json.Object) (pair : List Char) :
    Except SchemaTextError Json.Object :=
  match Text.splitFirst ':' pair with
  | none => .error (.missingSeparator position (String.ofList pair))
  | some (key, value) =>
    let key := String.ofList key
    if key = "" then .error (.emptyKey position)
    else if o.contains key then .error (.duplicateProperty position key)
    else .ok (o.insert key (propertyValue key value))

/-- The field that a list of pairs declares. -/
def readField (position : Nat) (pairs : List (List Char)) : Except SchemaTextError Field := do
  let o ← pairs.foldlM (readPair position) .empty
  if !o.contains Field.nameKey then throw (.missingName position)
  (Field.ofProperties o).mapError .invalidField

/-- Adds declared fields to a schema; `position` is that of the first. -/
def readFields (s : Schema) (position : Nat) : List (List (List Char)) → Except SchemaTextError Schema
  | [] => .ok s
  | pairs :: rest => do
    let f ← readField position pairs
    if s.contains f.name then throw (.duplicateField f.name)
    readFields (s.add f) (position + 1) rest

/-- The declarations in a text, each cut into its pairs; blank ones are skipped. -/
def declarations (text : String) : List (List (List Char)) :=
  ((Text.splitAt ',' text.toList).map Text.words).filter (!·.isEmpty)

/-- The schema that a text declares. -/
def parse (primaryKey : Option String) (text : String) : Except SchemaTextError Schema :=
  readFields (ofFields (primaryKey.getD "") []) 0 (declarations text)

end Schema

end TableIndex
