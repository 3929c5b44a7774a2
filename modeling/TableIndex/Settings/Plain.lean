import TableIndex.Json.Form
import TableIndex.Settings.Value
import TableIndex.Text.Blank
import TableIndex.Yaml.Reader

/-!
# Settings in a file

What the nodes of a YAML document mean: plain scalars may be nothing, booleans or numbers, and a file is
a mapping whose keys are texts.
-/

namespace TableIndex.Settings.Plain

/-! ## Numbers -/

/-- The number that digits of a radix write. -/
def digits? (radix : Nat) (ds : List Char) : Option Nat :=
  if ds.isEmpty || !ds.all (fun c => (Text.hexValue? c).any (· < radix)) then none
  else some (ds.foldl (fun n c => n * radix + (Text.hexValue? c).getD 0) 0)

/-- A sign and what is behind it. -/
def cutSign : List Char → Option Char × List Char
  | '+' :: cs => (some '+', cs)
  | '-' :: cs => (some '-', cs)
  | cs => (none, cs)

/-- Whether a text is digits behind a needless zero, and hence no number. -/
def isPadded (cs : List Char) : Bool :=
  let ds := (cutSign cs).2
  1 < ds.length && ds.head? == some '0' && ds.all Char.isDigit

/-- The size of a number in one of the four radices. -/
def magnitude? : List Char → Option Nat
  | '0' :: 'x' :: ds => digits? 16 ds
  | '0' :: 'o' :: ds => digits? 8 ds
  | '0' :: 'b' :: ds => digits? 2 ds
  | ds => digits? 10 ds

/-- A whole number of at most 128 bits. -/
def whole? (cs : List Char) : Option Int := do
  if isPadded cs then none
  let (sign, ds) := cutSign cs
  let n ← magnitude? ds
  if sign = some '-' then
    if n ≤ 0x80000000000000000000000000000000 then some (-n) else none
  else if n < 0x100000000000000000000000000000000 then some n else none

/-- Whether digits with a point or an exponent write a finite number; there is a digit, but maybe only on
one side of the point. -/
def isDecimal (cs : List Char) : Bool :=
  let whole := cs.takeWhile Char.isDigit
  let rest := cs.dropWhile Char.isDigit
  let (fraction, rest) := match rest with
    | '.' :: cs => (cs.takeWhile Char.isDigit, cs.dropWhile Char.isDigit)
    | cs => ([], cs)
  let number (exponent : Option (Bool × List Char)) : Json.NumberText :=
    { negative := false, whole, fraction := some fraction, exponent }
  !(whole.isEmpty && fraction.isEmpty) && match rest with
    | [] => (number none).toBinary64?.isSome
    | e :: cs =>
      let (sign, ds) := cutSign cs
      (e == 'e' || e == 'E') && !ds.isEmpty && ds.all Char.isDigit
        && (number (some (sign == some '-', ds))).toBinary64?.isSome

/-- The names of what is no finite number, without sign. -/
def infinities : List String := [".inf", ".Inf", ".INF"]

/-- Whether a text is a number, be it whole or not. -/
def isFloat (cs : List Char) : Bool :=
  let ds := (cutSign cs).2
  infinities.contains (String.ofList ds) || [".nan", ".NaN", ".NAN"].contains (String.ofList cs)
    || isDecimal ds

/-- Whether a text is a number where no whole number stands, and no digits behind a needless zero. -/
def isFraction (cs : List Char) : Bool := !isPadded cs && isFloat cs

/-! ## Scalars -/

/-- Whether a plain text means nothing. -/
def isNull (s : String) : Bool := ["", "null", "Null", "NULL", "~"].contains s

/-- The boolean that a plain text means. -/
def bool? (s : String) : Option Bool :=
  if ["true", "True", "TRUE"].contains s then some true
  else if ["false", "False", "FALSE"].contains s then some false
  else none

/-- What a plain text means. -/
def scalar (s : String) : Value :=
  if isNull s then .null
  else match bool? s with
    | some b => .bool b
    | none =>
      match whole? s.toList with
      | some n => .whole n
      | none => if isFraction s.toList then .fraction else .text s

/-- What all standard tags start with. -/
def standardTag (name : String) : String := "tag:yaml.org,2002:" ++ name

/-- What a scalar with a standard tag means; `none` if it is not what its tag says. -/
def taggedScalar? (tag : String) (s : String) : Option Value :=
  if tag = standardTag "null" then (if !s.isEmpty && isNull s then some .null else none)
  else if tag = standardTag "bool" then (bool? s).map .bool
  else if tag = standardTag "int" then (whole? s.toList).map .whole
  else if tag = standardTag "float" then (if isFloat s.toList then some .fraction else none)
  else some (.text s)

/-- The keys under which a tag that is local to its document puts a value. -/
def localKeys? (tag : Option String) : Option (List String) :=
  match tag.map String.toList with
  | some ['!'] => some ["!"]
  | some ('!' :: name) => some (((Text.splitAt '.' name).takeWhile (!·.isEmpty)).map String.ofList)
  | _ => none

/-- What a scalar means. -/
def scalarValue? (tag : Option String) (isPlain : Bool) (text : String) : Option Value :=
  let untagged := if isPlain then scalar text else .text text
  match localKeys? tag, tag with
  | some keys, _ => some (untagged.nest keys)
  | none, some tag => taggedScalar? tag text
  | none, none => some untagged

/-! ## Nodes -/

/-- Understanding, with the number of aliases that may still be followed. -/
abbrev Reading := StateT Nat Option

/-- The node that is meant: an alias means the one with its number. -/
def target (d : Yaml.Document) : Yaml.Node → Reading Yaml.Node
  | .alias number => do
    match ← get with
    | 0 => failure
    | left + 1 =>
      set left
      d.anchored.lookup number
  | node => return node

/-- The text of a scalar, whatever it means. -/
def key (d : Yaml.Document) (node : Yaml.Node) : Reading String := do
  match ← target d node with
  | .scalar _ _ text => return text
  | _ => failure

/-- A value under the keys of its tag, if the tag is local. -/
def tagged (tag : Option String) (v : Value) : Value := v.nest ((localKeys? tag).getD [])

/-- What a node means in which sequences and mappings may be `depth` deep; the last member of a mapping with
a key is the one that counts. -/
def value (d : Yaml.Document) : (depth : Nat) → Yaml.Node → Reading Value
  | 0, node => do
    match ← target d node with
    | .scalar tag isPlain text => scalarValue? tag isPlain text
    | _ => failure
  | depth + 1, node => do
    match ← target d node with
    | .scalar tag isPlain text => scalarValue? tag isPlain text
    | .sequence tag items => return tagged tag (.list (← items.mapM (value d depth)))
    | .mapping tag members =>
      let ms ← members.mapM fun (k, node) => do return (← key d k, ← value d depth node)
      return tagged tag (.ofDict (SortedMap.ofList ms))
    | .alias _ => failure

/-- How many sequences and mappings may be inside one another. -/
def nestingLimit : Nat := 128

/-- The settings in a document: those of a mapping, or none if nothing is written. -/
def dict? (d : Yaml.Document) : Option Dict :=
  match d.root with
  | .scalar _ true text => if text.isEmpty then some .empty else none
  | .mapping _ members => do
    let (ms, _) ← (members.mapM fun (k, node) => do
      return (← key d k, ← value d (nestingLimit - 1) node)).run d.aliasLimit
    some (SortedMap.ofList ms)
  | _ => none

/-- The settings in the text of a file. -/
def read? (text : String) : Option Dict := (Yaml.Document.read? text).bind dict?

end TableIndex.Settings.Plain
