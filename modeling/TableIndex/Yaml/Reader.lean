import TableIndex.Yaml.Lexer
import TableIndex.Yaml.Node

/-!
# From tokens to a document

`Document.read?` reads a text that holds one document. Every reader takes the tokens from a node on and
leaves those behind it; where nothing is written in front of the next mark, the node is empty.
-/

namespace TableIndex.Yaml

/-! ## The state of reading -/

/-- The state of reading. -/
structure Reader where
  tokens : List Token
  /-- What the handles of tags stand for. -/
  handles : List (String × String) := []
  /-- The numbers of the anchors. -/
  names : List (String × Nat) := []
  /-- For every number the place of the node that has it, the latest first. -/
  owners : List (Nat × Nat) := []
  /-- The nodes with anchors under their places. -/
  nodes : List (Nat × Node) := []

/-- Reading that may fail. -/
abbrev Read := StateT Reader Option

namespace Read

/-- The next token; there is none at the end. -/
def peek : Read (Option Token) := do return (← get).tokens.head?

/-- Leaves the next token behind. -/
def skip : Read Unit := modify fun r => { r with tokens := r.tokens.tail }

/-- Leaves the next token behind, which must be the given one. -/
def expect (t : Token) : Read Unit := do
  if (← peek) = some t then skip else failure

/-- Whether one of the given tokens comes next. -/
def isNext (ts : List Token) : Read Bool := do return (← peek).any ts.contains

/-! ## Anchors and tags -/

/-- Gives the next node a number under a name; returns its place. A name keeps no more than one number, and
the number is that of the names so far. -/
def register (name : String) : Read Nat := do
  let r ← get
  let number := r.names.length
  let place := r.owners.length
  set { r with
    names := (name, number) :: r.names.filter (·.1 != name)
    owners := (number, place) :: r.owners }
  return place

/-- Keeps a node with an anchor under its place. -/
def keep (place : Option Nat) (node : Node) : Read Node := do
  match place with
  | some place => modify fun r => { r with nodes := (place, node) :: r.nodes }
  | none => pure ()
  return node

/-- The tag that is meant by a written one. -/
def tagOf (t : WrittenTag) : Read String := do
  if t.handle.isEmpty then return t.suffix
  match (← get).handles.lookup t.handle with
  | some start => return start ++ t.suffix
  | none => failure

/-- Reads an anchor and a tag in any order, each at most once. -/
def properties : Read (Option String × Option WrittenTag) := do
  match ← peek with
  | some (.anchor name) =>
    skip
    match ← peek with
    | some (.tag t) => skip; return (some name, some t)
    | _ => return (some name, none)
  | some (.tag t) =>
    skip
    match ← peek with
    | some (.anchor name) => skip; return (some name, some t)
    | _ => return (none, some t)
  | _ => return (none, none)

/-! ## Nodes -/

/-- What ends an item of a block without dashes of its own, or a key or value of a block. -/
def lineEnds : List Token := [.key, .value, .blockEnd]

mutual

/-- Reads a node. In a block it may be a block itself, and `indentless` says whether items that are not
further right than what is around them belong to it. Four steps for every token are enough. -/
def node (inBlock indentless : Bool) : Nat → Read Node
  | 0 => failure
  | steps + 1 => do
    match ← peek with
    | some (.alias name) =>
      skip
      match (← get).names.lookup name with
      | some number => return .alias number
      | none => failure
    | _ =>
      let (name, written) ← properties
      let tag ← written.mapM tagOf
      let place ← name.mapM register
      match ← peek with
      | some .entry =>
        if indentless then keep place (.sequence tag (← entries true steps))
        else if name.isSome || tag.isSome then keep place (.scalar tag true "")
        else failure
      | some (.scalar isPlain text) => skip; keep place (.scalar tag isPlain text)
      | some .flowSequenceStart => skip; keep place (.sequence tag (← items true steps))
      | some .flowMappingStart => skip; keep place (.mapping tag (← flowMembers true steps))
      | t =>
        if inBlock && t = some .blockSequenceStart then
          skip; keep place (.sequence tag (← entries false steps))
        else if inBlock && t = some .blockMappingStart then
          skip; keep place (.mapping tag (← members steps))
        else if name.isSome || tag.isSome then keep place (.scalar tag true "")
        else failure

/-- Reads a node of a block, which is empty if one of the given tokens comes next. -/
def nodeUnless (ends : List Token) (inBlock indentless : Bool) : Nat → Read Node
  | 0 => failure
  | steps + 1 => do if ← isNext ends then return .empty else node inBlock indentless steps

/-- Reads the items of a block. -/
def entries (indentless : Bool) : Nat → Read (List Node)
  | 0 => failure
  | steps + 1 => do
    match ← peek with
    | some .entry =>
      skip
      let ends := if indentless then .entry :: lineEnds else [.entry, .blockEnd]
      let item ← nodeUnless ends true false steps
      return item :: (← entries indentless steps)
    | t =>
      if indentless then return []
      else if t = some .blockEnd then skip; return []
      else failure

/-- Reads the members of a block. -/
def members : Nat → Read (List (Node × Node))
  | 0 => failure
  | steps + 1 => do
    match ← peek with
    | some .key =>
      skip
      let key ← nodeUnless lineEnds true true steps
      let value ← if ← isNext [.value] then
          skip
          nodeUnless lineEnds true true steps
        else pure .empty
      return (key, value) :: (← members steps)
    | some .blockEnd => skip; return []
    | _ => failure

/-- Reads the value of a member in brackets. -/
def flowValue (close : Token) : Nat → Read Node
  | 0 => failure
  | steps + 1 => do
    if ← isNext [.value] then
      skip
      nodeUnless [.comma, close] false false steps
    else return .empty

/-- Reads the items of a sequence in brackets. A key makes a mapping of its own; where the key is empty,
the mark behind it counts for it. -/
def items (isFirst : Bool) : Nat → Read (List Node)
  | 0 => failure
  | steps + 1 => do
    let close := Token.flowSequenceEnd
    if ← isNext [close] then skip; return []
    if !isFirst then expect .comma
    if ← isNext [close] then skip; return []
    if ← isNext [.key] then
      skip
      let key ← if ← isNext [.value, .comma, close] then
          skip
          pure .empty
        else node false false steps
      let value ← flowValue close steps
      return .mapping none [(key, value)] :: (← items false steps)
    else
      let item ← node false false steps
      return item :: (← items false steps)

/-- Reads the members of a mapping in brackets. -/
def flowMembers (isFirst : Bool) : Nat → Read (List (Node × Node))
  | 0 => failure
  | steps + 1 => do
    let close := Token.flowMappingEnd
    if ← isNext [close] then skip; return []
    if !isFirst then expect .comma
    if ← isNext [close] then skip; return []
    if ← isNext [.key] then
      skip
      let key ← nodeUnless [.value, .comma, close] false false steps
      let value ← flowValue close steps
      return (key, value) :: (← flowMembers false steps)
    else
      let key ← node false false steps
      return (key, .empty) :: (← flowMembers false steps)

end

/-! ## Documents -/

/-- What the handles stand for that need no directive. -/
def commonHandles : List (String × String) := [("!", "!"), ("!!", "tag:yaml.org,2002:")]

/-- Reads the directives in front of a document, one step for each; a document has one version and gives a
handle one meaning. -/
def directives : Nat → (hasVersion : Bool) → Read Unit
  | 0, _ => failure
  | steps + 1, hasVersion => do
    match ← peek with
    | some (.version major minor) =>
      skip
      if hasVersion || major != 1 || !(minor == 1 || minor == 2) then failure
      directives steps true
    | some (.handle name start) =>
      skip
      if ((← get).handles.lookup name).isSome then failure
      modify fun r => { r with handles := (name, start) :: r.handles }
      directives steps hasVersion
    | _ => return

/-- Whether a token stands in front of a document. -/
def isHead : Token → Bool
  | .version _ _ => true
  | .handle _ _ => true
  | .documentStart => true
  | _ => false

/-- Reads a document, which may be empty behind the mark of its start. -/
def document (steps : Nat) : Read Node := do
  match ← peek with
  | none => return .empty
  | some t =>
    if isHead t then
      directives steps false
      expect .documentStart
    modify fun r => { r with handles := r.handles ++ commonHandles }
    match ← peek with
    | none => if isHead t then return .empty else failure
    | some u => if isHead t && (isHead u || u = .documentEnd) then return .empty else node true false steps

end Read

/-- The document that a text holds, with nothing but marks of its end behind it. -/
def Document.read? (text : String) : Option Document := do
  let tokens := (← tokens? text).toList
  let (root, r) ← (Read.document (4 * (tokens.length + 1))).run { tokens }
  if r.tokens.all (· = .documentEnd) then
    some { root, anchored := r.owners.filterMap fun (number, place) => do
      return (number, ← r.nodes.lookup place) }
  else none

end TableIndex.Yaml
