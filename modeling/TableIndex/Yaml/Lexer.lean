import TableIndex.Yaml.Scalar
import TableIndex.Yaml.Tag

/-!
# From text to tokens

A lexer reads tokens one after the other. Outside brackets it keeps the columns of the open blocks, closes
those that a line further left ends, and opens one where a first item, key or value stands further right.
A key is known as such only by the colon behind it: until then its place among the tokens is kept, and the
mark of a key is put in there. Such a key stands on one line and within 1024 characters.
-/

namespace TableIndex.Yaml

/-- What may turn out to be a key. -/
structure PendingKey where
  /-- Whether it can be nothing but a key. -/
  isRequired : Bool
  /-- The number of tokens in front of it. -/
  position : Nat
  /-- The first character. -/
  start : Placed
deriving Repr

/-- The state of reading. -/
structure Lexer where
  rest : Source
  tokens : Array Token := #[]
  /-- The columns of the open blocks, the innermost first. -/
  blocks : List Nat := []
  /-- What may be a key, for every open bracket, the innermost first, and outside of all of them last. -/
  keys : List (Option PendingKey) := [none]
  /-- Whether a key may start here. -/
  keyAllowed : Bool := true

namespace Lexer

/-- Whether a bracket is open. -/
def inBrackets (l : Lexer) : Bool := 1 < l.keys.length

/-- The column in which a node inside the innermost block starts at least. -/
def margin (l : Lexer) : Nat :=
  match l.blocks with
  | column :: _ => column + 1
  | [] => 0

/-- The column of the next character. -/
def column (l : Lexer) : Nat :=
  match l.rest with
  | g :: _ => g.column
  | [] => 0

/-! ## Keys -/

/-- Gives up what may be a key, which must not be one for sure. -/
def dropKey (l : Lexer) : Option Lexer :=
  match l.keys with
  | some k :: ks => if k.isRequired then none else some { l with keys := none :: ks }
  | _ => some l

/-- Keeps in mind that a key may start here. -/
def saveKey (l : Lexer) : Option Lexer :=
  if !l.keyAllowed then some l
  else do
    let l ← l.dropKey
    match l.rest, l.keys with
    | g :: _, _ :: ks =>
      let isRequired := !l.inBrackets && l.blocks.head? == some g.column
      some { l with keys := some { isRequired, position := l.tokens.size, start := g } :: ks }
    | _, _ => some l

/-- Whether a key that started at one place can end at another. -/
def isInReach (start finish : Placed) : Bool :=
  start.line == finish.line && finish.index ≤ start.index + 1024

/-- Gives up what can be no key any more. -/
def expireKeys (l : Lexer) : Option Lexer :=
  match l.rest with
  | [] => some l
  | g :: _ =>
    let isGone (k : PendingKey) := !isInReach k.start g
    if l.keys.any fun k => k.any fun k => isGone k && k.isRequired then none
    else some { l with keys := l.keys.map fun k => k.filter (!isGone ·) }

/-! ## Tokens and blocks -/

/-- Adds a token. -/
def push (l : Lexer) (t : Token) : Lexer := { l with tokens := l.tokens.push t }

/-- Adds a token behind the given number of others. -/
def insert (l : Lexer) (position : Nat) (t : Token) : Lexer :=
  { l with tokens := l.tokens.insertIdxIfInBounds position t }

/-- Closes the blocks from the given column on. -/
def closeBlocks (l : Lexer) (column : Nat) : Lexer :=
  if l.inBrackets then l
  else
    let (closed, left) := (l.blocks.takeWhile (column ≤ ·), l.blocks.dropWhile (column ≤ ·))
    { l with blocks := left, tokens := l.tokens ++ closed.map fun _ => Token.blockEnd }

/-- Opens a block in a column, unless it is open, with its token behind the given number of others. -/
def openBlock (l : Lexer) (column position : Nat) (t : Token) : Lexer :=
  if l.inBrackets || column < l.margin then l
  else { l.insert position t with blocks := column :: l.blocks }

/-- Drops a number of characters. -/
def skip (l : Lexer) (n : Nat) : Lexer := { l with rest := l.rest.drop n }

/-! ## Between tokens -/

/-- Drops blanks, comments and line breaks, one step for every character. Outside brackets a key may start
in a new line; where a key may start, tabs do not count as blanks. -/
def skipGaps : Nat → Lexer → Lexer
  | 0, l => l
  | steps + 1, l =>
    match l.rest with
    | [] => l
    | g :: gs =>
      if g.char == ' ' || (g.char == '\t' && (l.inBrackets || !l.keyAllowed))
          || (g.column == 0 && g.char == byteOrderMark) then
        skipGaps steps { l with rest := gs }
      else if g.char == '#' then skipGaps steps { l with rest := dropComment l.rest }
      else if isBreak g.char then
        skipGaps steps { l with rest := gs, keyAllowed := l.keyAllowed || !l.inBrackets }
      else l

/-! ## Reading one token -/

/-- Reads a token that ends all blocks. -/
def readOutermost (l : Lexer) (t : Token) (rest : Source) : Option Lexer := do
  let l ← (l.closeBlocks 0).dropKey
  some { l.push t with rest, keyAllowed := false }

/-- Reads an opening bracket. -/
def readOpening (l : Lexer) (t : Token) : Option Lexer := do
  let l ← l.saveKey
  some { (l.push t).skip 1 with keys := none :: l.keys, keyAllowed := true }

/-- Reads a closing bracket. -/
def readClosing (l : Lexer) (t : Token) : Option Lexer := do
  let l ← l.dropKey
  let keys := if l.inBrackets then l.keys.tail else l.keys
  some { (l.push t).skip 1 with keys, keyAllowed := false }

/-- Reads a comma. -/
def readComma (l : Lexer) : Option Lexer := do
  let l ← l.dropKey
  some { (l.push .comma).skip 1 with keyAllowed := true }

/-- Opens a block for an indicator, unless there is one; outside brackets a key must be allowed. -/
def startBlock (l : Lexer) (t : Token) : Option Lexer :=
  if l.inBrackets then some l
  else if l.keyAllowed then some (l.openBlock l.column l.tokens.size t)
  else none

/-- Reads the hyphen of an item. -/
def readEntry (l : Lexer) : Option Lexer := do
  let l ← (← l.startBlock .blockSequenceStart).dropKey
  some { (l.push .entry).skip 1 with keyAllowed := true }

/-- Reads the question mark in front of a key. -/
def readKey (l : Lexer) : Option Lexer := do
  let l ← (← l.startBlock .blockMappingStart).dropKey
  some { (l.push .key).skip 1 with keyAllowed := !l.inBrackets }

/-- Reads the colon in front of a value, which makes a key of what may be one. -/
def readValue (l : Lexer) : Option Lexer :=
  match l.keys with
  | some k :: ks =>
    let l := (l.insert k.position .key).openBlock k.start.column k.position .blockMappingStart
    some { (l.push .value).skip 1 with keys := none :: ks, keyAllowed := false }
  | _ => do
    let l ← l.startBlock .blockMappingStart
    some { (l.push .value).skip 1 with keyAllowed := !l.inBrackets }

/-- Reads an anchor, an alias, a tag or a text in quotes. -/
def readWord (l : Lexer) (read : Source → Option (Token × Source)) : Option Lexer := do
  let l ← l.saveKey
  let (t, rest) ← read (l.rest.drop 1)
  some { l.push t with rest, keyAllowed := false }

/-- Reads plain text. -/
def readPlainText (l : Lexer) : Option Lexer := do
  let l ← l.saveKey
  let (f, rest) ← readPlain l.inBrackets l.margin {} l.rest
  some { l.push (.scalar true f.text) with rest, keyAllowed := f.broken }

/-- Reads a block of text. -/
def readBlockText (l : Lexer) (folded : Bool) : Option Lexer := do
  let l ← l.dropKey
  let (text, rest) ← readBlock folded l.margin (l.rest.drop 1)
  some { l.push (.scalar false text) with rest, keyAllowed := true }

/-- Reads the token that starts with a character. -/
def readToken (l : Lexer) (g : Placed) (gs : Source) : Option Lexer :=
  let isMark := l.inBrackets || atGap gs
  if g.column == 0 && g.char == '%' then do
    let (t, rest) ← readDirective? gs
    l.readOutermost t rest
  else if atMarkerOf '-' (g :: gs) then l.readOutermost .documentStart (gs.drop 2)
  else if atMarkerOf '.' (g :: gs) then l.readOutermost .documentEnd (gs.drop 2)
  else match g.char with
    | '[' => l.readOpening .flowSequenceStart
    | '{' => l.readOpening .flowMappingStart
    | ']' => l.readClosing .flowSequenceEnd
    | '}' => l.readClosing .flowMappingEnd
    | ',' => l.readComma
    | '*' => l.readWord fun src => (readName? src).map fun (name, rest) => (.alias name, rest)
    | '&' => l.readWord fun src => (readName? src).map fun (name, rest) => (.anchor name, rest)
    | '!' => l.readWord fun src => (readTag? l.inBrackets src).map fun (tag, rest) => (.tag tag, rest)
    | '\'' => l.readWord fun src => (readSingleQuoted {} src).map fun (s, rest) => (.scalar false s, rest)
    | '"' => l.readWord fun src => (readDoubleQuoted {} src).map fun (s, rest) => (.scalar false s, rest)
    | c =>
      if c == '-' && atGap gs then l.readEntry
      else if c == '?' && isMark then l.readKey
      else if c == ':' && isMark then l.readValue
      else if c == '|' && !l.inBrackets then l.readBlockText false
      else if c == '>' && !l.inBrackets then l.readBlockText true
      else if startsPlain l.inBrackets (g :: gs) then l.readPlainText
      else none

/-- Reads all tokens of a text of at most `size` characters, one step for every one of them. -/
def run (size : Nat) : Nat → Lexer → Option (Array Token)
  | 0, _ => none
  | steps + 1, l => do
    let l ← (l.skipGaps size).expireKeys
    let l := l.closeBlocks (l.column + 1)
    match l.rest with
    | [] => none
    | g :: gs =>
      if g.char == endMark then some (← (l.closeBlocks 0).dropKey).tokens
      else run size steps (← l.readToken g gs)

end Lexer

/-- The tokens of a text. -/
def tokens? (text : String) : Option (Array Token) := do
  let src ← Source.ofText? text
  Lexer.run src.length (src.length + 1) { rest := src }

end TableIndex.Yaml
