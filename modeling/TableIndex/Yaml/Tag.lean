import TableIndex.Text.Hex
import TableIndex.Text.Utf8
import TableIndex.Yaml.Source
import TableIndex.Yaml.Token

/-!
# Names, tags and directives

The words that start with an indicator: anchors and aliases, tags, and the directives in front of a
document. Each reader takes the source behind the indicator.
-/

namespace TableIndex.Yaml

/-! ## Anchors and aliases -/

/-- Whether something comes next that may follow the name of an anchor. -/
def atNameEnd (src : Source) : Bool :=
  nextIs (fun c => isGap c || ['?', ':', ',', ']', '}', '%', '@', Char.ofNat 0x60].contains c) src

/-- Reads the name of an anchor. -/
def readName? (src : Source) : Option (String × Source) :=
  let (name, rest) := cutWhile isNameChar src
  if name.isEmpty || !atNameEnd rest then none else some (String.ofList name, rest)

/-! ## Tags -/

/-- Whether a character may stand in a tag; separators only in one that is written in full. -/
def isTagChar (inFull : Bool) (c : Char) : Bool :=
  isNameChar c || ";/?:@&=+$.!~*'()%".toList.contains c || (inFull && [',', '[', ']'].contains c)

/-- The bytes of the text of a tag, in which a percent sign is followed by the two digits of a byte. -/
def tagBytes? : List Char → Option (List Nat)
  | [] => some []
  | '%' :: a :: b :: cs => do
    let x ← Text.hexValue? a
    let y ← Text.hexValue? b
    let bytes ← tagBytes? cs
    some ((x * 16 + y) :: bytes)
  | '%' :: _ => none
  | c :: cs => (tagBytes? cs).map (c.toNat :: ·)

/-- The text of a tag; nothing behind a character zero belongs to it. -/
def tagText? (cs : List Char) : Option String := do
  let text ← Text.ofUtf8? (← tagBytes? cs)
  some (String.ofList (text.takeWhile (· != endMark)))

/-- Reads the handle of a tag, a word between two exclamation marks, if it has one. -/
def readHandle? (src : Source) : Option (String × Source) :=
  let (name, rest) := cutWhile isNameChar src
  match rest with
  | g :: gs => if g.char == '!' then some ("!" ++ String.ofList name ++ "!", gs) else none
  | [] => none

/-- Reads a tag up to the gap behind it. -/
def readTag? (inBrackets : Bool) (src : Source) : Option (WrittenTag × Source) := do
  let (tag, rest) ← match src with
    | [] => none
    | g :: gs =>
      if g.char == '<' then
        let (text, rest) := cutWhile (isTagChar true) gs
        if text.isEmpty || !nextIs (· == '>') rest then none
        some (⟨"", ← tagText? text⟩, rest.drop 1)
      else match readHandle? (g :: gs) with
        | some (handle, rest) =>
          let (text, rest) := cutWhile (isTagChar false) rest
          if text.isEmpty then none
          some (⟨handle, ← tagText? text⟩, rest)
        | none =>
          let (text, rest) := cutWhile (isTagChar false) (g :: gs)
          let suffix ← tagText? text
          some (if suffix.isEmpty then ⟨"", "!"⟩ else ⟨"!", suffix⟩, rest)
  if atGap rest || (inBrackets && nextIs (· == ',') rest) then some (tag, rest) else none

/-! ## Directives -/

/-- Reads a number of a version, which has at most nine digits. -/
def readVersionNumber? (src : Source) : Option (Nat × Source) :=
  let (digits, rest) := cutWhile Char.isDigit src
  if digits.isEmpty || 9 < digits.length then none
  else some (digits.foldl (fun n c => n * 10 + (c.toNat - 0x30)) 0, rest)

/-- Reads the version of the language. -/
def readVersion? (src : Source) : Option (Token × Source) := do
  let (major, rest) ← readVersionNumber? (dropBlanks src)
  if !nextIs (· == '.') rest then none
  let (minor, rest) ← readVersionNumber? (rest.drop 1)
  some (.version major minor, rest)

/-- Reads what a handle stands for. A handle of one exclamation mark is one, too. -/
def readHandleMeaning? (src : Source) : Option (Token × Source) := do
  let (handle, rest) ← match dropBlanks src with
    | [] => none
    | g :: gs =>
      if g.char != '!' then none
      else match readHandle? gs with
        | some (handle, rest) => some (handle, rest)
        | none => if nextIs isNameChar gs then none else some ("!", gs)
  if !nextIs isBlankChar rest then none
  let (text, rest) := cutWhile (isTagChar true) (dropBlanks rest)
  if text.isEmpty || !atGap rest then none
  some (.handle handle (← tagText? text), rest)

/-- Reads a directive and the rest of its line. -/
def readDirective? (src : Source) : Option (Token × Source) := do
  let (name, rest) := cutWhile isNameChar src
  if !atGap rest then none
  let (token, rest) ← match String.ofList name with
    | "YAML" => readVersion? rest
    | "TAG" => readHandleMeaning? rest
    | _ => none
  some (token, ← endOfLine? rest)

end TableIndex.Yaml
