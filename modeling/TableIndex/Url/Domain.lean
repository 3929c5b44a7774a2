import TableIndex.Url.Domain.Label
import TableIndex.Url.Punycode

/-!
# Domain names

The ASCII form of a domain name: every character is mapped, the whole is composed, and every label beyond
ASCII is written in Punycode behind `xn--`. A label that is written so already must be what this makes of
the label that it means.
-/

namespace TableIndex.Url.Domain

/-- Characters that may not stand in a domain name. -/
def isForbidden (c : Char) : Bool :=
  c.toNat ≤ 0x20 || c.toNat == 0x7F
    || ['%', '#', '/', ':', '<', '>', '?', '@', '[', '\\', ']', '^', '|'].contains c

/-- The mapped and composed form of a name. -/
def mapped? (name : List Char) : Option (List Char) :=
  (name.mapM mapChar?).map fun parts => Text.normalize parts.flatten

/-- The longest label beyond ASCII, and the longest text in Punycode, that are looked at. -/
def lengthLimits : Nat × Nat := (1000, 2000)

/-- The text that a mapped label means, if it is a label. -/
def meaning? (label : List Char) : Option (List Char) :=
  match Text.dropStart? acePrefix label with
  | none =>
    if label.all (·.toNat < 0x80) || (isLabel label && label.length ≤ lengthLimits.1) then some label
    else none
  | some code => do
    if code.isEmpty || code.getLast? = some '-' || lengthLimits.2 < code.length then none
    let text ← Punycode.decode? code
    if isMapped text && isLabel text then some text else none

/-- A label in ASCII. -/
def labelToAscii (text : List Char) : List Char :=
  if text.all (·.toNat < 0x80) then text else acePrefix ++ Punycode.encode text

/-- The ASCII form of a domain name, if it has one. -/
def toAscii? (name : List Char) : Option (List Char) := do
  let labels ← (Text.splitAt '.' (← mapped? name)).mapM meaning?
  if labels.any (·.any isBidirectional) && !labels.all directionsFit then none
  let ascii := Text.joined ['.'] (labels.map labelToAscii)
  if ascii.any isForbidden then none else some ascii

end TableIndex.Url.Domain
