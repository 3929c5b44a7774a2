import TableIndex.Url.Basic
import TableIndex.Url.Domain

/-!
# Reading URLs

`Url.parse` reads an absolute URL as browsers do: blanks and control characters at the ends and line
breaks anywhere are dropped, every part is percent-encoded as its set demands, numeric hosts become
addresses and dot segments are resolved. The parts are cut off one after the other, so each reader takes
the text that is left and returns what it leaves.
-/

namespace TableIndex.Url

/-- Why a text is no absolute URL. -/
inductive ParseError where
  | emptyHost
  | badDomain
  | badPort
  | badIpv4
  | badIpv6
  | badDomainCharacter
  | relative
deriving DecidableEq, Repr, Inhabited

/-- The text of the error. -/
def ParseError.message : ParseError → String
  | emptyHost => "empty host"
  | badDomain => "invalid international domain name"
  | badPort => "invalid port number"
  | badIpv4 => "invalid IPv4 address"
  | badIpv6 => "invalid IPv6 address"
  | badDomainCharacter => "invalid domain character"
  | relative => "relative URL without a base"

/-! ## Characters -/

/-- The text without control characters and spaces at its ends and without line breaks. -/
def cleaned (cs : List Char) : List Char :=
  (Text.trimBy (·.toNat ≤ 0x20) cs).filter (!isLineBreak ·)

/-- Whether a character separates the segments of a path. -/
def isSlash (special : Bool) (c : Char) : Bool := c == '/' || (special && c == '\\')

/-- Whether a character ends the authority. -/
def endsAuthority (special : Bool) (c : Char) : Bool := isSlash special c || c == '?' || c == '#'

/-! ## Scheme -/

/-- The scheme at the start of a text and what follows its colon. -/
def readScheme? (cs : List Char) : Option (Scheme × List Char) := do
  let (name, rest) ← Text.splitFirst ':' cs
  let first ← name.head?
  if first.isAlpha && name.all (fun c => c.isAlphanum || c == '+' || c == '-' || c == '.') then
    some (.ofName (name.map Char.toLower), rest)
  else none

/-! ## Authority -/

/-- Reads a host in brackets. -/
def readBracketed (cs : List Char) : Except ParseError Host :=
  if cs.getLast? = some ']' then
    match Address.ipv6? cs.dropLast with
    | some pieces => .ok (.ipv6 pieces)
    | none => .error .badIpv6
  else .error .badIpv6

/-- Reads the host of a special scheme: an address or a domain name, in which bytes may be
percent-encoded. -/
def readHost (cs : List Char) : Except ParseError Host :=
  match cs with
  | '[' :: cs => readBracketed cs
  | cs =>
    match (Text.ofUtf8? (decodeBytes cs)).bind Domain.toAscii? with
    | none => .error .badDomain
    | some name =>
      if name.isEmpty then .error .emptyHost
      else if Address.endsInNumber name then
        match Address.ipv4? name with
        | some address => .ok (.ipv4 address)
        | none => .error .badIpv4
      else .ok (.domain name)

/-- Characters that no host may hold. -/
def isForbiddenInHost (c : Char) : Bool :=
  [Char.ofNat 0, '\t', '\n', '\r', ' ', '#', '/', ':', '<', '>', '?', '@', '[', '\\', ']', '^',
    '|'].contains c

/-- Reads the host of a scheme that is not special. -/
def readForeignHost (cs : List Char) : Except ParseError Host :=
  match cs with
  | '[' :: cs => readBracketed cs
  | cs =>
    if cs.any isForbiddenInHost then .error .badDomainCharacter
    else .ok (.domain (encode controlSet cs))

/-- The host at the start of an authority, and what follows it. A colon ends it, but not in brackets. -/
def cutHost (bracketed : Bool) : List Char → List Char × List Char
  | [] => ([], [])
  | c :: cs =>
    if c == ':' && !bracketed then ([], c :: cs)
    else
      let (host, rest) := cutHost (c == '[' || (bracketed && c != ']')) cs
      (c :: host, rest)

/-- Reads the digits of a port and what a backslash separates from them; the default port of the scheme and
an empty one are none. -/
def readPort (scheme : Scheme) (cs : List Char) : Except ParseError (Option Nat × List Char) :=
  let digits := cs.takeWhile Char.isDigit
  let rest := cs.dropWhile Char.isDigit
  if !rest.isEmpty && rest.head? != some '\\' then .error .badPort
  else
    let port := digits.foldl (fun n c => n * 10 + (c.toNat - 0x30)) 0
    if 65535 < port then .error .badPort
    else .ok (if digits.isEmpty || some port == scheme.defaultPort? then none else some port, rest)

/-- Cuts at the last sign `@`. -/
def cutUser (cs : List Char) : Option (List Char × List Char) :=
  let host := (cs.reverse.takeWhile (· != '@')).reverse
  if host.length = cs.length then none else some (cs.take (cs.length - host.length - 1), host)

/-- Reads a user name and a password, which the first colon separates. -/
def readUser (cs : List Char) : List Char × List Char :=
  match Text.splitFirst ':' cs with
  | some (user, password) => (encode userinfoSet user, encode userinfoSet password)
  | none => (encode userinfoSet cs, [])

/-- Reads host and port behind a user name and a password. What follows the port belongs to the path. -/
def readHostAndPort (scheme : Scheme) (user password cs : List Char) :
    Except ParseError (Authority × List Char) := do
  let (hostText, rest) := cutHost false cs
  if scheme.isSpecial && hostText.isEmpty then throw .emptyHost
  let host ← if scheme.isSpecial then readHost hostText else readForeignHost hostText
  match rest with
  | _ :: digits =>
    if host = .domain [] then throw .emptyHost
    let (port, rest) ← readPort scheme digits
    return ({ user, password, host, port }, rest)
  | [] =>
    if host = .domain [] && !(user.isEmpty && password.isEmpty) then throw .emptyHost
    return ({ user, password, host }, [])

/-- Reads an authority and what follows it; `more` tells whether something does for sure. -/
def readAuthority (scheme : Scheme) (more : Bool) (cs : List Char) :
    Except ParseError (Authority × List Char) :=
  match cutUser cs with
  | none => readHostAndPort scheme [] [] cs
  | some (user, host) =>
    if user.isEmpty && host.isEmpty && more then .error .emptyHost
    else
      let (user, password) := readUser user
      readHostAndPort scheme user password host

/-- Reads the host of a file, which may be none at all; the machine itself is none either. -/
def readFileHost (cs : List Char) : Except ParseError Host :=
  if cs.isEmpty then .ok (.domain [])
  else do
    let host ← readHost cs
    return if host = .domain ['l', 'o', 'c', 'a', 'l', 'h', 'o', 's', 't'] then .domain [] else host

/-! ## Path and what follows -/

/-- Reads a hierarchical path without its first slash. -/
def readPath (scheme : Scheme) (cs : List Char) : List Segment :=
  Path.appendAll (scheme == .file) [] ((Text.splitBy (isSlash scheme.isSpecial) cs).map (encode pathSet))

/-- Cuts off the fragment, and then the query. -/
def cutTail (cs : List Char) : List Char × Option (List Char) × Option (List Char) :=
  let (cs, fragment) := match Text.splitFirst '#' cs with
    | some (a, b) => (a, some b)
    | none => (cs, none)
  match Text.splitFirst '?' cs with
  | some (a, b) => (a, some b, fragment)
  | none => (cs, none, fragment)

/-- Puts the parts of a URL together. -/
def assemble (scheme : Scheme) (authority : Option Authority) (path : Location)
    (tail : Option (List Char) × Option (List Char)) : Url where
  scheme := scheme
  authority := authority
  path := path
  query := tail.1.map (encode (if scheme.isSpecial then specialQuerySet else querySet))
  fragment := tail.2.map (encode fragmentSet)

/-- The slash at the start of a path is left out. -/
def withoutSlash (special : Bool) : List Char → List Char
  | c :: cs => if isSlash special c then cs else c :: cs
  | [] => []

/-- Reads what follows the double slash. -/
def parseWithAuthority (scheme : Scheme) (cs : List Char)
    (tail : Option (List Char) × Option (List Char)) : Except ParseError Url := do
  let front := cs.takeWhile (!endsAuthority scheme.isSpecial ·)
  let rest := cs.drop front.length
  let more := !rest.isEmpty || tail.1.isSome || tail.2.isSome
  let (authority, left) ← readAuthority scheme more front
  let path :=
    if !left.isEmpty then readPath scheme (left ++ rest)
    else if rest.isEmpty && !scheme.isSpecial then []
    else readPath scheme (withoutSlash scheme.isSpecial rest)
  return assemble scheme (some authority) (.hierarchy path) tail

/-- The URL of a file. A path that starts with a drive is on no host. -/
def assembleFile (host : Host) (path : List Segment)
    (tail : Option (List Char) × Option (List Char)) : Url :=
  let host := if path.head?.any Path.isDrive then .domain [] else host
  assemble .file (some { host }) (.hierarchy (Path.dropEmpty path)) tail

/-- Reads what follows the colon of a file's URL. What may be a host may also be the drive that starts the
path. Without a host the path behind the double slash starts with an empty segment. -/
def parseFile (cs : List Char) (tail : Option (List Char) × Option (List Char)) :
    Except ParseError Url := do
  match cs with
  | a :: b :: rest =>
    if isSlash true a && isSlash true b then
      let front := rest.takeWhile (!isSlash true ·)
      let host ← if Path.isDrive front then pure (.domain []) else readFileHost front
      let path :=
        if front.isEmpty || Path.isDrive front then rest else withoutSlash true (rest.drop front.length)
      return assembleFile host (readPath .file path) tail
    else return assembleFile (.domain []) (readPath .file (withoutSlash true cs)) tail
  | cs => return assembleFile (.domain []) (readPath .file (withoutSlash true cs)) tail

/-- Reads an absolute URL. -/
def parse (text : List Char) : Except ParseError Url :=
  match readScheme? (cleaned text) with
  | none => .error .relative
  | some (scheme, cs) =>
    let (cs, tail) := cutTail cs
    if scheme = .file then parseFile cs tail
    else if scheme.isSpecial then parseWithAuthority scheme (cs.dropWhile (isSlash true)) tail
    else match cs with
      | '/' :: '/' :: cs => parseWithAuthority scheme cs tail
      | '/' :: cs => .ok (assemble scheme none (.hierarchy (readPath scheme cs)) tail)
      | cs => .ok (assemble scheme none (.plain (encode controlSet cs)) tail)

end TableIndex.Url
