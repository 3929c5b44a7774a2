import TableIndex.Url.Address
import TableIndex.Url.Path

/-!
# URLs

A URL with its parts, each in the form in which it is written. A URL without authority may have a path
that is no hierarchy; such a URL is no base for others.
-/

namespace TableIndex

namespace Url

/-- The scheme of a URL; all but `other` are special. -/
inductive Scheme where
  | http
  | https
  | ws
  | wss
  | ftp
  | file
  | other (name : List Char)
deriving DecidableEq, Repr, Inhabited

namespace Scheme

/-- The special schemes with their names. -/
def special : List (List Char × Scheme) :=
  [(['h', 't', 't', 'p'], http), (['h', 't', 't', 'p', 's'], https), (['w', 's'], ws),
    (['w', 's', 's'], wss), (['f', 't', 'p'], ftp), (['f', 'i', 'l', 'e'], file)]

/-- The scheme with a name in lower case. -/
def ofName (name : List Char) : Scheme := (special.lookup name).getD (other name)

/-- The name of a scheme. -/
def name : Scheme → List Char
  | http => ['h', 't', 't', 'p']
  | https => ['h', 't', 't', 'p', 's']
  | ws => ['w', 's']
  | wss => ['w', 's', 's']
  | ftp => ['f', 't', 'p']
  | file => ['f', 'i', 'l', 'e']
  | other name => name

/-- Whether a URL of the scheme always has an authority and a hierarchical path. -/
def isSpecial : Scheme → Bool
  | other _ => false
  | _ => true

/-- The port that is meant where none is written. -/
def defaultPort? : Scheme → Option Nat
  | http | ws => some 80
  | https | wss => some 443
  | ftp => some 21
  | file | other _ => none

end Scheme

/-- The machine that a URL names; the empty domain is none. -/
inductive Host where
  | domain (name : List Char)
  | ipv4 (address : Nat)
  | ipv6 (pieces : List Nat)
deriving DecidableEq, Repr, Inhabited

/-- A host as text. -/
def Host.text : Host → List Char
  | domain name => name
  | ipv4 address => Address.ipv4Text address
  | ipv6 pieces => '[' :: Address.ipv6Text pieces ++ [']']

/-- What stands between the double slash and the path; an empty name or password is none. -/
structure Authority where
  user : List Char := []
  password : List Char := []
  host : Host
  port : Option Nat := none
deriving DecidableEq, Repr, Inhabited

/-- An authority as text. -/
def Authority.text (a : Authority) : List Char :=
  a.user ++ (if a.password.isEmpty then [] else ':' :: a.password)
    ++ (if a.user.isEmpty && a.password.isEmpty then [] else ['@'])
    ++ a.host.text
    ++ (match a.port with
      | some port => ':' :: Nat.toDigits 10 port
      | none => [])

/-- The path of a URL. -/
inductive Location where
  | hierarchy (segments : List Segment)
  | plain (text : List Char)
deriving DecidableEq, Repr, Inhabited

/-- A path as text. -/
def Location.text : Location → List Char
  | hierarchy segments => Path.text segments
  | plain text => text

end Url

/-- A URL. -/
structure Url where
  scheme : Url.Scheme
  authority : Option Url.Authority := none
  path : Url.Location
  query : Option (List Char) := none
  fragment : Option (List Char) := none
deriving DecidableEq, Repr, Inhabited

namespace Url

/-- An authority behind its double slash. Without one, a path that starts with an empty segment has a
dot in front of it, so that its slashes are not taken for the double slash. -/
def authorityText (u : Url) : List Char :=
  match u.authority, u.path with
  | some a, _ => '/' :: '/' :: a.text
  | none, .hierarchy ([] :: _ :: _) => ['/', '.']
  | none, _ => []

/-- A part of a URL behind its mark. -/
def optionalText (mark : Char) : Option (List Char) → List Char
  | some part => mark :: part
  | none => []

/-- The text of a URL up to its fragment. -/
def textWithoutFragment (u : Url) : List Char :=
  u.scheme.name ++ ':' :: u.authorityText ++ u.path.text ++ optionalText '?' u.query

/-- The text of a URL. -/
def text (u : Url) : List Char := u.textWithoutFragment ++ optionalText '#' u.fragment

instance : ToString Url := ⟨fun u => String.ofList u.text⟩

/-- Whether relative paths can be resolved at the URL. -/
def isBase (u : Url) : Bool :=
  match u.path with
  | .hierarchy _ => true
  | .plain _ => false

/-- What a request names of a URL: its path and its query. -/
def target (u : Url) : List Char := u.path.text ++ optionalText '?' u.query

/-- The URL with names and values at the end of its query. -/
def withQueryPairs (u : Url) (pairs : List (String × String)) : Url :=
  if pairs.isEmpty then u
  else
    let added := formQuery pairs
    { u with
      query := some (match u.query with
        | some (c :: cs) => c :: cs ++ '&' :: added
        | _ => added) }

end Url

end TableIndex
