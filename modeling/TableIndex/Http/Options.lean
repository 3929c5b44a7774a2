import TableIndex.Gateway.Error
import TableIndex.Url.Parser

/-!
# Where a cluster is, and how to be let in

The endpoint of a cluster is the URL under which all its interfaces lie. A cluster may ask for a bearer
token, which every request then carries.
-/

namespace TableIndex.Http

/-- What a client needs to know. -/
structure Options where
  endpoint : Url
  token : Option String := none
  timeoutMs : Nat := 30000
deriving Repr, Inhabited

namespace Options

/-- The endpoint of a cluster on the same machine. -/
def localEndpoint : Url where
  scheme := .http
  authority := some { host := .domain ['l', 'o', 'c', 'a', 'l', 'h', 'o', 's', 't'], port := some 8983 }
  path := .hierarchy [['s', 'o', 'l', 'r'], []]

/-- A cluster on the same machine. -/
def default : Options := { endpoint := localEndpoint }

/-- The text without outer blanks, and with a slash at its end. -/
def withSlash (text : String) : String :=
  let cs := Text.trimBy Text.isSpace text.toList
  String.ofList (if cs.getLast? = some '/' then cs else cs ++ ['/'])

/-- The options for an endpoint. For relative paths to resolve below it, a slash is added where there is none at
the end of the text, and a URL that is no base is refused. -/
def ofEndpoint (text : String) : Except ClientError Options :=
  let text := withSlash text
  match Url.parse text.toList with
  | .error e => .error (.invalidUrl (text ++ ": " ++ e.message))
  | .ok endpoint =>
    if endpoint.isBase then .ok { endpoint } else .error (.invalidUrl (toString endpoint))

/-- Whether a character may stand in a header: a tab, or anything but control characters. -/
def isHeaderChar (c : Char) : Bool := c == '\t' || (0x20 ≤ c.toNat && c.toNat != 0x7F)

/-- The options with a bearer token. -/
def withToken (o : Options) (token : String) : Except ClientError Options :=
  if token.toList.all isHeaderChar then .ok { o with token := some token } else .error .invalidHeader

/-- The name of the header that lets a client in. -/
def authorizationHeader : String := "authorization"

/-- The value of that header. -/
def authorization? (o : Options) : Option String := o.token.map ("Bearer " ++ ·)

end Options

end TableIndex.Http
