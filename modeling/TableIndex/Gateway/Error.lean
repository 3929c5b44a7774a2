import TableIndex.ErrorCode
import TableIndex.Json.Printer

/-!
# Errors of the cluster's clients

What can go wrong in one call to a cluster, and in connecting to it.
-/

namespace TableIndex

/-- Why a call to the cluster has no result. -/
inductive ClientError where
  /-- The request or its answer was lost. -/
  | request (detail : String)
  /-- The cluster reported a failure. -/
  | api (status : Int) (errors : Json)
  /-- The answer is not JSON. -/
  | malformedBody (detail : String)
  /-- The answer lacks what was asked for. -/
  | unexpectedResponse (detail : String)
  | invalidUrl (detail : String)
  | invalidHeader
  /-- The client was closed before. -/
  | closed
deriving Repr, Inhabited

namespace ClientError

/-- The text of the error. -/
def message : ClientError → String
  | request detail => "Request error: " ++ detail
  | api status errors =>
    "Solr returned status " ++ String.ofList (Json.intText status) ++ ", errors: " ++ errors.compact
  | malformedBody detail => "Serialization/Deserialization error: " ++ detail
  | unexpectedResponse detail => "Unexpected response: " ++ detail
  | invalidUrl detail => "Invalid Solr URL: " ++ detail
  | invalidHeader => "Invalid header value: failed to parse header value"
  | closed => "The Solr client has been closed"

/-- The status that the cluster reported. -/
def status? : ClientError → Option Int
  | api status _ => some status
  | _ => none

/-- The code of a reported status. A status that is none, that means success or that has no code of its
own is an internal error. -/
def codeOfStatus (status : Int) : ErrorCode :=
  if ErrorCode.isHttpStatus status then
    match ErrorCode.ofHttpStatus status.toNat with
    | .success => .internal
    | .unknown => .internal
    | c => c
  else .internal

/-- The code of the error. -/
def code : ClientError → ErrorCode
  | request _ => .unavailable
  | api status _ => codeOfStatus status
  | malformedBody _ => .internal
  | unexpectedResponse _ => .internal
  | invalidUrl _ => .invalidArgument
  | invalidHeader => .invalidArgument
  | closed => .failedPrecondition

end ClientError

/-- Why there is no client for the cluster. -/
structure ConnectError where
  cause : ClientError
deriving Repr, Inhabited

namespace ConnectError

/-- The text of the error. -/
def message (e : ConnectError) : String := "Failed to connect to Solr: " ++ e.cause.message

/-- An argument that is wrong stays wrong; any other cause means that the cluster is unavailable. -/
def code (e : ConnectError) : ErrorCode :=
  match e.cause.code with
  | .invalidArgument => .invalidArgument
  | _ => .unavailable

end ConnectError

end TableIndex
