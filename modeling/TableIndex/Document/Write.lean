import TableIndex.Gateway.Call

/-!
# Adding and removing documents

Every write is followed by a commit, so that what is staged is visible when the call returns. A write that
stays without commit may still become visible with the next one.
-/

namespace TableIndex

/-- Why documents cannot be written. -/
inductive DocumentError where
  | connect (cause : ConnectError)
  | submit (table : String) (cause : ClientError)
  | commit (table : String) (cause : ClientError)
deriving Repr, Inhabited

namespace DocumentError

/-- The text of the error. -/
def message : DocumentError → String
  | connect cause => cause.message
  | submit table cause => "Error in writing documents to table '" ++ table ++ "': " ++ cause.message
  | commit table cause =>
    "Documents were sent to table '" ++ table ++ "' but the commit failed: " ++ cause.message

/-- The error of the cluster's client behind it. -/
def clientError : DocumentError → ClientError
  | connect cause => cause.cause
  | submit _ cause => cause
  | commit _ cause => cause

/-- What was sent stays staged when the commit fails. -/
def effect : DocumentError → RemoteEffect
  | commit _ _ => .partially
  | _ => .none

/-- The code of what went wrong last. -/
def causeCode : DocumentError → ErrorCode
  | connect cause => cause.code
  | submit _ cause => cause.code
  | commit _ cause => cause.code

/-- The code of the error. -/
def code (e : DocumentError) : ErrorCode := e.effect.code e.causeCode

end DocumentError

namespace Document

variable {σ : Type}

/-- A write and the commit after it. -/
def writeAndCommit (g : Gateway σ) (table : String) (write : Call AdminResponse) :
    EStateM DocumentError σ Unit := do
  (g.change write).adaptExcept (DocumentError.submit table)
  (g.change (.commit table)).adaptExcept (DocumentError.commit table)

/-- Adds documents to a table; adding none does nothing. -/
def index (g : Gateway σ) (table : String) (docs : List Document) : EStateM DocumentError σ Unit :=
  if docs.isEmpty then return () else writeAndCommit g table (.addDocuments table docs)

/-- Removes the documents with the given identifiers; removing none does nothing. -/
def deleteIds (g : Gateway σ) (table : String) (ids : List String) : EStateM DocumentError σ Unit :=
  if ids.isEmpty then return () else writeAndCommit g table (.deleteByIds table ids)

/-- Removes the documents that a query selects; a blank query does nothing. -/
def deleteQuery (g : Gateway σ) (table query : String) : EStateM DocumentError σ Unit :=
  if Text.isBlank query then return () else writeAndCommit g table (.deleteByQuery table query)

end Document

end TableIndex
