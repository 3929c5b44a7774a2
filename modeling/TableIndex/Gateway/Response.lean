import TableIndex.Gateway.Error

/-!
# Responses of the cluster

The cluster answers a change with a status and, if it failed, with a description of what went wrong.
-/

namespace TableIndex

/-- The response to a change: its status and what came with it as errors. -/
structure AdminResponse where
  status : Int := 0
  errors : Option Json := none
deriving Repr, Inhabited

namespace AdminResponse

/-- A status of zero without errors. -/
def isSuccess (r : AdminResponse) : Bool := r.status == 0 && r.errors.isNone

/-- The error that a response without success stands for. -/
def toError (r : AdminResponse) : ClientError := .api r.status (r.errors.getD .null)

/-- The response itself if it is a success, and its error if it is not. -/
def toResult (r : AdminResponse) : Except ClientError AdminResponse :=
  if r.isSuccess then .ok r else .error r.toError

end AdminResponse

/-- The response to a change of a collection, which also says whether every node succeeded. -/
structure CollectionResponse where
  status : Int := 0
  success : Bool := true
  errors : Option Json := none
deriving Repr, Inhabited

namespace CollectionResponse

/-- Success on every node, with a status of zero and without errors. -/
def isSuccess (r : CollectionResponse) : Bool := r.success && r.status == 0 && r.errors.isNone

/-- The error that a response without success stands for. -/
def toError (r : CollectionResponse) : ClientError := .api r.status (r.errors.getD .null)

/-- The response itself if it is a success, and its error if it is not. -/
def toResult (r : CollectionResponse) : Except ClientError CollectionResponse :=
  if r.isSuccess then .ok r else .error r.toError

end CollectionResponse

end TableIndex
