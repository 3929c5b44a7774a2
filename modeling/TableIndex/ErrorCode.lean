/-!
# Error codes

The codes that every error of this library carries, their numbers and names, and the HTTP statuses they
correspond to.
-/

namespace TableIndex

/-- What kind of failure an error is. The numbers are those of the gRPC status codes. -/
inductive ErrorCode where
  | success
  | unknown
  | invalidArgument
  | deadlineExceeded
  | notFound
  | alreadyExists
  | permissionDenied
  | failedPrecondition
  | aborted
  | internal
  | unavailable
  | unauthenticated
deriving DecidableEq, Repr, Inhabited

namespace ErrorCode

/-- All codes, in the order of their numbers. -/
def all : List ErrorCode :=
  [success, unknown, invalidArgument, deadlineExceeded, notFound, alreadyExists, permissionDenied,
    failedPrecondition, aborted, internal, unavailable, unauthenticated]

/-- The number of a code. -/
def number : ErrorCode → Nat
  | success => 0
  | unknown => 2
  | invalidArgument => 3
  | deadlineExceeded => 4
  | notFound => 5
  | alreadyExists => 6
  | permissionDenied => 7
  | failedPrecondition => 9
  | aborted => 10
  | internal => 13
  | unavailable => 14
  | unauthenticated => 16

/-- The code with a number. -/
def ofNumber? (n : Int) : Option ErrorCode := all.find? fun c => (c.number : Int) == n

/-- The name under which an error with this code is reported. -/
def name : ErrorCode → String
  | invalidArgument => "InvalidArgumentError"
  | notFound => "NotFoundError"
  | internal => "InternalError"
  | unavailable => "UnavailableError"
  | aborted => "PartiallyAppliedError"
  | _ => "RecordIndexError"

/-- The HTTP status that reports a code. -/
def toHttpStatus : ErrorCode → Nat
  | success => 200
  | unknown => 500
  | invalidArgument => 400
  | deadlineExceeded => 504
  | notFound => 404
  | alreadyExists => 409
  | permissionDenied => 403
  | failedPrecondition => 412
  | aborted => 409
  | internal => 500
  | unavailable => 503
  | unauthenticated => 401

/-- The code that an HTTP status stands for. No status stands for `aborted`. -/
def ofHttpStatus (status : Nat) : ErrorCode :=
  match status with
  | 200 => success
  | 400 => invalidArgument
  | 401 => unauthenticated
  | 403 => permissionDenied
  | 404 => notFound
  | 409 => alreadyExists
  | 412 => failedPrecondition
  | 500 => internal
  | 503 => unavailable
  | 504 => deadlineExceeded
  | _ => unknown

/-- Whether a number can be an HTTP status. -/
def isHttpStatus (status : Int) : Bool := 100 ≤ status && status ≤ 999

theorem mem_all (c : ErrorCode) : c ∈ all := by cases c <;> decide

theorem ofNumber?_number (c : ErrorCode) : ofNumber? c.number = some c := by cases c <;> decide

theorem ofHttpStatus_ne_aborted (status : Nat) : ofHttpStatus status ≠ aborted := by
  unfold ofHttpStatus
  split <;> decide

end ErrorCode

/-! ## How far a failed operation got -/

/-- What a failed operation of several remote calls has left behind. -/
inductive RemoteEffect where
  /-- Nothing was changed. -/
  | none
  /-- Some steps may have been applied. -/
  | partially
deriving DecidableEq, Repr, Inhabited

namespace RemoteEffect

/-- Whether some steps may have been applied. -/
def isPartial : RemoteEffect → Bool
  | none => false
  | partially => true

/-- The code of an error: a partial effect takes precedence over the code of the cause. -/
def code (effect : RemoteEffect) (cause : ErrorCode) : ErrorCode :=
  if effect.isPartial then .aborted else cause

end RemoteEffect

end TableIndex
