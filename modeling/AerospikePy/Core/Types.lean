import Mathlib.Algebra.Order.Ring.Int

/-!
# Results, errors and batch records

The data that crosses the client: the wire result codes that `errors.rs` lists,
the Python exceptions it raises, and the record of a batch response. A batch
record is generic in its key and in the record it carries, so that the retry
loop, which looks at neither, is stated once.
-/

namespace AerospikePy.Core

/-- `aerospike_core::ResultCode`, as `result_code_to_int` enumerates it. -/
inductive ResultCode where
  | ok | serverError | keyNotFoundError | generationError | parameterError | keyExistsError
  | binExistsError | clusterKeyMismatch | serverMemError | timeout | alwaysForbidden
  | partitionUnavailable | binTypeError | recordTooBig | keyBusy | scanAbort
  | unsupportedFeature | binNotFound | deviceOverload | keyMismatch | invalidNamespace
  | binNameTooLong | failForbidden | elementNotFound | elementExists | enterpriseOnly
  | opNotApplicable | filteredOut | lostConflict | xdrKeyBusy | queryEnd
  | securityNotSupported | securityNotEnabled | securitySchemeNotSupported | invalidCommand
  | invalidField | illegalState | invalidUser | userAlreadyExists | invalidPassword
  | expiredPassword | forbiddenPassword | invalidCredential | expiredSession | invalidRole
  | roleAlreadyExists | invalidPrivilege | invalidAllowlist | quotasNotEnabled | invalidQuota
  | notAuthenticated | roleViolation | notAllowlisted | quotaExceeded | udfBadResponse
  | batchDisabled | batchMaxRequestsExceeded | batchQueuesFull | invalidGeojson | indexFound
  | indexNotFound | indexOom | indexNotReadable | indexGeneric | indexNameMaxLen
  | indexMaxCount | queryAborted | queryQueueFull | queryTimeout | queryGeneric
  | queryNetioErr | queryDuplicate
  | unknown (code : UInt8)
  deriving DecidableEq, Repr

/-- The exception classes of `errors.rs`, and the builtin ones the bindings raise. -/
inductive PyErrKind where
  | clientError | serverError | recordError | clusterError | timeoutError | invalidArgError
  | backpressureError | rustPanicError
  | valueError | typeError | overflowError | runtimeError | attributeError | keyError
  | unicodeEncodeError | indexError
  deriving DecidableEq, Repr

structure PyErr where
  kind : PyErrKind
  message : String
  deriving DecidableEq, Repr

/-- `aerospike_core::BatchRecord`: the answer to one entry of a batch. -/
structure BatchRecord (K R : Type) where
  key : K
  record : Option R
  resultCode : Option ResultCode
  inDoubt : Bool
  deriving DecidableEq, Repr

namespace BatchRecord

variable {K R : Type}

/-- The entry carries a code other than Ok; a missing code means Ok. -/
def failed (br : BatchRecord K R) : Bool :=
  match br.resultCode with
  | some rc => rc ≠ .ok
  | none => false

/-- A failure that rules out that the write was applied. -/
def definite (br : BatchRecord K R) : Bool := br.failed && !br.inDoubt

end BatchRecord

end AerospikePy.Core
