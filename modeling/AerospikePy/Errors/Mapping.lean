import AerospikePy.Batch.Records
import Mathlib.Logic.Relation

/-!
# Errors of the core and exceptions of Python

`errors.rs`: the exception classes with their bases, and `as_to_pyerr`, which chooses a
class for an error of the core and attaches its `result_code`. `metrics.rs` sorts the same
errors by a label of its own.
-/

namespace AerospikePy.Errors

open AerospikePy.Batch
open AerospikePy.Core

inductive ExcClass where
  | aerospikeError | clientError | serverError | recordError | clusterError
  | aerospikeTimeoutError | invalidArgError | backpressureError | rustPanicError
  | recordNotFound | recordExistsError | recordGenerationError | recordTooBig | binNameError
  | binExistsError | binNotFound | binTypeError | filteredOut
  | aerospikeIndexError | indexNotFound | indexFoundError
  | queryError | queryAbortedError | adminError | udfError
  deriving DecidableEq

/-- The base that `create_exception!` names; that of `AerospikeError` is a builtin. -/
def ExcClass.base : ExcClass → Option ExcClass
  | .aerospikeError => none
  | .clientError | .serverError | .recordError | .clusterError | .aerospikeTimeoutError
  | .invalidArgError => some .aerospikeError
  | .backpressureError | .rustPanicError => some .clientError
  | .recordNotFound | .recordExistsError | .recordGenerationError | .recordTooBig
  | .binNameError | .binExistsError | .binNotFound | .binTypeError | .filteredOut =>
    some .recordError
  | .aerospikeIndexError | .queryError | .adminError | .udfError => some .serverError
  | .indexNotFound | .indexFoundError => some .aerospikeIndexError
  | .queryAbortedError => some .queryError

/-- `issubclass(d, c)`: an `except c` clause catches an exception of class `d`. -/
def Catches (c : ExcClass) : ExcClass → Prop :=
  fun d => Relation.ReflTransGen (fun x y => x.base = some y) d c

/-- `aerospike_core::Error`, with the variants that the source names. -/
inductive AsError where
  | connection (msg : String)
  | timeout (msg : String)
  | invalidArgument (msg : String)
  | serverError (rc : ResultCode) (inDoubt : Bool) (node : String)
  | batchError (index : UInt32) (rc : ResultCode) (inDoubt : Bool) (msg : String)
  | batchLastError (index : UInt32) (rc : ResultCode) (inDoubt : Bool) (msg : String)
  | invalidNode (msg : String)
  | noMoreConnections
  | maxErrorRate (addr : String)
  | other (text : String)
  deriving DecidableEq

/-- What lies outside the source: how the core prints an error, and the name of a code. -/
structure ErrorTexts where
  display : AsError → String
  debug : ResultCode → String

/-- An exception with the `result_code` attached to it. -/
structure AerospikeException where
  cls : ExcClass
  message : String
  resultCode : Int
  deriving DecidableEq

def clientSideResultCode : Int := -1

def resultCodeToPyerr (rc : ResultCode) (msg : String) : AerospikeException :=
  ⟨cls, msg, resultCodeToInt rc⟩
where
  cls : ExcClass := match rc with
    | .keyNotFoundError => .recordNotFound
    | .keyExistsError => .recordExistsError
    | .generationError => .recordGenerationError
    | .recordTooBig => .recordTooBig
    | .binNameTooLong => .binNameError
    | .binExistsError => .binExistsError
    | .binNotFound => .binNotFound
    | .binTypeError => .binTypeError
    | .filteredOut => .filteredOut
    | .elementNotFound | .elementExists => .recordError
    | .timeout | .queryTimeout => .aerospikeTimeoutError
    | .indexFound => .indexFoundError
    | .indexNotFound => .indexNotFound
    | .queryAborted | .scanAbort => .queryAbortedError
    | .udfBadResponse => .udfError
    | .invalidUser | .notAuthenticated | .roleViolation | .securityNotSupported
    | .securityNotEnabled | .securitySchemeNotSupported | .invalidCommand | .invalidField
    | .illegalState | .userAlreadyExists | .invalidPassword | .expiredPassword
    | .forbiddenPassword | .invalidCredential | .expiredSession | .invalidRole
    | .roleAlreadyExists | .invalidPrivilege | .invalidAllowlist | .quotasNotEnabled
    | .invalidQuota | .notAllowlisted | .quotaExceeded => .adminError
    | _ => .serverError

/-- What `bug_report::log_unexpected_error` is given. -/
structure BugReport where
  context : String
  errorMsg : String
  deriving DecidableEq

def doubtSuffix (inDoubt : Bool) : String := if inDoubt then " [in_doubt]" else ""

variable (texts : ErrorTexts)

/-- The exception, and the bug report that is logged on the way. -/
def asToPyerr (err : AsError) : AerospikeException × Option BugReport :=
  match err with
  | .connection msg => clientSide .clusterError s!"Connection error: {msg}"
  | .timeout msg => clientSide .aerospikeTimeoutError s!"Timeout: {msg}"
  | .invalidArgument msg => clientSide .invalidArgError s!"Invalid argument: {msg}"
  | .serverError rc inDoubt _ =>
    (resultCodeToPyerr rc
      s!"AEROSPIKE_ERR ({resultCodeToInt rc}): {texts.display err}{doubtSuffix inDoubt}", none)
  | .batchError index rc inDoubt _ | .batchLastError index rc inDoubt _ =>
    (resultCodeToPyerr rc (s!"AEROSPIKE_ERR ({resultCodeToInt rc}) [batch_index={index}]: "
      ++ s!"{texts.display err}{doubtSuffix inDoubt}"), none)
  | .invalidNode msg => clientSide .clusterError s!"Invalid node: {msg}"
  | .noMoreConnections => clientSide .clusterError "No more connections available"
  | .maxErrorRate addr => clientSide .clusterError
      s!"Node circuit breaker tripped (max_error_rate exceeded) for node {addr}"
  | .other _ =>
    (⟨.clientError, texts.display err, clientSideResultCode⟩,
      some ⟨"errors::as_to_pyerr",
        s!"Unmapped aerospike_core::Error variant: {texts.display err}"⟩)
where
  clientSide (cls : ExcClass) (message : String) : AerospikeException × Option BugReport :=
    (⟨cls, message, clientSideResultCode⟩, none)

/-- `error_type_from_aerospike_error`, the `error_type` label of a metric. -/
def errorTypeFromAerospikeError : AsError → String
  | .connection _ => "Connection"
  | .timeout _ => "Timeout"
  | .invalidArgument _ => "InvalidArgument"
  | .serverError rc _ _ => match rc with
    | .keyNotFoundError => "KeyNotFoundError"
    | .keyExistsError => "KeyExistsError"
    | .generationError => "GenerationError"
    | .recordTooBig => "RecordTooBig"
    | .binTypeError => "BinTypeError"
    | .binNotFound => "BinNotFound"
    | .filteredOut => "FilteredOut"
    | .timeout => "Timeout"
    | _ => texts.debug rc
  | .invalidNode _ => "InvalidNode"
  | .noMoreConnections => "NoMoreConnections"
  | .maxErrorRate _ => "MaxErrorRate"
  | _ => "Unknown"

namespace AsError

/-- The code in the server's answer, of the errors that carry one. -/
def serverCode : AsError → Option ResultCode
  | serverError rc _ _ => some rc
  | batchError _ rc _ _ => some rc
  | batchLastError _ rc _ _ => some rc
  | _ => none

end AsError

/-- The wire codes that each class stands for; every other code is a `ServerError`. -/
def classTable : List (ExcClass × List Int) :=
  [(.recordNotFound, [2]), (.recordGenerationError, [3]), (.recordExistsError, [5]),
    (.binExistsError, [6]), (.binTypeError, [12]), (.recordTooBig, [13]), (.binNotFound, [17]),
    (.binNameError, [21]), (.recordError, [23, 24]), (.filteredOut, [27]),
    (.aerospikeTimeoutError, [9, 212]), (.queryAbortedError, [15, 210]),
    (.adminError, [51, 52, 53, 54, 55, 56, 60, 61, 62, 63, 64, 65, 66, 70, 71, 72, 73, 74, 75,
      80, 81, 82, 83]),
    (.udfError, [100]), (.indexFoundError, [200]), (.indexNotFound, [201])]

def classOfWire (n : Int) : ExcClass :=
  ((classTable.find? fun row => decide (n ∈ row.2)).map (·.1)).getD .serverError

/-- The codes of the table by their names, row by row. -/
def tableCodes : List ResultCode :=
  [.keyNotFoundError, .generationError, .keyExistsError, .binExistsError, .binTypeError,
    .recordTooBig, .binNotFound, .binNameTooLong, .elementNotFound, .elementExists, .filteredOut,
    .timeout, .queryTimeout, .scanAbort, .queryAborted, .securityNotSupported,
    .securityNotEnabled, .securitySchemeNotSupported, .invalidCommand, .invalidField,
    .illegalState, .invalidUser, .userAlreadyExists, .invalidPassword, .expiredPassword,
    .forbiddenPassword, .invalidCredential, .expiredSession, .invalidRole, .roleAlreadyExists,
    .invalidPrivilege, .invalidAllowlist, .quotasNotEnabled, .invalidQuota, .notAuthenticated,
    .roleViolation, .notAllowlisted, .quotaExceeded, .udfBadResponse, .indexFound,
    .indexNotFound]

theorem flatMap_classTable :
    classTable.flatMap (·.2) = tableCodes.map resultCodeToInt := rfl

theorem exists_named {n : Int} (h : n ∈ classTable.flatMap (·.2)) :
    ∃ rc, (∀ code, rc ≠ .unknown code) ∧ resultCodeToInt rc = n := by
  rw [flatMap_classTable] at h
  obtain ⟨rc, hrc, rfl⟩ := List.mem_map.mp h
  refine ⟨rc, fun code heq => ?_, rfl⟩
  subst heq
  simp [tableCodes] at hrc

theorem classOfWire_of_not_listed {n : Int} (h : n ∉ classTable.flatMap (·.2)) :
    classOfWire n = .serverError := by
  have hnone : (classTable.find? fun row => decide (n ∈ row.2)) = none := by
    refine List.find?_eq_none.mpr fun row hrow => ?_
    rw [decide_eq_true_eq]
    exact fun hn => h (List.mem_flatMap.mpr ⟨row, hrow, hn⟩)
  rw [classOfWire, hnone]
  rfl

theorem cls_eq_classOfWire {rc : ResultCode} (hwire : FromWire rc) :
    resultCodeToPyerr.cls rc = classOfWire (resultCodeToInt rc) := by
  cases rc with
  | unknown code =>
    refine (classOfWire_of_not_listed fun hmem => ?_).symm
    obtain ⟨listed, hlisted, hsame⟩ := exists_named hmem
    exact hwire code rfl listed hlisted hsame
  | _ => rfl

/-- The rows of the table have no code in common. -/
theorem classTable_disjoint : ∀ row ∈ classTable, ∀ row' ∈ classTable, ∀ n ∈ row.2,
    n ∈ row'.2 → row.1 = row'.1 := by
  decide

theorem classOfWire_of_row {row : ExcClass × List Int} (hrow : row ∈ classTable) {n : Int}
    (hn : n ∈ row.2) : classOfWire n = row.1 := by
  have hsome : (classTable.find? fun row => decide (n ∈ row.2)).isSome = true := by
    rw [List.find?_isSome]
    exact ⟨row, hrow, decide_eq_true hn⟩
  obtain ⟨found, hfound⟩ := Option.isSome_iff_exists.mp hsome
  have hmem := List.mem_of_find?_eq_some hfound
  have hcode : n ∈ found.2 := by simpa using List.find?_some hfound
  rw [classOfWire, hfound]
  exact classTable_disjoint found hmem row hrow n hcode hn

/-- A class and the classes above it. -/
def mro : Nat → ExcClass → List ExcClass
  | 0, d => [d]
  | n + 1, d => d :: (d.base.map (mro n)).getD []

theorem catches_of_mem_mro {c : ExcClass} {n : Nat} {d : ExcClass} (h : c ∈ mro n d) :
    Catches c d := by
  induction n generalizing d with
  | zero =>
    obtain rfl := List.mem_singleton.mp h
    exact .refl
  | succ n ih =>
    rcases List.mem_cons.mp h with rfl | h
    · exact .refl
    · cases hbase : d.base with
      | none => simp [hbase] at h
      | some b =>
        rw [hbase] at h
        exact .head hbase (ih h)

theorem base_mem_mro {c d x : ExcClass} {n : Nat} (h : c ∈ mro n d) (hx : c.base = some x) :
    x ∈ mro (n + 1) d := by
  induction n generalizing d with
  | zero =>
    obtain rfl := List.mem_singleton.mp h
    simp [mro, hx]
  | succ n ih =>
    rcases List.mem_cons.mp h with rfl | h
    · simp [mro, hx]
    · cases hbase : d.base with
      | none => simp [hbase] at h
      | some b =>
        rw [hbase] at h
        have hmem : x ∈ mro (n + 1) b := ih h
        rw [mro, hbase]
        exact List.mem_cons_of_mem d hmem

/-- No class is more than three bases below `AerospikeError`. -/
theorem mro_full (d : ExcClass) : mro 4 d = mro 3 d := by
  cases d <;> rfl

theorem catches_iff {c d : ExcClass} : Catches c d ↔ c ∈ mro 3 d := by
  refine ⟨fun h => ?_, catches_of_mem_mro⟩
  induction h with
  | refl => simp [mro]
  | tail _ hbase ih =>
    rw [← mro_full]
    exact base_mem_mro ih hbase

instance (c d : ExcClass) : Decidable (Catches c d) := decidable_of_iff _ catches_iff.symm

theorem classOfWire_cases (n : Int) :
    (classOfWire n = .serverError ∧ n ∉ classTable.flatMap (·.2)) ∨
      ∃ row ∈ classTable, n ∈ row.2 ∧ classOfWire n = row.1 := by
  by_cases h : n ∈ classTable.flatMap (·.2)
  · obtain ⟨row, hrow, hn⟩ := List.mem_flatMap.mp h
    exact .inr ⟨row, hrow, hn, classOfWire_of_row hrow hn⟩
  · exact .inl ⟨classOfWire_of_not_listed h, h⟩

theorem catches_serverError {c : ExcClass} (h : Catches c .serverError) :
    c = .serverError ∨ c = .aerospikeError := by
  rw [catches_iff] at h
  simpa [mro, ExcClass.base] using h

theorem catches_classOfWire {n : Int} {c : ExcClass} (hserver : c ≠ .serverError)
    (hbase : c ≠ .aerospikeError) :
    Catches c (classOfWire n) ↔ ∃ row ∈ classTable, Catches c row.1 ∧ n ∈ row.2 := by
  constructor
  · intro h
    rcases classOfWire_cases n with ⟨hcls, -⟩ | ⟨row, hrow, hn, hcls⟩
    · rw [hcls] at h
      exact absurd (catches_serverError h) (not_or.mpr ⟨hserver, hbase⟩)
    · rw [hcls] at h
      exact ⟨row, hrow, h, hn⟩
  · intro h
    obtain ⟨row, hrow, hcatch, hn⟩ := h
    rwa [classOfWire_of_row hrow hn]

/-- The classes that share out the answers of the server among themselves. -/
def answerClasses : List ExcClass := [.serverError, .recordError, .aerospikeTimeoutError]

theorem answerClass_unique (n : Int) :
    ∃! c, c ∈ answerClasses ∧ Catches c (classOfWire n) := by
  have hall : ∀ d ∈ .serverError :: classTable.map (·.1),
      ∃ c ∈ answerClasses, Catches c d ∧ ∀ c' ∈ answerClasses, Catches c' d → c' = c := by decide
  have hmem : classOfWire n ∈ .serverError :: classTable.map (·.1) := by
    rcases classOfWire_cases n with ⟨hcls, -⟩ | ⟨row, hrow, -, hcls⟩
    · rw [hcls]
      exact List.mem_cons_self
    · rw [hcls]
      exact List.mem_cons_of_mem _ (List.mem_map.mpr ⟨row, hrow, rfl⟩)
  obtain ⟨c, hc, hcatch, hunique⟩ := hall _ hmem
  exact ⟨c, ⟨hc, hcatch⟩, fun c' h => hunique c' h.1 h.2⟩

theorem resultCodeToInt_nonneg (rc : ResultCode) : 0 ≤ resultCodeToInt rc := by
  cases rc with
  | unknown code => exact Int.natCast_nonneg _
  | _ => decide

theorem asToPyerr_of_code {e : AsError} {rc : ResultCode} (h : e.serverCode = some rc) :
    (asToPyerr texts e).1.cls = resultCodeToPyerr.cls rc ∧
      (asToPyerr texts e).1.resultCode = resultCodeToInt rc ∧ (asToPyerr texts e).2 = none := by
  cases e <;> simp only [AsError.serverCode, Option.some.injEq, reduceCtorEq] at h
  all_goals
    subst h
    exact ⟨rfl, rfl, rfl⟩

theorem asToPyerr_of_none {e : AsError} (h : e.serverCode = none) :
    (asToPyerr texts e).1.resultCode = clientSideResultCode := by
  cases e <;> simp only [AsError.serverCode, reduceCtorEq] at h
  all_goals rfl

theorem reported_iff {e : AsError} :
    (asToPyerr texts e).2.isSome = true ↔ ∃ text, e = .other text := by
  cases e <;> simp [asToPyerr, asToPyerr.clientSide]

/-- The class of an error that is no answer of the server, by its kind. -/
inductive OfKind : AsError → ExcClass → Prop where
  | connection (msg : String) : OfKind (.connection msg) .clusterError
  | invalidNode (msg : String) : OfKind (.invalidNode msg) .clusterError
  | noMoreConnections : OfKind .noMoreConnections .clusterError
  | maxErrorRate (addr : String) : OfKind (.maxErrorRate addr) .clusterError
  | timeout (msg : String) : OfKind (.timeout msg) .aerospikeTimeoutError
  | invalidArgument (msg : String) : OfKind (.invalidArgument msg) .invalidArgError
  | other (text : String) : OfKind (.other text) .clientError

theorem ofKind_iff {e : AsError} {d : ExcClass} (h : e.serverCode = none) :
    OfKind e d ↔ d = (asToPyerr texts e).1.cls := by
  constructor
  · intro hkind
    cases hkind <;> rfl
  · intro hd
    subst hd
    cases e with
    | serverError | batchError | batchLastError => cases h
    | connection msg => exact .connection msg
    | timeout msg => exact .timeout msg
    | invalidArgument msg => exact .invalidArgument msg
    | invalidNode msg => exact .invalidNode msg
    | noMoreConnections => exact .noMoreConnections
    | maxErrorRate addr => exact .maxErrorRate addr
    | other text => exact .other text

/-- What the exception of an error says about it. -/
structure Classified (e : AsError) (exc : AerospikeException) : Prop where
  aerospikeError : Catches .aerospikeError exc.cls
  clientSide : exc.resultCode = -1 ↔ e.serverCode = none
  ofKind : e.serverCode = none → ∀ d, OfKind e d ↔ d = exc.cls
  code : ∀ rc, e.serverCode = some rc → exc.resultCode = resultCodeToInt rc
  caught : ∀ rc, e.serverCode = some rc → ∀ c, c ≠ .serverError → c ≠ .aerospikeError →
    (Catches c exc.cls ↔ ∃ row ∈ classTable, Catches c row.1 ∧ exc.resultCode ∈ row.2)
  apart : ∀ rc, e.serverCode = some rc → ∃! c, c ∈ answerClasses ∧ Catches c exc.cls

theorem catches_base (d : ExcClass) : Catches .aerospikeError d := by
  cases d <;> decide

theorem classified (e : AsError) (hwire : ∀ rc, e.serverCode = some rc → FromWire rc) :
    Classified e (asToPyerr texts e).1 := by
  cases hcode : e.serverCode with
  | none =>
    have hresult := asToPyerr_of_none texts hcode
    exact ⟨catches_base _, iff_of_true hresult hcode, fun h d => ofKind_iff texts h,
      by simp [hcode], by simp [hcode], by simp [hcode]⟩
  | some rc =>
    obtain ⟨hcls, hresult, -⟩ := asToPyerr_of_code texts hcode
    have hwirecls : (asToPyerr texts e).1.cls = classOfWire (asToPyerr texts e).1.resultCode := by
      rw [hcls, hresult]
      exact cls_eq_classOfWire (hwire rc hcode)
    have hnonneg := resultCodeToInt_nonneg rc
    refine ⟨catches_base _, iff_of_false (by omega) (by simp [hcode]), by simp [hcode],
      fun rc' h => ?_, fun _ _ c hserver hbase => ?_, fun _ _ => ?_⟩
    · obtain rfl : rc = rc' := Option.some.inj (hcode.symm.trans h)
      exact hresult
    · rw [hwirecls]
      exact catches_classOfWire hserver hbase
    · rw [hwirecls]
      exact answerClass_unique _

/-- Whichever operation an error comes from, its code decides what catches it, and only
what has no mapping is reported as a bug. -/
theorem asToPyerr_classifies (e : AsError) (hwire : ∀ rc, e.serverCode = some rc → FromWire rc) :
    Classified e (asToPyerr texts e).1 ∧
      ((asToPyerr texts e).2.isSome = true ↔ ∃ text, e = .other text) ∧
      ∀ e' rc rc', e.serverCode = some rc → e'.serverCode = some rc' → FromWire rc' →
        resultCodeToInt rc = resultCodeToInt rc' →
        (asToPyerr texts e).1.cls = (asToPyerr texts e').1.cls := by
  refine ⟨classified texts e hwire, reported_iff texts, fun e' rc rc' h h' hwire' hsame => ?_⟩
  obtain ⟨hcls, -, -⟩ := asToPyerr_of_code texts h
  obtain ⟨hcls', -, -⟩ := asToPyerr_of_code texts h'
  rw [hcls, hcls', cls_eq_classOfWire (hwire rc h), cls_eq_classOfWire hwire', hsame]

theorem fromWire_timeout : FromWire .timeout := by
  intro code h
  cases h

/-- A timeout of the server in the middle of a batch. -/
theorem asToPyerr_classifies_batch_timeout :
    Classified (.batchError 3 .timeout true "BB9")
      (asToPyerr ⟨fun _ => "timeout", fun _ => "Timeout"⟩ (.batchError 3 .timeout true "BB9")).1 :=
  (asToPyerr_classifies ⟨fun _ => "timeout", fun _ => "Timeout"⟩ _ fun rc h => by
    obtain rfl : ResultCode.timeout = rc := Option.some.inj h
    exact fromWire_timeout).1

end AerospikePy.Errors
