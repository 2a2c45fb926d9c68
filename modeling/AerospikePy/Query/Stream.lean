import AerospikePy.Errors.Mapping
import AerospikePy.Lib.Feeding
import AerospikePy.Policies.Parse
import AerospikePy.Query.Builder

/-!
# Executing a query

`results` collects every record of the stream and then converts them; `foreach` converts
each record as it arrives and hands it to a callback, which may end the stream. Both
report to the metrics.
-/

namespace AerospikePy.Query

open AerospikePy.Batch
open AerospikePy.Core
open AerospikePy.Errors
open AerospikePy.Lib
open AerospikePy.Lib.Fallible
open AerospikePy.Lib.Feeding
open AerospikePy.Policies
open AerospikePy.Python
open AerospikePy.Values

/-- What awaiting the next element of the stream comes to. -/
inductive Item where
  | record (record : Record)
  | failed (e : AsError)
  | panics (msg : String)

/-- What awaiting `client.query` comes to. -/
inductive Started where
  | stream (items : List Item)
  | failed (e : AsError)
  | panics (msg : String)

/-- What lies outside the source: the filters of the core, and the answers to a query. -/
structure Server (F : Type) where
  filters : FilterCrate F
  query : QueryPolicy → PartitionFilter → Statement F → Started

/-- `PyResult<Result<T, AsError>>`. -/
abbrev Outcome (T : Type) := Except PyErr (Except AsError T)

inductive Raised where
  | python (e : PyErr)
  | core (e : AerospikeException)
  | panic

/-- What an execution returns or raises, and the error type of the finished timer. -/
structure Report (T : Type) where
  result : Except Raised T
  timer : Option String

/-- `payload_to_pyerr`, for the operation that `execute_query` names. -/
def payloadToPyerr (msg : String) : PyErr := ⟨.rustPanicError, s!"Rust panic in `Query.query`: {msg}"⟩

section Execution

variable (texts : ErrorTexts) (crates : PolicyCrates) (rt : Runtime) {F : Type} (server : Server F)

def finishTimer {T : Type} : Outcome T → Option String
  | .ok (.ok _) => some ""
  | .ok (.error e) => some (errorTypeFromAerospikeError texts e)
  | .error _ => none

/-- `outcome?.map_err(as_to_pyerr)`. -/
def propagate {T : Type} : Outcome T → Except Raised T
  | .ok (.ok a) => .ok a
  | .ok (.error e) => .error (.core (asToPyerr texts e).1)
  | .error e => .error (.python e)

/-- Building the statement, parsing the policy and sending the query. -/
def PyQuery.start (q : PyQuery) (policy : Option Entries) : Except Raised Started :=
  match q.statement server.filters with
  | .panicked => .error .panic
  | .raised e => .error (.python e)
  | .statement stmt => match parseQueryPolicy crates rt policy with
    | .error e => .error (.python e)
    | .ok (queryPolicy, partitionFilter) => .ok (server.query queryPolicy partitionFilter stmt)

/-- `results.push(result?)` until the stream ends. -/
def collectRecords (results : List Record) : List Item → Outcome (List Record)
  | [] => .ok (.ok results)
  | .record record :: items => collectRecords (results ++ [record]) items
  | .failed e :: _ => .ok (.error e)
  | .panics msg :: _ => .error (payloadToPyerr msg)

def executeQueryCollect : Started → Outcome (List Record)
  | .stream items => collectRecords [] items
  | .failed e => .ok (.error e)
  | .panics msg => .error (payloadToPyerr msg)

/-- `record_to_py` of the records in order. `clocks i` is the clock when record `i` is
converted, which its remaining lifetime depends on. -/
def convertAll (clocks : Nat → Clock) (records : List Record) : Except PyErr (List PyObj) :=
  records.zipIdx.mapM fun r => recordToPy rt (clocks r.2) r.1 none

def PyQuery.results (q : PyQuery) (policy : Option Entries) (clocks : Nat → Clock) :
    Report (List PyObj) :=
  match q.start crates rt server policy with
  | .error raised => ⟨.error raised, none⟩
  | .ok started =>
    let outcome := executeQueryCollect started
    let result := match propagate texts outcome with
      | .error raised => .error raised
      | .ok records => match convertAll rt clocks records with
        | .error e => .error (.python e)
        | .ok list => .ok list
    ⟨result, finishTimer texts outcome⟩

variable {S : Type}

end Execution

section Loops

variable {rt : Runtime} {S : Type}

/-- A query that does not start is a stream that fails at once. -/
def Started.items : Started → List Item
  | .stream items => items
  | .failed e => [.failed e]
  | .panics msg => [.panics msg]

/-- The outcome of a stream that nothing has ended is that of an exhausted one. -/
def ended : Option (Outcome Unit) × S → Outcome Unit × S
  | (some outcome, t) => (outcome, t)
  | (none, t) => (.ok (.ok ()), t)

end Loops

section Collecting

variable {rt : Runtime}

end Collecting

section Executions

variable (texts : ErrorTexts) (crates : PolicyCrates) (rt : Runtime) {F : Type} (server : Server F)
  {S : Type}

/-- What `foreach` answers for an outcome of its loop. -/
def reported : Outcome Unit × S → Report Unit × S
  | (outcome, t) => (⟨propagate texts outcome, finishTimer texts outcome⟩, t)

end Executions

end AerospikePy.Query
