import AerospikePy.Errors.Mapping
import AerospikePy.Lib.Runs
import AerospikePy.Lib.Tally

/-!
# Instrumented operations

The macros `traced_op!` and `traced_exists_op!` around the operations of `client_ops.rs`, and
the timer and span of a query. Operations run side by side on the workers of the runtime,
while any thread may turn metrics and tracing on and off. Each macro reads the switch of
tracing when it is entered and the switch of the metrics when the work begins.
-/

namespace AerospikePy.Observability.Instrument

open AerospikePy.Errors
open AerospikePy.Lib.Runs
open AerospikePy.Lib.Tally

/-- The operations that are instrumented, and `execute_query`. -/
inductive Op where
  | put | get | select | exists | delete | touch | append | prepend | increment | removeBin
  | operate | operateOrdered
  | batchRead | batchOperate | batchRemove | batchApply
  | batchWrite | batchWriteRetry | batchWriteNumpy | batchWriteNumpyRetry
  | query
  deriving DecidableEq

/-- What the source passes as `$op`. -/
def Op.name : Op → String
  | .put => "put"
  | .get => "get"
  | .select => "select"
  | .exists => "exists"
  | .delete => "delete"
  | .touch => "touch"
  | .append => "append"
  | .prepend => "prepend"
  | .increment => "increment"
  | .removeBin => "remove_bin"
  | .operate => "operate"
  | .operateOrdered => "operate_ordered"
  | .batchRead => "batch_read"
  | .batchOperate => "batch_operate"
  | .batchRemove => "batch_remove"
  | .batchApply => "batch_apply"
  | .batchWrite => "batch_write"
  | .batchWriteRetry => "batch_write_retry"
  | .batchWriteNumpy => "batch_write_numpy"
  | .batchWriteNumpyRetry => "batch_write_numpy_retry"
  | .query => "query"

/-- The code around an operation. -/
inductive Form where
  | tracedOp
  | tracedExistsOp
  | executeQuery
  deriving DecidableEq

def Op.form : Op → Form
  | .exists => .tracedExistsOp
  | .query => .executeQuery
  | _ => .tracedOp

/-- The names that `op_to_upper` knows; any other is converted with a warning. -/
def upperNames : List (String × String) :=
  [("put", "PUT"), ("get", "GET"), ("select", "SELECT"), ("exists", "EXISTS"),
    ("delete", "DELETE"), ("remove", "REMOVE"), ("remove_bin", "REMOVE_BIN"),
    ("append", "APPEND"), ("prepend", "PREPEND"), ("increment", "INCREMENT"),
    ("touch", "TOUCH"), ("operate", "OPERATE"), ("operate_ordered", "OPERATE_ORDERED"),
    ("batch_read", "BATCH_READ"), ("batch_operate", "BATCH_OPERATE"),
    ("batch_remove", "BATCH_REMOVE"), ("batch_write", "BATCH_WRITE"),
    ("batch_write_retry", "BATCH_WRITE_RETRY"), ("batch_write_numpy", "BATCH_WRITE_NUMPY"),
    ("batch_write_numpy_retry", "BATCH_WRITE_NUMPY_RETRY"), ("query", "QUERY")]

def opToUpper (op : String) : String := (upperNames.lookup op).getD op.toUpper

structure ConnectionInfo where
  serverAddress : String
  serverPort : Int
  clusterName : String
  deriving DecidableEq

/-- An operation that is called: on what, and over which connection. -/
structure Call where
  op : Op
  ns : String
  set : String
  conn : ConnectionInfo
  deriving DecidableEq

structure OperationLabels where
  dbSystemName : String
  dbNamespace : String
  dbCollectionName : String
  dbOperationName : String
  errorType : String
  deriving DecidableEq

/-- The instant a timer was started at is left out. -/
structure OperationTimer where
  opName : String
  ns : String
  setName : String
  deriving DecidableEq

/-- The labels under which `finish` observes the duration. -/
def OperationTimer.finish (timer : OperationTimer) (errorType : String) : OperationLabels :=
  ⟨"aerospike", timer.ns, timer.setName, timer.opName, errorType⟩

def Call.timer (call : Call) : OperationTimer := ⟨call.op.name, call.ns, call.set⟩

inductive AttrValue where
  | str (s : String)
  | int (n : Int)
  deriving DecidableEq

structure Span where
  name : String
  attributes : List (String × AttrValue)
  /-- The description of `Status::error`. -/
  status : Option String
  deriving DecidableEq

def Call.startSpan (call : Call) : Span where
  name := s!"{opToUpper call.op.name} {call.ns}.{call.set}"
  attributes :=
    [("db.system.name", .str "aerospike"), ("db.namespace", .str call.ns),
      ("db.collection.name", .str call.set),
      ("db.operation.name", .str (opToUpper call.op.name)),
      ("server.address", .str call.conn.serverAddress), ("server.port", .int call.conn.serverPort),
      ("db.aerospike.cluster_name", .str call.conn.clusterName)]
  status := none

variable (texts : ErrorTexts)

def recordErrorOnSpan (span : Span) (err : AsError) : Span where
  name := span.name
  attributes := span.attributes ++
    ("error.type", .str (errorTypeFromAerospikeError texts err)) ::
      match err with
      | .serverError rc _ _ => [("db.response.status_code", .str (texts.debug rc))]
      | _ => []
  status := some (texts.display err)

/-- The error that metrics and span see: `traced_exists_op!` passes over a missing record. -/
def Form.seenError (form : Form) {T : Type} : Except AsError T → Option AsError
  | .ok _ => none
  | .error e => match form, e with
    | .tracedExistsOp, .serverError .keyNotFoundError _ _ => none
    | _, e => some e

def errorLabel : Option AsError → String
  | none => ""
  | some e => errorTypeFromAerospikeError texts e

/-- What is recorded on the span before it ends. -/
def closeSpan (span : Span) : Option AsError → Span
  | none => span
  | some e => recordErrorOnSpan texts span e

/-- What the work of an operation comes to; a query also catches panics and the exceptions
of a callback. -/
inductive Answer (T : Type) where
  | result (r : Except AsError T)
  | caught
  deriving DecidableEq

def Answer.seenError {T : Type} (form : Form) : Answer T → Option AsError
  | .result r => form.seenError r
  | .caught => none

/-- Where an operation stands, with the timer and the span it owns. -/
inductive Phase (T : Type) where
  | entered (span : Option Span)
  | working (span : Option Span) (timer : Option OperationTimer)
  | answered (span : Option Span) (answer : Answer T)
  | returned (answer : Answer T)
  | abandoned

structure Task (T : Type) where
  call : Call
  phase : Phase T

/-- The two switches, the operations that were called, the observations of the histogram and
the spans that were ended. -/
structure System (T : Type) where
  metricsEnabled : Bool
  otelActive : Bool
  tasks : List (Task T)
  observed : List OperationLabels
  ended : List Span

inductive Action (T : Type) where
  | setMetricsEnabled (enabled : Bool)
  /-- `installs` is false for a kill switch of the environment or a failed exporter. -/
  | initTracing (installs : Bool)
  | shutdownTracing
  | enter (call : Call)
  | start (i : Nat)
  | answer (i : Nat) (r : Except AsError T)
  | panic (i : Nat)
  /-- The future is dropped. -/
  | cancel (i : Nat)
  | finish (i : Nat)

variable {T : Type}

namespace System

def initial : System T := ⟨true, false, [], [], []⟩

def setPhase (s : System T) (i : Nat) (call : Call) (phase : Phase T) : System T :=
  { s with tasks := s.tasks.set i ⟨call, phase⟩ }

/-- The phase an operation begins in. A query reads neither switch. -/
def firstPhase (s : System T) (call : Call) : Phase T :=
  match call.op.form with
  | .executeQuery => .working (some call.startSpan) (some call.timer)
  | _ => .entered (if s.otelActive then some call.startSpan else none)

def step (s : System T) : Action T → Option (System T)
  | .setMetricsEnabled enabled => some { s with metricsEnabled := enabled }
  | .initTracing installs => some (if installs then { s with otelActive := true } else s)
  | .shutdownTracing => some { s with otelActive := false }
  | .enter call => some { s with tasks := s.tasks ++ [⟨call, s.firstPhase call⟩] }
  | .start i => match s.tasks[i]? with
    | some ⟨call, .entered span⟩ =>
      some (s.setPhase i call
        (.working span (if s.metricsEnabled then some call.timer else none)))
    | _ => none
  | .answer i r => match s.tasks[i]? with
    | some ⟨call, .working span timer⟩ =>
      some { s.setPhase i call (.answered span (.result r)) with
        observed := s.observed ++
          (timer.map (·.finish (errorLabel texts (call.op.form.seenError r)))).toList }
    | _ => none
  | .panic i => match s.tasks[i]? with
    | some ⟨call, .working span _⟩ =>
      -- a timer has no destructor, and a span that is dropped is left to the SDK
      some (s.setPhase i call (if call.op.form = .executeQuery then .answered span .caught
        else .abandoned))
    | _ => none
  | .cancel i => match s.tasks[i]? with
    | some ⟨call, .entered _⟩ => some (s.setPhase i call .abandoned)
    | some ⟨call, .working _ _⟩ =>
      if call.op.form = .executeQuery then none else some (s.setPhase i call .abandoned)
    | _ => none
  | .finish i => match s.tasks[i]? with
    | some ⟨call, .answered span a⟩ =>
      some { s.setPhase i call (.returned a) with
        ended := s.ended ++ (span.map (closeSpan texts · (a.seenError call.op.form))).toList }
    | _ => none

end System

/-- The switches of metrics and tracing; every other action is part of an operation. -/
def Action.ofCall : Action T → Bool
  | .setMetricsEnabled _ | .initTracing _ | .shutdownTracing => false
  | _ => true

def Phase.answer : Phase T → Option (Answer T)
  | .returned a => some a
  | _ => none

def Task.returned (t : Task T) : Call × Option (Answer T) := (t.call, t.phase.answer)

/-- The calls in order, each with what it returned. -/
def System.returned (s : System T) : List (Call × Option (Answer T)) := s.tasks.map Task.returned

/-- An operation without its instruments. -/
def Phase.bare : Phase T → Phase T
  | .entered _ => .entered none
  | .working _ _ => .working none none
  | .answered _ a => .answered none a
  | .returned a => .returned a
  | .abandoned => .abandoned

def Task.bare (t : Task T) : Task T := ⟨t.call, t.phase.bare⟩

def System.bare (s : System T) : List (Task T) := s.tasks.map Task.bare

def bareFirst (call : Call) : Phase T :=
  if call.op.form = .executeQuery then .working none none else .entered none

/-- The operations as they would run without any instruments. -/
def bareStep (tasks : List (Task T)) : Action T → Option (List (Task T))
  | .setMetricsEnabled _ | .initTracing _ | .shutdownTracing => some tasks
  | .enter call => some (tasks ++ [⟨call, bareFirst call⟩])
  | .start i => match tasks[i]? with
    | some ⟨call, .entered _⟩ => some (tasks.set i ⟨call, .working none none⟩)
    | _ => none
  | .answer i r => match tasks[i]? with
    | some ⟨call, .working _ _⟩ => some (tasks.set i ⟨call, .answered none (.result r)⟩)
    | _ => none
  | .panic i => match tasks[i]? with
    | some ⟨call, .working _ _⟩ =>
      some (tasks.set i ⟨call, if call.op.form = .executeQuery then .answered none .caught
        else .abandoned⟩)
    | _ => none
  | .cancel i => match tasks[i]? with
    | some ⟨call, .entered _⟩ => some (tasks.set i ⟨call, .abandoned⟩)
    | some ⟨call, .working _ _⟩ =>
      if call.op.form = .executeQuery then none else some (tasks.set i ⟨call, .abandoned⟩)
    | _ => none
  | .finish i => match tasks[i]? with
    | some ⟨call, .answered _ a⟩ => some (tasks.set i ⟨call, .returned a⟩)
    | _ => none

theorem bare_getElem? (s : System T) (i : Nat) : s.bare[i]? = s.tasks[i]?.map Task.bare :=
  List.getElem?_map

theorem bare_setPhase (s : System T) (i : Nat) (call : Call) (phase : Phase T) :
    (s.setPhase i call phase).bare = s.bare.set i ⟨call, phase.bare⟩ :=
  List.map_set

theorem firstPhase_bare (s : System T) (call : Call) :
    (s.firstPhase call).bare = bareFirst call := by
  unfold System.firstPhase bareFirst
  cases call.op.form <;> rfl

theorem step_bare (s : System T) (a : Action T) :
    (s.step texts a).map System.bare = bareStep s.bare a := by
  cases a with
  | setMetricsEnabled enabled => rfl
  | initTracing installs => cases installs <;> rfl
  | shutdownTracing => rfl
  | enter call =>
    have hfirst := firstPhase_bare s call
    simp [System.step, bareStep, System.bare, Task.bare, hfirst]
  | start i =>
    simp only [System.step, bareStep, bare_getElem?]
    rcases s.tasks[i]? with _ | ⟨call, phase⟩
    · rfl
    · cases phase <;> simp [Task.bare, Phase.bare, bare_setPhase]
  | answer i r =>
    simp only [System.step, bareStep, bare_getElem?]
    rcases s.tasks[i]? with _ | ⟨call, phase⟩
    · rfl
    · cases phase with
      | working span timer => exact congrArg some (bare_setPhase s i call _)
      | _ => rfl
  | panic i =>
    simp only [System.step, bareStep, bare_getElem?]
    rcases s.tasks[i]? with _ | ⟨call, phase⟩
    · rfl
    · cases phase with
      | working span timer =>
        by_cases hform : call.op.form = .executeQuery <;>
          simp [Task.bare, Phase.bare, bare_setPhase, hform]
      | _ => rfl
  | cancel i =>
    simp only [System.step, bareStep, bare_getElem?]
    rcases s.tasks[i]? with _ | ⟨call, phase⟩
    · rfl
    · cases phase with
      | entered span => exact congrArg some (bare_setPhase s i call _)
      | working span timer =>
        by_cases hform : call.op.form = .executeQuery <;>
          simp [Task.bare, Phase.bare, bare_setPhase, hform]
      | _ => rfl
  | finish i =>
    simp only [System.step, bareStep, bare_getElem?]
    rcases s.tasks[i]? with _ | ⟨call, phase⟩
    · rfl
    · cases phase with
      | answered span answer => exact congrArg some (bare_setPhase s i call _)
      | _ => rfl

theorem bareStep_switch (tasks : List (Task T)) (a : Action T) (h : a.ofCall = false) :
    bareStep tasks a = some tasks := by
  cases a <;> first | rfl | cases h

theorem returned_eq (s : System T) : s.returned = s.bare.map Task.returned := by
  rw [System.bare, List.map_map]
  refine List.map_congr_left fun t _ => ?_
  obtain ⟨call, phase⟩ := t
  cases phase <;> rfl

/-- Turning metrics and tracing on and off changes neither what can happen nor what the
callers get. -/
theorem returned_run (as : List (Action T)) :
    (run (System.step texts) .initial as).map System.returned =
      (run bareStep [] (as.filter Action.ofCall)).map (List.map Task.returned) := by
  have hview : System.returned (T := T) = List.map Task.returned ∘ System.bare :=
    funext returned_eq
  rw [hview, ← Option.map_map, map_run (step_bare texts), run_filter bareStep_switch]
  rfl

/-- What a history says about one of its calls. -/
structure Entry (T : Type) where
  call : Call
  /-- Tracing was on when the operation was entered. -/
  traced : Bool
  /-- The metrics were on when its work began. -/
  timed : Bool
  answer : Option (Answer T)
  finished : Bool

structure Ledger (T : Type) where
  metricsEnabled : Bool
  otelActive : Bool
  entries : List (Entry T)

namespace Ledger

def initial : Ledger T := ⟨true, false, []⟩

def amend (l : Ledger T) (i : Nat) (f : Entry T → Entry T) : Ledger T :=
  { l with entries := l.entries.modify i f }

def note (l : Ledger T) : Action T → Ledger T
  | .setMetricsEnabled enabled => { l with metricsEnabled := enabled }
  | .initTracing installs => { l with otelActive := l.otelActive || installs }
  | .shutdownTracing => { l with otelActive := false }
  | .enter call =>
    -- a query is always traced and timed
    let query := decide (call.op.form = .executeQuery)
    { l with entries := l.entries ++ [⟨call, query || l.otelActive, query, none, false⟩] }
  | .start i => l.amend i fun e => { e with timed := l.metricsEnabled }
  | .answer i r => l.amend i fun e => { e with answer := some (.result r) }
  | .panic i => l.amend i fun e =>
    { e with answer := if e.call.op.form = .executeQuery then some .caught else none }
  | .cancel _ => l
  | .finish i => l.amend i fun e => { e with finished := true }

end Ledger

/-- The ledger of a history from the start of the process. -/
def ledger (as : List (Action T)) : Ledger T := as.foldl Ledger.note .initial

namespace Entry

/-- The observation that is due. -/
def labels (e : Entry T) : Option OperationLabels :=
  match e.timed, e.answer with
  | true, some (.result r) => some ⟨"aerospike", e.call.ns, e.call.set, e.call.op.name,
      errorLabel texts (e.call.op.form.seenError r)⟩
  | _, _ => none

/-- The span that is due. -/
def span (e : Entry T) : Option Span :=
  match e.traced, e.finished, e.answer with
  | true, true, some a => some (closeSpan texts e.call.startSpan (a.seenError e.call.op.form))
  | _, _, _ => none

def returned (e : Entry T) : Call × Option (Answer T) :=
  (e.call, if e.finished then e.answer else none)

/-- The work succeeded, or looked for a record that is not there. -/
def wentWell (e : Entry T) : Bool :=
  match e.answer with
  | some (.result (.ok _)) => true
  | some (.result (.error (.serverError .keyNotFoundError _ _))) => decide (e.call.op = .exists)
  | _ => false

end Entry

def Call.spanIf (call : Call) (traced : Bool) : Option Span :=
  if traced then some call.startSpan else none

def Call.timerIf (call : Call) (timed : Bool) : Option OperationTimer :=
  if timed then some call.timer else none

/-- An operation stands where its entry says. -/
inductive Tracks : Task T → Entry T → Prop
  | entered (call : Call) (traced timed : Bool) :
    Tracks ⟨call, .entered (call.spanIf traced)⟩ ⟨call, traced, timed, none, false⟩
  | working (call : Call) (traced timed : Bool) :
    Tracks ⟨call, .working (call.spanIf traced) (call.timerIf timed)⟩
      ⟨call, traced, timed, none, false⟩
  | answered (call : Call) (traced timed : Bool) (a : Answer T) :
    Tracks ⟨call, .answered (call.spanIf traced) a⟩ ⟨call, traced, timed, some a, false⟩
  | returned (call : Call) (traced timed : Bool) (a : Answer T) :
    Tracks ⟨call, .returned a⟩ ⟨call, traced, timed, some a, true⟩
  | abandoned (call : Call) (traced timed : Bool) :
    Tracks ⟨call, .abandoned⟩ ⟨call, traced, timed, none, false⟩

structure Accounts (l : Ledger T) (s : System T) : Prop where
  metrics : s.metricsEnabled = l.metricsEnabled
  tracing : s.otelActive = l.otelActive
  tasks : List.Forall₂ Tracks s.tasks l.entries
  observed : s.observed.Perm (l.entries.filterMap (Entry.labels texts))
  ended : s.ended.Perm (l.entries.filterMap (Entry.span texts))

theorem accounts_initial : Accounts texts (Ledger.initial : Ledger T) System.initial :=
  ⟨rfl, rfl, .nil, .nil, .nil⟩

/-- What a step of an operation owes the ledger: its new entry, and the observation and the
span that have become due. -/
theorem accounts_advance {l : Ledger T} {s : System T} (h : Accounts texts l s) {i : Nat}
    {e : Entry T} (hentry : l.entries[i]? = some e) (f : Entry T → Entry T) {call : Call}
    {phase : Phase T} (hnew : Tracks ⟨call, phase⟩ (f e))
    {observed : List OperationLabels} {ended : List Span}
    (hobserved : observed.Perm ((l.entries.set i (f e)).filterMap (Entry.labels texts)))
    (hended : ended.Perm ((l.entries.set i (f e)).filterMap (Entry.span texts))) :
    Accounts texts (l.amend i f)
      { s.setPhase i call phase with observed := observed, ended := ended } := by
  have hset : (l.amend i f).entries = l.entries.set i (f e) := by
    rw [Ledger.amend, List.modify_eq_set_getElem?, hentry]
    rfl
  refine ⟨h.metrics, h.tracing, ?_, ?_, ?_⟩
  · rw [hset]
    exact forall₂_set h.tasks hnew i
  · rw [hset]
    exact hobserved
  · rw [hset]
    exact hended

/-- A step after which nothing new is due. -/
theorem accounts_move {l : Ledger T} {s : System T} (h : Accounts texts l s) {i : Nat}
    {e : Entry T} (hentry : l.entries[i]? = some e) (f : Entry T → Entry T) {call : Call}
    {phase : Phase T} (hnew : Tracks ⟨call, phase⟩ (f e))
    (hlabels : (f e).labels texts = e.labels texts) (hspan : (f e).span texts = e.span texts) :
    Accounts texts (l.amend i f) (s.setPhase i call phase) :=
  accounts_advance texts h hentry f hnew
    (by rw [filterMap_set_of_eq hentry hlabels]; exact h.observed)
    (by rw [filterMap_set_of_eq hentry hspan]; exact h.ended)

theorem accounts_enter {l : Ledger T} {s : System T} (h : Accounts texts l s) (call : Call) :
    Accounts texts (l.note (.enter call))
      { s with tasks := s.tasks ++ [⟨call, s.firstPhase call⟩] } := by
  have hnew : Tracks ⟨call, s.firstPhase call⟩ ⟨call,
      decide (call.op.form = .executeQuery) || l.otelActive,
      decide (call.op.form = .executeQuery), (none : Option (Answer T)), false⟩ := by
    unfold System.firstPhase
    cases hform : call.op.form with
    | executeQuery => exact .working call true true
    | _ =>
      rw [h.tracing]
      exact .entered call l.otelActive false
  refine ⟨h.metrics, h.tracing, List.rel_append h.tasks (.cons hnew .nil), ?_, ?_⟩
  · simpa [Ledger.note, Entry.labels] using h.observed
  · simpa [Ledger.note, Entry.span] using h.ended

theorem accounts_start {l : Ledger T} {s t : System T} (h : Accounts texts l s) {i : Nat}
    (hstep : s.step texts (.start i) = some t) : Accounts texts (l.note (.start i)) t := by
  simp only [System.step] at hstep
  split at hstep
  case h_1 call span htask =>
    obtain rfl := Option.some.inj hstep
    obtain ⟨e, hentry, htracks⟩ := forall₂_getElem? h.tasks htask
    cases htracks with
    | entered _ traced timed =>
      refine accounts_move texts h hentry _ ?_ ?_ rfl
      · rw [h.metrics]
        exact .working call traced l.metricsEnabled
      · simp [Entry.labels]
  case h_2 => cases hstep

theorem accounts_answer {l : Ledger T} {s t : System T} (h : Accounts texts l s) {i : Nat}
    {r : Except AsError T} (hstep : s.step texts (.answer i r) = some t) :
    Accounts texts (l.note (.answer i r)) t := by
  simp only [System.step] at hstep
  split at hstep
  case h_1 call span timer htask =>
    obtain rfl := Option.some.inj hstep
    obtain ⟨e, hentry, htracks⟩ := forall₂_getElem? h.tasks htask
    cases htracks with
    | working _ traced timed =>
      refine accounts_advance texts h hentry _ (.answered call traced timed (.result r)) ?_ ?_
      · refine List.Perm.trans ?_ (filterMap_set_perm hentry (by simp [Entry.labels])).symm
        cases timed with
        | false => simpa [Call.timerIf, Entry.labels] using h.observed
        | true => exact h.observed.append_right _
      · rw [filterMap_set_of_eq hentry (by cases traced <;> rfl)]
        exact h.ended
  case h_2 => cases hstep

theorem accounts_panic {l : Ledger T} {s t : System T} (h : Accounts texts l s) {i : Nat}
    (hstep : s.step texts (.panic i) = some t) : Accounts texts (l.note (.panic i)) t := by
  simp only [System.step] at hstep
  split at hstep
  case h_1 call span timer htask =>
    obtain rfl := Option.some.inj hstep
    obtain ⟨e, hentry, htracks⟩ := forall₂_getElem? h.tasks htask
    cases htracks with
    | working _ traced timed =>
      by_cases hform : call.op.form = .executeQuery
      · rw [if_pos hform]
        refine accounts_move texts h hentry _ ?_ ?_ ?_
        · rw [if_pos hform]
          exact .answered call traced timed .caught
        · cases timed <;> simp [Entry.labels, hform]
        · cases traced <;> rfl
      · rw [if_neg hform]
        refine accounts_move texts h hentry _ ?_ ?_ ?_
        · rw [if_neg hform]
          exact .abandoned call traced timed
        · simp [hform]
        · simp [hform]
  case h_2 => cases hstep

theorem accounts_cancel {l : Ledger T} {s t : System T} (h : Accounts texts l s) {i : Nat}
    (hstep : s.step texts (.cancel i) = some t) : Accounts texts (l.note (.cancel i)) t := by
  have habandoned : ∀ {call : Call} {phase : Phase T} {e : Entry T}, l.entries[i]? = some e →
      Tracks ⟨call, phase⟩ e → (∃ traced timed, e = ⟨call, traced, timed, none, false⟩) →
      Accounts texts l (s.setPhase i call .abandoned) := by
    intro call phase e hentry htracks ⟨traced, timed, he⟩
    have hset : l.entries.set i e = l.entries := by
      obtain ⟨hi, rfl⟩ := List.getElem?_eq_some_iff.mp hentry
      exact List.set_getElem_self hi
    subst he
    have htasks := forall₂_set h.tasks (Tracks.abandoned call traced timed) i
    rw [hset] at htasks
    exact ⟨h.metrics, h.tracing, htasks, h.observed, h.ended⟩
  simp only [System.step] at hstep
  split at hstep
  case h_1 call span htask =>
    obtain rfl := Option.some.inj hstep
    obtain ⟨e, hentry, htracks⟩ := forall₂_getElem? h.tasks htask
    refine habandoned hentry htracks ?_
    cases htracks with
    | entered _ traced timed => exact ⟨traced, timed, rfl⟩
  case h_2 call span timer htask =>
    split at hstep
    · cases hstep
    · obtain rfl := Option.some.inj hstep
      obtain ⟨e, hentry, htracks⟩ := forall₂_getElem? h.tasks htask
      refine habandoned hentry htracks ?_
      cases htracks with
      | working _ traced timed => exact ⟨traced, timed, rfl⟩
  case h_3 => cases hstep

theorem accounts_finish {l : Ledger T} {s t : System T} (h : Accounts texts l s) {i : Nat}
    (hstep : s.step texts (.finish i) = some t) : Accounts texts (l.note (.finish i)) t := by
  simp only [System.step] at hstep
  split at hstep
  case h_1 call span a htask =>
    obtain rfl := Option.some.inj hstep
    obtain ⟨e, hentry, htracks⟩ := forall₂_getElem? h.tasks htask
    cases htracks with
    | answered _ traced timed =>
      refine accounts_advance texts h hentry _ (.returned call traced timed a) ?_ ?_
      · rw [filterMap_set_of_eq hentry (by cases timed <;> cases a <;> rfl)]
        exact h.observed
      · refine List.Perm.trans ?_
          (filterMap_set_perm hentry (by cases traced <;> rfl)).symm
        cases traced with
        | false => simpa [Call.spanIf, Entry.span] using h.ended
        | true => exact h.ended.append_right _
  case h_2 => cases hstep

theorem accounts_step (l : Ledger T) (s t : System T) (a : Action T) (h : Accounts texts l s)
    (hstep : s.step texts a = some t) : Accounts texts (l.note a) t := by
  cases a with
  | setMetricsEnabled enabled =>
    obtain rfl := Option.some.inj hstep
    exact ⟨rfl, h.tracing, h.tasks, h.observed, h.ended⟩
  | initTracing installs =>
    obtain rfl := Option.some.inj hstep
    refine ⟨?_, ?_, ?_, ?_, ?_⟩ <;> cases installs
    all_goals simp [Ledger.note, h.metrics, h.tracing, h.tasks, h.observed, h.ended]
  | shutdownTracing =>
    obtain rfl := Option.some.inj hstep
    exact ⟨h.metrics, rfl, h.tasks, h.observed, h.ended⟩
  | enter call =>
    obtain rfl := Option.some.inj hstep
    exact accounts_enter texts h call
  | start i => exact accounts_start texts h hstep
  | answer i r => exact accounts_answer texts h hstep
  | panic i => exact accounts_panic texts h hstep
  | cancel i => exact accounts_cancel texts h hstep
  | finish i => exact accounts_finish texts h hstep

theorem accounts_run {l : Ledger T} {s t : System T} {as : List (Action T)}
    (h : Accounts texts l s) (hrun : run (System.step texts) s as = some t) :
    Accounts texts (as.foldl Ledger.note l) t := by
  induction as generalizing l s with
  | nil =>
    obtain rfl := Option.some.inj hrun
    exact h
  | cons a as ih =>
    obtain ⟨u, hu, hrest⟩ := Option.bind_eq_some_iff.mp hrun
    exact ih (accounts_step texts l s u a h hu) hrest

theorem tracks_returned {t : Task T} {e : Entry T} (h : Tracks t e) :
    t.returned = e.returned := by
  cases h <;> rfl

theorem errorTypeFromAerospikeError_ne_empty (hdebug : ∀ rc, texts.debug rc ≠ "") (e : AsError) :
    errorTypeFromAerospikeError texts e ≠ "" := by
  unfold errorTypeFromAerospikeError
  split
  case h_4 =>
    split
    case h_9 => exact hdebug _
    all_goals decide
  all_goals decide

theorem seenError_eq_none_iff (op : Op) (r : Except AsError T) :
    op.form.seenError r = none ↔ (∃ a, r = .ok a) ∨
      op = .exists ∧ ∃ inDoubt node, r = .error (.serverError .keyNotFoundError inDoubt node) := by
  cases r with
  | ok a => simp [Form.seenError]
  | error e =>
    simp only [Form.seenError, reduceCtorEq, exists_false, false_or, Except.error.injEq]
    split
    case h_1 hform =>
      have hop : op = .exists := by cases op <;> first | rfl | cases hform
      simp [hop]
    case h_2 hne =>
      refine iff_of_false (by simp) ?_
      rintro ⟨rfl, inDoubt, node, rfl⟩
      exact hne inDoubt node rfl rfl

/-- An empty error type is that of a call which went well. -/
theorem errorType_labels (hdebug : ∀ rc, texts.debug rc ≠ "") {e : Entry T}
    {labels : OperationLabels} (h : e.labels texts = some labels) :
    labels.errorType = "" ↔ e.wentWell = true := by
  obtain ⟨call, traced, timed, answer, finished⟩ := e
  simp only [Entry.labels] at h
  split at h
  case h_1 r =>
    obtain rfl := Option.some.inj h
    have hlabel : errorLabel texts (call.op.form.seenError r) = "" ↔
        call.op.form.seenError r = none := by
      cases hseen : call.op.form.seenError r with
      | none => exact iff_of_true rfl rfl
      | some e =>
        exact iff_of_false (errorTypeFromAerospikeError_ne_empty texts hdebug e) (by simp)
    rw [hlabel, seenError_eq_none_iff]
    simp only [Entry.wentWell]
    split <;> simp_all
  case h_2 => cases h

theorem labels_isSome (e : Entry T) (h : e.wentWell = true) :
    (e.labels texts).isSome = e.timed := by
  obtain ⟨call, traced, timed, answer, finished⟩ := e
  cases timed with
  | false => rfl
  | true => match answer with
    | none => cases h
    | some .caught => cases h
    | some (.result r) => rfl

theorem countP_filterMap_labels (hdebug : ∀ rc, texts.debug rc ≠ "") (entries : List (Entry T)) :
    (entries.filterMap (Entry.labels texts)).countP (fun o => o.errorType = "") =
      entries.countP fun e => e.timed && e.wentWell := by
  induction entries with
  | nil => rfl
  | cons e entries ih =>
    rw [List.filterMap_cons, List.countP_cons]
    cases hlabels : e.labels texts with
    | none =>
      have hnot : (e.timed && e.wentWell) = false := by
        cases hwell : e.wentWell with
        | false => exact Bool.and_false _
        | true =>
          have hsome := labels_isSome texts e hwell
          rw [hlabels] at hsome
          rw [← hsome]
          rfl
      simpa [hnot] using ih
    | some labels =>
      have htimed : e.timed = true := by
        cases htimed : e.timed with
        | true => rfl
        | false =>
          rw [Entry.labels, htimed] at hlabels
          cases hlabels
      have hempty := errorType_labels texts hdebug hlabels
      rw [List.countP_cons, ih, htimed, Bool.true_and]
      simp only [hempty, decide_eq_true_eq]

/-- The observations, the spans and the answers are those that the ledger says. -/
structure Reported (l : Ledger T) (s : System T) : Prop where
  returned : s.returned = l.entries.map Entry.returned
  observed : s.observed.Perm (l.entries.filterMap (Entry.labels texts))
  ended : s.ended.Perm (l.entries.filterMap (Entry.span texts))
  wentWell : s.observed.countP (fun o => o.errorType = "") =
    l.entries.countP fun e => e.timed && e.wentWell

theorem Accounts.reported (hdebug : ∀ rc, texts.debug rc ≠ "") {l : Ledger T} {s : System T}
    (h : Accounts texts l s) : Reported texts l s := by
  refine ⟨?_, h.observed, h.ended, ?_⟩
  · have hmap : List.Forall₂ (· = ·) s.returned (l.entries.map Entry.returned) := by
      rw [System.returned, List.forall₂_map_left_iff, List.forall₂_map_right_iff]
      exact h.tasks.imp fun _ _ => tracks_returned
    rwa [List.forall₂_eq_eq_eq] at hmap
  · rw [h.observed.countP_eq, countP_filterMap_labels texts hdebug]

/-- However operations and switches interleave: the callers get what they would get without
instruments, and every operation is observed and traced once, under its own labels and by
its own outcome, if the switches were on when it came to them. -/
theorem instruments_account (hdebug : ∀ rc, texts.debug rc ≠ "") (as : List (Action T)) :
    (run (System.step texts) .initial as).map System.returned =
        (run bareStep [] (as.filter Action.ofCall)).map (List.map Task.returned) ∧
      ∀ s, run (System.step texts) .initial as = some s → Reported texts (ledger as) s :=
  ⟨returned_run texts as, fun _ hrun =>
    (accounts_run texts (accounts_initial texts) hrun).reported texts hdebug⟩

/-- A lookup of a missing record, with the metrics turned off while it waits. -/
def missingLookup : List (Action Unit) :=
  [.enter ⟨.exists, "test", "demo", ⟨"127.0.0.1", 3000, ""⟩⟩, .start 0, .setMetricsEnabled false,
    .answer 0 (.error (.serverError .keyNotFoundError false "BB9")), .finish 0]

theorem instruments_account_missing :
    (run (System.step ⟨fun _ => "Server error", fun _ => "Timeout"⟩) .initial missingLookup).map
      (fun s => s.observed.countP fun o => o.errorType = "") = some 1 :=
  congrArg some ((instruments_account ⟨fun _ => "Server error", fun _ => "Timeout"⟩
    (fun _ => by simp) missingLookup).2 _ rfl).wentWell

end AerospikePy.Observability.Instrument
