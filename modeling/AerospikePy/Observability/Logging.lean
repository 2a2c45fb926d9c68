import AerospikePy.Batch.Handle
import AerospikePy.Lib.Inheritance
import AerospikePy.Lib.Separated

/-!
# Log records and log levels

`logging.rs` forwards each record of the Rust side to the Python logger that has the
record's target for its name, and `set_log_level` sets the levels of four loggers. Python
loggers inherit their level along the dots of their names; the targets of Rust are module
paths, which have none.
-/

namespace AerospikePy.Observability

open AerospikePy.Core
open AerospikePy.Lib
open AerospikePy.Lib.Inheritance
open AerospikePy.Python

/-- The components of a dotted name, the last one first. The root logger has none. -/
abbrev LoggerName := List (List Char)

/-- The logger that `logging.getLogger(name)` returns. -/
def loggerName (name : String) : LoggerName :=
  if name = "" ∨ name = "root" then [] else (name.toList.splitOn '.').reverse

/-- The levels that were set; `none` is `NOTSET`. -/
structure Logging where
  root : Int
  own : LoggerName → Option Int

/-- `logging` as it is imported: the root logger is at `WARNING`. -/
def Logging.initial : Logging := ⟨30, fun _ => none⟩

/-- `logging.getLogger(name).setLevel(level)`. -/
def Logging.setLevel (l : Logging) (name : LoggerName) (level : Int) : Logging :=
  if name = [] then { l with root := level }
  else { l with
    own := fun n => if n = name then (if level = 0 then none else some level) else l.own n }

def Logging.effectiveLevel (l : Logging) (name : LoggerName) : Int := inherited l.root l.own name

def Logging.isEnabledFor (l : Logging) (name : LoggerName) (level : Int) : Bool :=
  decide (l.effectiveLevel name ≤ level)

/-- `_LEVEL_MAP`: `LOG_LEVEL_*` and the levels of `logging`. -/
def levelMap : List (Int × Int) := [(-1, 51), (0, 40), (1, 30), (2, 20), (3, 10), (4, 5)]

/-- The loggers that `set_log_level` names. -/
def controlled : List String := ["aerospike_py", "_aerospike", "aerospike_core", "aerospike"]

/-- The constant that an argument equals. -/
def logLevelOf (level : PyObj) : Option (Int × Int) :=
  levelMap.find? fun e => pyEq (.int e.1) level

def setLogLevel (repr : Batch.Repr) (l : Logging) (level : PyObj) : Except PyErr Unit × Logging :=
  if level.hashable then
    match logLevelOf level with
    | some e => (.ok (), controlled.foldl (fun l name => l.setLevel (loggerName name) e.2) l)
    | none => match repr level with
      | .ok text => (.error ⟨.valueError, s!"Invalid log level: {text}. Expected one of the "
          ++ "LOG_LEVEL_* constants: LOG_LEVEL_OFF (-1), LOG_LEVEL_ERROR (0), LOG_LEVEL_WARN (1), "
          ++ "LOG_LEVEL_INFO (2), LOG_LEVEL_DEBUG (3), LOG_LEVEL_TRACE (4)."⟩, l)
      | .error e => (.error e, l)
  else (.error (unhashable level), l)

/-- `log::Level`. -/
inductive Level where
  | error | warn | info | debug | trace
  deriving DecidableEq, Repr

namespace Level

/-- The number of the constant `LOG_LEVEL_*` of the same name. -/
def number : Level → Int
  | error => 0
  | warn => 1
  | info => 2
  | debug => 3
  | trace => 4

def name : Level → String
  | error => "ERROR"
  | warn => "WARN"
  | info => "INFO"
  | debug => "DEBUG"
  | trace => "TRACE"

end Level

def rustToPythonLevel : Level → Nat
  | .error => 40
  | .warn => 30
  | .info => 20
  | .debug => 10
  | .trace => 5

structure LogRecord where
  level : Level
  target : String
  message : String
  deriving DecidableEq, Repr

/-- What `Python::try_attach` comes to. -/
inductive Attach where
  | forwarded
  | unavailable
  | fails
  deriving DecidableEq

structure Bridge where
  logging : Logging
  handled : List LogRecord
  dropped : UInt64
  stderr : List String

def Bridge.initial : Bridge := ⟨.initial, [], 0, []⟩

/-- `PyLogger::log`. A forwarded record reaches the handlers if its logger lets it. -/
def Bridge.log (b : Bridge) (record : LogRecord) : Attach → Bridge
  | .forwarded =>
    if b.logging.isEnabledFor (loggerName record.target) (rustToPythonLevel record.level) then
      { b with handled := b.handled ++ [record] }
    else b
  | .unavailable =>
    let line := s!"[aerospike-py/{record.level.name}] {record.target}: {record.message}"
    { b with
      dropped := b.dropped + 1
      stderr := if record.level = .error ∨ record.level = .warn then b.stderr ++ [line]
        else b.stderr }
  | .fails => { b with
      stderr := b.stderr ++ [s!"[aerospike-py/LOGGING-ERROR] {record.target}: {record.message}"] }

/-- What happens to the process: a call of `set_log_level`, a level that the application
sets itself, and a record of the Rust side. -/
inductive Act where
  | setLogLevel (level : PyObj)
  | setLevel (name : String) (level : Int)
  | log (record : LogRecord) (attach : Attach)

variable (repr : Batch.Repr)

def Bridge.perform (b : Bridge) : Act → Bridge
  | .setLogLevel level => { b with logging := (Observability.setLogLevel repr b.logging level).2 }
  | .setLevel name level => { b with logging := b.logging.setLevel (loggerName name) level }
  | .log record attach => b.log record attach

def Bridge.run (b : Bridge) (acts : List Act) : Bridge := acts.foldl (Bridge.perform repr) b

/-- A controlled logger, or one below it. -/
def governed (name : LoggerName) : Bool := controlled.any fun c => (loggerName c).isSuffixOf name

theorem governed_iff {name : LoggerName} :
    governed name = true ↔ ∃ c ∈ controlled, loggerName c <:+ name := by
  simp [governed]

theorem not_governed_of_suffix {node name : LoggerName} (h : node <:+ name)
    (hname : governed name = false) : governed node = false := by
  rw [← Bool.not_eq_true] at hname ⊢
  intro hnode
  obtain ⟨c, hc, hsuffix⟩ := governed_iff.mp hnode
  exact hname (governed_iff.mpr ⟨c, hc, hsuffix.trans h⟩)

/-- Two processes that differ in governed loggers only. -/
structure Agree (b b' : Bridge) : Prop where
  root : b.logging.root = b'.logging.root
  own : ∀ name, governed name = false → b.logging.own name = b'.logging.own name
  handled : b.handled.filter (fun r => !governed (loggerName r.target)) =
    b'.handled.filter (fun r => !governed (loggerName r.target))
  dropped : b.dropped = b'.dropped
  stderr : b.stderr = b'.stderr

theorem Agree.effectiveLevel {b b' : Bridge} (h : Agree b b') {name : LoggerName}
    (hname : governed name = false) :
    b.logging.effectiveLevel name = b'.logging.effectiveLevel name :=
  inherited_congr h.root fun node _ hnode => h.own node (not_governed_of_suffix hnode hname)

/-- The entry of the table that a call of `set_log_level` puts into effect. -/
def accepted (level : PyObj) : Option (Int × Int) :=
  if level.hashable then logLevelOf level else none

def Act.accepted : Act → Option (Int × Int)
  | .setLogLevel level => Observability.accepted level
  | _ => none

end AerospikePy.Observability
