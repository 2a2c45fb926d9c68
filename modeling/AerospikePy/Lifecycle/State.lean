import AerospikePy.Core.Types

/-!
# The state of a client object

What `Client` and `AsyncClient` have in common: the lifecycle state, the connection
metadata and the operation limiter. Core clients and limiters are identified by the
number of the call that made them, so that one can ask which call installed what.
-/

namespace AerospikePy.Lifecycle

open AerospikePy.Core

/-- The lifecycle byte: Disconnected(0), Connecting(1), Connected(2), Closing(3). -/
inductive ClientState where
  | disconnected | connecting | connected | closing
  deriving DecidableEq, Repr

/-- The name of a state in the error of a refused `connect`. -/
def stateName : ClientState → String
  | .connecting => "connecting"
  | .connected => "connected"
  | .closing => "closing"
  | .disconnected => "unknown"

structure ConnectionInfo where
  serverAddress : String
  serverPort : Int
  clusterName : String
  deriving DecidableEq, Repr

def ConnectionInfo.default : ConnectionInfo := ⟨"", 0, ""⟩

/-- A limiter; `installedBy` tells two limiters with the same settings apart. Its
semaphore exists when `maxConcurrent` is not 0. -/
structure OperationLimiter where
  installedBy : Nat
  maxConcurrent : Nat
  timeoutMs : UInt64
  deriving DecidableEq, Repr

/-- The most permits a semaphore can hold, `usize::MAX >> 3`. -/
def maxPermits : Nat := 2 ^ 61 - 1

/-- `OperationLimiter::new` in the given call; `none` where the semaphore panics. -/
def OperationLimiter.new (call maxConcurrent : Nat) (timeoutMs : UInt64) :
    Option OperationLimiter :=
  if maxConcurrent ≤ maxPermits then some ⟨call, maxConcurrent, timeoutMs⟩ else none

/-- How a call ends: it returns or raises, or a panic unwinds through it. -/
inductive Driven where
  | returned (result : Except PyErr Unit)
  | panicked

/-- What `connect` reads off the config before it touches the state. -/
structure ConnectConfig where
  info : ConnectionInfo
  maxOps : Nat
  timeoutMs : UInt64
  deriving DecidableEq, Repr

/-- The limiter of this config can be made. -/
def ConnectConfig.Fits (cfg : ConnectConfig) : Prop := cfg.maxOps ≤ maxPermits

instance (cfg : ConnectConfig) : Decidable cfg.Fits := inferInstanceAs (Decidable (_ ≤ _))

theorem OperationLimiter.new_of_fits {cfg : ConnectConfig} (h : cfg.Fits) (call : Nat) :
    OperationLimiter.new call cfg.maxOps cfg.timeoutMs = some ⟨call, cfg.maxOps, cfg.timeoutMs⟩ :=
  if_pos h

theorem OperationLimiter.new_of_not_fits {cfg : ConnectConfig} (h : ¬ cfg.Fits) (call : Nat) :
    OperationLimiter.new call cfg.maxOps cfg.timeoutMs = none := if_neg h

def alreadyConnected (state : ClientState) : PyErr :=
  ⟨.clientError, s!"Cannot connect: client is already {stateName state}. Close the client before reconnecting."⟩

def closeWhileConnecting : PyErr :=
  ⟨.clientError, "Cannot close: client is currently connecting."⟩

def notConnected : PyErr :=
  ⟨.clientError, "Client is not connected. Call connect() first."⟩

end AerospikePy.Lifecycle
