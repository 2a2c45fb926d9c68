import AerospikePy.Lifecycle.State

/-!
# The lifecycle of the sync client

`connect` and `close` block while they hold the object exclusively, so each is one
step. A panic is caught by nothing here: the state stays where the call had put it.
-/

namespace AerospikePy.Lifecycle.Client

open AerospikePy.Core
open AerospikePy.Lifecycle

structure PyClient where
  state : ClientState
  inner : Option Nat
  connectionInfo : ConnectionInfo
  limiter : OperationLimiter
  calls : Nat
  deriving DecidableEq, Repr

def PyClient.new : PyClient := ⟨.disconnected, none, .default, ⟨0, 0, 0⟩, 0⟩

/-- `connect`; `created` is how `AsClient::new` ends. The limiter is made only when the core
client is in its place. -/
def connect (c : PyClient) (config : Except PyErr ConnectConfig) (created : Driven) :
    Driven × PyClient :=
  if c.state ≠ .disconnected then (.returned (.error (alreadyConnected c.state)), c)
  else match config with
    | .error e => (.returned (.error e), c)
    | .ok cfg =>
      let call := c.calls + 1
      let c := { c with state := .connecting, connectionInfo := cfg.info, calls := call }
      match created with
      | .returned (.ok ()) =>
        let c := { c with inner := some call }
        match OperationLimiter.new call cfg.maxOps cfg.timeoutMs with
        | none => (.panicked, c)
        | some limiter =>
          (.returned (.ok ()), { c with limiter := limiter, state := .connected })
      | .returned (.error e) => (.returned (.error e), { c with state := .disconnected })
      | .panicked => (.panicked, c)

/-- `close`; `closed` is how the core client's close ends. -/
def close (c : PyClient) (closed : Driven) : Driven × PyClient :=
  match c.state with
  | .disconnected | .closing => (.returned (.ok ()), c)
  | .connecting => (.returned (.error closeWhileConnecting), c)
  | .connected =>
    let call := c.calls + 1
    let result := if c.inner.isSome then closed else .returned (.ok ())
    let c := { c with state := .closing, inner := none, calls := call }
    match result with
    | .returned r => (.returned r, { c with
        connectionInfo := .default
        limiter := ⟨call, 0, 0⟩
        state := .disconnected })
    | .panicked => (.panicked, c)

/-- The client an operation uses. -/
def getClient (c : PyClient) : Except PyErr Nat :=
  match c.inner with
  | some client => .ok client
  | none => .error notConnected

theorem getClient_eq_ok {c : PyClient} {k : Nat} : getClient c = .ok k ↔ c.inner = some k := by
  unfold getClient
  cases c.inner <;> simp

inductive Act where
  | connect (config : Except PyErr ConnectConfig) (created : Driven)
  | close (closed : Driven)

def step (c : PyClient) : Act → Option PyClient
  | .connect config created => some (connect c config created).2
  | .close closed => some (close c closed).2

inductive Move (c : PyClient) : Act → PyClient → Prop where
  | kept (a : Act) : Move c a c
  | attempted (cfg : ConnectConfig) (created : Driven) (state : ClientState)
      (h : created ≠ .returned (.ok ())) : Move c (.connect (.ok cfg) created) { c with
        state := state, connectionInfo := cfg.info, calls := c.calls + 1 }
  | installed (cfg : ConnectConfig) (hfits : cfg.Fits) :
      Move c (.connect (.ok cfg) (.returned (.ok ()))) { c with
        state := .connected, connectionInfo := cfg.info, calls := c.calls + 1
        inner := some (c.calls + 1), limiter := ⟨c.calls + 1, cfg.maxOps, cfg.timeoutMs⟩ }
  | unlimited (cfg : ConnectConfig) (hstate : c.state = .disconnected) (hfits : ¬ cfg.Fits) :
      Move c (.connect (.ok cfg) (.returned (.ok ()))) { c with
        state := .connecting, connectionInfo := cfg.info, calls := c.calls + 1
        inner := some (c.calls + 1) }
  | closed (closed : Driven) : Move c (.close closed) { c with
        state := .disconnected, inner := none, calls := c.calls + 1
        connectionInfo := .default, limiter := ⟨c.calls + 1, 0, 0⟩ }
  | closePanicked (closed : Driven) : Move c (.close closed) { c with
        state := .closing, inner := none, calls := c.calls + 1 }

theorem connect_move (c : PyClient) (config : Except PyErr ConnectConfig) (created : Driven) :
    Move c (.connect config created) (connect c config created).2 := by
  unfold connect
  by_cases hstate : c.state = .disconnected
  · rw [if_neg (by simp [hstate])]
    cases config with
    | error e => exact .kept _
    | ok cfg =>
      match created with
      | .returned (.ok ()) =>
        dsimp only
        by_cases hfits : cfg.Fits
        · rw [OperationLimiter.new_of_fits hfits]
          exact .installed cfg hfits
        · rw [OperationLimiter.new_of_not_fits hfits]
          exact .unlimited cfg hstate hfits
      | .returned (.error e) => exact .attempted cfg _ .disconnected (by simp)
      | .panicked => exact .attempted cfg _ .connecting (by simp)
  · rw [if_pos hstate]
    exact .kept _

theorem close_move (c : PyClient) (closed : Driven) :
    Move c (.close closed) (close c closed).2 := by
  unfold close
  split
  · exact .kept _
  · exact .kept _
  · exact .kept _
  · dsimp only
    split
    · exact .closed closed
    · exact .closePanicked closed

theorem step_move {c c' : PyClient} {a : Act} (hstep : step c a = some c') : Move c a c' := by
  cases a with
  | connect config created =>
    obtain rfl := Option.some.inj hstep
    exact connect_move c config created
  | close closed =>
    obtain rfl := Option.some.inj hstep
    exact close_move c closed

end AerospikePy.Lifecycle.Client
