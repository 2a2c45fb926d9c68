import AerospikePy.Lib.Runs
import AerospikePy.Lifecycle.State

/-!
# The lifecycle of the async client

The steps are the synchronous parts of `connect` and `close`, which run with the
object exclusively borrowed, and the segments of their futures between two awaits.
A future that has not been polled has run nothing yet, so the guard of `connect`
exists only from the first poll on. `created`, `handed` and `writer` are history:
which core clients came out of `AsClient::new`, which were given to a close, and
which call wrote the state last.
-/

namespace AerospikePy.Lifecycle.AsyncClient

open AerospikePy.Core
open AerospikePy.Lib.Runs
open AerospikePy.Lifecycle

inductive Progress where
  /-- Created, not polled: none of its code has run. -/
  | unstarted
  /-- Suspended in its await. -/
  | awaiting
  deriving DecidableEq, Repr

/-- A live future of `connect`. Its `ConnectStateGuard` is armed while it awaits. -/
structure ConnectFuture where
  call : Nat
  progress : Progress
  deriving DecidableEq, Repr

/-- A live future of `close` or `__aexit__`, and the core client it was handed. -/
structure CloseFuture where
  call : Nat
  client : Option Nat
  progress : Progress
  deriving DecidableEq, Repr

structure PyAsyncClient where
  state : ClientState
  inner : Option Nat
  connectionInfo : ConnectionInfo
  limiter : OperationLimiter
  connects : List ConnectFuture
  closes : List CloseFuture
  calls : Nat
  writer : Nat
  created : List Nat
  handed : List Nat
  deriving DecidableEq, Repr

def PyAsyncClient.new : PyAsyncClient where
  state := .disconnected
  inner := none
  connectionInfo := .default
  limiter := ⟨0, 0, 0⟩
  connects := []
  closes := []
  calls := 0
  writer := 0
  created := []
  handed := []

/-- `connect`: `config` is what parsing gives, `awaitable` whether the Python awaitable
can be made. The future is dropped unpolled when it cannot. -/
def connect (c : PyAsyncClient) (config : Except PyErr ConnectConfig)
    (awaitable : Except PyErr Unit) : Driven × PyAsyncClient :=
  match config with
  | .error e => (.returned (.error e), c)
  | .ok cfg =>
    if c.state = .disconnected then
      let call := c.calls + 1
      let c := { c with
        state := .connecting
        writer := call
        calls := call
        connectionInfo := cfg.info }
      match OperationLimiter.new call cfg.maxOps cfg.timeoutMs with
      | none => (.panicked, c)
      | some limiter =>
        let c := { c with limiter := limiter }
        match awaitable with
        | .error e => (.returned (.error e), c)
        | .ok () =>
          (.returned (.ok ()), { c with connects := c.connects ++ [⟨call, .unstarted⟩] })
    else (.returned (.error (alreadyConnected c.state)), c)

inductive CloseOutcome where
  | idempotent
  | proceed (client : Option Nat)
  deriving DecidableEq, Repr

def prepareClose (c : PyAsyncClient) : Except PyErr CloseOutcome × PyAsyncClient :=
  match c.state with
  | .disconnected | .closing => (.ok .idempotent, c)
  | .connecting => (.error closeWhileConnecting, c)
  | .connected =>
    let call := c.calls + 1
    (.ok (.proceed c.inner), { c with
      state := .closing
      writer := call
      calls := call
      inner := none
      handed := c.handed ++ c.inner.toList
      connectionInfo := .default
      limiter := ⟨call, 0, 0⟩ })

/-- `close` and `__aexit__`, which differ only in the value they resolve to. -/
def close (c : PyAsyncClient) (awaitable : Except PyErr Unit) : Except PyErr Unit × PyAsyncClient :=
  match prepareClose c with
  | (.error e, c) => (.error e, c)
  | (.ok .idempotent, c) => (awaitable, c)
  | (.ok (.proceed client), c) =>
    match awaitable with
    | .error e => (.error e, c)
    | .ok () => (.ok (), { c with closes := c.closes ++ [⟨c.calls, client, .unstarted⟩] })

/-- The client an operation captures. -/
def getClient (c : PyAsyncClient) : Except PyErr Nat :=
  match c.inner with
  | some client => .ok client
  | none => .error notConnected

theorem getClient_eq_ok {c : PyAsyncClient} {k : Nat} : getClient c = .ok k ↔ c.inner = some k := by
  unfold getClient
  cases c.inner <;> simp

def storeState (c : PyAsyncClient) (call : Nat) (state : ClientState) : PyAsyncClient :=
  { c with state := state, writer := call }

/-- The drop of an armed `ConnectStateGuard`: a compare-and-swap from CONNECTING. -/
def dropGuard (c : PyAsyncClient) (call : Nat) : PyAsyncClient :=
  if c.state = .connecting then storeState c call .disconnected else c

def removeConnect (c : PyAsyncClient) (call : Nat) : PyAsyncClient :=
  { c with connects := c.connects.filter fun f => f.call != call }

def removeClose (c : PyAsyncClient) (call : Nat) : PyAsyncClient :=
  { c with closes := c.closes.filter fun f => f.call != call }

inductive Act where
  | connect (config : Except PyErr ConnectConfig) (awaitable : Except PyErr Unit)
  | close (awaitable : Except PyErr Unit)
  | pollConnect (call : Nat)
  | connectOk (call : Nat)
  | connectErr (call : Nat)
  | connectPanic (call : Nat)
  | dropConnect (call : Nat)
  | pollClose (call : Nat)
  | closeDone (call : Nat)
  | closePanic (call : Nat)
  | dropClose (call : Nat)

/-- One step; `none` where the action names no future in the right place. -/
def step (c : PyAsyncClient) : Act → Option PyAsyncClient
  | .connect config awaitable => some (connect c config awaitable).2
  | .close awaitable => some (close c awaitable).2
  | .pollConnect call =>
    if ⟨call, .unstarted⟩ ∈ c.connects then
      some { removeConnect c call with
        connects := (removeConnect c call).connects ++ [⟨call, .awaiting⟩] }
    else none
  | .connectOk call =>
    -- the guard is disarmed before the state is stored
    if ⟨call, .awaiting⟩ ∈ c.connects then
      let c := { removeConnect c call with inner := some call, created := c.created ++ [call] }
      some (storeState c call .connected)
    else none
  | .connectErr call =>
    if ⟨call, .awaiting⟩ ∈ c.connects then
      some (storeState (removeConnect c call) call .disconnected)
    else none
  | .connectPanic call =>
    if ⟨call, .awaiting⟩ ∈ c.connects then some (dropGuard (removeConnect c call) call) else none
  | .dropConnect call =>
    if ⟨call, .awaiting⟩ ∈ c.connects then some (dropGuard (removeConnect c call) call)
    else if ⟨call, .unstarted⟩ ∈ c.connects then some (removeConnect c call)
    else none
  | .pollClose call =>
    match c.closes.find? fun f => f.call == call with
    | some ⟨_, client, .unstarted⟩ => some { removeClose c call with
        closes := (removeClose c call).closes ++ [⟨call, client, .awaiting⟩] }
    | _ => none
  | .closeDone call =>
    -- an error of the core client's close is returned, but the state is stored all the same
    if c.closes.any fun f => f.call == call && f.progress == .awaiting then
      some (storeState (removeClose c call) call .disconnected)
    else none
  | .closePanic call =>
    if c.closes.any fun f => f.call == call && f.progress == .awaiting then
      some (removeClose c call)
    else none
  | .dropClose call =>
    if c.closes.any fun f => f.call == call then some (removeClose c call) else none

/-- At most one future of each kind is live, and it belongs to the call that wrote the
state last; `inner` is set exactly while connected; each core client that was created
is in `inner` or was handed to a close, once. -/
structure Inv (c : PyAsyncClient) : Prop where
  connects : c.connects = [] ∨ ∃ p, c.connects = [⟨c.writer, p⟩] ∧ c.state = .connecting
  closes : c.closes = [] ∨ ∃ k p, c.closes = [⟨c.writer, k, p⟩] ∧ c.state = .closing
  installed : c.inner.isSome = true ↔ c.state = .connected
  writer : c.writer = c.calls
  fresh : ∀ k ∈ c.created, k ≤ c.calls ∧ (c.state = .connecting → k ≠ c.calls)
  nodup : c.created.Nodup
  owned : c.created.Perm (c.handed ++ c.inner.toList)

theorem inv_new : Inv .new where
  connects := Or.inl rfl
  closes := Or.inl rfl
  installed := by simp [PyAsyncClient.new]
  writer := rfl
  fresh := by simp [PyAsyncClient.new]
  nodup := List.nodup_nil
  owned := List.Perm.refl _

theorem Inv.inner_none {c : PyAsyncClient} (h : Inv c) (hstate : c.state ≠ .connected) :
    c.inner = none := by
  rw [← Option.isNone_iff_eq_none, ← Option.not_isSome]
  simp only [h.installed.not.mpr hstate, Bool.not_false]

theorem Inv.connects_nil {c : PyAsyncClient} (h : Inv c) (hstate : c.state ≠ .connecting) :
    c.connects = [] := by
  rcases h.connects with hnil | ⟨p, -, hconnecting⟩
  · exact hnil
  · exact absurd hconnecting hstate

theorem Inv.closes_nil {c : PyAsyncClient} (h : Inv c) (hstate : c.state ≠ .closing) :
    c.closes = [] := by
  rcases h.closes with hnil | ⟨k, p, -, hclosing⟩
  · exact hnil
  · exact absurd hclosing hstate

/-- A live connect future is the only one, and its call wrote the state. -/
theorem Inv.of_connect {c : PyAsyncClient} (h : Inv c) {call : Nat} {p : Progress}
    (hmem : (⟨call, p⟩ : ConnectFuture) ∈ c.connects) :
    c.connects = [⟨call, p⟩] ∧ call = c.calls ∧ c.state = .connecting := by
  rcases h.connects with hnil | ⟨q, hone, hstate⟩
  · simp [hnil] at hmem
  · rw [hone, List.mem_singleton, ConnectFuture.mk.injEq] at hmem
    obtain ⟨rfl, rfl⟩ := hmem
    exact ⟨hone, h.writer, hstate⟩

theorem Inv.of_close {c : PyAsyncClient} (h : Inv c) {f : CloseFuture} (hmem : f ∈ c.closes) :
    c.closes = [f] ∧ f.call = c.calls ∧ c.state = .closing := by
  rcases h.closes with hnil | ⟨k, p, hone, hstate⟩
  · simp [hnil] at hmem
  · rw [hone, List.mem_singleton] at hmem
    subst hmem
    exact ⟨hone, h.writer, hstate⟩

/-- The moves from a state of the invariant: who changes what, and in which state. -/
inductive Move (c : PyAsyncClient) : Act → PyAsyncClient → Prop where
  | connectRefused {config : Except PyErr ConnectConfig} {awaitable : Except PyErr Unit}
      (h : (∃ e, config = .error e) ∨ c.state ≠ .disconnected) : Move c (.connect config awaitable) c
  | connect (cfg : ConnectConfig) {awaitable : Except PyErr Unit} {connects : List ConnectFuture}
      (hstate : c.state = .disconnected) (hfits : cfg.Fits)
      (hfut : awaitable = .ok () ∧ connects = [⟨c.calls + 1, .unstarted⟩] ∨
        (∃ e, awaitable = .error e) ∧ connects = []) :
      Move c (.connect (.ok cfg) awaitable) { c with
        state := .connecting, writer := c.calls + 1, calls := c.calls + 1
        connectionInfo := cfg.info, limiter := ⟨c.calls + 1, cfg.maxOps, cfg.timeoutMs⟩
        connects := connects }
  | connectPanicked (cfg : ConnectConfig) {awaitable : Except PyErr Unit}
      (hstate : c.state = .disconnected) (hfits : ¬ cfg.Fits) :
      Move c (.connect (.ok cfg) awaitable) { c with
        state := .connecting, writer := c.calls + 1, calls := c.calls + 1
        connectionInfo := cfg.info }
  | closeRefused {awaitable : Except PyErr Unit} (h : c.state ≠ .connected) :
      Move c (.close awaitable) c
  | close {awaitable : Except PyErr Unit} {closes : List CloseFuture} (hstate : c.state = .connected)
      (hfut : awaitable = .ok () ∧ closes = [⟨c.calls + 1, c.inner, .unstarted⟩] ∨
        (∃ e, awaitable = .error e) ∧ closes = []) :
      Move c (.close awaitable) { c with
        state := .closing, writer := c.calls + 1, calls := c.calls + 1
        inner := none, handed := c.handed ++ c.inner.toList, connectionInfo := .default
        limiter := ⟨c.calls + 1, 0, 0⟩, closes := closes }
  | pollConnect (h : c.connects = [⟨c.calls, .unstarted⟩]) (hstate : c.state = .connecting) :
      Move c (.pollConnect c.calls) { c with connects := [⟨c.calls, .awaiting⟩] }
  | connectOk (h : c.connects = [⟨c.calls, .awaiting⟩]) (hstate : c.state = .connecting) :
      Move c (.connectOk c.calls) { c with
        connects := [], inner := some c.calls, created := c.created ++ [c.calls]
        state := .connected, writer := c.calls }
  | connectEnd {a : Act} (ha : a = .connectErr c.calls ∨ a = .connectPanic c.calls ∨
        a = .dropConnect c.calls) (h : c.connects = [⟨c.calls, .awaiting⟩])
      (hstate : c.state = .connecting) :
      Move c a { c with connects := [], state := .disconnected, writer := c.calls }
  | dropUnstarted (h : c.connects = [⟨c.calls, .unstarted⟩]) (hstate : c.state = .connecting) :
      Move c (.dropConnect c.calls) { c with connects := [] }
  | pollClose {client : Option Nat} (h : c.closes = [⟨c.calls, client, .unstarted⟩])
      (hstate : c.state = .closing) :
      Move c (.pollClose c.calls) { c with closes := [⟨c.calls, client, .awaiting⟩] }
  | closeDone {client : Option Nat} (h : c.closes = [⟨c.calls, client, .awaiting⟩])
      (hstate : c.state = .closing) :
      Move c (.closeDone c.calls) { c with
        closes := [], state := .disconnected, writer := c.calls }
  | closeLost {a : Act} {f : CloseFuture} (ha : a = .closePanic c.calls ∨ a = .dropClose c.calls)
      (h : c.closes = [f]) (hstate : c.state = .closing) : Move c a { c with closes := [] }

theorem move_connect {c c' : PyAsyncClient} (h : Inv c) {config : Except PyErr ConnectConfig}
    {awaitable : Except PyErr Unit} (hstep : step c (.connect config awaitable) = some c') :
    Move c (.connect config awaitable) c' := by
  obtain rfl := Option.some.inj hstep
  unfold connect
  cases config with
  | error e => exact .connectRefused (Or.inl ⟨e, rfl⟩)
  | ok cfg =>
    dsimp only
    by_cases hstate : c.state = .disconnected
    · have hnil := h.connects_nil (by simp [hstate])
      rw [if_pos hstate]
      by_cases hfits : cfg.Fits
      · rw [OperationLimiter.new_of_fits hfits]
        cases awaitable with
        | error e =>
          have := Move.connect (c := c) cfg hstate hfits (Or.inr ⟨⟨e, rfl⟩, rfl⟩)
          rw [← hnil] at this
          exact this
        | ok u =>
          have := Move.connect (c := c) cfg hstate hfits (Or.inl ⟨rfl, rfl⟩)
          simpa [hnil] using this
      · rw [OperationLimiter.new_of_not_fits hfits]
        exact .connectPanicked cfg hstate hfits
    · rw [if_neg hstate]
      exact .connectRefused (Or.inr hstate)

theorem move_close {c c' : PyAsyncClient} (h : Inv c) {awaitable : Except PyErr Unit}
    (hstep : step c (.close awaitable) = some c') : Move c (.close awaitable) c' := by
  obtain rfl := Option.some.inj hstep
  unfold close prepareClose
  cases hstate : c.state with
  | disconnected => exact .closeRefused (by simp [hstate])
  | closing => exact .closeRefused (by simp [hstate])
  | connecting => exact .closeRefused (by simp [hstate])
  | connected =>
    have hnil := h.closes_nil (by simp [hstate])
    cases awaitable with
    | error e =>
      have := Move.close (c := c) hstate (Or.inr ⟨⟨e, rfl⟩, rfl⟩)
      rw [← hnil] at this
      exact this
    | ok u =>
      have := Move.close (c := c) hstate (Or.inl ⟨rfl, rfl⟩)
      simpa [hnil] using this

theorem removeConnect_of_single {c : PyAsyncClient} {call : Nat} {p : Progress}
    (h : c.connects = [⟨call, p⟩]) : removeConnect c call = { c with connects := [] } := by
  simp [removeConnect, h]

theorem removeClose_of_single {c : PyAsyncClient} {f : CloseFuture} (h : c.closes = [f]) :
    removeClose c f.call = { c with closes := [] } := by
  simp [removeClose, h]

/-- A step that needs a connect future in a given place, read backwards. -/
theorem Inv.of_ite_connect {c c' x : PyAsyncClient} (h : Inv c) {call : Nat} {p : Progress}
    (hstep : (if (⟨call, p⟩ : ConnectFuture) ∈ c.connects then some x else none) = some c') :
    c.connects = [⟨call, p⟩] ∧ call = c.calls ∧ c.state = .connecting ∧ x = c' := by
  obtain ⟨hmem, hx⟩ := Option.ite_none_right_eq_some.mp hstep
  obtain ⟨hone, hcall, hstate⟩ := h.of_connect hmem
  exact ⟨hone, hcall, hstate, Option.some.inj hx⟩

theorem Inv.of_ite_close {c c' x : PyAsyncClient} (h : Inv c) {q : CloseFuture → Bool}
    (hstep : (if c.closes.any q then some x else none) = some c') :
    ∃ f, c.closes = [f] ∧ q f = true ∧ f.call = c.calls ∧ c.state = .closing ∧ x = c' := by
  obtain ⟨hany, hx⟩ := Option.ite_none_right_eq_some.mp hstep
  obtain ⟨f, hmem, hq⟩ := List.any_eq_true.mp hany
  obtain ⟨hone, hcall, hstate⟩ := h.of_close hmem
  exact ⟨f, hone, hq, hcall, hstate, Option.some.inj hx⟩

theorem step_move {c c' : PyAsyncClient} {a : Act} (h : Inv c) (hstep : step c a = some c') :
    Move c a c' := by
  cases a with
  | connect config awaitable => exact move_connect h hstep
  | close awaitable => exact move_close h hstep
  | pollConnect call =>
    obtain ⟨hone, rfl, hstate, rfl⟩ := h.of_ite_connect hstep
    rw [removeConnect_of_single hone]
    exact .pollConnect hone hstate
  | connectOk call =>
    obtain ⟨hone, rfl, hstate, rfl⟩ := h.of_ite_connect hstep
    rw [removeConnect_of_single hone]
    exact .connectOk hone hstate
  | connectErr call =>
    obtain ⟨hone, rfl, hstate, rfl⟩ := h.of_ite_connect hstep
    rw [removeConnect_of_single hone]
    exact .connectEnd (Or.inl rfl) hone hstate
  | connectPanic call =>
    obtain ⟨hone, rfl, hstate, rfl⟩ := h.of_ite_connect hstep
    rw [removeConnect_of_single hone, dropGuard, if_pos hstate]
    exact .connectEnd (Or.inr (Or.inl rfl)) hone hstate
  | dropConnect call =>
    dsimp only [step] at hstep
    split at hstep
    · rename_i hmem
      obtain ⟨hone, rfl, hstate⟩ := h.of_connect hmem
      obtain rfl := Option.some.inj hstep
      rw [removeConnect_of_single hone, dropGuard, if_pos hstate]
      exact .connectEnd (Or.inr (Or.inr rfl)) hone hstate
    · obtain ⟨hone, rfl, hstate, rfl⟩ := h.of_ite_connect hstep
      rw [removeConnect_of_single hone]
      exact .dropUnstarted hone hstate
  | pollClose call =>
    dsimp only [step] at hstep
    split at hstep
    · rename_i k client hfind
      have hcall := List.find?_some hfind
      obtain ⟨hone, hcalls, hstate⟩ := h.of_close (List.mem_of_find?_eq_some hfind)
      simp only [beq_iff_eq] at hcall hcalls
      subst hcall
      subst hcalls
      obtain rfl := Option.some.inj hstep
      have hrem := removeClose_of_single hone
      dsimp only at hrem
      rw [hrem]
      exact .pollClose hone hstate
    · cases hstep
  | closeDone call =>
    obtain ⟨⟨k, client, p⟩, hone, hq, hcalls, hstate, rfl⟩ := h.of_ite_close hstep
    simp only [Bool.and_eq_true, beq_iff_eq] at hq hcalls
    obtain ⟨rfl, rfl⟩ := hq
    subst hcalls
    have hrem := removeClose_of_single hone
    dsimp only at hrem
    rw [hrem]
    exact .closeDone hone hstate
  | closePanic call =>
    obtain ⟨f, hone, hq, hcalls, hstate, rfl⟩ := h.of_ite_close hstep
    simp only [Bool.and_eq_true, beq_iff_eq] at hq
    obtain ⟨rfl, -⟩ := hq
    rw [removeClose_of_single hone, hcalls]
    exact .closeLost (Or.inl rfl) hone hstate
  | dropClose call =>
    obtain ⟨f, hone, hq, hcalls, hstate, rfl⟩ := h.of_ite_close hstep
    obtain rfl := beq_iff_eq.mp hq
    rw [removeClose_of_single hone, hcalls]
    exact .closeLost (Or.inr rfl) hone hstate

theorem move_inv {c c' : PyAsyncClient} {a : Act} (h : Inv c) (hmove : Move c a c') : Inv c' := by
  cases hmove with
  | connectRefused => exact h
  | closeRefused => exact h
  | connect cfg hstate hfits hfut =>
    have hinner := h.inner_none (by simp [hstate])
    have hcloses := h.closes_nil (by simp [hstate])
    constructor
    · rcases hfut with ⟨-, rfl⟩ | ⟨-, rfl⟩
      · exact Or.inr ⟨.unstarted, rfl, rfl⟩
      · exact Or.inl rfl
    · exact Or.inl hcloses
    · simp [hinner]
    · rfl
    · intro k hk
      have hle := (h.fresh k hk).1
      exact ⟨by dsimp only; omega, fun _ => by dsimp only; omega⟩
    · exact h.nodup
    · exact h.owned
  | connectPanicked cfg hstate hfits =>
    have hinner := h.inner_none (by simp [hstate])
    refine ⟨Or.inl (h.connects_nil (by simp [hstate])), Or.inl (h.closes_nil (by simp [hstate])),
      by simp [hinner], rfl, ?_, h.nodup, h.owned⟩
    intro k hk
    have hle := (h.fresh k hk).1
    exact ⟨by dsimp only; omega, fun _ => by dsimp only; omega⟩
  | close hstate hfut =>
    have hconnects := h.connects_nil (by simp [hstate])
    constructor
    · exact Or.inl hconnects
    · rcases hfut with ⟨-, rfl⟩ | ⟨-, rfl⟩
      · exact Or.inr ⟨c.inner, .unstarted, rfl, rfl⟩
      · exact Or.inl rfl
    · simp
    · rfl
    · intro k hk
      have hle := (h.fresh k hk).1
      exact ⟨by dsimp only; omega, fun _ => by dsimp only; omega⟩
    · exact h.nodup
    · simpa using h.owned
  | pollConnect hone hstate =>
    exact ⟨Or.inr ⟨.awaiting, by rw [h.writer], hstate⟩, h.closes, h.installed, h.writer,
      h.fresh, h.nodup, h.owned⟩
  | connectOk hone hstate =>
    have hinner := h.inner_none (by simp [hstate])
    have hnew : c.calls ∉ c.created := fun hmem => (h.fresh c.calls hmem).2 hstate rfl
    constructor
    · exact Or.inl rfl
    · exact Or.inl (h.closes_nil (by simp [hstate]))
    · simp
    · rfl
    · intro k hk
      refine ⟨?_, by simp⟩
      rcases List.mem_append.mp hk with hold | hlast
      · exact (h.fresh k hold).1
      · exact Nat.le_of_eq (List.mem_singleton.mp hlast)
    · rw [List.nodup_append]
      refine ⟨h.nodup, by simp, ?_⟩
      rintro k hk j hj rfl
      rw [List.mem_singleton.mp hj] at hk
      exact hnew hk
    · have howned := h.owned
      simp only [hinner, Option.toList_none, List.append_nil] at howned
      simpa using howned.append_right [c.calls]
  | connectEnd ha hone hstate =>
    have hinner := h.inner_none (by simp [hstate])
    exact ⟨Or.inl rfl, Or.inl (h.closes_nil (by simp [hstate])), by simp [hinner], rfl,
      fun k hk => ⟨(h.fresh k hk).1, by simp⟩, h.nodup, h.owned⟩
  | dropUnstarted hone hstate =>
    exact ⟨Or.inl rfl, h.closes, h.installed, h.writer, h.fresh, h.nodup, h.owned⟩
  | pollClose hone hstate =>
    exact ⟨h.connects, Or.inr ⟨_, .awaiting, by rw [h.writer], hstate⟩, h.installed, h.writer,
      h.fresh, h.nodup, h.owned⟩
  | closeDone hone hstate =>
    have hinner := h.inner_none (by simp [hstate])
    exact ⟨Or.inl (h.connects_nil (by simp [hstate])), Or.inl rfl, by simp [hinner], rfl,
      fun k hk => ⟨(h.fresh k hk).1, by simp⟩, h.nodup, h.owned⟩
  | closeLost ha hone hstate =>
    exact ⟨h.connects, Or.inl rfl, h.installed, h.writer, h.fresh, h.nodup, h.owned⟩

theorem step_inv {c c' : PyAsyncClient} {a : Act} (h : Inv c) (hstep : step c a = some c') :
    Inv c' := move_inv h (step_move h hstep)

theorem reachable_inv {c : PyAsyncClient} (h : Reachable step .new c) : Inv c :=
  reachable_invariant (fun _ _ _ hinv hstep => step_inv hinv hstep) inv_new h

/-- A core client that was created is in `inner` or was handed to a close, and to one. -/
theorem Inv.owner {c : PyAsyncClient} (h : Inv c) {k : Nat} (hk : k ∈ c.created) :
    (c.inner = some k ∧ k ∉ c.handed) ∨ (c.inner ≠ some k ∧ c.handed.count k = 1) := by
  have hcount := h.owned.count_eq k
  have hone : c.created.count k = 1 := by
    rw [h.nodup.count, if_pos hk]
  rw [hone, List.count_append] at hcount
  by_cases hinner : c.inner = some k
  · left
    refine ⟨hinner, ?_⟩
    rw [← List.count_eq_zero]
    simp [hinner] at hcount
    omega
  · right
    refine ⟨hinner, ?_⟩
    have hnot : c.inner.toList.count k = 0 := by
      rw [List.count_eq_zero]
      simpa [eq_comm] using hinner
    omega

/-- An attempt that fails or is dropped changes the state only if its own call wrote it last. -/
theorem Inv.end_of_attempt {c c' : PyAsyncClient} {a : Act} {call : Nat} (h : Inv c)
    (ha : a = .connectErr call ∨ a = .connectPanic call ∨ a = .dropConnect call)
    (hstep : step c a = some c') (hchange : c'.state ≠ c.state) : c.writer = call := by
  rw [h.writer]
  cases step_move h hstep with
  | connectEnd hend =>
    rcases ha with rfl | rfl | rfl <;> simp at hend <;> exact hend.symm
  | dropUnstarted => exact absurd rfl hchange
  | closeLost => exact absurd rfl hchange
  | connectRefused => exact absurd rfl hchange
  | closeRefused => exact absurd rfl hchange
  | pollConnect => exact absurd rfl hchange
  | pollClose => exact absurd rfl hchange
  | connect => simp at ha
  | connectPanicked => simp at ha
  | close => simp at ha
  | connectOk => simp at ha
  | closeDone => simp at ha

/-- The lifecycle of the async client, in every reachable state. -/
theorem lifecycle_invariant {c : PyAsyncClient} (hreach : Reachable step .new c) :
    c.connects.length ≤ 1 ∧
    (c.state = .connected → c.inner.isSome = true) ∧
    (c.state = .disconnected ∨ c.state = .closing → c.inner = none) ∧
    (∀ call a c', a = .connectErr call ∨ a = .connectPanic call ∨ a = .dropConnect call →
      step c a = some c' → c'.state ≠ c.state → c.writer = call) ∧
    ∀ k ∈ c.created, (c.inner = some k ∧ k ∉ c.handed) ∨
      (c.inner ≠ some k ∧ c.handed.count k = 1) := by
  have h := reachable_inv hreach
  refine ⟨?_, h.installed.mpr, ?_, fun call a c' ha => h.end_of_attempt ha,
    fun k hk => h.owner hk⟩
  · rcases h.connects with hnil | ⟨p, hone, -⟩
    · simp [hnil]
    · simp [hone]
  · rintro (hstate | hstate)
    · exact h.inner_none (by simp [hstate])
    · exact h.inner_none (by simp [hstate])

/-- Connect, close, and connect again. -/
def reconnecting (cfg : ConnectConfig) : List Act :=
  [.connect (.ok cfg) (.ok ()), .pollConnect 1, .connectOk 1, .close (.ok ()), .pollClose 2,
    .closeDone 2, .connect (.ok cfg) (.ok ()), .pollConnect 3, .connectOk 3]

theorem lifecycle_invariant_reconnected :
    ∃ c, run step .new (reconnecting ⟨⟨"127.0.0.1", 3000, ""⟩, 2, 0⟩) = some c ∧
      c.created = [1, 3] ∧ c.connects.length ≤ 1 ∧
      (c.state = .connected → c.inner.isSome = true) ∧
      ∀ k ∈ c.created, (c.inner = some k ∧ k ∉ c.handed) ∨
        (c.inner ≠ some k ∧ c.handed.count k = 1) := by
  have hrun : ∃ c, run step .new (reconnecting ⟨⟨"127.0.0.1", 3000, ""⟩, 2, 0⟩) = some c ∧
      c.created = [1, 3] := ⟨_, rfl, rfl⟩
  obtain ⟨c, hrun, hcreated⟩ := hrun
  obtain ⟨hone, hsome, -, -, howner⟩ := lifecycle_invariant ⟨_, hrun⟩
  exact ⟨c, hrun, hcreated, hone, hsome, howner⟩

end AerospikePy.Lifecycle.AsyncClient
