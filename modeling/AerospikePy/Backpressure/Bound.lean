import AerospikePy.Lib.Runs
import AerospikePy.Backpressure.Operations
import AerospikePy.Lifecycle.AsyncClient
import AerospikePy.Lifecycle.Client

/-!
# The bound on operations in flight

A client object is its lifecycle beside its operations, interleaved in any order. A
limiter never has more permits out than its size, but the count over the object can
still exceed the configured maximum in two ways: an entry point that takes no permit,
and a reconnect of the async client, whose new limiter does not know the permits of
the old one.
-/

namespace AerospikePy.Backpressure.Bound

open AerospikePy.Core
open AerospikePy.Lib.Runs
open AerospikePy.Lifecycle
open AerospikePy.Backpressure.Operations

/-- What the operations see of a client; `borrows` tells which calls keep the object
borrowed while they run, so that `connect` and `close` are refused. -/
structure ClientObject (L A : Type) where
  step : L → A → Option L
  getClient : L → Except PyErr Nat
  limiter : L → OperationLimiter
  borrows : RecordOp → Bool

inductive ObjectAct (A : Type) where
  | lifecycle (a : A)
  | call (a : CallAct)

variable {L A : Type}

def objectStep (o : ClientObject L A) (s : L × Calls) : ObjectAct A → Option (L × Calls)
  | .lifecycle a =>
    if s.2.ops.any fun f => o.borrows f.kind then some s
    else (o.step s.1 a).map fun c => (c, s.2)
  | .call a => (callStep (o.getClient s.1) (o.limiter s.1) s.2 a).map fun calls => (s.1, calls)

def PacedObject (s : L × Calls) : ObjectAct A → Prop
  | .lifecycle _ => True
  | .call a => Paced s.2 a

instance (s : L × Calls) (a : ObjectAct A) : Decidable (PacedObject s a) := by
  cases a <;> unfold PacedObject <;> infer_instance

/-- `max_concurrent_operations` in the config of the object is `n`. -/
def configured (n : Nat) (config : Except PyErr ConnectConfig) : Bool :=
  match config with
  | .ok cfg => cfg.maxOps == n
  | .error _ => true

/-- `AsyncClient`: a call borrows the object only until it returns its awaitable. -/
def asyncObject (n : Nat) : ClientObject AsyncClient.PyAsyncClient AsyncClient.Act where
  step c a := match a with
    | .connect config awaitable =>
      if configured n config then AsyncClient.step c (.connect config awaitable) else none
    | a => AsyncClient.step c a
  getClient := AsyncClient.getClient
  limiter c := c.limiter
  borrows _ := false

/-- `Client`: a call borrows the object while it blocks; a query object holds its own
core client. -/
def syncObject (n : Nat) : ClientObject Client.PyClient Client.Act where
  step c a := match a with
    | .connect config created =>
      if configured n config then Client.step c (.connect config created) else none
    | a => Client.step c a
  getClient := Client.getClient
  limiter c := c.limiter
  borrows kind := !usesQuery kind

/-- A state property that the lifecycle keeps and that ties the limiter to `n`. -/
structure Limited (o : ClientObject L A) (n : Nat) (K : L → Prop) : Prop where
  step : ∀ c a c', K c → o.step c a = some c' → K c'
  limit : ∀ c, K c → (o.limiter c).maxConcurrent = n ∨ (o.limiter c).maxConcurrent = 0

def AsyncLimited (n : Nat) (c : AsyncClient.PyAsyncClient) : Prop :=
  AsyncClient.Inv c ∧ (c.limiter.maxConcurrent = n ∨ c.limiter.maxConcurrent = 0)

theorem asyncObject_step {n : Nat} {c c' : AsyncClient.PyAsyncClient} {a : AsyncClient.Act}
    (hstep : (asyncObject n).step c a = some c') : AsyncClient.step c a = some c' ∧
      ∀ cfg awaitable, a = .connect (.ok cfg) awaitable → cfg.maxOps = n := by
  cases a with
  | connect config awaitable =>
    simp only [asyncObject, Option.ite_none_right_eq_some] at hstep
    refine ⟨hstep.2, ?_⟩
    intro cfg awaitable' heq
    obtain ⟨rfl, -⟩ := AsyncClient.Act.connect.inj heq
    simpa [configured] using hstep.1
  | _ => exact ⟨hstep, by simp⟩

theorem asyncObject_limited (n : Nat) : Limited (asyncObject n) n (AsyncLimited n) where
  step c a c' h hstep := by
    obtain ⟨hinv, hlim⟩ := h
    obtain ⟨hstep, hcfg⟩ := asyncObject_step hstep
    refine ⟨AsyncClient.step_inv hinv hstep, ?_⟩
    cases AsyncClient.step_move hinv hstep with
    | connectRefused => exact hlim
    | @connect cfg awaitable => exact Or.inl (hcfg cfg awaitable rfl)
    | connectPanicked => exact hlim
    | closeRefused => exact hlim
    | close => exact Or.inr rfl
    | pollConnect => exact hlim
    | connectOk => exact hlim
    | connectEnd => exact hlim
    | dropUnstarted => exact hlim
    | pollClose => exact hlim
    | closeDone => exact hlim
    | closeLost => exact hlim
  limit c h := h.2

def SyncLimited (n : Nat) (c : Client.PyClient) : Prop :=
  c.limiter.maxConcurrent = n ∨ c.limiter.maxConcurrent = 0

theorem syncObject_step {n : Nat} {c c' : Client.PyClient} {a : Client.Act}
    (hstep : (syncObject n).step c a = some c') : Client.step c a = some c' ∧
      ∀ cfg created, a = .connect (.ok cfg) created → cfg.maxOps = n := by
  cases a with
  | connect config created =>
    simp only [syncObject, Option.ite_none_right_eq_some] at hstep
    refine ⟨hstep.2, ?_⟩
    intro cfg created' heq
    obtain ⟨rfl, -⟩ := Client.Act.connect.inj heq
    simpa [configured] using hstep.1
  | close closed => exact ⟨hstep, by simp⟩

theorem syncObject_limited (n : Nat) : Limited (syncObject n) n (SyncLimited n) where
  step c a c' h hstep := by
    obtain ⟨hstep, hcfg⟩ := syncObject_step hstep
    cases Client.step_move hstep with
    | kept => exact h
    | attempted => exact h
    | installed cfg => exact Or.inl (hcfg cfg _ rfl)
    | unlimited => exact h
    | closed => exact Or.inr rfl
    | closePanicked => exact h
  limit c h := h

theorem objectStep_poolInv {o : ClientObject L A} {n : Nat} {K : L → Prop} (hn : 0 < n)
    (ho : Limited o n K) {s s' : L × Calls} {a : ObjectAct A} (hK : K s.1)
    (hpool : PoolInv n s.2.ops) (hstep : objectStep o s a = some s') :
    K s'.1 ∧ PoolInv n s'.2.ops := by
  cases a with
  | lifecycle a =>
    dsimp only [objectStep] at hstep
    split at hstep
    · obtain rfl := Option.some.inj hstep
      exact ⟨hK, hpool⟩
    · obtain ⟨c, hc, rfl⟩ := Option.map_eq_some_iff.mp hstep
      exact ⟨ho.step _ _ _ hK hc, hpool⟩
  | call a =>
    obtain ⟨calls, hcalls, rfl⟩ := Option.map_eq_some_iff.mp hstep
    exact ⟨hK, callStep_poolInv hn (ho.limit _ hK) hpool hcalls⟩

theorem objectStep_onePool {o : ClientObject L A} {s s' : L × Calls} {a : ObjectAct A}
    (hone : OnePool s.2.ops) (hpaced : PacedObject s a) (hstep : objectStep o s a = some s') :
    OnePool s'.2.ops := by
  cases a with
  | lifecycle a =>
    dsimp only [objectStep] at hstep
    split at hstep
    · obtain rfl := Option.some.inj hstep
      exact hone
    · obtain ⟨c, hc, rfl⟩ := Option.map_eq_some_iff.mp hstep
      exact hone
  | call a =>
    obtain ⟨calls, hcalls, rfl⟩ := Option.map_eq_some_iff.mp hstep
    exact callStep_onePool hone hpaced hcalls

/-- Along a run that keeps to one pool the count stays within the limiter's size. -/
theorem inFlight_bounded {o : ClientObject L A} {n : Nat} {K : L → Prop} (hn : 0 < n)
    (ho : Limited o n K) {c : L} (hK : K c) {acts : List (ObjectAct A)}
    (hpaced : StepsMeet (objectStep o) PacedObject (c, .new) acts) :
    Throughout (objectStep o) (fun s => inFlightCount s.2.ops ≤ n) (c, .new) acts := by
  have hall : Throughout (objectStep o)
      (fun s => (K s.1 ∧ PoolInv n s.2.ops) ∧ OnePool s.2.ops) (c, .new) acts := by
    refine throughout_of_stepsMeet ?_ ⟨⟨hK, poolInv_nil n⟩, by simp [OnePool, Calls.new]⟩ hpaced
    intro s a s' h hp hstep
    exact ⟨objectStep_poolInv hn ho h.1.1 h.1.2 hstep, objectStep_onePool h.2 hp hstep⟩
  exact hall.imp fun s h => inFlightCount_le h.1.2 h.2

/-- Both clients keep within `max_concurrent_operations` in every run in which each
operation enters flight with a permit and never beside permits of another limiter. -/
theorem operations_in_flight_bounded (n : Nat) (hn : 0 < n) :
    (∀ acts, StepsMeet (objectStep (asyncObject n)) PacedObject (.new, .new) acts →
      Throughout (objectStep (asyncObject n)) (fun s => inFlightCount s.2.ops ≤ n)
        (.new, .new) acts) ∧
    ∀ acts, StepsMeet (objectStep (syncObject n)) PacedObject (.new, .new) acts →
      Throughout (objectStep (syncObject n)) (fun s => inFlightCount s.2.ops ≤ n)
        (.new, .new) acts := by
  constructor
  · intro acts hpaced
    exact inFlight_bounded hn (asyncObject_limited n) ⟨AsyncClient.inv_new, Or.inr rfl⟩ hpaced
  · intro acts hpaced
    exact inFlight_bounded hn (syncObject_limited n) (Or.inr rfl) hpaced

def oneAtATime : ConnectConfig := ⟨⟨"127.0.0.1", 3000, ""⟩, 1, 0⟩

def asyncConnect (call : Nat) : List (ObjectAct AsyncClient.Act) :=
  [.lifecycle (.connect (.ok oneAtATime) (.ok ())), .lifecycle (.pollConnect call),
    .lifecycle (.connectOk call)]

def asyncClose (call : Nat) : List (ObjectAct AsyncClient.Act) :=
  [.lifecycle (.close (.ok ())), .lifecycle (.pollClose call), .lifecycle (.closeDone call)]

def syncConnect : List (ObjectAct Client.Act) :=
  [.lifecycle (.connect (.ok oneAtATime) (.returned (.ok ())))]

/-- Two operations of the same kind, started and sent without waiting for one another. -/
def twice (kind : RecordOp) : List (ObjectAct A) :=
  [.call (.start kind), .call (.start kind), .call (.enter 0), .call (.enter 1)]

/-- A put waits for the get; the object is closed and connected again after both. -/
theorem operations_in_flight_bounded_one :
    let acts := asyncConnect 1 ++ [.call (.start .get), .call (.enter 0), .call (.start .put),
      .call (.leave 0), .call (.enter 1), .call (.leave 1)] ++ asyncClose 2 ++ asyncConnect 3 ++
      [.call (.start .get), .call (.enter 2)]
    (run (objectStep (asyncObject 1)) (.new, .new) acts).map (fun s => inFlightCount s.2.ops) =
      some 1 ∧
    Throughout (objectStep (asyncObject 1)) (fun s => inFlightCount s.2.ops ≤ 1)
      (.new, .new) acts :=
  ⟨by decide +kernel, (operations_in_flight_bounded 1 (by decide)).1 _ (by decide +kernel)⟩

/-- Two `apply` calls at once, on either client; and two gets of the async client, the
second on the pool of a reconnect made while the first is in flight. -/
theorem operations_in_flight_exceed :
    let count {L : Type} (s : L × Calls) := inFlightCount s.2.ops
    (run (objectStep (asyncObject 1)) (.new, .new) (asyncConnect 1 ++ twice .apply)).map count =
      some 2 ∧
    (run (objectStep (syncObject 1)) (.new, .new) (syncConnect ++ twice .apply)).map count =
      some 2 ∧
    (run (objectStep (asyncObject 1)) (.new, .new) (asyncConnect 1 ++
      [.call (.start .get), .call (.enter 0)] ++ asyncClose 2 ++ asyncConnect 3 ++
      [.call (.start .get), .call (.enter 1)])).map count = some 2 := by
  decide +kernel

end AerospikePy.Backpressure.Bound
