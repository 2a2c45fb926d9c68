import AerospikePy.Lifecycle.AsyncClient

/-!
# Transient states without an owner

CONNECTING and CLOSING are left only by a future: `connect` and `close` write them
before the future exists and can still fail, the guard of `connect` exists only once its future is
polled, and the future of `close` has no guard. Where one of these gaps is hit the
state stays, and both `connect` and `close` refuse or ignore every later call.
-/

namespace AerospikePy.Lifecycle.Wedge

open AerospikePy.Core
open AerospikePy.Lib.Runs
open AerospikePy.Lifecycle
open AerospikePy.Lifecycle.AsyncClient

/-- A transient state has a live future that ends it. -/
def Unwedged (c : PyAsyncClient) : Prop :=
  (c.state = .connecting → c.connects ≠ []) ∧ (c.state = .closing → c.closes ≠ [])

/-- The step keeps clear of the gaps: a limiter or an awaitable that cannot be made after
the state was written, a connect future dropped before its first poll, a close future that does not
run to its end. -/
def Owned (c : PyAsyncClient) : Act → Prop
  | .connect (.ok _) (.error _) => c.state ≠ .disconnected
  | .connect (.ok cfg) (.ok _) => c.state = .disconnected → cfg.Fits
  | .close (.error _) => c.state ≠ .connected
  | .dropConnect call => (⟨call, .awaiting⟩ : ConnectFuture) ∈ c.connects
  | .closePanic _ | .dropClose _ => False
  | _ => True

/-- One step wedges the client exactly when it hits a gap. -/
theorem step_unwedged {c c' : PyAsyncClient} {a : Act} (h : Inv c) (hc : Unwedged c)
    (hstep : step c a = some c') : Unwedged c' ↔ Owned c a := by
  cases step_move h hstep with
  | @connectRefused config awaitable hrefused =>
    refine ⟨fun _ => ?_, fun _ => hc⟩
    unfold Owned
    split
    · rcases hrefused with ⟨e, he⟩ | hstate
      · simp_all
      · exact hstate
    · rcases hrefused with ⟨e, he⟩ | hstate
      · simp_all
      · exact fun hdisconnected => absurd hdisconnected hstate
    all_goals simp_all
  | @connect cfg awaitable connects hstate hfits hfut =>
    rcases hfut with ⟨rfl, rfl⟩ | ⟨⟨e, rfl⟩, rfl⟩
    · simp [Unwedged, Owned, hfits]
    · simp [Unwedged, Owned, hstate]
  | @connectPanicked cfg awaitable hstate hfits =>
    have hnil := h.connects_nil (by simp [hstate])
    cases awaitable with
    | error e => simp [Unwedged, Owned, hstate, hnil]
    | ok u => simp [Unwedged, Owned, hstate, hnil, hfits]
  | @closeRefused awaitable hstate =>
    refine ⟨fun _ => ?_, fun _ => hc⟩
    cases awaitable with
    | error e => exact hstate
    | ok u => trivial
  | @close awaitable closes hstate hfut =>
    rcases hfut with ⟨rfl, rfl⟩ | ⟨⟨e, rfl⟩, rfl⟩
    · simp [Unwedged, Owned]
    · simp [Unwedged, Owned, hstate]
  | pollConnect hone hstate => simp [Unwedged, Owned, hstate]
  | connectOk hone hstate => simp [Unwedged, Owned]
  | connectEnd ha hone hstate =>
    rcases ha with rfl | rfl | rfl <;> simp [Unwedged, Owned, hone]
  | dropUnstarted hone hstate => simp [Unwedged, Owned, hone, hstate]
  | pollClose hone hstate => simp [Unwedged, Owned, hstate]
  | closeDone hone hstate => simp [Unwedged, Owned]
  | closeLost ha hone hstate =>
    rcases ha with rfl | rfl <;> simp [Unwedged, Owned, hstate]

/-- The client is never wedged along a run exactly when the run keeps clear of the gaps;
then, whenever no future is live, it is disconnected or connected. -/
theorem never_wedged_iff (acts : List Act) :
    (Throughout step Unwedged .new acts ↔ StepsMeet step Owned .new acts) ∧
    (StepsMeet step Owned .new acts → Throughout step (fun c => c.connects = [] → c.closes = [] →
      c.state = .disconnected ∨ c.state = .connected) .new acts) := by
  have hiff : Throughout step Unwedged .new acts ↔ StepsMeet step Owned .new acts :=
    throughout_iff_stepsMeet (fun _ _ _ h hstep => step_inv h hstep)
      (fun _ _ _ h hc hstep => step_unwedged h hc hstep) inv_new
      (by simp [Unwedged, PyAsyncClient.new])
  refine ⟨hiff, fun hmeet => (hiff.mpr hmeet).imp fun c hc hconnects hcloses => ?_⟩
  cases hstate : c.state with
  | disconnected => exact Or.inl rfl
  | connected => exact Or.inr rfl
  | connecting => exact absurd hconnects (hc.1 hstate)
  | closing => exact absurd hcloses (hc.2 hstate)

/-- No running event loop: the awaitable of `connect` cannot be made, and the state is
CONNECTING with no future. A close that is cancelled while the core client closes, which takes
a core that suspends there, leaves CLOSING. -/
theorem wedged_states_reachable :
    let cfg : ConnectConfig := ⟨⟨"127.0.0.1", 3000, ""⟩, 0, 0⟩
    (∃ c, run step .new [.connect (.ok cfg) (.error ⟨.runtimeError, "no running event loop"⟩)] =
      some c ∧ c.state = .connecting ∧ c.connects = [] ∧ c.closes = []) ∧
    ∃ c, run step .new [.connect (.ok cfg) (.ok ()), .pollConnect 1, .connectOk 1, .close (.ok ()),
      .pollClose 2, .dropClose 2] = some c ∧ c.state = .closing ∧ c.connects = [] ∧
      c.closes = [] :=
  ⟨⟨_, rfl, rfl, rfl, rfl⟩, ⟨_, rfl, rfl, rfl, rfl⟩⟩

end AerospikePy.Lifecycle.Wedge
