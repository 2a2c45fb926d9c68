import AerospikePy.Retry.Results

/-!
# The clock, the sleeps and the sends of a run

`observing` keeps everything the retry loop asks of the world, in order. One
pass either breaks on the budget after a reading of the clock, or sends once;
a retry's send comes right after the reading and the sleep of its own guard.
-/

namespace AerospikePy.Retry.Events

open AerospikePy.Core
open AerospikePy.Retry.Driver
open AerospikePy.Retry.Trace
open AerospikePy.Retry.Results

variable {σ K R : Type}

/-- A request to the world, with the world it met. -/
inductive Event (σ K R : Type) where
  | clock (before : σ)
  | sleep (before : σ) (ms : UInt64)
  | send (ev : Send σ K R)

def Event.sent : Event σ K R → Option (Send σ K R)
  | .send ev => some ev
  | .clock _ | .sleep _ _ => none

def sends (events : List (Event σ K R)) : List (Send σ K R) := events.filterMap Event.sent

def observing (env : BatchWriteAttempts σ K R) :
    BatchWriteAttempts (σ × List (Event σ K R)) K R where
  elapsedMs s := ((env.elapsedMs s.1).1, ((env.elapsedMs s.1).2, s.2 ++ [.clock s.1]))
  send s indices attempt :=
    ((env.send s.1 indices attempt).1,
      ((env.send s.1 indices attempt).2, s.2 ++ [.send (issue env s.1 indices attempt)]))
  sleepMs s ms := (env.sleepMs s.1 ms, s.2 ++ [.sleep s.1 ms])

/-- Everything that a call of `do_batch_write` asks of the world, in order. -/
def batchWriteEvents (env : BatchWriteAttempts σ K R) (rng : Jitter) (maxRetries : UInt32)
    (timeoutMs : UInt64) (s : σ) : List (Event σ K R) :=
  (doBatchWrite (observing env) rng maxRetries timeoutMs (s, [])).2.2

@[simp] theorem sends_nil : sends ([] : List (Event σ K R)) = [] := rfl

@[simp] theorem sends_append (events rest : List (Event σ K R)) :
    sends (events ++ rest) = sends events ++ sends rest := List.filterMap_append

@[simp] theorem sends_clock (s : σ) (events : List (Event σ K R)) :
    sends (.clock s :: events) = sends events := rfl

@[simp] theorem sends_sleep (s : σ) (ms : UInt64) (events : List (Event σ K R)) :
    sends (.sleep s ms :: events) = sends events := rfl

@[simp] theorem sends_send (ev : Send σ K R) (events : List (Event σ K R)) :
    sends (.send ev :: events) = ev :: sends events := rfl

theorem observing_projects (env : BatchWriteAttempts σ K R) :
    Projects (observing env) (recording env) fun s => (s.1, sends s.2) where
  elapsed s := by
    refine ⟨rfl, ?_⟩
    simp [observing, recording]
  send s is a := by
    refine ⟨rfl, ?_⟩
    simp [observing, recording]
  sleep s ms := by simp [observing, recording]

theorem observing_projects_world (env : BatchWriteAttempts σ K R) :
    Projects (observing env) env Prod.fst where
  elapsed _ := ⟨rfl, rfl⟩
  send _ _ _ := ⟨rfl, rfl⟩
  sleep _ _ := rfl

theorem doBatchWrite_eq_drive_of_ne (env : BatchWriteAttempts σ K R) (rng : Jitter)
    {maxRetries : UInt32} (h : maxRetries ≠ 0) (timeoutMs : UInt64) (s : σ) :
    doBatchWrite env rng maxRetries timeoutMs s =
      driveBatchWriteRetries env rng maxRetries timeoutMs s := if_neg h

theorem sends_batchWriteEvents (env : BatchWriteAttempts σ K R) (rng : Jitter)
    {maxRetries : UInt32} (h : maxRetries ≠ 0) (timeoutMs : UInt64) (s : σ) :
    sends (batchWriteEvents env rng maxRetries timeoutMs s) =
      batchWriteSends env rng maxRetries timeoutMs s := by
  have hproject := (driveBatchWriteRetries_project (observing_projects env) rng maxRetries
    timeoutMs (s, [])).2
  unfold batchWriteEvents batchWriteSends
  rw [doBatchWrite_eq_drive_of_ne _ rng h, doBatchWrite_eq_drive_of_ne _ rng h]
  exact congrArg Prod.snd hproject

theorem computeBackoffMs_le (rng : Jitter) (attempt : UInt32) (baseMs capMs : UInt64) :
    computeBackoffMs rng attempt baseMs capMs ≤ capMs := by
  unfold computeBackoffMs
  exact UInt64.le_trans (rng.le_hi _ _) (Std.min_le_right)

/-- The wait of the guard of one attempt. -/
def backoffOf (rng : Jitter) (attempt : UInt32) : UInt64 :=
  computeBackoffMs rng (attempt - 1) 10 500

/-- What the guard of an attempt asks of the world before the send it permits, and
the world it leaves to that send. -/
inductive Permitted (env : BatchWriteAttempts σ K R) (rng : Jitter) (timeoutMs : UInt64)
    (attempt : UInt32) (s : σ) : List (Event σ K R) → σ → Prop where
  | first (h : attempt = 0) : Permitted env rng timeoutMs attempt s [] s
  | retry (h : attempt ≠ 0)
      (hbudget : retryBudgetPermits (env.elapsedMs s).1 (backoffOf rng attempt) timeoutMs = true) :
      Permitted env rng timeoutMs attempt s
        [.clock s, .sleep (env.elapsedMs s).2 (backoffOf rng attempt)]
        (env.sleepMs (env.elapsedMs s).2 (backoffOf rng attempt))

theorem Permitted.sends_eq {env : BatchWriteAttempts σ K R} {rng : Jitter} {timeoutMs : UInt64}
    {attempt : UInt32} {s t : σ} {pause : List (Event σ K R)}
    (h : Permitted env rng timeoutMs attempt s pause t) : sends pause = [] := by
  cases h with
  | first _ => rfl
  | retry _ _ => rfl

theorem backoffGuard_observing (env : BatchWriteAttempts σ K R) (rng : Jitter)
    (timeoutMs : UInt64) (attempt : UInt32) (s : σ) (log : List (Event σ K R)) :
    (attempt ≠ 0 ∧
      retryBudgetPermits (env.elapsedMs s).1 (backoffOf rng attempt) timeoutMs = false ∧
      backoffGuard (observing env) rng timeoutMs attempt (s, log) =
        (false, ((env.elapsedMs s).2, log ++ [.clock s]))) ∨
    ∃ pause t, Permitted env rng timeoutMs attempt s pause t ∧
      backoffGuard (observing env) rng timeoutMs attempt (s, log) = (true, (t, log ++ pause)) := by
  by_cases ha : attempt = 0
  · right
    refine ⟨[], s, .first ha, ?_⟩
    subst ha
    rw [List.append_nil]
    rfl
  · have hpos : attempt > 0 := UInt32.pos_iff_ne_zero.mpr ha
    unfold backoffGuard
    rw [if_pos hpos]
    cases hbudget : retryBudgetPermits (env.elapsedMs s).1 (backoffOf rng attempt) timeoutMs with
    | false =>
      left
      refine ⟨ha, rfl, ?_⟩
      show (if retryBudgetPermits (env.elapsedMs s).1 (backoffOf rng attempt) timeoutMs = true
        then _ else _) = _
      rw [hbudget]
      rfl
    | true =>
      right
      refine ⟨_, _, .retry ha hbudget, ?_⟩
      show (if retryBudgetPermits (env.elapsedMs s).1 (backoffOf rng attempt) timeoutMs = true
        then _ else _) = _
      rw [hbudget]
      simp [observing, backoffOf]

/-- One pass over an observed environment: break on the budget after a reading of the
clock, or send, and then break exactly if the answer leaves nothing to retry. -/
theorem attemptBody_observing (env : BatchWriteAttempts σ K R) (rng : Jitter)
    (timeoutMs : UInt64) (attempt : UInt32) (st : LoopState K R) (s : σ)
    (log : List (Event σ K R)) :
    let body := attemptBody (observing env) rng timeoutMs attempt st (s, log)
    (attempt ≠ 0 ∧
      retryBudgetPermits (env.elapsedMs s).1 (backoffOf rng attempt) timeoutMs = false ∧
      body = (.break, { st with truncatedByTimeout := true },
        ((env.elapsedMs s).2, log ++ [.clock s]))) ∨
    ∃ pause t flow, Permitted env rng timeoutMs attempt s pause t ∧
      body = (flow, LoopState.after st (issue env t (LoopState.request st) attempt),
        ((env.send t (LoopState.request st) attempt).2,
          log ++ pause ++ [.send (issue env t (LoopState.request st) attempt)])) ∧
      (flow = .break ↔ (∃ rs, (env.send t (LoopState.request st) attempt).1 = .ok rs) ∧
        (LoopState.after st (issue env t (LoopState.request st) attempt)).retryIndices = []) := by
  dsimp only [attemptBody]
  rcases backoffGuard_observing env rng timeoutMs attempt s log with
    ⟨hne, hbudget, hguard⟩ | ⟨pause, t, hpass, hguard⟩
  · left
    rw [hguard]
    exact ⟨hne, hbudget, rfl⟩
  · right
    rw [hguard]
    refine ⟨pause, t, ?_⟩
    dsimp only [observing, issue, LoopState.after, LoopState.request]
    generalize (if st.responded = true then some st.retryIndices else none) = req
    cases hr : (env.send t req attempt).1 with
    | error e => exact ⟨.continue, hpass, rfl, by simp⟩
    | ok rs => exact ⟨_, hpass, rfl, by simp⟩

/-- What was asked before a loop is entered stays at the front of what was asked. -/
theorem attemptLoop_observing_extends (env : BatchWriteAttempts σ K R) (rng : Jitter)
    (timeoutMs : UInt64) (passes : Nat) (attempt : UInt32) (st : LoopState K R) (s : σ)
    (log : List (Event σ K R)) :
    log <+: (attemptLoop (observing env) rng timeoutMs passes attempt st (s, log)).2.2 := by
  induction passes generalizing attempt st s log with
  | zero => exact List.prefix_rfl
  | succ passes ih =>
    dsimp only [attemptLoop]
    rcases attemptBody_observing env rng timeoutMs attempt st s log with
      ⟨-, -, heq⟩ | ⟨pause, t, flow, -, heq, -⟩
    · rw [heq]
      exact List.prefix_append _ _
    · rw [heq]
      have hfront : log <+: log ++ pause ++
          [.send (issue env t (LoopState.request st) attempt)] := by
        rw [List.append_assoc]
        exact List.prefix_append _ _
      cases flow with
      | «break» => exact hfront
      | «continue» => exact hfront.trans (ih _ _ _ _)

end AerospikePy.Retry.Events
