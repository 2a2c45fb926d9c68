import AerospikePy.Retry.Statistics

/-!
# The fast path against the loop

Without retries `do_batch_write` makes one plain batch call and returns the statistics
`SINGLE_ATTEMPT`. The loop with `max_retries = 0` makes the same call, but counts the
records that carry a retryable code.
-/

namespace AerospikePy.Retry.FastPath

open AerospikePy.Core
open AerospikePy.Retry.Driver
open AerospikePy.Retry.Results
open AerospikePy.Retry.Statistics

variable {σ K R : Type}

/-- The statistics of one attempt that left this many records to be retried. -/
def singlePass (retryable : Nat) : BatchWriteRetryStats :=
  { BatchWriteRetryStats.singleAttempt with unresolved := UInt32.ofNat retryable }

theorem doBatchWrite_zero (env : BatchWriteAttempts σ K R) (rng : Jitter) (timeoutMs : UInt64)
    (s : σ) :
    (doBatchWrite env rng 0 timeoutMs s).1 =
      (env.send s none 0).1.map fun rs => (rs, .singleAttempt) := by
  unfold doBatchWrite
  rw [if_pos rfl]
  rcases env.send s none 0 with ⟨e | rs, s'⟩
  · rfl
  · rfl

/-- The first pass sends the whole batch at once. -/
theorem attemptBody_first (env : BatchWriteAttempts σ K R) (rng : Jitter) (timeoutMs : UInt64)
    {s s' : σ} {out : Except PyErr (List (BatchRecord K R))} :
    env.send s none 0 = (out, s') →
      attemptBody env rng timeoutMs 0 .initial s = match out with
        | .error e => (.continue, ⟨[], [], false, some e, 1, false⟩, s')
        | .ok rs => (if (collectRetryableIndices rs).isEmpty then .break else .continue,
            ⟨rs, collectRetryableIndices rs, true, none, 1, false⟩, s') := by
  intro h
  have hguard : backoffGuard env rng timeoutMs 0 s = (true, s) := rfl
  unfold attemptBody
  rw [hguard]
  dsimp only [LoopState.initial]
  simp only [Bool.false_eq_true, if_false, h]
  cases out with
  | error e => rfl
  | ok rs => rfl

/-- The loop is left after its only pass, whatever came back. -/
theorem driveBatchWriteRetries_zero (env : BatchWriteAttempts σ K R) (rng : Jitter)
    (timeoutMs : UInt64) (s : σ) :
    (driveBatchWriteRetries env rng 0 timeoutMs s).1 =
      (env.send s none 0).1.map fun rs => (rs, singlePass (collectRetryableIndices rs).length) := by
  show (attemptLoop env rng timeoutMs 1 0 .initial s).1.finish 0 = _
  rcases hsend : env.send s none 0 with ⟨out, s'⟩
  rw [attemptLoop, attemptBody_first env rng timeoutMs hsend]
  cases out with
  | error e => rfl
  | ok rs =>
    dsimp only
    by_cases hnone : (collectRetryableIndices rs).isEmpty = true
    · rw [if_pos hnone]
      rfl
    · rw [if_neg hnone]
      rfl

theorem singlePass_eq_iff {retryable : Nat} :
    singlePass retryable = .singleAttempt ↔ 2 ^ 32 ∣ retryable := by
  unfold singlePass BatchWriteRetryStats.singleAttempt
  simp only [BatchWriteRetryStats.mk.injEq, true_and]
  rw [← UInt32.toNat_inj]
  show retryable % 2 ^ 32 = 0 ↔ 2 ^ 32 ∣ retryable
  omega

/-- The two agree exactly when the send failed, or no record of its answer carries a
retryable code, counted in 32 bits. -/
theorem doBatchWrite_eq_drive_iff (env : BatchWriteAttempts σ K R) (rng : Jitter)
    (timeoutMs : UInt64) (s : σ) :
    (doBatchWrite env rng 0 timeoutMs s).1 = (driveBatchWriteRetries env rng 0 timeoutMs s).1 ↔
      ∀ rs, (env.send s none 0).1 = .ok rs →
        2 ^ 32 ∣ rs.countP fun br => br.resultCode.any isRetryableResultCode := by
  rw [doBatchWrite_zero, driveBatchWriteRetries_zero]
  cases (env.send s none 0).1 with
  | error e => exact iff_of_true rfl nofun
  | ok rs =>
    simp only [Except.map, Except.ok.injEq, Prod.mk.injEq, true_and]
    rw [eq_comm, singlePass_eq_iff, length_collectRetryableIndices]
    constructor
    · intro h _ heq
      rwa [← heq]
    · intro h
      exact h rs rfl

/-- One record that timed out: the fast path reports none to be retried, the loop one. -/
theorem doBatchWrite_hides_timeout :
    let timedOut : BatchRecord Unit Unit := ⟨(), none, some .timeout, true⟩
    let script : Script Unit Unit := ⟨[.ok [timedOut]], 5, 0⟩
    (doBatchWrite scriptedAttempts noJitter 0 1000 script).1 =
        .ok ([timedOut], ⟨1, 1, false, 0⟩) ∧
      (driveBatchWriteRetries scriptedAttempts noJitter 0 1000 script).1 =
        .ok ([timedOut], ⟨1, 1, false, 1⟩) ∧
      (doBatchWrite scriptedAttempts noJitter 0 1000 script).1 ≠
        (driveBatchWriteRetries scriptedAttempts noJitter 0 1000 script).1 := by
  intro timedOut script
  refine ⟨rfl, rfl, fun h => ?_⟩
  have hstats : (⟨1, 1, false, 0⟩ : BatchWriteRetryStats) = ⟨1, 1, false, 1⟩ :=
    (Prod.mk.inj (Except.ok.inj h)).2
  exact absurd hstats (by decide)

end AerospikePy.Retry.FastPath
