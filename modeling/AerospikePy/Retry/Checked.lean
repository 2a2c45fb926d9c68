import AerospikePy.Retry.Events

/-!
# The retry loop with overflow checks

A build with overflow checks panics where the release build wraps. The functions
below are those of the retry loop with every sum and product of theirs checked,
the ones that only a log line reads included, and every write to the merged
vector bounds-checked. `none` is the panic.
-/

namespace AerospikePy.Retry.Checked

open AerospikePy.Core
open AerospikePy.Retry.Driver (BatchWriteAttempts Jitter LoopState Flow BatchWriteRetryStats)
open AerospikePy.Retry.Events

variable {σ K R : Type}

def checkedAdd32 (a b : UInt32) : Option UInt32 :=
  if a.toNat + b.toNat < UInt32.size then some (a + b) else none

def checkedAdd64 (a b : UInt64) : Option UInt64 :=
  if a.toNat + b.toNat < UInt64.size then some (a + b) else none

def checkedMul64 (a b : UInt64) : Option UInt64 :=
  if a.toNat * b.toNat < UInt64.size then some (a * b) else none

theorem checkedAdd32_of_lt {a b : UInt32} (h : a.toNat + b.toNat < UInt32.size) :
    checkedAdd32 a b = some (a + b) := if_pos h

theorem checkedAdd64_of_lt {a b : UInt64} (h : a.toNat + b.toNat < UInt64.size) :
    checkedAdd64 a b = some (a + b) := if_pos h

theorem checkedAdd32_one {a : UInt32} (h : a.toNat + 1 < UInt32.size) :
    checkedAdd32 a 1 = some (a + 1) :=
  checkedAdd32_of_lt h

/-- A checked sum of one is exact. -/
theorem toNat_succ {a : UInt32} (h : a.toNat + 1 < UInt32.size) :
    (a + 1).toNat = a.toNat + 1 := by
  rw [UInt32.toNat_add]
  exact Nat.mod_eq_of_lt h

def computeBackoffMs (rng : Jitter) (attempt : UInt32) (baseMs capMs : UInt64) :
    Option UInt64 := do
  let cappedAttempt := min attempt 6
  let product ← checkedMul64 baseMs ((1 : UInt64) <<< cappedAttempt.toUInt64)
  return rng.randomRange attempt (min product capMs)

def retryBudgetPermits (elapsedMs backoffMs timeoutMs : UInt64) : Option Bool :=
  if timeoutMs == 0 then some true
  else (checkedAdd64 elapsedMs backoffMs).map fun sum => decide (sum < timeoutMs)

def backoffGuard (env : BatchWriteAttempts σ K R) (rng : Jitter) (maxRetries : UInt32)
    (timeoutMs : UInt64) (attempt : UInt32) (s : σ) : Option (Bool × σ) :=
  if attempt > 0 then do
    let backoffMs ← computeBackoffMs rng (attempt - 1) 10 500
    let (elapsedMs, s) := env.elapsedMs s
    let permits ← retryBudgetPermits elapsedMs backoffMs timeoutMs
    if permits then some (true, env.sleepMs s backoffMs)
    else
      -- the warning of a truncated run names the attempts asked for
      (checkedAdd32 maxRetries 1).map fun _ => (false, s)
  else some (true, s)

/-- The merge, whose writes must lie in the merged vector. -/
def absorb (st : LoopState K R) (attemptResults : List (BatchRecord K R)) :
    Option (LoopState K R) :=
  if st.responded && (st.retryIndices.zip attemptResults).any (st.results.length ≤ ·.1) then none
  else some (st.absorb attemptResults)

def attemptBody (env : BatchWriteAttempts σ K R) (rng : Jitter) (maxRetries : UInt32)
    (timeoutMs : UInt64) (attempt : UInt32) (st : LoopState K R) (s : σ) :
    Option (Flow × LoopState K R × σ) := do
  match ← backoffGuard env rng maxRetries timeoutMs attempt s with
  | (false, s) => some (.break, { st with truncatedByTimeout := true }, s)
  | (true, s) =>
    let attemptsMade ← checkedAdd32 st.attemptsMade 1
    let st := { st with attemptsMade := attemptsMade }
    match env.send s (if st.responded then some st.retryIndices else none) attempt with
    | (.error e, s) => some (.continue, { st with lastTransportError := some e }, s)
    | (.ok attemptResults, s) =>
      let st ← absorb st attemptResults
      if st.retryIndices.isEmpty then
        -- the debug line of a finished run counts its attempts
        (checkedAdd32 attempt 1).map fun _ => (.break, st, s)
      else some (.continue, st, s)

def attemptLoop (env : BatchWriteAttempts σ K R) (rng : Jitter) (maxRetries : UInt32)
    (timeoutMs : UInt64) :
    Nat → UInt32 → LoopState K R → σ → Option (LoopState K R × σ)
  | 0, _, st, s => some (st, s)
  | passes + 1, attempt, st, s =>
    match attemptBody env rng maxRetries timeoutMs attempt st s with
    | none => none
    | some (.break, st, s) => some (st, s)
    | some (.continue, st, s) => attemptLoop env rng maxRetries timeoutMs passes (attempt + 1) st s

def finish (st : LoopState K R) (maxRetries : UInt32) :
    Option (Except PyErr (List (BatchRecord K R) × BatchWriteRetryStats)) :=
  match st.lastTransportError, st.responded with
  | some e, false => some (.error e)
  | _, _ => (checkedAdd32 maxRetries 1).map fun _ => st.finish maxRetries

def driveBatchWriteRetries (env : BatchWriteAttempts σ K R) (rng : Jitter)
    (maxRetries : UInt32) (timeoutMs : UInt64) (s : σ) :
    Option (Except PyErr (List (BatchRecord K R) × BatchWriteRetryStats) × σ) := do
  let (st, s) ← attemptLoop env rng maxRetries timeoutMs (maxRetries.toNat + 1) 0 .initial s
  let out ← finish st maxRetries
  return (out, s)

/-- `do_batch_write` in a build with overflow checks. -/
def doBatchWrite (env : BatchWriteAttempts σ K R) (rng : Jitter)
    (maxRetries : UInt32) (timeoutMs : UInt64) (s : σ) :
    Option (Except PyErr (List (BatchRecord K R) × BatchWriteRetryStats) × σ) :=
  if maxRetries = 0 then some (Driver.doBatchWrite env rng maxRetries timeoutMs s)
  else driveBatchWriteRetries env rng maxRetries timeoutMs s

theorem computeBackoffMs_eq (rng : Jitter) (attempt : UInt32) :
    computeBackoffMs rng attempt 10 500 = some (Driver.computeBackoffMs rng attempt 10 500) := by
  have hcap : min attempt 6 ≤ 6 := Std.min_le_right
  have hproduct : checkedMul64 10 ((1 : UInt64) <<< (min attempt 6).toUInt64) =
      some (10 * ((1 : UInt64) <<< (min attempt 6).toUInt64)) := by
    generalize min attempt 6 = shift at hcap ⊢
    obtain ⟨n, rfl⟩ : ∃ n : Fin 7, shift = UInt32.ofNat n.val := by
      refine ⟨⟨shift.toNat, ?_⟩, by simp⟩
      have := UInt32.le_iff_toNat_le.mp hcap
      exact Nat.lt_succ_of_le this
    revert n
    decide
  unfold computeBackoffMs
  dsimp only
  rw [hproduct]
  rfl

theorem retryBudgetPermits_eq {elapsedMs backoffMs timeoutMs : UInt64}
    (h : timeoutMs = 0 ∨ elapsedMs.toNat + backoffMs.toNat < UInt64.size) :
    retryBudgetPermits elapsedMs backoffMs timeoutMs =
      some (Driver.retryBudgetPermits elapsedMs backoffMs timeoutMs) := by
  unfold retryBudgetPermits Driver.retryBudgetPermits
  by_cases hzero : timeoutMs = 0
  · simp [hzero]
  · rw [checkedAdd64_of_lt (h.resolve_left hzero)]
    simp [hzero]

/-- The clock read by the guard of a retry leaves room for the longest backoff. -/
def ReadingFits (env : BatchWriteAttempts σ K R) (timeoutMs : UInt64) (s : σ) : Prop :=
  timeoutMs = 0 ∨ (env.elapsedMs s).1.toNat + 500 < UInt64.size

theorem backoffGuard_eq {env : BatchWriteAttempts σ K R} {rng : Jitter} {maxRetries : UInt32}
    {timeoutMs : UInt64} {attempt : UInt32} {s : σ} (hmax : maxRetries.toNat + 1 < UInt32.size)
    (hclock : attempt ≠ 0 → ReadingFits env timeoutMs s) :
    backoffGuard env rng maxRetries timeoutMs attempt s =
      some (Driver.backoffGuard env rng timeoutMs attempt s) := by
  unfold backoffGuard Driver.backoffGuard
  by_cases ha : attempt > 0
  · have hfits := hclock (UInt32.pos_iff_ne_zero.mp ha)
    have hbackoff : (Driver.computeBackoffMs rng (attempt - 1) 10 500).toNat ≤ 500 :=
      UInt64.le_iff_toNat_le.mp (computeBackoffMs_le rng (attempt - 1) 10 500)
    have hsum : timeoutMs = 0 ∨ (env.elapsedMs s).1.toNat +
        (Driver.computeBackoffMs rng (attempt - 1) 10 500).toNat < UInt64.size := by
      refine hfits.imp_right fun hroom => ?_
      omega
    rw [if_pos ha, if_pos ha, computeBackoffMs_eq]
    simp only [bind, Option.bind, retryBudgetPermits_eq hsum]
    rw [checkedAdd32_one hmax]
    cases Driver.retryBudgetPermits (env.elapsedMs s).1
        (Driver.computeBackoffMs rng (attempt - 1) 10 500) timeoutMs with
    | true => rfl
    | false => rfl
  · rw [if_neg ha, if_neg ha]

theorem absorb_eq {st : LoopState K R} {attemptResults : List (BatchRecord K R)}
    (h : ∀ i ∈ st.retryIndices, i < st.results.length) :
    absorb st attemptResults = some (st.absorb attemptResults) := by
  have hinside : (st.retryIndices.zip attemptResults).any (st.results.length ≤ ·.1) = false := by
    rw [List.any_eq_false]
    intro p hp
    have := h p.1 (List.of_mem_zip hp).1
    simpa using this
  unfold absorb
  rw [hinside, Bool.and_false]
  rfl

/-- Where the counters, the clock and the indices have room, a checked pass is a pass. -/
theorem attemptBody_eq {env : BatchWriteAttempts σ K R} {rng : Jitter} {maxRetries : UInt32}
    {timeoutMs : UInt64} {attempt : UInt32} {st : LoopState K R} {s : σ}
    (hmax : maxRetries.toNat + 1 < UInt32.size) (hattempt : attempt.toNat + 1 < UInt32.size)
    (hmade : st.attemptsMade.toNat + 1 < UInt32.size)
    (hclock : attempt ≠ 0 → ReadingFits env timeoutMs s)
    (hindices : ∀ i ∈ st.retryIndices, i < st.results.length) :
    attemptBody env rng maxRetries timeoutMs attempt st s =
      some (Driver.attemptBody env rng timeoutMs attempt st s) := by
  unfold attemptBody Driver.attemptBody
  rw [backoffGuard_eq hmax hclock]
  simp only [bind, Option.bind]
  generalize Driver.backoffGuard env rng timeoutMs attempt s = g
  obtain ⟨go, t⟩ := g
  cases go with
  | false => rfl
  | true =>
    dsimp only
    rw [checkedAdd32_one hmade]
    dsimp only
    generalize env.send t (if st.responded = true then some st.retryIndices else none) attempt = o
    obtain ⟨out, u⟩ := o
    cases out with
    | error e => rfl
    | ok rs =>
      dsimp only
      rw [absorb_eq (by exact hindices)]
      dsimp only
      rw [checkedAdd32_one hattempt]
      split <;> rfl

theorem finish_eq {st : LoopState K R} {maxRetries : UInt32}
    (hmax : maxRetries.toNat + 1 < UInt32.size) :
    finish st maxRetries = some (st.finish maxRetries) := by
  unfold finish
  rw [checkedAdd32_one hmax]
  obtain ⟨results, retryIndices, responded, lastTransportError, made, truncated⟩ := st
  cases lastTransportError with
  | none => rfl
  | some e => cases responded <;> rfl

end AerospikePy.Retry.Checked
