import AerospikePy.Core.Types

/-!
# The batch-write retry loop

`client_ops.rs` drives a batch write through the trait `BatchWriteAttempts`: a
clock, a sleep and one send. Here the trait is a structure of functions on an
arbitrary state `σ`, the outside world, so that a scripted environment, a cluster
or an adversary are all instances. Machine integers are Lean's fixed-width ones
and wrap as they do in the release build, whose profile sets no overflow checks.
Log lines are left out, and with them `record_count`, which only they read.
-/

namespace AerospikePy.Retry.Driver

open AerospikePy.Core

variable {σ K R : Type}

/-- The outside world the retry loop talks to. -/
structure BatchWriteAttempts (σ K R : Type) where
  /-- Milliseconds since the call began. -/
  elapsedMs : σ → UInt64 × σ
  /-- Send one attempt: `none` for the whole batch, `some` for a subset. -/
  send : σ → Option (List Nat) → UInt32 → Except PyErr (List (BatchRecord K R)) × σ
  /-- Wait out the backoff between attempts. -/
  sleepMs : σ → UInt64 → σ

/-- The draws of `rand::rng().random_range(0..=hi)`, one for each attempt. -/
structure Jitter where
  randomRange : UInt32 → UInt64 → UInt64
  le_hi : ∀ attempt hi, randomRange attempt hi ≤ hi

def isRetryableResultCode : ResultCode → Bool
  | .timeout | .deviceOverload | .keyBusy | .serverMemError | .partitionUnavailable => true
  | _ => false

/-- A random wait in `[0, min(cap, base * 2^min(attempt, 6))]`. -/
def computeBackoffMs (rng : Jitter) (attempt : UInt32) (baseMs capMs : UInt64) : UInt64 :=
  let cappedAttempt := min attempt 6
  let maxBackoff := min (baseMs * ((1 : UInt64) <<< cappedAttempt.toUInt64)) capMs
  rng.randomRange attempt maxBackoff

def retryBudgetPermits (elapsedMs backoffMs timeoutMs : UInt64) : Bool :=
  timeoutMs == 0 || elapsedMs + backoffMs < timeoutMs

structure BatchWriteRetryStats where
  attempts : UInt32
  maxAttempts : UInt32
  truncatedByTimeout : Bool
  unresolved : UInt32
  deriving DecidableEq, Repr

def BatchWriteRetryStats.singleAttempt : BatchWriteRetryStats where
  attempts := 1
  maxAttempts := 1
  truncatedByTimeout := false
  unresolved := 0

/-- The test `collect_retryable_indices` makes on one record. -/
def BatchRecord.isRetryable (br : BatchRecord K R) : Bool :=
  match br.resultCode with
  | some rc => rc ≠ .ok && isRetryableResultCode rc
  | none => false

def collectRetryableIndices (results : List (BatchRecord K R)) : List Nat :=
  ((List.range results.length).zip results).filterMap fun (i, br) =>
    if BatchRecord.isRetryable br then some i else none

/-- The variables the loop carries from one attempt to the next. -/
structure LoopState (K R : Type) where
  results : List (BatchRecord K R)
  retryIndices : List Nat
  responded : Bool
  lastTransportError : Option PyErr
  attemptsMade : UInt32
  truncatedByTimeout : Bool

def LoopState.initial : LoopState K R where
  results := []
  retryIndices := []
  responded := false
  lastTransportError := none
  attemptsMade := 0
  truncatedByTimeout := false

/-- The merge of an answered attempt, up to the new list of retryable indices. -/
def LoopState.absorb (st : LoopState K R) (attemptResults : List (BatchRecord K R)) :
    LoopState K R :=
  let results :=
    if st.responded then
      -- the zip stops at the shorter of the two, as `update_count` does
      (st.retryIndices.zip attemptResults).foldl
        (fun acc (originalIdx, retryRecord) => acc.set originalIdx retryRecord) st.results
    else attemptResults
  { st with
    results := results
    retryIndices := collectRetryableIndices results
    responded := true
    lastTransportError := none }

inductive Flow where
  | «continue» | «break»
  deriving DecidableEq

/-- The head of a pass. A retry draws its backoff, asks whether the budget still
permits it, and sleeps; `false` is the break on an exhausted budget. -/
def backoffGuard (env : BatchWriteAttempts σ K R) (rng : Jitter) (timeoutMs : UInt64)
    (attempt : UInt32) (s : σ) : Bool × σ :=
  if attempt > 0 then
    let backoffMs := computeBackoffMs rng (attempt - 1) 10 500
    let (elapsedMs, s) := env.elapsedMs s
    if retryBudgetPermits elapsedMs backoffMs timeoutMs then (true, env.sleepMs s backoffMs)
    else (false, s)
  else (true, s)

/-- One pass of `for attempt in 0..=max_retries`. -/
def attemptBody (env : BatchWriteAttempts σ K R) (rng : Jitter) (timeoutMs : UInt64)
    (attempt : UInt32) (st : LoopState K R) (s : σ) : Flow × LoopState K R × σ :=
  match backoffGuard env rng timeoutMs attempt s with
  | (false, s) => (.break, { st with truncatedByTimeout := true }, s)
  | (true, s) =>
    let st := { st with attemptsMade := st.attemptsMade + 1 }
    match env.send s (if st.responded then some st.retryIndices else none) attempt with
    | (.error e, s) => (.continue, { st with lastTransportError := some e }, s)
    | (.ok attemptResults, s) =>
      let st := st.absorb attemptResults
      (if st.retryIndices.isEmpty then .break else .continue, st, s)

/-- The loop, with its number of passes left as the structural argument. -/
def attemptLoop (env : BatchWriteAttempts σ K R) (rng : Jitter) (timeoutMs : UInt64) :
    Nat → UInt32 → LoopState K R → σ → LoopState K R × σ
  | 0, _, st, s => (st, s)
  | passes + 1, attempt, st, s =>
    match attemptBody env rng timeoutMs attempt st s with
    | (.break, st, s) => (st, s)
    | (.continue, st, s) => attemptLoop env rng timeoutMs passes (attempt + 1) st s

/-- What the call returns once the loop is left. -/
def LoopState.finish (st : LoopState K R) (maxRetries : UInt32) :
    Except PyErr (List (BatchRecord K R) × BatchWriteRetryStats) :=
  match st.lastTransportError, st.responded with
  | some e, false => .error e
  | _, _ => .ok (st.results,
      { attempts := st.attemptsMade
        maxAttempts := maxRetries + 1
        truncatedByTimeout := st.truncatedByTimeout
        unresolved := UInt32.ofNat st.retryIndices.length })

def driveBatchWriteRetries (env : BatchWriteAttempts σ K R) (rng : Jitter)
    (maxRetries : UInt32) (timeoutMs : UInt64) (s : σ) :
    Except PyErr (List (BatchRecord K R) × BatchWriteRetryStats) × σ :=
  let (st, s) := attemptLoop env rng timeoutMs (maxRetries.toNat + 1) 0 .initial s
  (st.finish maxRetries, s)

/-- `do_batch_write`: one plain batch call without retries, the loop with them.
The fast path builds the operations of a whole-batch attempt. -/
def doBatchWrite (env : BatchWriteAttempts σ K R) (rng : Jitter)
    (maxRetries : UInt32) (timeoutMs : UInt64) (s : σ) :
    Except PyErr (List (BatchRecord K R) × BatchWriteRetryStats) × σ :=
  if maxRetries = 0 then
    match env.send s none 0 with
    | (.error e, s) => (.error e, s)
    | (.ok results, s) => (.ok (results, .singleAttempt), s)
  else driveBatchWriteRetries env rng maxRetries timeoutMs s

end AerospikePy.Retry.Driver
