import AerospikePy.Retry.Checked

/-!
# The statistics of a run

What `BatchWriteRetryStats` reports against what the run asked of the world: the
number of sends, the limit, the records still to be retried and the reason the
loop was left. The limit is `max_retries + 1` in 32 bits, which has no room for
the largest number of retries.
-/

namespace AerospikePy.Retry.Statistics

open AerospikePy.Core
open AerospikePy.Lib.Overlay
open AerospikePy.Retry.Driver
open AerospikePy.Retry.Trace
open AerospikePy.Retry.Results
open AerospikePy.Retry.Events
open AerospikePy.Retry.Checked (ReadingFits toNat_succ)

variable {σ K R : Type}

/-- Every send but the first comes right after a reading of the clock and a sleep
that the budget permitted. -/
def Paced (env : BatchWriteAttempts σ K R) (timeoutMs : UInt64) (events : List (Event σ K R)) :
    Prop :=
  ∀ pre ev post, events = pre ++ .send ev :: post → sends pre ≠ [] →
    ∃ front s ms, pre = front ++ [.clock s, .sleep (env.elapsedMs s).2 ms] ∧
      retryBudgetPermits (env.elapsedMs s).1 ms timeoutMs = true

structure Head (env : BatchWriteAttempts σ K R) (timeoutMs : UInt64) (st : LoopState K R)
    (events : List (Event σ K R)) : Prop where
  attempts : st.attemptsMade.toNat = (sends events).length
  indices : st.retryIndices = collectRetryableIndices st.results
  silent : st.responded = false → sends events ≠ [] → st.lastTransportError.isSome = true
  measured : st.results = [] ∨
    ∃ ev ∈ sends events, ∃ rs, ev.outcome = .ok rs ∧ rs.length = st.results.length
  paced : Paced env timeoutMs events

theorem head_initial (env : BatchWriteAttempts σ K R) (timeoutMs : UInt64) :
    Head env timeoutMs (.initial : LoopState K R) [] where
  attempts := rfl
  indices := rfl
  silent _ h := absurd rfl h
  measured := .inl rfl
  paced pre ev post h := by simp at h

theorem paced_append {env : BatchWriteAttempts σ K R} {timeoutMs : UInt64}
    {events pause : List (Event σ K R)} (h : Paced env timeoutMs events)
    (hpause : sends pause = []) : Paced env timeoutMs (events ++ pause) := by
  intro pre ev post heq hsent
  rcases List.append_eq_append_iff.mp heq with ⟨mid, hpre, hmid⟩ | ⟨mid, hevents, hmid⟩
  · -- a pause holds no send
    have : ev ∈ sends pause := by
      rw [hmid]
      simp
    rw [hpause] at this
    simp at this
  · cases mid with
    | nil =>
      have : ev ∈ sends pause := by
        rw [← List.nil_append pause, ← hmid]
        simp
      rw [hpause] at this
      simp at this
    | cons e mid =>
      rw [List.cons_append, List.cons.injEq] at hmid
      obtain ⟨rfl, -⟩ := hmid
      exact h pre ev mid hevents hsent

theorem paced_send {env : BatchWriteAttempts σ K R} {rng : Jitter} {timeoutMs : UInt64}
    {attempt : UInt32} {s t : σ} {events pause : List (Event σ K R)} (ev : Send σ K R)
    (h : Paced env timeoutMs events) (hpass : Permitted env rng timeoutMs attempt s pause t)
    (hfirst : attempt = 0 → sends events = []) :
    Paced env timeoutMs (events ++ pause ++ [.send ev]) := by
  intro pre e post heq hsent
  rcases List.eq_nil_or_concat post with rfl | ⟨post, last, rfl⟩
  · obtain ⟨hpre, -⟩ := List.append_inj' heq rfl
    rw [← hpre] at hsent ⊢
    cases hpass with
    | first hzero => exact absurd (hfirst hzero) (by simpa using hsent)
    | retry _ hbudget => exact ⟨events, s, _, rfl, hbudget⟩
  · rw [List.concat_eq_append, ← List.cons_append, ← List.append_assoc] at heq
    obtain ⟨hfront, -⟩ := List.append_inj' heq rfl
    exact paced_append h hpass.sends_eq pre e post hfront hsent

theorem sends_pass {env : BatchWriteAttempts σ K R} {rng : Jitter} {timeoutMs : UInt64}
    {attempt : UInt32} {s t : σ} {events pause : List (Event σ K R)} (ev : Send σ K R)
    (hpass : Permitted env rng timeoutMs attempt s pause t) :
    sends (events ++ pause ++ [.send ev]) = sends events ++ [ev] := by
  simp [hpass.sends_eq]

/-- Absorbing a response keeps the length of the merged vector, once there is one. -/
theorem length_absorb (st : LoopState K R) (rs : List (BatchRecord K R)) :
    (st.absorb rs).results.length = if st.responded then st.results.length else rs.length := by
  unfold LoopState.absorb
  cases st.responded with
  | false => rfl
  | true => exact length_overlay _ _

/-- One send of a pass keeps the invariant, whatever its outcome. -/
theorem head_after {env : BatchWriteAttempts σ K R} {rng : Jitter} {timeoutMs : UInt64}
    {attempt : UInt32} {st : LoopState K R} {s t : σ} {events pause : List (Event σ K R)}
    (h : Head env timeoutMs st events) (hpass : Permitted env rng timeoutMs attempt s pause t)
    (hattempt : attempt.toNat = (sends events).length)
    (hroom : (sends events).length + 1 < UInt32.size) (ev : Send σ K R) :
    Head env timeoutMs (LoopState.after st ev) (events ++ pause ++ [.send ev]) := by
  have hsends : sends (events ++ pause ++ [.send ev]) = sends events ++ [ev] := sends_pass ev hpass
  have hfirst : attempt = 0 → sends events = [] := by
    rintro rfl
    exact List.length_eq_zero_iff.mp hattempt.symm
  have hcount : (st.attemptsMade + 1).toNat = (sends events ++ [ev]).length := by
    rw [toNat_succ (by rw [h.attempts]; exact hroom), h.attempts, List.length_append]
    rfl
  have hpaced := paced_send ev h.paced hpass hfirst
  unfold LoopState.after
  cases hout : ev.outcome with
  | error e =>
    refine ⟨by rw [hsends]; exact hcount, h.indices, fun _ _ => rfl, ?_, hpaced⟩
    rw [hsends]
    refine h.measured.imp_right ?_
    rintro ⟨e', he', rs, hok, hlen⟩
    exact ⟨e', List.mem_append_left _ he', rs, hok, hlen⟩
  | ok rs =>
    refine ⟨by rw [hsends]; exact hcount, rfl, fun hf => absurd hf (by simp [LoopState.absorb]), ?_,
      hpaced⟩
    rw [hsends]
    have hlen := length_absorb { st with attemptsMade := st.attemptsMade + 1 } rs
    dsimp only at hlen ⊢
    cases hresp : st.responded with
    | false =>
      rw [hresp] at hlen
      exact .inr ⟨ev, by simp, rs, hout, hlen.symm⟩
    | true =>
      rw [hresp] at hlen
      rcases h.measured with hnil | ⟨e', he', rs', hok, hlen'⟩
      · left
        rw [← List.length_eq_zero_iff, hlen, hnil]
        rfl
      · right
        exact ⟨e', List.mem_append_left _ he', rs', hok, by rw [hlen']; exact hlen.symm⟩

structure Exit (env : BatchWriteAttempts σ K R) (timeoutMs : UInt64) (limit : Nat)
    (st : LoopState K R) (events : List (Event σ K R)) : Prop where
  head : Head env timeoutMs st events
  within : (sends events).length ≤ limit
  truncated : st.truncatedByTimeout = true → (sends events).length < limit ∧
    sends events ≠ [] ∧ (st.responded = true → st.retryIndices ≠ [])
  stopped : (sends events).length = limit ∨ st.truncatedByTimeout = true ∨ st.retryIndices = []

/-- What holds before a pass whose number is `attempt`, with `passes` still to make. -/
structure Before (env : BatchWriteAttempts σ K R) (timeoutMs : UInt64) (limit passes : Nat)
    (attempt : UInt32) (st : LoopState K R) (events : List (Event σ K R)) : Prop where
  head : Head env timeoutMs st events
  attempt_eq : attempt.toNat = (sends events).length
  limit_eq : (sends events).length + passes = limit
  untruncated : st.truncatedByTimeout = false
  open_ : st.responded = true → st.retryIndices ≠ []

theorem before_initial (env : BatchWriteAttempts σ K R) (timeoutMs : UInt64) (limit : Nat) :
    Before env timeoutMs limit limit 0 (.initial : LoopState K R) [] where
  head := head_initial env timeoutMs
  attempt_eq := rfl
  limit_eq := Nat.zero_add limit
  untruncated := rfl
  open_ h := by cases h

theorem after_truncated (st : LoopState K R) (ev : Send σ K R) :
    (LoopState.after st ev).truncatedByTimeout = st.truncatedByTimeout := by
  unfold LoopState.after
  cases ev.outcome with
  | error e => rfl
  | ok rs => rfl

/-- The next pass starts where this one went on. -/
theorem before_next {env : BatchWriteAttempts σ K R} {rng : Jitter} {timeoutMs : UInt64}
    {limit passes : Nat} {attempt : UInt32} {st : LoopState K R} {s t : σ}
    {events pause : List (Event σ K R)} (hlimit : limit < UInt32.size)
    (h : Before env timeoutMs limit (passes + 1) attempt st events)
    (hpass : Permitted env rng timeoutMs attempt s pause t) (ev : Send σ K R)
    (hgo : (∃ rs, ev.outcome = .ok rs) → (LoopState.after st ev).retryIndices ≠ []) :
    Before env timeoutMs limit passes (attempt + 1) (LoopState.after st ev)
      (events ++ pause ++ [.send ev]) := by
  have hlimit_eq := h.limit_eq
  have hattempt := h.attempt_eq
  have hsends : (sends (events ++ pause ++ [.send ev])).length = (sends events).length + 1 := by
    rw [sends_pass ev hpass, List.length_append, List.length_singleton]
  have hhead := head_after h.head hpass h.attempt_eq (by omega) ev
  refine ⟨hhead, ?_, ?_, ?_, ?_⟩
  · rw [toNat_succ (by omega), hsends]
    omega
  · rw [hsends]
    omega
  · rw [after_truncated, h.untruncated]
  · intro hresp
    cases hout : ev.outcome with
    | error e =>
      simp only [LoopState.after, hout] at hresp ⊢
      exact h.open_ hresp
    | ok rs => exact hgo ⟨rs, hout⟩

theorem attemptLoop_exit {env : BatchWriteAttempts σ K R} {rng : Jitter} {timeoutMs : UInt64}
    {limit : Nat} (hlimit : limit < UInt32.size) {passes : Nat} {attempt : UInt32}
    {st : LoopState K R} {s : σ} {events : List (Event σ K R)}
    (h : Before env timeoutMs limit passes attempt st events) :
    let r := attemptLoop (observing env) rng timeoutMs passes attempt st (s, events)
    Exit env timeoutMs limit r.1 r.2.2 := by
  induction passes generalizing attempt st s events with
  | zero =>
    have hend : (sends events).length = limit := h.limit_eq
    refine ⟨h.head, hend.le, fun htr => ?_, .inl hend⟩
    dsimp only [attemptLoop] at htr
    rw [h.untruncated] at htr
    cases htr
  | succ passes ih =>
    have hlimit_eq := h.limit_eq
    dsimp only [attemptLoop]
    rcases attemptBody_observing env rng timeoutMs attempt st s events with
      ⟨hne, -, heq⟩ | ⟨pause, t, flow, hpass, heq, hflow⟩
    · -- the budget is exhausted before a retry
      rw [heq]
      have hsends : sends (events ++ [.clock s]) = sends events := by simp
      have hsent : sends events ≠ [] := by
        intro hnil
        have hattempt := h.attempt_eq
        rw [hnil] at hattempt
        exact hne (UInt32.toNat_inj.mp hattempt)
      refine ⟨⟨?_, h.head.indices, ?_, ?_, paced_append h.head.paced rfl⟩, ?_, fun _ => ?_,
        .inr (.inl rfl)⟩
      all_goals rw [hsends]
      · exact h.head.attempts
      · exact h.head.silent
      · exact h.head.measured
      · omega
      · exact ⟨by omega, hsent, h.open_⟩
    · rw [heq]
      cases flow with
      | «break» =>
        obtain ⟨-, hnone⟩ := hflow.mp rfl
        have hnext := head_after h.head hpass h.attempt_eq (by omega)
          (issue env t (LoopState.request st) attempt)
        have hsends : (sends (events ++ pause ++
            [.send (issue env t (LoopState.request st) attempt)])).length =
              (sends events).length + 1 := by
          rw [sends_pass _ hpass, List.length_append, List.length_singleton]
        refine ⟨hnext, by rw [hsends]; omega, fun htr => ?_, .inr (.inr hnone)⟩
        dsimp only at htr
        rw [after_truncated, h.untruncated] at htr
        cases htr
      | «continue» =>
        refine ih (before_next hlimit h hpass _ fun hok hnil => ?_)
        cases hflow.mpr ⟨hok, hnil⟩

/-- The checked loop panics nowhere and leaves what the loop leaves. -/
theorem checked_attemptLoop {env : BatchWriteAttempts σ K R} {rng : Jitter}
    {maxRetries : UInt32} {timeoutMs : UInt64} {limit : Nat}
    (hmax : maxRetries.toNat + 1 < UInt32.size) (hlimit : limit < UInt32.size) {passes : Nat}
    {attempt : UInt32} {st : LoopState K R} {s : σ} {events : List (Event σ K R)}
    (h : Before env timeoutMs limit passes attempt st events)
    (hclock : ∀ u, .clock u ∈
      (attemptLoop (observing env) rng timeoutMs passes attempt st (s, events)).2.2 →
        ReadingFits env timeoutMs u) :
    Checked.attemptLoop env rng maxRetries timeoutMs passes attempt st s =
      some (attemptLoop env rng timeoutMs passes attempt st s) := by
  induction passes generalizing attempt st s events with
  | zero => rfl
  | succ passes ih =>
    have hlimit_eq := h.limit_eq
    have hattempt := h.attempt_eq
    have hindices : ∀ i ∈ st.retryIndices, i < st.results.length := by
      intro i hi
      rw [h.head.indices, collectRetryableIndices_eq] at hi
      exact List.mem_range.mp (List.mem_filter.mp hi).1
    obtain ⟨hflow, hst, hworld⟩ :=
      attemptBody_project (observing_projects_world env) rng timeoutMs attempt st (s, events)
    -- the guard of this pass is the first to read the clock
    have hreading : attempt ≠ 0 → ReadingFits env timeoutMs s := by
      intro hne
      apply hclock
      dsimp only [attemptLoop]
      rcases attemptBody_observing env rng timeoutMs attempt st s events with
        ⟨-, -, heq⟩ | ⟨pause, t, flow, hpass, heq, -⟩
      · rw [heq]
        simp
      · rw [heq]
        cases hpass with
        | first hzero => exact absurd hzero hne
        | retry _ _ =>
          cases flow with
          | «break» => simp
          | «continue» =>
            apply (attemptLoop_observing_extends env rng timeoutMs passes _ _ _ _).subset
            simp
    dsimp only [Checked.attemptLoop, attemptLoop]
    rw [Checked.attemptBody_eq hmax (by omega) (by rw [h.head.attempts]; omega) hreading hindices]
    rcases attemptBody_observing env rng timeoutMs attempt st s events with
      ⟨-, -, heq⟩ | ⟨pause, t, flow, hpass, heq, hbreak⟩
    · rw [heq] at hflow hst hworld
      generalize attemptBody env rng timeoutMs attempt st s = b at hflow hst hworld ⊢
      obtain ⟨flow', st', u⟩ := b
      obtain rfl : Flow.break = flow' := hflow
      rfl
    · have hrest : flow = .continue → ∀ u, .clock u ∈
          (attemptLoop (observing env) rng timeoutMs passes (attempt + 1)
            (LoopState.after st (issue env t (LoopState.request st) attempt))
            ((env.send t (LoopState.request st) attempt).2, events ++ pause ++
              [.send (issue env t (LoopState.request st) attempt)])).2.2 →
            ReadingFits env timeoutMs u := by
        rintro rfl u hu
        apply hclock u
        dsimp only [attemptLoop]
        rw [heq]
        exact hu
      rw [heq] at hflow hst hworld
      generalize attemptBody env rng timeoutMs attempt st s = b at hflow hst hworld ⊢
      obtain ⟨flow', st', u⟩ := b
      obtain rfl : flow = flow' := hflow
      obtain rfl : LoopState.after st (issue env t (LoopState.request st) attempt) = st' := hst
      obtain rfl : (env.send t (LoopState.request st) attempt).2 = u := hworld
      cases flow with
      | «break» => rfl
      | «continue» =>
        refine ih (before_next hlimit h hpass _ fun hok hnil => ?_) (hrest rfl)
        cases hbreak.mpr ⟨hok, hnil⟩

/-- Between the reading of a guard and the send it permits, the clock advances by
exactly the backoff. -/
def ClockExact (env : BatchWriteAttempts σ K R) (events : List (Event σ K R)) : Prop :=
  ∀ front s ms ev post,
    events = front ++ .clock s :: .sleep (env.elapsedMs s).2 ms :: .send ev :: post →
      (env.elapsedMs ev.before).1.toNat = (env.elapsedMs s).1.toNat + ms.toNat

/-- The statistics of a call are those of its run. -/
structure Exact (env : BatchWriteAttempts σ K R) (rng : Jitter) (maxRetries : UInt32)
    (timeoutMs : UInt64) (s : σ) (results : List (BatchRecord K R))
    (stats : BatchWriteRetryStats) : Prop where
  attempts_eq : stats.attempts.toNat = (batchWriteSends env rng maxRetries timeoutMs s).length
  attempts_pos : 1 ≤ stats.attempts
  attempts_le : stats.attempts ≤ stats.maxAttempts
  maxAttempts_eq : stats.maxAttempts.toNat = maxRetries.toNat + 1
  unresolved_eq : stats.unresolved.toNat =
    results.countP fun br => br.resultCode.any isRetryableResultCode
  truncated : stats.truncatedByTimeout = true →
    stats.attempts < stats.maxAttempts ∧ 0 < stats.unresolved
  stopped : stats.attempts = stats.maxAttempts ∨ stats.truncatedByTimeout = true ∨
    stats.unresolved = 0
  unpanicked : Checked.doBatchWrite env rng maxRetries timeoutMs s =
    some (doBatchWrite env rng maxRetries timeoutMs s)
  in_time : timeoutMs ≠ 0 → ClockExact env (batchWriteEvents env rng maxRetries timeoutMs s) →
    ∀ pre ev post, batchWriteSends env rng maxRetries timeoutMs s = pre ++ ev :: post →
      pre ≠ [] → (env.elapsedMs ev.before).1 < timeoutMs

theorem length_collectRetryableIndices (results : List (BatchRecord K R)) :
    (collectRetryableIndices results).length =
      results.countP fun br => br.resultCode.any isRetryableResultCode := by
  have hsame : (fun br : BatchRecord K R => br.resultCode.any isRetryableResultCode) =
      BatchRecord.isRetryable := by
    funext br
    rw [Bool.eq_iff_iff, isRetryable_iff, Option.any_eq_true]
  have hsnd : results = ((List.range results.length).zip results).map Prod.snd :=
    (List.map_snd_zip (by simp)).symm
  unfold collectRetryableIndices
  rw [hsame, List.length_filterMap_eq_countP]
  conv_rhs => rw [hsnd, List.countP_map]
  apply List.countP_congr
  rintro ⟨i, br⟩ -
  cases h : BatchRecord.isRetryable br <;> simp [h]

theorem finish_eq_ok {st : LoopState K R} {maxRetries : UInt32}
    {results : List (BatchRecord K R)} {stats : BatchWriteRetryStats}
    (h : st.finish maxRetries = .ok (results, stats)) :
    results = st.results ∧
      stats = ⟨st.attemptsMade, maxRetries + 1, st.truncatedByTimeout,
        UInt32.ofNat st.retryIndices.length⟩ ∧
      (st.lastTransportError.isSome = true → st.responded = true) := by
  unfold LoopState.finish at h
  split at h
  · cases h
  · rename_i hne
    cases h
    refine ⟨rfl, rfl, fun herr => ?_⟩
    obtain ⟨e, he⟩ := Option.isSome_iff_exists.mp herr
    cases hresp : st.responded with
    | true => rfl
    | false => exact absurd hresp (hne e he)

/-- A send of a run splits what the run asked for at that send. -/
theorem events_of_sends {events : List (Event σ K R)} {pre post : List (Send σ K R)}
    {ev : Send σ K R} (h : sends events = pre ++ ev :: post) :
    ∃ front back, events = front ++ .send ev :: back ∧ sends front = pre := by
  obtain ⟨front, rest, rfl, hfront, hrest⟩ := List.filterMap_eq_append_iff.mp h
  obtain ⟨skipped, e, back, rfl, hskipped, hsent, -⟩ := List.filterMap_eq_cons_iff.mp hrest
  obtain rfl : e = .send ev := by
    cases e with
    | clock s => cases hsent
    | sleep s ms => cases hsent
    | send ev' => rw [Option.some.inj hsent]
  refine ⟨front ++ skipped, back, by rw [List.append_assoc], ?_⟩
  rw [sends_append, show sends front = pre from hfront,
    show sends skipped = [] from List.filterMap_eq_nil_iff.mpr hskipped, List.append_nil]

theorem elapsed_lt_of_paced {env : BatchWriteAttempts σ K R} {timeoutMs : UInt64}
    {events : List (Event σ K R)} (h : Paced env timeoutMs events) (htimeout : timeoutMs ≠ 0)
    (hexact : ClockExact env events) {pre post : List (Send σ K R)} {ev : Send σ K R}
    (heq : sends events = pre ++ ev :: post) (hpre : pre ≠ []) :
    (env.elapsedMs ev.before).1 < timeoutMs := by
  obtain ⟨front, back, hevents, rfl⟩ := events_of_sends heq
  obtain ⟨front', s, ms, rfl, hbudget⟩ := h front ev back hevents hpre
  have hreading := hexact front' s ms ev back (by rw [hevents]; simp)
  have hsum : (env.elapsedMs s).1 + ms < timeoutMs := by
    simpa [retryBudgetPermits, htimeout] using hbudget
  have hsame : (env.elapsedMs ev.before).1 = (env.elapsedMs s).1 + ms := by
    apply UInt64.toNat_inj.mp
    have hroom := (env.elapsedMs ev.before).1.toNat_lt
    rw [UInt64.toNat_add, ← hreading, Nat.mod_eq_of_lt hroom]
  rw [hsame]
  exact hsum

/-- A run with retries is the loop over the observed world. -/
theorem doBatchWrite_observed (env : BatchWriteAttempts σ K R) (rng : Jitter)
    {maxRetries : UInt32} (h : maxRetries ≠ 0) (timeoutMs : UInt64) (s : σ) :
    let r := attemptLoop (observing env) rng timeoutMs (maxRetries.toNat + 1) 0 .initial (s, [])
    (doBatchWrite env rng maxRetries timeoutMs s).1 = r.1.finish maxRetries ∧
      batchWriteEvents env rng maxRetries timeoutMs s = r.2.2 := by
  obtain ⟨hst, -⟩ := attemptLoop_project (observing_projects_world env) rng timeoutMs
    (maxRetries.toNat + 1) 0 .initial (s, [])
  unfold batchWriteEvents
  rw [doBatchWrite_eq_drive_of_ne env rng h, doBatchWrite_eq_drive_of_ne _ rng h]
  refine ⟨?_, rfl⟩
  unfold driveBatchWriteRetries
  dsimp only
  rw [hst]

theorem checked_doBatchWrite {env : BatchWriteAttempts σ K R} {rng : Jitter}
    {maxRetries : UInt32} {timeoutMs : UInt64} {s : σ} (h : maxRetries ≠ 0)
    (hmax : maxRetries.toNat + 1 < UInt32.size)
    (hclock : ∀ u, .clock u ∈ batchWriteEvents env rng maxRetries timeoutMs s →
      ReadingFits env timeoutMs u) :
    Checked.doBatchWrite env rng maxRetries timeoutMs s =
      some (doBatchWrite env rng maxRetries timeoutMs s) := by
  rw [(doBatchWrite_observed env rng h timeoutMs s).2] at hclock
  unfold Checked.doBatchWrite doBatchWrite
  rw [if_neg h, if_neg h]
  unfold Checked.driveBatchWriteRetries driveBatchWriteRetries
  rw [checked_attemptLoop hmax hmax (before_initial env timeoutMs _) hclock]
  simp only [bind, Option.bind, Checked.finish_eq hmax]
  rfl

/-- A run that returns results has had a response. -/
theorem Head.responded {env : BatchWriteAttempts σ K R} {timeoutMs : UInt64}
    {st : LoopState K R} {events : List (Event σ K R)} (h : Head env timeoutMs st events)
    (hsent : sends events ≠ [])
    (hresponds : st.lastTransportError.isSome = true → st.responded = true) :
    st.responded = true := by
  cases hresp : st.responded with
  | true => rfl
  | false =>
    rw [← hresp]
    exact hresponds (h.silent hresp hsent)

theorem Head.length_retryIndices {env : BatchWriteAttempts σ K R} {timeoutMs : UInt64}
    {st : LoopState K R} {events : List (Event σ K R)} (h : Head env timeoutMs st events) :
    st.retryIndices.length =
      st.results.countP fun br => br.resultCode.any isRetryableResultCode := by
  rw [h.indices, length_collectRetryableIndices]

/-- The number of indices fits where the length of every response does. -/
theorem Head.length_retryIndices_lt {env : BatchWriteAttempts σ K R} {timeoutMs : UInt64}
    {st : LoopState K R} {events : List (Event σ K R)} (h : Head env timeoutMs st events)
    (hresponses : ∀ ev ∈ sends events, ∀ rs, ev.outcome = .ok rs → rs.length < UInt32.size) :
    st.retryIndices.length < UInt32.size := by
  have hle : st.retryIndices.length ≤ st.results.length := by
    rw [h.length_retryIndices]
    exact List.countP_le_length
  rcases h.measured with hnil | ⟨ev, hev, rs, hok, hlen⟩
  · rw [hnil] at hle
    exact Nat.lt_of_le_of_lt hle (show 0 < UInt32.size by decide)
  · rw [← hlen] at hle
    exact Nat.lt_of_le_of_lt hle (hresponses ev hev rs hok)

/-- The statistics of every call are exact when `retry + 1` fits in 32 bits, and of
none when it does not. -/
theorem doBatchWrite_statistics (env : BatchWriteAttempts σ K R) (rng : Jitter)
    (maxRetries : UInt32) (timeoutMs : UInt64) (s : σ) (hretry : 1 ≤ maxRetries)
    (hresponses : ∀ ev ∈ batchWriteSends env rng maxRetries timeoutMs s, ∀ rs,
      ev.outcome = .ok rs → rs.length < UInt32.size)
    (hclock : ∀ u, .clock u ∈ batchWriteEvents env rng maxRetries timeoutMs s →
      ReadingFits env timeoutMs u)
    (results : List (BatchRecord K R)) (stats : BatchWriteRetryStats)
    (hout : (doBatchWrite env rng maxRetries timeoutMs s).1 = .ok (results, stats)) :
    Exact env rng maxRetries timeoutMs s results stats ↔
      maxRetries.toNat + 1 < UInt32.size := by
  constructor
  · intro h
    rw [← h.maxAttempts_eq]
    exact stats.maxAttempts.toNat_lt
  · intro hmax
    have hne : maxRetries ≠ 0 :=
      UInt32.pos_iff_ne_zero.mp (UInt32.lt_of_lt_of_le (by decide) hretry)
    have hunpanicked := checked_doBatchWrite hne hmax hclock
    have hsends := sends_batchWriteEvents env rng hne timeoutMs s
    have hsent : batchWriteSends env rng maxRetries timeoutMs s ≠ [] := by
      rw [batchWriteSends_eq]
      exact (driveBatchWriteRetries_run env rng maxRetries timeoutMs s).2.1
    obtain ⟨hfinish, hevents⟩ := doBatchWrite_observed env rng hne timeoutMs s
    have hexit := @attemptLoop_exit _ _ _ env rng timeoutMs _ hmax _ _ _ s _
      (before_initial env timeoutMs _)
    dsimp only at hexit hfinish hevents
    rw [← hevents] at hexit
    rw [hfinish] at hout
    generalize (attemptLoop (observing env) rng timeoutMs (maxRetries.toNat + 1) 0
      .initial (s, [])).1 = st at hexit hout
    obtain ⟨rfl, rfl, hresponds⟩ := finish_eq_ok hout
    rw [← hsends] at hsent hresponses
    have hresponded := hexit.head.responded hsent hresponds
    have hunresolved : (UInt32.ofNat st.retryIndices.length).toNat = st.retryIndices.length :=
      UInt32.toNat_ofNat_of_lt' (hexit.head.length_retryIndices_lt hresponses)
    have hlimit : (maxRetries + 1).toNat = maxRetries.toNat + 1 := toNat_succ hmax
    have hattempts := hexit.head.attempts
    refine ⟨by rw [← hsends]; exact hattempts, ?_, ?_, hlimit,
      hunresolved.trans hexit.head.length_retryIndices, fun htr => ⟨?_, ?_⟩, ?_,
      hunpanicked, fun htimeout hexact pre ev post heq hpre => ?_⟩
    · rw [UInt32.le_iff_toNat_le, hattempts]
      exact List.length_pos_of_ne_nil hsent
    · rw [UInt32.le_iff_toNat_le, hattempts, hlimit]
      exact hexit.within
    · rw [UInt32.lt_iff_toNat_lt, hattempts, hlimit]
      exact (hexit.truncated htr).1
    · rw [UInt32.lt_iff_toNat_lt, hunresolved]
      exact List.length_pos_of_ne_nil ((hexit.truncated htr).2.2 hresponded)
    · refine hexit.stopped.imp (fun hall => ?_) (Or.imp_right fun hnone => ?_)
      · rw [← UInt32.toNat_inj, hattempts, hlimit]
        exact hall
      · dsimp only
        rw [hnone]
        rfl
    · rw [← hsends] at heq
      exact elapsed_lt_of_paced hexit.head.paced htimeout hexact heq hpre

/-- One retry of a timed-out record within a budget of 1000 ms. -/
theorem doBatchWrite_statistics_one_retry :
    let timedOut : BatchRecord Unit Unit := ⟨(), none, some .timeout, true⟩
    let written : BatchRecord Unit Unit := ⟨(), none, some .ok, false⟩
    let script : Script Unit Unit := ⟨[.ok [timedOut], .ok [written]], 5, 0⟩
    Exact scriptedAttempts noJitter 1 1000 script [written] ⟨2, 2, false, 0⟩ := by
  intro timedOut written script
  have hsends : batchWriteSends scriptedAttempts noJitter 1 1000 script =
      [⟨script, none, 0, .ok [timedOut]⟩,
        ⟨⟨[.ok [written]], 5, 5⟩, some [0], 1, .ok [written]⟩] := rfl
  have hevents : batchWriteEvents scriptedAttempts noJitter 1 1000 script =
      [.send ⟨script, none, 0, .ok [timedOut]⟩, .clock ⟨[.ok [written]], 5, 5⟩,
        .sleep ⟨[.ok [written]], 5, 5⟩ 0,
        .send ⟨⟨[.ok [written]], 5, 5⟩, some [0], 1, .ok [written]⟩] := rfl
  refine (doBatchWrite_statistics scriptedAttempts noJitter 1 1000 script (by decide) ?_ ?_
    [written] ⟨2, 2, false, 0⟩ rfl).mpr (by decide)
  · rw [hsends]
    intro ev hev rs hok
    simp only [List.mem_cons, List.not_mem_nil, or_false] at hev
    rcases hev with rfl | rfl
    · cases hok
      decide
    · cases hok
      decide
  · rw [hevents]
    intro u hu
    simp only [List.mem_cons, List.not_mem_nil, or_false, reduceCtorEq, false_or,
      Event.clock.injEq] at hu
    subst hu
    right
    decide

/-- With the largest number of retries a clean first attempt reports one attempt out of
none, and a checked build panics. -/
theorem doBatchWrite_limit_wraps :
    let written : BatchRecord Unit Unit := ⟨(), none, some .ok, false⟩
    let script : Script Unit Unit := ⟨[.ok [written]], 5, 0⟩
    (doBatchWrite scriptedAttempts noJitter 4294967295 1000 script).1 =
        .ok ([written], ⟨1, 0, false, 0⟩) ∧
      Checked.doBatchWrite scriptedAttempts noJitter 4294967295 1000 script = none ∧
      ¬ Exact scriptedAttempts noJitter 4294967295 1000 script [written] ⟨1, 0, false, 0⟩ := by
  intro written script
  refine ⟨rfl, rfl, fun h => ?_⟩
  have hlimit := h.maxAttempts_eq
  revert hlimit
  decide

end AerospikePy.Retry.Statistics
