import AerospikePy.Lib.Runs
import AerospikePy.Retry.Trace

/-!
# What a run of the retry loop returns

The results are those of the last send that covered each position, a resend
carries the positions whose merged code is retryable, and the in-doubt flag of
an entry lives as long as no later answer replaces it. All of it holds of every
world, jitter, budget and number of retries.
-/

namespace AerospikePy.Retry.Results

open AerospikePy.Core
open AerospikePy.Lib.Overlay
open AerospikePy.Lib.Runs
open AerospikePy.Retry.Driver
open AerospikePy.Retry.Trace

variable {σ K R : Type}

/-- A canned response for each attempt, and a clock that sends and sleeps advance. -/
structure Script (K R : Type) where
  responses : List (Except PyErr (List (BatchRecord K R)))
  stepMs : UInt64
  elapsed : UInt64

def scriptedAttempts : BatchWriteAttempts (Script K R) K R where
  elapsedMs s := (s.elapsed, s)
  send s _ _ :=
    match s.responses with
    | [] => (.error ⟨.clientError, "scripted transport error"⟩, s)
    | r :: rest => (r, { s with responses := rest, elapsed := s.elapsed + s.stepMs })
  sleepMs s ms := { s with elapsed := s.elapsed + ms }

/-- The jitter that never waits. -/
def noJitter : Jitter := ⟨fun _ _ => 0, fun _ hi => by simp⟩

/-- A send that carries what is due answers each position at most once. -/
theorem answers_nodup {log pre post : List (Send σ K R)} {ev : Send σ K R}
    (h : Disciplined log) (heq : log = pre ++ ev :: post) : (ev.answers.map (·.1)).Nodup := by
  have hreq := (h pre ev post heq).1
  unfold Send.answers
  split
  · simp
  · rename_i rs is _ hind
    refine nodup_keys_zip ?_ rs
    rw [hind] at hreq
    obtain ⟨whole, -, rfl⟩ := Option.map_eq_some_iff.mp hreq.symm
    exact List.nodup_range.filter _
  · exact nodup_keys_zip List.nodup_range _

theorem merged_getElem? {log : List (Send σ K R)} (h : Disciplined log) (i : Nat) :
    (merged log)[i]? = latest log i := (loopInv_replay h).merged i

/-- One more send overlays its answers on the merged vector. -/
theorem merged_snoc {log : List (Send σ K R)} {ev : Send σ K R} (h : Disciplined (log ++ [ev]))
    (i : Nat) : (merged (log ++ [ev]))[i]? = (lastAt i ev.answers).or (merged log)[i]? := by
  rw [merged_getElem? h, latest_snoc, ← merged_getElem? (h.front rfl)]

theorem length_merged {log : List (Send σ K R)} {rs : List (BatchRecord K R)}
    (h : Disciplined log) (hfirst : firstWholeResponse log = some rs) :
    (merged log).length = rs.length := (loopInv_replay h).length rs hfirst

/-- Where something answered, there is a first whole-batch response. -/
theorem firstWholeResponse_of_anyResponse {log : List (Send σ K R)} (h : Disciplined log)
    (hany : anyResponse log) : ∃ rs, firstWholeResponse log = some rs := by
  have hinv := loopInv_replay h
  have hresp := hinv.answered.mpr hany
  rw [hinv.responded] at hresp
  exact Option.isSome_iff_exists.mp hresp

/-- The latest entry of a position is that of the last send which covered it. -/
theorem latest_split {log : List (Send σ K R)} {i : Nat} {br : BatchRecord K R}
    (h : latest log i = some br) : ∃ pre ev post, log = pre ++ ev :: post ∧
      lastAt i ev.answers = some br ∧ ∀ ev' ∈ post, ∀ br', (i, br') ∉ ev'.answers := by
  induction log using List.reverseRecOn with
  | nil => simp [latest] at h
  | append_singleton log ev ih =>
    rw [latest_snoc] at h
    cases hl : lastAt i ev.answers with
    | some br' =>
      rw [hl, Option.some_or, Option.some.injEq] at h
      subst h
      exact ⟨log, ev, [], rfl, hl, by simp⟩
    | none =>
      rw [hl, Option.none_or] at h
      obtain ⟨pre, e, post, rfl, he, hpost⟩ := ih h
      refine ⟨pre, e, post ++ [ev], by simp, he, fun ev' hmem br' => ?_⟩
      rcases List.mem_append.mp hmem with hold | hnew
      · exact hpost ev' hold br'
      · rw [List.mem_singleton.mp hnew]
        exact lastAt_eq_none_iff.mp hl br'

/-- What the call returns: the last transport error if nothing answered, else the merge. -/
theorem driveBatchWriteRetries_out (env : BatchWriteAttempts σ K R) (rng : Jitter)
    (maxRetries : UInt32) (timeoutMs : UInt64) (s : σ) :
    let log := driveSends env rng maxRetries timeoutMs s
    let out := (driveBatchWriteRetries env rng maxRetries timeoutMs s).1
    (¬ anyResponse log ∧ ∃ e, out = .error e) ∨
      (anyResponse log ∧ ∃ stats, out = .ok (merged log, stats)) := by
  obtain ⟨hdisc, hsent, -, truncated, hout⟩ :=
    driveBatchWriteRetries_run env rng maxRetries timeoutMs s
  have hinv := loopInv_replay hdisc
  dsimp only
  rw [hout]
  unfold LoopState.finish
  cases hresp : (replay (driveSends env rng maxRetries timeoutMs s)).responded with
  | true =>
    right
    refine ⟨hinv.answered.mp hresp, ?_⟩
    dsimp only
    split
    · rename_i hfalse
      cases hfalse
    · exact ⟨_, rfl⟩
  | false =>
    left
    obtain ⟨e, he⟩ := Option.isSome_iff_exists.mp (hinv.failing hresp hsent)
    refine ⟨fun hany => ?_, e, ?_⟩
    · rw [hinv.answered.mpr hany] at hresp
      cases hresp
    · dsimp only
      rw [he]

/-- The results of a batch write: an error exactly when nothing answered, and else
one entry for each submitted record, that of the last send which covered it. -/
theorem driveBatchWriteRetries_results (env : BatchWriteAttempts σ K R) (rng : Jitter)
    (maxRetries : UInt32) (timeoutMs : UInt64) (s : σ) (n : Nat)
    (hfirst : ∀ rs, firstWholeResponse (driveSends env rng maxRetries timeoutMs s) = some rs →
      rs.length = n) :
    let log := driveSends env rng maxRetries timeoutMs s
    let out := (driveBatchWriteRetries env rng maxRetries timeoutMs s).1
    ((∃ e, out = .error e) ↔ ∀ ev ∈ log, ∀ rs, ev.outcome ≠ .ok rs) ∧
    ∀ results stats, out = .ok (results, stats) →
      results.length = n ∧ (0 < n → results ≠ []) ∧
      ∀ i < n, ∃ br, results[i]? = some br ∧ ∃ pre ev post, log = pre ++ ev :: post ∧
        (∀ br', (i, br') ∈ ev.answers ↔ br' = br) ∧
        ∀ ev' ∈ post, ∀ br', (i, br') ∉ ev'.answers := by
  have hdisc := (driveBatchWriteRetries_run env rng maxRetries timeoutMs s).1
  dsimp only
  rcases driveBatchWriteRetries_out env rng maxRetries timeoutMs s with
    ⟨hno, e, hout⟩ | ⟨hany, stats, hout⟩
  · rw [hout]
    refine ⟨⟨fun _ ev hev rs hok => hno ⟨ev, hev, rs, hok⟩, fun _ => ⟨e, rfl⟩⟩, ?_⟩
    rintro results stats ⟨⟩
  · rw [hout]
    constructor
    · constructor
      · rintro ⟨e, ⟨⟩⟩
      · intro hno
        obtain ⟨ev, hev, rs, hok⟩ := hany
        exact absurd hok (hno ev hev rs)
    · rintro results stats' ⟨⟩
      obtain ⟨rs, hrs⟩ := firstWholeResponse_of_anyResponse hdisc hany
      have hlen := (length_merged hdisc hrs).trans (hfirst rs hrs)
      refine ⟨hlen, fun hn hnil => ?_, fun i hi => ?_⟩
      · rw [hnil] at hlen
        exact absurd hlen (by simp; omega)
      · have hget := List.getElem?_eq_getElem (hlen.symm ▸ hi)
        refine ⟨_, hget, ?_⟩
        rw [merged_getElem? hdisc] at hget
        obtain ⟨pre, ev, post, heq, hl, hpost⟩ := latest_split hget
        refine ⟨pre, ev, post, heq, fun br' => ⟨fun hmem => ?_, fun hbr => ?_⟩, hpost⟩
        · have := lastAt_eq_of_mem (answers_nodup hdisc heq) hmem
          rw [hl] at this
          exact (Option.some.inj this).symm
        · rw [hbr]
          exact mem_of_lastAt hl

/-- A timeout, a lost reply and an answer to the resend. -/
theorem driveBatchWriteRetries_results_script :
    let br (rc : ResultCode) : BatchRecord Nat Unit := ⟨0, none, some rc, false⟩
    let script : Script Nat Unit := ⟨[.ok [br .ok, br .timeout], .error ⟨.clientError, "lost"⟩,
      .ok [br .keyExistsError]], 1, 0⟩
    let out := (driveBatchWriteRetries scriptedAttempts noJitter 5 1000 script).1
    ∃ results stats, out = .ok (results, stats) ∧ results.length = 2 ∧ results ≠ [] := by
  intro br script out
  have hfirst : ∀ rs, firstWholeResponse (driveSends scriptedAttempts noJitter 5 1000 script) =
      some rs → rs.length = 2 := by
    rintro rs ⟨⟩
    rfl
  obtain ⟨hlen, hne, -⟩ := (driveBatchWriteRetries_results scriptedAttempts noJitter 5 1000
    script 2 hfirst).2 [br .ok, br .keyExistsError] ⟨3, 6, false, 0⟩ rfl
  exact ⟨_, _, rfl, hlen, hne (by decide)⟩

theorem isRetryable_iff {br : BatchRecord K R} : BatchRecord.isRetryable br = true ↔
    ∃ rc, br.resultCode = some rc ∧ isRetryableResultCode rc = true := by
  unfold BatchRecord.isRetryable
  cases hrc : br.resultCode with
  | none => simp
  | some rc =>
    by_cases hok : rc = .ok
    · subst hok
      simp [isRetryableResultCode]
    · simp [hok]

/-- The due indices are the positions whose merged entry is retryable. -/
theorem mem_due {log : List (Send σ K R)} {is : List Nat} (h : Disciplined log)
    (hdue : due log = some is) (i : Nat) :
    i ∈ is ↔ ∃ br, (merged log)[i]? = some br ∧ BatchRecord.isRetryable br = true := by
  obtain ⟨rs, hrs, rfl⟩ := Option.map_eq_some_iff.mp hdue
  rw [List.mem_filter, List.mem_range, Option.any_eq_true, ← merged_getElem? h,
    ← length_merged h hrs]
  constructor
  · rintro ⟨-, br, hbr, hr⟩
    exact ⟨br, hbr, hr⟩
  · rintro ⟨br, hbr, hr⟩
    exact ⟨(List.getElem?_eq_some_iff.mp hbr).1, br, hbr, hr⟩

/-- A position with an entry shows that the whole batch has been answered. -/
theorem due_of_merged {log : List (Send σ K R)} {i : Nat} {br : BatchRecord K R}
    (h : Disciplined log) (hbr : (merged log)[i]? = some br) : ∃ is, due log = some is := by
  have hany : anyResponse log := by
    by_contra hno
    rw [merged_getElem? h, latest_of_no_response hno] at hbr
    cases hbr
  obtain ⟨rs, hrs⟩ := firstWholeResponse_of_anyResponse h hany
  rw [due, hrs]
  exact ⟨_, rfl⟩

/-- A position whose entry is not retryable is not due, and the next send leaves it out. -/
theorem not_sent_of_settled {log : List (Send σ K R)} {ev : Send σ K R} {i : Nat}
    {br : BatchRecord K R} (h : Disciplined (log ++ [ev])) (hbr : (merged log)[i]? = some br)
    (hset : BatchRecord.isRetryable br = false) : ∃ is, ev.indices = some is ∧ i ∉ is := by
  have hlog : Disciplined log := h.front rfl
  obtain ⟨is, his⟩ := due_of_merged hlog hbr
  refine ⟨is, (h log ev [] rfl).1.trans his, fun hmem => ?_⟩
  obtain ⟨br', hbr', hr⟩ := (mem_due hlog his i).mp hmem
  obtain rfl : br = br' := Option.some.inj (hbr.symm.trans hbr')
  rw [hset] at hr
  cases hr

theorem not_answered_of_notMem {ev : Send σ K R} {is : List Nat} {i : Nat}
    (his : ev.indices = some is) (hi : i ∉ is) (br : BatchRecord K R) : (i, br) ∉ ev.answers := by
  unfold Send.answers
  rw [his]
  cases ev.outcome with
  | error e => simp
  | ok rs => exact fun hmem => hi (List.of_mem_zip hmem).1

/-- A settled entry stays as it is for the rest of the run. -/
theorem merged_of_settled {log rest : List (Send σ K R)} {i : Nat} {br : BatchRecord K R}
    (h : Disciplined (log ++ rest)) (hbr : (merged log)[i]? = some br)
    (hset : BatchRecord.isRetryable br = false) : (merged (log ++ rest))[i]? = some br := by
  induction rest using List.reverseRecOn with
  | nil => simpa using hbr
  | append_singleton rest ev ih =>
    rw [← List.append_assoc] at h ⊢
    have hold := ih (h.front rfl)
    obtain ⟨is, his, hi⟩ := not_sent_of_settled h hold hset
    rw [merged_snoc h, lastAt_eq_none_iff.mpr (not_answered_of_notMem his hi), Option.none_or]
    exact hold

/-- Before the first response every send is for the whole batch; after it, for the
positions whose merged code is retryable, of which there is at least one. A position
whose merged code is Ok or permanent is in no later send. -/
theorem driveBatchWriteRetries_resends (env : BatchWriteAttempts σ K R) (rng : Jitter)
    (maxRetries : UInt32) (timeoutMs : UInt64) (s : σ) :
    let log := driveSends env rng maxRetries timeoutMs s
    ∀ pre ev post, log = pre ++ ev :: post →
      ((∀ e ∈ pre, ∀ rs, e.outcome ≠ .ok rs) → ev.indices = none) ∧
      ((∃ e ∈ pre, ∃ rs, e.outcome = .ok rs) → ∃ is, ev.indices = some is ∧
        is.Pairwise (· < ·) ∧ is ≠ [] ∧ (∀ i ∈ is, i < (merged pre).length) ∧
        ∀ i, i ∈ is ↔ ∃ br rc, (merged pre)[i]? = some br ∧ br.resultCode = some rc ∧
          isRetryableResultCode rc = true) ∧
      ∀ i br, (merged pre)[i]? = some br →
        (∀ rc, br.resultCode = some rc → isRetryableResultCode rc = false) →
        ∀ e ∈ ev :: post, ∃ is, e.indices = some is ∧ i ∉ is := by
  intro log pre ev post heq
  have hdisc : Disciplined log := (driveBatchWriteRetries_run env rng maxRetries timeoutMs s).1
  have hpre : Disciplined pre := hdisc.front heq
  obtain ⟨hreq, hne⟩ := hdisc pre ev post heq
  refine ⟨fun hno => ?_, fun hany => ?_, fun i br hbr hset e he => ?_⟩
  · rw [hreq, (loopInv_replay hpre).due]
    refine LoopState.request_silent ?_
    rw [Bool.eq_false_iff]
    intro hresp
    obtain ⟨e, he, rs, hok⟩ := (loopInv_replay hpre).answered.mp hresp
    exact hno e he rs hok
  · obtain ⟨rs, hrs⟩ := firstWholeResponse_of_anyResponse hpre hany
    obtain ⟨is, his⟩ : ∃ is, due pre = some is := ⟨_, by rw [due, hrs]; rfl⟩
    have hmem := mem_due hpre his
    refine ⟨is, hreq.trans his, ?_, fun hnil => hne (hnil ▸ his), fun i hi => ?_, fun i => ?_⟩
    · obtain ⟨rs, -, rfl⟩ := Option.map_eq_some_iff.mp his
      exact List.pairwise_lt_range.filter _
    · obtain ⟨br, hbr, -⟩ := (hmem i).mp hi
      exact (List.getElem?_eq_some_iff.mp hbr).1
    · rw [hmem]
      constructor
      · rintro ⟨br, hbr, hr⟩
        obtain ⟨rc, hrc, hcode⟩ := isRetryable_iff.mp hr
        exact ⟨br, rc, hbr, hrc, hcode⟩
      · rintro ⟨br, rc, hbr, hrc, hcode⟩
        exact ⟨br, hbr, isRetryable_iff.mpr ⟨rc, hrc, hcode⟩⟩
  · have hset' : BatchRecord.isRetryable br = false := by
      rw [Bool.eq_false_iff]
      intro hr
      obtain ⟨rc, hrc, hcode⟩ := isRetryable_iff.mp hr
      rw [hset rc hrc] at hcode
      cases hcode
    obtain ⟨mid, post', hsplit⟩ := List.append_of_mem he
    have hlog : log = (pre ++ mid) ++ e :: post' := by rw [heq, hsplit]; simp
    have hmid : Disciplined (pre ++ mid ++ [e]) :=
      hdisc.front (show log = (pre ++ mid ++ [e]) ++ post' by rw [hlog]; simp)
    exact not_sent_of_settled hmid (merged_of_settled (hmid.front rfl) hbr hset') hset'

/-- Of three records one times out, and the resend asks for it alone. -/
example :
    let br (rc : ResultCode) : BatchRecord Nat Unit := ⟨0, none, some rc, false⟩
    let script : Script Nat Unit := ⟨[.ok [br .ok, br .timeout, br .ok], .ok [br .ok]], 1, 0⟩
    (driveSends scriptedAttempts noJitter 5 60000 script).map (·.indices) = [none, some [1]] := by
  decide

/-- Some response gave position `i` a failure that leaves the write in doubt. -/
def Doubted (log : List (Send σ K R)) (i : Nat) : Prop :=
  ∃ ev ∈ log, ∃ br, (i, br) ∈ ev.answers ∧ br.failed = true ∧ br.inDoubt = true

/-- A failed entry of a position that was in doubt says so. -/
def DoubtKept (log : List (Send σ K R)) : Prop :=
  ∀ i br, (merged log)[i]? = some br → Doubted log i → br.failed = true → br.inDoubt = true

/-- A send that answers no failure without doubt for an entry which fails in doubt. -/
def RespectsDoubt (log : List (Send σ K R)) (ev : Send σ K R) : Prop :=
  ∀ i old br, (merged log)[i]? = some old → old.failed = true → old.inDoubt = true →
    (i, br) ∈ ev.answers → br.failed = true → br.inDoubt = true

theorem merged_of_answered {log : List (Send σ K R)} {ev : Send σ K R} {i : Nat}
    {br : BatchRecord K R} (h : Disciplined log) (hev : ev ∈ log) (hans : (i, br) ∈ ev.answers) :
    ∃ cur, (merged log)[i]? = some cur := by
  rw [← Option.isSome_iff_exists, merged_getElem? h, Option.isSome_iff_ne_none]
  intro hnone
  exact lastAt_eq_none_iff.mp hnone br (List.mem_flatMap.mpr ⟨ev, hev, hans⟩)

theorem isRetryable_of_not_failed {br : BatchRecord K R} (h : br.failed = false) :
    BatchRecord.isRetryable br = false := by
  unfold BatchRecord.failed at h
  unfold BatchRecord.isRetryable
  cases hrc : br.resultCode with
  | none => rfl
  | some rc => simp_all

/-- An entry that is answered again was a failure. -/
theorem failed_of_resent {log : List (Send σ K R)} {ev : Send σ K R} {i : Nat}
    {cur br : BatchRecord K R} (h : Disciplined (log ++ [ev])) (hcur : (merged log)[i]? = some cur)
    (hans : (i, br) ∈ ev.answers) : cur.failed = true := by
  by_contra hok
  have hset := isRetryable_of_not_failed (Bool.eq_false_iff.mpr hok)
  obtain ⟨is, his, hi⟩ := not_sent_of_settled h hcur hset
  exact not_answered_of_notMem his hi br hans

/-- One send keeps the doubts exactly when its answers respect them: an entry that is
Ok is not sent again, and so never answered again. -/
theorem doubtKept_snoc {log : List (Send σ K R)} {ev : Send σ K R}
    (hdisc : Disciplined (log ++ [ev])) (h : DoubtKept log) :
    DoubtKept (log ++ [ev]) ↔ RespectsDoubt log ev := by
  have hlog : Disciplined log := hdisc.front rfl
  have hentry : ∀ {i br}, (i, br) ∈ ev.answers → (merged (log ++ [ev]))[i]? = some br := by
    intro i br hans
    rw [merged_snoc hdisc, lastAt_eq_of_mem (answers_nodup hdisc rfl) hans]
    rfl
  constructor
  · intro hkept i old br hold hfail hdoubt hans hbr
    refine hkept i br (hentry hans) ?_ hbr
    rw [merged_getElem? hlog] at hold
    obtain ⟨e, he, hmem⟩ := latest_mem hold
    exact ⟨e, by simp [he], old, hmem, hfail, hdoubt⟩
  · rintro hresp i br hbr ⟨e, he, old, hold, hfail, hdoubt⟩ hbrfail
    have hlast := hbr
    rw [merged_snoc hdisc] at hlast
    cases hl : lastAt i ev.answers with
    | none =>
      rw [hl, Option.none_or] at hlast
      rcases List.mem_append.mp he with hpast | hnow
      · exact h i br hlast ⟨e, hpast, old, hold, hfail, hdoubt⟩ hbrfail
      · rw [List.mem_singleton.mp hnow] at hold
        exact absurd hold (lastAt_eq_none_iff.mp hl old)
    | some br' =>
      have hans := mem_of_lastAt hl
      obtain rfl : br' = br := Option.some.inj ((hentry hans).symm.trans hbr)
      rcases List.mem_append.mp he with hpast | hnow
      · obtain ⟨cur, hcur⟩ := merged_of_answered hlog hpast hold
        have hcurfail := failed_of_resent hdisc hcur hans
        have hcurdoubt := h i cur hcur ⟨e, hpast, old, hold, hfail, hdoubt⟩ hcurfail
        exact hresp i cur br' hcur hcurfail hcurdoubt hans hbrfail
      · rw [List.mem_singleton.mp hnow] at hold
        have hsame := lastAt_eq_of_mem (answers_nodup hdisc rfl) hold
        obtain rfl : br' = old := Option.some.inj (hl.symm.trans hsame)
        exact hdoubt

theorem doubtKept_nil : DoubtKept ([] : List (Send σ K R)) := by
  rintro i br hbr ⟨ev, hev, -⟩
  simp at hev

/-- Along a run the doubts are kept exactly when every send's answers respect them. -/
theorem doubtKept_prefixes {log : List (Send σ K R)} (h : Disciplined log) :
    (∀ pre post, log = pre ++ post → DoubtKept pre) ↔
      ∀ pre ev post, log = pre ++ ev :: post → RespectsDoubt pre ev := by
  refine forall_prefix_iff doubtKept_nil fun pre ev post heq hkept => ?_
  have hsnoc : log = (pre ++ [ev]) ++ post := by simp [heq]
  exact doubtKept_snoc (h.front hsnoc) hkept

/-- The in-doubt flag survives a run exactly when no entry in doubt is answered by a
failure without doubt; then the returned entries carry it. -/
theorem driveBatchWriteRetries_inDoubt (env : BatchWriteAttempts σ K R) (rng : Jitter)
    (maxRetries : UInt32) (timeoutMs : UInt64) (s : σ) :
    let log := driveSends env rng maxRetries timeoutMs s
    let respected := ∀ pre ev post, log = pre ++ ev :: post → RespectsDoubt pre ev
    ((∀ pre post, log = pre ++ post → DoubtKept pre) ↔ respected) ∧
    (respected → ∀ results stats,
      (driveBatchWriteRetries env rng maxRetries timeoutMs s).1 = .ok (results, stats) →
      ∀ i br, results[i]? = some br → Doubted log i → br.failed = true → br.inDoubt = true) := by
  have hdisc := (driveBatchWriteRetries_run env rng maxRetries timeoutMs s).1
  refine ⟨doubtKept_prefixes hdisc, fun hresp results stats hout => ?_⟩
  have hkept := (doubtKept_prefixes hdisc).mpr hresp _ [] (List.append_nil _).symm
  rcases driveBatchWriteRetries_out env rng maxRetries timeoutMs s with
    ⟨-, e, herr⟩ | ⟨-, stats', hok⟩
  · rw [herr] at hout
    cases hout
  · obtain ⟨rfl, -⟩ := Prod.mk.inj (Except.ok.inj (hok.symm.trans hout))
    exact hkept

/-- A timeout in doubt whose resend is rejected: the returned entry is a failure
without doubt. -/
theorem driveBatchWriteRetries_forgets_doubt :
    let timedOut : BatchRecord Nat Unit := ⟨0, none, some .timeout, true⟩
    let rejected : BatchRecord Nat Unit := ⟨0, none, some .keyExistsError, false⟩
    let script : Script Nat Unit := ⟨[.ok [timedOut], .ok [rejected]], 1, 0⟩
    let log := driveSends scriptedAttempts noJitter 1 1000 script
    ¬ ∀ results stats,
      (driveBatchWriteRetries scriptedAttempts noJitter 1 1000 script).1 = .ok (results, stats) →
      ∀ i br, results[i]? = some br → Doubted log i → br.failed = true → br.inDoubt = true := by
  intro timedOut rejected script log h
  have hdoubted : Doubted log 0 :=
    ⟨_, List.mem_cons_self, timedOut, List.mem_cons_self, rfl, rfl⟩
  have := h [rejected] ⟨2, 2, false, 0⟩ rfl 0 rejected rfl hdoubted rfl
  cases this

/-- The sends that a call of `do_batch_write` makes, in order. -/
def batchWriteSends (env : BatchWriteAttempts σ K R) (rng : Jitter) (maxRetries : UInt32)
    (timeoutMs : UInt64) (s : σ) : List (Send σ K R) :=
  (doBatchWrite (recording env) rng maxRetries timeoutMs (s, [])).2.2

/-- One pass of the loop is a plain batch call. -/
theorem attemptLoop_one (env : BatchWriteAttempts σ K R) (rng : Jitter) (timeoutMs : UInt64)
    (s : σ) : attemptLoop env rng timeoutMs 1 0 .initial s =
      (LoopState.after .initial (issue env s none 0), (env.send s none 0).2) := by
  dsimp only [attemptLoop, attemptBody, backoffGuard_first, LoopState.after, issue,
    LoopState.initial]
  simp only [Bool.false_eq_true, ↓reduceIte]
  generalize env.send s none 0 = r
  obtain ⟨out, u⟩ := r
  cases out with
  | error e => rfl
  | ok rs =>
    dsimp only
    -- both exits of the pass carry the same variables
    split
    all_goals
      rename_i heq
      simp only [Prod.mk.injEq] at heq
      obtain ⟨-, rfl, rfl⟩ := heq
      rfl

/-- Without retries the plain batch call sends, returns and leaves what the loop would;
only its statistics are its own. -/
theorem doBatchWrite_eq_drive (env : BatchWriteAttempts σ K R) (rng : Jitter)
    (maxRetries : UInt32) (timeoutMs : UInt64) (s : σ) :
    (doBatchWrite env rng maxRetries timeoutMs s).1.map Prod.fst =
        (driveBatchWriteRetries env rng maxRetries timeoutMs s).1.map Prod.fst ∧
      (doBatchWrite env rng maxRetries timeoutMs s).2 =
        (driveBatchWriteRetries env rng maxRetries timeoutMs s).2 := by
  unfold doBatchWrite
  by_cases hzero : maxRetries = 0
  · subst hzero
    have hloop : driveBatchWriteRetries env rng 0 timeoutMs s =
        (LoopState.finish (LoopState.after .initial (issue env s none 0)) 0,
          (env.send s none 0).2) := by
      unfold driveBatchWriteRetries
      rw [UInt32.toNat_zero, Nat.zero_add, attemptLoop_one]
    rw [if_pos rfl, hloop]
    unfold LoopState.after issue
    generalize env.send s none 0 = r
    obtain ⟨out, u⟩ := r
    cases out with
    | error e => exact ⟨rfl, rfl⟩
    | ok rs => exact ⟨rfl, rfl⟩
  · rw [if_neg hzero]
    exact ⟨rfl, rfl⟩

theorem batchWriteSends_eq (env : BatchWriteAttempts σ K R) (rng : Jitter)
    (maxRetries : UInt32) (timeoutMs : UInt64) (s : σ) :
    batchWriteSends env rng maxRetries timeoutMs s = driveSends env rng maxRetries timeoutMs s :=
  congrArg Prod.snd (doBatchWrite_eq_drive (recording env) rng maxRetries timeoutMs (s, [])).2

/-- A call of `do_batch_write` is its sends, and returns their merge. -/
theorem doBatchWrite_run (env : BatchWriteAttempts σ K R) (rng : Jitter) (maxRetries : UInt32)
    (timeoutMs : UInt64) (s : σ) :
    let log := batchWriteSends env rng maxRetries timeoutMs s
    Disciplined log ∧ Chained env s log (doBatchWrite env rng maxRetries timeoutMs s).2 ∧
      ∀ results stats, (doBatchWrite env rng maxRetries timeoutMs s).1 = .ok (results, stats) →
        anyResponse log ∧ results = merged log := by
  obtain ⟨hmap, hworld⟩ := doBatchWrite_eq_drive env rng maxRetries timeoutMs s
  obtain ⟨hdisc, -, hchain, -⟩ := driveBatchWriteRetries_run env rng maxRetries timeoutMs s
  dsimp only
  rw [batchWriteSends_eq, hworld]
  refine ⟨hdisc, hchain, fun results stats hout => ?_⟩
  rw [hout] at hmap
  rcases driveBatchWriteRetries_out env rng maxRetries timeoutMs s with
    ⟨-, e, hdrive⟩ | ⟨hany, stats', hdrive⟩
  · rw [hdrive] at hmap
    cases hmap
  · rw [hdrive] at hmap
    exact ⟨hany, Except.ok.inj hmap⟩

end AerospikePy.Retry.Results
