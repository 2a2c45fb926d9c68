import Mathlib.Data.List.Induction
import AerospikePy.Lib.Overlay
import AerospikePy.Retry.Driver

/-!
# The sends of a run

`recording` observes an environment without changing it: it keeps every send with
the world it met and the outcome it had, as the scripted environment of the
source's own tests keeps what each attempt asked for. The loop invariant relates
the loop's variables to the sends made so far. `latest` is the specification of
the merged vector, and `due` of the list of indices that the next send must carry.
-/

namespace AerospikePy.Retry.Trace

open AerospikePy.Core
open AerospikePy.Lib.Overlay
open AerospikePy.Retry.Driver

variable {σ τ K R : Type}

structure Send (σ K R : Type) where
  before : σ
  indices : Option (List Nat)
  attempt : UInt32
  outcome : Except PyErr (List (BatchRecord K R))

/-- The positions a send's response covers, each with the entry it is given. -/
def Send.answers (ev : Send σ K R) : List (Nat × BatchRecord K R) :=
  match ev.outcome, ev.indices with
  | .error _, _ => []
  | .ok rs, some is => is.zip rs
  | .ok rs, none => (List.range rs.length).zip rs

/-- The send that `env` answers in world `s`. -/
def issue (env : BatchWriteAttempts σ K R) (s : σ) (indices : Option (List Nat))
    (attempt : UInt32) : Send σ K R :=
  ⟨s, indices, attempt, (env.send s indices attempt).1⟩

def recording (env : BatchWriteAttempts σ K R) :
    BatchWriteAttempts (σ × List (Send σ K R)) K R where
  elapsedMs s := ((env.elapsedMs s.1).1, ((env.elapsedMs s.1).2, s.2))
  send s indices attempt :=
    ((env.send s.1 indices attempt).1,
      ((env.send s.1 indices attempt).2, s.2 ++ [issue env s.1 indices attempt]))
  sleepMs s ms := (env.sleepMs s.1 ms, s.2)

/-- `f` projects the worlds of `env'` on those of `env`, whatever the loop does. -/
structure Projects (env' : BatchWriteAttempts τ K R) (env : BatchWriteAttempts σ K R)
    (f : τ → σ) : Prop where
  elapsed : ∀ s, (env'.elapsedMs s).1 = (env.elapsedMs (f s)).1 ∧
    f (env'.elapsedMs s).2 = (env.elapsedMs (f s)).2
  send : ∀ s is a, (env'.send s is a).1 = (env.send (f s) is a).1 ∧
    f (env'.send s is a).2 = (env.send (f s) is a).2
  sleep : ∀ s ms, f (env'.sleepMs s ms) = env.sleepMs (f s) ms

theorem recording_projects (env : BatchWriteAttempts σ K R) :
    Projects (recording env) env Prod.fst where
  elapsed _ := ⟨rfl, rfl⟩
  send _ _ _ := ⟨rfl, rfl⟩
  sleep _ _ := rfl

section Projection

variable {env' : BatchWriteAttempts τ K R} {env : BatchWriteAttempts σ K R} {f : τ → σ}

theorem backoffGuard_project (h : Projects env' env f) (rng : Jitter) (timeoutMs : UInt64)
    (attempt : UInt32) (s : τ) :
    (backoffGuard env' rng timeoutMs attempt s).1 =
        (backoffGuard env rng timeoutMs attempt (f s)).1 ∧
      f (backoffGuard env' rng timeoutMs attempt s).2 =
        (backoffGuard env rng timeoutMs attempt (f s)).2 := by
  obtain ⟨hms, hw⟩ := h.elapsed s
  unfold backoffGuard
  by_cases ha : attempt > 0
  · simp only [ha, ↓reduceIte, hms]
    split <;> simp [h.sleep, hw]
  · simp [ha]

theorem attemptBody_project (h : Projects env' env f) (rng : Jitter) (timeoutMs : UInt64)
    (attempt : UInt32) (st : LoopState K R) (s : τ) :
    let r' := attemptBody env' rng timeoutMs attempt st s
    let r := attemptBody env rng timeoutMs attempt st (f s)
    r'.1 = r.1 ∧ r'.2.1 = r.2.1 ∧ f r'.2.2 = r.2.2 := by
  obtain ⟨hgo, hw⟩ := backoffGuard_project h rng timeoutMs attempt s
  dsimp only [attemptBody]
  generalize backoffGuard env' rng timeoutMs attempt s = g' at hgo hw ⊢
  generalize backoffGuard env rng timeoutMs attempt (f s) = g at hgo hw ⊢
  obtain ⟨go', t'⟩ := g'
  obtain ⟨go, t⟩ := g
  dsimp only at hgo hw
  subst hgo hw
  cases go' with
  | false => exact ⟨rfl, rfl, rfl⟩
  | true =>
    obtain ⟨hout, hnext⟩ := h.send t' (if st.responded then some st.retryIndices else none) attempt
    dsimp only
    generalize env'.send t' _ attempt = o' at hout hnext ⊢
    generalize env.send (f t') _ attempt = o at hout hnext ⊢
    obtain ⟨out', u'⟩ := o'
    obtain ⟨out, u⟩ := o
    dsimp only at hout hnext
    subst hout hnext
    cases out' with
    | error e => exact ⟨rfl, rfl, rfl⟩
    | ok rs => exact ⟨rfl, rfl, rfl⟩

theorem attemptLoop_project (h : Projects env' env f) (rng : Jitter) (timeoutMs : UInt64)
    (passes : Nat) (attempt : UInt32) (st : LoopState K R) (s : τ) :
    (attemptLoop env' rng timeoutMs passes attempt st s).1 =
        (attemptLoop env rng timeoutMs passes attempt st (f s)).1 ∧
      f (attemptLoop env' rng timeoutMs passes attempt st s).2 =
        (attemptLoop env rng timeoutMs passes attempt st (f s)).2 := by
  induction passes generalizing attempt st s with
  | zero => exact ⟨rfl, rfl⟩
  | succ passes ih =>
    obtain ⟨hflow, hst, hw⟩ := attemptBody_project h rng timeoutMs attempt st s
    dsimp only [attemptLoop]
    generalize attemptBody env' rng timeoutMs attempt st s = b' at hflow hst hw ⊢
    generalize attemptBody env rng timeoutMs attempt st (f s) = b at hflow hst hw ⊢
    obtain ⟨flow', st', t'⟩ := b'
    obtain ⟨flow, st'', t⟩ := b
    dsimp only at hflow hst hw
    subst hflow hst hw
    cases flow' with
    | «break» => exact ⟨rfl, rfl⟩
    | «continue» => exact ih (attempt + 1) st' t'

theorem driveBatchWriteRetries_project (h : Projects env' env f) (rng : Jitter)
    (maxRetries : UInt32) (timeoutMs : UInt64) (s : τ) :
    (driveBatchWriteRetries env' rng maxRetries timeoutMs s).1 =
        (driveBatchWriteRetries env rng maxRetries timeoutMs (f s)).1 ∧
      f (driveBatchWriteRetries env' rng maxRetries timeoutMs s).2 =
        (driveBatchWriteRetries env rng maxRetries timeoutMs (f s)).2 := by
  obtain ⟨hst, hw⟩ := attemptLoop_project h rng timeoutMs (maxRetries.toNat + 1) 0 .initial s
  refine ⟨?_, hw⟩
  dsimp only [driveBatchWriteRetries]
  rw [hst]

end Projection

/-- Only the clock and sleeps lead from one world to another. -/
inductive Idle (env : BatchWriteAttempts σ K R) : σ → σ → Prop where
  | refl (s : σ) : Idle env s s
  | elapsed {s t : σ} (h : Idle env s t) : Idle env s (env.elapsedMs t).2
  | sleep {s t : σ} (h : Idle env s t) (ms : UInt64) : Idle env s (env.sleepMs t ms)

/-- The log is what `env` answers on the way from one world to another. -/
inductive Chained (env : BatchWriteAttempts σ K R) : σ → List (Send σ K R) → σ → Prop where
  | start {s t : σ} (h : Idle env s t) : Chained env s [] t
  | send {s t u : σ} {log : List (Send σ K R)} (h : Chained env s log t)
      (indices : Option (List Nat)) (attempt : UInt32)
      (hidle : Idle env (env.send t indices attempt).2 u) :
      Chained env s (log ++ [issue env t indices attempt]) u

theorem Idle.trans {env : BatchWriteAttempts σ K R} {s t u : σ} (h : Idle env s t)
    (h' : Idle env t u) : Idle env s u := by
  induction h' with
  | refl => exact h
  | elapsed _ ih => exact ih.elapsed
  | sleep _ ms ih => exact ih.sleep ms

theorem Chained.idle {env : BatchWriteAttempts σ K R} {s t u : σ} {log : List (Send σ K R)}
    (h : Chained env s log t) (h' : Idle env t u) : Chained env s log u := by
  cases h with
  | start h => exact .start (h.trans h')
  | send h indices attempt hidle => exact .send h indices attempt (hidle.trans h')

theorem Chained.issued {env : BatchWriteAttempts σ K R} {s t : σ} {log : List (Send σ K R)}
    (h : Chained env s log t) {ev : Send σ K R} (hev : ev ∈ log) :
    ev.outcome = (env.send ev.before ev.indices ev.attempt).1 := by
  induction h with
  | start _ => simp at hev
  | send _ indices attempt _ ih =>
    rcases List.mem_append.mp hev with hold | hnew
    · exact ih hold
    · rw [List.mem_singleton.mp hnew]
      rfl

/-- What precedes a send leads to the world that the send met. -/
theorem Chained.before {env : BatchWriteAttempts σ K R} {s t : σ}
    {log pre post : List (Send σ K R)} {ev : Send σ K R} (h : Chained env s log t)
    (heq : log = pre ++ ev :: post) : Chained env s pre ev.before := by
  induction h generalizing post with
  | start _ => simp at heq
  | send h indices attempt _ ih =>
    rcases List.eq_nil_or_concat post with rfl | ⟨post, last, rfl⟩
    · obtain ⟨rfl, hlast⟩ := List.append_inj' heq rfl
      obtain rfl := List.singleton_inj.mp hlast
      exact h
    · rw [List.concat_eq_append, ← List.cons_append, ← List.append_assoc] at heq
      exact ih (List.append_inj' heq rfl).1

theorem backoffGuard_idle (env : BatchWriteAttempts σ K R) (rng : Jitter) (timeoutMs : UInt64)
    (attempt : UInt32) (s : σ) : Idle env s (backoffGuard env rng timeoutMs attempt s).2 := by
  unfold backoffGuard
  split
  · dsimp only
    split
    · exact ((Idle.refl s).elapsed).sleep _
    · exact (Idle.refl s).elapsed
  · exact .refl s

/-- The sends that a run of the retry loop makes, in order. -/
def driveSends (env : BatchWriteAttempts σ K R) (rng : Jitter) (maxRetries : UInt32)
    (timeoutMs : UInt64) (s : σ) : List (Send σ K R) :=
  (driveBatchWriteRetries (recording env) rng maxRetries timeoutMs (s, [])).2.2

/-- The first Ok response to a whole-batch send. -/
def firstWholeResponse : List (Send σ K R) → Option (List (BatchRecord K R))
  | [] => none
  | ev :: log =>
    match ev.indices, ev.outcome with
    | none, .ok rs => some rs
    | _, _ => firstWholeResponse log

def anyResponse (log : List (Send σ K R)) : Prop := ∃ ev ∈ log, ∃ rs, ev.outcome = .ok rs

/-- The entry given to position `i` by the last send that covered it. -/
def latest (log : List (Send σ K R)) (i : Nat) : Option (BatchRecord K R) :=
  lastAt i (log.flatMap Send.answers)

/-- The indices the next send has to carry: none before the first response, then
the positions whose latest entry is retryable. -/
def due (log : List (Send σ K R)) : Option (List Nat) :=
  (firstWholeResponse log).map fun rs =>
    (List.range rs.length).filter fun i => (latest log i).any BatchRecord.isRetryable

/-- Every send carried what was due, and something was due. -/
def Disciplined (log : List (Send σ K R)) : Prop :=
  ∀ pre ev post, log = pre ++ ev :: post → ev.indices = due pre ∧ due pre ≠ some []

/-- The indices the loop's variables make the next send carry. -/
def LoopState.request (st : LoopState K R) : Option (List Nat) :=
  if st.responded then some st.retryIndices else none

/-- The loop's variables after one more send. -/
def LoopState.after (st : LoopState K R) (ev : Send σ K R) : LoopState K R :=
  let st := { st with attemptsMade := st.attemptsMade + 1 }
  match ev.outcome with
  | .error e => { st with lastTransportError := some e }
  | .ok rs => st.absorb rs

/-- The loop's variables once the sends of a log are made. -/
def replay (log : List (Send σ K R)) : LoopState K R := log.foldl LoopState.after .initial

/-- The merged vector once the sends of a log are made. -/
def merged (log : List (Send σ K R)) : List (BatchRecord K R) := (replay log).results

theorem LoopState.request_silent {st : LoopState K R} (h : st.responded = false) :
    LoopState.request st = none := by
  simp [LoopState.request, h]

theorem LoopState.request_responded {st : LoopState K R} (h : st.responded = true) :
    LoopState.request st = some st.retryIndices := by
  simp [LoopState.request, h]

theorem replay_snoc (log : List (Send σ K R)) (ev : Send σ K R) :
    replay (log ++ [ev]) = LoopState.after (replay log) ev := by
  simp [replay]

theorem latest_snoc (log : List (Send σ K R)) (ev : Send σ K R) (i : Nat) :
    latest (log ++ [ev]) i = (lastAt i ev.answers).or (latest log i) := by
  simp [latest, List.flatMap_append, lastAt_append]

theorem latest_mem {log : List (Send σ K R)} {i : Nat} {br : BatchRecord K R}
    (h : latest log i = some br) : ∃ ev ∈ log, (i, br) ∈ ev.answers :=
  List.mem_flatMap.mp (mem_of_lastAt h)

theorem firstWholeResponse_append (log rest : List (Send σ K R)) :
    firstWholeResponse (log ++ rest) =
      (firstWholeResponse log).or (firstWholeResponse rest) := by
  induction log with
  | nil => simp [firstWholeResponse]
  | cons e log ih =>
    simp only [List.cons_append, firstWholeResponse]
    split
    · rfl
    · exact ih

theorem firstWholeResponse_mem {log : List (Send σ K R)} {rs : List (BatchRecord K R)}
    (h : firstWholeResponse log = some rs) :
    ∃ ev ∈ log, ev.indices = none ∧ ev.outcome = .ok rs := by
  induction log with
  | nil => simp [firstWholeResponse] at h
  | cons ev log ih =>
    unfold firstWholeResponse at h
    split at h
    · rename_i hind hout
      cases h
      exact ⟨ev, List.mem_cons_self, hind, hout⟩
    · obtain ⟨e, he, hfirst⟩ := ih h
      exact ⟨e, List.mem_cons_of_mem _ he, hfirst⟩

theorem disciplined_nil : Disciplined ([] : List (Send σ K R)) := by
  intro pre ev post h
  simp at h

theorem disciplined_snoc {log : List (Send σ K R)} {ev : Send σ K R} (h : Disciplined log)
    (hreq : ev.indices = due log) (hne : due log ≠ some []) : Disciplined (log ++ [ev]) := by
  intro pre e post heq
  rcases List.eq_nil_or_concat post with rfl | ⟨post, last, rfl⟩
  · obtain ⟨rfl, hlast⟩ := List.append_inj' heq rfl
    obtain rfl : ev = e := by simpa using hlast
    exact ⟨hreq, hne⟩
  · rw [List.concat_eq_append, ← List.cons_append, ← List.append_assoc] at heq
    obtain ⟨hlog, -⟩ := List.append_inj' heq rfl
    exact h pre e post hlog

theorem Disciplined.front {log pre post : List (Send σ K R)} (h : Disciplined log)
    (heq : log = pre ++ post) : Disciplined pre := by
  intro pre' ev post' hpre
  exact h pre' ev (post' ++ post) (by rw [heq, hpre]; simp)

/-- The loop's list of retryable indices, read off positions. -/
theorem collectRetryableIndices_eq (results : List (BatchRecord K R)) :
    collectRetryableIndices results =
      (List.range results.length).filter fun i => results[i]?.any BatchRecord.isRetryable := by
  induction results using List.reverseRecOn with
  | nil => rfl
  | append_singleton results br ih =>
    have hold : (List.range results.length).filter
          (fun i => (results ++ [br])[i]?.any BatchRecord.isRetryable) =
        (List.range results.length).filter fun i => results[i]?.any BatchRecord.isRetryable := by
      apply List.filter_congr
      intro i hi
      rw [List.getElem?_append_left (List.mem_range.mp hi)]
    rw [List.length_append, List.length_singleton, List.range_succ, List.filter_append, hold, ← ih]
    unfold collectRetryableIndices
    rw [List.length_append, List.length_singleton, List.range_succ,
      List.zip_append (by simp), List.filterMap_append]
    congr 1
    by_cases h : BatchRecord.isRetryable br <;> simp [h]

structure LoopInv (st : LoopState K R) (log : List (Send σ K R)) : Prop where
  responded : st.responded = (firstWholeResponse log).isSome
  length : ∀ rs, firstWholeResponse log = some rs → st.results.length = rs.length
  merged : ∀ i, st.results[i]? = latest log i
  due : due log = LoopState.request st
  disciplined : Disciplined log
  answered : st.responded = true ↔ anyResponse log
  failing : st.responded = false → log ≠ [] → st.lastTransportError.isSome = true

theorem loopInv_initial : LoopInv (.initial : LoopState K R) ([] : List (Send σ K R)) where
  responded := rfl
  length := by simp [firstWholeResponse]
  merged := by simp [LoopState.initial, latest]
  due := rfl
  disciplined := disciplined_nil
  answered := by simp [LoopState.initial, anyResponse]
  failing := by simp

theorem backoffGuard_recording (env : BatchWriteAttempts σ K R) (rng : Jitter)
    (timeoutMs : UInt64) (attempt : UInt32) (s : σ) (log : List (Send σ K R)) :
    backoffGuard (recording env) rng timeoutMs attempt (s, log) =
      ((backoffGuard env rng timeoutMs attempt s).1,
        ((backoffGuard env rng timeoutMs attempt s).2, log)) := by
  unfold backoffGuard
  dsimp only [recording]
  by_cases ha : attempt > 0
  · rw [if_pos ha, if_pos ha]
    split <;> rfl
  · rw [if_neg ha, if_neg ha]

theorem backoffGuard_first (env : BatchWriteAttempts σ K R) (rng : Jitter)
    (timeoutMs : UInt64) (s : σ) : backoffGuard env rng timeoutMs 0 s = (true, s) := rfl

/-- What one pass over a recorded environment can do: break on the budget, or make
the send that is due and go on while it answers nothing or leaves something due. -/
theorem attemptBody_cases (env : BatchWriteAttempts σ K R) (rng : Jitter) (timeoutMs : UInt64)
    (attempt : UInt32) (st : LoopState K R) (s : σ) (log : List (Send σ K R)) :
    let t := (backoffGuard env rng timeoutMs attempt s).2
    let ev := issue env t (LoopState.request st) attempt
    let u := (env.send t (LoopState.request st) attempt).2
    let body := attemptBody (recording env) rng timeoutMs attempt st (s, log)
    (attempt ≠ 0 ∧ body = (.break, { st with truncatedByTimeout := true }, (t, log))) ∨
    (∃ flow, body = (flow, LoopState.after st ev, (u, log ++ [ev])) ∧
      (flow = .continue → ∀ rs, ev.outcome = .ok rs → (LoopState.after st ev).retryIndices ≠ [])) := by
  dsimp only [attemptBody]
  rw [backoffGuard_recording]
  have hzero : attempt = 0 → (backoffGuard env rng timeoutMs attempt s).1 = true := by
    rintro rfl
    rfl
  generalize backoffGuard env rng timeoutMs attempt s = g at hzero ⊢
  obtain ⟨go, t⟩ := g
  cases go with
  | false =>
    left
    refine ⟨fun h => ?_, rfl⟩
    exact absurd (hzero h) (by simp)
  | true =>
    right
    dsimp only [recording, issue, LoopState.after, LoopState.request]
    generalize (if st.responded = true then some st.retryIndices else none) = req
    cases hr : (env.send t req attempt).1 with
    | error e =>
      refine ⟨.continue, rfl, fun _ rs hok => ?_⟩
      cases hok
    | ok rs =>
      refine ⟨_, rfl, fun hflow rs' _ hnil => ?_⟩
      simp [hnil] at hflow

/-- A failed attempt leaves what the responses have determined as it was. -/
theorem loopInv_error {st : LoopState K R} {log : List (Send σ K R)} {ev : Send σ K R}
    {e : PyErr} (h : LoopInv st log) (hreq : ev.indices = due log) (hne : due log ≠ some [])
    (hout : ev.outcome = .error e) :
    LoopInv { st with lastTransportError := some e } (log ++ [ev]) := by
  have hfirst : firstWholeResponse (log ++ [ev]) = firstWholeResponse log := by
    rw [firstWholeResponse_append]
    simp [firstWholeResponse, hout]
  have hlatest : ∀ i, latest (log ++ [ev]) i = latest log i := by
    intro i
    rw [latest_snoc]
    simp [Send.answers, hout]
  constructor
  · rw [hfirst]
    exact h.responded
  · rw [hfirst]
    exact h.length
  · intro i
    rw [hlatest]
    exact h.merged i
  · have hdue : due (log ++ [ev]) = due log := by simp only [due, hfirst, hlatest]
    rw [hdue]
    exact h.due
  · exact disciplined_snoc h.disciplined hreq hne
  · rw [h.answered]
    constructor
    · rintro ⟨e', he', hok⟩
      exact ⟨e', by simp [he'], hok⟩
    · rintro ⟨e', he', rs, hok⟩
      rcases List.mem_append.mp he' with hmem | hmem
      · exact ⟨e', hmem, rs, hok⟩
      · obtain rfl := List.mem_singleton.mp hmem
        rw [hout] at hok
        cases hok
  · intro _ _
    rfl

theorem latest_of_no_response {log : List (Send σ K R)} (h : ¬ anyResponse log) (i : Nat) :
    latest log i = none := by
  rw [latest, lastAt_eq_none_iff]
  intro br hmem
  obtain ⟨ev, hev, hans⟩ := List.mem_flatMap.mp hmem
  cases hout : ev.outcome with
  | error e => simp [Send.answers, hout] at hans
  | ok rs => exact h ⟨ev, hev, rs, hout⟩

/-- The merge of the first response, which covers the whole batch. -/
theorem loopInv_absorb_whole {st : LoopState K R} {log : List (Send σ K R)} {ev : Send σ K R}
    {rs : List (BatchRecord K R)} (h : LoopInv st log) (hreq : ev.indices = due log)
    (hne : due log ≠ some []) (hout : ev.outcome = .ok rs) (hresp : st.responded = false) :
    LoopInv (st.absorb rs) (log ++ [ev]) := by
  have hnone : firstWholeResponse log = none := by
    have := h.responded
    rw [hresp] at this
    simpa using this.symm
  have hind : ev.indices = none := by
    rw [hreq, h.due, LoopState.request_silent hresp]
  have hfirst : firstWholeResponse (log ++ [ev]) = some rs := by
    rw [firstWholeResponse_append, hnone]
    simp [firstWholeResponse, hind, hout]
  have hno : ¬ anyResponse log := fun hany => by
    rw [h.answered.mpr hany] at hresp
    cases hresp
  have hlatest : ∀ i, latest (log ++ [ev]) i = rs[i]? := by
    intro i
    rw [latest_snoc, latest_of_no_response hno]
    simp [Send.answers, hind, hout, lastAt_range_zip]
  have hres : (st.absorb rs).results = rs := by simp [LoopState.absorb, hresp]
  have hidx : (st.absorb rs).retryIndices = collectRetryableIndices rs := by
    simp [LoopState.absorb, hresp]
  constructor
  · rw [hfirst]
    rfl
  · intro rs' h'
    obtain rfl : rs = rs' := Option.some.inj (hfirst.symm.trans h')
    rw [hres]
  · intro i
    rw [hres, hlatest]
  · rw [LoopState.request_responded rfl, hidx]
    simp only [due, hfirst, hlatest, Option.map_some, collectRetryableIndices_eq]
  · exact disciplined_snoc h.disciplined hreq hne
  · exact ⟨fun _ => ⟨ev, by simp, rs, hout⟩, fun _ => rfl⟩
  · intro hf
    cases hf

/-- The indices that the next send submits lie in the results. -/
theorem retryIndices_lt {st : LoopState K R} {log : List (Send σ K R)}
    {whole : List (BatchRecord K R)} (h : LoopInv st log)
    (hwhole : firstWholeResponse log = some whole) (hresp : st.responded = true) :
    ∀ i ∈ st.retryIndices, i < st.results.length := by
  intro i hi
  have hdue := h.due
  rw [LoopState.request_responded hresp] at hdue
  simp only [due, hwhole, Option.map_some, Option.some.injEq] at hdue
  rw [← hdue] at hi
  rw [h.length whole hwhole]
  exact List.mem_range.mp (List.mem_filter.mp hi).1

/-- The merge of a retry's response into the vector, at the indices it was sent with. -/
theorem loopInv_absorb_subset {st : LoopState K R} {log : List (Send σ K R)} {ev : Send σ K R}
    {rs : List (BatchRecord K R)} (h : LoopInv st log) (hreq : ev.indices = due log)
    (hne : due log ≠ some []) (hout : ev.outcome = .ok rs) (hresp : st.responded = true) :
    LoopInv (st.absorb rs) (log ++ [ev]) := by
  obtain ⟨whole, hwhole⟩ : ∃ whole, firstWholeResponse log = some whole := by
    have := h.responded
    rw [hresp] at this
    exact Option.isSome_iff_exists.mp this.symm
  have hind : ev.indices = some st.retryIndices := by
    rw [hreq, h.due, LoopState.request_responded hresp]
  have hfirst : firstWholeResponse (log ++ [ev]) = some whole := by
    rw [firstWholeResponse_append, hwhole]
    rfl
  have hres : (st.absorb rs).results = overlay st.results (st.retryIndices.zip rs) := by
    simp only [LoopState.absorb, hresp, ↓reduceIte]
    rfl
  have hlatest : ∀ i, latest (log ++ [ev]) i =
      (lastAt i (st.retryIndices.zip rs)).or (latest log i) := by
    intro i
    rw [latest_snoc]
    simp [Send.answers, hind, hout]
  have hmerged : ∀ i, (st.absorb rs).results[i]? = latest (log ++ [ev]) i := by
    intro i
    rw [hres, hlatest, ← h.merged i]
    by_cases hi : i < st.results.length
    · exact getElem?_overlay hi _
    · have hout : i ∉ st.retryIndices := fun hmem =>
        hi (retryIndices_lt h hwhole hresp i hmem)
      rw [lastAt_zip_of_notMem hout, List.getElem?_eq_none (by simpa using hi),
        List.getElem?_eq_none (by simpa using hi)]
      rfl
  have hlen : (st.absorb rs).results.length = whole.length := by
    rw [hres, length_overlay, h.length whole hwhole]
  constructor
  · rw [hfirst]
    rfl
  · intro rs' h'
    obtain rfl : whole = rs' := Option.some.inj (hfirst.symm.trans h')
    exact hlen
  · exact hmerged
  · have hidx : (st.absorb rs).retryIndices = collectRetryableIndices (st.absorb rs).results := rfl
    rw [LoopState.request_responded rfl, hidx]
    simp only [due, hfirst, Option.map_some, collectRetryableIndices_eq, hmerged, hlen]
  · exact disciplined_snoc h.disciplined hreq hne
  · exact ⟨fun _ => ⟨ev, by simp, rs, hout⟩, fun _ => rfl⟩
  · intro hf
    cases hf

theorem loopInv_absorb {st : LoopState K R} {log : List (Send σ K R)} {ev : Send σ K R}
    {rs : List (BatchRecord K R)} (h : LoopInv st log) (hreq : ev.indices = due log)
    (hne : due log ≠ some []) (hout : ev.outcome = .ok rs) :
    LoopInv (st.absorb rs) (log ++ [ev]) := by
  cases hresp : st.responded with
  | false => exact loopInv_absorb_whole h hreq hne hout hresp
  | true => exact loopInv_absorb_subset h hreq hne hout hresp

/-- One send that carries what is due keeps the invariant, whatever its outcome. -/
theorem loopInv_after {st : LoopState K R} {log : List (Send σ K R)} {ev : Send σ K R}
    (h : LoopInv st log) (hreq : ev.indices = due log) (hne : due log ≠ some []) :
    LoopInv (LoopState.after st ev) (log ++ [ev]) := by
  have hcount : LoopInv { st with attemptsMade := st.attemptsMade + 1 } log :=
    ⟨h.responded, h.length, h.merged, h.due, h.disciplined, h.answered, h.failing⟩
  unfold LoopState.after
  cases hout : ev.outcome with
  | error e => exact loopInv_error hcount hreq hne hout
  | ok rs => exact loopInv_absorb hcount hreq hne hout

/-- The invariant is a property of the log alone. -/
theorem loopInv_replay {log : List (Send σ K R)} (h : Disciplined log) :
    LoopInv (replay log) log := by
  induction log using List.reverseRecOn with
  | nil => exact loopInv_initial
  | append_singleton log ev ih =>
    obtain ⟨hreq, hne⟩ := h log ev [] rfl
    rw [replay_snoc]
    exact loopInv_after (ih (h.front rfl)) hreq hne

theorem due_after {st : LoopState K R} {log : List (Send σ K R)} {ev : Send σ K R}
    (h : LoopInv st log) (h' : LoopInv (LoopState.after st ev) (log ++ [ev]))
    (hne : due log ≠ some [])
    (hok : ∀ rs, ev.outcome = .ok rs → (LoopState.after st ev).retryIndices ≠ []) :
    due (log ++ [ev]) ≠ some [] := by
  rw [h'.due]
  cases hout : ev.outcome with
  | error e =>
    have hreq : LoopState.request (LoopState.after st ev) = LoopState.request st := by
      simp [LoopState.after, LoopState.request, hout]
    rw [hreq, ← h.due]
    exact hne
  | ok rs =>
    have hindices := hok rs hout
    unfold LoopState.request
    split
    · simpa using hindices
    · simp

/-- The loop from a head whose variables are the replayed log: the log stays a run of
`env`, and a loop that starts with attempt 0 has sent something. -/
theorem attemptLoop_replay (env : BatchWriteAttempts σ K R) (rng : Jitter)
    (timeoutMs : UInt64) {s₀ : σ} (passes : Nat) (attempt : UInt32) {s : σ}
    {log : List (Send σ K R)} (hdisc : Disciplined log) (hchain : Chained env s₀ log s)
    (hdue : due log ≠ some []) (hstart : log = [] → attempt = 0 ∧ passes ≠ 0) :
    let r := attemptLoop (recording env) rng timeoutMs passes attempt (replay log) (s, log)
    (∃ truncated, r.1 = { replay r.2.2 with truncatedByTimeout := truncated }) ∧
      Disciplined r.2.2 ∧ Chained env s₀ r.2.2 r.2.1 ∧ r.2.2 ≠ [] := by
  induction passes generalizing attempt s log with
  | zero =>
    refine ⟨⟨_, rfl⟩, hdisc, hchain, fun hnil => ?_⟩
    exact (hstart hnil).2 rfl
  | succ passes ih =>
    have hinv := loopInv_replay hdisc
    have hreq := hinv.due.symm
    have ht := hchain.idle (backoffGuard_idle env rng timeoutMs attempt s)
    have hsent := ht.send (LoopState.request (replay log)) attempt (.refl _)
    dsimp only [attemptLoop]
    rcases attemptBody_cases env rng timeoutMs attempt (replay log) s log with
      ⟨hne, heq⟩ | ⟨flow, heq, hok⟩
    · rw [heq]
      refine ⟨⟨true, rfl⟩, hdisc, ht, fun hnil => ?_⟩
      exact hne (hstart hnil).1
    · rw [heq, ← replay_snoc]
      have hissued : (issue env (backoffGuard env rng timeoutMs attempt s).2
        (LoopState.request (replay log)) attempt).indices = due log := hreq
      have hdisc' := disciplined_snoc hdisc hissued hdue
      cases flow with
      | «break» => exact ⟨⟨_, rfl⟩, hdisc', hsent, by simp⟩
      | «continue» =>
        refine ih (attempt + 1) hdisc' hsent ?_ (by simp)
        have hinv' := loopInv_replay hdisc'
        rw [replay_snoc] at hinv'
        exact due_after hinv hinv' hdue (hok rfl)

/-- A run is its sends: they keep the discipline, they are what the world answered,
and the result is read off the replayed variables. -/
theorem driveBatchWriteRetries_run (env : BatchWriteAttempts σ K R) (rng : Jitter)
    (maxRetries : UInt32) (timeoutMs : UInt64) (s : σ) :
    let log := driveSends env rng maxRetries timeoutMs s
    Disciplined log ∧ log ≠ [] ∧
      Chained env s log (driveBatchWriteRetries env rng maxRetries timeoutMs s).2 ∧
      ∃ truncated, (driveBatchWriteRetries env rng maxRetries timeoutMs s).1 =
        LoopState.finish { replay log with truncatedByTimeout := truncated } maxRetries := by
  obtain ⟨⟨truncated, hst⟩, hdisc, hchain, hsent⟩ := attemptLoop_replay env rng timeoutMs
    (maxRetries.toNat + 1) 0 (disciplined_nil (σ := σ) (K := K) (R := R)) (.start (.refl s))
    (by simp [due, firstWholeResponse]) (by simp)
  obtain ⟨hout, hworld⟩ := driveBatchWriteRetries_project (recording_projects env) rng
    maxRetries timeoutMs (s, [])
  refine ⟨hdisc, hsent, ?_, truncated, ?_⟩
  · rw [← hworld]
    exact hchain
  · rw [← hout]
    exact congrArg (fun st => LoopState.finish st maxRetries) hst

end AerospikePy.Retry.Trace
