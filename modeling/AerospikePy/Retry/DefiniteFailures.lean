import AerospikePy.Retry.Cluster

/-!
# Applied writes reported as definite failures

An entry that was applied and is sent again meets its own write: the server may
refuse it now, or the entry may be shed, and the answer replaces what was known.
An applied entry may also be given a timeout that does not say it is in doubt.
The condition below says for one send which of its answers do that. It is exact,
and policies without an existence or generation requirement meet the half of it
that concerns the server.
-/

namespace AerospikePy.Retry.DefiniteFailures

open AerospikePy.Core
open AerospikePy.Lib.Overlay
open AerospikePy.Lib.Runs
open AerospikePy.Retry.Driver
open AerospikePy.Retry.Trace
open AerospikePy.Retry.Results
open AerospikePy.Retry.Cluster

variable {K B X C R τ : Type}

section Definitions

variable [DecidableEq K] (srv : Server B X C) (net : Network τ) (records : List (WriteRecord K B X))

/-- No applied write is reported as a failure without doubt. -/
def NoFalseFailure (log : List (Send (Store K C × τ) K R)) : Prop :=
  ∀ i br, (merged log)[i]? = some br → Applied srv net records log i → br.definite = false

/-- The answers of a send spare the writes applied before it: served again they are
admitted again, and shed they are shed in doubt. A timeout in place of the answer is in
doubt for these writes and for those that the send itself applies. A send without response
applies nothing whose entry is a failure without doubt. -/
def SparesApplied (log : List (Send (Store K C × τ) K R)) (ev : Send (Store K C × τ) K R) : Prop :=
  match (planOf net ev).lost with
  | none => ∀ t ∈ turnsOf srv net records ev,
    match (planOf net ev).fate t.position with
    | .answered => Applied srv net records log t.position →
      refusal srv t.record.2.2 t.existing = none
    | .unheard inDoubt => Applied srv net records log t.position ∨
      refusal srv t.record.2.2 t.existing = none → inDoubt = true
    | .shed _ inDoubt => Applied srv net records log t.position → inDoubt = true
  | some _ => ∀ e ∈ acceptedIn srv net records ev, ∀ br, (merged log)[e.1]? = some br →
    br.definite = false

end Definitions

variable {srv : Server B X C} {net : Network τ} {records : List (WriteRecord K B X)}

theorem refusal_ne_ok (srv : Server B X C) (policy : BatchWritePolicy X)
    (existing : Option (Stored C)) : refusal srv policy existing ≠ some .ok := by
  have hfilter : refusal.filtered srv policy existing ≠ some .ok := by
    unfold refusal.filtered
    split
    · split <;> simp
    · simp
  unfold refusal
  split
  · simp
  · simp
  · simp
  · dsimp only
    split
    · split
      · exact hfilter
      · simp
    · split
      · exact hfilter
      · simp
    · exact hfilter

/-- The answer of a turn is a failure without doubt when the server refuses the write,
or the entry is not heard of, or shed, without doubt. -/
theorem answer_definite (w : WriteRecord K B X) (fate : Fate) (existing : Option (Stored C)) :
    (answer (R := R) srv w fate existing).definite = false ↔
      match fate with
      | .answered => refusal srv w.2.2 existing = none
      | .unheard inDoubt => inDoubt = true
      | .shed _ inDoubt => inDoubt = true := by
  cases fate with
  | answered =>
    have hne := refusal_ne_ok srv w.2.2 existing
    cases href : refusal srv w.2.2 existing with
    | none => simp [answer, BatchRecord.definite, BatchRecord.failed, href]
    | some rc =>
      have hrc : rc ≠ .ok := by
        rintro rfl
        exact hne href
      simp [answer, BatchRecord.definite, BatchRecord.failed, href, hrc]
  | unheard inDoubt =>
    cases inDoubt <;> simp [answer, BatchRecord.definite, BatchRecord.failed]
  | shed code inDoubt =>
    have hcode := code.2
    cases inDoubt <;> simp [answer, BatchRecord.definite, BatchRecord.failed, hcode]

/-- Among the writes that are applied, before the send or by it, the answers that are no
failure without doubt are those of a send that spares them. -/
theorem answer_spares (w : WriteRecord K B X) (fate : Fate) (existing : Option (Stored C))
    (before : Prop) :
    (before ∨ takesEffect srv w fate existing = true →
      (answer (R := R) srv w fate existing).definite = false) ↔
      match fate with
      | .answered => before → refusal srv w.2.2 existing = none
      | .unheard inDoubt => before ∨ refusal srv w.2.2 existing = none → inDoubt = true
      | .shed _ inDoubt => before → inDoubt = true := by
  rw [answer_definite]
  cases fate with
  | answered =>
    -- What the send applies and answers is admitted.
    simp only [takesEffect, reachesServer, Bool.true_and, Option.isNone_iff_eq_none]
    exact ⟨fun h hb => h (.inl hb), fun h => Or.rec h id⟩
  | unheard inDoubt =>
    simp only [takesEffect, reachesServer, Bool.true_and, Option.isNone_iff_eq_none]
  | shed code inDoubt =>
    simp only [takesEffect, reachesServer, Bool.false_and, Bool.false_eq_true, or_false]

/-- A policy without an existence, generation or filter requirement on a stored record. -/
def Repeatable (policy : BatchWritePolicy X) : Prop :=
  policy.recordExistsAction ≠ .createOnly ∧ policy.generationPolicy = .none ∧
    policy.filterExpression = none

theorem refusal_of_repeatable {policy : BatchWritePolicy X} (h : Repeatable policy)
    (r : Stored C) : refusal srv policy (some r) = none := by
  obtain ⟨hexists, hgen, hfilter⟩ := h
  unfold refusal
  cases haction : policy.recordExistsAction with
  | createOnly => exact absurd haction hexists
  | update | updateOnly | replace | replaceOnly =>
    simp [hgen, hfilter, refusal.filtered]

variable [DecidableEq K]

theorem applied_snoc {log : List (Send (Store K C × τ) K R)} {ev : Send (Store K C × τ) K R}
    {i : Nat} : Applied srv net records (log ++ [ev]) i ↔
      Applied srv net records log i ∨ ∃ w, (i, w) ∈ acceptedIn srv net records ev := by
  simp only [Applied, accepted_snoc, List.mem_append, exists_or]

/-- Where the send applied a position, it did so in the turn of that position. -/
theorem takesEffect_of_accepted {s t : Store K C × τ}
    {log pre post : List (Send (Store K C × τ) K R)} {ev : Send (Store K C × τ) K R}
    (hdisc : Disciplined log) (hchain : Chained (clusterAttempts srv net records) s log t)
    (heq : log = pre ++ ev :: post) (hlost : (planOf net ev).lost = none)
    {turn : Turn K B X C} (hturn : turn ∈ turnsOf srv net records ev) {w : WriteRecord K B X}
    (hw : (turn.position, w) ∈ acceptedIn srv net records ev) :
    takesEffect srv turn.record ((planOf net ev).fate turn.position) turn.existing = true := by
  obtain ⟨turn', hturn', heff, hpos, -⟩ := mem_acceptedIn.mp hw
  obtain rfl : turn' = turn :=
    List.inj_on_of_nodup_map (turns_nodup hdisc hchain heq hlost) hturn' hturn hpos
  exact heff

/-- One send makes no applied write a false failure exactly when it spares them. -/
theorem noFalseFailure_snoc {s t : Store K C × τ} {log pre post : List (Send (Store K C × τ) K R)}
    {ev : Send (Store K C × τ) K R} (hdisc : Disciplined log)
    (hchain : Chained (clusterAttempts srv net records) s log t) (heq : log = pre ++ ev :: post)
    (hpre : NoFalseFailure srv net records pre) :
    NoFalseFailure srv net records (pre ++ [ev]) ↔ SparesApplied srv net records pre ev := by
  have hev : ev ∈ log := by simp [heq]
  have hsnoc : Disciplined (pre ++ [ev]) :=
    hdisc.front (show log = (pre ++ [ev]) ++ post by simp [heq])
  have hlatest := merged_snoc hsnoc
  unfold SparesApplied
  cases hlost : (planOf net ev).lost with
  | some e =>
    have hans := answers_of_lost hchain hev hlost
    simp only [hans, lastAt_nil, Option.none_or] at hlatest
    dsimp only
    constructor
    · intro h e' he' br hbr
      exact h e'.1 br (by rw [hlatest, hbr]) (applied_snoc.mpr (Or.inr ⟨e'.2, he'⟩))
    · intro h i br hbr happ
      rw [hlatest] at hbr
      rcases applied_snoc.mp happ with hold | ⟨w, hnew⟩
      · exact hpre i br hbr hold
      · exact h (i, w) hnew br hbr
  | none =>
    have hentry := fun t (ht : t ∈ turnsOf srv net records ev) =>
      lastAt_answers hdisc hchain heq hlost ht
    dsimp only
    constructor
    · intro h t ht
      refine (answer_spares (R := R) t.record _ t.existing _).mp fun happ => h t.position _ ?_ ?_
      · rw [hlatest, hentry t ht]
        rfl
      · exact applied_snoc.mpr (happ.imp_right fun heff =>
          ⟨t.record, mem_acceptedIn.mpr ⟨t, ht, heff, rfl, rfl⟩⟩)
    · intro h i br hbr happ
      rw [hlatest] at hbr
      cases hl : lastAt i ev.answers with
      | none =>
        rw [hl, Option.none_or] at hbr
        rcases applied_snoc.mp happ with hold | ⟨w, hnew⟩
        · exact hpre i br hbr hold
        · obtain ⟨t, ht, -, rfl, -⟩ := mem_acceptedIn.mp hnew
          rw [hentry t ht] at hl
          cases hl
      | some br' =>
        obtain ⟨t, ht, rfl, rfl⟩ := turn_of_lastAt hdisc hchain heq hlost hl
        rw [hl, Option.some_or, Option.some.injEq] at hbr
        rw [← hbr]
        refine (answer_spares (R := R) t.record _ t.existing _).mpr (h t ht) ?_
        refine (applied_snoc.mp happ).imp_right ?_
        rintro ⟨w, hnew⟩
        exact takesEffect_of_accepted hdisc hchain heq hlost ht hnew

/-- Re-driving a batch write never turns an applied write into a failure without doubt
exactly when every send spares the applied writes; then no returned entry does. -/
theorem doBatchWrite_definite_failures (srv : Server B X C) (net : Network τ)
    (records : List (WriteRecord K B X)) (rng : Jitter) (maxRetries : UInt32)
    (timeoutMs : UInt64) (s : Store K C × τ) :
    let env : BatchWriteAttempts (Store K C × τ) K R := clusterAttempts srv net records
    let log := batchWriteSends env rng maxRetries timeoutMs s
    let spared := ∀ pre ev post, log = pre ++ ev :: post → SparesApplied srv net records pre ev
    ((∀ pre post, log = pre ++ post → NoFalseFailure srv net records pre) ↔ spared) ∧
    (spared → ∀ results stats, (doBatchWrite env rng maxRetries timeoutMs s).1 =
      .ok (results, stats) → ∀ i br, results[i]? = some br → Applied srv net records log i →
      br.definite = false) := by
  intro env log spared
  obtain ⟨hdisc, hchain, hout⟩ := doBatchWrite_run env rng maxRetries timeoutMs s
  have hiff : (∀ pre post, log = pre ++ post → NoFalseFailure srv net records pre) ↔ spared := by
    refine forall_prefix_iff ?_ fun pre ev post heq hpre =>
      noFalseFailure_snoc hdisc hchain heq hpre
    rintro i br - ⟨w, hw⟩
    simp [accepted] at hw
  refine ⟨hiff, fun hspared results stats hok => ?_⟩
  rw [(hout results stats hok).2]
  exact hiff.mpr hspared log [] (List.append_nil _).symm

/-- A create-only record whose first reply is lost: the resend meets its own record
and is reported as KeyExistsError without doubt. -/
theorem doBatchWrite_create_only_rejected :
    let policy : BatchWritePolicy Unit :=
      { BatchWritePolicy.default with recordExistsAction := parseRecordExistsAction 4 }
    let srv : Server Nat Unit Nat := ⟨fun _ bins _ => some bins, fun _ _ => true⟩
    let net : Network Nat := ⟨fun t => (0, t),
      fun t => (⟨fun _ => .answered, if t = 0 then some ⟨.timeoutError, "lost"⟩ else none⟩, t + 1),
      fun t _ => t⟩
    let env : BatchWriteAttempts (Store Nat Nat × Nat) Nat Unit :=
      clusterAttempts srv net [(7, 1, policy)]
    let log := batchWriteSends env noJitter 1 1000 (fun _ => none, 0)
    ¬ ∀ results stats, (doBatchWrite env noJitter 1 1000 (fun _ => none, 0)).1 =
      .ok (results, stats) → ∀ i br, results[i]? = some br →
      Applied srv net [(7, 1, policy)] log i → br.definite = false := by
  intro policy srv net env log h
  have happlied : Applied srv net [(7, 1, policy)] log 0 := ⟨(7, 1, policy), by decide⟩
  have hdefinite := h [⟨7, none, some .keyExistsError, false⟩] ⟨2, 2, false, 0⟩ rfl 0 _ rfl happlied
  exact absurd hdefinite (by decide)

/-- Once a write is applied, its key holds a record, if no put removes one. -/
theorem isSome_of_applied (hkeep : ∀ policy bins content, (srv.put policy bins content).isSome)
    {ws : List (WriteRecord K B X)} {w : WriteRecord K B X} (hw : w ∈ ws) (store : Store K C) :
    (ws.foldl (applyWrite srv) store w.1).isSome := by
  induction ws using List.reverseRecOn with
  | nil => simp at hw
  | append_singleton ws last ih =>
    rw [List.foldl_append, List.foldl_cons, List.foldl_nil, applyWrite]
    by_cases hkey : w.1 = last.1
    · rw [hkey, Function.update_self, written, Option.isSome_map]
      exact hkeep _ _ _
    · rw [Function.update_of_ne hkey]
      rcases List.mem_append.mp hw with hold | hlast
      · exact ih hold
      · rw [List.mem_singleton.mp hlast] at hkey
        exact absurd rfl hkey

/-- The server admits an applied write again if its policy is repeatable. -/
theorem repeatable_readmitted
    (hkeep : ∀ policy bins content, (srv.put policy bins content).isSome)
    {s t : Store K C × τ} {log pre post : List (Send (Store K C × τ) K R)}
    {ev : Send (Store K C × τ) K R}
    (hchain : Chained (clusterAttempts srv net records) s log t) (heq : log = pre ++ ev :: post)
    {turn : Turn K B X C} (hturn : turn ∈ turnsOf srv net records ev)
    (happ : Applied srv net records pre turn.position) (hrep : Repeatable turn.record.2.2) :
    refusal srv turn.record.2.2 turn.existing = none := by
  obtain ⟨w, hw⟩ := happ
  obtain rfl : w = turn.record :=
    Option.some.inj ((record_of_accepted hw).symm.trans (record_of_turn hturn))
  obtain ⟨ws, hws⟩ := turns_existing hturn
  rw [store_of_chained (hchain.before heq), ← List.foldl_append] at hws
  have hin : turn.record ∈ (accepted srv net records pre).map (·.2) ++ ws :=
    List.mem_append_left _ (List.mem_map.mpr ⟨_, hw, rfl⟩)
  obtain ⟨r, hr⟩ := Option.isSome_iff_exists.mp (isSome_of_applied hkeep hin s.1)
  rw [hws, hr]
  exact refusal_of_repeatable hrep r

end AerospikePy.Retry.DefiniteFailures
