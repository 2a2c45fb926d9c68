import AerospikePy.Retry.Cluster

/-!
# The order in which a retried batch is applied

Where every entry is either applied and answered Ok or given a retryable code
without being applied, a run that ends with every record Ok has applied each
record once, in the order in which the sends accepted them. That is the order of
the list only for the records of a key that were accepted in it: a retry sends the
failed positions alone, after later positions of the list were applied.
-/

namespace AerospikePy.Retry.AcceptOrder

open AerospikePy.Core
open AerospikePy.Lib.KeyedFold
open AerospikePy.Lib.Overlay
open AerospikePy.Retry.Driver
open AerospikePy.Retry.Trace
open AerospikePy.Retry.Results
open AerospikePy.Retry.Cluster

variable {K B X C R τ : Type}

variable {srv : Server B X C} {net : Network τ} {records : List (WriteRecord K B X)}

/-- What the assumption leaves of an entry's fate: served and admitted, or shed with a
retryable code. -/
def AppliedOrRetryable (srv : Server B X C) (w : WriteRecord K B X) (fate : Fate)
    (existing : Option (Stored C)) : Prop :=
  match fate with
  | .answered => refusal srv w.2.2 existing = none
  | .unheard _ => False
  | .shed code _ => isRetryableResultCode code = true

/-- An entry that is applied or shed is applied exactly when its answer is Ok. -/
theorem answer_failed_iff {w : WriteRecord K B X} {fate : Fate} {existing : Option (Stored C)}
    (h : AppliedOrRetryable srv w fate existing) :
    (answer (R := R) srv w fate existing).failed = false ↔
      takesEffect srv w fate existing = true := by
  unfold AppliedOrRetryable at h
  cases fate with
  | answered => simp [answer, BatchRecord.failed, takesEffect, reachesServer, h]
  | unheard inDoubt => exact h.elim
  | shed code inDoubt =>
    have hcode := code.2
    simp [answer, BatchRecord.failed, takesEffect, reachesServer, hcode]

variable [DecidableEq K]

/-- Each entry of the send is applied and answered Ok, or given a retryable code
without being applied; a send without response applies nothing. -/
def AcceptsOrSheds (srv : Server B X C) (net : Network τ) (records : List (WriteRecord K B X))
    (ev : Send (Store K C × τ) K R) : Prop :=
  match (planOf net ev).lost with
  | none => ∀ t ∈ turnsOf srv net records ev,
    AppliedOrRetryable srv t.record ((planOf net ev).fate t.position) t.existing
  | some _ => acceptedIn srv net records ev = []

/-- Each position is accepted at most once, and its entry is Ok exactly if it was. -/
structure AcceptInv (srv : Server B X C) (net : Network τ) (records : List (WriteRecord K B X))
    (log : List (Send (Store K C × τ) K R)) : Prop where
  nodup : ((accepted srv net records log).map (·.1)).Nodup
  ok : ∀ i, (∃ w, (i, w) ∈ accepted srv net records log) ↔
    ∃ br, (merged log)[i]? = some br ∧ br.failed = false

theorem acceptInv_nil : AcceptInv srv net records ([] : List (Send (Store K C × τ) K R)) where
  nodup := List.nodup_nil
  ok := by simp [accepted, merged, replay, LoopState.initial]

section Send

variable {s t : Store K C × τ} {log pre post : List (Send (Store K C × τ) K R)}
  {ev : Send (Store K C × τ) K R}

theorem acceptInv_snoc_lost (hchain : Chained (clusterAttempts srv net records) s log t)
    (hev : ev ∈ log) (hsnoc : Disciplined (pre ++ [ev])) {e : PyErr}
    (hlost : (planOf net ev).lost = some e) (hplan : acceptedIn srv net records ev = [])
    (h : AcceptInv srv net records pre) : AcceptInv srv net records (pre ++ [ev]) := by
  have hmerged := merged_snoc hsnoc
  simp only [answers_of_lost hchain hev hlost, lastAt_nil, Option.none_or] at hmerged
  constructor
  · rw [accepted_snoc, hplan, List.append_nil]
    exact h.nodup
  · intro i
    rw [accepted_snoc, hplan, List.append_nil, hmerged]
    exact h.ok i

/-- A position that the send serves was not accepted before: its entry was a failure. -/
theorem not_accepted_of_turn (hdisc : Disciplined log)
    (hchain : Chained (clusterAttempts srv net records) s log t) (heq : log = pre ++ ev :: post)
    (hsnoc : Disciplined (pre ++ [ev])) (hlost : (planOf net ev).lost = none)
    (h : AcceptInv srv net records pre) {turn : Turn K B X C}
    (hturn : turn ∈ turnsOf srv net records ev) :
    ¬ ∃ w, (turn.position, w) ∈ accepted srv net records pre := by
  intro hacc
  obtain ⟨cur, hcur, hok⟩ := (h.ok turn.position).mp hacc
  have hmem := mem_of_lastAt (lastAt_answers hdisc hchain heq hlost hturn)
  rw [failed_of_resent hsnoc hcur hmem] at hok
  cases hok

theorem nodup_acceptedIn (hdisc : Disciplined log)
    (hchain : Chained (clusterAttempts srv net records) s log t) (heq : log = pre ++ ev :: post)
    (hlost : (planOf net ev).lost = none) :
    ((acceptedIn srv net records ev).map (·.1)).Nodup := by
  have hpos : ((turnsOf srv net records ev).map (·.position)).Nodup :=
    turns_nodup hdisc hchain heq hlost
  simp only [acceptedIn, List.map_map]
  exact hpos.sublist (List.filter_sublist.map _)

/-- A send that is answered accepts the positions whose new entry is Ok. -/
theorem ok_of_answered (hdisc : Disciplined log)
    (hchain : Chained (clusterAttempts srv net records) s log t) (heq : log = pre ++ ev :: post)
    (hlost : (planOf net ev).lost = none)
    (hplan : ∀ turn ∈ turnsOf srv net records ev,
      AppliedOrRetryable srv turn.record ((planOf net ev).fate turn.position) turn.existing)
    (i : Nat) : (∃ w, (i, w) ∈ acceptedIn srv net records ev) ↔
      ∃ br, lastAt i ev.answers = some br ∧ br.failed = false := by
  constructor
  · intro hnew
    obtain ⟨w, hw⟩ := hnew
    obtain ⟨turn, hturn, heff, rfl, -⟩ := mem_acceptedIn.mp hw
    exact ⟨_, lastAt_answers hdisc hchain heq hlost hturn,
      (answer_failed_iff (hplan turn hturn)).mpr heff⟩
  · intro hnew
    obtain ⟨br, hbr, hok⟩ := hnew
    obtain ⟨turn, hturn, rfl, rfl⟩ := turn_of_lastAt hdisc hchain heq hlost hbr
    have heff := (answer_failed_iff (hplan turn hturn)).mp hok
    exact ⟨turn.record, mem_acceptedIn.mpr ⟨turn, hturn, heff, rfl, rfl⟩⟩

theorem acceptInv_snoc_answered (hdisc : Disciplined log)
    (hchain : Chained (clusterAttempts srv net records) s log t) (heq : log = pre ++ ev :: post)
    (hsnoc : Disciplined (pre ++ [ev])) (hlost : (planOf net ev).lost = none)
    (hplan : ∀ turn ∈ turnsOf srv net records ev,
      AppliedOrRetryable srv turn.record ((planOf net ev).fate turn.position) turn.existing)
    (h : AcceptInv srv net records pre) : AcceptInv srv net records (pre ++ [ev]) := by
  constructor
  · rw [accepted_snoc, List.map_append, List.nodup_append]
    refine ⟨h.nodup, nodup_acceptedIn hdisc hchain heq hlost, ?_⟩
    intro i hi j hj hij
    obtain ⟨⟨i, w⟩, hw, rfl⟩ := List.mem_map.mp hi
    obtain ⟨⟨j, w'⟩, hw', rfl⟩ := List.mem_map.mp hj
    obtain ⟨turn, hturn, -, rfl, -⟩ := mem_acceptedIn.mp hw'
    dsimp only at hij
    exact not_accepted_of_turn hdisc hchain heq hsnoc hlost h hturn ⟨w, hij ▸ hw⟩
  · intro i
    rw [accepted_snoc, merged_snoc hsnoc]
    simp only [List.mem_append, exists_or]
    rw [h.ok i, ok_of_answered hdisc hchain heq hlost hplan i]
    cases hl : lastAt i ev.answers with
    | none => simp
    | some br =>
      -- a position that was sent again has no Ok entry before
      have hold : ¬ ∃ cur, (merged pre)[i]? = some cur ∧ cur.failed = false := by
        intro hcur
        obtain ⟨cur, hcur, hok⟩ := hcur
        rw [failed_of_resent hsnoc hcur (mem_of_lastAt hl)] at hok
        cases hok
      simp [hold]

end Send

theorem acceptInv_snoc {s t : Store K C × τ} {log pre post : List (Send (Store K C × τ) K R)}
    {ev : Send (Store K C × τ) K R} (hdisc : Disciplined log)
    (hchain : Chained (clusterAttempts srv net records) s log t) (heq : log = pre ++ ev :: post)
    (hplan : AcceptsOrSheds srv net records ev) (h : AcceptInv srv net records pre) :
    AcceptInv srv net records (pre ++ [ev]) := by
  have hsnoc : Disciplined (pre ++ [ev]) :=
    hdisc.front (show log = (pre ++ [ev]) ++ post by simp [heq])
  unfold AcceptsOrSheds at hplan
  cases hlost : (planOf net ev).lost with
  | some e =>
    rw [hlost] at hplan
    exact acceptInv_snoc_lost hchain (by simp [heq]) hsnoc hlost hplan h
  | none =>
    rw [hlost] at hplan
    exact acceptInv_snoc_answered hdisc hchain heq hsnoc hlost hplan h

theorem acceptInv_of_run {s t : Store K C × τ} {log : List (Send (Store K C × τ) K R)}
    (hdisc : Disciplined log) (hchain : Chained (clusterAttempts srv net records) s log t)
    (hplan : ∀ ev ∈ log, AcceptsOrSheds srv net records ev) :
    ∀ pre post, log = pre ++ post → AcceptInv srv net records pre := by
  intro pre
  induction pre using List.reverseRecOn with
  | nil => exact fun _ _ => acceptInv_nil
  | append_singleton pre ev ih =>
    intro post heq
    have hcons : log = pre ++ ev :: post := by simp [heq]
    exact acceptInv_snoc hdisc hchain hcons (hplan ev (by simp [heq])) (ih _ hcons)

/-- A run that ends with every record Ok has applied each record once. -/
theorem accepted_perm {s t : Store K C × τ} {log : List (Send (Store K C × τ) K R)}
    (hdisc : Disciplined log) (hchain : Chained (clusterAttempts srv net records) s log t)
    (hinv : AcceptInv srv net records log) (hany : anyResponse log)
    (hok : ∀ br ∈ merged log, br.failed = false) :
    (accepted srv net records log).Perm ((List.range records.length).zip records) := by
  have hlen : (merged log).length = records.length := by
    obtain ⟨rs, hrs⟩ := firstWholeResponse_of_anyResponse hdisc hany
    rw [length_merged hdisc hrs, length_firstWholeResponse hchain hrs]
  have hwhole : ((List.range records.length).zip records).map (·.1) =
      List.range records.length := attemptOps_positions_whole records
  refine (List.perm_ext_iff_of_nodup (List.Nodup.of_map _ hinv.nodup)
    (List.Nodup.of_map (·.1) (by rw [hwhole]; exact List.nodup_range))).mpr ?_
  rintro ⟨i, w⟩
  constructor
  · intro hw
    obtain ⟨hi, rfl⟩ := List.getElem?_eq_some_iff.mp (record_of_accepted hw)
    exact List.mem_iff_getElem.mpr ⟨i, by simpa using hi, by simp⟩
  · intro hw
    have hrec : records[i]? = some w := 
      attemptOps_mem (show (i, w) ∈ attemptOps records none from hw)
    have hi : i < (merged log).length := hlen ▸ (List.getElem?_eq_some_iff.mp hrec).1
    have hentry := List.getElem?_eq_getElem hi
    obtain ⟨w', hw'⟩ := (hinv.ok i).mpr ⟨_, hentry, hok _ (List.getElem_mem hi)⟩
    obtain rfl : w' = w := Option.some.inj ((record_of_accepted hw').symm.trans hrec)
    exact hw'

/-- Two orders of the batch that agree on each key leave the same store. -/
theorem applyAll_eq_of_perm {order : List (Nat × WriteRecord K B X)} {store : Store K C}
    (hperm : order.Perm ((List.range records.length).zip records))
    (hkeep : order.Pairwise fun a b => a.2.1 = b.2.1 → a.1 < b.1) :
    (order.map (·.2)).foldl (applyWrite srv) store =
      (((List.range records.length).zip records).map (·.2)).foldl (applyWrite srv) store := by
  have hsorted : ((List.range records.length).zip records).Pairwise fun a b => a.1 < b.1 := by
    have hwhole : (((List.range records.length).zip records).map (·.1)) =
        List.range records.length := attemptOps_positions_whole records
    rw [← List.pairwise_map (R := (· < ·)), hwhole]
    exact List.pairwise_lt_range
  have hlist : ((List.range records.length).zip records).Pairwise
      fun a b => a.2.1 = b.2.1 → a.1 < b.1 := by
    refine hsorted.imp ?_
    intro a b hab _
    exact hab
  rw [List.foldl_map, List.foldl_map]
  refine foldl_stepAt_of_perm (fun a : Nat × WriteRecord K B X => a.2.1)
    (fun a => written srv a.2) (fun a b => a.1 < b.1) (fun a b hab hba => ?_) hperm hkeep
    hlist store
  omega

/-- The store after a run that ends with every record Ok: each record applied once, in
the order of acceptance, which is list order where each key's records were accepted
in it, and so where the keys are distinct. -/
theorem doBatchWrite_applies_in_accept_order (srv : Server B X C) (net : Network τ)
    (records : List (WriteRecord K B X)) (rng : Jitter) (maxRetries : UInt32)
    (timeoutMs : UInt64) (s : Store K C × τ) (results : List (BatchRecord K R))
    (stats : BatchWriteRetryStats)
    (hplan : ∀ ev ∈ batchWriteSends (clusterAttempts (R := R) srv net records) rng maxRetries
      timeoutMs s, AcceptsOrSheds srv net records ev)
    (hout : (doBatchWrite (clusterAttempts srv net records) rng maxRetries timeoutMs s).1 =
      .ok (results, stats))
    (hok : ∀ br ∈ results, br.failed = false) :
    let env : BatchWriteAttempts (Store K C × τ) K R := clusterAttempts srv net records
    let order := accepted srv net records (batchWriteSends env rng maxRetries timeoutMs s)
    let final := (doBatchWrite env rng maxRetries timeoutMs s).2.1
    order.Perm ((List.range records.length).zip records) ∧
    final = (order.map (·.2)).foldl (applyWrite srv) s.1 ∧
    ((order.Pairwise fun a b => a.2.1 = b.2.1 → a.1 < b.1) →
      final = records.foldl (applyWrite srv) s.1) ∧
    ((records.map (·.1)).Nodup → final = records.foldl (applyWrite srv) s.1) := by
  intro env order final
  obtain ⟨hdisc, hchain, hmerge⟩ := doBatchWrite_run env rng maxRetries timeoutMs s
  obtain ⟨hany, rfl⟩ := hmerge results stats hout
  have hinv := acceptInv_of_run hdisc hchain hplan _ [] (List.append_nil _).symm
  have hperm : order.Perm ((List.range records.length).zip records) :=
    accepted_perm hdisc hchain hinv hany hok
  have hfinal : final = (order.map (·.2)).foldl (applyWrite srv) s.1 := store_of_chained hchain
  have hlist : (order.Pairwise fun a b => a.2.1 = b.2.1 → a.1 < b.1) →
      final = records.foldl (applyWrite srv) s.1 := by
    intro hkeep
    rw [hfinal, applyAll_eq_of_perm hperm hkeep, List.map_snd_zip (by simp)]
  refine ⟨hperm, hfinal, hlist, fun hkeys => hlist ?_⟩
  have hdistinct : (order.map fun a => a.2.1).Nodup := by
    refine (hperm.map fun a => a.2.1).nodup_iff.mpr ?_
    have hmap : ((List.range records.length).zip records).map (fun a => a.2.1) =
        (((List.range records.length).zip records).map (·.2)).map (·.1) := by
      rw [List.map_map]
      rfl
    rw [hmap, List.map_snd_zip (by simp)]
    exact hkeys
  refine (List.pairwise_map.mp hdistinct).imp fun hne hkey => ?_
  exact absurd hkey hne

/-- A server that keeps the last bins put, and a network that loses no response and
sheds position 0 of the first send. -/
def lastPutServer : Server Nat Unit Nat := ⟨fun _ bins _ => some bins, fun _ _ => true⟩

def shedFirstNetwork : Network Nat where
  elapsedMs t := (0, t)
  plan t :=
    (⟨fun i => if t = 0 ∧ i = 0 then .shed ⟨.deviceOverload, by decide⟩ false else .answered,
      none⟩, t + 1)
  sleepMs t _ := t

theorem shedFirst_acceptsOrSheds {records : List (WriteRecord Nat Nat Unit)}
    (h : ∀ w ∈ records, w.2.2 = .default) (ev : Send (Store Nat Nat × Nat) Nat R) :
    AcceptsOrSheds lastPutServer shedFirstNetwork records ev := by
  change ∀ t ∈ turnsOf lastPutServer shedFirstNetwork records ev, AppliedOrRetryable _ _ _ _
  intro t ht
  have hdefault := h t.record (List.mem_of_getElem? (record_of_turn ht))
  unfold AppliedOrRetryable planOf shedFirstNetwork
  dsimp only
  by_cases hshed : ev.before.2 = 0 ∧ t.position = 0
  · rw [if_pos hshed]
    rfl
  · rw [if_neg hshed, hdefault]
    cases t.existing <;> rfl

/-- Two keys, the first shed once: both are written, as by one pass over the list. -/
theorem doBatchWrite_applies_in_accept_order_two_keys :
    let records : List (WriteRecord Nat Nat Unit) := [(7, 1, .default), (8, 2, .default)]
    (doBatchWrite (clusterAttempts (R := Unit) lastPutServer shedFirstNetwork records) noJitter
      1 1000 (fun _ => none, 0)).2.1 = records.foldl (applyWrite lastPutServer) fun _ => none := by
  intro records
  have hout : (doBatchWrite (clusterAttempts (R := Unit) lastPutServer shedFirstNetwork records)
      noJitter 1 1000 (fun _ => none, 0)).1 = .ok ([⟨7, none, some .ok, false⟩, ⟨8, none, some .ok, false⟩],
        ⟨2, 2, false, 0⟩) := by decide +kernel
  have hkeys : (records.map (·.1)).Nodup := by decide
  have hok : ∀ br ∈ ([⟨7, none, some .ok, false⟩, ⟨8, none, some .ok, false⟩] :
      List (BatchRecord Nat Unit)), br.failed = false := by decide
  exact (doBatchWrite_applies_in_accept_order lastPutServer shedFirstNetwork records noJitter
    1 1000 (fun _ => none, 0) _ _ (fun ev _ => shedFirst_acceptsOrSheds (by simp [records]) ev)
    hout hok).2.2.2 hkeys

/-- One key twice, its first record shed once: the resend puts the earlier value over
the later one, although every record ends Ok. -/
theorem doBatchWrite_reorders_repeated_key :
    let records : List (WriteRecord Nat Nat Unit) := [(7, 1, .default), (7, 2, .default)]
    let env : BatchWriteAttempts (Store Nat Nat × Nat) Nat Unit :=
      clusterAttempts lastPutServer shedFirstNetwork records
    ∃ results stats, (doBatchWrite env noJitter 1 1000 (fun _ => none, 0)).1 =
        .ok (results, stats) ∧ (∀ br ∈ results, br.failed = false) ∧
      (∀ ev ∈ batchWriteSends env noJitter 1 1000 (fun _ => none, 0),
        AcceptsOrSheds lastPutServer shedFirstNetwork records ev) ∧
      (doBatchWrite env noJitter 1 1000 (fun _ => none, 0)).2.1 ≠
        records.foldl (applyWrite lastPutServer) fun _ => none := by
  intro records env
  refine ⟨[⟨7, none, some .ok, false⟩, ⟨7, none, some .ok, false⟩], ⟨2, 2, false, 0⟩, by decide +kernel,
    by decide, fun ev _ => ?_, fun h => ?_⟩
  · exact shedFirst_acceptsOrSheds (by simp [records]) ev
  · exact absurd (congrFun h 7) (by decide)

end AerospikePy.Retry.AcceptOrder
