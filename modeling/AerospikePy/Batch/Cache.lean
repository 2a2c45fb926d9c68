import AerospikePy.Batch.Handle
import AerospikePy.Values.Entries

/-!
# The cached dict over whole runs

Any sequence of calls, with an error or a panic at any materialisation, answers as the
dict that the results convert to. `__len__` alone does not ask the dict: it counts
records, of which the dict keeps one for each user key.
-/

namespace AerospikePy.Batch

open AerospikePy.Core
open AerospikePy.Lib
open AerospikePy.Lib.Fallible
open AerospikePy.Python
open AerospikePy.Values

variable {rt : Runtime} {repr : Repr}

/-- No two found records have user keys that are equal in Python. -/
def FoundKeysApart (rt : Runtime) (results : Results) : Prop :=
  (results.filter isFound).Pairwise fun br br' =>
    ∀ k l, br.key.userKey = some k → br'.key.userKey = some l → ¬ Confused rt k l

theorem userKeyOrNone_of_some {br : BatchRecord Key Record} {k : Value}
    (h : br.key.userKey = some k) : userKeyOrNone rt br = valueToPy rt k := by
  unfold userKeyOrNone
  rw [h]
  exact userKeyToPy_eq k

theorem userKey_of_found {br : BatchRecord Key Record} (h : isFound br = true) :
    ∃ k, br.key.userKey = some k := by
  unfold isFound at h
  exact Option.isSome_iff_exists.mp (Bool.and_eq_true_iff.mp (Bool.and_eq_true_iff.mp h).1).1

/-- The entries of the dict are as many as the found records when these have user keys
that Python tells apart. -/
theorem length_batchToDictPy {results : Results} {d : Entries}
    (h : batchToDictPy rt results = .ok d) :
    d.length = len results ↔ FoundKeysApart rt results := by
  obtain ⟨-, es, hes, hhash, rfl⟩ := batchToDictPy_eq_ok.mp h
  rw [len, hes.length_eq, Assoc.length_ofList_eq_iff]
  have hfound : List.Forall₂ (fun br e => isFound br = true ∧ EntryOf rt br e)
      (results.filter isFound) es :=
    (List.forall₂_and_left _ _).mpr ⟨fun br hbr => (List.mem_filter.mp hbr).2, hes⟩
  refine pairwise_iff_of_forall₂ (S := fun _ _ => True) hfound.flip
    (List.pairwise_of_forall fun _ _ => trivial) ?_
  intro e he e' he' br br' hbr hbr' _
  obtain ⟨k, hk⟩ := userKey_of_found hbr.1
  obtain ⟨l, hl⟩ := userKey_of_found hbr'.1
  have hx : valueToPy rt k = .ok e.1 := by
    rw [← userKeyOrNone_of_some hk]
    exact hbr.2.1
  have hy : valueToPy rt l = .ok e'.1 := by
    rw [← userKeyOrNone_of_some hl]
    exact hbr'.2.1
  rw [pyEq_eq_false_iff hx (hhash e he) hy (hhash e' he'), hk, hl]
  constructor
  · intro h k' l' hk' hl'
    rwa [← Option.some.inj hk', ← Option.some.inj hl']
  · intro h
    exact h k l rfl rfl

/-- A panic has poisoned the lock and no `release_cache` has come after it. -/
def poisonedAfter (history : List Event) : Bool :=
  history.foldl (fun poisoned e =>
    match e.call, e.outcome with
    | .releaseCache, _ => false
    | _, .panicked => true
    | _, _ => poisoned) false

/-- A call made after `pre` does as on a dict that the results are freshly converted to. -/
structure Answered (rt : Runtime) (repr : Repr) (results : Results) (pre : List Event)
    (e : Event) : Prop where
  view : ∀ v a, e.call = .view v → e.outcome = .returned a →
    ∃ d, batchToDictPy rt results = .ok d ∧ v.answer repr d = .ok a
  len : ∀ d, e.call = .len → batchToDictPy rt results = .ok d →
    e.outcome = .returned (.count d.length)
  foundCount : e.call = .foundCount → e.outcome = .returned (.count (foundCount results))
  releaseCache : e.call = .releaseCache → e.outcome = .returned .nothing
  poisoned : ∀ v, e.call = .view v → poisonedAfter pre = true →
    e.outcome = .raised cacheIsPoisoned
  usable : ∀ v d, e.call = .view v → poisonedAfter pre = false → e.fate = .completes →
    batchToDictPy rt results = .ok d → e.outcome = .ofExcept (v.answer repr d)

structure Sound (rt : Runtime) (repr : Repr) (results : Results) (s : Session) : Prop where
  inner : s.handle.inner = results
  whole : Whole rt s.handle
  poisoned : s.handle.poisoned = poisonedAfter s.history
  answered : ∀ pre e post, s.history = pre ++ e :: post → Answered rt repr results pre e

/-- `len` counts what the dict would have as entries. -/
def LenIsExact (rt : Runtime) (s : Session) (a : Call × Fate) : Prop :=
  a.1 = .len → FoundKeysApart rt s.handle.inner

theorem poisonedAfter_append (history : List Event) (e : Event) :
    poisonedAfter (history ++ [e]) =
      match e.call, e.outcome with
      | .releaseCache, _ => false
      | _, .panicked => true
      | _, _ => poisonedAfter history := by
  rw [poisonedAfter, List.foldl_append]
  rfl

section Perform

variable {h : Handle} {fate : Fate}

theorem perform_view (v : View) :
    h.perform rt repr (.view v) fate =
      match h.materialise rt fate with
      | (.returned d, h') => (.ofExcept (v.answer repr d), h')
      | (.raised e, h') => (.raised e, h')
      | (.panicked, h') => (.panicked, h') := rfl

theorem ofExcept_eq_returned {α : Type} {x : Except PyErr α} {a : α} :
    Outcome.ofExcept x = .returned a ↔ x = .ok a := by
  cases x with
  | ok b => simp [Outcome.ofExcept]
  | error e => simp [Outcome.ofExcept]

theorem ofExcept_ne_panicked {α : Type} (x : Except PyErr α) : Outcome.ofExcept x ≠ .panicked := by
  cases x with
  | ok b => simp [Outcome.ofExcept]
  | error e => simp [Outcome.ofExcept]

theorem perform_view_handle (v : View) :
    (h.perform rt repr (.view v) fate).2 = (h.materialise rt fate).2 := by
  rw [perform_view]
  split <;> next heq => rw [heq]

theorem perform_view_panicked (v : View) :
    (h.perform rt repr (.view v) fate).1 = .panicked ↔ (h.materialise rt fate).1 = .panicked := by
  rw [perform_view]
  split
  · next d h' heq => simp [heq, ofExcept_ne_panicked]
  · next e h' heq => simp [heq]
  · next h' heq => simp [heq]

theorem perform_inner (call : Call) : (h.perform rt repr call fate).2.inner = h.inner := by
  cases call with
  | view v =>
    rw [perform_view_handle]
    exact materialise_inner h fate
  | releaseCache => rfl
  | len => rfl
  | foundCount => rfl

theorem perform_whole (call : Call) (hw : Whole rt h) :
    Whole rt (h.perform rt repr call fate).2 := by
  cases call with
  | view v =>
    rw [perform_view_handle]
    exact materialise_whole hw
  | releaseCache => exact nofun
  | len => exact hw
  | foundCount => exact hw

theorem perform_poisoned (call : Call) {pre : List Event} (hp : h.poisoned = poisonedAfter pre) :
    (h.perform rt repr call fate).2.poisoned =
      poisonedAfter (pre ++ [⟨call, fate, (h.perform rt repr call fate).1⟩]) := by
  rw [poisonedAfter_append]
  cases call with
  | view v =>
    rw [perform_view_handle]
    by_cases hpanic : (h.perform rt repr (.view v) fate).1 = .panicked
    · simp only [hpanic]
      exact materialise_poisoned.mpr (.inr ((perform_view_panicked v).mp hpanic))
    · have hkeep : (h.materialise rt fate).2.poisoned = h.poisoned := by
        rw [Bool.eq_iff_iff, materialise_poisoned, or_iff_left]
        rwa [← @perform_view_panicked rt repr h fate v]
      rw [hkeep, hp]
      cases hout : (h.perform rt repr (.view v) fate).1 with
      | panicked => exact absurd hout hpanic
      | returned a => rfl
      | raised e => rfl
  | releaseCache => rfl
  | len => exact hp
  | foundCount => exact hp

/-- A view that returns has asked the dict of the results. -/
theorem perform_view_returned {v : View} {a : Answer} (hw : Whole rt h)
    (hout : (h.perform rt repr (.view v) fate).1 = .returned a) :
    ∃ d, batchToDictPy rt h.inner = .ok d ∧ v.answer repr d = .ok a := by
  rw [perform_view] at hout
  split at hout
  · next d h' heq =>
    have hd : (h.materialise rt fate).1 = .returned d := by rw [heq]
    exact ⟨d, materialise_returned hw hd, ofExcept_eq_returned.mp hout⟩
  · cases hout
  · cases hout

theorem perform_view_completes {v : View} {d : Entries} (hw : Whole rt h)
    (hp : h.poisoned = false) (hd : batchToDictPy rt h.inner = .ok d) :
    (h.perform rt repr (.view v) .completes).1 = .ofExcept (v.answer repr d) := by
  have hret := materialise_completes hw hp hd
  rw [perform_view]
  split
  · next d' h' heq =>
    rw [heq] at hret
    rw [Outcome.returned.inj hret]
  · next heq =>
    rw [heq] at hret
    cases hret
  · next heq =>
    rw [heq] at hret
    cases hret

/-- One call on a handle whose cache is whole. -/
theorem perform_answered (call : Call) (hw : Whole rt h) {pre : List Event}
    (hp : h.poisoned = poisonedAfter pre) (hlen : call = .len → FoundKeysApart rt h.inner) :
    Answered rt repr h.inner pre ⟨call, fate, (h.perform rt repr call fate).1⟩ where
  view := by
    intro v a hcall hout
    obtain rfl : call = .view v := hcall
    exact perform_view_returned hw hout
  len := by
    intro d hcall hd
    obtain rfl : call = .len := hcall
    show Outcome.returned (Answer.count (Batch.len h.inner)) = _
    rw [(length_batchToDictPy hd).mpr (hlen rfl)]
  foundCount := by
    intro hcall
    obtain rfl : call = .foundCount := hcall
    rfl
  releaseCache := by
    intro hcall
    obtain rfl : call = .releaseCache := hcall
    rfl
  poisoned := by
    intro v hcall hpre
    obtain rfl : call = .view v := hcall
    dsimp only
    rw [perform_view, materialise_of_poisoned (hp.trans hpre)]
  usable := by
    intro v d hcall hpre hfate hd
    obtain rfl : call = .view v := hcall
    obtain rfl : fate = .completes := hfate
    exact perform_view_completes hw (hp.trans hpre) hd
end Perform

theorem step_sound {results : Results} {s t : Session} {a : Call × Fate}
    (hs : Sound rt repr results s) (hlen : LenIsExact rt s a) (ht : step rt repr s a = some t) :
    Sound rt repr results t := by
  obtain ⟨call, fate⟩ := a
  obtain rfl := Option.some.inj ht
  have hone := @perform_answered rt repr s.handle fate call hs.whole _ hs.poisoned hlen
  rw [hs.inner] at hone
  refine ⟨(perform_inner call).trans hs.inner, perform_whole call hs.whole,
    perform_poisoned call hs.poisoned, fun pre e post heq => ?_⟩
  -- the last event is the one of this step, and the others were there before
  rcases List.eq_nil_or_concat post with rfl | ⟨post, last, rfl⟩
  · obtain ⟨rfl, hlast⟩ := List.append_inj' heq rfl
    rw [← (List.cons.inj hlast).1]
    exact hone
  · rw [List.concat_eq_append, ← List.cons_append, ← List.append_assoc] at heq
    exact hs.answered pre e post (List.append_inj' heq rfl).1

theorem start_sound (results : Results) : Sound rt repr results (start results) where
  inner := rfl
  whole := nofun
  poisoned := rfl
  answered := by
    intro pre e post heq
    simp [start] at heq

/-- Every run answers as a dict freshly made, as long as `len` is asked only where no
two found records share a user key. -/
theorem dict_cache_sound (rt : Runtime) (repr : Repr) (results : Results)
    (as : List (Call × Fate))
    (hlen : Runs.StepsMeet (step rt repr) (LenIsExact rt) (start results) as) :
    Runs.Throughout (step rt repr) (Sound rt repr results) (start results) as :=
  Runs.throughout_of_stepsMeet (fun _ _ _ => step_sound) (start_sound results) hlen

/-- All objects print alike. -/
def someRepr : Repr := fun _ => .ok "1"

/-- One found record. -/
def oneRecord : Results :=
  [⟨⟨"test", "a", some (.int 1), List.replicate 20 0⟩, some ⟨none, [("n", .int 7)], 1, 0, by decide⟩,
    some .ok, false⟩]

theorem dict_cache_sound_oneRecord :
    Runs.Throughout (step .plain someRepr) (Sound .plain someRepr oneRecord) (start oneRecord)
      [(.view .keys, .panics), (.view .toDict, .completes), (.releaseCache, .completes),
        (.view .toDict, .completes), (.len, .completes)] := by
  apply dict_cache_sound
  have hone : FoundKeysApart .plain oneRecord := List.pairwise_singleton _ _
  refine fun _ h => ⟨nofun, ?_⟩
  obtain rfl := Option.some.inj h
  refine fun _ h => ⟨nofun, ?_⟩
  obtain rfl := Option.some.inj h
  refine fun _ h => ⟨nofun, ?_⟩
  obtain rfl := Option.some.inj h
  refine fun _ h => ⟨nofun, ?_⟩
  obtain rfl := Option.some.inj h
  exact fun _ _ => ⟨fun _ => hone, trivial⟩

/-- The same user key in two sets. -/
def twoSets : Results :=
  [⟨⟨"test", "a", some (.int 1), List.replicate 20 0⟩, some ⟨none, [("n", .int 7)], 1, 0, by decide⟩,
      some .ok, false⟩,
    ⟨⟨"test", "b", some (.int 1), List.replicate 20 1⟩, some ⟨none, [("n", .int 8)], 1, 0, by decide⟩,
      some .ok, false⟩]

theorem batchToDictPy_twoSets :
    batchToDictPy .plain twoSets = .ok [(.int 1, .dict [(.str "n", .int 8)])] := by
  refine batchToDictPy_eq_ok.mpr ⟨?_, [(.int 1, .dict [(.str "n", .int 7)]),
    (.int 1, .dict [(.str "n", .int 8)])], ?_, ?_, ?_⟩
  · intro br hbr
    rcases List.mem_cons.mp hbr with rfl | hbr
    · exact ⟨.int 1, rfl⟩
    · obtain rfl := List.mem_singleton.mp hbr
      exact ⟨.int 1, rfl⟩
  · exact .cons ⟨rfl, rfl⟩ (.cons ⟨rfl, rfl⟩ .nil)
  · simp [PyObj.hashable]
  · simp [Assoc.ofList, Assoc.insertAll, Assoc.insert]

/-- The first call of a run: `len` counts two records where the dict has one entry. -/
theorem len_counts_twice :
    (∃ d, batchToDictPy .plain twoSets = .ok d ∧ d.length = 1) ∧
    ∃ s, Runs.run (step .plain someRepr) (start twoSets) [(.len, .completes)] = some s ∧
      s.history = [⟨.len, .completes, .returned (.count 2)⟩] ∧
      ¬ Sound .plain someRepr twoSets s := by
  refine ⟨⟨_, batchToDictPy_twoSets, rfl⟩, _, rfl, rfl, fun hs => ?_⟩
  have hlen := (hs.answered [] _ [] rfl).len _ rfl batchToDictPy_twoSets
  cases hlen

/-- In some state of a handle on these results, the call returns this. -/
def Answers (rt : Runtime) (repr : Repr) (results : Results) (call : Call) (a : Answer) : Prop :=
  ∃ s fate, Reachable rt repr results s ∧ (s.handle.perform rt repr call fate).1 = .returned a

theorem reachable_whole {results : Results} {s : Session} (h : Reachable rt repr results s) :
    s.handle.inner = results ∧ Whole rt s.handle := by
  have hstep : ∀ s a t, (s.handle.inner = results ∧ Whole rt s.handle) →
      step rt repr s a = some t → t.handle.inner = results ∧ Whole rt t.handle := by
    intro s a t hs ht
    obtain ⟨call, fate⟩ := a
    obtain rfl := Option.some.inj ht
    exact ⟨(perform_inner call).trans hs.1, perform_whole call hs.2⟩
  exact Runs.reachable_invariant (I := fun s => s.handle.inner = results ∧ Whole rt s.handle)
    hstep ⟨rfl, (@start_sound rt repr results).whole⟩ h

theorem reachable_start (results : Results) : Reachable rt repr results (start results) :=
  ⟨[], rfl⟩

theorem answers_view_iff {results : Results} {v : View} {a : Answer} :
    Answers rt repr results (.view v) a ↔
      ∃ d, batchToDictPy rt results = .ok d ∧ v.answer repr d = .ok a := by
  constructor
  · intro h
    obtain ⟨s, fate, hreach, hout⟩ := h
    obtain ⟨rfl, hw⟩ := reachable_whole hreach
    exact perform_view_returned hw hout
  · intro h
    obtain ⟨d, hd, ha⟩ := h
    refine ⟨start results, .completes, reachable_start results, ?_⟩
    rw [perform_view_completes (@start_sound rt repr results).whole rfl hd]
    exact ofExcept_eq_returned.mpr ha

theorem answers_len_iff {results : Results} {n : Nat} :
    Answers rt repr results .len (.count n) ↔ n = len results := by
  constructor
  · intro h
    obtain ⟨s, fate, hreach, hout⟩ := h
    obtain ⟨rfl, -⟩ := reachable_whole hreach
    exact (Answer.count.inj (Outcome.returned.inj hout)).symm
  · intro h
    exact ⟨start results, .completes, reachable_start results, by rw [h]; rfl⟩

/-- Where the mapping has a length at all, `len` is this length when no two found records
share a user key, and only then. -/
theorem mapping_length_iff (rt : Runtime) (repr : Repr) (results : Results) (d : Entries)
    (hd : Answers rt repr results (.view .toDict) (.dict d)) :
    (∀ n ks es xs, Answers rt repr results .len (.count n) →
      Answers rt repr results (.view .keys) (.yields ks) →
      Answers rt repr results (.view .items) (.pairs es) →
      Answers rt repr results (.view .iter) (.yields xs) →
      n = d.length ∧ n = ks.length ∧ n = es.length ∧ n = xs.length) ↔
    FoundKeysApart rt results := by
  obtain ⟨d₀, hconv, heq⟩ := answers_view_iff.mp hd
  rw [Answer.dict.inj (Except.ok.inj heq)] at hconv
  have hunique : ∀ d', batchToDictPy rt results = .ok d' → d' = d := fun d' hd' =>
    Except.ok.inj (hd'.symm.trans hconv)
  rw [← length_batchToDictPy hconv]
  constructor
  · intro h
    exact (h _ (d.map (·.1)) d (d.map (·.1)) (answers_len_iff.mpr rfl)
      (answers_view_iff.mpr ⟨d, hconv, rfl⟩) (answers_view_iff.mpr ⟨d, hconv, rfl⟩)
      (answers_view_iff.mpr ⟨d, hconv, rfl⟩)).1.symm
  · intro h n ks es xs hn hks hes hxs
    obtain rfl := answers_len_iff.mp hn
    obtain ⟨d₁, hd₁, hks⟩ := answers_view_iff.mp hks
    obtain ⟨d₂, hd₂, hes⟩ := answers_view_iff.mp hes
    obtain ⟨d₃, hd₃, hxs⟩ := answers_view_iff.mp hxs
    rw [hunique d₁ hd₁] at hks
    rw [hunique d₂ hd₂] at hes
    rw [hunique d₃ hd₃] at hxs
    rw [← Answer.yields.inj (Except.ok.inj hks), ← Answer.pairs.inj (Except.ok.inj hes),
      ← Answer.yields.inj (Except.ok.inj hxs)]
    simp [h]

/-- Two found records, a missing one, and a found one without a user key. -/
def fourSlots : Results :=
  [⟨⟨"test", "a", some (.int 1), List.replicate 20 0⟩, some ⟨none, [("n", .int 7)], 1, 0, by decide⟩,
      some .ok, false⟩,
    ⟨⟨"test", "a", some (.int 2), List.replicate 20 1⟩, none, some .keyNotFoundError, false⟩,
    ⟨⟨"test", "a", some (.string "b"), List.replicate 20 2⟩,
      some ⟨none, [("n", .int 8)], 1, 0, by decide⟩, some .ok, false⟩,
    ⟨⟨"test", "a", none, List.replicate 20 3⟩, some ⟨none, [("n", .int 9)], 1, 0, by decide⟩,
      some .ok, false⟩]

theorem batchToDictPy_fourSlots :
    batchToDictPy .plain fourSlots =
      .ok [(.int 1, .dict [(.str "n", .int 7)]), (.str "b", .dict [(.str "n", .int 8)])] := by
  refine batchToDictPy_eq_ok.mpr ⟨?_, [(.int 1, .dict [(.str "n", .int 7)]),
    (.str "b", .dict [(.str "n", .int 8)])], ?_, ?_, ?_⟩
  · simp only [fourSlots, List.forall_mem_cons]
    exact ⟨⟨.int 1, rfl⟩, ⟨.int 2, rfl⟩, ⟨.str "b", rfl⟩, ⟨.none, rfl⟩, nofun⟩
  · exact .cons ⟨rfl, rfl⟩ (.cons ⟨rfl, rfl⟩ .nil)
  · simp [PyObj.hashable]
  · have hne : pyEq (.int 1) (.str "b") = false := rfl
    simp [Assoc.ofList, Assoc.insertAll, Assoc.insert, hne]

theorem mapping_length_iff_fourSlots :
    (∀ n ks es xs, Answers .plain someRepr fourSlots .len (.count n) →
      Answers .plain someRepr fourSlots (.view .keys) (.yields ks) →
      Answers .plain someRepr fourSlots (.view .items) (.pairs es) →
      Answers .plain someRepr fourSlots (.view .iter) (.yields xs) →
      n = 2 ∧ n = ks.length ∧ n = es.length ∧ n = xs.length) ↔
    FoundKeysApart .plain fourSlots :=
  mapping_length_iff .plain someRepr fourSlots
    [(.int 1, .dict [(.str "n", .int 7)]), (.str "b", .dict [(.str "n", .int 8)])]
    (answers_view_iff.mpr ⟨_, batchToDictPy_fourSlots, rfl⟩)

/-- `len` says two where `to_dict` has one entry. -/
theorem len_exceeds_dict :
    ∃ n d, Answers .plain someRepr twoSets .len (.count n) ∧
      Answers .plain someRepr twoSets (.view .toDict) (.dict d) ∧ n = 2 ∧ d.length = 1 :=
  ⟨2, _, answers_len_iff.mpr rfl, answers_view_iff.mpr ⟨_, batchToDictPy_twoSets, rfl⟩, rfl, rfl⟩

end AerospikePy.Batch
