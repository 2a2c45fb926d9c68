import AerospikePy.Core.Policy
import AerospikePy.Lib.KeyedFold
import AerospikePy.Retry.Results

/-!
# A batch write against a server

`ClusterAttempts` sends the operations of the asked positions. The server behind it
is part of the model: a store of records with generations, the write policies it
enforces, and a network that decides for every send which entries reach the server,
which answers come back, and whether the response arrives at all. Entries of one
send are served in list order, and nobody else writes.
-/

namespace AerospikePy.Retry.Cluster

open AerospikePy.Core
open AerospikePy.Lib.KeyedFold
open AerospikePy.Lib.Overlay
open AerospikePy.Retry.Driver
open AerospikePy.Retry.Trace
open AerospikePy.Retry.Results

variable {K B X C R τ : Type}

/-- A stored record: its generation and its bins. -/
structure Stored (C : Type) where
  generation : Nat
  content : C
  deriving DecidableEq, Repr

abbrev Store (K C : Type) := K → Option (Stored C)

/-- A record of the batch: its key, its bins and the write policy attached to it. -/
abbrev WriteRecord (K B X : Type) := K × B × BatchWritePolicy X

/-- What the server does with bins, and whether a filter lets a stored record pass.
`put` may leave no record, as a put that deletes the last bin does. -/
structure Server (B X C : Type) where
  put : BatchWritePolicy X → B → Option C → Option C
  passes : X → Stored C → Bool

/-- The code a write is refused with under its policy; `none` for a write that is served.
A record that does not exist has generation 0. -/
def refusal (srv : Server B X C) (policy : BatchWritePolicy X) (existing : Option (Stored C)) :
    Option ResultCode :=
  match policy.recordExistsAction, existing with
  | .updateOnly, none | .replaceOnly, none => some .keyNotFoundError
  | .createOnly, some _ => some .keyExistsError
  | _, _ =>
    let generation := (existing.map (·.generation)).getD 0
    match policy.generationPolicy with
    | .expectGenEqual =>
      if policy.generation.toNat = generation then filtered else some .generationError
    | .expectGenGreater =>
      if generation < policy.generation.toNat then filtered else some .generationError
    | .none => filtered
where
  filtered : Option ResultCode :=
    match policy.filterExpression, existing with
    | some x, some r => if srv.passes x r then none else some .filteredOut
    | _, _ => none

/-- The record a served write leaves. -/
def written (srv : Server B X C) (w : WriteRecord K B X) (existing : Option (Stored C)) :
    Option (Stored C) :=
  (srv.put w.2.2 w.2.1 (existing.map (·.content))).map fun content =>
    ⟨(existing.map (·.generation)).getD 0 + 1, content⟩

/-- What happens to one entry of a send. -/
inductive Fate where
  /-- The server decides, and its answer is delivered. -/
  | answered
  /-- The server decides, and the client hears of a timeout instead, in doubt or not. -/
  | unheard (inDoubt : Bool)
  /-- The entry does not reach the server; the client is given a failure for it. -/
  | shed (code : { rc : ResultCode // rc ≠ .ok }) (inDoubt : Bool)

/-- What happens to one send, by position in the batch: with `lost` the whole response
is replaced by a transport error. -/
structure Plan where
  fate : Nat → Fate
  lost : Option PyErr

/-- Clocks and network of the call, in any state of their own. -/
structure Network (τ : Type) where
  elapsedMs : τ → UInt64 × τ
  plan : τ → Plan × τ
  sleepMs : τ → UInt64 → τ

/-- The operations of one attempt. The loop asks for positions of the batch only. -/
def attemptOps (records : List (WriteRecord K B X)) :
    Option (List Nat) → List (Nat × WriteRecord K B X)
  | some indices => indices.filterMap fun i => records[i]?.map fun w => (i, w)
  | none => (List.range records.length).zip records

theorem attemptOps_mem {records : List (WriteRecord K B X)}
    {indices : Option (List Nat)} {i : Nat} {w : WriteRecord K B X}
    (h : (i, w) ∈ attemptOps records indices) : records[i]? = some w := by
  cases indices with
  | none =>
    obtain ⟨j, hj, heq⟩ := List.mem_iff_getElem.mp h
    simp only [attemptOps, List.getElem_zip, List.getElem_range, Prod.mk.injEq] at heq
    obtain ⟨rfl, rfl⟩ := heq
    exact List.getElem?_eq_getElem _
  | some is =>
    obtain ⟨j, -, hj⟩ := List.mem_filterMap.mp h
    obtain ⟨w', hw', heq⟩ := Option.map_eq_some_iff.mp hj
    obtain ⟨rfl, rfl⟩ := Prod.mk.inj heq
    exact hw'

theorem attemptOps_positions_whole (records : List (WriteRecord K B X)) :
    (attemptOps records none).map (·.1) = List.range records.length :=
  List.map_fst_zip (by simp)

theorem attemptOps_positions_subset {records : List (WriteRecord K B X)} {is : List Nat}
    (h : ∀ i ∈ is, i < records.length) :
    (attemptOps records (some is)).map (·.1) = is := by
  induction is with
  | nil => rfl
  | cons i is ih =>
    have hi := h i List.mem_cons_self
    have hrest := ih fun j hj => h j (List.mem_cons_of_mem _ hj)
    simp only [attemptOps] at hrest ⊢
    rw [List.filterMap_cons, List.getElem?_eq_getElem hi]
    simp [hrest]

def reachesServer : Fate → Bool
  | .answered | .unheard _ => true
  | .shed _ _ => false

/-- The entry is applied at its turn. -/
def takesEffect (srv : Server B X C) (w : WriteRecord K B X) (fate : Fate)
    (existing : Option (Stored C)) : Bool :=
  reachesServer fate && (refusal srv w.2.2 existing).isNone

def answer (srv : Server B X C) (w : WriteRecord K B X) (fate : Fate)
    (existing : Option (Stored C)) : BatchRecord K R :=
  match fate with
  | .answered =>
    { key := w.1, record := none, inDoubt := false
      resultCode := some ((refusal srv w.2.2 existing).getD .ok) }
  | .unheard inDoubt =>
    { key := w.1, record := none, inDoubt := inDoubt, resultCode := some .timeout }
  | .shed code inDoubt =>
    { key := w.1, record := none, inDoubt := inDoubt, resultCode := some code }

/-- An entry at its turn: its position, its record and the stored record it meets. -/
structure Turn (K B X C : Type) where
  position : Nat
  record : WriteRecord K B X
  existing : Option (Stored C)

variable [DecidableEq K]

def applyWrite (srv : Server B X C) (store : Store K C) (w : WriteRecord K B X) : Store K C :=
  Function.update store w.1 (written srv w (store w.1))

/-- The store after one entry. -/
def serve (srv : Server B X C) (fate : Nat → Fate) (store : Store K C)
    (e : Nat × WriteRecord K B X) : Store K C :=
  if takesEffect srv e.2 (fate e.1) (store e.2.1) then applyWrite srv store e.2 else store

/-- The turns of the entries of a send, in the order in which they are served. -/
def turns (srv : Server B X C) (fate : Nat → Fate) :
    Store K C → List (Nat × WriteRecord K B X) → List (Turn K B X C)
  | _, [] => []
  | store, e :: es => ⟨e.1, e.2, store e.2.1⟩ :: turns srv fate (serve srv fate store e) es

/-- `ClusterAttempts`, with the server and the network it talks to. -/
def clusterAttempts (srv : Server B X C) (net : Network τ) (records : List (WriteRecord K B X)) :
    BatchWriteAttempts (Store K C × τ) K R where
  elapsedMs s := ((net.elapsedMs s.2).1, (s.1, (net.elapsedMs s.2).2))
  send s indices _ :=
    let plan := (net.plan s.2).1
    let ops := attemptOps records indices
    let store := ops.foldl (serve srv plan.fate) s.1
    match plan.lost with
    | some e => (.error e, (store, (net.plan s.2).2))
    | none =>
      (.ok ((turns srv plan.fate s.1 ops).map fun t =>
        answer srv t.record (plan.fate t.position) t.existing), (store, (net.plan s.2).2))
  sleepMs s ms := (s.1, net.sleepMs s.2 ms)

section Sends

variable (srv : Server B X C) (net : Network τ) (records : List (WriteRecord K B X))

def planOf (ev : Send (Store K C × τ) K R) : Plan := (net.plan ev.before.2).1

def turnsOf (ev : Send (Store K C × τ) K R) : List (Turn K B X C) :=
  turns srv (planOf net ev).fate ev.before.1 (attemptOps records ev.indices)

/-- The entries a send applied, in the order in which the server accepted them. -/
def acceptedIn (ev : Send (Store K C × τ) K R) : List (Nat × WriteRecord K B X) :=
  ((turnsOf srv net records ev).filter fun t =>
    takesEffect srv t.record ((planOf net ev).fate t.position) t.existing).map
    fun t => (t.position, t.record)

def accepted (log : List (Send (Store K C × τ) K R)) : List (Nat × WriteRecord K B X) :=
  log.flatMap (acceptedIn srv net records)

/-- Some send of the log applied the record at position `i`. -/
def Applied (log : List (Send (Store K C × τ) K R)) (i : Nat) : Prop :=
  ∃ w, (i, w) ∈ accepted srv net records log

end Sends

section Facts

variable {srv : Server B X C} {net : Network τ} {records : List (WriteRecord K B X)}

theorem turns_positions (srv : Server B X C) (fate : Nat → Fate) (store : Store K C)
    (ops : List (Nat × WriteRecord K B X)) :
    (turns srv fate store ops).map (·.position) = ops.map (·.1) := by
  induction ops generalizing store with
  | nil => rfl
  | cons e es ih => simp [turns, ih]

theorem turns_records (srv : Server B X C) (fate : Nat → Fate) (store : Store K C)
    (ops : List (Nat × WriteRecord K B X)) :
    (turns srv fate store ops).map (fun t => (t.position, t.record)) = ops := by
  induction ops generalizing store with
  | nil => rfl
  | cons e es ih => simp [turns, ih]

/-- A send changes the store by the entries it applies, in order. -/
theorem foldl_serve (fate : Nat → Fate) (store : Store K C) (ops : List (Nat × WriteRecord K B X)) :
    ops.foldl (serve srv fate) store =
      (((turns srv fate store ops).filter fun t =>
        takesEffect srv t.record (fate t.position) t.existing).map (·.record)).foldl
        (applyWrite srv) store := by
  induction ops generalizing store with
  | nil => rfl
  | cons e es ih =>
    rw [List.foldl_cons, ih, turns, List.filter_cons]
    by_cases h : takesEffect srv e.2 (fate e.1) (store e.2.1)
    · simp [serve, h]
    · simp [serve, h]

/-- An entry meets the store that the entries applied before it leave. -/
theorem turns_existing {fate : Nat → Fate} {store : Store K C}
    {ops : List (Nat × WriteRecord K B X)} {t : Turn K B X C} (h : t ∈ turns srv fate store ops) :
    ∃ ws : List (WriteRecord K B X), t.existing = ws.foldl (applyWrite srv) store t.record.1 := by
  induction ops generalizing store with
  | nil => simp [turns] at h
  | cons e es ih =>
    rcases List.mem_cons.mp h with rfl | h
    · exact ⟨[], rfl⟩
    · obtain ⟨ws, hws⟩ := ih h
      unfold serve at hws
      split at hws
      · exact ⟨e.2 :: ws, hws⟩
      · exact ⟨ws, hws⟩

theorem store_of_idle {s t : Store K C × τ}
    (h : Idle (clusterAttempts (R := R) srv net records) s t) : t.1 = s.1 := by
  induction h with
  | refl => rfl
  | elapsed _ ih => exact ih
  | sleep _ _ ih => exact ih

theorem accepted_append (log rest : List (Send (Store K C × τ) K R)) :
    accepted srv net records (log ++ rest) =
      accepted srv net records log ++ accepted srv net records rest := by
  simp [accepted]

theorem accepted_snoc (log : List (Send (Store K C × τ) K R)) (ev : Send (Store K C × τ) K R) :
    accepted srv net records (log ++ [ev]) =
      accepted srv net records log ++ acceptedIn srv net records ev := by
  rw [accepted_append]
  simp [accepted]

/-- A run changes the store by the entries its sends apply, in order. -/
theorem store_of_chained {s t : Store K C × τ} {log : List (Send (Store K C × τ) K R)}
    (h : Chained (clusterAttempts srv net records) s log t) :
    t.1 = ((accepted srv net records log).map (·.2)).foldl (applyWrite srv) s.1 := by
  induction h with
  | start h => exact store_of_idle h
  | @send t' u log h indices attempt hidle ih =>
    have hstore : ((clusterAttempts (R := R) srv net records).send t' indices attempt).2.1 =
        (attemptOps records indices).foldl (serve srv (net.plan t'.2).1.fate) t'.1 := by
      unfold clusterAttempts
      dsimp only
      cases (net.plan t'.2).1.lost <;> rfl
    rw [store_of_idle hidle, hstore, foldl_serve, accepted_append, List.map_append,
      List.foldl_append, ← ih]
    simp [accepted, acceptedIn, turnsOf, planOf, issue, Function.comp_def]

theorem outcome_of_issued {s t : Store K C × τ} {log : List (Send (Store K C × τ) K R)}
    (h : Chained (clusterAttempts srv net records) s log t) {ev : Send (Store K C × τ) K R}
    (hev : ev ∈ log) :
    (∃ e, (planOf net ev).lost = some e ∧ ev.outcome = .error e) ∨
      ((planOf net ev).lost = none ∧ ev.outcome = .ok ((turnsOf srv net records ev).map fun t =>
        answer srv t.record ((planOf net ev).fate t.position) t.existing)) := by
  rw [h.issued hev]
  unfold clusterAttempts planOf turnsOf planOf
  dsimp only
  cases (net.plan ev.before.2).1.lost with
  | some e => exact Or.inl ⟨e, rfl, rfl⟩
  | none => exact Or.inr ⟨rfl, rfl⟩

/-- The first response to the whole batch has one entry for each record. -/
theorem length_firstWholeResponse {s t : Store K C × τ}
    {log : List (Send (Store K C × τ) K R)} {rs : List (BatchRecord K R)}
    (h : Chained (clusterAttempts srv net records) s log t)
    (hfirst : firstWholeResponse log = some rs) : rs.length = records.length := by
  obtain ⟨ev, hev, hind, hout⟩ := firstWholeResponse_mem hfirst
  rcases outcome_of_issued h hev with ⟨e, -, herr⟩ | ⟨-, hok⟩
  · rw [herr] at hout
    cases hout
  · obtain rfl := Except.ok.inj (hok.symm.trans hout)
    have := congrArg List.length (turns_positions srv (planOf net ev).fate ev.before.1
      (attemptOps records ev.indices))
    simp only [List.length_map] at this
    rw [List.length_map, turnsOf, this, hind]
    simp [attemptOps]

/-- A response gives each position of its send the answer of its turn. -/
theorem answers_of_run {s t : Store K C × τ} {log pre post : List (Send (Store K C × τ) K R)}
    {ev : Send (Store K C × τ) K R} (hdisc : Disciplined log)
    (hchain : Chained (clusterAttempts srv net records) s log t) (heq : log = pre ++ ev :: post)
    (hlost : (planOf net ev).lost = none) :
    ev.answers = (turnsOf srv net records ev).map fun t =>
      (t.position, answer srv t.record ((planOf net ev).fate t.position) t.existing) := by
  have hev : ev ∈ log := by simp [heq]
  have hpos := turns_positions srv (planOf net ev).fate ev.before.1
    (attemptOps records ev.indices)
  have hzip : ∀ is : List Nat, (attemptOps records ev.indices).map (·.1) = is →
      is.zip ((turnsOf srv net records ev).map fun t =>
        answer (R := R) srv t.record ((planOf net ev).fate t.position) t.existing) =
      (turnsOf srv net records ev).map fun t =>
        (t.position, answer srv t.record ((planOf net ev).fate t.position) t.existing) := by
    intro is his
    rw [← his, ← hpos]
    exact List.zip_map'
  rcases outcome_of_issued hchain hev with ⟨e, hsome, -⟩ | ⟨-, hok⟩
  · rw [hlost] at hsome
    cases hsome
  · unfold Send.answers
    rw [hok]
    cases hind : ev.indices with
    | none =>
      have hwhole := attemptOps_positions_whole records
      rw [← hind] at hwhole
      have hlen : (turnsOf srv net records ev).length = records.length := by
        have := congrArg List.length (hpos.trans hwhole)
        simpa [turnsOf] using this
      dsimp only
      rw [List.length_map, hlen]
      exact hzip _ hwhole
    | some is =>
      have hreq := (hdisc pre ev post heq).1
      rw [hind] at hreq
      obtain ⟨rs, hrs, hdue⟩ := Option.map_eq_some_iff.mp hreq.symm
      have hfirst : firstWholeResponse log = some rs := by
        rw [heq, firstWholeResponse_append, hrs]
        rfl
      have hbound : ∀ i ∈ is, i < records.length := by
        intro i hi
        rw [← hdue] at hi
        rw [← length_firstWholeResponse hchain hfirst]
        exact List.mem_range.mp (List.mem_filter.mp hi).1
      exact hzip is (hind ▸ attemptOps_positions_subset hbound)

/-- A send that is answered serves each position once. -/
theorem turns_nodup {s t : Store K C × τ} {log pre post : List (Send (Store K C × τ) K R)}
    {ev : Send (Store K C × τ) K R} (hdisc : Disciplined log)
    (hchain : Chained (clusterAttempts srv net records) s log t) (heq : log = pre ++ ev :: post)
    (hlost : (planOf net ev).lost = none) :
    ((turnsOf srv net records ev).map (·.position)).Nodup := by
  have hans := answers_nodup hdisc heq
  rw [answers_of_run hdisc hchain heq hlost, List.map_map] at hans
  exact hans

theorem lastAt_answers {s t : Store K C × τ} {log pre post : List (Send (Store K C × τ) K R)}
    {ev : Send (Store K C × τ) K R} (hdisc : Disciplined log)
    (hchain : Chained (clusterAttempts srv net records) s log t) (heq : log = pre ++ ev :: post)
    (hlost : (planOf net ev).lost = none) {turn : Turn K B X C}
    (hturn : turn ∈ turnsOf srv net records ev) : lastAt turn.position ev.answers =
      some (answer srv turn.record ((planOf net ev).fate turn.position) turn.existing) := by
  refine lastAt_eq_of_mem (answers_nodup hdisc heq) ?_
  rw [answers_of_run hdisc hchain heq hlost]
  exact List.mem_map.mpr ⟨turn, hturn, rfl⟩

/-- The entry that an answered send gives a position is the answer of one of its turns. -/
theorem turn_of_lastAt {s t : Store K C × τ} {log pre post : List (Send (Store K C × τ) K R)}
    {ev : Send (Store K C × τ) K R} (hdisc : Disciplined log)
    (hchain : Chained (clusterAttempts srv net records) s log t) (heq : log = pre ++ ev :: post)
    (hlost : (planOf net ev).lost = none) {i : Nat} {br : BatchRecord K R}
    (h : lastAt i ev.answers = some br) : ∃ turn ∈ turnsOf srv net records ev,
      turn.position = i ∧
      answer srv turn.record ((planOf net ev).fate turn.position) turn.existing = br := by
  have hmem := mem_of_lastAt h
  rw [answers_of_run hdisc hchain heq hlost] at hmem
  obtain ⟨turn, hturn, hpair⟩ := List.mem_map.mp hmem
  obtain ⟨hpos, hans⟩ := Prod.mk.inj hpair
  exact ⟨turn, hturn, hpos, hans⟩

theorem answers_of_lost {s t : Store K C × τ} {log : List (Send (Store K C × τ) K R)}
    {ev : Send (Store K C × τ) K R} {e : PyErr}
    (hchain : Chained (clusterAttempts srv net records) s log t) (hev : ev ∈ log)
    (hlost : (planOf net ev).lost = some e) : ev.answers = [] := by
  rcases outcome_of_issued hchain hev with ⟨e', -, herr⟩ | ⟨hnone, -⟩
  · unfold Send.answers
    rw [herr]
  · rw [hlost] at hnone
    cases hnone

theorem mem_acceptedIn {ev : Send (Store K C × τ) K R} {i : Nat} {w : WriteRecord K B X} :
    (i, w) ∈ acceptedIn srv net records ev ↔ ∃ t ∈ turnsOf srv net records ev,
      takesEffect srv t.record ((planOf net ev).fate t.position) t.existing = true ∧
      t.position = i ∧ t.record = w := by
  simp only [acceptedIn, List.mem_map, List.mem_filter, Prod.mk.injEq]
  constructor
  · rintro ⟨t, ⟨ht, heff⟩, hi, hw⟩
    exact ⟨t, ht, heff, hi, hw⟩
  · rintro ⟨t, ht, heff, hi, hw⟩
    exact ⟨t, ⟨ht, heff⟩, hi, hw⟩

/-- The entries of a send are the records at their positions. -/
theorem record_of_turn {ev : Send (Store K C × τ) K R} {t : Turn K B X C}
    (h : t ∈ turnsOf srv net records ev) : records[t.position]? = some t.record := by
  suffices hmem : (t.position, t.record) ∈ attemptOps records ev.indices from attemptOps_mem hmem
  rw [← turns_records srv (planOf net ev).fate ev.before.1 (attemptOps records ev.indices)]
  exact List.mem_map.mpr ⟨t, h, rfl⟩

theorem record_of_accepted {log : List (Send (Store K C × τ) K R)} {i : Nat}
    {w : WriteRecord K B X} (h : (i, w) ∈ accepted srv net records log) :
    records[i]? = some w := by
  obtain ⟨ev, -, hev⟩ := List.mem_flatMap.mp h
  obtain ⟨t, ht, -, rfl, rfl⟩ := mem_acceptedIn.mp hev
  exact record_of_turn ht

end Facts

end AerospikePy.Retry.Cluster
