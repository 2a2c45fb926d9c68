import AerospikePy.Backpressure.Operations
import AerospikePy.Lib.Semaphore
import AerospikePy.Lifecycle.AsyncClient
import AerospikePy.Lifecycle.Client

/-!
# Clients, limiters and permits

A permit-gated operation reads the core client of its object, then the limiter, and
keeps both in its future with the permit it is given. The object may step between the
two reads: a method holds a shared borrow from its first line to its return, which keeps
`connect` and `close` out, but not the segments of their futures. An operation that reads
between the two stores at the end of a connect finds what it finds after them.
-/

namespace AerospikePy.Backpressure.Permits

open AerospikePy.Core
open AerospikePy.Lib.Runs
open AerospikePy.Lib.Semaphore
open AerospikePy.Lifecycle
open AerospikePy.Backpressure.Operations

variable {L A : Type}

/-- A client object as its operations see it. -/
structure GatedObject (L A : Type) where
  step : L → A → Option L
  getClient : L → Except PyErr Nat
  limiter : L → OperationLimiter
  /-- The action takes `&mut self`. -/
  exclusive : A → Bool
  /-- A call returns when its operation has ended, and not when its future is made. -/
  blocks : Bool

inductive Phase where
  | entered
  | clientRead (client : Nat)
  /-- Both are captured; the operation awaits its permit, or its future was not polled yet. -/
  | captured (client : Nat) (limiter : OperationLimiter)
  | sending (client : Nat) (limiter : OperationLimiter)
  | ended
  deriving DecidableEq, Repr

/-- The call holds a shared borrow of its object. -/
def Phase.borrows (blocks : Bool) : Phase → Bool
  | .entered | .clientRead _ => true
  | .captured _ _ | .sending _ _ => blocks
  | .ended => false

inductive Exit where
  | succeeded | failed | cancelled | panicked
  deriving DecidableEq, Repr

/-- The ways out of each phase. An error is raised by the arguments, by a permit that was
not given in time or by the operation; only a future can be dropped. -/
def Exit.possible (blocks : Bool) : Phase → Exit → Bool
  | .ended, _ => false
  | .sending _ _, .succeeded => true
  | _, .succeeded => false
  | .captured _ _, .cancelled | .sending _ _, .cancelled => !blocks
  | _, .cancelled => false
  | _, .failed | _, .panicked => true

/-- The object, its calls in the order of their start, and the semaphores of all limiters. -/
structure Gated (L : Type) where
  object : L
  calls : List Phase
  permits : Pool OperationLimiter

/-- The semaphore of a limiter is made with all its permits. -/
def Gated.new (object : L) : Gated L := ⟨object, [], .new OperationLimiter.maxConcurrent⟩

def Gated.enter (s : Gated L) (id : Nat) (phase : Phase) : Gated L :=
  { s with calls := s.calls.set id phase }

inductive GatedAct (A : Type) where
  | lifecycle (a : A)
  | start (kind : RecordOp)
  | readClient (id : Nat)
  | readLimiter (id : Nat)
  | acquire (id : Nat)
  | finish (id : Nat) (exit : Exit)

/-- `acquire_named`: a limiter without a semaphore gives no permit and does not wait. -/
def acquireNamed (permits : Pool OperationLimiter) (id : Nat) (limiter : OperationLimiter) :
    Option (Pool OperationLimiter) :=
  if limiter.maxConcurrent = 0 then some permits else permits.take id limiter

def gatedStep (o : GatedObject L A) (s : Gated L) : GatedAct A → Option (Gated L)
  | .lifecycle a =>
    -- a borrowed object refuses `&mut self`
    if o.exclusive a && s.calls.any (·.borrows o.blocks) then some s
    else (o.step s.object a).map fun c => { s with object := c }
  | .start kind =>
    if acquires kind then
      some { s with calls := s.calls ++ [.entered], permits := s.permits.enroll }
    else none
  | .readClient id =>
    match s.calls[id]? with
    | some .entered =>
      match o.getClient s.object with
      | .ok k => some (s.enter id (.clientRead k))
      | .error _ => some (s.enter id .ended)
    | _ => none
  | .readLimiter id =>
    match s.calls[id]? with
    | some (.clientRead k) => some (s.enter id (.captured k (o.limiter s.object)))
    | _ => none
  | .acquire id =>
    match s.calls[id]? with
    | some (.captured k l) =>
      (acquireNamed s.permits id l).map fun p => { s.enter id (.sending k l) with permits := p }
    | _ => none
  | .finish id exit =>
    -- every way out drops the locals of the operation, its permit among them
    match s.calls[id]? with
    | some phase =>
      if exit.possible o.blocks phase then
        some { s.enter id .ended with permits := s.permits.giveBack id }
      else none
    | none => none

inductive GatedMove (o : GatedObject L A) (s : Gated L) : GatedAct A → Gated L → Prop where
  | refused (a : A) : GatedMove o s (.lifecycle a) s
  | lifecycle {a : A} {c : L} (hstep : o.step s.object a = some c)
      (hfree : o.exclusive a = true → ∀ phase ∈ s.calls, phase.borrows o.blocks = false) :
      GatedMove o s (.lifecycle a) { s with object := c }
  | start (kind : RecordOp) (h : acquires kind = true) : GatedMove o s (.start kind)
      { s with calls := s.calls ++ [.entered], permits := s.permits.enroll }
  | readClient {id k : Nat} (hphase : s.calls[id]? = some .entered)
      (h : o.getClient s.object = .ok k) :
      GatedMove o s (.readClient id) (s.enter id (.clientRead k))
  | raised {id : Nat} {e : PyErr} (hphase : s.calls[id]? = some .entered)
      (h : o.getClient s.object = .error e) : GatedMove o s (.readClient id) (s.enter id .ended)
  | readLimiter {id k : Nat} (hphase : s.calls[id]? = some (.clientRead k)) :
      GatedMove o s (.readLimiter id) (s.enter id (.captured k (o.limiter s.object)))
  | pass {id k : Nat} {l : OperationLimiter} (hphase : s.calls[id]? = some (.captured k l))
      (h : l.maxConcurrent = 0) : GatedMove o s (.acquire id) (s.enter id (.sending k l))
  | acquire {id k : Nat} {l : OperationLimiter} {p : Pool OperationLimiter}
      (hphase : s.calls[id]? = some (.captured k l)) (h : s.permits.take id l = some p) :
      GatedMove o s (.acquire id) { s.enter id (.sending k l) with permits := p }
  | finish {id : Nat} {exit : Exit} {phase : Phase} (hphase : s.calls[id]? = some phase)
      (h : exit.possible o.blocks phase = true) : GatedMove o s (.finish id exit)
      { s.enter id .ended with permits := s.permits.giveBack id }

theorem gatedStep_move {o : GatedObject L A} {s s' : Gated L} {a : GatedAct A}
    (hstep : gatedStep o s a = some s') : GatedMove o s a s' := by
  cases a with
  | lifecycle a =>
    dsimp only [gatedStep] at hstep
    split at hstep
    · obtain rfl := Option.some.inj hstep
      exact .refused a
    · rename_i hfree
      obtain ⟨c, hc, rfl⟩ := Option.map_eq_some_iff.mp hstep
      apply GatedMove.lifecycle hc
      intro hexclusive phase hmem
      rw [hexclusive, Bool.true_and, List.any_eq_true] at hfree
      exact Bool.eq_false_iff.mpr fun hborrows => hfree ⟨phase, hmem, hborrows⟩
  | start kind =>
    obtain ⟨hkind, hs⟩ := Option.ite_none_right_eq_some.mp hstep
    obtain rfl := Option.some.inj hs
    exact .start kind hkind
  | readClient id =>
    dsimp only [gatedStep] at hstep
    split at hstep
    · rename_i hphase
      cases hclient : o.getClient s.object with
      | ok k =>
        rw [hclient] at hstep
        obtain rfl := Option.some.inj hstep
        exact .readClient hphase hclient
      | error e =>
        rw [hclient] at hstep
        obtain rfl := Option.some.inj hstep
        exact .raised hphase hclient
    · cases hstep
  | readLimiter id =>
    dsimp only [gatedStep] at hstep
    split at hstep
    · rename_i k hphase
      obtain rfl := Option.some.inj hstep
      exact .readLimiter hphase
    · cases hstep
  | acquire id =>
    dsimp only [gatedStep] at hstep
    split at hstep
    · rename_i k l hphase
      obtain ⟨p, hp, rfl⟩ := Option.map_eq_some_iff.mp hstep
      unfold acquireNamed at hp
      by_cases hdisabled : l.maxConcurrent = 0
      · rw [if_pos hdisabled] at hp
        obtain rfl := Option.some.inj hp
        exact .pass hphase hdisabled
      · rw [if_neg hdisabled] at hp
        exact .acquire hphase hp
    · cases hstep
  | finish id exit =>
    dsimp only [gatedStep] at hstep
    split at hstep
    · rename_i phase hphase
      obtain ⟨hpossible, hs⟩ := Option.ite_none_right_eq_some.mp hstep
      obtain rfl := Option.some.inj hs
      exact .finish hphase hpossible
    · cases hstep

theorem enter_calls {s : Gated L} {id : Nat} {old : Phase} (h : s.calls[id]? = some old)
    (phase : Phase) (j : Nat) :
    (s.enter id phase).calls[j]? = if j = id then some phase else s.calls[j]? := by
  obtain ⟨hid, -⟩ := List.getElem?_eq_some_iff.mp h
  show (s.calls.set id phase)[j]? = _
  by_cases hj : j = id
  · subst hj
    rw [if_pos rfl, List.getElem?_set_self hid]
  · rw [if_neg hj, List.getElem?_set_ne (Ne.symm hj)]

/-- A started call is the last one. -/
theorem started_calls (calls : List Phase) (id : Nat) :
    (calls ++ [Phase.entered])[id]? = calls[id]? ∨
      calls[id]? = none ∧ (calls ++ [Phase.entered])[id]? = some .entered := by
  by_cases hid : id < calls.length
  · exact Or.inl (List.getElem?_append_left hid)
  · have hle : calls.length ≤ id := Nat.le_of_not_lt hid
    have hnone := List.getElem?_eq_none hle
    rw [List.getElem?_append_right hle, hnone]
    cases id - calls.length with
    | zero => exact Or.inr ⟨rfl, rfl⟩
    | succ n => exact Or.inl rfl

/-- What the frame of a call holds in each phase; `none` before the call starts. -/
def Frame (p : Pool OperationLimiter) (id : Nat) : Option Phase → Prop
  | some (.sending _ l) =>
    p.held id = (if l.maxConcurrent = 0 then none else some l) ∧ p.taken.count id ≤ 1
  | some .ended => p.held id = none ∧ p.taken.count id ≤ 1
  | _ => p.held id = none ∧ p.taken.count id = 0

structure PermitInv (s : Gated L) : Prop where
  sound : Sound OperationLimiter.maxConcurrent s.permits
  frames : ∀ id, Frame s.permits id s.calls[id]?

theorem frame_taken {p : Pool OperationLimiter} {id : Nat} {phase : Option Phase}
    (h : Frame p id phase) : p.taken.count id ≤ 1 := by
  unfold Frame at h
  split at h <;> omega

theorem frame_enroll {p : Pool OperationLimiter} {id : Nat} {phase : Option Phase}
    (h : Frame p id phase) : Frame p.enroll id phase := by
  unfold Frame at h ⊢
  rw [enroll_held, enroll_taken]
  exact h

variable {o : GatedObject L A} {s s' : Gated L}

theorem permitInv_new (c : L) : PermitInv (.new c) where
  sound := sound_new OperationLimiter.maxConcurrent
  frames id := by simp [Gated.new, Frame, Pool.new, Pool.held]

theorem PermitInv.frame (h : PermitInv s) {id : Nat} {phase : Phase}
    (hphase : s.calls[id]? = some phase) : Frame s.permits id (some phase) := by
  rw [← hphase]
  exact h.frames id

/-- A call enters its next phase; the frames of the others stay. -/
theorem PermitInv.enter (h : PermitInv s) {id : Nat} {old phase : Phase}
    (hold : s.calls[id]? = some old) {p : Pool OperationLimiter}
    (hsound : Sound OperationLimiter.maxConcurrent p) (hframe : Frame p id (some phase))
    (hothers : ∀ j, j ≠ id → p.held j = s.permits.held j ∧
      p.taken.count j = s.permits.taken.count j) :
    PermitInv { s.enter id phase with permits := p } := by
  refine ⟨hsound, fun j => ?_⟩
  show Frame p j (s.enter id phase).calls[j]?
  rw [enter_calls hold]
  by_cases hj : j = id
  · subst hj
    rw [if_pos rfl]
    exact hframe
  · rw [if_neg hj]
    have hsame := h.frames j
    obtain ⟨hheld, htaken⟩ := hothers j hj
    unfold Frame at hsame ⊢
    rw [hheld, htaken]
    exact hsame

/-- A call moves on without touching the semaphores. -/
theorem PermitInv.move (h : PermitInv s) {id : Nat} {old phase : Phase}
    (hold : s.calls[id]? = some old) (hframe : Frame s.permits id (some phase)) :
    PermitInv (s.enter id phase) :=
  h.enter hold h.sound hframe fun _ _ => ⟨rfl, rfl⟩

theorem gatedMove_permitInv (h : PermitInv s) {a : GatedAct A} (hmove : GatedMove o s a s') :
    PermitInv s' := by
  cases hmove with
  | refused => exact h
  | lifecycle => exact ⟨h.sound, h.frames⟩
  | start kind =>
    refine ⟨h.sound.enroll, fun id => ?_⟩
    have hframe := h.frames id
    dsimp only
    rcases started_calls s.calls id with hsame | ⟨hnone, hnew⟩
    · rw [hsame]
      exact frame_enroll hframe
    · rw [hnone] at hframe
      rw [hnew]
      exact frame_enroll hframe
  | @readClient id k hphase =>
    have hframe := h.frame hphase
    exact h.move hphase hframe
  | @raised id e hphase =>
    have hframe := h.frame hphase
    have hzero : s.permits.taken.count id = 0 := hframe.2
    exact h.move hphase ⟨hframe.1, by omega⟩
  | @readLimiter id k hphase =>
    have hframe := h.frame hphase
    exact h.move hphase hframe
  | @pass id k l hphase hdisabled =>
    have hframe := h.frame hphase
    have hzero : s.permits.taken.count id = 0 := hframe.2
    refine h.move hphase ⟨?_, by omega⟩
    rw [if_pos hdisabled]
    exact hframe.1
  | @acquire id k l p hphase htake =>
    have hframe := h.frame hphase
    have hzero : s.permits.taken.count id = 0 := hframe.2
    have hheld := take_held htake
    obtain ⟨hfree, -, htaken⟩ := take_eq_some htake
    have henabled : l.maxConcurrent ≠ 0 := by
      have hconserved := h.sound.conserved l
      omega
    refine h.enter hphase (h.sound.take htake) ⟨?_, ?_⟩ ?_
    · rw [hheld id, if_pos rfl, if_neg henabled]
    · rw [htaken]
      simp [hzero]
    · intro j hj
      refine ⟨by rw [hheld j, if_neg hj], ?_⟩
      rw [htaken]
      simp [Ne.symm hj]
  | @finish id exit phase hphase =>
    refine h.enter hphase (h.sound.giveBack id) ⟨?_, ?_⟩ ?_
    · rw [giveBack_held, if_pos rfl]
    · rw [giveBack_taken]
      exact frame_taken (h.frames id)
    · intro j hj
      rw [giveBack_held, if_neg hj, giveBack_taken]
      exact ⟨rfl, rfl⟩

/-- Whoever holds a permit is sending on its limiter. -/
theorem PermitInv.sending_of_held (h : PermitInv s) {id : Nat} {l : OperationLimiter}
    (hheld : s.permits.held id = some l) : ∃ k, s.calls[id]? = some (.sending k l) := by
  have hframe := h.frames id
  unfold Frame at hframe
  split at hframe
  · rename_i k l' hphase
    have hlimiter := hframe.1
    rw [hheld] at hlimiter
    obtain ⟨-, hsome⟩ := Option.ite_none_left_eq_some.mp hlimiter.symm
    obtain rfl := Option.some.inj hsome
    exact ⟨k, hphase⟩
  · rw [hframe.1] at hheld
    cases hheld
  · rw [hframe.1] at hheld
    cases hheld

/-- Every permit is counted: none beyond the size of its limiter, one for each operation, and
given back once by the time the operation has ended, whichever way it ends. -/
structure Accounted (o : GatedObject L A) (s : Gated L) : Prop where
  bounded : ∀ l : OperationLimiter, s.permits.outstanding l ≤ l.maxConcurrent
  once : ∀ id : Nat, s.permits.taken.count id ≤ 1 ∧
    s.permits.returned.count id ≤ s.permits.taken.count id
  back : ∀ id : Nat, s.calls[id]? = some Phase.ended →
    s.permits.returned.count id = s.permits.taken.count id
  exits : ∀ id l, s.permits.held id = some l → ∀ exit, (exit = .cancelled → o.blocks = false) →
    ∃ s', gatedStep o s (.finish id exit) = some s' ∧ s'.calls[id]? = some Phase.ended ∧
      s'.permits.outstanding l + 1 = s.permits.outstanding l ∧
      s.permits.returned.count id = 0 ∧ s'.permits.returned.count id = 1

theorem PermitInv.accounted (h : PermitInv s) : Accounted o s where
  bounded l := h.sound.outstanding_le l
  once id := ⟨frame_taken (h.frames id), h.sound.returned_le id⟩
  back id hphase := by
    have hframe := h.frame hphase
    exact h.sound.returned_eq hframe.1
  exits id l hheld exit hcancel := by
    obtain ⟨k, hphase⟩ := h.sending_of_held hheld
    have hbalanced := h.sound.balanced id
    have hafter := (h.sound.giveBack id).balanced id
    have htaken := frame_taken (h.frames id)
    rw [hheld] at hbalanced
    rw [giveBack_held, if_pos rfl, giveBack_taken] at hafter
    simp only [Option.toList_some, Option.toList_none, List.length_singleton, List.length_nil]
      at hbalanced hafter
    have hpossible : exit.possible o.blocks (.sending k l) = true := by
      cases exit with
      | succeeded => rfl
      | failed => rfl
      | cancelled =>
        show (!o.blocks) = true
        rw [hcancel rfl]
        rfl
      | panicked => rfl
    refine ⟨{ s.enter id .ended with permits := s.permits.giveBack id }, ?_, ?_,
      by simpa using giveBack_outstanding hheld l, by omega, by dsimp only; omega⟩
    · dsimp only [gatedStep]
      rw [hphase]
      exact if_pos hpossible
    · show (s.enter id .ended).calls[id]? = some Phase.ended
      rw [enter_calls hphase, if_pos rfl]

theorem gated_accounted (c : L) (acts : List (GatedAct A)) :
    Throughout (gatedStep o) (Accounted o) (.new c) acts := by
  have hinv : Throughout (gatedStep o) PermitInv (.new c) acts :=
    throughout_of_invariant (fun _ _ _ h hstep => gatedMove_permitInv h (gatedStep_move hstep))
      (permitInv_new c) acts
  exact hinv.imp fun _ h => h.accounted

/-- The core client and the limiter that an operation has captured come from one connect. -/
def Paired (s : Gated L) : Prop :=
  ∀ (id k : Nat) (l : OperationLimiter), s.calls[id]? = some (.captured k l) ∨
    s.calls[id]? = some (.sending k l) → l.installedBy = k

/-- A condition on the steps of the object alone. -/
def Guarded (G : L → A → Prop) (s : Gated L) : GatedAct A → Prop
  | .lifecycle a => G s.object a
  | _ => True

/-- A property of the object that its lifecycle keeps where `G` is met and that ties the
limiter to the core client; only an exclusive step replaces the limiter. -/
structure Pairs (o : GatedObject L A) (G : L → A → Prop) (K : L → Prop) : Prop where
  step : ∀ c a c', K c → G c a → o.step c a = some c' → K c'
  pair : ∀ c k, K c → o.getClient c = .ok k → (o.limiter c).installedBy = k
  keeps : ∀ c a c', K c → o.exclusive a = false → o.step c a = some c' →
    o.limiter c' = o.limiter c

def Phase.Paired (current : OperationLimiter) : Phase → Prop
  | .clientRead k => current.installedBy = k
  | .captured k l | .sending k l => l.installedBy = k
  | .entered | .ended => True

/-- A call that has read the core client keeps out whatever replaces the limiter. -/
theorem paired_of_borrows {current next : OperationLimiter} {blocks : Bool} {phase : Phase}
    (h : phase.Paired current) (hnext : phase.borrows blocks = true → next = current) :
    phase.Paired next := by
  cases phase with
  | clientRead k =>
    show next.installedBy = k
    rw [hnext rfl]
    exact h
  | captured => exact h
  | sending => exact h
  | entered => trivial
  | ended => trivial

structure PairInv (o : GatedObject L A) (K : L → Prop) (s : Gated L) : Prop where
  object : K s.object
  phases : ∀ (id : Nat) (phase : Phase), s.calls[id]? = some phase →
    phase.Paired (o.limiter s.object)

variable {G : L → A → Prop} {K : L → Prop}

theorem PairInv.enter (h : PairInv o K s) {id : Nat} {old phase : Phase}
    (hold : s.calls[id]? = some old) (hpaired : phase.Paired (o.limiter s.object)) :
    PairInv o K (s.enter id phase) := by
  refine ⟨h.object, fun j phase' hphase' => ?_⟩
  rw [enter_calls hold] at hphase'
  by_cases hj : j = id
  · rw [if_pos hj] at hphase'
    obtain rfl := Option.some.inj hphase'
    exact hpaired
  · rw [if_neg hj] at hphase'
    exact h.phases j phase' hphase'

theorem gatedMove_pairInv (ho : Pairs o G K) (h : PairInv o K s) {a : GatedAct A}
    (hguard : Guarded G s a) (hmove : GatedMove o s a s') : PairInv o K s' := by
  cases hmove with
  | refused => exact h
  | @lifecycle a c hstep hfree =>
    refine ⟨ho.step _ _ _ h.object hguard hstep, fun id phase hphase => ?_⟩
    apply paired_of_borrows (h.phases id phase hphase)
    intro hborrows
    apply ho.keeps _ a _ h.object _ hstep
    by_contra hexclusive
    rw [Bool.not_eq_false] at hexclusive
    have hnot := hfree hexclusive phase (List.mem_of_getElem? hphase)
    rw [hborrows] at hnot
    cases hnot
  | start kind =>
    refine ⟨h.object, fun id phase hphase => ?_⟩
    dsimp only at hphase
    rcases started_calls s.calls id with hsame | ⟨-, hnew⟩
    · exact h.phases id phase (hsame ▸ hphase)
    · rw [hnew] at hphase
      obtain rfl := Option.some.inj hphase
      trivial
  | readClient hphase hclient => exact h.enter hphase (ho.pair _ _ h.object hclient)
  | raised hphase => exact h.enter hphase trivial
  | @readLimiter id k hphase =>
    have hpair : (o.limiter s.object).installedBy = k := h.phases id _ hphase
    exact h.enter hphase hpair
  | @pass id k l hphase =>
    have hpair : l.installedBy = k := h.phases id _ hphase
    exact h.enter hphase hpair
  | @acquire id k l p hphase =>
    have hpair : l.installedBy = k := h.phases id _ hphase
    have hentered : PairInv o K (s.enter id (.sending k l)) := h.enter hphase hpair
    exact ⟨hentered.object, hentered.phases⟩
  | @finish id exit phase hphase =>
    have hentered : PairInv o K (s.enter id .ended) := h.enter hphase trivial
    exact ⟨hentered.object, hentered.phases⟩

theorem PairInv.paired (h : PairInv o K s) : Paired s := by
  rintro id k l (hphase | hphase)
  · exact h.phases id _ hphase
  · exact h.phases id _ hphase

theorem gated_paired (ho : Pairs o G K) {c : L} (hc : K c) {acts : List (GatedAct A)}
    (hmeet : StepsMeet (gatedStep o) (Guarded G) (.new c) acts) :
    Throughout (gatedStep o) Paired (.new c) acts := by
  have hnew : PairInv o K (.new c) := ⟨hc, fun id phase hphase => by simp [Gated.new] at hphase⟩
  have hinv : Throughout (gatedStep o) (PairInv o K) (.new c) acts :=
    throughout_of_stepsMeet
      (fun _ _ _ h hguard hstep => gatedMove_pairInv ho h hguard (gatedStep_move hstep)) hnew hmeet
  exact hinv.imp fun _ h => h.paired

/-- `AsyncClient`: a method returns once its future is made. -/
def asyncGated : GatedObject AsyncClient.PyAsyncClient AsyncClient.Act where
  step := AsyncClient.step
  getClient := AsyncClient.getClient
  limiter c := c.limiter
  exclusive
    | .connect _ _ | .close _ => true
    | _ => false
  blocks := false

/-- `Client`: a method blocks until its operation has ended. -/
def syncGated : GatedObject Client.PyClient Client.Act where
  step := Client.step
  getClient := Client.getClient
  limiter c := c.limiter
  exclusive _ := true
  blocks := true

/-- The limiter belongs to the attempt that is running or has connected, and so does the
core client. -/
structure AsyncPaired (c : AsyncClient.PyAsyncClient) : Prop where
  inv : AsyncClient.Inv c
  limiter : c.connects ≠ [] ∨ c.state = .connected → c.limiter.installedBy = c.calls
  inner : ∀ k, c.inner = some k → k = c.calls

theorem asyncPaired_new : AsyncPaired .new where
  inv := AsyncClient.inv_new
  limiter := by simp [AsyncClient.PyAsyncClient.new]
  inner := by simp [AsyncClient.PyAsyncClient.new]

theorem asyncPaired_limiter {c c' : AsyncClient.PyAsyncClient} {a : AsyncClient.Act}
    (h : AsyncPaired c) (hstep : AsyncClient.step c a = some c') :
    c'.connects ≠ [] ∨ c'.state = .connected → c'.limiter.installedBy = c'.calls := by
  cases AsyncClient.step_move h.inv hstep with
  | connectRefused => exact h.limiter
  | connect => exact fun _ => rfl
  | connectPanicked cfg hstate => simp [h.inv.connects_nil, hstate]
  | closeRefused => exact h.limiter
  | close hstate => simp [h.inv.connects_nil, hstate]
  | pollConnect hone => exact fun _ => h.limiter (Or.inl (by simp [hone]))
  | connectOk hone => exact fun _ => h.limiter (Or.inl (by simp [hone]))
  | connectEnd => simp
  | dropUnstarted hone hstate => simp [hstate]
  | pollClose => exact h.limiter
  | closeDone hone hstate => simp [h.inv.connects_nil, hstate]
  | closeLost => exact h.limiter

theorem asyncPaired_inner {c c' : AsyncClient.PyAsyncClient} {a : AsyncClient.Act}
    (h : AsyncPaired c) (hstep : AsyncClient.step c a = some c') :
    ∀ k, c'.inner = some k → k = c'.calls := by
  cases AsyncClient.step_move h.inv hstep with
  | connectRefused => exact h.inner
  | connect cfg hstate => simp [h.inv.inner_none, hstate]
  | connectPanicked cfg hstate => simp [h.inv.inner_none, hstate]
  | closeRefused => exact h.inner
  | close => simp
  | pollConnect => exact h.inner
  | connectOk => exact fun k hk => (Option.some.inj hk).symm
  | connectEnd => exact h.inner
  | dropUnstarted => exact h.inner
  | pollClose => exact h.inner
  | closeDone => exact h.inner
  | closeLost => exact h.inner

theorem asyncGated_pairs : Pairs asyncGated (fun _ _ => True) AsyncPaired where
  step c a c' h _ hstep :=
    ⟨AsyncClient.step_inv h.inv hstep, asyncPaired_limiter h hstep, asyncPaired_inner h hstep⟩
  pair c k h hclient := by
    have hinner := AsyncClient.getClient_eq_ok.mp hclient
    have hconnected : c.state = .connected :=
      h.inv.installed.mp (by rw [hinner, Option.isSome_some])
    rw [h.inner k hinner]
    exact h.limiter (Or.inr hconnected)
  keeps c a c' h hshared hstep := by
    cases AsyncClient.step_move h.inv hstep with
    | connect => cases hshared
    | close => cases hshared
    | _ => rfl

def SyncPaired (c : Client.PyClient) : Prop :=
  ∀ k, c.inner = some k → c.limiter.installedBy = k

/-- A connect that has created its core client can also make its limiter. -/
def Limitable (c : Client.PyClient) : Client.Act → Prop
  | .connect (.ok cfg) (.returned (.ok ())) => c.state = .disconnected → cfg.Fits
  | _ => True

instance (c : Client.PyClient) (a : Client.Act) : Decidable (Limitable c a) := by
  unfold Limitable
  split <;> infer_instance

theorem syncGated_pairs : Pairs syncGated Limitable SyncPaired where
  step c a c' h hguard hstep := by
    cases Client.step_move hstep with
    | kept => exact h
    | attempted => exact h
    | installed => exact fun k hk => Option.some.inj hk
    | unlimited cfg hstate hfits => exact absurd (hguard hstate) hfits
    | closed => exact fun k hk => nomatch hk
    | closePanicked => exact fun k hk => nomatch hk
  pair c k h hclient := h k (Client.getClient_eq_ok.mp hclient)
  keeps c a c' h hshared := by cases hshared

instance [∀ c a, Decidable (G c a)] (s : Gated L) (a : GatedAct A) :
    Decidable (Guarded G s a) := by
  unfold Guarded
  split <;> infer_instance

/-- Permits are in order in every run of either client. Pairs are in every run of the async
client, and of the sync client where every core client it connects gets its limiter. -/
theorem operations_accounted (asyncActs : List (GatedAct AsyncClient.Act))
    (syncActs : List (GatedAct Client.Act)) :
    Throughout (gatedStep asyncGated) (fun s => Paired s ∧ Accounted asyncGated s)
      (.new .new) asyncActs ∧
    Throughout (gatedStep syncGated) (Accounted syncGated) (.new .new) syncActs ∧
    (StepsMeet (gatedStep syncGated) (Guarded Limitable) (.new .new) syncActs →
      Throughout (gatedStep syncGated) Paired (.new .new) syncActs) := by
  have hall : StepsMeet (gatedStep asyncGated) (Guarded fun _ _ => True) (.new .new) asyncActs :=
    stepsMeet_of_forall fun s a => by cases a <;> trivial
  have hasync : Throughout (gatedStep asyncGated) Paired (.new .new) asyncActs :=
    gated_paired asyncGated_pairs asyncPaired_new hall
  have hnew : SyncPaired .new := by
    intro k hk
    cases hk
  refine ⟨hasync.and (gated_accounted _ asyncActs), gated_accounted _ syncActs, ?_⟩
  exact gated_paired syncGated_pairs hnew

/-- A put captures what it needs and sends. -/
def put (id : Nat) : List (GatedAct A) := [.start .put, .readClient id, .readLimiter id, .acquire id]

def syncConnects (maxOps : Nat) : GatedAct Client.Act :=
  .lifecycle (.connect (.ok ⟨⟨"127.0.0.1", 3000, ""⟩, maxOps, 0⟩) (.returned (.ok ())))

/-- A put that panics, a close and a reconnect, and a put on the new limiter. -/
theorem operations_accounted_reconnected :
    let acts := [syncConnects 1] ++ put 0 ++ [.finish 0 .panicked,
      .lifecycle (.close (.returned (.ok ()))), syncConnects 1] ++ put 1
    (run (gatedStep syncGated) (.new .new) acts).map (fun s =>
      (s.calls, s.permits.taken, s.permits.returned)) =
      some ([.ended, .sending 3 ⟨3, 1, 0⟩], [0, 1], [0]) ∧
    Throughout (gatedStep syncGated) Paired (.new .new) acts :=
  ⟨by decide +kernel, (operations_accounted [] _).2.2 (by decide +kernel)⟩

/-- A limiter that no semaphore can serve: the sync client keeps the core client of the
connect that panicked, and a put sends on it beside the limiter of the constructor. -/
theorem operations_unpaired :
    let acts := syncConnects (2 ^ 61) :: put 0
    (run (gatedStep syncGated) (.new .new) acts).map (fun s => (s.object.state, s.calls)) =
      some (.connecting, [.sending 1 ⟨0, 0, 0⟩]) ∧
    ¬ Throughout (gatedStep syncGated) Paired (.new .new) acts := by
  intro acts
  have hrun : (run (gatedStep syncGated) (.new .new) acts).map (fun s =>
      (s.object.state, s.calls)) = some (.connecting, [.sending 1 ⟨0, 0, 0⟩]) := by decide +kernel
  refine ⟨hrun, fun hpaired => ?_⟩
  obtain ⟨s, hs, hend⟩ := Option.map_eq_some_iff.mp hrun
  have hcalls : s.calls = [.sending 1 ⟨0, 0, 0⟩] := (Prod.mk.inj hend).2
  have hsame : 0 = 1 := hpaired.last hs 0 1 ⟨0, 0, 0⟩ (Or.inr (by rw [hcalls]; rfl))
  omega

end AerospikePy.Backpressure.Permits
