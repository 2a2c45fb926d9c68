import Mathlib.Data.List.Count
import AerospikePy.Lifecycle.State

/-!
# Operations and permits

An operation captures a core client and, at the entry points that call
`acquire_named`, the limiter. It is in flight from the moment it may send: with a
permit of its limiter, or at once where it takes none. The semaphore is tokio's, a
count that never exceeds its size.
-/

namespace AerospikePy.Backpressure.Operations

open AerospikePy.Core
open AerospikePy.Lifecycle

/-- The entry points for record operations of `Client` and `AsyncClient`, and those of
the query object they return. -/
inductive RecordOp where
  | put | get | select | «exists» | remove | touch | append | prepend | increment | removeBin
  | operate | operateOrdered | apply
  | batchRead | batchOperate | batchWrite | batchWriteNumpy | batchRemove | batchApply
  | queryResults | queryForeach
  deriving DecidableEq, Repr

/-- The entry point awaits a permit before it sends. -/
def acquires : RecordOp → Bool
  | .apply | .queryResults | .queryForeach => false
  | _ => true

/-- The entry point belongs to a query object, which holds its own core client. -/
def usesQuery : RecordOp → Bool
  | .queryResults | .queryForeach => true
  | _ => false

structure OpFuture where
  id : Nat
  kind : RecordOp
  client : Nat
  limiter : Option OperationLimiter
  inFlight : Bool
  deriving DecidableEq, Repr

/-- A started operation, before it may send. -/
def capture (id : Nat) (kind : RecordOp) (client : Nat) (limiter : OperationLimiter) : OpFuture :=
  ⟨id, kind, client, if acquires kind then some limiter else none, false⟩

/-- The permits of a limiter that are out. -/
def permitsOut (ops : List OpFuture) (limiter : OperationLimiter) : Nat :=
  ops.countP fun o => o.inFlight && o.limiter == some limiter

def inFlightCount (ops : List OpFuture) : Nat := ops.countP (·.inFlight)

/-- `acquire_named` gives the operation its permit now, or it needs none. -/
def available (ops : List OpFuture) (limiter : Option OperationLimiter) : Bool :=
  match limiter with
  | none => true
  | some l => l.maxConcurrent == 0 || decide (permitsOut ops l < l.maxConcurrent)

/-- The operation that waits under this id. -/
def waiting (ops : List OpFuture) (id : Nat) : Option OpFuture :=
  ops.find? fun o => o.id == id && !o.inFlight

/-- Completion, error, timeout, panic or cancellation: the permit goes back with the future. -/
def leave (ops : List OpFuture) (id : Nat) : List OpFuture := ops.filter fun o => o.id != id

def enter (ops : List OpFuture) (id : Nat) : Option (List OpFuture) :=
  match waiting ops id with
  | some o =>
    if available ops o.limiter then some (leave ops id ++ [{ o with inFlight := true }]) else none
  | none => none

/-- Its live operations, the clients held by its query objects, and the next id. -/
structure Calls where
  ops : List OpFuture
  queries : List Nat
  started : Nat
  deriving DecidableEq, Repr

def Calls.new : Calls := ⟨[], [], 0⟩

inductive CallAct where
  | start (kind : RecordOp)
  | query
  | runQuery (client : Nat) (kind : RecordOp)
  | enter (id : Nat)
  | leave (id : Nat)
  deriving DecidableEq, Repr

/-- One step, on an object whose `get_client` and limiter give these. A call on an
object without a core client raises and starts nothing. -/
def callStep (client : Except PyErr Nat) (limiter : OperationLimiter) (s : Calls) :
    CallAct → Option Calls
  | .start kind =>
    if usesQuery kind then none
    else match client with
      | .error _ => some s
      | .ok k => some { s with
          ops := s.ops ++ [capture s.started kind k limiter], started := s.started + 1 }
  | .query =>
    match client with
    | .error _ => some s
    | .ok k => some { s with queries := s.queries ++ [k] }
  | .runQuery k kind =>
    if k ∈ s.queries ∧ usesQuery kind then
      some { s with ops := s.ops ++ [capture s.started kind k limiter], started := s.started + 1 }
    else none
  | .enter id => (enter s.ops id).map fun ops => { s with ops := ops }
  | .leave id =>
    if s.ops.any fun o => o.id == id then some { s with ops := leave s.ops id } else none

theorem enter_eq_some {ops ops' : List OpFuture} {id : Nat} (h : enter ops id = some ops') :
    ∃ o, waiting ops id = some o ∧ available ops o.limiter = true ∧
      ops' = leave ops id ++ [{ o with inFlight := true }] := by
  unfold enter at h
  cases hw : waiting ops id with
  | none =>
    rw [hw] at h
    cases h
  | some o =>
    rw [hw] at h
    simp only [Option.ite_none_right_eq_some, Option.some.injEq] at h
    exact ⟨o, rfl, h.1, h.2.symm⟩

inductive CallMove (client : Except PyErr Nat) (limiter : OperationLimiter) (s : Calls) :
    CallAct → Calls → Prop where
  | refused {a : CallAct} {e : PyErr} (h : client = .error e) : CallMove client limiter s a s
  | start (kind : RecordOp) (k : Nat) (h : client = .ok k) :
      CallMove client limiter s (.start kind) { s with
        ops := s.ops ++ [capture s.started kind k limiter], started := s.started + 1 }
  | query (k : Nat) (h : client = .ok k) :
      CallMove client limiter s .query { s with queries := s.queries ++ [k] }
  | runQuery (k : Nat) (kind : RecordOp) (h : usesQuery kind = true) :
      CallMove client limiter s (.runQuery k kind) { s with
        ops := s.ops ++ [capture s.started kind k limiter], started := s.started + 1 }
  | enter {id : Nat} {ops : List OpFuture} (h : enter s.ops id = some ops) :
      CallMove client limiter s (.enter id) { s with ops := ops }
  | leave (id : Nat) : CallMove client limiter s (.leave id) { s with ops := leave s.ops id }

theorem callStep_move {client : Except PyErr Nat} {limiter : OperationLimiter} {s s' : Calls}
    {a : CallAct} (hstep : callStep client limiter s a = some s') :
    CallMove client limiter s a s' := by
  cases a with
  | start kind =>
    simp only [callStep, Option.ite_none_left_eq_some] at hstep
    cases client with
    | error e =>
      obtain rfl := Option.some.inj hstep.2
      exact .refused rfl
    | ok k =>
      obtain rfl := Option.some.inj hstep.2
      exact .start kind k rfl
  | query =>
    cases client with
    | error e =>
      obtain rfl := Option.some.inj hstep
      exact .refused rfl
    | ok k =>
      obtain rfl := Option.some.inj hstep
      exact .query k rfl
  | runQuery k kind =>
    simp only [callStep, Option.ite_none_right_eq_some, Option.some.injEq] at hstep
    obtain ⟨⟨-, hkind⟩, rfl⟩ := hstep
    exact .runQuery k kind hkind
  | enter id =>
    obtain ⟨ops, hops, rfl⟩ := Option.map_eq_some_iff.mp hstep
    exact .enter hops
  | leave id =>
    simp only [callStep, Option.ite_none_right_eq_some, Option.some.injEq] at hstep
    obtain ⟨-, rfl⟩ := hstep
    exact .leave id

structure PoolInv (n : Nat) (ops : List OpFuture) : Prop where
  limit : ∀ o ∈ ops, ∀ l, o.limiter = some l → l.maxConcurrent = n ∨ l.maxConcurrent = 0
  permits : ∀ l : OperationLimiter, l.maxConcurrent = n → permitsOut ops l ≤ n

theorem poolInv_nil (n : Nat) : PoolInv n [] :=
  ⟨by simp, by simp [permitsOut]⟩

theorem permitsOut_leave_le (ops : List OpFuture) (id : Nat) (l : OperationLimiter) :
    permitsOut (leave ops id) l ≤ permitsOut ops l :=
  List.Sublist.countP_le List.filter_sublist

theorem poolInv_leave {n : Nat} {ops : List OpFuture} (h : PoolInv n ops) (id : Nat) :
    PoolInv n (leave ops id) where
  limit o ho := h.limit o ((List.mem_filter.mp ho).1)
  permits l hl := Nat.le_trans (permitsOut_leave_le ops id l) (h.permits l hl)

theorem poolInv_capture {n : Nat} {ops : List OpFuture} (h : PoolInv n ops) (id k : Nat)
    (kind : RecordOp) {l : OperationLimiter} (hl : l.maxConcurrent = n ∨ l.maxConcurrent = 0) :
    PoolInv n (ops ++ [capture id kind k l]) := by
  constructor
  · intro o ho l' hl'
    rcases List.mem_append.mp ho with hold | hnew
    · exact h.limit o hold l' hl'
    · rw [List.mem_singleton.mp hnew] at hl'
      simp only [capture, Option.ite_none_right_eq_some, Option.some.injEq] at hl'
      rw [← hl'.2]
      exact hl
  · intro l' hl'
    simpa [permitsOut, capture] using h.permits l' hl'

theorem poolInv_enter {n : Nat} {ops ops' : List OpFuture} {id : Nat} (hn : 0 < n)
    (h : PoolInv n ops) (henter : enter ops id = some ops') : PoolInv n ops' := by
  obtain ⟨o, hw, hav, rfl⟩ := enter_eq_some henter
  have hleave := poolInv_leave h id
  constructor
  · intro o' ho' l hl
    rcases List.mem_append.mp ho' with hold | hnew
    · exact hleave.limit o' hold l hl
    · rw [List.mem_singleton.mp hnew] at hl
      exact h.limit o (List.mem_of_find?_eq_some hw) l hl
  · intro l hl
    have hle := permitsOut_leave_le ops id l
    rw [permitsOut, List.countP_append, ← permitsOut]
    by_cases hmine : o.limiter = some l
    · -- its own limiter had a permit left
      rw [hmine] at hav
      simp only [available, hl, Bool.or_eq_true, beq_iff_eq, decide_eq_true_eq] at hav
      have hone : [{ o with inFlight := true }].countP
          (fun o => o.inFlight && o.limiter == some l) ≤ 1 := List.countP_le_length
      omega
    · have hzero : [{ o with inFlight := true }].countP
          (fun o => o.inFlight && o.limiter == some l) = 0 := by simp [hmine]
      have := h.permits l hl
      omega

theorem callStep_poolInv {n : Nat} (hn : 0 < n) {client : Except PyErr Nat}
    {limiter : OperationLimiter} (hlim : limiter.maxConcurrent = n ∨ limiter.maxConcurrent = 0)
    {s s' : Calls} {a : CallAct} (h : PoolInv n s.ops)
    (hstep : callStep client limiter s a = some s') : PoolInv n s'.ops := by
  cases callStep_move hstep with
  | refused => exact h
  | start kind k hclient => exact poolInv_capture h _ _ kind hlim
  | query => exact h
  | runQuery k kind hkind => exact poolInv_capture h _ _ kind hlim
  | enter hops => exact poolInv_enter hn h hops
  | leave id => exact poolInv_leave h id

/-- The operation flies with a permit: it takes one, and its limiter has a semaphore. -/
def OpFuture.permitted (o : OpFuture) : Bool := o.limiter.any fun l => l.maxConcurrent != 0

/-- The operations in flight hold permits, and all of the same limiter. -/
def OnePool (ops : List OpFuture) : Prop :=
  ∀ o ∈ ops, o.inFlight = true → o.permitted = true ∧
    ∀ o' ∈ ops, o'.inFlight = true → o'.limiter = o.limiter

/-- An operation enters flight with a permit, and while no operation in flight holds the
permit of another limiter. -/
def Paced (s : Calls) : CallAct → Prop
  | .enter id => ∀ o ∈ waiting s.ops id, o.permitted = true ∧
      ∀ o' ∈ s.ops, o'.inFlight = true → o'.limiter = o.limiter
  | _ => True

instance (s : Calls) (a : CallAct) : Decidable (Paced s a) := by
  cases a <;> unfold Paced <;> infer_instance

theorem inFlightCount_le {n : Nat} {ops : List OpFuture} (h : PoolInv n ops)
    (hone : OnePool ops) : inFlightCount ops ≤ n := by
  by_cases hany : ∃ o ∈ ops, o.inFlight = true
  · obtain ⟨o, ho, hfly⟩ := hany
    obtain ⟨hpermit, hall⟩ := hone o ho hfly
    obtain ⟨l, hl, hsemaphore⟩ := (Option.any_eq_true _ _).mp hpermit
    have hsize : l.maxConcurrent = n :=
      (h.limit o ho l hl).resolve_right (by simpa using hsemaphore)
    have hsame : inFlightCount ops = permitsOut ops l := by
      refine List.countP_congr fun o' ho' => ?_
      simp only [Bool.and_eq_true, beq_iff_eq]
      exact ⟨fun hfly' => ⟨hfly', (hall o' ho' hfly').trans hl⟩, fun hboth => hboth.1⟩
    rw [hsame]
    exact h.permits l hsize
  · have hzero : inFlightCount ops = 0 := by
      rw [inFlightCount, List.countP_eq_zero]
      intro o ho hfly
      exact hany ⟨o, ho, hfly⟩
    omega

theorem onePool_of_subset {ops ops' : List OpFuture} (h : OnePool ops)
    (hsub : ∀ o ∈ ops', o.inFlight = true → o ∈ ops) : OnePool ops' := by
  intro o ho hfly
  obtain ⟨hpermit, hall⟩ := h o (hsub o ho hfly) hfly
  exact ⟨hpermit, fun o' ho' hfly' => hall o' (hsub o' ho' hfly') hfly'⟩

theorem onePool_capture {ops : List OpFuture} (h : OnePool ops) (id k : Nat) (kind : RecordOp)
    (l : OperationLimiter) : OnePool (ops ++ [capture id kind k l]) := by
  refine onePool_of_subset h fun o ho hfly => ?_
  rcases List.mem_append.mp ho with hold | hnew
  · exact hold
  · rw [List.mem_singleton.mp hnew] at hfly
    simp [capture] at hfly

theorem onePool_leave {ops : List OpFuture} (h : OnePool ops) (id : Nat) :
    OnePool (leave ops id) :=
  onePool_of_subset h fun _ ho _ => (List.mem_filter.mp ho).1

theorem onePool_enter {s : Calls} {ops : List OpFuture} {id : Nat} (hpaced : Paced s (.enter id))
    (henter : enter s.ops id = some ops) : OnePool ops := by
  obtain ⟨o, hw, -, rfl⟩ := enter_eq_some henter
  obtain ⟨hpermit, hall⟩ := hpaced o hw
  have hsame : ∀ o' ∈ leave s.ops id ++ [{ o with inFlight := true }],
      o'.inFlight = true → o'.limiter = o.limiter := by
    intro o' ho' hfly
    rcases List.mem_append.mp ho' with hold | hnew
    · exact hall o' (List.mem_filter.mp hold).1 hfly
    · rw [List.mem_singleton.mp hnew]
  intro o' ho' hfly
  have hlim := hsame o' ho' hfly
  rw [OpFuture.permitted, hlim]
  exact ⟨hpermit, hsame⟩

theorem callStep_onePool {client : Except PyErr Nat} {limiter : OperationLimiter} {s s' : Calls}
    {a : CallAct} (h : OnePool s.ops) (hpaced : Paced s a)
    (hstep : callStep client limiter s a = some s') : OnePool s'.ops := by
  cases callStep_move hstep with
  | refused => exact h
  | start kind k => exact onePool_capture h _ _ _ _
  | query => exact h
  | runQuery k kind => exact onePool_capture h _ _ _ _
  | enter hops => exact onePool_enter hpaced hops
  | leave id => exact onePool_leave h id

end AerospikePy.Backpressure.Operations
