import AerospikePy.Batch.ToNumpy
import AerospikePy.Lib.Runs

/-!
# The handle of a batch read

`PyLazyBatchRecords`: the raw results behind a cached dict. The dict views and `to_dict`
go through the cache, `release_cache` empties it, and the other methods work on the
results. A materialisation may also fail or panic for reasons of its own; a panic
poisons the mutex around the cache.
-/

namespace AerospikePy.Batch

open AerospikePy.Core
open AerospikePy.Lib
open AerospikePy.Lib.Fallible
open AerospikePy.Numpy
open AerospikePy.Python
open AerospikePy.Values

structure Handle where
  inner : Results
  cachedDict : Option Entries
  poisoned : Bool

def fromResults (results : Results) : Handle := ⟨results, none, false⟩

/-- What befalls a materialisation: nothing, so that the records decide, or an exception
of the interpreter, or a panic. -/
inductive Fate where
  | completes
  | raises (e : PyErr)
  | panics

inductive Outcome (α : Type) where
  | returned (a : α)
  | raised (e : PyErr)
  | panicked

def Outcome.ofExcept {α : Type} : Except PyErr α → Outcome α
  | .ok a => .returned a
  | .error e => .raised e

/-- What lies outside the source: `repr` of an object. -/
abbrev Repr := PyObj → Except PyErr String

variable (rt : Runtime) (repr : Repr)

def cacheIsPoisoned : PyErr :=
  ⟨.rustPanicError, "LazyBatchRecords dict cache mutex was poisoned by a previous " ++
    "panic during conversion; this handle's data is unrecoverable"⟩

/-- `cached_dict`: its outcome, and the handle afterwards. A panic unwinds through the
locked mutex. -/
def Handle.materialise (h : Handle) (fate : Fate) : Outcome Entries × Handle :=
  if h.poisoned then (.raised cacheIsPoisoned, h)
  else match h.cachedDict with
    | some d => (.returned d, h)
    | none => match fate with
      | .panics => (.panicked, { h with poisoned := true })
      | .raises e => (.raised e, h)
      | .completes => match batchToDictPy rt h.inner with
        | .error e => (.raised e, h)
        | .ok d => (.returned d, { h with cachedDict := some d })

/-- `release_cache`, which recovers a poisoned lock. -/
def Handle.releaseCache (h : Handle) : Handle :=
  { h with cachedDict := none, poisoned := false }

/-- The methods that read the cached dict. -/
inductive View where
  | getItem (key : PyObj)
  | contains (key : PyObj)
  | get (key : PyObj) (default : Option PyObj)
  | iter
  | items
  | keys
  | values
  | toDict

inductive Answer where
  | nothing
  | object (obj : PyObj)
  | bool (b : Bool)
  | count (n : Nat)
  | yields (objs : List PyObj)
  | pairs (es : Entries)
  | dict (d : Entries)

def notPresent (text : String) : PyErr :=
  ⟨.keyError, s!"{text} not present in LazyBatchRecords dict view " ++
    "(key is digest-only, missing from the batch response, or its read failed — " ++
    "inspect lazy_records.batch_records[i].result for the per-record code, " ++
    "or iterate all_user_keys() for every requested user_key)"⟩

/-- `PyDict::get_item`. -/
def lookupItem (d : Entries) (key : PyObj) : Except PyErr (Option PyObj) := do
  require (key.hashable = true) (unhashable key)
  return getItem d key

/-- What a view answers on a dict. -/
def View.answer (v : View) (d : Entries) : Except PyErr Answer :=
  match v with
  | .getItem key => do
    match ← lookupItem d key with
    | some obj => return .object obj
    | none =>
      let text ← repr key
      throw (notPresent text)
  | .contains key => do
    let found ← lookupItem d key
    return .bool found.isSome
  | .get key default => do
    match ← lookupItem d key with
    | some obj => return .object obj
    | none => return .object (default.getD .none)
  | .iter => .ok (.yields (d.map (·.1)))
  | .items => .ok (.pairs d)
  | .keys => .ok (.yields (d.map (·.1)))
  | .values => .ok (.yields (d.map (·.2)))
  | .toDict => .ok (.dict d)

inductive Call where
  | view (v : View)
  | releaseCache
  | len
  | foundCount

def len (results : Results) : Nat := (results.filter isFound).length

def foundCount (results : Results) : Nat := (results.filter isOk).length

def Handle.perform (h : Handle) (call : Call) (fate : Fate) : Outcome Answer × Handle :=
  match call with
  | .view v =>
    match h.materialise rt fate with
    | (.returned d, h') => (.ofExcept (v.answer repr d), h')
    | (.raised e, h') => (.raised e, h')
    | (.panicked, h') => (.panicked, h')
  | .releaseCache => (.returned .nothing, h.releaseCache)
  | .len => (.returned (.count (len h.inner)), h)
  | .foundCount => (.returned (.count (foundCount h.inner)), h)

section Uncached

variable (clock : Clock) (p : Platform) (zeros : Zeros)

def Handle.toList (h : Handle) : Except PyErr (List PyObj) := batchToListPy rt h.inner

def Handle.toNumpy (h : Handle) (d : Dtype) : Except PyErr NumpyBatchRecords :=
  batchToNumpyPy rt clock p zeros h.inner d

def Handle.batchRecords (h : Handle) : Except PyErr (List PyBatchRecord) :=
  h.inner.mapM (singleBatchRecordToPy rt)

/-- All the items of `iter_records()`. -/
def Handle.iterRecords (h : Handle) : Except PyErr (List PyBatchRecord) :=
  PyBatchReadIter.collect rt (h.inner.length + 1) ⟨h.inner, 0⟩

def Handle.allUserKeys (h : Handle) : Except PyErr (List PyObj) := collectUserKeys rt h.inner

def mergeToDict (handles : List Handle) : Except PyErr (List Entries) :=
  handles.mapM fun h => batchToDictPy rt h.inner

end Uncached

structure Event where
  call : Call
  fate : Fate
  outcome : Outcome Answer

/-- A handle with the calls made on it so far. -/
structure Session where
  handle : Handle
  history : List Event

def start (results : Results) : Session := ⟨fromResults results, []⟩

def step (s : Session) (a : Call × Fate) : Option Session :=
  let (outcome, handle) := s.handle.perform rt repr a.1 a.2
  some ⟨handle, s.history ++ [⟨a.1, a.2, outcome⟩]⟩

def Reachable (results : Results) (s : Session) : Prop :=
  Runs.Reachable (step rt repr) (start results) s

/-- The cache is empty or holds the dict that the results convert to. -/
def Whole (h : Handle) : Prop := ∀ d, h.cachedDict = some d → batchToDictPy rt h.inner = .ok d

variable {rt repr} {h : Handle} {fate : Fate}

theorem materialise_of_poisoned (hp : h.poisoned = true) :
    h.materialise rt fate = (.raised cacheIsPoisoned, h) := by
  unfold Handle.materialise
  rw [if_pos hp]

theorem materialise_inner (h : Handle) (fate : Fate) : (h.materialise rt fate).2.inner = h.inner := by
  unfold Handle.materialise
  split
  · rfl
  · split
    · rfl
    · split
      · rfl
      · rfl
      · split <;> rfl

/-- Only the dict of the results is ever returned. -/
theorem materialise_returned {d : Entries} (hw : Whole rt h)
    (hd : (h.materialise rt fate).1 = .returned d) : batchToDictPy rt h.inner = .ok d := by
  unfold Handle.materialise at hd
  split at hd
  · cases hd
  · split at hd
    · next hcached =>
      obtain rfl := Outcome.returned.inj hd
      exact hw _ hcached
    · split at hd
      · cases hd
      · cases hd
      · split at hd
        · cases hd
        · next hconv =>
          obtain rfl := Outcome.returned.inj hd
          exact hconv

theorem materialise_whole (hw : Whole rt h) : Whole rt (h.materialise rt fate).2 := by
  unfold Handle.materialise
  split
  · exact hw
  · split
    · exact hw
    · split
      · exact hw
      · exact hw
      · split
        · exact hw
        · next d hconv =>
          intro d' hd'
          obtain rfl : d = d' := Option.some.inj hd'
          exact hconv

/-- A lock that is not poisoned lets a materialisation take its course. -/
theorem materialise_completes {d : Entries} (hw : Whole rt h) (hp : h.poisoned = false)
    (hd : batchToDictPy rt h.inner = .ok d) : (h.materialise rt .completes).1 = .returned d := by
  unfold Handle.materialise
  rw [if_neg (by simp [hp])]
  cases hcached : h.cachedDict with
  | some d' =>
    have hd' := hw d' hcached
    rw [hd] at hd'
    rw [Except.ok.inj hd']
  | none => simp [hd]

/-- The lock is poisoned by a panic and by nothing else. -/
theorem materialise_poisoned :
    (h.materialise rt fate).2.poisoned = true ↔
      h.poisoned = true ∨ (h.materialise rt fate).1 = .panicked := by
  unfold Handle.materialise
  by_cases hp : h.poisoned = true
  · simp [hp]
  · cases hcached : h.cachedDict with
    | some d => simp [hp]
    | none =>
      cases fate with
      | panics => simp [hp]
      | raises e => simp [hp]
      | completes => cases batchToDictPy rt h.inner <;> simp [hp]

end AerospikePy.Batch
