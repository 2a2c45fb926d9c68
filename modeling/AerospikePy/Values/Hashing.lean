import AerospikePy.Values.Entries

/-!
# Conversion with the hash of the core

`py_to_value` puts the entries of a dict into a `HashMap<Value, Value>`, which hashes each
key. Core's `Hash` panics on values that it does not take, and `py_to_value` does not ask
which those are. Short of that panic, the conversion returns and raises what
`Values.pyToValue` does.
-/

namespace AerospikePy.Values.Hashing

open AerospikePy.Core
open AerospikePy.Lib
open AerospikePy.Lib.Fallible
open AerospikePy.Python

/-- What ends a conversion that returns nothing: an exception, or a panic of the hash. -/
inductive Stop where
  | raised (e : PyErr)
  | panicked
  deriving DecidableEq, Repr

/-- Core's `Hash` and `Eq` for `Value`. `hashes v` says that hashing `v` does not panic;
the values that it takes are compared structurally. -/
structure CoreHash where
  hashes : Value → Bool
  same : Value → Value → Bool
  same_iff : ∀ {k l : Value}, hashes k = true → hashes l = true → (same k l = true ↔ k = l)

/-- The hash of the pinned core on the values of dict keys: it takes neither bools nor floats. -/
def CoreHash.pinned : CoreHash where
  hashes
    | .bool _ | .float _ => false
    | _ => true
  same k l := decide (k = l)
  same_iff _ _ := decide_eq_true_iff

variable (core : CoreHash) (rt : Runtime)

/-- `HashMap::insert`, which hashes the key first. -/
def insert (map : List (Value × Value)) (key val : Value) : Except Stop (List (Value × Value)) := do
  require (core.hashes key = true) .panicked
  return Assoc.insert core.same map key val

/-- Objects without parts are converted as in `Values.pyToValueInner`. -/
def pyToValueInner : Nat → PyObj → Except Stop Value
  | 0, obj => (Values.pyToValueInner rt 0 obj).mapError .raised
  | room + 1, obj =>
    match obj with
    | .list xs => do
      let values ← xs.mapM (pyToValueInner room)
      return .list values
    | .dict es => do
      let map ← es.foldlM (fun map e => do
        let key ← pyToValueInner room e.1
        let val ← pyToValueInner room e.2
        insert core map key val) []
      return .hashMap (rt.order map)
    | obj => (Values.pyToValueInner rt (room + 1) obj).mapError .raised

def pyToValue (obj : PyObj) : Except Stop Value := pyToValueInner core rt (maxNestingDepth + 1) obj

variable {core rt}

theorem mapError_eq_ok {α : Type} {x : Except PyErr α} {a : α} :
    x.mapError Stop.raised = .ok a ↔ x = .ok a := by
  cases x <;> simp [Except.mapError]

theorem mapError_eq_error {α : Type} {x : Except PyErr α} {s : Stop} :
    x.mapError Stop.raised = .error s ↔ ∃ e, x = .error e ∧ s = .raised e := by
  cases x <;> simp [Except.mapError, eq_comm]

theorem insert_eq_ok {map map' : List (Value × Value)} {key val : Value} :
    insert core map key val = .ok map' ↔
      core.hashes key = true ∧ Assoc.insert core.same map key val = map' := by
  rw [insert, bind_eq_ok]
  constructor
  · intro h
    obtain ⟨_, hreq, h⟩ := h
    exact ⟨require_eq_ok.mp hreq, Except.ok.inj h⟩
  · intro h
    obtain ⟨hkey, rfl⟩ := h
    exact ⟨(), require_eq_ok.mpr hkey, rfl⟩

/-- With keys that the hash takes, the map is the one of structural equality. -/
theorem foldlM_insert {es : Entries} {f : PyObj → Except Stop Value}
    {map map' : List (Value × Value)} (hmap : ∀ e ∈ map, core.hashes e.1 = true)
    (h : es.foldlM (fun map e => do
      let key ← f e.1
      let val ← f e.2
      insert core map key val) map = .ok map') :
    ∃ kvs, List.Forall₂ (fun e kv => f e.1 = .ok kv.1 ∧ f e.2 = .ok kv.2) es kvs ∧
      map' = Assoc.insertAll (fun k l => decide (k = l)) map kvs := by
  induction es generalizing map with
  | nil => exact ⟨[], .nil, (Except.ok.inj h).symm⟩
  | cons e es ih =>
    rw [List.foldlM_cons] at h
    obtain ⟨map₁, hstep, h⟩ := bind_eq_ok.mp h
    obtain ⟨key, hkey, hstep⟩ := bind_eq_ok.mp hstep
    obtain ⟨val, hval, hstep⟩ := bind_eq_ok.mp hstep
    obtain ⟨hhash, rfl⟩ := insert_eq_ok.mp hstep
    have hmap₁ : ∀ e ∈ Assoc.insert core.same map key val, core.hashes e.1 = true := by
      intro e he
      rcases Assoc.key_mem_insert he with hk | ⟨g, hg, hk⟩
      · rw [hk]
        exact hhash
      · rw [← hk]
        exact hmap g hg
    have hsame : ∀ e ∈ map, core.same e.1 key = decide (e.1 = key) := by
      intro e he
      rw [Bool.eq_iff_iff, core.same_iff (hmap e he) hhash, decide_eq_true_iff]
    obtain ⟨kvs, hkvs, rfl⟩ := ih hmap₁ h
    refine ⟨(key, val) :: kvs, .cons ⟨hkey, hval⟩ hkvs, ?_⟩
    have hinsert : Assoc.insert core.same map key val =
        Assoc.insert (fun k l => decide (k = l)) map key val := Assoc.insert_congr hsame val
    rw [hinsert]
    rfl

/-- What is returned is what hashing every key structurally returns. -/
theorem pyToValueInner_ok {room : Nat} {x : PyObj} {v : Value}
    (h : pyToValueInner core rt room x = .ok v) : Values.pyToValueInner rt room x = .ok v := by
  induction room generalizing x v with
  | zero => exact mapError_eq_ok.mp h
  | succ room ih =>
    cases x with
    | list xs =>
      obtain ⟨values, hvalues, h⟩ := bind_eq_ok.mp h
      obtain rfl := Except.ok.inj h
      have hall : List.Forall₂ (fun x v => Values.pyToValueInner rt room x = .ok v) xs values :=
        (mapM_eq_ok.mp hvalues).imp fun x v hv => ih hv
      rw [Values.pyToValueInner, mapM_eq_ok.mpr hall]
      rfl
    | dict es =>
      obtain ⟨map, hmap, h⟩ := bind_eq_ok.mp h
      obtain rfl := Except.ok.inj h
      obtain ⟨kvs, hkvs, rfl⟩ := foldlM_insert (List.forall_mem_nil _) hmap
      exact pyToValueInner_dict.mpr ⟨kvs, hkvs.imp fun e kv he => ⟨ih he.1, ih he.2⟩, rfl⟩
    | _ => exact mapError_eq_ok.mp h

/-- Entries that stop at an exception stop at it where every key is hashed too. -/
theorem mapM_of_foldlM_raised {es : Entries} {room : Nat} {map : List (Value × Value)} {e : PyErr}
    (hparts : ∀ x, pyToValueInner core rt room x = .error (.raised e) →
      Values.pyToValueInner rt room x = .error e)
    (h : es.foldlM (fun map e => do
      let key ← pyToValueInner core rt room e.1
      let val ← pyToValueInner core rt room e.2
      insert core map key val) map = .error (.raised e)) :
    es.mapM (fun e => do
      let key ← Values.pyToValueInner rt room e.1
      let val ← Values.pyToValueInner rt room e.2
      return (key, val)) = .error e := by
  induction es generalizing map with
  | nil => cases h
  | cons f es ih =>
    rw [List.foldlM_cons] at h
    rw [List.mapM_cons]
    cases hkey : pyToValueInner core rt room f.1 with
    | error s =>
      rw [hkey] at h
      obtain rfl := Except.error.inj h
      rw [hparts _ hkey]
      rfl
    | ok key =>
      rw [pyToValueInner_ok hkey]
      rw [hkey] at h
      cases hval : pyToValueInner core rt room f.2 with
      | error s =>
        rw [hval] at h
        obtain rfl := Except.error.inj h
        rw [hparts _ hval]
        rfl
      | ok val =>
        rw [pyToValueInner_ok hval]
        rw [hval] at h
        cases hins : insert core map key val with
        | error s =>
          rw [ok_bind, ok_bind, hins] at h
          rw [insert] at hins
          by_cases hhash : core.hashes key = true
          · rw [require_bind hhash] at hins
            cases hins
          · rw [require, if_neg hhash] at hins
            cases hins
            cases h
        | ok map₁ =>
          rw [ok_bind, ok_bind, hins] at h
          have hrest := ih h
          rw [ok_bind, ok_bind, pure_eq_ok, ok_bind, hrest]
          rfl

theorem pyToValueInner_leaf {room : Nat} {x : PyObj} (hx : x.nests = false) :
    pyToValueInner core rt (room + 1) x =
      (Values.pyToValueInner rt (room + 1) x).mapError .raised := by
  cases x with
  | list | dict => cases hx
  | _ => rfl

/-- So is an exception. -/
theorem pyToValueInner_raised {room : Nat} {x : PyObj} {e : PyErr}
    (h : pyToValueInner core rt room x = .error (.raised e)) :
    Values.pyToValueInner rt room x = .error e := by
  have hleaf : ∀ {y : Except PyErr Value}, y.mapError Stop.raised = .error (.raised e) →
      y = .error e := by
    intro y hy
    obtain ⟨e', he, hs⟩ := mapError_eq_error.mp hy
    rw [he, Stop.raised.inj hs]
  induction room generalizing x with
  | zero => exact hleaf h
  | succ room ih =>
    cases hx : x.nests with
    | false =>
      rw [pyToValueInner_leaf hx] at h
      exact hleaf h
    | true =>
      cases x with
      | list xs =>
        rw [pyToValueInner] at h
        rw [Values.pyToValueInner,
          mapM_eq_error_of (fun a b => pyToValueInner_ok) (fun a => ih) (error_of_bind_pure h)]
        rfl
      | dict es =>
        rw [pyToValueInner] at h
        rw [Values.pyToValueInner, mapM_of_foldlM_raised (fun x => ih) (error_of_bind_pure h)]
        rfl
      | _ => cases hx

end AerospikePy.Values.Hashing
