import AerospikePy.Core.Value
import AerospikePy.Python.Extract

/-!
# Values and Python objects

`types/value.rs`: `py_to_value` with its bound on nesting, and `value_to_py`. A
`HashMap` iterates over its entries in an order of its own, and whoever reads the
entries back meets them in that order. Every key is hashed here; what becomes of those
that core's hash does not take is in `Values.Hashing`.
-/

namespace AerospikePy.Values

open AerospikePy.Core
open AerospikePy.Lib
open AerospikePy.Lib.Fallible
open AerospikePy.Python

/-- What lies outside the source: the order in which a `HashMap` iterates, and
`f64::from` on a 32-bit `FloatValue`. -/
structure Runtime where
  order : List (Value × Value) → List (Value × Value)
  perm : ∀ es, (order es).Perm es
  f64FromF32 : UInt32 → Except PyErr F64

/-- Maps iterate in insertion order, and 32-bit floats are widened. -/
def Runtime.plain : Runtime where
  order es := es
  perm es := .refl es
  f64FromF32 bits := .ok (F32.toF64 ⟨bits⟩)

variable (rt : Runtime)

def maxNestingDepth : Nat := 64

/-- A Python int within 64 bits, signed or unsigned; the latter is reinterpreted. -/
def intToValue (obj : PyObj) : Except PyErr Value :=
  match extractI64 obj with
  | .ok val => .ok (.int val)
  | .error i64Err =>
    match extractU64 obj with
    | .ok u => .ok (.int u.toInt64)
    | .error _ => .error i64Err

def unsupportedType (obj : PyObj) : PyErr :=
  ⟨.typeError, s!"Unsupported type for Aerospike value: {obj.typeName}"⟩

/-- The entries of a `HashMap` after these insertions, where its hash takes every key. -/
def toHashMap (kvs : List (Value × Value)) : List (Value × Value) :=
  rt.order (Assoc.ofList (fun k l => decide (k = l)) kvs)

/-- `room` is `MAX_NESTING_DEPTH + 1 - depth`, the levels that are left. -/
def pyToValueInner : Nat → PyObj → Except PyErr Value
  | 0, _ => .error ⟨.valueError, s!"Value nesting exceeds maximum depth of {maxNestingDepth}"⟩
  | room + 1, obj =>
    match obj with
    | .none => .ok .nil
    | .bool b => .ok (.bool b)
    | .int _ => intToValue obj
    | .float x => .ok (.float (.f64 x.bits))
    | .str _ => do
      let s ← extractString obj
      return .string s
    | .bytes b => .ok (.blob b)
    | .bytearray b => .ok (.blob b)
    | .list xs => do
      let values ← xs.mapM (pyToValueInner room)
      return .list values
    | .dict es => do
      let kvs ← es.mapM fun e => do
        let key ← pyToValueInner room e.1
        let val ← pyToValueInner room e.2
        return (key, val)
      return .hashMap (toHashMap rt kvs)
    | .tuple _ | .other _ => .error (unsupportedType obj)

def pyToValue (obj : PyObj) : Except PyErr Value := pyToValueInner rt (maxNestingDepth + 1) obj

def pyListToValues (obj : PyObj) : Except PyErr (List Value) :=
  match obj with
  | .list xs => xs.mapM (pyToValue rt)
  | _ => .error ⟨.typeError, "Expected a list for list_val"⟩

def pyDictToHashMap (obj : PyObj) : Except PyErr (List (Value × Value)) :=
  match obj with
  | .dict es => do
    let kvs ← es.mapM fun e => do
      let key ← pyToValue rt e.1
      let val ← pyToValue rt e.2
      return (key, val)
    return toHashMap rt kvs
  | _ => .error ⟨.typeError, "Expected a dict for map_val"⟩

def floatToPy : FloatValue → Except PyErr F64
  | .f64 bits => .ok ⟨bits⟩
  | .f32 bits => rt.f64FromF32 bits

mutual

def valueToPy : Value → Except PyErr PyObj
  | .nil => .ok .none
  | .bool b => .ok (.bool b)
  | .int i => .ok (.int i.toInt)
  | .float f => do
    let x ← floatToPy rt f
    return .float x
  | .string s => .ok (.str s)
  | .blob b => .ok (.bytes b)
  | .list vs | .multiResult vs => do
    let items ← valuesToPy vs
    return .list items
  | .hashMap es | .orderedMap es => do
    let dict ← fillDict es []
    return .dict dict
  | .keyValueList es => do
    let items ← pairsToPy es
    return .list items
  | .geoJSON s => .ok (.str s)
  | .hll b => .ok (.bytes b)
  | .infinity => .ok .none
  | .wildcard => .ok .none

def valuesToPy : List Value → Except PyErr (List PyObj)
  | [] => .ok []
  | v :: vs => do
    let item ← valueToPy v
    let items ← valuesToPy vs
    return item :: items

def fillDict : List (Value × Value) → Entries → Except PyErr Entries
  | [], dict => .ok dict
  | (k, v) :: es, dict => do
    let key ← valueToPy k
    let value ← valueToPy v
    let dict ← setItem dict key value
    fillDict es dict

def pairsToPy : List (Value × Value) → Except PyErr (List PyObj)
  | [] => .ok []
  | (k, v) :: es => do
    let key ← valueToPy k
    let value ← valueToPy v
    let items ← pairsToPy es
    return .tuple [key, value] :: items

end

variable {rt}

theorem intToValue_eq_ok {n : Int} {v : Value} :
    intToValue (.int n) = .ok v ↔ (-2 ^ 63 ≤ n ∧ n < 2 ^ 64) ∧ v = .int (Int64.ofInt n) := by
  unfold intToValue
  cases hi : extractI64 (.int n) with
  | ok i =>
    obtain rfl := extractI64_int.mp hi
    have hlo := Int64.le_toInt i
    have hhi := Int64.toInt_lt i
    rw [Int64.ofInt_toInt]
    constructor
    · intro h
      exact ⟨⟨hlo, by omega⟩, (Except.ok.inj h).symm⟩
    · intro h
      rw [h.2]
  | error e =>
    have hout : ¬(-2 ^ 63 ≤ n ∧ n < 2 ^ 63) := by
      intro hin
      have hok := extractI64_int (n := n) (i := Int64.ofInt n)
      rw [hi, Int64.toInt_ofInt_of_le hin.1 hin.2] at hok
      simp at hok
    unfold extractU64 extractWithin
    by_cases hu : 0 ≤ n ∧ n ≤ 2 ^ 64 - 1
    · have hcast : (UInt64.ofNat n.toNat).toInt64 = Int64.ofInt n := by
        apply Int64.toInt_inj.mp
        simp [Int.max_eq_left hu.1]
      simp only [indexOf, bind, Except.bind, require, if_pos hu]
      constructor
      · intro h
        rw [← hcast]
        exact ⟨by omega, (Except.ok.inj h).symm⟩
      · intro h
        rw [h.2, ← hcast]
        rfl
    · simp only [indexOf, bind, Except.bind, require, if_neg hu]
      refine iff_of_false (by simp) ?_
      omega

/-- The signed integer with the 64 bits of this one. -/
def asSigned (n : Int) : Int := if n < 2 ^ 63 then n else n - 2 ^ 64

theorem toInt_ofInt_asSigned {n : Int} (h : -2 ^ 63 ≤ n ∧ n < 2 ^ 64) :
    (Int64.ofInt n).toInt = asSigned n := by
  unfold asSigned
  split
  · apply Int64.toInt_ofInt_of_le <;> omega
  · rw [Int64.toInt_ofInt, Int.bmod_def]
    show (if n % 2 ^ 64 < (2 ^ 64 + 1) / 2 then n % 2 ^ 64 else n % 2 ^ 64 - 2 ^ 64) = n - 2 ^ 64
    omega

/-- `kv` is the entry that `e` becomes. -/
def EntryToValue (rt : Runtime) (room : Nat) (e : PyObj × PyObj) (kv : Value × Value) : Prop :=
  pyToValueInner rt room e.1 = .ok kv.1 ∧ pyToValueInner rt room e.2 = .ok kv.2

theorem pyToValueInner_dict {room : Nat} {es : Entries} {v : Value} :
    pyToValueInner rt (room + 1) (.dict es) = .ok v ↔
      ∃ kvs, List.Forall₂ (EntryToValue rt room) es kvs ∧ v = .hashMap (toHashMap rt kvs) := by
  have hentry : ∀ e kv, (do
      let key ← pyToValueInner rt room e.1
      let val ← pyToValueInner rt room e.2
      return (key, val)) = Except.ok kv ↔ EntryToValue rt room e kv := by
    intro e kv
    rw [bind_eq_ok]
    constructor
    · intro h
      obtain ⟨key, hkey, h⟩ := h
      obtain ⟨val, hval, h⟩ := bind_eq_ok.mp h
      obtain rfl := Except.ok.inj h
      exact ⟨hkey, hval⟩
    · intro h
      exact ⟨kv.1, h.1, bind_eq_ok.mpr ⟨kv.2, h.2, rfl⟩⟩
  rw [pyToValueInner, bind_eq_ok]
  constructor
  · intro h
    obtain ⟨kvs, hkvs, h⟩ := h
    exact ⟨kvs, (mapM_eq_ok.mp hkvs).imp fun e kv => (hentry e kv).mp, (Except.ok.inj h).symm⟩
  · intro h
    obtain ⟨kvs, hkvs, rfl⟩ := h
    exact ⟨kvs, mapM_eq_ok.mpr (hkvs.imp fun e kv => (hentry e kv).mpr), rfl⟩

theorem valuesToPy_eq_ok {vs : List Value} {xs : List PyObj} :
    valuesToPy rt vs = .ok xs ↔ List.Forall₂ (fun v x => valueToPy rt v = .ok x) vs xs := by
  induction vs generalizing xs with
  | nil =>
    rw [valuesToPy, List.forall₂_nil_left_iff]
    exact ⟨fun h => (Except.ok.inj h).symm, fun h => by rw [h]⟩
  | cons v vs ih =>
    rw [valuesToPy, bind_eq_ok, List.forall₂_cons_left_iff]
    constructor
    · intro h
      obtain ⟨x, hx, hrest⟩ := h
      obtain ⟨xs', hxs, heq⟩ := bind_eq_ok.mp hrest
      exact ⟨x, xs', hx, ih.mp hxs, (Except.ok.inj heq).symm⟩
    · intro h
      obtain ⟨x, xs', hx, hxs, rfl⟩ := h
      exact ⟨x, hx, bind_eq_ok.mpr ⟨xs', ih.mpr hxs, rfl⟩⟩

/-- `f` is the entry that `e` becomes. -/
def EntryToPy (rt : Runtime) (e : Value × Value) (f : PyObj × PyObj) : Prop :=
  valueToPy rt e.1 = .ok f.1 ∧ valueToPy rt e.2 = .ok f.2

/-- A dict is filled by inserting the converted entries, all of whose keys are hashable. -/
theorem fillDict_eq_ok {es : List (Value × Value)} {d d' : Entries} :
    fillDict rt es d = .ok d' ↔ ∃ fs, List.Forall₂ (EntryToPy rt) es fs ∧
      (∀ f ∈ fs, f.1.hashable = true) ∧ d' = Assoc.insertAll pyEq d fs := by
  induction es generalizing d with
  | nil =>
    rw [fillDict]
    constructor
    · intro h
      exact ⟨[], .nil, by simp, (Except.ok.inj h).symm⟩
    · intro h
      obtain ⟨fs, hfs, -, hd⟩ := h
      rw [List.forall₂_nil_left_iff.mp hfs] at hd
      rw [hd]
      rfl
  | cons e es ih =>
    obtain ⟨k, v⟩ := e
    rw [fillDict]
    constructor
    · intro h
      obtain ⟨key, hkey, h⟩ := bind_eq_ok.mp h
      obtain ⟨value, hvalue, h⟩ := bind_eq_ok.mp h
      obtain ⟨d₁, hset, h⟩ := bind_eq_ok.mp h
      obtain ⟨hhash, rfl⟩ := setItem_eq_ok.mp hset
      obtain ⟨fs, hfs, hall, hd⟩ := ih.mp h
      exact ⟨(key, value) :: fs, .cons ⟨hkey, hvalue⟩ hfs,
        List.forall_mem_cons.mpr ⟨hhash, hall⟩, hd⟩
    · intro h
      obtain ⟨fs, hfs, hall, hd⟩ := h
      obtain ⟨f, fs', hf, hfs', rfl⟩ := List.forall₂_cons_left_iff.mp hfs
      obtain ⟨hhash, hall⟩ := List.forall_mem_cons.mp hall
      refine bind_eq_ok.mpr ⟨f.1, hf.1, bind_eq_ok.mpr ⟨f.2, hf.2, ?_⟩⟩
      exact bind_eq_ok.mpr ⟨_, setItem_eq_ok.mpr ⟨hhash, rfl⟩, ih.mpr ⟨fs', hfs', hall, hd⟩⟩

end AerospikePy.Values
