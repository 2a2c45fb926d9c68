import AerospikePy.Operations.Meaning

/-!
# What the decoder makes of an argument

An argument with a meaning, as the readers of `operations.rs` extract it from the dict.
-/

namespace AerospikePy.Operations

open AerospikePy.Core
open AerospikePy.Lib.Fallible
open AerospikePy.Python
open AerospikePy.Values

variable {rt : Runtime}

theorem indexOf_toObj (n : PyInt) : indexOf n.toObj = .ok n.toInt := by
  cases n with
  | int n => rfl
  | bool b => rfl

theorem extractWithin_toObj {lo hi : Int} {n : PyInt} (hlo : lo ≤ n.toInt) (hhi : n.toInt ≤ hi) :
    extractWithin lo hi n.toObj = .ok n.toInt :=
  extractWithin_eq_ok.mpr ⟨indexOf_toObj n, hlo, hhi⟩

theorem extractI64_toObj {n : PyInt} {i : Int64} (h : int64? n = some i) :
    extractI64 n.toObj = .ok i := by
  rw [int64?] at h
  by_cases hn : -2 ^ 63 ≤ n.toInt ∧ n.toInt < 2 ^ 63
  · rw [if_pos hn] at h
    cases h
    have hwithin := extractWithin_toObj hn.1 (show n.toInt ≤ 2 ^ 63 - 1 by omega)
    exact bind_of_eq_ok hwithin _
  · rw [if_neg hn] at h
    cases h

theorem extractU8_toObj {n : PyInt} {f : UInt8} (h : flags? n = some f) :
    extractU8 n.toObj = .ok f := by
  rw [flags?] at h
  by_cases hn : 0 ≤ n.toInt ∧ n.toInt < 2 ^ 8
  · rw [if_pos hn] at h
    cases h
    have hwithin := extractWithin_toObj hn.1 (show n.toInt ≤ 2 ^ 8 - 1 by omega)
    exact bind_of_eq_ok hwithin _
  · rw [if_neg hn] at h
    cases h

theorem constant_eq {A : Type} {constant : A → Int} {all : List A} {n : PyInt} {a : A}
    (h : constant? constant all n = some a) : constant a = n.toInt := by
  simpa using List.find?_some h

/-- The tables hold small numbers only. -/
def Small {A : Type} (constant : A → Int) (all : List A) : Prop :=
  ∀ a ∈ all, 0 ≤ constant a ∧ constant a ≤ 13

instance {A : Type} (constant : A → Int) (all : List A) : Decidable (Small constant all) :=
  inferInstanceAs (Decidable (∀ a ∈ all, 0 ≤ constant a ∧ constant a ≤ 13))

theorem extractI32_toObj {A : Type} {constant : A → Int} {all : List A}
    (hsmall : Small constant all) {n : PyInt} {a : A} (h : constant? constant all n = some a) :
    extractI32 n.toObj = .ok (constant a) := by
  have hn := constant_eq h
  have ha := hsmall a (List.mem_of_find?_eq_some h)
  rw [hn]
  exact extractWithin_toObj (by omega) (by omega)

theorem given_count {n : Option PyInt} {i : Option Int64} (h : count? n = some i) :
    given (n.map PyInt.toObj) extractI64 = .ok i := by
  cases n with
  | none =>
    cases h
    rfl
  | some n =>
    obtain ⟨i, hi, rfl⟩ := Option.map_eq_some_iff.mp h
    have hnone : n.toObj.isNone = false := by cases n <;> rfl
    simp [given, hnone, extractI64_toObj hi]

theorem optional_count {byDefault : Int64} {n : Option PyInt} {i : Int64}
    (h : countOr? byDefault n = some i) :
    optional (n.map PyInt.toObj) extractI64 byDefault = .ok i := by
  cases n with
  | none =>
    cases h
    rfl
  | some n => exact extractI64_toObj h

theorem pyInt?_eq_some {obj : PyObj} {n : PyInt} (h : pyInt? obj = some n) : obj = n.toObj := by
  cases obj with
  | int _ | bool _ =>
    cases h
    rfl
  | _ => cases h

theorem optional_field {α : Type} {extract : PyObj → Except PyErr α} {byDefault a : α}
    {policy : Entries} {key : String} {n : PyInt} (hzero : extract (.int 0) = .ok byDefault)
    (h : field? policy key = some n) (ha : extract n.toObj = .ok a) :
    optional (getStr policy key) extract byDefault = .ok a := by
  rw [field?] at h
  cases hkey : getStr policy key with
  | none =>
    rw [hkey] at h
    cases h
    show Except.ok byDefault = Except.ok a
    rw [← hzero, ← ha]
    rfl
  | some obj =>
    rw [hkey] at h
    rw [pyInt?_eq_some h]
    exact ha

theorem parsePolicy_some {α : Type} {parse : PyObj → Except PyErr α} {byDefault a : α}
    {obj : PyObj} (hobj : obj.isNone = false) (h : parse obj = .ok a) :
    parsePolicy (some obj) parse byDefault = .ok a := by
  have hgiven : given (some obj) parse = .ok (some a) := by
    simp [given, hobj, h]
  exact bind_of_eq_ok hgiven _

theorem intToListOrder_constant (a : ListOrderType) : intToListOrder a.constant = a := by
  cases a <;> rfl

theorem intToMapOrder_constant (a : MapOrder) : intToMapOrder a.constant = a := by
  cases a <;> rfl

theorem intToMapWriteMode_constant (a : MapWriteMode) : intToMapWriteMode a.constant = a := by
  cases a <;> rfl

theorem parsePolicy_list {policy : Option Entries} {p : ListPolicy}
    (h : listPolicy? policy = some p) :
    parsePolicy (policy.map .dict) listPolicyOf .default = .ok p := by
  cases policy with
  | none =>
    cases h
    rfl
  | some policy =>
    obtain ⟨order, horder, h⟩ := Option.bind_eq_some_iff.mp h
    obtain ⟨attributes, hattributes, h⟩ := Option.bind_eq_some_iff.mp h
    obtain ⟨n, hn, h⟩ := Option.bind_eq_some_iff.mp h
    obtain ⟨flags, hflags, h⟩ := Option.bind_eq_some_iff.mp h
    cases h
    have horder := @optional_field _ _ 0 _ _ _ _ rfl horder
      (extractI32_toObj (by decide) hattributes)
    have hflags := @optional_field _ _ 0 _ _ _ _ rfl hn (extractU8_toObj hflags)
    apply parsePolicy_some rfl
    simp [listPolicyOf, castDict, ok_bind, horder, hflags, intToListOrder_constant, pure_eq_ok]

theorem parsePolicy_map {policy : Option Entries} {p : MapPolicy}
    (h : mapPolicy? policy = some p) :
    parsePolicy (policy.map .dict) mapPolicyOf .default = .ok p := by
  cases policy with
  | none =>
    cases h
    rfl
  | some policy =>
    obtain ⟨n, hn, h⟩ := Option.bind_eq_some_iff.mp h
    obtain ⟨order, horder, h⟩ := Option.bind_eq_some_iff.mp h
    obtain ⟨m, hm, h⟩ := Option.bind_eq_some_iff.mp h
    obtain ⟨mode, hmode, h⟩ := Option.bind_eq_some_iff.mp h
    cases h
    have horder := @optional_field _ _ 0 _ _ _ _ rfl hn (extractI32_toObj (by decide) horder)
    have hmode := @optional_field _ _ 0 _ _ _ _ rfl hm
      (extractI32_toObj (by decide) hmode)
    apply parsePolicy_some rfl
    simp [mapPolicyOf, castDict, ok_bind, horder, hmode, intToMapOrder_constant,
      intToMapWriteMode_constant, pure_eq_ok]

theorem parsePolicy_hll {policy : Option Entries} {p : HllPolicy}
    (h : hllPolicy? policy = some p) :
    parsePolicy (policy.map .dict) hllPolicyOf .default = .ok p := by
  cases policy with
  | none =>
    cases h
    rfl
  | some policy =>
    obtain ⟨n, hn, h⟩ := Option.bind_eq_some_iff.mp h
    obtain ⟨flags, hflags, h⟩ := Option.bind_eq_some_iff.mp h
    cases h
    have hflags := @optional_field _ _ 0 _ _ _ _ rfl hn (extractI64_toObj hflags)
    apply parsePolicy_some rfl
    simp [hllPolicyOf, castDict, ok_bind, hflags, pure_eq_ok]

theorem parsePolicy_bit {policy : Option PyInt} {p : BitPolicy}
    (h : bitPolicy? policy = some p) :
    parsePolicy (policy.map PyInt.toObj) bitPolicyOf .default = .ok p := by
  cases policy with
  | none =>
    cases h
    rfl
  | some n =>
    obtain ⟨flags, hflags, rfl⟩ := Option.map_eq_some_iff.mp h
    have hnone : n.toObj.isNone = false := by cases n <;> rfl
    apply parsePolicy_some hnone
    simp [bitPolicyOf, ok_bind, extractU8_toObj hflags, pure_eq_ok]

theorem value?_eq_some {obj : PyObj} {v : Value} : value? rt obj = some v ↔
    pyToValue rt obj = .ok v := by
  rw [value?]
  cases pyToValue rt obj <;> simp [Except.toOption]

theorem isNone_eq_true {obj : PyObj} (h : obj.isNone = true) : obj = .none := by
  cases obj with
  | none => rfl
  | _ => cases h

theorem pyToValue_none : pyToValue rt .none = .ok .nil := rfl

/-- What the filter leaves of a value. -/
def kept (obj : PyObj) (v : Value) : Option Value := if obj.isNone then none else some v

theorem given_value {obj : PyObj} {v : Value} (h : value? rt obj = some v) :
    given (some obj) (pyToValue rt) = .ok (kept obj v) := by
  by_cases hobj : obj.isNone = true
  · simp [given, kept, hobj]
  · simp [given, kept, hobj, value?_eq_some.mp h]

/-- A value that the filter took away was nil. -/
theorem kept_getD {obj : PyObj} {v : Value} (h : value? rt obj = some v) :
    (kept obj v).getD .nil = v := by
  by_cases hobj : obj.isNone = true
  · rw [isNone_eq_true hobj, value?_eq_some, pyToValue_none] at h
    obtain rfl := Except.ok.inj h
    rw [kept, if_pos hobj]
    rfl
  · rw [kept, if_neg hobj]
    rfl

theorem kept_of_isNone_eq_false {obj : PyObj} (h : obj.isNone = false) (v : Value) :
    kept obj v = some v := by
  rw [kept, h]
  rfl

theorem pyToValue_list {xs : List PyObj} {vs : List Value} (h : values? rt xs = some vs) :
    pyToValue rt (.list xs) = .ok (.list vs) := by
  rw [values?] at h
  split at h
  · rename_i vs' hvs
    cases h
    exact hvs
  · cases h

theorem given_values {xs : List PyObj} {vs : List Value} (h : values? rt xs = some vs) :
    given (some (.list xs)) (pyToValue rt) = .ok (some (.list vs)) := by
  simp [given, PyObj.isNone, pyToValue_list h]

theorem given_items {es : Entries} {kvs : List (Value × Value)} (h : items? rt es = some kvs) :
    given (some (.dict es)) (pyToValue rt) = .ok (some (.hashMap kvs)) := by
  rw [items?] at h
  split at h
  · rename_i kvs' hkvs
    cases h
    simp [given, PyObj.isNone, hkvs]
  · cases h

theorem rangeEnd_eq {last : PyObj} {v : Value} (h : rangeEnd? rt last = some v) {dict : Entries}
    (hdict : getStr dict "val_end" = some last) : getValEnd rt dict = .ok v := by
  rw [getValEnd, hdict]
  rw [rangeEnd?] at h
  by_cases hlast : last.isNone = true
  · rw [if_pos hlast] at h
    cases h
    simp [given, hlast, ok_bind, pure_eq_ok]
  · rw [if_neg hlast] at h
    simp [given, hlast, value?_eq_some.mp h, ok_bind, pure_eq_ok]

theorem given_bytes (value : PyBytes) :
    given (some value.toObj) (pyToValue rt) = .ok (some (.blob value.content)) := by
  cases value <;> rfl

theorem given_bool (b : Bool) :
    given (some (.bool b)) (pyToValue rt) = .ok (some (.bool b)) := rfl

theorem given_bits {signed : Bool} {n : PyInt} {i : Int64} (h : bits? signed n = some i)
    (hn : n.isBool = false) : given (some n.toObj) (pyToValue rt) = .ok (some (.int i)) := by
  cases n with
  | bool b => cases hn
  | int n =>
    rw [bits?] at h
    have hwide : (if signed then (2 : Int) ^ 63 else 2 ^ 64) ≤ 2 ^ 64 := by
      cases signed <;> decide
    by_cases hrange : -2 ^ 63 ≤ n ∧ n < if signed then 2 ^ 63 else 2 ^ 64
    · rw [PyInt.toInt, if_pos hrange] at h
      cases h
      have hvalue : intToValue (.int n) = .ok (.int (.ofInt n)) :=
        intToValue_eq_ok.mpr ⟨⟨hrange.1, by omega⟩, rfl⟩
      have hto : pyToValue rt (.int n) = .ok (.int (.ofInt n)) := hvalue
      show given (some (.int n)) (pyToValue rt) = _
      simp [given, PyObj.isNone, hto]
    · rw [PyInt.toInt, if_neg hrange] at h
      cases h

theorem bits_of_int64 {n : PyInt} {i : Int64} (h : int64? n = some i) : bits? true n = some i := h

end AerospikePy.Operations
