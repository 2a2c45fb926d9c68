import AerospikePy.Core.Float
import AerospikePy.Core.Types
import AerospikePy.Lib.Assoc
import AerospikePy.Lib.Fallible

/-!
# Python objects

The builtin types that the bindings look at, with `==`, hashability and the operations
of a dict. `==` is that of distinct objects, so that a NaN is equal to nothing. Numbers
are compared exactly, whatever their types; `True` is 1.
-/

namespace AerospikePy.Python

open AerospikePy.Core
open AerospikePy.Lib
open AerospikePy.Lib.BinaryFloat
open AerospikePy.Lib.Fallible

/-- A `str`: text, or code points among which is a lone surrogate. -/
inductive PyStr where
  | utf8 (s : String)
  | surrogates (points : List Nat)
  deriving DecidableEq, Repr

instance : Coe String PyStr := ⟨.utf8⟩

/-- An instance of any other class: its identity, and what its `__index__` and
`__float__` return. -/
structure PyInstance where
  typeName : String
  id : Nat
  index : Option Int
  float : Option F64
  deriving DecidableEq, Repr

inductive PyObj where
  | none
  | bool (b : Bool)
  | int (n : Int)
  | float (x : F64)
  | str (s : PyStr)
  | bytes (b : List UInt8)
  | bytearray (b : List UInt8)
  | list (xs : List PyObj)
  | tuple (xs : List PyObj)
  | dict (entries : List (PyObj × PyObj))
  | other (i : PyInstance)
  deriving Repr

/-- The entries of a dict, in insertion order. -/
abbrev Entries := List (PyObj × PyObj)

namespace PyObj

def typeName : PyObj → String
  | none => "NoneType"
  | bool _ => "bool"
  | int _ => "int"
  | float _ => "float"
  | str _ => "str"
  | bytes _ => "bytes"
  | bytearray _ => "bytearray"
  | list _ => "list"
  | tuple _ => "tuple"
  | dict _ => "dict"
  | other i => i.typeName

def isNone : PyObj → Bool
  | none => true
  | _ => false

end PyObj

/-- What an object without parts is under `==`. Numbers are counted in units of the
smallest subnormal double. -/
inductive Atom where
  | none
  | number (units : Int)
  | infinity (negative : Bool)
  | str (s : PyStr)
  | bytes (b : List UInt8)
  | object (id : Nat)
  deriving DecidableEq, Repr

def intAtom (n : Int) : Atom := .number (n * 2 ^ binary64.unit)

def floatAtom (x : F64) : Option Atom :=
  match x.datum with
  | .nan => none
  | .infinite negative => some (.infinity negative)
  | .finite negative magnitude => some (.number (F64.signed negative magnitude))

/-- `none` for a NaN, and for the objects that are compared by their parts. -/
def PyObj.atom : PyObj → Option Atom
  | .none => some .none
  | .bool b => some (intAtom (if b then 1 else 0))
  | .int n => some (intAtom n)
  | .float x => floatAtom x
  | .str s => some (.str s)
  | .bytes b | .bytearray b => some (.bytes b)
  | .other i => some (.object i.id)
  | .list _ | .tuple _ | .dict _ => Option.none

def sameAtom (a b : PyObj) : Bool := a.atom.isSome && a.atom == b.atom

mutual

/-- `a == b`. -/
def pyEq : PyObj → PyObj → Bool
  | .list xs, .list ys => eqList xs ys
  | .tuple xs, .tuple ys => eqList xs ys
  | .dict es, .dict fs => es.length == fs.length && eqEntries es fs
  | a, b => sameAtom a b

def eqList : List PyObj → List PyObj → Bool
  | [], [] => true
  | x :: xs, y :: ys => pyEq x y && eqList xs ys
  | _, _ => false

/-- Each key of the first dict is in the second one, with an equal value. -/
def eqEntries : List (PyObj × PyObj) → List (PyObj × PyObj) → Bool
  | [], _ => true
  | (k, v) :: es, fs =>
    (match fs.find? fun f => pyEq k f.1 with
      | some f => pyEq v f.2
      | none => false) && eqEntries es fs

end

theorem pyEq_of_atom {a b : PyObj} {x : Atom} (ha : a.atom = some x) :
    pyEq a b = decide (b.atom = some x) := by
  have hsame : pyEq a b = sameAtom a b := by
    cases a with
    | list | tuple | dict => cases ha
    | _ => simp only [pyEq]
  rw [hsame, sameAtom, ha, Option.isSome_some, Bool.true_and, Bool.beq_eq_decide_eq]
  exact decide_eq_decide.mpr eq_comm

@[simp] theorem pyEq_str (s t : PyStr) : pyEq (.str s) (.str t) = decide (s = t) := by
  rw [pyEq_of_atom (x := .str s) rfl]
  simp [PyObj.atom, eq_comm]

@[simp] theorem intAtom_inj {m n : Int} : intAtom m = intAtom n ↔ m = n := by
  have hunit : (2 : Int) ^ binary64.unit ≠ 0 := Int.pow_ne_zero (by decide)
  rw [intAtom, intAtom, Atom.number.injEq, Int.mul_eq_mul_right_iff hunit]

@[simp] theorem pyEq_int (m n : Int) : pyEq (.int m) (.int n) = decide (m = n) := by
  rw [pyEq_of_atom (x := intAtom m) rfl]
  simp [PyObj.atom, eq_comm]

theorem atom_eq_str {a : PyObj} {s : PyStr} : a.atom = some (.str s) ↔ a = .str s := by
  cases a with
  | float x =>
    rw [PyObj.atom, floatAtom]
    split <;> simp
  | _ => simp [PyObj.atom, intAtom]

theorem pyEq_to_atom {a b : PyObj} {x : Atom} (hb : b.atom = some x) :
    pyEq a b = decide (a.atom = some x) := by
  cases ha : a.atom with
  | some y =>
    rw [pyEq_of_atom ha, hb]
    exact decide_eq_decide.mpr eq_comm
  | none =>
    have hsame : pyEq a b = sameAtom a b := by
      cases b with
      | list | tuple | dict => cases hb
      | _ => cases a <;> simp only [pyEq]
    simp [hsame, sameAtom, ha]

theorem pyEq_str_iff {a : PyObj} {s : PyStr} : pyEq a (.str s) = true ↔ a = .str s := by
  rw [pyEq_to_atom (x := .str s) rfl, decide_eq_true_eq, atom_eq_str]

theorem decides_of_atom {k : PyObj} {x : Atom} (hk : k.atom = some x) (k' : PyObj) :
    Assoc.Decides pyEq k k' := by
  constructor
  · intro a ha
    rw [pyEq_to_atom hk, decide_eq_true_eq] at ha
    rw [pyEq_of_atom ha, pyEq_of_atom hk]
  · intro h a
    rw [pyEq_of_atom hk, decide_eq_true_eq] at h
    rw [pyEq_to_atom h, pyEq_to_atom hk]

theorem eqList_iff {xs ys : List PyObj} :
    eqList xs ys = true ↔ List.Forall₂ (fun x y => pyEq x y = true) xs ys := by
  induction xs generalizing ys with
  | nil => cases ys <;> simp [eqList]
  | cons x xs ih => cases ys <;> simp [eqList, ih]

theorem eqEntries_iff {es fs : Entries} :
    eqEntries es fs = true ↔
      ∀ e ∈ es, ∃ f, fs.find? (fun f => pyEq e.1 f.1) = some f ∧ pyEq e.2 f.2 = true := by
  induction es with
  | nil => simp [eqEntries]
  | cons e es ih =>
    rw [eqEntries, Bool.and_eq_true, ih, List.forall_mem_cons]
    refine and_congr_left fun _ => ?_
    cases fs.find? fun f => pyEq e.1 f.1 <;> simp

mutual

def PyObj.hashable : PyObj → Bool
  | .list _ | .dict _ | .bytearray _ => false
  | .tuple xs => allHashable xs
  | _ => true

def allHashable : List PyObj → Bool
  | [] => true
  | x :: xs => x.hashable && allHashable xs

end

def unhashable (k : PyObj) : PyErr := ⟨.typeError, s!"unhashable type: '{k.typeName}'"⟩

def getItem (d : Entries) (key : PyObj) : Option PyObj := Assoc.lookup pyEq d key

/-- The entry under a `str` key. -/
def getStr (d : Entries) (key : String) : Option PyObj := getItem d (.str key)

def setItem (d : Entries) (key value : PyObj) : Except PyErr Entries := do
  require (key.hashable = true) (unhashable key)
  return Assoc.insert pyEq d key value

theorem setItem_eq_ok {d d' : Entries} {key value : PyObj} :
    setItem d key value = .ok d' ↔ key.hashable = true ∧ Assoc.insert pyEq d key value = d' := by
  rw [setItem, bind_eq_ok]
  constructor
  · rintro ⟨_, hreq, hd⟩
    exact ⟨require_eq_ok.mp hreq, Except.ok.inj hd⟩
  · rintro ⟨hkey, rfl⟩
    exact ⟨(), require_eq_ok.mpr hkey, rfl⟩

theorem getStr_insert (d : Entries) (k key : String) (v : PyObj) :
    getStr (Assoc.insert pyEq d (.str k) v) key = if k = key then some v else getStr d key := by
  have hequal : ∀ a, pyEq a (.str k) = true → pyEq a (.str key) = pyEq (.str k) (.str key) := by
    intro a ha
    rw [pyEq_str_iff.mp ha]
  have hother : pyEq (.str k) (.str key) = true → ∀ a, pyEq a (.str key) = pyEq a (.str k) := by
    intro h a
    rw [pyEq_str_iff.mp h]
  have h := Assoc.lookup_insert hequal hother d v
  simpa [getStr, getItem] using h

mutual

/-- Every dict within has hashable keys, no two of them equal. -/
def PyObj.wellFormed : PyObj → Bool
  | .list xs | .tuple xs => allWellFormed xs
  | .dict es =>
    es.all (·.1.hashable) && decide (Assoc.DistinctKeys pyEq es) && entriesWellFormed es
  | _ => true

def allWellFormed : List PyObj → Bool
  | [] => true
  | x :: xs => x.wellFormed && allWellFormed xs

def entriesWellFormed : List (PyObj × PyObj) → Bool
  | [] => true
  | (k, v) :: es => k.wellFormed && v.wellFormed && entriesWellFormed es

end

theorem allWellFormed_iff {xs : List PyObj} :
    allWellFormed xs = true ↔ ∀ x ∈ xs, x.wellFormed = true := by
  induction xs with
  | nil => simp [allWellFormed]
  | cons x xs ih => simp [allWellFormed, ih]

theorem entriesWellFormed_iff {es : Entries} :
    entriesWellFormed es = true ↔
      ∀ e ∈ es, e.1.wellFormed = true ∧ e.2.wellFormed = true := by
  induction es with
  | nil => simp [entriesWellFormed]
  | cons e es ih => simp [entriesWellFormed, ih]

theorem wellFormed_list {xs : List PyObj} :
    (PyObj.list xs).wellFormed = true ↔ ∀ x ∈ xs, x.wellFormed = true := by
  rw [PyObj.wellFormed, allWellFormed_iff]

theorem wellFormed_dict {es : Entries} :
    (PyObj.dict es).wellFormed = true ↔ (∀ e ∈ es, e.1.hashable = true) ∧
      Assoc.DistinctKeys pyEq es ∧ ∀ e ∈ es, e.1.wellFormed = true ∧ e.2.wellFormed = true := by
  rw [PyObj.wellFormed, Bool.and_eq_true, Bool.and_eq_true, entriesWellFormed_iff,
    decide_eq_true_eq, List.all_eq_true, and_assoc]

/-- `y` occurs in `x` at this nesting level, through lists and dicts, keys included. -/
inductive OccursAt : Nat → PyObj → PyObj → Prop where
  | here (x : PyObj) : OccursAt 0 x x
  | item {n : Nat} {x y : PyObj} {xs : List PyObj} (hx : x ∈ xs) (hy : OccursAt n x y) :
      OccursAt (n + 1) (.list xs) y
  | key {n : Nat} {e : PyObj × PyObj} {y : PyObj} {es : Entries} (he : e ∈ es)
      (hy : OccursAt n e.1 y) : OccursAt (n + 1) (.dict es) y
  | value {n : Nat} {e : PyObj × PyObj} {y : PyObj} {es : Entries} (he : e ∈ es)
      (hy : OccursAt n e.2 y) : OccursAt (n + 1) (.dict es) y

theorem OccursAt.trans {n m : Nat} {x y z : PyObj} (hy : OccursAt n x y) (hz : OccursAt m y z) :
    OccursAt (m + n) x z := by
  induction hy with
  | here => exact hz
  | item hx _ ih => exact .item hx (ih hz)
  | key he _ ih => exact .key he (ih hz)
  | value he _ ih => exact .value he (ih hz)

theorem OccursAt.wellFormed {n : Nat} {x y : PyObj} (h : OccursAt n x y)
    (hx : x.wellFormed = true) : y.wellFormed = true := by
  induction h with
  | here => exact hx
  | item hmem _ ih => exact ih (wellFormed_list.mp hx _ hmem)
  | key he _ ih => exact ih ((wellFormed_dict.mp hx).2.2 _ he).1
  | value he _ ih => exact ih ((wellFormed_dict.mp hx).2.2 _ he).2

/-- Lists and dicts are the objects that others occur in. -/
def PyObj.nests : PyObj → Bool
  | .list _ | .dict _ => true
  | _ => false

section Levels

variable {P : Nat → PyObj → Prop}

theorem forall_occursAt_leaf {x : PyObj} (hx : x.nests = false) :
    (∀ n y, OccursAt n x y → P n y) ↔ P 0 x := by
  constructor
  · intro h
    exact h 0 x (.here x)
  · intro h n y hy
    cases hy with
    | here => exact h
    | item | key | value => cases hx

theorem forall_occursAt_list {xs : List PyObj} :
    (∀ n y, OccursAt n (.list xs) y → P n y) ↔
      P 0 (.list xs) ∧ ∀ x ∈ xs, ∀ n y, OccursAt n x y → P (n + 1) y := by
  constructor
  · intro h
    exact ⟨h 0 _ (.here _), fun x hx n y hy => h (n + 1) y (.item hx hy)⟩
  · intro h n y hy
    cases hy with
    | here => exact h.1
    | item hx hy => exact h.2 _ hx _ y hy

theorem forall_occursAt_dict {es : Entries} :
    (∀ n y, OccursAt n (.dict es) y → P n y) ↔
      P 0 (.dict es) ∧ ∀ e ∈ es, (∀ n y, OccursAt n e.1 y → P (n + 1) y) ∧
        ∀ n y, OccursAt n e.2 y → P (n + 1) y := by
  constructor
  · intro h
    exact ⟨h 0 _ (.here _), fun e he =>
      ⟨fun n y hy => h (n + 1) y (.key he hy), fun n y hy => h (n + 1) y (.value he hy)⟩⟩
  · intro h n y hy
    cases hy with
    | here => exact h.1
    | key he hy => exact (h.2 _ he).1 _ y hy
    | value he hy => exact (h.2 _ he).2 _ y hy

end Levels

theorem pyEq_iff_atom {a b : PyObj} (ha : a.atom.isSome = true) :
    pyEq a b = true ↔ a.atom = b.atom := by
  obtain ⟨x, hx⟩ := Option.isSome_iff_exists.mp ha
  rw [pyEq_of_atom hx, decide_eq_true_eq, hx, eq_comm]

theorem distinctKeys_iff_nodup {es : Entries} (h : ∀ e ∈ es, e.1.atom.isSome = true) :
    Assoc.DistinctKeys pyEq es ↔ (es.map (·.1.atom)).Nodup := by
  rw [List.Nodup, List.pairwise_map]
  refine List.Pairwise.iff_of_mem fun {e f} he _ => ?_
  rw [← Bool.not_eq_true, pyEq_iff_atom (h e he)]

end AerospikePy.Python
