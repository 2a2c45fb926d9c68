import AerospikePy.Values.RoundTrip

/-!
# How many entries a map keeps

A conversion inserts the entries of a map one by one into another one, where keys that
were different may be equal. On the way in, equality is that of values, and an integer
from `2 ^ 63` on is another integer's value. On the way out it is `==`, which does not
look at the type of a number.
-/

namespace AerospikePy.Values

open AerospikePy.Core
open AerospikePy.Lib
open AerospikePy.Lib.Fallible
open AerospikePy.Python

variable {rt : Runtime}

/-- Keys that a dict tells apart and a `HashMap` does not. -/
inductive Merged : PyObj → PyObj → Prop where
  | wrapped (a b : Int) (h : a - b = 2 ^ 64 ∨ b - a = 2 ^ 64) : Merged (.int a) (.int b)
  | nan (x : F64) (h : x.datum = .nan) : Merged (.float x) (.float x)

theorem ofInt_eq_iff {a b : Int} (ha : -2 ^ 63 ≤ a ∧ a < 2 ^ 64) (hb : -2 ^ 63 ≤ b ∧ b < 2 ^ 64) :
    Int64.ofInt a = Int64.ofInt b ↔ a = b ∨ a - b = 2 ^ 64 ∨ b - a = 2 ^ 64 := by
  rw [← Int64.toInt_inj, Int64.toInt_ofInt, Int64.toInt_ofInt, Int.bmod_def, Int.bmod_def]
  have hsize : (Int64.size : Int) = 2 ^ 64 := rfl
  rw [hsize]
  split
  · split <;> omega
  · split <;> omega

theorem floatAtom_isSome_iff {x : F64} : (floatAtom x).isSome = true ↔ x.datum ≠ .nan := by
  unfold floatAtom
  split
  · next h => simp [h]
  · next h => simp [h]
  · next h => simp [h]

/-- A dict key and its value. -/
inductive KeyValue : PyObj → Value → Prop where
  | none : KeyValue .none .nil
  | bool (b : Bool) : KeyValue (.bool b) (.bool b)
  | int (n : Int) (hn : -2 ^ 63 ≤ n ∧ n < 2 ^ 64) : KeyValue (.int n) (.int (Int64.ofInt n))
  | float (x : F64) : KeyValue (.float x) (.float (.f64 x.bits))
  | str (s : String) : KeyValue (.str s) (.string s)
  | bytes (b : List UInt8) : KeyValue (.bytes b) (.blob b)

theorem keyValue_of_hashable {room : Nat} {k : PyObj} {v : Value} (hk : k.hashable = true)
    (hv : pyToValueInner rt room k = .ok v) : KeyValue k v := by
  cases room with
  | zero => cases hv
  | succ room =>
    cases k with
    | none => cases hv; exact .none
    | bool b => cases hv; exact .bool b
    | int n =>
      obtain ⟨hn, rfl⟩ := intToValue_eq_ok.mp hv
      exact .int n hn
    | float x => cases hv; exact .float x
    | str s =>
      cases s with
      | utf8 s => cases hv; exact .str s
      | surrogates => cases hv
    | bytes b => cases hv; exact .bytes b
    | bytearray | list | dict => simp [PyObj.hashable] at hk
    | tuple | other => cases hv

theorem ne_of_pyEq {k l : PyObj} (hk : k.atom.isSome = true) (hne : pyEq k l = false) :
    k ≠ l := by
  intro h
  rw [← h, (pyEq_iff_atom hk).mpr rfl] at hne
  cases hne

/-- Keys of one dict have the same value exactly when they are merged. -/
theorem KeyValue.eq_iff {k l : PyObj} {v w : Value} (hv : KeyValue k v) (hw : KeyValue l w)
    (hne : pyEq k l = false) : v = w ↔ Merged k l := by
  -- values of two kinds are different, and equal ones of one kind come from equal keys
  -- except where integers wrap or the key is a NaN
  cases hv with
  | none => cases hw with
    | none => exact absurd rfl (ne_of_pyEq rfl hne)
    | _ => exact iff_of_false nofun nofun
  | bool b => cases hw with
    | bool c => exact iff_of_false (fun h => ne_of_pyEq rfl hne (by cases h; rfl)) nofun
    | _ => exact iff_of_false nofun nofun
  | int a ha => cases hw with
    | int b hb =>
      have hab : a ≠ b := fun h => ne_of_pyEq rfl hne (by rw [h])
      rw [Value.int.injEq, ofInt_eq_iff ha hb, or_iff_right hab]
      exact ⟨.wrapped a b, fun h => by cases h; assumption⟩
    | _ => exact iff_of_false nofun nofun
  | float x => cases hw with
    | float y =>
      constructor
      · intro h
        obtain rfl : x = y := by
          cases x
          cases y
          cases h
          rfl
        refine .nan x (not_not.mp fun hd => ?_)
        exact ne_of_pyEq (k := .float x) (floatAtom_isSome_iff.mpr hd) hne rfl
      · intro h
        cases h
        rfl
    | _ => exact iff_of_false nofun nofun
  | str s => cases hw with
    | str t => exact iff_of_false (fun h => ne_of_pyEq rfl hne (by cases h; rfl)) nofun
    | _ => exact iff_of_false nofun nofun
  | bytes b => cases hw with
    | bytes c => exact iff_of_false (fun h => ne_of_pyEq rfl hne (by cases h; rfl)) nofun
    | _ => exact iff_of_false nofun nofun

/-- No two keys of the dict are merged. -/
def KeptApart (es : Entries) : Prop := es.Pairwise fun e f => ¬ Merged e.1 f.1

theorem length_toHashMap {room : Nat} {es : Entries} {kvs : List (Value × Value)}
    (hwf : (PyObj.dict es).wellFormed = true)
    (hkvs : List.Forall₂ (EntryToValue rt room) es kvs) :
    (toHashMap rt kvs).length = es.length ↔ KeptApart es := by
  obtain ⟨hhash, hdistinct, -⟩ := wellFormed_dict.mp hwf
  rw [toHashMap, (rt.perm _).length_eq, hkvs.length_eq, Assoc.length_ofList_eq_iff]
  refine (pairwise_iff_of_forall₂ hkvs hdistinct ?_).symm
  intro e he f hf kv lw hkv hlw hne
  have hmerged := (keyValue_of_hashable (hhash e he) hkv.1).eq_iff
    (keyValue_of_hashable (hhash f hf) hlw.1) hne
  rw [← hmerged]
  simp

/-- The entries that a dict keeps, wherever in an accepted object it is. -/
theorem dict_entries {room : Nat} {x : PyObj} {v : Value} (hwf : x.wellFormed = true)
    (hv : pyToValueInner rt room x = .ok v) {n : Nat} {es : Entries}
    (hes : OccursAt n x (.dict es)) :
    ∃ m, pyToValueInner rt (room - n) (.dict es) = .ok (.hashMap m) ∧
      (m.length = es.length ↔ KeptApart es) := by
  have haccepted := accepted_iff.mp ⟨v, hv⟩
  have hlevel := (haccepted n _ hes).1
  obtain ⟨w, hw⟩ : ∃ w, pyToValueInner rt (room - n) (.dict es) = .ok w := by
    refine accepted_iff.mpr fun m z hz => ?_
    have hroom := haccepted _ z (hes.trans hz)
    exact ⟨by omega, hroom.2⟩
  obtain ⟨room', hroom⟩ : ∃ room', room - n = room' + 1 := ⟨room - n - 1, by omega⟩
  rw [hroom] at hw ⊢
  obtain ⟨kvs, hkvs, rfl⟩ := pyToValueInner_dict.mp hw
  exact ⟨_, hw, length_toHashMap (hes.wellFormed hwf) hkvs⟩

/-- A map literal is converted as a dict is, with one more level left. -/
theorem pyDictToHashMap_eq_ok {obj : PyObj} {m : List (Value × Value)} :
    pyDictToHashMap rt obj = .ok m ↔
      ∃ es, obj = .dict es ∧ pyToValueInner rt (maxNestingDepth + 2) obj = .ok (.hashMap m) := by
  cases obj with
  | dict es =>
    rw [pyDictToHashMap, pyToValueInner, bind_eq_ok, bind_eq_ok]
    constructor
    · intro h
      obtain ⟨kvs, hkvs, h⟩ := h
      obtain rfl := Except.ok.inj h
      exact ⟨es, rfl, kvs, hkvs, rfl⟩
    · intro h
      obtain ⟨-, -, kvs, hkvs, h⟩ := h
      have hm : toHashMap rt kvs = m := Value.hashMap.inj (Except.ok.inj h)
      exact ⟨kvs, hkvs, by rw [← hm]; rfl⟩
  | _ =>
    refine iff_of_false (fun h => ?_) (by simp)
    cases h

/-- The values directly within a value, the keys of maps included. -/
def parts : Value → List Value
  | .list vs | .multiResult vs => vs
  | .hashMap es | .orderedMap es | .keyValueList es => es.map (·.1) ++ es.map (·.2)
  | _ => []

inductive Within : Value → Value → Prop where
  | here (v : Value) : Within v v
  | part {v u w : Value} (hu : u ∈ parts v) (hw : Within u w) : Within v w

/-- What a key is under `==` once it is a Python object; `none` for a NaN. -/
def keyAtom (rt : Runtime) : Value → Option Atom
  | .nil | .infinity | .wildcard => some .none
  | .bool b => some (intAtom (if b then 1 else 0))
  | .int i => some (intAtom i.toInt)
  | .float f => match floatToPy rt f with
    | .ok x => floatAtom x
    | .error _ => none
  | .string s | .geoJSON s => some (.str s)
  | .blob b | .hll b => some (.bytes b)
  | _ => none

/-- Keys of which a dict keeps one. -/
def Confused (rt : Runtime) (k l : Value) : Prop :=
  (keyAtom rt k).isSome = true ∧ keyAtom rt k = keyAtom rt l

theorem pyEq_of_leaf {a b : PyObj} (ha : a.nests = false) (ht : ∀ xs, a ≠ .tuple xs) :
    pyEq a b = sameAtom a b := by
  cases a with
  | list | dict => cases ha
  | tuple xs => exact absurd rfl (ht xs)
  | _ => simp only [pyEq]

theorem key_converts {k : Value} {y : PyObj} (hk : valueToPy rt k = .ok y)
    (hy : y.hashable = true) :
    y.atom = keyAtom rt k ∧ y.nests = false ∧ ∀ xs, y ≠ .tuple xs := by
  cases k with
  | list vs | multiResult vs =>
    obtain ⟨xs, -, h⟩ := bind_eq_ok.mp hk
    cases h
    simp [PyObj.hashable] at hy
  | hashMap es | orderedMap es =>
    obtain ⟨d, -, h⟩ := bind_eq_ok.mp hk
    cases h
    simp [PyObj.hashable] at hy
  | keyValueList es =>
    obtain ⟨xs, -, h⟩ := bind_eq_ok.mp hk
    cases h
    simp [PyObj.hashable] at hy
  | float f =>
    obtain ⟨x, hx, h⟩ := bind_eq_ok.mp hk
    cases h
    exact ⟨by simp [keyAtom, hx, PyObj.atom], rfl, by simp⟩
  | _ =>
    cases hk
    exact ⟨rfl, rfl, by simp⟩

theorem pyEq_eq_false_iff {k l : Value} {x y : PyObj} (hk : valueToPy rt k = .ok x)
    (hx : x.hashable = true) (hl : valueToPy rt l = .ok y) (hy : y.hashable = true) :
    pyEq x y = false ↔ ¬ Confused rt k l := by
  obtain ⟨hatom, hnests, htuple⟩ := key_converts hk hx
  rw [pyEq_of_leaf hnests htuple, sameAtom, hatom, (key_converts hl hy).1, Confused,
    ← Bool.not_eq_true, Bool.and_eq_true, beq_iff_eq]

theorem length_fillDict {es : List (Value × Value)} {d : Entries} (h : fillDict rt es [] = .ok d) :
    d.length = es.length ↔ es.Pairwise fun e f => ¬ Confused rt e.1 f.1 := by
  obtain ⟨fs, hfs, hhash, rfl⟩ := fillDict_eq_ok.mp h
  show (Assoc.ofList pyEq fs).length = es.length ↔ _
  rw [hfs.length_eq, Assoc.length_ofList_eq_iff]
  refine (pairwise_iff_of_forall₂ (S := fun _ _ => True) hfs.flip ?_ ?_)
  · exact List.pairwise_of_forall fun _ _ => trivial
  · intro f hf f' hf' e e' he he' _
    exact pyEq_eq_false_iff he.1 (hhash f hf) he'.1 (hhash f' hf')

def Converts (rt : Runtime) (v : Value) : Prop := ∃ y, valueToPy rt v = .ok y

theorem pairsToPy_converts {es : List (Value × Value)} {xs : List PyObj}
    (h : pairsToPy rt es = .ok xs) :
    ∀ e ∈ es, Converts rt e.1 ∧ Converts rt e.2 := by
  induction es generalizing xs with
  | nil => simp
  | cons e es ih =>
    obtain ⟨key, hkey, h⟩ := bind_eq_ok.mp h
    obtain ⟨value, hvalue, h⟩ := bind_eq_ok.mp h
    obtain ⟨items, hitems, -⟩ := bind_eq_ok.mp h
    exact List.forall_mem_cons.mpr ⟨⟨⟨key, hkey⟩, ⟨value, hvalue⟩⟩, ih hitems⟩

theorem fillDict_converts {es : List (Value × Value)} {d d' : Entries}
    (h : fillDict rt es d = .ok d') :
    ∀ e ∈ es, Converts rt e.1 ∧ Converts rt e.2 := by
  obtain ⟨fs, hfs, -, -⟩ := fillDict_eq_ok.mp h
  exact forall_of_forall₂ hfs fun e f hf => ⟨⟨f.1, hf.1⟩, ⟨f.2, hf.2⟩⟩

theorem mem_entries {es : List (Value × Value)} {u : Value} {P : Value → Prop}
    (h : ∀ e ∈ es, P e.1 ∧ P e.2) (hu : u ∈ es.map (·.1) ++ es.map (·.2)) : P u := by
  rcases List.mem_append.mp hu with hu | hu
  · obtain ⟨e, he, rfl⟩ := List.mem_map.mp hu
    exact (h e he).1
  · obtain ⟨e, he, rfl⟩ := List.mem_map.mp hu
    exact (h e he).2

/-- The parts of a value that converts convert. -/
theorem parts_convert {v u : Value} (hv : Converts rt v) (hu : u ∈ parts v) :
    Converts rt u := by
  obtain ⟨y, hv⟩ := hv
  cases v with
  | list vs | multiResult vs =>
    obtain ⟨xs, hxs, -⟩ := bind_eq_ok.mp hv
    obtain ⟨x, -, hx⟩ := exists_mem_of_forall₂ (valuesToPy_eq_ok.mp hxs) hu
    exact ⟨x, hx⟩
  | hashMap es | orderedMap es =>
    obtain ⟨d, hd, -⟩ := bind_eq_ok.mp hv
    exact mem_entries (fillDict_converts hd) hu
  | keyValueList es =>
    obtain ⟨xs, hxs, -⟩ := bind_eq_ok.mp hv
    exact mem_entries (pairsToPy_converts hxs) hu
  | _ => cases hu

theorem Within.converts {v w : Value} (h : Within v w) (hv : Converts rt v) :
    Converts rt w := by
  induction h with
  | here => exact hv
  | part hu _ ih => exact ih (parts_convert hv hu)

/-- The entries that a map keeps, wherever in a converted value it is. -/
theorem map_entries {v w : Value} {es : List (Value × Value)}
    (hv : Converts rt v) (hw : Within v w) (hes : w = .hashMap es ∨ w = .orderedMap es) :
    ∃ d, valueToPy rt w = .ok (.dict d) ∧
      (d.length = es.length ↔ es.Pairwise fun e f => ¬ Confused rt e.1 f.1) := by
  obtain ⟨z, hz⟩ := hw.converts hv
  obtain ⟨d, hd, h⟩ : ∃ d, fillDict rt es [] = .ok d ∧ Except.ok (.dict d) = Except.ok z := by
    rcases hes with rfl | rfl
    · exact bind_eq_ok.mp hz
    · exact bind_eq_ok.mp hz
  rw [← h] at hz
  exact ⟨d, hz, length_fillDict hd⟩

/-- At every level, an entry is lost only to a merged key on the way in, and to a
confused one on the way out. -/
theorem entries_kept (rt : Runtime) :
    (∀ x v, x.wellFormed = true → pyToValue rt x = .ok v →
      ∀ n es, OccursAt n x (.dict es) →
        ∃ m, pyToValueInner rt (maxNestingDepth + 1 - n) (.dict es) = .ok (.hashMap m) ∧
          (m.length = es.length ↔ KeptApart es)) ∧
    (∀ es m, (PyObj.dict es).wellFormed = true → pyDictToHashMap rt (.dict es) = .ok m →
      (m.length = es.length ↔ KeptApart es) ∧
      ∀ n fs, OccursAt (n + 1) (.dict es) (.dict fs) →
        ∃ m', pyToValueInner rt (maxNestingDepth + 1 - n) (.dict fs) = .ok (.hashMap m') ∧
          (m'.length = fs.length ↔ KeptApart fs)) ∧
    ∀ v w es, Converts rt v → Within v w → w = .hashMap es ∨ w = .orderedMap es →
      ∃ d, valueToPy rt w = .ok (.dict d) ∧
        (d.length = es.length ↔ es.Pairwise fun e f => ¬ Confused rt e.1 f.1) := by
  refine ⟨fun x v hwf hv n es hes => dict_entries hwf hv hes, fun es m hwf hm => ?_,
    fun v w es hv hw hes => map_entries hv hw hes⟩
  obtain ⟨_, -, hv⟩ := pyDictToHashMap_eq_ok.mp hm
  constructor
  · obtain ⟨kvs, hkvs, h⟩ := pyToValueInner_dict.mp hv
    rw [Value.hashMap.inj h]
    exact length_toHashMap hwf hkvs
  · intro n fs hfs
    have h := dict_entries hwf hv hfs
    rwa [show maxNestingDepth + 2 - (n + 1) = maxNestingDepth + 1 - n by omega] at h

/-- A dict of two entries with another one within, and a map of two entries. -/
theorem entries_kept_small :
    (∃ m m', pyToValue .plain (.dict [(.str "a", .dict [(.int 1, .none), (.str "1", .none)]),
        (.bytes [1], .int 2)]) = .ok (.hashMap m) ∧ m.length = 2 ∧
      pyToValueInner .plain maxNestingDepth (.dict [(.int 1, .none), (.str "1", .none)]) =
        .ok (.hashMap m') ∧ m'.length = 2) ∧
    (∃ m, pyDictToHashMap .plain (.dict [(.int 1, .none), (.str "1", .none)]) = .ok m ∧
      m.length = 2) ∧
    ∃ d, valueToPy .plain (.orderedMap [(.int 1, .nil), (.string "1", .nil)]) = .ok (.dict d) ∧
      d.length = 2 := by
  obtain ⟨hdict, hliteral, hmap⟩ := entries_kept .plain
  have houter : KeptApart [(.str "a", .dict [(.int 1, .none), (.str "1", .none)]),
      (.bytes [1], .int 2)] := List.pairwise_pair.mpr nofun
  have hinner : KeptApart [(.int 1, .none), (.str "1", .none)] := List.pairwise_pair.mpr nofun
  have hwf : (PyObj.dict [(.int 1, .none), (.str "1", .none)]).wellFormed = true := by decide
  refine ⟨?_, ?_, ?_⟩
  · have hlevels := hdict (.dict [(.str "a", .dict [(.int 1, .none), (.str "1", .none)]),
      (.bytes [1], .int 2)]) _ (by decide) rfl
    obtain ⟨m, hm, hlen⟩ := hlevels 0 _ (.here _)
    obtain ⟨m', hm', hlen'⟩ := hlevels 1 [(.int 1, .none), (.str "1", .none)]
      (.value List.mem_cons_self (.here _))
    exact ⟨m, m', hm, hlen.mpr houter, hm', hlen'.mpr hinner⟩
  · exact ⟨_, rfl, (hliteral _ _ hwf rfl).1.mpr hinner⟩
  · obtain ⟨d, hd, hlen⟩ := hmap _ (.orderedMap [(.int 1, .nil), (.string "1", .nil)]) _
      ⟨_, rfl⟩ (.here _) (.inr rfl)
    refine ⟨d, hd, hlen.mpr (List.pairwise_pair.mpr fun h => ?_)⟩
    cases h.2

/-- Two entries become one, either way. -/
theorem entries_lost :
    ((PyObj.dict [(.int (2 ^ 63), .none), (.int (-2 ^ 63), .none)]).wellFormed = true ∧
      pyToValue .plain (.dict [(.int (2 ^ 63), .none), (.int (-2 ^ 63), .none)]) =
        .ok (.hashMap [(.int (Int64.ofInt (-2 ^ 63)), .nil)])) ∧
    Value.int 1 ≠ .bool true ∧
      valueToPy .plain (.orderedMap [(.int 1, .nil), (.bool true, .nil)]) =
        .ok (.dict [(.int 1, .none)]) := by
  have heq : pyEq (.int 1) (.bool true) = true := (pyEq_iff_atom rfl).mpr rfl
  have hfill : fillDict .plain [(.int 1, .nil), (.bool true, .nil)] [] = .ok [(.int 1, .none)] :=
    fillDict_eq_ok.mpr ⟨[(.int 1, .none), (.bool true, .none)],
      .cons ⟨rfl, rfl⟩ (.cons ⟨rfl, rfl⟩ .nil), by simp [PyObj.hashable],
      by simp [Assoc.insertAll, Assoc.insert, heq]⟩
  refine ⟨⟨?_, by rfl⟩, by decide, ?_⟩
  · rw [wellFormed_dict]
    simp [PyObj.hashable, Assoc.DistinctKeys, PyObj.wellFormed]
  · rw [valueToPy, hfill]
    rfl

end AerospikePy.Values
