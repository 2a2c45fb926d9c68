import AerospikePy.Values.Entries

/-!
# A value that was read and is written back

`value_to_py` and then `py_to_value`. Several variants of a value are one type in Python,
which is written as one of them; what is left are the values whose parts are all of that
one, without keys that Python takes for equal, and not nested too deeply.
-/

namespace AerospikePy.Values

open AerospikePy.Core
open AerospikePy.Lib
open AerospikePy.Lib.Fallible
open AerospikePy.Python

theorem wellFormed_setItem {d d' : Entries} {key value : PyObj}
    (hd : (PyObj.dict d).wellFormed = true) (hkey : key.wellFormed = true)
    (hvalue : value.wellFormed = true) (h : setItem d key value = .ok d') :
    (PyObj.dict d').wellFormed = true := by
  obtain ⟨hhash, rfl⟩ := setItem_eq_ok.mp h
  obtain ⟨hhashes, hdistinct, hparts⟩ := wellFormed_dict.mp hd
  refine wellFormed_dict.mpr ⟨fun e he => ?_, Assoc.distinct_insert hdistinct,
    fun e he => ⟨?_, ?_⟩⟩
  · rcases Assoc.key_mem_insert he with heq | ⟨f, hf, heq⟩
    · exact heq ▸ hhash
    · exact heq ▸ hhashes f hf
  · rcases Assoc.key_mem_insert he with heq | ⟨f, hf, heq⟩
    · exact heq ▸ hkey
    · exact heq ▸ (hparts f hf).1
  · rcases Assoc.mem_insert he with heq | ⟨f, hf, heq⟩
    · exact heq ▸ hvalue
    · exact heq ▸ (hparts f hf).2

section WellFormed

variable {rt : Runtime}

mutual

/-- What is read is an object as Python has it. -/
theorem wellFormed_of_valueToPy : ∀ (v : Value) {y : PyObj}, valueToPy rt v = .ok y →
    y.wellFormed = true
  | .list vs, y, h | .multiResult vs, y, h => by
    rw [valueToPy] at h
    obtain ⟨xs, hxs, heq⟩ := bind_eq_ok.mp h
    obtain rfl := Except.ok.inj heq
    exact wellFormed_list.mpr (wellFormed_of_valuesToPy vs hxs)
  | .hashMap es, y, h | .orderedMap es, y, h => by
    rw [valueToPy] at h
    obtain ⟨d, hd, heq⟩ := bind_eq_ok.mp h
    obtain rfl := Except.ok.inj heq
    exact wellFormed_of_fillDict es rfl hd
  | .keyValueList es, y, h => by
    rw [valueToPy] at h
    obtain ⟨xs, hxs, heq⟩ := bind_eq_ok.mp h
    obtain rfl := Except.ok.inj heq
    exact wellFormed_list.mpr (wellFormed_of_pairsToPy es hxs)
  | .float f, y, h => by
    rw [valueToPy] at h
    obtain ⟨x, -, heq⟩ := bind_eq_ok.mp h
    obtain rfl := Except.ok.inj heq
    rfl
  | .nil, y, h | .bool _, y, h | .int _, y, h | .string _, y, h | .blob _, y, h
  | .geoJSON _, y, h | .hll _, y, h | .infinity, y, h | .wildcard, y, h => by
    rw [valueToPy] at h
    obtain rfl := Except.ok.inj h
    rfl

theorem wellFormed_of_valuesToPy : ∀ (vs : List Value) {xs : List PyObj},
    valuesToPy rt vs = .ok xs → ∀ x ∈ xs, x.wellFormed = true
  | [], xs, h => by
    rw [valuesToPy] at h
    obtain rfl := Except.ok.inj h
    exact nofun
  | v :: vs, xs, h => by
    rw [valuesToPy] at h
    obtain ⟨x, hx, h⟩ := bind_eq_ok.mp h
    obtain ⟨xs', hxs, heq⟩ := bind_eq_ok.mp h
    obtain rfl := Except.ok.inj heq
    exact List.forall_mem_cons.mpr
      ⟨wellFormed_of_valueToPy v hx, wellFormed_of_valuesToPy vs hxs⟩

theorem wellFormed_of_fillDict : ∀ (es : List (Value × Value)) {d d' : Entries},
    (PyObj.dict d).wellFormed = true → fillDict rt es d = .ok d' →
      (PyObj.dict d').wellFormed = true
  | [], d, d', hd, h => by
    rw [fillDict] at h
    obtain rfl := Except.ok.inj h
    exact hd
  | (k, v) :: es, d, d', hd, h => by
    rw [fillDict] at h
    obtain ⟨key, hkey, h⟩ := bind_eq_ok.mp h
    obtain ⟨value, hvalue, h⟩ := bind_eq_ok.mp h
    obtain ⟨d₁, hset, h⟩ := bind_eq_ok.mp h
    have hd₁ := wellFormed_setItem hd (wellFormed_of_valueToPy k hkey)
      (wellFormed_of_valueToPy v hvalue) hset
    exact wellFormed_of_fillDict es hd₁ h

theorem wellFormed_of_pairsToPy : ∀ (es : List (Value × Value)) {xs : List PyObj},
    pairsToPy rt es = .ok xs → ∀ x ∈ xs, x.wellFormed = true
  | [], xs, h => by
    rw [pairsToPy] at h
    obtain rfl := Except.ok.inj h
    exact nofun
  | (k, v) :: es, xs, h => by
    rw [pairsToPy] at h
    obtain ⟨key, hkey, h⟩ := bind_eq_ok.mp h
    obtain ⟨value, hvalue, h⟩ := bind_eq_ok.mp h
    obtain ⟨xs', hxs, heq⟩ := bind_eq_ok.mp h
    obtain rfl := Except.ok.inj heq
    refine List.forall_mem_cons.mpr ⟨?_, wellFormed_of_pairsToPy es hxs⟩
    simp [PyObj.wellFormed, allWellFormed, wellFormed_of_valueToPy k hkey,
      wellFormed_of_valueToPy v hvalue]

end

end WellFormed

mutual

/-- The same value, but for the order in which the hash maps within iterate. -/
inductive Alike : Value → Value → Prop where
  | same (v : Value) : Alike v v
  | list {vs ws : List Value} (h : AlikeValues vs ws) : Alike (.list vs) (.list ws)
  | hashMap {es gs fs : List (Value × Value)} (h : AlikeEntries es gs) (hp : gs.Perm fs) :
      Alike (.hashMap es) (.hashMap fs)

inductive AlikeValues : List Value → List Value → Prop where
  | nil : AlikeValues [] []
  | cons {v w : Value} {vs ws : List Value} (h : Alike v w) (hs : AlikeValues vs ws) :
      AlikeValues (v :: vs) (w :: ws)

inductive AlikeEntries : List (Value × Value) → List (Value × Value) → Prop where
  | nil : AlikeEntries [] []
  | cons {k v w : Value} {es fs : List (Value × Value)} (h : Alike v w)
      (hs : AlikeEntries es fs) : AlikeEntries ((k, v) :: es) ((k, w) :: fs)

end

/-- Entries under one key, with values that are alike. -/
def AlikeEntry (e f : Value × Value) : Prop := e.1 = f.1 ∧ Alike e.2 f.2

theorem alikeValues_iff {vs ws : List Value} : AlikeValues vs ws ↔ List.Forall₂ Alike vs ws := by
  induction vs generalizing ws with
  | nil =>
    rw [List.forall₂_nil_left_iff]
    exact ⟨fun h => by cases h; rfl, fun h => h ▸ .nil⟩
  | cons v vs ih =>
    rw [List.forall₂_cons_left_iff]
    constructor
    · intro h
      cases h with
      | cons h hs => exact ⟨_, _, h, ih.mp hs, rfl⟩
    · intro h
      obtain ⟨w, ws', hw, hws, rfl⟩ := h
      exact .cons hw (ih.mpr hws)

theorem alikeEntries_iff {es fs : List (Value × Value)} :
    AlikeEntries es fs ↔ List.Forall₂ AlikeEntry es fs := by
  induction es generalizing fs with
  | nil =>
    rw [List.forall₂_nil_left_iff]
    exact ⟨fun h => by cases h; rfl, fun h => h ▸ .nil⟩
  | cons e es ih =>
    rw [List.forall₂_cons_left_iff]
    constructor
    · intro h
      cases h with
      | @cons k v w es fs h hs => exact ⟨(k, w), fs, ⟨rfl, h⟩, ih.mp hs, rfl⟩
    · intro h
      obtain ⟨⟨k', w⟩, fs', ⟨hk, hw⟩, hfs, rfl⟩ := h
      obtain ⟨k, v⟩ := e
      obtain rfl : k = k' := hk
      exact .cons hw (ih.mpr hfs)

theorem keys_of_alike {es gs : List (Value × Value)} (h : List.Forall₂ AlikeEntry es gs) :
    es.map (·.1) = gs.map (·.1) := by
  induction h with
  | nil => rfl
  | cons h _ ih => rw [List.map_cons, List.map_cons, ih, h.1]

theorem alike_list {vs : List Value} {w : Value} :
    Alike (.list vs) w ↔ ∃ ws, w = .list ws ∧ List.Forall₂ Alike vs ws := by
  constructor
  · intro h
    cases h with
    | same => exact ⟨vs, rfl, List.forall₂_same.mpr fun v _ => .same v⟩
    | list h => exact ⟨_, rfl, alikeValues_iff.mp h⟩
  · intro h
    obtain ⟨ws, rfl, hws⟩ := h
    exact .list (alikeValues_iff.mpr hws)

theorem alike_hashMap {es : List (Value × Value)} {w : Value} :
    Alike (.hashMap es) w ↔
      ∃ gs fs, w = .hashMap fs ∧ List.Forall₂ AlikeEntry es gs ∧ gs.Perm fs := by
  constructor
  · intro h
    cases h with
    | same => exact ⟨es, es, rfl, List.forall₂_same.mpr fun e _ => ⟨rfl, .same e.2⟩, .refl es⟩
    | hashMap h hp => exact ⟨_, _, rfl, alikeEntries_iff.mp h, hp⟩
  · intro h
    obtain ⟨gs, fs, rfl, hgs, hp⟩ := h
    exact .hashMap (alikeEntries_iff.mpr hgs) hp

inductive WithinAt : Nat → Value → Value → Prop where
  | here (v : Value) : WithinAt 0 v v
  | part {n : Nat} {v u w : Value} (hu : u ∈ parts v) (hw : WithinAt n u w) :
      WithinAt (n + 1) v w

theorem forall_withinAt {P : Nat → Value → Prop} {v : Value} :
    (∀ n w, WithinAt n v w → P n w) ↔
      P 0 v ∧ ∀ u ∈ parts v, ∀ n w, WithinAt n u w → P (n + 1) w := by
  constructor
  · intro h
    exact ⟨h 0 v (.here v), fun u hu n w hw => h (n + 1) w (.part hu hw)⟩
  · intro h n w hw
    cases hw with
    | here => exact h.1
    | part hu hw => exact h.2 _ hu _ w hw

/-- What is asked of a value itself, its parts apart: it is of the variant that its Python
type is written as, and Python tells its keys apart. -/
def Kept (rt : Runtime) : Value → Prop
  | .nil | .bool _ | .int _ | .float (.f64 _) | .string _ | .blob _ | .list _ => True
  | .hashMap es => es.Pairwise fun e f => e.1 ≠ f.1 ∧ ¬ Confused rt e.1 f.1
  | _ => False

variable {rt : Runtime}

theorem pyToValueInner_toInt (room : Nat) (i : Int64) :
    pyToValueInner rt (room + 1) (.int i.toInt) = .ok (.int i) := by
  have hlo := Int64.le_toInt i
  have hhi := Int64.toInt_lt i
  have h := intToValue_eq_ok (n := i.toInt) (v := .int i)
  rw [Int64.ofInt_toInt] at h
  exact h.mpr ⟨⟨hlo, by omega⟩, rfl⟩

/-- The values that keys are written as come back as they are. -/
theorem keyValue_readBack {k y : PyObj} {v : Value} (hv : KeyValue k v)
    (hy : valueToPy rt v = .ok y) (room : Nat) : pyToValueInner rt (room + 1) y = .ok v := by
  cases hv with
  | int n =>
    obtain rfl := Except.ok.inj hy
    exact pyToValueInner_toInt room _
  | none | bool | float | str | bytes =>
    obtain rfl := Except.ok.inj hy
    rfl

/-- A value that a key may be is like itself only. -/
theorem alike_key {k w : Value} {y : PyObj} (hk : valueToPy rt k = .ok y)
    (hy : y.hashable = true) (h : Alike k w) : w = k := by
  cases h with
  | same => rfl
  | list =>
    obtain ⟨xs, -, heq⟩ := bind_eq_ok.mp hk
    cases heq
    simp [PyObj.hashable] at hy
  | hashMap =>
    obtain ⟨d, -, heq⟩ := bind_eq_ok.mp hk
    cases heq
    simp [PyObj.hashable] at hy

section Levels

-- `Q` says of the values one level down which ones come back
variable {room : Nat} {Q : Value → Prop}
  (hdown : ∀ u y, valueToPy rt u = .ok y →
    ((∃ w, pyToValueInner rt room y = .ok w ∧ Alike u w) ↔ Q u))

include hdown in
theorem list_readBack {vs : List Value} {xs : List PyObj}
    (hxs : List.Forall₂ (fun v x => valueToPy rt v = .ok x) vs xs) :
    (∃ w, pyToValueInner rt (room + 1) (.list xs) = .ok w ∧ Alike (.list vs) w) ↔
      ∀ v ∈ vs, Q v := by
  constructor
  · intro h
    obtain ⟨w, hw, halike⟩ := h
    obtain ⟨ws, hws, hlist⟩ := bind_eq_ok.mp hw
    obtain rfl := Except.ok.inj hlist
    obtain ⟨ws', heq, hvs⟩ := alike_list.mp halike
    obtain rfl := Value.list.inj heq
    intro v hv
    obtain ⟨x, w, hx, hback, hsame⟩ :=
      exists_answer_of_forall₂ hxs (mapM_eq_ok.mp hws) hvs v hv
    exact (hdown v x hx).mp ⟨w, hback, hsame⟩
  · intro h
    obtain ⟨ws, hws, hvs⟩ := forall₂_answer hxs fun v hv x hx => (hdown v x hx).mpr (h v hv)
    exact ⟨.list ws, bind_eq_ok.mpr ⟨ws, mapM_eq_ok.mpr hws, rfl⟩, alike_list.mpr ⟨ws, rfl, hvs⟩⟩

theorem keptApart_iff {es : List (Value × Value)} {fs : Entries}
    (hfs : List.Forall₂ (EntryToPy rt) es fs) (hhash : ∀ f ∈ fs, f.1.hashable = true) :
    Assoc.DistinctKeys pyEq fs ↔ es.Pairwise fun e f => ¬ Confused rt e.1 f.1 := by
  rw [← length_fillDict (fillDict_eq_ok.mpr ⟨fs, hfs, hhash, rfl⟩), hfs.length_eq]
  exact Assoc.length_ofList_eq_iff.symm

include hdown in
/-- Entries whose parts come back, under keys that Python tells apart. -/
theorem hashMap_readBack_of_kept {es : List (Value × Value)} {fs : Entries}
    (hfs : List.Forall₂ (EntryToPy rt) es fs) (hhash : ∀ f ∈ fs, f.1.hashable = true)
    (hkept : Kept rt (.hashMap es)) (hparts : ∀ e ∈ es, Q e.1 ∧ Q e.2) :
    ∃ w, pyToValueInner rt (room + 1) (.dict (Assoc.ofList pyEq fs)) = .ok w ∧
      Alike (.hashMap es) w := by
  have hapart : es.Pairwise fun e f => ¬ Confused rt e.1 f.1 := hkept.imp fun h => h.2
  rw [Assoc.ofList_of_distinct ((keptApart_iff hfs hhash).mpr hapart)]
  have hfs' : List.Forall₂ (fun e f => f.1.hashable = true ∧ EntryToPy rt e f) es fs :=
    List.Forall₂.flip ((List.forall₂_and_left _ _).mpr ⟨hhash, hfs.flip⟩)
  have hentry : ∀ e ∈ es, ∀ f, f.1.hashable = true ∧ EntryToPy rt e f →
      ∃ kv, EntryToValue rt room f kv ∧ AlikeEntry e kv := by
    intro e he f hf
    obtain ⟨hhashable, hkey, hvalue⟩ := hf
    obtain ⟨k, hk, halike⟩ := (hdown e.1 f.1 hkey).mpr (hparts e he).1
    obtain ⟨v, hv, hsame⟩ := (hdown e.2 f.2 hvalue).mpr (hparts e he).2
    exact ⟨(k, v), ⟨hk, hv⟩, (alike_key hkey hhashable halike).symm, hsame⟩
  obtain ⟨kvs, hkvs, halike⟩ := forall₂_answer hfs' hentry
  have hdistinct : Assoc.DistinctKeys (fun k l => decide (k = l)) kvs := by
    refine (pairwise_iff_of_forall₂ halike hkept ?_).mp hkept
    intro e _ e' _ kv kv' h h' hne
    refine iff_of_true hne (decide_eq_false ?_)
    rw [← h.1, ← h'.1]
    exact hne.1
  refine ⟨_, pyToValueInner_dict.mpr ⟨kvs, hkvs, rfl⟩, alike_hashMap.mpr ⟨kvs, _, rfl, halike, ?_⟩⟩
  rw [toHashMap, Assoc.ofList_of_distinct hdistinct]
  exact (rt.perm kvs).symm

include hdown in
/-- The other way around: no entry may have been lost, neither in the dict nor in the map that
is made of it, and each key of the map is one that a key is written as. -/
theorem kept_of_hashMap_readBack {es : List (Value × Value)} {fs : Entries} {w : Value}
    (hfs : List.Forall₂ (EntryToPy rt) es fs) (hhash : ∀ f ∈ fs, f.1.hashable = true)
    (hw : pyToValueInner rt (room + 1) (.dict (Assoc.ofList pyEq fs)) = .ok w)
    (halike : Alike (.hashMap es) w) :
    Kept rt (.hashMap es) ∧ ∀ e ∈ es, Q e.1 ∧ Q e.2 := by
  obtain ⟨kvs, hkvs, rfl⟩ := pyToValueInner_dict.mp hw
  obtain ⟨gs, ms, heq, hgs, hperm⟩ := alike_hashMap.mp halike
  obtain rfl := Value.hashMap.inj heq
  have hgs' : gs.Perm (Assoc.ofList (fun k l => decide (k = l)) kvs) := hperm.trans (rt.perm _)
  -- as many entries at the end as at the beginning
  have hdict : (Assoc.ofList pyEq fs).length ≤ fs.length := by
    simpa [Assoc.ofList] using @Assoc.length_insertAll_le _ _ pyEq [] fs
  have hmap : (Assoc.ofList (fun k l => decide (k = l)) kvs).length ≤ kvs.length := by
    simpa [Assoc.ofList] using
      @Assoc.length_insertAll_le _ _ (fun k l => decide (k = l)) [] kvs
  have hlens := hgs.length_eq
  have hlenperm := hgs'.length_eq
  have hlenkvs := hkvs.length_eq
  have hlenfs := hfs.length_eq
  have hdistinct : Assoc.DistinctKeys pyEq fs := Assoc.length_ofList_eq_iff.mp (by omega)
  have hdistinct' : Assoc.DistinctKeys (fun k l => decide (k = l)) kvs :=
    Assoc.length_ofList_eq_iff.mp (by omega)
  rw [Assoc.ofList_of_distinct hdistinct] at hkvs
  rw [Assoc.ofList_of_distinct hdistinct'] at hgs'
  have hnodup : (kvs.map (·.1)).Nodup :=
    List.pairwise_map.mpr (hdistinct'.imp fun h => of_decide_eq_false h)
  have hnodupes : (es.map (·.1)).Nodup := by
    rw [keys_of_alike hgs]
    exact ((hgs'.map _).nodup_iff).mpr hnodup
  constructor
  · exact (List.pairwise_map.mp hnodupes).and ((keptApart_iff hfs hhash).mp hdistinct)
  · intro e he
    obtain ⟨f, hf, hpy⟩ := exists_mem_of_forall₂ hfs he
    obtain ⟨kv, hkv, hvalue⟩ := exists_mem_of_forall₂ hkvs hf
    obtain ⟨g, hg, hsame⟩ := exists_mem_of_forall₂ hgs he
    have hgmem : g ∈ kvs := hgs'.mem_iff.mp hg
    obtain ⟨f', hf', hvalue'⟩ := exists_mem_of_forall₂ hkvs.flip hgmem
    have hwritten : KeyValue f'.1 e.1 := hsame.1 ▸ keyValue_of_hashable (hhash f' hf') hvalue'.1
    have hback : pyToValueInner rt room f.1 = .ok e.1 := by
      cases room with
      | zero => cases hvalue.1
      | succ room => exact keyValue_readBack hwritten hpy.1 room
    have hkey : kv.1 = e.1 := Except.ok.inj (hvalue.1.symm.trans hback)
    have hkvg : kv = g := List.inj_on_of_nodup_map hnodup hkv hgmem (hkey.trans hsame.1)
    exact ⟨(hdown e.1 f.1 hpy.1).mp ⟨e.1, hback, .same _⟩,
      (hdown e.2 f.2 hpy.2).mp ⟨kv.2, hvalue.2, hkvg ▸ hsame.2⟩⟩

end Levels

/-- What is written back of a variant that Python has no type for is of another variant. -/
theorem not_alike_of_not_kept {v w : Value} {x : PyObj} {room : Nat} (hv : ¬ Kept rt v)
    (hmap : ∀ es, v ≠ .hashMap es) (hx : valueToPy rt v = .ok x)
    (hw : pyToValueInner rt (room + 1) x = .ok w) : ¬ Alike v w := by
  intro h
  cases h with
  | list => exact hv trivial
  | hashMap => exact hmap _ rfl
  | same =>
    cases v with
    | nil | bool | int | string | blob | list => exact hv trivial
    | hashMap es => exact hmap es rfl
    | float f =>
      obtain ⟨y, -, hy⟩ := bind_eq_ok.mp hx
      obtain rfl := Except.ok.inj hy
      cases f with
      | f64 bits => exact hv trivial
      | f32 bits => cases hw
    | multiResult vs =>
      obtain ⟨xs, -, hxs⟩ := bind_eq_ok.mp hx
      obtain rfl := Except.ok.inj hxs
      obtain ⟨ws, -, hws⟩ := bind_eq_ok.mp hw
      cases hws
    | keyValueList es =>
      obtain ⟨xs, -, hxs⟩ := bind_eq_ok.mp hx
      obtain rfl := Except.ok.inj hxs
      obtain ⟨ws, -, hws⟩ := bind_eq_ok.mp hw
      cases hws
    | orderedMap es =>
      obtain ⟨d, -, hd⟩ := bind_eq_ok.mp hx
      obtain rfl := Except.ok.inj hd
      obtain ⟨kvs, -, hkvs⟩ := pyToValueInner_dict.mp hw
      cases hkvs
    | geoJSON s | hll b | infinity | wildcard =>
      obtain rfl := Except.ok.inj hx
      cases hw

/-- A kept value without parts comes back. -/
theorem leaf_readBack {v : Value} {x : PyObj} (hv : Kept rt v) (hlist : ∀ vs, v ≠ .list vs)
    (hmap : ∀ es, v ≠ .hashMap es) (hx : valueToPy rt v = .ok x) (room : Nat) :
    pyToValueInner rt (room + 1) x = .ok v ∧ parts v = [] := by
  cases v with
  | list vs => exact absurd rfl (hlist vs)
  | hashMap es => exact absurd rfl (hmap es)
  | int i =>
    obtain rfl := Except.ok.inj hx
    exact ⟨pyToValueInner_toInt room i, rfl⟩
  | float f =>
    cases f with
    | f64 bits =>
      obtain rfl := Except.ok.inj hx
      exact ⟨rfl, rfl⟩
    | f32 bits => exact hv.elim
  | nil | bool | string | blob =>
    obtain rfl := Except.ok.inj hx
    exact ⟨rfl, rfl⟩
  | _ => exact hv.elim

/-- By induction on the levels that are left. -/
theorem readBack_iff_within {room : Nat} {v : Value} {x : PyObj} (hx : valueToPy rt v = .ok x) :
    (∃ w, pyToValueInner rt room x = .ok w ∧ Alike v w) ↔
      ∀ n u, WithinAt n v u → n < room ∧ Kept rt u := by
  induction room generalizing v x with
  | zero =>
    refine iff_of_false (by simp [pyToValueInner]) fun h => ?_
    exact absurd (h 0 v (.here v)).1 (Nat.lt_irrefl 0)
  | succ room ih =>
    -- one level down, both the bound and the level are one less
    have hdown : ∀ u y, valueToPy rt u = .ok y →
        ((∃ w, pyToValueInner rt room y = .ok w ∧ Alike u w) ↔
          ∀ n z, WithinAt n u z → n + 1 < room + 1 ∧ Kept rt z) := by
      intro u y hy
      rw [ih hy]
      simp only [Nat.succ_lt_succ_iff]
    rw [forall_withinAt]
    by_cases hmap : ∃ es, v = .hashMap es
    · obtain ⟨es, rfl⟩ := hmap
      obtain ⟨d, hd, heq⟩ := bind_eq_ok.mp hx
      obtain rfl := Except.ok.inj heq
      obtain ⟨fs, hfs, hhash, rfl⟩ := fillDict_eq_ok.mp hd
      have hparts : ∀ {P : Value → Prop}, (∀ u ∈ parts (.hashMap es), P u) ↔
          ∀ e ∈ es, P e.1 ∧ P e.2 := by
        intro P
        exact ⟨fun h e he => ⟨h e.1 (List.mem_append_left _ (List.mem_map_of_mem he)),
          h e.2 (List.mem_append_right _ (List.mem_map_of_mem he))⟩, fun h u => mem_entries h⟩
      rw [hparts]
      constructor
      · intro h
        obtain ⟨w, hw, halike⟩ := h
        obtain ⟨hkept, hentries⟩ := kept_of_hashMap_readBack hdown hfs hhash hw halike
        exact ⟨⟨Nat.succ_pos room, hkept⟩, hentries⟩
      · intro h
        exact hashMap_readBack_of_kept hdown hfs hhash h.1.2 h.2
    have hmap' : ∀ es, v ≠ .hashMap es := fun es h => hmap ⟨es, h⟩
    by_cases hkept : Kept rt v
    · by_cases hlist : ∃ vs, v = .list vs
      · obtain ⟨vs, rfl⟩ := hlist
        obtain ⟨xs, hxs, heq⟩ := bind_eq_ok.mp hx
        obtain rfl := Except.ok.inj heq
        rw [list_readBack hdown (valuesToPy_eq_ok.mp hxs)]
        simp only [parts, Kept, and_true, Nat.zero_lt_succ, true_and]
      · obtain ⟨hback, hparts⟩ := leaf_readBack hkept (fun vs h => hlist ⟨vs, h⟩) hmap' hx room
        rw [hparts]
        exact iff_of_true ⟨v, hback, .same v⟩
          ⟨⟨Nat.succ_pos room, hkept⟩, List.forall_mem_nil _⟩
    · refine iff_of_false (fun h => ?_) fun h => hkept h.1.2
      obtain ⟨w, hw, halike⟩ := h
      exact not_alike_of_not_kept hkept hmap' hx hw halike

/-- A value that was read is written back as the same value, but for the order within its hash
maps, exactly when each value in it is of the variant that its Python type is written as, with
keys that Python tells apart, and lies within the bound on nesting. -/
theorem written_back_iff (rt : Runtime) (v : Value) (x : PyObj) (hx : valueToPy rt v = .ok x) :
    (∃ w, pyToValue rt x = .ok w ∧ Alike v w) ↔
      ∀ n u, WithinAt n v u → n ≤ maxNestingDepth ∧ Kept rt u := by
  rw [pyToValue, readBack_iff_within hx]
  simp only [Nat.lt_succ_iff]

/-- `[1, {"x": b"\x02"}]`. -/
theorem written_back_iff_list :
    ∃ w, pyToValue .plain (.list [.int 1, .dict [(.str "x", .bytes [2])]]) = .ok w ∧
      Alike (.list [.int 1, .hashMap [(.string "x", .blob [2])]]) w := by
  refine (written_back_iff .plain _ _ rfl).mpr (forall_withinAt.mpr ⟨⟨by decide, trivial⟩, ?_⟩)
  refine List.forall_mem_cons.mpr ⟨?_, List.forall_mem_singleton.mpr ?_⟩
  · exact forall_withinAt.mpr ⟨⟨by decide, trivial⟩, List.forall_mem_nil _⟩
  · refine forall_withinAt.mpr ⟨⟨by decide, List.pairwise_singleton _ _⟩, ?_⟩
    refine List.forall_mem_cons.mpr ⟨?_, List.forall_mem_singleton.mpr ?_⟩
    · exact forall_withinAt.mpr ⟨⟨by decide, trivial⟩, List.forall_mem_nil _⟩
    · exact forall_withinAt.mpr ⟨⟨by decide, trivial⟩, List.forall_mem_nil _⟩

end AerospikePy.Values
