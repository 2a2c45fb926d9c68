import AerospikePy.Values.Convert
import Mathlib.Data.List.Nodup
import Mathlib.Data.List.Perm.Basic

/-!
# What `py_to_value` accepts, and what comes back

Acceptance is decided object by object: each object within must be storable, and none
may lie deeper than the bound. What is accepted without loss of integers comes back
equal, though a map comes back in the order in which the `HashMap` iterates.
-/

namespace AerospikePy.Values

open AerospikePy.Core
open AerospikePy.Lib
open AerospikePy.Lib.Fallible
open AerospikePy.Python

variable {rt : Runtime}

/-- What conversion asks of an object itself, its parts apart. -/
def Storable : PyObj → Prop
  | .int n => -2 ^ 63 ≤ n ∧ n < 2 ^ 64
  | .str (.surrogates _) => False
  | .tuple _ | .other _ => False
  | _ => True

theorem extractString_succeeds {s : PyStr} :
    (∃ t, extractString (.str s) = .ok t) ↔ Storable (.str s) := by
  cases s with
  | utf8 s => exact iff_of_true ⟨s, rfl⟩ trivial
  | surrogates points => exact iff_of_false (by simp [extractString]) id

theorem leaf_accepted {room : Nat} {x : PyObj} (hx : x.nests = false) :
    (∃ v, pyToValueInner rt (room + 1) x = .ok v) ↔ Storable x := by
  cases x with
  | list | dict => cases hx
  | none | bool | float | bytes | bytearray => exact iff_of_true ⟨_, rfl⟩ trivial
  | int n =>
    constructor
    · intro h
      obtain ⟨v, hv⟩ := h
      exact (intToValue_eq_ok.mp hv).1
    · intro h
      exact ⟨_, intToValue_eq_ok.mpr ⟨h, rfl⟩⟩
  | str s =>
    rw [← extractString_succeeds]
    constructor
    · intro h
      obtain ⟨v, hv⟩ := h
      obtain ⟨t, ht, -⟩ := bind_eq_ok.mp hv
      exact ⟨t, ht⟩
    · intro h
      obtain ⟨t, ht⟩ := h
      exact ⟨.string t, bind_eq_ok.mpr ⟨t, ht, rfl⟩⟩
  | tuple | other => exact iff_of_false (by simp [pyToValueInner]) id

theorem list_accepted {room : Nat} {xs : List PyObj} :
    (∃ v, pyToValueInner rt (room + 1) (.list xs) = .ok v) ↔
      ∀ x ∈ xs, ∃ v, pyToValueInner rt room x = .ok v := by
  rw [← exists_mapM_eq_ok, pyToValueInner]
  constructor
  · intro h
    obtain ⟨v, hv⟩ := h
    obtain ⟨values, hvalues, -⟩ := bind_eq_ok.mp hv
    exact ⟨values, hvalues⟩
  · intro h
    obtain ⟨values, hvalues⟩ := h
    exact ⟨.list values, bind_eq_ok.mpr ⟨values, hvalues, rfl⟩⟩

theorem dict_accepted {room : Nat} {es : Entries} :
    (∃ v, pyToValueInner rt (room + 1) (.dict es) = .ok v) ↔
      ∀ e ∈ es, (∃ v, pyToValueInner rt room e.1 = .ok v) ∧
        ∃ v, pyToValueInner rt room e.2 = .ok v := by
  constructor
  · intro h
    obtain ⟨v, hv⟩ := h
    obtain ⟨kvs, hkvs, -⟩ := pyToValueInner_dict.mp hv
    exact forall_of_forall₂ hkvs fun e kv hkv => ⟨⟨kv.1, hkv.1⟩, ⟨kv.2, hkv.2⟩⟩
  · intro h
    have hentry : ∀ e ∈ es, ∃ kv, EntryToValue rt room e kv := by
      intro e he
      obtain ⟨⟨k, hk⟩, ⟨v, hv⟩⟩ := h e he
      exact ⟨(k, v), hk, hv⟩
    obtain ⟨kvs, hkvs⟩ := exists_forall₂_of_forall hentry
    exact ⟨_, pyToValueInner_dict.mpr ⟨kvs, hkvs, rfl⟩⟩

theorem accepted_iff {room : Nat} {x : PyObj} :
    (∃ v, pyToValueInner rt room x = .ok v) ↔
      ∀ n y, OccursAt n x y → n < room ∧ Storable y := by
  induction room generalizing x with
  | zero =>
    refine iff_of_false (by simp [pyToValueInner]) fun h => ?_
    exact absurd (h 0 x (.here x)).1 (Nat.lt_irrefl 0)
  | succ room ih =>
    -- one level down, both the bound and the level are one less
    have hdown : ∀ y : PyObj, (∃ v, pyToValueInner rt room y = .ok v) ↔
        ∀ n z, OccursAt n y z → n + 1 < room + 1 ∧ Storable z := by
      intro y
      rw [ih]
      simp only [Nat.succ_lt_succ_iff]
    cases hx : x.nests with
    | false =>
      rw [leaf_accepted hx, forall_occursAt_leaf hx]
      simp
    | true =>
      cases x with
      | list xs =>
        rw [list_accepted, forall_occursAt_list]
        simp only [hdown, Storable, and_true, Nat.zero_lt_succ, true_and]
      | dict es =>
        rw [dict_accepted, forall_occursAt_dict]
        simp only [hdown, Storable, and_true, Nat.zero_lt_succ, true_and]
      | _ => cases hx

/-- An integer within 63 bits, and no NaN: what the way there and back leaves as it is. -/
def Exact : PyObj → Prop
  | .int n => -2 ^ 63 ≤ n ∧ n < 2 ^ 63
  | .float x => x.datum ≠ .nan
  | _ => True

theorem leaf_roundTrip {room : Nat} {x : PyObj} {v : Value} (hx : x.nests = false)
    (hv : pyToValueInner rt (room + 1) x = .ok v) (hexact : Exact x) :
    ∃ y, valueToPy rt v = .ok y ∧ y.hashable = true ∧ y.atom = x.atom ∧
      x.atom.isSome = true := by
  cases x with
  | list | dict => cases hx
  | none | bool | bytes | bytearray =>
    obtain rfl := Except.ok.inj hv
    exact ⟨_, rfl, rfl, rfl, rfl⟩
  | int n =>
    obtain ⟨-, rfl⟩ := intToValue_eq_ok.mp hv
    have hn : (Int64.ofInt n).toInt = n := Int64.toInt_ofInt_of_le hexact.1 hexact.2
    exact ⟨.int n, by rw [valueToPy, hn], rfl, rfl, rfl⟩
  | float x =>
    obtain rfl := Except.ok.inj hv
    refine ⟨.float x, rfl, rfl, rfl, ?_⟩
    show (floatAtom x).isSome = true
    unfold floatAtom
    split
    · next hd => exact absurd hd hexact
    · rfl
    · rfl
  | str s =>
    obtain ⟨t, ht, hv⟩ := bind_eq_ok.mp hv
    obtain rfl := Except.ok.inj hv
    cases s with
    | utf8 s =>
      obtain rfl := Except.ok.inj ht
      exact ⟨.str s, rfl, rfl, rfl, rfl⟩
    | surrogates => cases ht
  | tuple | other => cases hv

/-- `f` is what comes back of the entry `e`. -/
structure ComesBack (e f : PyObj × PyObj) : Prop where
  hashable : f.1.hashable = true
  isSome : e.1.atom.isSome = true
  atom : f.1.atom = e.1.atom
  value : pyEq f.2 e.2 = true

theorem leaf_of_hashable {room : Nat} {x : PyObj} {v : Value} (hx : x.hashable = true)
    (hv : pyToValueInner rt (room + 1) x = .ok v) : x.nests = false := by
  cases x with
  | list | dict => simp [PyObj.hashable] at hx
  | _ => rfl

/-- An entry whose value comes back comes back, its key being without parts. -/
theorem entry_roundTrip {room : Nat} {e : PyObj × PyObj} {kv : Value × Value}
    (hkv : EntryToValue rt room e kv) (hhash : e.1.hashable = true) (hkey : Exact e.1)
    (hvalue : ∃ y, valueToPy rt kv.2 = .ok y ∧ pyEq y e.2 = true) :
    ∃ f, EntryToPy rt kv f ∧ ComesBack e f := by
  obtain ⟨hk, -⟩ := hkv
  cases room with
  | zero => simp [pyToValueInner] at hk
  | succ room =>
    obtain ⟨k, hback, hkhash, hatom, hsome⟩ := leaf_roundTrip (leaf_of_hashable hhash hk) hk hkey
    obtain ⟨y, hy, heq⟩ := hvalue
    exact ⟨(k, y), ⟨hback, hy⟩, ⟨hkhash, hsome, hatom, heq⟩⟩

/-- Keys that come back are told apart by the values they went through. -/
theorem distinct_values {room : Nat} {es : Entries} {kvs : List (Value × Value)}
    (hkvs : List.Forall₂ (EntryToValue rt room) es kvs)
    (hback : ∀ e ∈ es, ∀ kv, EntryToValue rt room e kv → ∃ f, EntryToPy rt kv f ∧ ComesBack e f)
    (hdistinct : Assoc.DistinctKeys pyEq es) :
    Assoc.DistinctKeys (fun k l => decide (k = l)) kvs := by
  refine (pairwise_iff_of_forall₂ hkvs hdistinct ?_).mp hdistinct
  intro e he e' he' kv kv' hkv hkv' hne
  refine iff_of_true hne (decide_eq_false fun heq => ?_)
  obtain ⟨f, hf, hcome⟩ := hback e he kv hkv
  obtain ⟨f', hf', hcome'⟩ := hback e' he' kv' hkv'
  -- equal values would come back as one object, equal to both keys
  have hsame : f.1 = f'.1 := Except.ok.inj (by rw [← hf.1, ← hf'.1, heq])
  have hatoms : e.1.atom = e'.1.atom := by rw [← hcome.atom, ← hcome'.atom, hsame]
  rw [(pyEq_iff_atom hcome.isSome).mpr hatoms] at hne
  cases hne

/-- Entries that come back in any order make an equal dict. -/
theorem pyEq_dict_of_comesBack {es es' fs : Entries} (hperm : es'.Perm es)
    (hdistinct : Assoc.DistinctKeys pyEq es) (hback : List.Forall₂ ComesBack es' fs) :
    Assoc.DistinctKeys pyEq fs ∧ pyEq (.dict fs) (.dict es) = true := by
  have hsome' : ∀ e ∈ es', e.1.atom.isSome = true :=
    forall_of_forall₂ hback fun e f h => h.isSome
  have hsome : ∀ e ∈ es, e.1.atom.isSome = true := fun e he => hsome' e (hperm.mem_iff.mpr he)
  have hatoms : fs.map (·.1.atom) = es'.map (·.1.atom) := by
    clear hperm hsome' hdistinct
    induction hback with
    | nil => rfl
    | cons hef _ ih => rw [List.map_cons, List.map_cons, ih, hef.atom]
  have hnodup : (es.map (·.1.atom)).Nodup := (distinctKeys_iff_nodup hsome).mp hdistinct
  have hcome : ∀ f ∈ fs, ∃ e ∈ es, ComesBack e f := by
    intro f hf
    obtain ⟨e, he, hef⟩ := exists_mem_of_forall₂ hback.flip hf
    exact ⟨e, hperm.mem_iff.mp he, hef⟩
  constructor
  · have hsomef : ∀ f ∈ fs, f.1.atom.isSome = true := by
      intro f hf
      obtain ⟨e, he, hef⟩ := hcome f hf
      rw [hef.atom]
      exact hsome e he
    rw [distinctKeys_iff_nodup hsomef, hatoms]
    exact ((hperm.map _).nodup_iff).mpr hnodup
  · have hlen : fs.length = es.length := by rw [← hback.length_eq, hperm.length_eq]
    rw [pyEq, hlen, beq_self_eq_true, Bool.true_and, eqEntries_iff]
    intro f hf
    obtain ⟨e, he, hef⟩ := hcome f hf
    have hfsome : f.1.atom.isSome = true := by
      rw [hef.atom]
      exact hsome e he
    cases hfind : es.find? fun g => pyEq f.1 g.1 with
    | none =>
      have hno := List.find?_eq_none.mp hfind e he
      rw [(pyEq_iff_atom hfsome).mpr hef.atom] at hno
      exact absurd rfl hno
    | some g =>
      have hfound : pyEq f.1 g.1 = true :=
        List.find?_some (p := fun g : PyObj × PyObj => pyEq f.1 g.1) hfind
      have hg := (pyEq_iff_atom hfsome).mp hfound
      have hge : g = e := List.inj_on_of_nodup_map hnodup (List.mem_of_find?_eq_some hfind) he
        (by rw [← hg, hef.atom])
      exact ⟨g, rfl, by rw [hge]; exact hef.value⟩

theorem roundTrip {room : Nat} {x : PyObj} {v : Value} (hwf : x.wellFormed = true)
    (hexact : ∀ n y, OccursAt n x y → Exact y) (hv : pyToValueInner rt room x = .ok v) :
    ∃ y, valueToPy rt v = .ok y ∧ pyEq y x = true := by
  induction room generalizing x v with
  | zero => simp [pyToValueInner] at hv
  | succ room ih =>
    cases hx : x.nests with
    | false =>
      obtain ⟨y, hy, -, hatom, hsome⟩ :=
        leaf_roundTrip hx hv ((forall_occursAt_leaf hx).mp hexact)
      exact ⟨y, hy, (pyEq_iff_atom (by rw [hatom]; exact hsome)).mpr hatom⟩
    | true =>
      cases x with
      | list xs =>
        obtain ⟨values, hvalues, hv⟩ := bind_eq_ok.mp hv
        obtain rfl := Except.ok.inj hv
        have hparts := (forall_occursAt_list.mp hexact).2
        obtain ⟨ys, hys, heq⟩ := forall₂_answer (mapM_eq_ok.mp hvalues) fun x hx v hv =>
          ih (wellFormed_list.mp hwf x hx) (hparts x hx) hv
        refine ⟨.list ys, ?_, ?_⟩
        · rw [valueToPy, valuesToPy_eq_ok.mpr hys]
          rfl
        · rw [pyEq, eqList_iff]
          exact heq.flip
      | dict es =>
        obtain ⟨kvs, hkvs, rfl⟩ := pyToValueInner_dict.mp hv
        obtain ⟨hhash, hdistinct, hwfs⟩ := wellFormed_dict.mp hwf
        have hparts := (forall_occursAt_dict.mp hexact).2
        have hback : ∀ e ∈ es, ∀ kv, EntryToValue rt room e kv →
            ∃ f, EntryToPy rt kv f ∧ ComesBack e f := fun e he kv hkv =>
          entry_roundTrip hkv (hhash e he) ((hparts e he).1 0 _ (.here _))
            (ih (hwfs e he).2 (hparts e he).2 hkv.2)
        -- no key is merged, so the map iterates over a permutation of the entries
        rw [toHashMap, Assoc.ofList_of_distinct (distinct_values hkvs hback hdistinct)]
        obtain ⟨es', hes', hperm⟩ := List.perm_comp_forall₂ (rt.perm kvs) hkvs.flip
        have hes'' : List.Forall₂ (EntryToValue rt room) es' (rt.order kvs) := hes'.flip
        obtain ⟨fs, hfs, hcome⟩ := forall₂_answer hes'' fun e he kv hkv =>
          hback e (hperm.mem_iff.mp he) kv hkv
        obtain ⟨hdist, heq⟩ := pyEq_dict_of_comesBack hperm hdistinct hcome
        have hall : ∀ f ∈ fs, f.1.hashable = true := by
          intro f hf
          obtain ⟨e, -, hef⟩ := exists_mem_of_forall₂ hcome.flip hf
          exact hef.hashable
        refine ⟨.dict fs, ?_, heq⟩
        rw [valueToPy, fillDict_eq_ok.mpr ⟨fs, hfs, hall, rfl⟩]
        show Except.ok (PyObj.dict (Assoc.ofList pyEq fs)) = _
        rw [Assoc.ofList_of_distinct hdist]
      | _ => cases hx

end AerospikePy.Values
