import AerospikePy.Batch.Handle

/-!
# Rows by user key

`NumpyBatchRecords.get`. The map holds the user keys of the slots and, for a slot without
one, a name made of its position, which is a `str` as any user key may be.
-/

namespace AerospikePy.Batch

open AerospikePy.Core
open AerospikePy.Keys
open AerospikePy.Lib
open AerospikePy.Lib.Fallible
open AerospikePy.Numpy
open AerospikePy.Python
open AerospikePy.Values

/-- `batch_records[index]`: the number of the row that is viewed. -/
def NumpyBatchRecords.item (array : NumpyBatchRecords) (index : PyObj) : Except PyErr Nat := do
  let n := array.rows.length
  let i ← indexOf index
  require (-n ≤ i ∧ i < n) ⟨.indexError, s!"index {i} is out of bounds for axis 0 with size {n}"⟩
  return (if i < 0 then i + n else i).toNat

def notFound (text : String) (available : Nat) : PyErr :=
  ⟨.keyError, s!"key {text} not found in NumpyBatchRecords (available keys: {available})"⟩

def NumpyBatchRecords.get (repr : Repr) (array : NumpyBatchRecords) (key : PyObj) :
    Except PyErr Nat := do
  match ← lookupItem array.map key with
  | some index => array.item index
  | none =>
    let text ← repr key
    throw (notFound text array.map.length)

variable {rt : Runtime} {repr : Repr} {clock : Clock} {p : Platform} {zeros : Zeros}

/-- `f` is the entry of the slot `e`. -/
def SlotEntry (rt : Runtime) (e : BatchRecord Key Record × Nat) (f : PyObj × PyObj) : Prop :=
  mapKey rt e.1 e.2 = .ok f.1 ∧ f.2 = .int e.2

theorem addAllToMap_eq_ok {slots : List (BatchRecord Key Record × Nat)} {keyMap keyMap' : Entries}
    (h : slots.foldlM (addToMap rt) keyMap = .ok keyMap') :
    ∃ es, List.Forall₂ (SlotEntry rt) slots es ∧ keyMap' = Assoc.insertAll pyEq keyMap es := by
  induction slots generalizing keyMap with
  | nil =>
    obtain rfl := Except.ok.inj h
    exact ⟨[], .nil, rfl⟩
  | cons slot slots ih =>
    rw [List.foldlM_cons] at h
    obtain ⟨next, hnext, h⟩ := bind_eq_ok.mp h
    obtain ⟨key, hkey, hset⟩ := bind_eq_ok.mp hnext
    obtain ⟨-, rfl⟩ := setItem_eq_ok.mp hset
    obtain ⟨es, hes, rfl⟩ := ih h
    exact ⟨(key, .int slot.2) :: es, .cons ⟨hkey, rfl⟩ hes, rfl⟩

/-- The name of a slot without a user key. -/
def placeholder (i : Nat) : String := s!"__no_user_key_{i}__"

theorem placeholder_inj {i j : Nat} : placeholder i = placeholder j ↔ i = j := by
  refine ⟨fun h => ?_, fun h => by rw [h]⟩
  have hrepr : i.repr = j.repr := by
    have happend : "__no_user_key_" ++ i.repr ++ "__" = "__no_user_key_" ++ j.repr ++ "__" := h
    rw [String.append_left_inj, String.append_right_inj] at happend
    exact happend
  have hdigits : Nat.toDigits 10 i = Nat.toDigits 10 j := by
    rw [← Nat.toList_repr, ← Nat.toList_repr, hrepr]
  rw [← @Nat.ofDigitChars_ten_toDigits i, hdigits, Nat.ofDigitChars_ten_toDigits]

theorem mapKey_none {br : BatchRecord Key Record} (h : br.key.userKey = none) (i : Nat) :
    mapKey rt br i = .ok (.str (placeholder i)) := by
  unfold mapKey
  rw [h]
  rfl

theorem mapKey_some {br : BatchRecord Key Record} {v : Value} (h : br.key.userKey = some v)
    (i : Nat) : mapKey rt br i = valueToPy rt v := by
  unfold mapKey
  rw [h]

/-- A user key that a caller can have given: an `int`, a `str` or `bytes`. -/
def IsUserKey : Value → Prop
  | .int _ | .string _ | .blob _ => True
  | _ => False

theorem exists_atom {v : Value} (h : IsUserKey v) :
    ∃ k x, valueToPy rt v = .ok k ∧ k.atom = some x ∧ k.hashable = true := by
  cases v with
  | int i => exact ⟨_, _, rfl, rfl, rfl⟩
  | string s => exact ⟨_, _, rfl, rfl, rfl⟩
  | blob b => exact ⟨_, _, rfl, rfl, rfl⟩
  | _ => cases h

theorem userKey_inj {v w : Value} (hv : IsUserKey v) (hw : IsUserKey w) {k l : PyObj}
    (hk : valueToPy rt v = .ok k) (hl : valueToPy rt w = .ok l) (hatom : k.atom = l.atom) :
    v = w := by
  cases v with
  | int i =>
    obtain rfl := Except.ok.inj hk
    cases w with
    | int j =>
      obtain rfl := Except.ok.inj hl
      simpa [PyObj.atom, Int64.toInt_inj] using hatom
    | string | blob =>
      obtain rfl := Except.ok.inj hl
      simp [PyObj.atom, intAtom] at hatom
    | _ => cases hw
  | string s =>
    obtain rfl := Except.ok.inj hk
    cases w with
    | string t =>
      obtain rfl := Except.ok.inj hl
      simpa [PyObj.atom] using hatom
    | int | blob =>
      obtain rfl := Except.ok.inj hl
      simp [PyObj.atom, intAtom] at hatom
    | _ => cases hw
  | blob b =>
    obtain rfl := Except.ok.inj hk
    cases w with
    | blob c =>
      obtain rfl := Except.ok.inj hl
      simpa [PyObj.atom] using hatom
    | int | string =>
      obtain rfl := Except.ok.inj hl
      simp [PyObj.atom, intAtom] at hatom
    | _ => cases hw
  | _ => cases hv

/-- The user keys of a batch: distinct, and of the types of user keys. -/
structure UserKeys (results : Results) : Prop where
  types : ∀ br ∈ results, ∀ v, br.key.userKey = some v → IsUserKey v
  distinct : (results.filterMap (·.key.userKey)).Nodup

theorem UserKeys.index_eq {results : Results} (h : UserKeys results) {i j : Nat}
    {br br' : BatchRecord Key Record} {v : Value} (hi : results[i]? = some br)
    (hj : results[j]? = some br') (hv : br.key.userKey = some v) (hv' : br'.key.userKey = some v) :
    i = j := by
  have hpair := List.pairwise_filterMap.mp h.distinct
  obtain ⟨hli, rfl⟩ := List.getElem?_eq_some_iff.mp hi
  obtain ⟨hlj, rfl⟩ := List.getElem?_eq_some_iff.mp hj
  rcases Nat.lt_trichotomy i j with hlt | heq | hgt
  · exact absurd rfl (List.pairwise_iff_getElem.mp hpair i j hli hlj hlt v hv v hv')
  · exact heq
  · exact absurd rfl (List.pairwise_iff_getElem.mp hpair j i hlj hli hgt v hv' v hv)

/-- The entries of the map before equal keys meet in it. -/
structure Slots (rt : Runtime) (results : Results) (array : NumpyBatchRecords) (es : Entries) :
    Prop where
  length : array.rows.length = results.length
  entries : ∀ (i : Nat) br e, results[i]? = some br → es[i]? = some e → SlotEntry rt (br, i) e
  size : es.length = results.length
  map : array.map = Assoc.insertAll pyEq [] es

theorem exists_slots {results : Results} {d : Dtype} {array : NumpyBatchRecords}
    (h : batchToNumpyPy rt clock p zeros results d = .ok array) :
    ∃ es, Slots rt results array es := by
  obtain ⟨_, -, -, hrows, hmap⟩ := batchToNumpyPy_eq_ok h
  obtain ⟨es, hes, hmap⟩ := addAllToMap_eq_ok hmap
  refine ⟨es, (fillRows_eq_ok hrows).1, fun i br e hbr he => ?_, ?_, hmap⟩
  · have hzip : results.zipIdx[i]? = some (br, i) := by simp [hbr]
    exact rel_of_forall₂ hes hzip he
  · rw [← hes.length_eq, List.length_zipIdx]

namespace Slots

variable {results : Results} {array : NumpyBatchRecords} {es : Entries}

theorem exists_entry (h : Slots rt results array es) {i : Nat} {br : BatchRecord Key Record}
    (hbr : results[i]? = some br) : ∃ k, es[i]? = some (k, .int i) ∧ mapKey rt br i = .ok k := by
  have hi : i < es.length := by
    rw [h.size]
    exact (List.getElem?_eq_some_iff.mp hbr).1
  obtain ⟨hkey, hvalue⟩ := h.entries i br _ hbr (List.getElem?_eq_getElem hi)
  refine ⟨es[i].1, ?_, hkey⟩
  rw [List.getElem?_eq_getElem hi, ← hvalue]

theorem exists_record (h : Slots rt results array es) {i : Nat} {e : PyObj × PyObj}
    (he : es[i]? = some e) : ∃ br, results[i]? = some br ∧ mapKey rt br i = .ok e.1 := by
  have hi : i < results.length := by
    rw [← h.size]
    exact (List.getElem?_eq_some_iff.mp he).1
  exact ⟨results[i], List.getElem?_eq_getElem hi,
    (h.entries i _ e (List.getElem?_eq_getElem hi) he).1⟩

theorem exists_atom_of_mem (h : Slots rt results array es) (hkeys : UserKeys results)
    {e : PyObj × PyObj} (he : e ∈ es) : ∃ x, e.1.atom = some x := by
  obtain ⟨i, hi⟩ := List.mem_iff_getElem?.mp he
  obtain ⟨br, hbr, hkey⟩ := h.exists_record hi
  cases hv : br.key.userKey with
  | some v =>
    rw [mapKey_some hv] at hkey
    obtain ⟨k, x, hk, hx, -⟩ := @exists_atom rt v (hkeys.types br (List.mem_of_getElem? hbr) v hv)
    exact ⟨x, by rwa [← Except.ok.inj (hk.symm.trans hkey)]⟩
  | none =>
    rw [mapKey_none hv] at hkey
    rw [← Except.ok.inj hkey]
    exact ⟨_, rfl⟩

theorem decides (h : Slots rt results array es) (hkeys : UserKeys results) (key : PyObj) :
    ∀ e ∈ es, Assoc.Decides pyEq e.1 key := by
  intro e he
  obtain ⟨x, hx⟩ := h.exists_atom_of_mem hkeys he
  exact decides_of_atom hx key

/-- The last slot under a key is found. -/
theorem get_last (h : Slots rt results array es) (hkeys : UserKeys results) {i : Nat}
    {key k : PyObj} (hhash : key.hashable = true) (hi : es[i]? = some (k, .int i))
    (hk : pyEq k key = true)
    (hlater : ∀ (j : Nat) e, i < j → es[j]? = some e → pyEq e.1 key = false) :
    array.get repr key = .ok i := by
  obtain ⟨hlt, hget⟩ := List.getElem?_eq_some_iff.mp hi
  have hsplit : es = es.take i ++ (k, .int i) :: es.drop (i + 1) := by
    rw [← hget, ← List.drop_eq_getElem_cons hlt, List.take_append_drop]
  have hpost : ∀ f ∈ es.drop (i + 1), pyEq f.1 key = false := by
    intro f hf
    obtain ⟨j, hj⟩ := List.mem_iff_getElem?.mp hf
    rw [List.getElem?_drop] at hj
    exact hlater (i + 1 + j) f (by omega) hj
  have hdec := h.decides hkeys key
  rw [hsplit] at hdec
  have hlookup := Assoc.lookup_insertAll_of_last hdec hk hpost []
  rw [← hsplit, ← h.map] at hlookup
  have hrow : i < array.rows.length := by
    rw [h.length, ← h.size]
    exact hlt
  unfold NumpyBatchRecords.get lookupItem
  rw [require_bind hhash]
  show (match getItem array.map key with | some index => array.item index | none => _) = _
  unfold getItem
  rw [hlookup]
  show NumpyBatchRecords.item array (.int i) = .ok i
  unfold NumpyBatchRecords.item
  rw [indexOf, ok_bind, require_bind ⟨by omega, by omega⟩, if_neg (by omega)]
  rfl

/-- A key that no slot has is not found. -/
theorem get_missing (h : Slots rt results array es) (hkeys : UserKeys results) {key : PyObj}
    (hhash : key.hashable = true) (hno : ∀ e ∈ es, pyEq e.1 key = false) :
    array.get repr key = repr key >>= fun text => .error (notFound text array.map.length) := by
  have hlookup := Assoc.lookup_insertAll_of_fresh (h.decides hkeys key) hno []
  rw [← h.map] at hlookup
  unfold NumpyBatchRecords.get lookupItem
  rw [require_bind hhash]
  show (match getItem array.map key with | some index => array.item index | none => _) = _
  unfold getItem
  rw [hlookup]
  rfl

end Slots

/-- `get` finds every row that has a user key under it, and no row otherwise. A key whose
`repr` fails is not found with that failure. -/
structure FindsByKey (rt : Runtime) (repr : Repr) (results : Results)
    (array : NumpyBatchRecords) : Prop where
  found : ∀ (i : Nat) br v key, results[i]? = some br → br.key.userKey = some v →
    valueToPy rt v = .ok key → array.get repr key = .ok i
  missing : ∀ key, key.hashable = true →
    (∀ br ∈ results, ∀ v k, br.key.userKey = some v → valueToPy rt v = .ok k →
      pyEq k key = false) →
    ∃ e, array.get repr key = .error e ∧ ∀ text, repr key = .ok text → e.kind = .keyError

/-- The name of each slot without a user key is the user key of a later slot. -/
def PlaceholdersTaken (results : Results) : Prop :=
  ∀ (i : Nat) br, results[i]? = some br → br.key.userKey = none →
    ∃ (j : Nat) (later : BatchRecord Key Record), i < j ∧ results[j]? = some later ∧
      later.key.userKey = some (.string (placeholder i))

variable {results : Results} {array : NumpyBatchRecords} {es : Entries}

/-- The name of a slot finds this slot, unless a later one has it for its user key. -/
theorem get_placeholder (h : Slots rt results array es) (hkeys : UserKeys results) {i : Nat}
    {br : BatchRecord Key Record} (hbr : results[i]? = some br) (hnone : br.key.userKey = none)
    (hfree : ∀ (j : Nat) later, i < j → results[j]? = some later →
      later.key.userKey ≠ some (.string (placeholder i))) :
    array.get repr (.str (placeholder i)) = .ok i := by
  obtain ⟨k, hi, hk⟩ := h.exists_entry hbr
  rw [mapKey_none hnone] at hk
  obtain rfl := Except.ok.inj hk
  refine h.get_last hkeys rfl hi (by simp) fun j e hlt he => ?_
  obtain ⟨later, hlater, hkey⟩ := h.exists_record he
  rw [← Bool.not_eq_true, pyEq_str_iff]
  intro heq
  rw [heq] at hkey
  cases hv : later.key.userKey with
  | some v =>
    rw [mapKey_some hv] at hkey
    have hsame : v = .string (placeholder i) := @userKey_inj rt _ _
      (hkeys.types later (List.mem_of_getElem? hlater) v hv) trivial _ _ hkey rfl rfl
    exact hfree j later hlt hlater (by rw [hv, hsame])
  | none =>
    rw [mapKey_none hv] at hkey
    have hsame : placeholder j = placeholder i := by simpa using hkey
    have hindex := placeholder_inj.mp hsame
    omega

theorem placeholdersTaken_of_finds (h : Slots rt results array es) (hkeys : UserKeys results)
    (hfinds : FindsByKey rt repr results array) : PlaceholdersTaken results := by
  intro i br hbr hnone
  by_contra hfree
  have hget : array.get repr (.str (placeholder i)) = .ok i :=
    get_placeholder h hkeys hbr hnone fun j later hlt hlater hv => hfree ⟨j, later, hlt, hlater, hv⟩
  by_cases htaken : ∃ other ∈ results, other.key.userKey = some (.string (placeholder i))
  · obtain ⟨other, hmem, hv⟩ := htaken
    obtain ⟨j, hj⟩ := List.mem_iff_getElem?.mp hmem
    have hother := hfinds.found j other _ _ hj hv rfl
    obtain rfl : i = j := Except.ok.inj (hget.symm.trans hother)
    obtain rfl := Option.some.inj (hbr.symm.trans hj)
    rw [hnone] at hv
    cases hv
  · obtain ⟨e, he, -⟩ := hfinds.missing (.str (placeholder i)) rfl
      fun other hmem v k hv hk => by
        rw [← Bool.not_eq_true, pyEq_str_iff]
        intro hstr
        rw [hstr] at hk
        have hsame : v = .string (placeholder i) :=
          @userKey_inj rt _ _ (hkeys.types other hmem v hv) trivial _ _ hk rfl rfl
        exact htaken ⟨other, hmem, by rw [hv, hsame]⟩
    rw [hget] at he
    cases he

theorem found_of_placeholdersTaken (h : Slots rt results array es) (hkeys : UserKeys results)
    (htaken : PlaceholdersTaken results) {i : Nat} {br : BatchRecord Key Record} {v : Value}
    {key : PyObj} (hbr : results[i]? = some br) (hv : br.key.userKey = some v)
    (hkey : valueToPy rt v = .ok key) : array.get repr key = .ok i := by
  obtain ⟨k, hi, hk⟩ := h.exists_entry hbr
  rw [mapKey_some hv] at hk
  obtain rfl := Except.ok.inj (hkey.symm.trans hk)
  have huser := hkeys.types br (List.mem_of_getElem? hbr) v hv
  obtain ⟨k', x, hk', hx, hhash⟩ := @exists_atom rt v huser
  obtain rfl := Except.ok.inj (hkey.symm.trans hk')
  refine h.get_last hkeys hhash hi (by rw [pyEq_of_atom hx, hx]; simp)
    fun j e hlt he => ?_
  obtain ⟨later, hlater, hlaterKey⟩ := h.exists_record he
  rw [pyEq_to_atom hx, decide_eq_false_iff_not]
  intro heq
  cases hw : later.key.userKey with
  | some w =>
    rw [mapKey_some hw] at hlaterKey
    have hsame : w = v := userKey_inj (hkeys.types later (List.mem_of_getElem? hlater) w hw) huser
      hlaterKey hkey (heq.trans hx.symm)
    have := hkeys.index_eq hbr hlater hv (by rw [hw, hsame])
    omega
  | none =>
    -- the name of slot `j` is taken by a slot after it, which cannot be slot `i`
    rw [mapKey_none hw] at hlaterKey
    obtain ⟨l, other, hjl, hother, hwo⟩ := htaken j later hlater hw
    have hsame : (.string (placeholder j) : Value) = v := @userKey_inj rt _ _ trivial huser _ _
      rfl hkey (by rw [hx, ← heq, ← Except.ok.inj hlaterKey])
    have := hkeys.index_eq hbr hother hv (by rw [hwo, hsame])
    omega

theorem missing_of_placeholdersTaken (h : Slots rt results array es) (hkeys : UserKeys results)
    (htaken : PlaceholdersTaken results) {key : PyObj} (hhash : key.hashable = true)
    (hno : ∀ br ∈ results, ∀ v k, br.key.userKey = some v → valueToPy rt v = .ok k →
      pyEq k key = false) :
    ∃ e, array.get repr key = .error e ∧ ∀ text, repr key = .ok text → e.kind = .keyError := by
  rw [h.get_missing hkeys hhash fun e he => ?_]
  · cases hrepr : repr key with
    | error e => exact ⟨e, rfl, fun text htext => nomatch htext⟩
    | ok text => exact ⟨notFound text array.map.length, rfl, fun _ _ => rfl⟩
  · obtain ⟨i, hi⟩ := List.mem_iff_getElem?.mp he
    obtain ⟨br, hbr, hkey⟩ := h.exists_record hi
    cases hv : br.key.userKey with
    | some v =>
      rw [mapKey_some hv] at hkey
      exact hno br (List.mem_of_getElem? hbr) v _ hv hkey
    | none =>
      rw [mapKey_none hv] at hkey
      obtain ⟨j, later, -, hlater, hlaterKey⟩ := htaken i br hbr hv
      rw [← Except.ok.inj hkey]
      exact hno later (List.mem_of_getElem? hlater) _ _ hlaterKey rfl

/-- The rows are found by their user keys, and by them only, exactly when the name of each
slot without one is the user key of a later slot. -/
theorem get_finds_iff {d : Dtype} (repr : Repr)
    (h : batchToNumpyPy rt clock p zeros results d = .ok array) (hkeys : UserKeys results) :
    FindsByKey rt repr results array ↔ PlaceholdersTaken results := by
  obtain ⟨es, hslots⟩ := exists_slots h
  constructor
  · exact placeholdersTaken_of_finds hslots hkeys
  · intro htaken
    exact ⟨fun i br v key => found_of_placeholdersTaken hslots hkeys htaken,
      fun key => missing_of_placeholdersTaken hslots hkeys htaken⟩

/-- A slot with this user key and no record. -/
def slotOf (userKey : Option Value) : BatchRecord Key Record :=
  ⟨⟨"test", "a", userKey, List.replicate 20 0⟩, none, some .keyNotFoundError, false⟩

def aRepr : Repr := fun _ => .ok "key"

theorem get_finds_mixed :
    let results := [slotOf (some (.int 1)), slotOf (some (.blob [1]))]
    ∃ array, batchToNumpyPy .plain (fun _ => none) .littleEndian newArrays results
        numberAndVector = .ok array ∧ FindsByKey .plain aRepr results array := by
  have hbatch : batchToNumpyPy .plain (fun _ => none) .littleEndian newArrays
      [slotOf (some (.int 1)), slotOf (some (.blob [1]))] numberAndVector =
      .ok ⟨[⟨2, 0, 0, []⟩, ⟨2, 0, 0, []⟩], 0x1000, 16,
        [(.int 1, .int 0), (.bytes [1], .int 1)]⟩ := rfl
  have htaken : PlaceholdersTaken [slotOf (some (.int 1)), slotOf (some (.blob [1]))] := by
    intro i br hbr hnone
    have hmem := List.mem_of_getElem? hbr
    simp only [List.mem_cons, List.not_mem_nil, or_false] at hmem
    rcases hmem with rfl | rfl <;> cases hnone
  refine ⟨_, hbatch, (get_finds_iff aRepr hbatch ⟨?_, by decide⟩).mpr htaken⟩
  intro br hbr v hv
  simp only [List.mem_cons, List.not_mem_nil, or_false] at hbr
  rcases hbr with rfl | rfl
  · obtain rfl := Option.some.inj hv
    trivial
  · obtain rfl := Option.some.inj hv
    trivial

/-- A `str` that is the name of a later slot finds that slot, and the name of a slot that
is nobody's user key finds a row as well. -/
theorem get_placeholder_row :
    let results := [slotOf (some (.string "__no_user_key_1__")), slotOf none, slotOf none]
    ∃ array, batchToNumpyPy .plain (fun _ => none) .littleEndian newArrays results
        numberAndVector = .ok array ∧
      array.get aRepr (.str "__no_user_key_1__") = .ok 1 ∧
      array.get aRepr (.str "__no_user_key_2__") = .ok 2 ∧
      UserKeys results ∧ ¬ FindsByKey .plain aRepr results array := by
  have hget : NumpyBatchRecords.get aRepr ⟨[⟨2, 0, 0, []⟩, ⟨2, 0, 0, []⟩, ⟨2, 0, 0, []⟩], 0x1000, 16,
      [(.str "__no_user_key_1__", .int 1), (.str "__no_user_key_2__", .int 2)]⟩
      (.str "__no_user_key_1__") = .ok 1 := by decide +kernel
  refine ⟨⟨[⟨2, 0, 0, []⟩, ⟨2, 0, 0, []⟩, ⟨2, 0, 0, []⟩], 0x1000, 16,
    [(.str "__no_user_key_1__", .int 1), (.str "__no_user_key_2__", .int 2)]⟩, rfl, hget,
    by decide +kernel, ⟨?_, by decide⟩, fun hfinds => ?_⟩
  · intro br hbr v hv
    simp only [List.mem_cons, List.not_mem_nil, or_false] at hbr
    rcases hbr with rfl | rfl | rfl
    · obtain rfl := Option.some.inj hv
      trivial
    · cases hv
    · cases hv
  · have hfound := hfinds.found 0 _ _ _ rfl rfl rfl
    rw [hget] at hfound
    cases hfound

end AerospikePy.Batch
