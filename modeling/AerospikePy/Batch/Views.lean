import AerospikePy.Batch.Cache

/-!
# The views of a batch read agree

The views traverse the results one by one and apply rules of their own. Position `i`
is record `i` in all of them, and the dict is what the two positional lists of user keys
and bins make together.
-/

namespace AerospikePy.Batch

open AerospikePy.Core
open AerospikePy.Keys
open AerospikePy.Lib
open AerospikePy.Lib.Fallible
open AerospikePy.Numpy
open AerospikePy.Python
open AerospikePy.Values

variable {rt : Runtime} {repr : Repr} {clock : Clock} {p : Platform} {zeros : Zeros}

/-- The pairs of `zip(keys, slots)` that have a user key and a slot other than `None`. -/
def keyedSlots (results : Results) (keys slots : List PyObj) : Entries :=
  ((results.zip (keys.zip slots)).filter fun e =>
    e.1.key.userKey.isSome && !e.2.2.isNone).map (·.2)

theorem isFound_eq {br : BatchRecord Key Record} {slot : PyObj} (h : slotToPy rt br = .ok slot) :
    isFound br = (br.key.userKey.isSome && !slot.isNone) := by
  rw [Bool.eq_iff_iff, isFound, Bool.and_assoc, Bool.and_eq_true, Bool.and_eq_true,
    Bool.and_eq_true, Bool.not_eq_true', slotToPy_not_none h]

theorem entries_eq_keyedSlots {results : Results} {keys slots : List PyObj} {es : Entries}
    (hkeys : List.Forall₂ (fun br k => userKeyOrNone rt br = .ok k) results keys)
    (hslots : List.Forall₂ (fun br s => slotToPy rt br = .ok s) results slots)
    (hes : List.Forall₂ (EntryOf rt) (results.filter isFound) es) :
    es = keyedSlots results keys slots := by
  induction results generalizing keys slots es with
  | nil => exact List.forall₂_nil_left_iff.mp hes
  | cons br results ih =>
    obtain ⟨key, keys', hkey, hkeys', rfl⟩ := List.forall₂_cons_left_iff.mp hkeys
    obtain ⟨slot, slots', hslot, hslots', rfl⟩ := List.forall₂_cons_left_iff.mp hslots
    have hfound := isFound_eq hslot
    unfold keyedSlots
    rw [List.zip_cons_cons, List.zip_cons_cons]
    by_cases h : isFound br = true
    · rw [List.filter_cons_of_pos h] at hes
      obtain ⟨e, es', he, hes', rfl⟩ := List.forall₂_cons_left_iff.mp hes
      have hfst : e.1 = key := Except.ok.inj (he.1.symm.trans hkey)
      have hsnd : e.2 = slot := Except.ok.inj (he.2.symm.trans hslot)
      rw [List.filter_cons_of_pos (by rwa [← hfound]), List.map_cons, ih hkeys' hslots' hes',
        ← hfst, ← hsnd]
      rfl
    · rw [List.filter_cons_of_neg h] at hes
      rw [List.filter_cons_of_neg (by rwa [← hfound]), ih hkeys' hslots' hes]
      rfl

theorem dict_eq_keyedSlots {results : Results} {d : Entries} {keys slots : List PyObj}
    (hd : batchToDictPy rt results = .ok d) (hkeys : collectUserKeys rt results = .ok keys)
    (hslots : batchToListPy rt results = .ok slots) :
    d = Assoc.ofList pyEq (keyedSlots results keys slots) := by
  obtain ⟨-, es, hes, -, rfl⟩ := batchToDictPy_eq_ok.mp hd
  rw [entries_eq_keyedSlots (mapM_eq_ok.mp hkeys) (mapM_eq_ok.mp hslots) hes]

theorem recordToPyWithKey_eq_ok {record : Record} {keyPy obj : PyObj}
    (h : recordToPyWithKey rt clock record keyPy = .ok obj) :
    ∃ key recordMeta bins, obj = .tuple [key, recordMeta, bins] ∧
      binsToPy rt record = .ok bins := by
  obtain ⟨key, -, h⟩ := bind_eq_ok.mp h
  obtain ⟨bins, hbins, h⟩ := bind_eq_ok.mp h
  exact ⟨key, _, bins, (Except.ok.inj h).symm, hbins⟩

theorem singleBatchRecordToPy_eq_ok {br : BatchRecord Key Record} {wrapper : PyBatchRecord}
    (h : singleBatchRecordToPy rt br = .ok wrapper) :
    wrapper.result = resultOf br ∧ wrapper.recordCell =
      match br.record with
      | some record => .pending record wrapper.key
      | none => .none := by
  obtain ⟨keyPy, -, h⟩ := bind_eq_ok.mp h
  obtain rfl := Except.ok.inj h
  exact ⟨rfl, rfl⟩

/-- The slot of a record against its wrapper. -/
theorem slot_against_record {br : BatchRecord Key Record} {slot obj : PyObj}
    {wrapper : PyBatchRecord} (hwire : ∀ rc, br.resultCode = some rc → FromWire rc)
    (hslot : slotToPy rt br = .ok slot) (hwrapper : singleBatchRecordToPy rt br = .ok wrapper)
    (hrecord : wrapper.record rt clock = .ok obj) :
    (slot.isNone = false ↔ wrapper.result = 0 ∧ obj.isNone = false) ∧
      (slot.isNone = false → ∃ key recordMeta, obj = .tuple [key, recordMeta, slot]) := by
  obtain ⟨hresult, hcell⟩ := singleBatchRecordToPy_eq_ok hwrapper
  rw [slotToPy_not_none hslot, hresult, resultOf_eq_zero_iff hwire]
  obtain ⟨⟨obj', cell⟩, hobj, heq⟩ := bind_eq_ok.mp hrecord
  obtain rfl : obj' = obj := Except.ok.inj heq
  rw [hcell] at hobj
  cases hbody : br.record with
  | none =>
    rw [hbody] at hobj
    cases hobj
    simp [PyObj.isNone]
  | some record =>
    rw [hbody] at hobj
    obtain ⟨_, htuple, heq⟩ := bind_eq_ok.mp hobj
    cases heq
    obtain ⟨key, recordMeta, bins, rfl, hbins⟩ := recordToPyWithKey_eq_ok htuple
    refine ⟨by simp [PyObj.isNone], fun hok => ⟨key, recordMeta, ?_⟩⟩
    -- both are the bins of the same body
    unfold slotToPy at hslot
    rw [if_neg (by simp [hok.1]), hbody] at hslot
    rw [Except.ok.inj (hbins.symm.trans hslot)]

/-- What the views have at the position of one record. -/
structure AtPosition (rt : Runtime) (clock : Clock) (p : Platform) (fields : List FieldInfo)
    (rowPtr : Int) (br : BatchRecord Key Record) (key slot : PyObj) (wrapper item : PyBatchRecord)
    (row : Row) : Prop where
  isKey : userKeyOrNone rt br = .ok key
  isSlot : slotToPy rt br = .ok slot
  isWrapper : singleBatchRecordToPy rt br = .ok wrapper
  isItem : item = wrapper
  isRow : fillRow clock p fields rowPtr br = .ok row
  sameResult : row.resultCode = wrapper.result

theorem iterRecords_eq (h : Handle) : h.iterRecords rt = h.batchRecords rt := by
  unfold Handle.iterRecords
  rw [collect_eq (by dsimp only; omega)]
  rfl

theorem toDict_eq_fresh {results : Results} {s : Session} (hs : Reachable rt repr results s)
    {fate : Fate} {d : Entries}
    (hd : (s.handle.perform rt repr (.view .toDict) fate).1 = .returned (.dict d)) :
    batchToDictPy rt results = .ok d := by
  obtain ⟨rfl, hw⟩ := reachable_whole hs
  obtain ⟨d', hd', heq⟩ := perform_view_returned hw hd
  rwa [Answer.dict.inj (Except.ok.inj heq)] at hd'

theorem mergeToDict_eq_fresh {sessions : List Session} {ds : List Entries}
    (h : List.Forall₂ (fun s d => ∃ results fate, Reachable rt repr results s ∧
      (s.handle.perform rt repr (.view .toDict) fate).1 = .returned (.dict d)) sessions ds) :
    mergeToDict rt (sessions.map (·.handle)) = .ok ds := by
  refine mapM_eq_ok.mpr (List.forall₂_map_left_iff.mpr (h.imp fun s d hd => ?_))
  obtain ⟨results, fate, hs, hd⟩ := hd
  rw [(reachable_whole hs).1]
  exact toDict_eq_fresh hs hd

theorem exists_getElem?_of_length {α : Type} {as : List α} {n i : Nat} (h : as.length = n)
    (hi : i < n) : ∃ a, as[i]? = some a :=
  ⟨as[i], List.getElem?_eq_getElem (h ▸ hi)⟩

/-- The views have one position for each record, and there they have this record. -/
theorem at_position {results : Results} {keys slots : List PyObj}
    {wrappers items : List PyBatchRecord} {d : Dtype} {array : NumpyBatchRecords} {s : Session}
    (hs : Reachable rt repr results s)
    (hkeys : s.handle.allUserKeys rt = .ok keys) (hslots : s.handle.toList rt = .ok slots)
    (hwrappers : s.handle.batchRecords rt = .ok wrappers)
    (hitems : s.handle.iterRecords rt = .ok items)
    (harray : s.handle.toNumpy rt clock p zeros d = .ok array) :
    (keys.length = results.length ∧ slots.length = results.length ∧
      wrappers.length = results.length ∧ items.length = results.length ∧
      array.rows.length = results.length) ∧
    ∃ fields, ∀ i br, results[i]? = some br → ∃ key slot wrapper item row,
      keys[i]? = some key ∧ slots[i]? = some slot ∧ wrappers[i]? = some wrapper ∧
      items[i]? = some item ∧ array.rows[i]? = some row ∧
      AtPosition rt clock p fields (rowAt array.dataPtr array.rowStride i) br key slot wrapper
        item row := by
  obtain ⟨rfl, -⟩ := reachable_whole hs
  rw [iterRecords_eq, hwrappers] at hitems
  obtain rfl := Except.ok.inj hitems
  have hk := mapM_eq_ok.mp hkeys
  have hsl := mapM_eq_ok.mp hslots
  have hw := mapM_eq_ok.mp hwrappers
  obtain ⟨fields, -, -, hrows, -⟩ := batchToNumpyPy_eq_ok harray
  obtain ⟨hlen, hrow⟩ := fillRows_eq_ok hrows
  refine ⟨⟨hk.length_eq.symm, hsl.length_eq.symm, hw.length_eq.symm, hw.length_eq.symm, hlen⟩,
    fields, fun i br hbr => ?_⟩
  have hi : i < s.handle.inner.length := (List.getElem?_eq_some_iff.mp hbr).1
  obtain ⟨key, hkey⟩ := exists_getElem?_of_length hk.length_eq.symm hi
  obtain ⟨slot, hslot⟩ := exists_getElem?_of_length hsl.length_eq.symm hi
  obtain ⟨wrapper, hwrapper⟩ := exists_getElem?_of_length hw.length_eq.symm hi
  obtain ⟨row, hr⟩ := exists_getElem?_of_length hlen hi
  have hfill := hrow i br row hbr hr
  have hsingle := rel_of_forall₂ hw hbr hwrapper
  refine ⟨key, slot, wrapper, wrapper, row, hkey, hslot, hwrapper, hwrapper, hr,
    rel_of_forall₂ hk hbr hkey, rel_of_forall₂ hsl hbr hslot, hsingle, rfl, hfill, ?_⟩
  rw [fillRow_resultCode hfill, (singleBatchRecordToPy_eq_ok hsingle).1]

/-- In every state of a handle, its views agree wherever they succeed. -/
theorem views_agree (rt : Runtime) (repr : Repr) (results : Results)
    (hwire : ∀ br ∈ results, ∀ rc, br.resultCode = some rc → FromWire rc) :
    (∀ s fate d keys slots, Reachable rt repr results s →
      (s.handle.perform rt repr (.view .toDict) fate).1 = .returned (.dict d) →
      s.handle.allUserKeys rt = .ok keys → s.handle.toList rt = .ok slots →
      d = Assoc.ofList pyEq (keyedSlots results keys slots)) ∧
    (∀ s clock slots wrappers (i : Nat) (slot : PyObj) (wrapper : PyBatchRecord) (obj : PyObj),
      Reachable rt repr results s →
      s.handle.toList rt = .ok slots → s.handle.batchRecords rt = .ok wrappers →
      slots[i]? = some slot → wrappers[i]? = some wrapper → wrapper.record rt clock = .ok obj →
      (slot.isNone = false ↔ wrapper.result = 0 ∧ obj.isNone = false) ∧
      (slot.isNone = false → ∃ key recordMeta, obj = .tuple [key, recordMeta, slot])) ∧
    (∀ s clock p zeros dtype keys slots wrappers items array, Reachable rt repr results s →
      s.handle.allUserKeys rt = .ok keys → s.handle.toList rt = .ok slots →
      s.handle.batchRecords rt = .ok wrappers → s.handle.iterRecords rt = .ok items →
      s.handle.toNumpy rt clock p zeros dtype = .ok array →
      (keys.length = results.length ∧ slots.length = results.length ∧
        wrappers.length = results.length ∧ items.length = results.length ∧
        array.rows.length = results.length) ∧
      ∃ fields, ∀ i br, results[i]? = some br → ∃ key slot wrapper item row,
        keys[i]? = some key ∧ slots[i]? = some slot ∧ wrappers[i]? = some wrapper ∧
        items[i]? = some item ∧ array.rows[i]? = some row ∧
        AtPosition rt clock p fields (rowAt array.dataPtr array.rowStride i) br key slot wrapper
          item row) ∧
    ∀ sessions ds, List.Forall₂ (fun s d => ∃ inner fate, Reachable rt repr inner s ∧
        (s.handle.perform rt repr (.view .toDict) fate).1 = .returned (.dict d)) sessions ds →
      mergeToDict rt (sessions.map (·.handle)) = .ok ds := by
  refine ⟨?_, ?_, ?_, ?_⟩
  · intro s fate d keys slots hs hd hkeys hslots
    obtain ⟨hinner, -⟩ := reachable_whole hs
    unfold Handle.allUserKeys at hkeys
    unfold Handle.toList at hslots
    rw [hinner] at hkeys hslots
    exact dict_eq_keyedSlots (toDict_eq_fresh hs hd) hkeys hslots
  · intro s clock slots wrappers i slot wrapper obj hs hslots hwrappers hslot hwrapper hobj
    obtain ⟨rfl, -⟩ := reachable_whole hs
    have hsl := mapM_eq_ok.mp hslots
    have hw := mapM_eq_ok.mp hwrappers
    have hi : i < s.handle.inner.length := by
      rw [hsl.length_eq]
      exact (List.getElem?_eq_some_iff.mp hslot).1
    have hbr : s.handle.inner[i]? = some s.handle.inner[i] := List.getElem?_eq_getElem hi
    exact slot_against_record (hwire _ (List.getElem_mem hi)) (rel_of_forall₂ hsl hbr hslot)
      (rel_of_forall₂ hw hbr hwrapper) hobj
  · intro s clock p zeros dtype keys slots wrappers items array hs hkeys hslots hwrappers hitems
      harray
    exact at_position hs hkeys hslots hwrappers hitems harray
  · intro sessions ds h
    exact mergeToDict_eq_fresh h

def bodyOf (n : Int64) : Record := ⟨none, [("n", .int n)], 1, 0, by simp⟩

/-- A found record, one with a body and an error, and one without a user key. -/
def threeSlots : Results :=
  [⟨⟨"test", "a", some (.int 1), List.replicate 20 0⟩, some (bodyOf 7), some .ok, false⟩,
    ⟨⟨"test", "a", some (.int 2), List.replicate 20 1⟩, some (bodyOf 8), some (.unknown 99), false⟩,
    ⟨⟨"test", "a", none, List.replicate 20 2⟩, some (bodyOf 9), none, false⟩]

theorem views_agree_threeSlots :
    [(.int 1, .dict [(.str "n", .int 7)])] = Assoc.ofList pyEq (keyedSlots threeSlots
      [.int 1, .int 2, .none]
      [.dict [(.str "n", .int 7)], .none, .dict [(.str "n", .int 9)]]) := by
  refine (views_agree .plain someRepr threeSlots ?_).1 (start threeSlots) .completes _ _ _
    (reachable_start threeSlots) ?_ rfl rfl
  · intro br hbr rc hrc code hcode listed hlisted
    subst hcode
    have hcode : code = 99 := by
      simp only [threeSlots, List.mem_cons, List.not_mem_nil, or_false] at hbr
      rcases hbr with rfl | rfl | rfl
      · cases hrc
      · exact ResultCode.unknown.inj (Option.some.inj hrc) ▸ rfl
      · cases hrc
    rw [hcode]
    cases listed with
    | unknown c => exact absurd rfl (hlisted c)
    | _ => decide
  · rfl

end AerospikePy.Batch
