import Mathlib.Data.List.Dedup
import AerospikePy.Batch.Records
import AerospikePy.Operations.Convert

/-!
# Ordered results

`operate_ordered` lists the bins of the record that the crate answers with. The crate
collects the results of the operations in a map from bin names to values, so that the
list has the order in which the map iterates and one entry for each bin.
-/

namespace AerospikePy.Operations

open AerospikePy.Batch
open AerospikePy.Core
open AerospikePy.Keys
open AerospikePy.Lib.Fallible
open AerospikePy.Python
open AerospikePy.Values

variable (rt : Runtime) (debug : Value → String) (clock : Clock)

/-- The dict of `record_to_meta`. -/
def recordToMeta (record : Record) : PyObj :=
  .dict [(.str "gen", .int record.generation.toNat),
    (.str "ttl", .int (recordTtlSeconds clock record).toNat)]

/-- `(name, value)` for each bin, as the map of the bins iterates. -/
def binItems (bins : List (String × Value)) : Except PyErr (List PyObj) :=
  bins.mapM fun (name, value) => do
    let v ← valueToPy rt value
    return .tuple [.str name, v]

def orderedKeyToPy (record : Record) (keyPy : PyObj) : Except PyErr PyObj :=
  match record.key with
  | some key => keyToPy rt key
  | none => .ok keyPy

/-- The conversion of a `PendingOrderedRecord`. -/
def pendingOrderedRecordToPy (record : Record) (keyPy : PyObj) : Except PyErr PyObj := do
  let keyPy ← orderedKeyToPy rt record keyPy
  let items ← binItems rt record.bins
  return .tuple [keyPy, recordToMeta clock record, .list items]

/-- `operate_ordered` for a key that converts to `preKeyPy`. `operate` is the crate's, under
the key and the policy of the call; the sync client writes the conversion out. -/
def operateOrdered (operate : List Operation → Except PyErr Record) (opsList : List PyObj)
    (preKeyPy : PyObj) : Except PyErr PyObj := do
  let (ops, _) ← pyOpsToRustChecked rt debug opsList
  let record ← operate ops
  pendingOrderedRecordToPy rt clock record preKeyPy

def Operation.bin? : Operation → Option String
  | .getBin name | .list name _ | .map name _ | .hll name _ | .bit name _ => some name
  | .put bin | .add bin | .append bin | .prepend bin => some bin.name
  | .get | .touch | .delete => none

/-- One result for each operation that bears one, under the bin of the operation. -/
def Answers (bearing : Operation → Bool) (ops : List Operation)
    (answers : List (String × Value)) : Prop :=
  List.Forall₂ (fun op a => op.bin? = some a.1) (ops.filter bearing) answers

def resultsOf (answers : List (String × Value)) (name : String) : List Value :=
  (answers.filter fun a => a.1 = name).map (·.2)

/-- A bin with one result holds it, and several are collected into one value. -/
def binValue (collect : List Value → Value) : List Value → Value
  | [v] => v
  | vs => collect vs

/-- The record holds the collected results, in whatever order its map iterates. -/
structure Collects (collect : List Value → Value) (answers : List (String × Value))
    (record : Record) : Prop where
  names : ∀ name, name ∈ record.bins.map (·.1) ↔ name ∈ answers.map (·.1)
  values : ∀ b ∈ record.bins, b.2 = binValue collect (resultsOf answers b.1)

/-- `item` is the pair of the bin and the result of `a`. -/
def PairOf (rt : Runtime) (a : String × Value) (item : PyObj) : Prop :=
  ∃ v, valueToPy rt a.2 = .ok v ∧ item = .tuple [.str a.1, v]

variable {rt debug clock}

theorem binItems_eq_ok {bins : List (String × Value)} {items : List PyObj} :
    binItems rt bins = .ok items ↔ List.Forall₂ (PairOf rt) bins items := by
  unfold binItems
  rw [mapM_eq_ok]
  have hpair : ∀ a item, (do
      let v ← valueToPy rt a.2
      return .tuple [.str a.1, v] : Except PyErr PyObj) = .ok item ↔ PairOf rt a item := by
    intro a item
    rw [bind_eq_ok]
    constructor
    · rintro ⟨v, hv, h⟩
      exact ⟨v, hv, (Except.ok.inj h).symm⟩
    · rintro ⟨v, hv, rfl⟩
      exact ⟨v, hv, rfl⟩
  constructor
  · exact List.Forall₂.imp fun a item => (hpair a item).mp
  · exact List.Forall₂.imp fun a item => (hpair a item).mpr

/-- Pairs name their bins, so that two lists with the same pairs name the same bins. -/
theorem names_eq_of_pairs {as bs : List (String × Value)} {items : List PyObj}
    (ha : List.Forall₂ (PairOf rt) as items) (hb : List.Forall₂ (PairOf rt) bs items) :
    as.map (·.1) = bs.map (·.1) := by
  induction ha generalizing bs with
  | nil =>
    rw [List.forall₂_nil_right_iff.mp hb]
  | cons hpair _ ih =>
    obtain ⟨b, bs, hpair', hrest, rfl⟩ := List.forall₂_cons_right_iff.mp hb
    obtain ⟨v, -, rfl⟩ := hpair
    obtain ⟨w, -, heq⟩ := hpair'
    simp only [PyObj.tuple.injEq, List.cons.injEq, PyObj.str.injEq, PyStr.utf8.injEq] at heq
    rw [List.map_cons, List.map_cons, ih hrest, heq.1]

/-- A call whose operations and key convert returns exactly the lists of the pairs of the
record. -/
theorem operateOrdered_eq_ok {operate : List Operation → Except PyErr Record}
    {opsList : List PyObj} {ops : List Operation} {writes : Bool} {record : Record}
    {preKeyPy keyPy out : PyObj}
    (hops : pyOpsToRustChecked rt debug opsList = .ok (ops, writes))
    (hanswer : operate ops = .ok record)
    (hkey : orderedKeyToPy rt record preKeyPy = .ok keyPy) :
    operateOrdered rt debug clock operate opsList preKeyPy = .ok out ↔
      ∃ items, List.Forall₂ (PairOf rt) record.bins items ∧
        out = .tuple [keyPy, recordToMeta clock record, .list items] := by
  unfold operateOrdered pendingOrderedRecordToPy
  rw [bind_of_eq_ok hops]
  dsimp only
  rw [bind_of_eq_ok hanswer, bind_of_eq_ok hkey, bind_eq_ok]
  constructor
  · rintro ⟨items, hitems, h⟩
    exact ⟨items, binItems_eq_ok.mp hitems, (Except.ok.inj h).symm⟩
  · rintro ⟨items, hitems, rfl⟩
    exact ⟨items, binItems_eq_ok.mpr hitems, rfl⟩

/-- The list has a pair for each answer, in the order of the answers. -/
def InOrder (rt : Runtime) (answers : List (String × Value)) : Except PyErr PyObj → Prop
  | .ok (.tuple [_, _, .list items]) => List.Forall₂ (PairOf rt) answers items
  | _ => False

/-- Whatever order the map iterates in, a call whose key converts returns the list. -/
def KeepsOrder (rt : Runtime) (debug : Value → String) (clock : Clock)
    (collect : List Value → Value) (opsList : List PyObj) (preKeyPy : PyObj)
    (answers : List (String × Value)) : Prop :=
  ∀ record, Collects collect answers record →
    (∃ keyPy, orderedKeyToPy rt record preKeyPy = .ok keyPy) →
      InOrder rt answers
        (operateOrdered rt debug clock (fun _ => .ok record) opsList preKeyPy)

theorem inOrder_iff {opsList : List PyObj} {ops : List Operation} {writes : Bool}
    {record : Record} {preKeyPy keyPy : PyObj} {answers : List (String × Value)}
    (hops : pyOpsToRustChecked rt debug opsList = .ok (ops, writes))
    (hkey : orderedKeyToPy rt record preKeyPy = .ok keyPy) :
    InOrder rt answers (operateOrdered rt debug clock (fun _ => .ok record) opsList preKeyPy) ↔
      ∃ items, List.Forall₂ (PairOf rt) record.bins items ∧
        List.Forall₂ (PairOf rt) answers items := by
  have hcall := fun out => @operateOrdered_eq_ok rt debug clock (fun _ => .ok record) opsList
    ops writes record preKeyPy keyPy out hops rfl hkey
  constructor
  · intro h
    unfold InOrder at h
    split at h
    · obtain ⟨items, hbins, hout⟩ := (hcall _).mp ‹_›
      cases hout
      exact ⟨_, hbins, h⟩
    · exact h.elim
  · rintro ⟨items, hbins, hanswers⟩
    rw [(hcall _).mpr ⟨items, hbins, rfl⟩]
    exact hanswers

/-- With at most one answer the record has at most that bin. -/
theorem Collects.bins_eq {collect : List Value → Value} {answers : List (String × Value)}
    {record : Record} (h : Collects collect answers record) (hone : answers.length ≤ 1) :
    record.bins = answers := by
  match answers, hone with
  | [], _ =>
    apply List.eq_nil_iff_forall_not_mem.mpr
    intro b hb
    have := (h.names b.1).mp (List.mem_map_of_mem hb)
    simp at this
  | [a], _ =>
    have hnames : record.bins.map (·.1) = [a.1] := by
      apply List.perm_singleton.mp
      rw [List.perm_ext_iff_of_nodup record.distinct (List.nodup_singleton _)]
      intro name
      rw [h.names]
      rfl
    obtain ⟨b, hbins, hname⟩ : ∃ b, record.bins = [b] ∧ b.1 = a.1 := by
      obtain ⟨b, hb, hname⟩ := List.map_eq_singleton_iff.mp hnames
      exact ⟨b, hb, hname⟩
    have hvalue := h.values b (by rw [hbins]; exact List.mem_singleton_self b)
    have hresults : resultsOf [a] b.1 = [a.2] := by simp [resultsOf, hname]
    rw [hresults] at hvalue
    rw [hbins, Prod.ext hname hvalue]

/-- The record whose map iterates in the reverse order of the first operations on the
bins. -/
def reversedRecord (collect : List Value → Value) (answers : List (String × Value)) : Record where
  key := none
  bins := (answers.map (·.1)).dedup.reverse.map fun name =>
    (name, binValue collect (resultsOf answers name))
  generation := 1
  expiration := 0
  distinct := by
    rw [List.map_map]
    have hid : ((fun b : String × Value => b.1) ∘ fun name =>
        (name, binValue collect (resultsOf answers name))) = id := rfl
    rw [hid, List.map_id]
    exact List.nodup_reverse.mpr (List.nodup_dedup _)

theorem names_reversedRecord (collect : List Value → Value) (answers : List (String × Value)) :
    (reversedRecord collect answers).bins.map (·.1) = (answers.map (·.1)).dedup.reverse := by
  unfold reversedRecord
  rw [List.map_map]
  exact List.map_id _

theorem collects_reversedRecord (collect : List Value → Value)
    (answers : List (String × Value)) :
    Collects collect answers (reversedRecord collect answers) where
  names name := by
    rw [names_reversedRecord, List.mem_reverse, List.mem_dedup]
  values b hb := by
    obtain ⟨name, -, rfl⟩ := List.mem_map.mp hb
    rfl

/-- A list that its own deduplication reverses has at most one element. -/
theorem length_le_one_of_dedup_reverse {names : List String} (h : names.dedup.reverse = names) :
    names.length ≤ 1 := by
  have hnodup : names.Nodup := by
    rw [← h]
    exact List.nodup_reverse.mpr (List.nodup_dedup _)
  rw [hnodup.dedup] at h
  match names with
  | [] => exact Nat.zero_le 1
  | [_] => exact Nat.le_refl 1
  | a :: b :: rest =>
    -- the first name is also the last, which is another position
    have hlast : (b :: rest).getLast? = some a := by
      have := congrArg List.head? h
      rw [List.head?_reverse] at this
      simpa using this
    have hmem := List.mem_of_getLast? hlast
    exact absurd hmem (List.nodup_cons.mp hnodup).1

/-- The list of `operate_ordered` keeps the order of the operations whatever order the map
of the bins iterates in exactly when at most one operation bears a result. -/
theorem operateOrdered_keeps_order (rt : Runtime) (debug : Value → String) (clock : Clock)
    (collect : List Value → Value) (bearing : Operation → Bool) (opsList : List PyObj)
    (ops : List Operation) (writes : Bool) (preKeyPy : PyObj)
    (answers : List (String × Value))
    (hops : pyOpsToRustChecked rt debug opsList = .ok (ops, writes))
    (hanswers : Answers bearing ops answers)
    (hvalues : ∀ a ∈ answers, ∃ v, valueToPy rt a.2 = .ok v) :
    KeepsOrder rt debug clock collect opsList preKeyPy answers ↔
      (ops.filter bearing).length ≤ 1 := by
  rw [hanswers.length_eq]
  constructor
  · intro h
    have hrecord := h _ (collects_reversedRecord collect answers) ⟨preKeyPy, rfl⟩
    obtain ⟨items, hbins, hitems⟩ := (inOrder_iff hops rfl).mp hrecord
    have hnames := names_eq_of_pairs hbins hitems
    rw [names_reversedRecord] at hnames
    have hlen := length_le_one_of_dedup_reverse hnames
    rwa [List.length_map] at hlen
  · rintro hone record hcollects ⟨keyPy, hkey⟩
    rw [inOrder_iff hops hkey, hcollects.bins_eq hone]
    have hpairs : ∀ a ∈ answers, ∃ item, PairOf rt a item := by
      intro a ha
      obtain ⟨v, hv⟩ := hvalues a ha
      exact ⟨_, v, hv, rfl⟩
    obtain ⟨items, hitems⟩ := exists_forall₂_of_forall hpairs
    exact ⟨items, hitems, hitems⟩

theorem operateOrdered_keeps_order_one_read :
    KeepsOrder .plain (fun _ => "") (fun _ => none) .list
      [.dict [(.str "op", .int 1), (.str "bin", .str "e")]] .none [("e", .int 5)] :=
  (operateOrdered_keeps_order .plain (fun _ => "") (fun _ => none) .list (fun _ => true)
    [.dict [(.str "op", .int 1), (.str "bin", .str "e")]] [.getBin "e"] false .none
    [("e", .int 5)] rfl (.cons rfl .nil) (by simp [valueToPy])).mpr (by decide)

/-- Reads of `e` and `a` may come back as `a` and `e`, and two reads of one bin come back
as one pair. -/
theorem operateOrdered_loses_order :
    let read := fun name : String => PyObj.dict [(.str "op", .int 1), (.str "bin", .str name)]
    (¬ KeepsOrder .plain (fun _ => "") (fun _ => none) .list [read "e", read "a"] .none
      [("e", .int 5), ("a", .int 1)]) ∧
    ¬ KeepsOrder .plain (fun _ => "") (fun _ => none) .list [read "n", read "n"] .none
      [("n", .int 100), ("n", .int 101)] := by
  intro read
  constructor
  · intro h
    have hlist := h ⟨none, [("a", .int 1), ("e", .int 5)], 1, 0, by decide⟩
      ⟨by simp [or_comm], by simp [resultsOf, binValue]⟩ ⟨_, rfl⟩
    have hpairs : List.Forall₂ (PairOf .plain) [("e", .int 5), ("a", .int 1)]
      [.tuple [.str "a", .int 1], .tuple [.str "e", .int 5]] := hlist
    obtain ⟨⟨v, -, heq⟩, -⟩ := List.forall₂_cons.mp hpairs
    revert heq
    simp
  · intro h
    have hlist := h ⟨none, [("n", .list [.int 100, .int 101])], 1, 0, by decide⟩
      ⟨by simp, by simp [resultsOf, binValue]⟩ ⟨_, rfl⟩
    have hpairs : List.Forall₂ (PairOf .plain) [("n", .int 100), ("n", .int 101)]
      [.tuple [.str "n", .list [.int 100, .int 101]]] := hlist
    exact absurd hpairs.length_eq (by decide)

end AerospikePy.Operations
