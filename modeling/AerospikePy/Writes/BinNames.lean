import AerospikePy.Numpy.Columns
import AerospikePy.Operations.BinName
import AerospikePy.Writes.Prepare

/-!
# The names of bins

`py_dict_to_bins` refuses a bin name that the server would refuse. The writes that take
the name of a bin from elsewhere than a dict of bins do not ask.
-/

namespace AerospikePy.Writes

open AerospikePy.Batch
open AerospikePy.Core
open AerospikePy.Keys
open AerospikePy.Lib.Fallible
open AerospikePy.Numpy
open AerospikePy.Operations
open AerospikePy.Policies
open AerospikePy.Python
open AerospikePy.Values

/-- A name that the server takes. -/
def ValidBinName (b : String) : Prop := b ≠ "" ∧ b.utf8ByteSize ≤ maxBinNameLen

instance (b : String) : Decidable (ValidBinName b) := instDecidableAnd

variable (crates : BatchCrates) (rt : Runtime) (debug : Value → String)

/-- A dict of bins, one of which has an open name. -/
structure OpenBins where
  pre : Entries
  val : PyObj
  post : Entries

namespace OpenBins

def named (bins : OpenBins) (b : String) : Entries := bins.pre ++ (.str b, bins.val) :: bins.post

/-- The other bins are accepted, and the value of this one. -/
def Converts (bins : OpenBins) : Prop :=
  (∀ entry ∈ bins.pre ++ bins.post, Succeeds (pyBinToBin rt entry)) ∧
    Succeeds (pyToValue rt bins.val)

variable {rt}

theorem succeeds_pyBinToBin {b : String} {val : PyObj} :
    Succeeds (pyBinToBin rt (.str b, val)) ↔ ValidBinName b ∧ Succeeds (pyToValue rt val) := by
  show Succeeds (require _ _ >>= _) ↔ _
  rw [succeeds_bind_iff fun _ _ => succeeds_bind_iff fun _ _ => succeeds_bind_pure,
    succeeds_require, succeeds_require, ← and_assoc]
  rfl

theorem succeeds_pyDictToBins (bins : OpenBins) {b : String} :
    Succeeds (pyDictToBins rt (bins.named b)) ↔ bins.Converts rt ∧ ValidBinName b := by
  rw [pyDictToBins, named, succeeds_mapM_middle, succeeds_pyBinToBin, Converts, and_assoc,
    and_comm (a := ValidBinName b)]

end OpenBins

/-- A list of operations, one of which writes a bin with an open name. -/
structure OpenOps where
  pre : List PyObj
  op : BinWrite
  post : List PyObj

namespace OpenOps

def named (ops : OpenOps) (b : String) : List PyObj := ops.pre ++ ops.op.named b :: ops.post

/-- The other operations are accepted, and the other fields of this one. -/
def Converts (ops : OpenOps) : Prop :=
  (∀ item ∈ ops.pre ++ ops.post, Succeeds (pyOpToRust rt debug item)) ∧
    ops.op.FieldsConvert rt debug

variable {rt debug}

theorem succeeds_pyOpsToRustChecked (ops : OpenOps) (b : String) :
    Succeeds (pyOpsToRustChecked rt debug (ops.named b)) ↔ ops.Converts rt debug := by
  rw [pyOpsToRustChecked, succeeds_bind_pure, named, succeeds_mapM_middle,
    BinWrite.succeeds_named]
  rfl

theorem succeeds_pyOpsToRust (ops : OpenOps) (b : String) :
    Succeeds (pyOpsToRust rt debug (ops.named b)) ↔ ops.Converts rt debug := by
  rw [pyOpsToRust, succeeds_bind_pure, succeeds_pyOpsToRustChecked]

end OpenOps

/-- A write that names a bin, with all of its arguments but the name. -/
inductive WriteCall where
  | put (key : PyObj) (bins : OpenBins) (metaDict policy : Option Entries)
  -- a record among others, with what follows its bins
  | batchWrite (before : List PyObj) (key : PyObj) (bins : OpenBins) (rest after : List PyObj)
      (policy : Option Entries) (retry : UInt32)
  | batchWriteNumpy (p : Platform) (mem : Int → UInt8) (data : NdArray)
      (namespaceName setName : String) (column : Column) (keyField : String)
      (policy : Option Entries) (retry : UInt32)
  -- `append` and `prepend`
  | singleBinWrite (key val : PyObj) (metaDict policy : Option Entries)
  | increment (key offset : PyObj) (metaDict policy : Option Entries)
  | removeBin (key : PyObj) (pre post : List PyObj) (metaDict policy : Option Entries)
  -- `operate` and `operate_ordered`
  | operate (key : PyObj) (ops : OpenOps) (metaDict policy : Option Entries)
  | batchOperate {heap : Nat → PyObj} (keys : List (KeyArg heap)) (ops : OpenOps)
      (policy : Option Entries)

/-- What follows the bins of a record starts with its meta, if there is one. -/
def MetaConverts (base : BatchWritePolicy Expressions.Expression) (rest : List PyObj) : Prop :=
  ∀ metaObj, rest.head? = some metaObj →
    ∃ metaDict, castDict metaObj = .ok metaDict ∧ Succeeds (applyRecordMeta base metaDict)

namespace WriteCall

/-- The name makes the call one that writes this bin. -/
def Names (call : WriteCall) (b : String) : Prop :=
  match call with
  | batchWriteNumpy _ _ _ _ _ column keyField _ _ => column.NamesBin keyField b
  | _ => True

/-- The client takes the call with this name, and sends it. -/
def Accepts (call : WriteCall) (b : String) : Prop :=
  match call with
  | put key bins metaDict policy =>
    Succeeds (preparePutArgs crates rt key (.dict (bins.named b)) metaDict policy)
  | batchWrite before key bins rest after policy retry =>
    Succeeds (prepareBatchWriteArgs crates rt
      (before ++ .tuple (key :: .dict (bins.named b) :: rest) :: after) policy retry)
  | batchWriteNumpy p mem data namespaceName setName column keyField policy retry =>
    ∃ h : column.NamesBin keyField b, Succeeds (batchWriteNumpyArgs crates rt p mem data
      namespaceName setName (column.named h) keyField policy retry)
  | singleBinWrite key val metaDict policy =>
    Succeeds (prepareSingleBinWriteArgs crates rt key b val metaDict policy)
  | increment key offset metaDict policy =>
    Succeeds (prepareIncrementArgs crates.keys crates.policies rt debug key b offset metaDict
      policy)
  | removeBin key pre post metaDict policy =>
    Succeeds (prepareRemoveBinArgs crates rt key (pre ++ .str b :: post) metaDict policy)
  | operate key ops metaDict policy =>
    Succeeds (prepareOperateArgs crates rt debug key (ops.named b) metaDict policy)
  | batchOperate keys ops policy =>
    Succeeds (prepareBatchOperateArgs crates rt debug keys (ops.named b) policy)

/-- The other arguments are converted. -/
def OthersConvert (call : WriteCall) : Prop :=
  match call with
  | put key bins metaDict policy =>
    bins.Converts rt ∧ Succeeds (pyToKey crates.keys rt key) ∧
      Succeeds (putPolicy crates rt metaDict policy)
  | batchWrite before key bins rest after policy _ =>
    Succeeds (parseBatchPolicy crates.policies rt policy) ∧
      ∃ base, parseBatchWritePolicy crates.policies rt policy = .ok base ∧
        (∀ item ∈ before ++ after, Succeeds (prepareRecord crates rt base item)) ∧
        Succeeds (pyToKey crates.keys rt key) ∧ bins.Converts rt ∧ MetaConverts base rest
  | batchWriteNumpy p mem data namespaceName setName column keyField policy _ =>
    Succeeds (parseBatchPolicy crates.policies rt policy) ∧
      column.Converts crates.keys p mem data namespaceName setName keyField ∧
      Succeeds (parseBatchWritePolicy crates.policies rt policy)
  | singleBinWrite key val metaDict policy =>
    Succeeds (pyToKey crates.keys rt key) ∧
      Succeeds (parseWritePolicy crates.policies rt policy metaDict) ∧ Succeeds (pyToValue rt val)
  | increment key offset metaDict policy =>
    Succeeds (pyToKey crates.keys rt key) ∧
      Succeeds (parseWritePolicy crates.policies rt policy metaDict) ∧
      Succeeds (parseIncrementOffset rt debug offset)
  | removeBin key pre post metaDict policy =>
    Succeeds (pyToKey crates.keys rt key) ∧
      Succeeds (parseWritePolicy crates.policies rt policy metaDict) ∧
      ∀ name ∈ pre ++ post, Succeeds (extractString name)
  | operate key ops metaDict policy =>
    Succeeds (pyToKey crates.keys rt key) ∧
      Succeeds (parseWritePolicy crates.policies rt policy metaDict) ∧ ops.Converts rt debug
  | batchOperate keys ops policy =>
    Succeeds (parseBatchPolicy crates.policies rt policy) ∧
      Succeeds (parseBatchReadPolicy crates.policies rt policy) ∧ ops.Converts rt debug ∧
      Succeeds (pyToKeys crates.keys rt keys)

/-- The writes whose bins come in a dict of bins. -/
def checksNames : WriteCall → Bool
  | put .. | batchWrite .. => true
  | _ => false

variable {crates rt debug} {b : String}

theorem accepts_put {key : PyObj} {bins : OpenBins} {metaDict policy : Option Entries} :
    (put key bins metaDict policy).Accepts crates rt debug b ↔
      (put key bins metaDict policy).OthersConvert crates rt debug ∧ ValidBinName b := by
  show Succeeds (pyDictToBins rt (bins.named b) >>= _) ↔ _
  rw [succeeds_bind_iff fun _ _ => succeeds_bind_iff fun _ _ => succeeds_bind_pure,
    bins.succeeds_pyDictToBins, OthersConvert]
  exact and_right_comm

theorem succeeds_prepareRecord {base : BatchWritePolicy Expressions.Expression} {key : PyObj}
    {bins : OpenBins} {rest : List PyObj} :
    Succeeds (prepareRecord crates rt base (.tuple (key :: .dict (bins.named b) :: rest))) ↔
      Succeeds (pyToKey crates.keys rt key) ∧ (bins.Converts rt ∧ ValidBinName b) ∧
        MetaConverts base rest := by
  show Succeeds (pyToKey crates.keys rt key >>= _) ↔ _
  refine succeeds_bind_iff fun rustKey _ => ?_
  show Succeeds (pyDictToBins rt (bins.named b) >>= _) ↔ _
  rw [← bins.succeeds_pyDictToBins]
  refine succeeds_bind_iff fun rustBins _ => ?_
  cases rest with
  | nil => simp [MetaConverts]
  | cons metaObj rest =>
    show Succeeds (castWith castDict _ metaObj >>= _) ↔ _
    rw [succeeds_bind]
    simp only [castWith_eq_ok, MetaConverts, List.head?_cons, Option.some.injEq, forall_eq']
    refine exists_congr fun metaDict => and_congr_right fun _ => ?_
    exact succeeds_bind_pure

theorem accepts_batchWrite {before rest after : List PyObj} {key : PyObj} {bins : OpenBins}
    {policy : Option Entries} {retry : UInt32} :
    (batchWrite before key bins rest after policy retry).Accepts crates rt debug b ↔
      (batchWrite before key bins rest after policy retry).OthersConvert crates rt debug ∧
        ValidBinName b := by
  show Succeeds (parseBatchPolicy crates.policies rt policy >>= _) ↔ _
  rw [OthersConvert, and_assoc]
  refine succeeds_bind_iff fun batchPolicy _ => ?_
  rw [succeeds_bind, ← exists_and_right]
  refine exists_congr fun base => ?_
  rw [and_assoc]
  refine and_congr_right fun _ => ?_
  rw [succeeds_bind_pure, succeeds_mapM_middle, succeeds_prepareRecord]
  tauto

theorem accepts_batchWriteNumpy {p : Platform} {mem : Int → UInt8} {data : NdArray}
    {namespaceName setName : String} {column : Column} {keyField : String}
    {policy : Option Entries} {retry : UInt32} (h : column.NamesBin keyField b) :
    (batchWriteNumpy p mem data namespaceName setName column keyField policy retry).Accepts
        crates rt debug b ↔
      (batchWriteNumpy p mem data namespaceName setName column keyField policy
        retry).OthersConvert crates rt debug := by
  have hcall : (∃ h : column.NamesBin keyField b, Succeeds (batchWriteNumpyArgs crates rt p mem data
      namespaceName setName (column.named h) keyField policy retry)) ↔
      Succeeds (batchWriteNumpyArgs crates rt p mem data namespaceName setName (column.named h)
        keyField policy retry) := ⟨fun hex => hex.2, fun hsucceeds => ⟨h, hsucceeds⟩⟩
  rw [Accepts, hcall, OthersConvert, ← Column.succeeds_named h]
  refine succeeds_bind_iff fun _ _ => ?_
  exact succeeds_bind_iff fun _ _ => succeeds_bind_pure

theorem accepts_singleBinWrite {key val : PyObj} {metaDict policy : Option Entries} :
    (singleBinWrite key val metaDict policy).Accepts crates rt debug b ↔
      (singleBinWrite key val metaDict policy).OthersConvert crates rt debug := by
  refine succeeds_bind_iff fun _ _ => ?_
  exact succeeds_bind_iff fun _ _ => succeeds_bind_pure

theorem accepts_increment {key offset : PyObj} {metaDict policy : Option Entries} :
    (increment key offset metaDict policy).Accepts crates rt debug b ↔
      (increment key offset metaDict policy).OthersConvert crates rt debug := by
  refine succeeds_bind_iff fun _ _ => ?_
  exact succeeds_bind_iff fun _ _ => succeeds_bind_pure

theorem accepts_removeBin {key : PyObj} {pre post : List PyObj}
    {metaDict policy : Option Entries} :
    (removeBin key pre post metaDict policy).Accepts crates rt debug b ↔
      (removeBin key pre post metaDict policy).OthersConvert crates rt debug := by
  refine succeeds_bind_iff fun _ _ => succeeds_bind_iff fun _ _ => ?_
  rw [succeeds_bind_pure, succeeds_mapM_middle]
  exact and_iff_left (succeeds_ok b)

theorem accepts_operate {key : PyObj} {ops : OpenOps} {metaDict policy : Option Entries} :
    (operate key ops metaDict policy).Accepts crates rt debug b ↔
      (operate key ops metaDict policy).OthersConvert crates rt debug := by
  refine succeeds_bind_iff fun _ _ => succeeds_bind_iff fun _ _ => ?_
  rw [succeeds_bind_pure, ops.succeeds_pyOpsToRust]

theorem accepts_batchOperate {heap : Nat → PyObj} {keys : List (KeyArg heap)} {ops : OpenOps}
    {policy : Option Entries} :
    (batchOperate keys ops policy).Accepts crates rt debug b ↔
      (batchOperate keys ops policy).OthersConvert crates rt debug := by
  refine succeeds_bind_iff fun _ _ => succeeds_bind_iff fun _ _ => ?_
  rw [← ops.succeeds_pyOpsToRustChecked b]
  exact succeeds_bind_iff fun _ _ => succeeds_bind_pure

/-- Only a dict of bins has a say in the names. -/
theorem accepts_iff {call : WriteCall} (h : call.Names b) : call.Accepts crates rt debug b ↔
    call.OthersConvert crates rt debug ∧ (call.checksNames = true → ValidBinName b) := by
  cases call with
  | put => simpa [checksNames] using accepts_put
  | batchWrite => simpa [checksNames] using accepts_batchWrite
  | batchWriteNumpy => simpa [checksNames] using accepts_batchWriteNumpy h
  | singleBinWrite => simpa [checksNames] using accepts_singleBinWrite
  | increment => simpa [checksNames] using accepts_increment
  | removeBin => simpa [checksNames] using accepts_removeBin
  | operate => simpa [checksNames] using accepts_operate
  | batchOperate => simpa [checksNames] using accepts_batchOperate

/-- A name that the server refuses is refused, and no other is refused for its own sake. -/
def FollowsRule (crates : BatchCrates) (rt : Runtime) (debug : Value → String) (call : WriteCall)
    (b : String) : Prop :=
  (¬ ValidBinName b → ¬ call.Accepts crates rt debug b) ∧
    (ValidBinName b → ∀ b', call.Names b' → call.Accepts crates rt debug b' →
      call.Accepts crates rt debug b)

/-- The rule is broken by every name that the server refuses, in every write without a
dict of bins that is not refused for another argument. -/
theorem followsRule_iff (crates : BatchCrates) (rt : Runtime) (debug : Value → String)
    {call : WriteCall} {b : String} (h : call.Names b) :
    call.FollowsRule crates rt debug b ↔
      ValidBinName b ∨ call.checksNames = true ∨ ¬ call.OthersConvert crates rt debug := by
  rw [FollowsRule, accepts_iff h]
  constructor
  · intro hrule
    by_contra hnot
    rw [not_or, not_or, not_not] at hnot
    obtain ⟨hinvalid, hunchecked, hothers⟩ := hnot
    exact hrule.1 hinvalid ⟨hothers, fun hchecked => absurd hchecked hunchecked⟩
  · intro hcases
    refine ⟨fun hinvalid haccepts => ?_, fun hvalid b' hnames' haccepts' => ?_⟩
    · rcases hcases with hvalid | hchecked | hothers
      · exact hinvalid hvalid
      · exact hinvalid (haccepts.2 hchecked)
      · exact hothers haccepts.1
    · exact ⟨((accepts_iff hnames').mp haccepts').1, fun _ => hvalid⟩

/-- Rows of a key and of a column of integers. -/
def keyedColumn : Column where
  rest := { fields := some [⟨"_key", ⟨⟨"i", "=", 8, "int64"⟩, [], "int64"⟩, 0⟩], itemsize := 16 }
  pre := [⟨"_key", ⟨⟨"i", "=", 8, "int64"⟩, [], "int64"⟩, 0⟩]
  post := []
  split := rfl
  dtype := ⟨⟨"i", "=", 8, "int64"⟩, [], "int64"⟩
  offset := 8
  small := by decide

/-- One row of every other one of an array. -/
def numpyCall : WriteCall :=
  .batchWriteNumpy .littleEndian (fun _ => 1) ⟨4096, [1], [32], 16, rfl⟩ "test" "demo" keyedColumn
    "_key" none 0

theorem followsRule_iff_numpy : numpyCall.Names "temperature_in_c" ∧
    ¬ numpyCall.FollowsRule coreDefaults .plain (fun _ => "") "temperature_in_c" := by
  have hnames : numpyCall.Names "temperature_in_c" := ⟨by decide, by decide, by simp⟩
  have hconverts : numpyCall.OthersConvert coreDefaults .plain (fun _ => "") := by
    refine ⟨⟨_, rfl⟩, ⟨_, "v", _, rfl, rfl, fun i hi => ?_⟩, ⟨_, rfl⟩⟩
    obtain rfl : i = 0 := Nat.lt_one_iff.mp hi
    exact ⟨⟨_, rfl⟩, ⟨_, rfl⟩⟩
  refine ⟨hnames, fun h => ?_⟩
  rcases (followsRule_iff coreDefaults .plain (fun _ => "") hnames).mp h with hvalid | hchecked | hnot
  · revert hvalid
    decide
  · cases hchecked
  · exact hnot hconverts

/-- A bin without a name is sent by `append` and refused by `put`. -/
theorem append_takes_empty_name :
    let key : PyObj := .tuple digestedKey
    let append : WriteCall := .singleBinWrite key (.str "x") none none
    let put : WriteCall := .put key ⟨[], .str "x", []⟩ none none
    append.Accepts coreDefaults .plain (fun _ => "") "" ∧
    ¬ put.Accepts coreDefaults .plain (fun _ => "") "" ∧
    ¬ ∀ (call : WriteCall) (b : String), call.Names b →
      call.FollowsRule coreDefaults .plain (fun _ => "") b := by
  intro key append put
  have happend : append.Accepts coreDefaults .plain (fun _ => "") "" := ⟨_, rfl⟩
  refine ⟨happend, fun hput => ?_, fun hrule => ?_⟩
  · obtain ⟨args, hargs⟩ := hput
    cases hargs
  · exact (hrule append "" True.intro).1 (by decide) happend

end WriteCall

end AerospikePy.Writes
