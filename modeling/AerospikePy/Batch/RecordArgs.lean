import AerospikePy.Batch.WriteArgs

/-!
# The records of a batch

`client_common.rs`: what `batch_remove`, `batch_apply` and `batch_write` make of their lists.
Every element becomes one entry, from itself and from what the call gives for all of them;
the meta of another element has no part in it.
-/

namespace AerospikePy.Batch

open AerospikePy.Core
open AerospikePy.Expressions
open AerospikePy.Keys
open AerospikePy.Lib.Fallible
open AerospikePy.Operations
open AerospikePy.Policies
open AerospikePy.Python
open AerospikePy.Values

variable (crates : BatchCrates) (rt : Runtime)

/-- A `(key, meta)` pair: a tuple of a tuple and a dict. -/
def keyMetaTuple (item : PyObj) : Option (PyObj × Entries) :=
  match item with
  | .tuple [.tuple key, .dict metaDict] => some (.tuple key, metaDict)
  | _ => none

/-- The namespace and the set of the first record. -/
def batchPlace (keys : List Key) : String × String :=
  match keys.head? with
  | some key => (key.namespaceName, key.setName)
  | none => ("", "")

structure RemoveRecord where
  key : Key
  policy : BatchDeletePolicy

structure BatchRemoveArgs where
  records : List RemoveRecord
  batchPolicy : BatchPolicy
  batchNs : String
  batchSet : String

def prepareRemoveRecord (base : BatchDeletePolicy) (item : PyObj) : Except PyErr RemoveRecord :=
  match keyMetaTuple item with
  | some (keyObj, metaDict) => do
    let key ← pyToKey crates.keys rt keyObj
    let policy ← applyRecordMetaForDelete base metaDict
    return ⟨key, policy⟩
  | none => do
    let key ← pyToKey crates.keys rt item
    return ⟨key, base⟩

def prepareBatchRemoveArgs (keys : List PyObj) (policy : Option Entries) :
    Except PyErr BatchRemoveArgs := do
  let batchPolicy ← parseBatchPolicy crates.policies rt policy
  let baseDeletePolicy ← parseBatchDeletePolicy crates.policies rt policy
  let records ← keys.mapM (prepareRemoveRecord crates rt baseDeletePolicy)
  let (batchNs, batchSet) := batchPlace (records.map (·.key))
  return ⟨records, batchPolicy, batchNs, batchSet⟩

/-- The call of a UDF, without its key. -/
structure UdfCall where
  module : String
  function : String
  args : Option (List Value)
  policy : BatchUDFPolicy

structure BatchApplyEntry extends UdfCall where
  key : Key

structure BatchApplyArgs where
  records : List BatchApplyEntry
  batchPolicy : BatchPolicy
  batchNs : String
  batchSet : String

def pyListToArgs (list : List PyObj) : Except PyErr (Option (List Value)) := do
  let values ← list.mapM (pyToValue rt)
  return some values

/-- The `args` of a meta dict; `None` stands for a call without arguments. -/
def extractMetaArgs : PyObj → Except PyErr (Option (List Value))
  | .none => .ok none
  | .list list => pyListToArgs rt list
  | _ => .error ⟨.typeError, "meta 'args' must be a list"⟩

def prepareApplyRecord (base : UdfCall) (item : PyObj) : Except PyErr BatchApplyEntry :=
  match keyMetaTuple item with
  | some (keyObj, metaDict) => do
    let key ← pyToKey crates.keys rt keyObj
    let policy ← applyRecordMetaForApply base.policy metaDict
    let recModule ← field metaDict "module" extractString base.module
    let recFunction ← field metaDict "function" extractString base.function
    let recArgs ← field metaDict "args" (extractMetaArgs rt) base.args
    return ⟨⟨recModule, recFunction, recArgs, policy⟩, key⟩
  | none => do
    let key ← pyToKey crates.keys rt item
    return ⟨base, key⟩

/-- The call that the records of a `batch_apply` share. -/
def parseUdfCall (module function : String) (args : Option (List PyObj))
    (policy : Option Entries) : Except PyErr UdfCall := do
  let baseUdfPolicy ← parseBatchUdfPolicy crates.policies rt policy
  let baseArgs ← match args with
    | some list => pyListToArgs rt list
    | none => .ok none
  return ⟨module, function, baseArgs, baseUdfPolicy⟩

def prepareBatchApplyArgs (keys : List PyObj) (module function : String)
    (args : Option (List PyObj)) (policy : Option Entries) : Except PyErr BatchApplyArgs := do
  let batchPolicy ← parseBatchPolicy crates.policies rt policy
  let base ← parseUdfCall crates rt module function args policy
  let records ← keys.mapM (prepareApplyRecord crates rt base)
  let (batchNs, batchSet) := batchPlace (records.map (·.key))
  return ⟨records, batchPolicy, batchNs, batchSet⟩

variable {crates rt}

/-- What is taken for a key is no pair. -/
theorem keyMetaTuple_of_pyToKey {item : PyObj} {key : Key}
    (h : pyToKey crates.keys rt item = .ok key) : keyMetaTuple item = none := by
  obtain ⟨tuple, htuple, hkey⟩ := bind_eq_ok.mp h
  obtain rfl := castTuple_eq_ok.mp htuple
  obtain ⟨⟨namespaceItem, setItem, keyItem⟩, hitems, -⟩ := bind_eq_ok.mp hkey
  obtain ⟨rest, rfl, -⟩ := keyItems_eq_ok.mp hitems
  unfold keyMetaTuple
  split
  · next heq => cases heq
  · rfl

theorem keyMetaTuple_of_length {tuple : List PyObj} (h : tuple.length = 3 ∨ tuple.length = 4) :
    keyMetaTuple (.tuple tuple) = none := by
  unfold keyMetaTuple
  split
  · next heq =>
    obtain rfl := PyObj.tuple.inj heq
    simp only [List.length_cons, List.length_nil] at h
    omega
  · rfl

theorem keyMetaTuple_eq_some {item keyObj : PyObj} {metaDict : Entries}
    (h : keyMetaTuple item = some (keyObj, metaDict)) :
    item = .tuple [keyObj, .dict metaDict] ∧ ∃ tuple, keyObj = .tuple tuple := by
  unfold keyMetaTuple at h
  split at h
  · next tuple es =>
    obtain ⟨rfl, rfl⟩ := Prod.mk.inj (Option.some.inj h)
    exact ⟨rfl, tuple, rfl⟩
  · cases h

/-- The entry that an element of `batch_remove` becomes. -/
inductive RemoveEntry (crates : BatchCrates) (rt : Runtime) (base : BatchDeletePolicy) :
    PyObj → RemoveRecord → Prop where
  | bare {item : PyObj} {key : Key} (hkey : pyToKey crates.keys rt item = .ok key) :
    RemoveEntry crates rt base item ⟨key, base⟩
  | withMeta {keyObj : PyObj} {metaDict : Entries} {key : Key} {policy : BatchDeletePolicy}
    (hkey : pyToKey crates.keys rt keyObj = .ok key) (hmeta : DeleteMetaRead metaDict base policy) :
    RemoveEntry crates rt base (.tuple [keyObj, .dict metaDict]) ⟨key, policy⟩

/-- What a meta dict makes of the call of a UDF. -/
structure ApplyMetaRead (rt : Runtime) (metaDict : Entries) (base call : UdfCall) : Prop where
  module : field metaDict "module" extractString base.module = .ok call.module
  function : field metaDict "function" extractString base.function = .ok call.function
  args : field metaDict "args" (extractMetaArgs rt) base.args = .ok call.args
  policy : UdfMetaRead metaDict base.policy call.policy

/-- The entry that an element of `batch_apply` becomes. -/
inductive ApplyEntry (crates : BatchCrates) (rt : Runtime) (base : UdfCall) :
    PyObj → BatchApplyEntry → Prop where
  | bare {item : PyObj} {key : Key} (hkey : pyToKey crates.keys rt item = .ok key) :
    ApplyEntry crates rt base item ⟨base, key⟩
  | withMeta {keyObj : PyObj} {metaDict : Entries} {key : Key} {call : UdfCall}
    (hkey : pyToKey crates.keys rt keyObj = .ok key) (hmeta : ApplyMetaRead rt metaDict base call) :
    ApplyEntry crates rt base (.tuple [keyObj, .dict metaDict]) ⟨call, key⟩

/-- The entry that an element of `batch_write` becomes. Elements after the meta are passed
over. -/
inductive WriteEntry (crates : BatchCrates) (rt : Runtime) (base : BatchWritePolicy Expression) :
    PyObj → WriteRecord → Prop where
  | bare {keyObj : PyObj} {binsDict : Entries} {key : Key} {bins : List Bin}
    (hkey : pyToKey crates.keys rt keyObj = .ok key) (hbins : pyDictToBins rt binsDict = .ok bins) :
    WriteEntry crates rt base (.tuple [keyObj, .dict binsDict]) ⟨key, bins, base⟩
  | withMeta {keyObj : PyObj} {binsDict metaDict : Entries} {rest : List PyObj} {key : Key}
    {bins : List Bin} {policy : BatchWritePolicy Expression}
    (hkey : pyToKey crates.keys rt keyObj = .ok key) (hbins : pyDictToBins rt binsDict = .ok bins)
    (hmeta : MetaRead metaDict (batchSettings base) (batchSettings policy)) :
    WriteEntry crates rt base (.tuple (keyObj :: .dict binsDict :: .dict metaDict :: rest))
      ⟨key, bins, policy⟩

theorem removeEntry_of_prepare {base : BatchDeletePolicy} {item : PyObj} {record : RemoveRecord}
    (h : prepareRemoveRecord crates rt base item = .ok record) :
    RemoveEntry crates rt base item record := by
  unfold prepareRemoveRecord at h
  split at h
  · next hpair =>
    obtain ⟨rfl, -⟩ := keyMetaTuple_eq_some hpair
    obtain ⟨key, hkey, h⟩ := bind_eq_ok.mp h
    obtain ⟨policy, hpolicy, h⟩ := bind_eq_ok.mp h
    obtain rfl := Except.ok.inj h
    exact .withMeta hkey (deleteMetaRead_of_apply hpolicy)
  · obtain ⟨key, hkey, h⟩ := bind_eq_ok.mp h
    obtain rfl := Except.ok.inj h
    exact .bare hkey

theorem applyEntry_of_prepare {base : UdfCall} {item : PyObj} {record : BatchApplyEntry}
    (h : prepareApplyRecord crates rt base item = .ok record) :
    ApplyEntry crates rt base item record := by
  unfold prepareApplyRecord at h
  split at h
  · next hpair =>
    obtain ⟨rfl, -⟩ := keyMetaTuple_eq_some hpair
    obtain ⟨key, hkey, h⟩ := bind_eq_ok.mp h
    obtain ⟨policy, hpolicy, h⟩ := bind_eq_ok.mp h
    obtain ⟨recModule, hmodule, h⟩ := bind_eq_ok.mp h
    obtain ⟨recFunction, hfunction, h⟩ := bind_eq_ok.mp h
    obtain ⟨recArgs, hargs, h⟩ := bind_eq_ok.mp h
    obtain rfl := Except.ok.inj h
    exact .withMeta hkey ⟨hmodule, hfunction, hargs, udfMetaRead_of_apply hpolicy⟩
  · obtain ⟨key, hkey, h⟩ := bind_eq_ok.mp h
    obtain rfl := Except.ok.inj h
    exact .bare hkey

theorem writeEntry_of_prepare {base : BatchWritePolicy Expression} {item : PyObj}
    {record : WriteRecord} (h : prepareRecord crates rt base item = .ok record) :
    WriteEntry crates rt base item record := by
  obtain ⟨tuple, htuple, hrecord⟩ := bind_eq_ok.mp h
  obtain rfl := castTuple_eq_ok.mp (castWith_eq_ok.mp htuple)
  clear h htuple
  split at hrecord
  · next keyObj binsObj rest =>
    obtain ⟨key, hkey, hrecord⟩ := bind_eq_ok.mp hrecord
    obtain ⟨binsDict, hdict, hbinsRest⟩ := bind_eq_ok.mp hrecord
    obtain rfl := castDict_eq_ok.mp (castWith_eq_ok.mp hdict)
    obtain ⟨bins, hbins, hrest⟩ := bind_eq_ok.mp hbinsRest
    split at hrest
    · obtain rfl := Except.ok.inj hrest
      exact .bare hkey hbins
    · next metaObj rest =>
      obtain ⟨metaDict, hmeta, hpolicyRest⟩ := bind_eq_ok.mp hrest
      obtain rfl := castDict_eq_ok.mp (castWith_eq_ok.mp hmeta)
      obtain ⟨policy, hpolicy, hdone⟩ := bind_eq_ok.mp hpolicyRest
      obtain rfl := Except.ok.inj hdone
      exact .withMeta hkey hbins (metaRead_of_applyRecordMeta hpolicy)
  · cases hrecord

/-- How a list is prepared from what its call shares: every element becomes one entry in its
place, an entry depends on no other element, and an element that becomes no entry fails the
call. -/
structure EntryPerItem {α β γ : Type} (prepare : List α → Except PyErr (List β))
    (shared : Except PyErr γ) (Entry : γ → α → β → Prop) : Prop where
  inOrder : ∀ items entries, prepare items = .ok entries →
    ∃ base, shared = .ok base ∧ List.Forall₂ (Entry base) items entries
  alone : ∀ items items' entries entries' (i : Nat), prepare items = .ok entries →
    prepare items' = .ok entries' → items[i]? = items'[i]? → entries[i]? = entries'[i]?
  whole : ∀ items, ∀ item ∈ items, (∀ base entry, shared = .ok base → ¬ Entry base item entry) →
    ∃ e, prepare items = .error e

theorem entryPerItem_of_mapM {α β γ : Type} {prepare : List α → Except PyErr (List β)}
    {shared : Except PyErr γ} {Entry : γ → α → β → Prop} {one : γ → α → Except PyErr β}
    (hprepare : ∀ items entries, prepare items = .ok entries →
      ∃ base, shared = .ok base ∧ items.mapM (one base) = .ok entries)
    (hone : ∀ base item entry, one base item = .ok entry → Entry base item entry) :
    EntryPerItem prepare shared Entry := by
  have horder : ∀ items entries, prepare items = .ok entries →
      ∃ base, shared = .ok base ∧ List.Forall₂ (Entry base) items entries := by
    intro items entries h
    obtain ⟨base, hbase, hmap⟩ := hprepare items entries h
    exact ⟨base, hbase, (mapM_eq_ok.mp hmap).imp (hone base)⟩
  refine ⟨horder, ?_, ?_⟩
  · intro items items' entries entries' i h h' hi
    obtain ⟨base, hbase, hmap⟩ := hprepare items entries h
    obtain ⟨base', hbase', hmap'⟩ := hprepare items' entries' h'
    obtain rfl : base = base' := Except.ok.inj (hbase.symm.trans hbase')
    have hentry := getElem?_of_mapM hmap i
    rw [hi, getElem?_of_mapM hmap' i] at hentry
    exact (Option.map_injective (fun _ _ => Except.ok.inj) hentry).symm
  · intro items item hitem hnone
    cases hprep : prepare items with
    | error e => exact ⟨e, rfl⟩
    | ok entries =>
      obtain ⟨base, hbase, hall⟩ := horder items entries hprep
      obtain ⟨entry, -, hentry⟩ := exists_mem_of_forall₂ hall hitem
      exact absurd hentry (hnone base entry hbase)

/-- What the three calls do: the policy of the batch is read first, then what the records
share, then every record. -/
theorem records_of_prepared {π β γ κ : Type} {policy : Except PyErr π} {shared : Except PyErr γ}
    {convert : γ → Except PyErr (List β)} {finish : π → List β → κ} {args : κ}
    (h : (do
      let batchPolicy ← policy
      let base ← shared
      let records ← convert base
      return finish batchPolicy records) = .ok args) :
    ∃ batchPolicy base records, shared = .ok base ∧ convert base = .ok records ∧
      finish batchPolicy records = args := by
  obtain ⟨batchPolicy, -, h⟩ := bind_eq_ok.mp h
  obtain ⟨base, hbase, h⟩ := bind_eq_ok.mp h
  obtain ⟨records, hrecords, h⟩ := bind_eq_ok.mp h
  exact ⟨batchPolicy, base, records, hbase, hrecords, Except.ok.inj h⟩

/-- The entries of `batch_remove`, `batch_apply` and `batch_write` are made element by
element from what their call shares, and a key is told from a pair by its shape. -/
theorem batchArgs_perItem (crates : BatchCrates) (rt : Runtime) (policy : Option Entries) :
    EntryPerItem (fun keys => (·.records) <$> prepareBatchRemoveArgs crates rt keys policy)
      (parseBatchDeletePolicy crates.policies rt policy) (RemoveEntry crates rt) ∧
    (∀ module function args, EntryPerItem
      (fun keys => (·.records) <$>
        prepareBatchApplyArgs crates rt keys module function args policy)
      (parseUdfCall crates rt module function args policy) (ApplyEntry crates rt)) ∧
    (∀ retry, EntryPerItem
      (fun records => (·.records) <$> prepareBatchWriteArgs crates rt records policy retry)
      (parseBatchWritePolicy crates.policies rt policy) (WriteEntry crates rt)) ∧
    (∀ item key, pyToKey crates.keys rt item = .ok key → keyMetaTuple item = none) ∧
    ∀ tuple, tuple.length = 3 ∨ tuple.length = 4 → keyMetaTuple (.tuple tuple) = none := by
  refine ⟨?_, ?_, ?_, fun item key => keyMetaTuple_of_pyToKey, fun tuple => keyMetaTuple_of_length⟩
  · refine entryPerItem_of_mapM ?_ fun base item entry => removeEntry_of_prepare
    intro keys entries h
    obtain ⟨args, hargs, rfl⟩ := map_eq_ok.mp h
    obtain ⟨_, base, records, hbase, hrecords, rfl⟩ := records_of_prepared hargs
    exact ⟨base, hbase, hrecords⟩
  · intro module function args
    refine entryPerItem_of_mapM ?_ fun base item entry => applyEntry_of_prepare
    intro keys entries h
    obtain ⟨args, hargs, rfl⟩ := map_eq_ok.mp h
    obtain ⟨_, base, records, hbase, hrecords, rfl⟩ := records_of_prepared hargs
    exact ⟨base, hbase, hrecords⟩
  · intro retry
    refine entryPerItem_of_mapM ?_ fun base item entry => writeEntry_of_prepare
    intro records entries h
    obtain ⟨args, hargs, rfl⟩ := map_eq_ok.mp h
    obtain ⟨_, base, records, hbase, hrecords, rfl⟩ := records_of_prepared hargs
    exact ⟨base, hbase, hrecords⟩

end AerospikePy.Batch
