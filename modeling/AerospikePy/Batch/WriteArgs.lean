import AerospikePy.Keys.Convert
import AerospikePy.Operations.Convert
import AerospikePy.Policies.Filter
import AerospikePy.Policies.Locking

/-!
# The policies of batch writes

`client_common.rs`: what `batch_operate` and `batch_write` make of their arguments. Both
read the batch-level policy from the same dict. `batch_write` also reads the write policy
of its records from it; `batch_operate` takes the default one.
-/

namespace AerospikePy.Batch

open AerospikePy.Core
open AerospikePy.Expressions
open AerospikePy.Keys
open AerospikePy.Lib.Fallible
open AerospikePy.Operations
open AerospikePy.Policies
open AerospikePy.Python
open AerospikePy.Values

/-- What lies outside the source, for keys and for policies. -/
structure BatchCrates where
  keys : KeyCrates
  policies : PolicyCrates

variable (crates : BatchCrates) (rt : Runtime) (debug : Value → String)

structure BatchOperateArgs where
  rustKeys : List Key
  batchPolicy : BatchPolicy
  readPolicy : BatchReadPolicy
  ops : List Operation
  hasWrite : Bool

def prepareBatchOperateArgs {heap : Nat → PyObj} (keys : List (KeyArg heap))
    (ops : List PyObj) (policy : Option Entries) : Except PyErr BatchOperateArgs := do
  let batchPolicy ← parseBatchPolicy crates.policies rt policy
  let readPolicy ← parseBatchReadPolicy crates.policies rt policy
  let (rustOps, hasWrite) ← pyOpsToRustChecked rt debug ops
  let rustKeys ← pyToKeys crates.keys rt keys
  return ⟨rustKeys, batchPolicy, readPolicy, rustOps, hasWrite⟩

/-- The entries of a batch that carry operations. -/
inductive BatchOperation where
  | readOps (policy : BatchReadPolicy) (key : Key) (ops : List Operation)
  | write (policy : BatchWritePolicy Expression) (key : Key) (ops : List Operation)

def BatchOperation.writePolicy : BatchOperation → Option (BatchWritePolicy Expression)
  | .readOps _ _ _ => none
  | .write policy _ _ => some policy

/-- The core client refuses a batch write without a write. -/
def BatchOperateArgs.toBatchOps (args : BatchOperateArgs) : List BatchOperation :=
  if args.hasWrite then
    args.rustKeys.map fun key => .write crates.policies.batchWrite key args.ops
  else args.rustKeys.map fun key => .readOps args.readPolicy key args.ops

def maxBinNameLen : Nat := 15

def pyBinToBin (entry : PyObj × PyObj) : Except PyErr Bin := do
  let name ← match entry.1 with
    | .str s => extractString (.str s)
    | obj => .error (notAn obj "str")
  require (name ≠ "") ⟨.valueError, "Bin name must not be empty"⟩
  require (name.utf8ByteSize ≤ maxBinNameLen) ⟨.valueError,
    s!"Bin name '{name}' exceeds the 15-byte limit ({name.utf8ByteSize} bytes)"⟩
  let value ← pyToValue rt entry.2
  return ⟨name, value⟩

def pyDictToBins (dict : Entries) : Except PyErr (List Bin) := dict.mapM (pyBinToBin rt)

structure WriteRecord where
  key : Key
  bins : List Bin
  policy : BatchWritePolicy Expression

def castWith {α : Type} (cast : PyObj → Except PyErr α) (message : String) (obj : PyObj) :
    Except PyErr α :=
  match cast obj with
  | .ok a => .ok a
  | .error _ => .error ⟨.typeError, message⟩

theorem castWith_eq_ok {α : Type} {cast : PyObj → Except PyErr α} {message : String}
    {obj : PyObj} {a : α} : castWith cast message obj = .ok a ↔ cast obj = .ok a := by
  unfold castWith
  cases cast obj <;> simp

/-- One record: `(key, bins)`, or `(key, bins, meta)`. -/
def prepareRecord (base : BatchWritePolicy Expression) (item : PyObj) :
    Except PyErr WriteRecord := do
  let tuple ← castWith castTuple "Each record must be a tuple of (key, bins)" item
  match tuple with
  | keyObj :: binsObj :: rest => do
    let key ← pyToKey crates.keys rt keyObj
    let binsDict ← castWith castDict "bins element must be a dict" binsObj
    let bins ← pyDictToBins rt binsDict
    match rest with
    | [] => return ⟨key, bins, base⟩
    | metaObj :: _ => do
      let metaDict ← castWith castDict "meta element must be a dict" metaObj
      let policy ← applyRecordMeta base metaDict
      return ⟨key, bins, policy⟩
  | _ => .error ⟨.valueError, "Each record tuple must have at least 2 elements: (key, bins)"⟩

structure BatchWriteGenericArgs where
  records : List WriteRecord
  batchPolicy : BatchPolicy
  maxRetries : UInt32

def prepareBatchWriteArgs (records : List PyObj) (policy : Option Entries) (retry : UInt32) :
    Except PyErr BatchWriteGenericArgs := do
  let batchPolicy ← parseBatchPolicy crates.policies rt policy
  let baseWritePolicy ← parseBatchWritePolicy crates.policies rt policy
  let rustRecords ← records.mapM (prepareRecord crates rt baseWritePolicy)
  return ⟨rustRecords, batchPolicy, retry⟩

variable {crates rt debug}

/-- The integer that the dict has under this key, if there is one, is among these. -/
def IntAmong (policy : Option Entries) (key : String) (allowed : Int → Prop) : Prop :=
  ∀ val n, policyField policy key = some val → indexOf val = .ok n → allowed n

/-- No write key of the policy dict asks for something else than the default. -/
structure Plain (policy : Option Entries) : Prop where
  durableDelete : policyField policy "durable_delete" ≠ some (.bool true)
  key : IntAmong policy "key" (· ≠ 1)
  action : IntAmong policy "exists" fun n => n < 1 ∨ 4 < n
  gen : IntAmong policy "gen" fun n => n ≠ 1 ∧ n ≠ 2
  commitLevel : IntAmong policy "commit_level" (· ≠ 1)
  ttl : IntAmong policy "ttl" fun n => n = 0 ∨ n = -3
  filter : ∀ val, policyField policy "filter_expression" = some val → isExpression val = false

section Settings

variable {dict : Entries} {key : String}

/-- A setting that is read from an integer is the default exactly when the integer is
among those that stand for it. -/
theorem intField_default_iff {α : Type} {extract : PyObj → Except PyErr α} {allowed : Int → Prop}
    {default a : α}
    (hextract : ∀ val b, extract val = .ok b → ∃ n, indexOf val = .ok n ∧ (b = default ↔ allowed n))
    (h : field dict key extract default = .ok a) :
    default = a ↔ IntAmong (some dict) key allowed := by
  cases hval : getStr dict key with
  | none =>
    rw [field_of_none hval] at h
    refine iff_of_true (Except.ok.inj h) fun val n hsome => ?_
    rw [policyField_some, hval] at hsome
    cases hsome
  | some val =>
    rw [field_of_some hval] at h
    obtain ⟨n, hindex, hdefault⟩ := hextract val a h
    rw [eq_comm, hdefault]
    constructor
    · intro hallowed val' n' hsome hn'
      obtain rfl : val = val' := Option.some.inj (hval.symm.trans hsome)
      obtain rfl : n = n' := Except.ok.inj (hindex.symm.trans hn')
      exact hallowed
    · exact fun hall => hall val n hval hindex

theorem extractAs_default_iff {α : Type} {parse : Int → α} {allowed : Int → Prop}
    {default a : α} (hparse : ∀ n, parse n = default ↔ allowed n)
    (h : field dict key (extractAs parse) default = .ok a) :
    default = a ↔ IntAmong (some dict) key allowed := by
  refine intField_default_iff (fun val b hb => ?_) h
  obtain ⟨n, hn, rfl⟩ := extractAs_eq_ok.mp hb
  exact ⟨n, (extractWithin_eq_ok.mp hn).1, hparse n⟩

theorem parseRecordExistsAction_update {n : Int} :
    parseRecordExistsAction n = .update ↔ n < 1 ∨ 4 < n := by
  rcases parseRecordExistsAction_member n with hcode | ⟨hupdate, hother⟩
  · cases hp : parseRecordExistsAction n <;> rw [hp] at hcode <;>
      simp only [recordExistsCode] at hcode <;> simp <;> omega
  · have hnot : ¬ (1 ≤ n ∧ n ≤ 4) := by
      intro hn
      have hone := hother .updateOnly
      have htwo := hother .replace
      have hthree := hother .replaceOnly
      have hfour := hother .createOnly
      simp only [recordExistsCode] at hone htwo hthree hfour
      omega
    exact iff_of_true hupdate (by omega)

theorem parseCommitLevel_all {n : Int} : parseCommitLevel n = .commitAll ↔ n ≠ 1 := by
  unfold parseCommitLevel
  split <;> simp_all

theorem parseTtl_default {ttl : Int64} {e : Expiration} (h : parseTtl ttl = .ok e) :
    e = .namespaceDefault ↔ ttl.toInt = 0 ∨ ttl.toInt = -3 := by
  unfold parseTtl at h
  dsimp only at h
  split_ifs at h <;>
    · obtain rfl := Except.ok.inj h
      simp_all

theorem durableDelete_default_iff {b : Bool}
    (h : field dict key extractBool false = .ok b) :
    false = b ↔ policyField (some dict) key ≠ some (.bool true) := by
  cases hval : getStr dict key with
  | none =>
    rw [field_of_none hval] at h
    refine iff_of_true (Except.ok.inj h) ?_
    rw [policyField_some, hval]
    simp
  | some val =>
    rw [field_of_some hval] at h
    rw [policyField_some, hval]
    cases val with
    | bool c =>
      obtain rfl := Except.ok.inj h
      cases c <;> simp
    | _ => cases h

theorem ttl_default_iff {e : Expiration}
    (h : field dict "ttl" extractTtl .namespaceDefault = .ok e) :
    .namespaceDefault = e ↔ IntAmong (some dict) "ttl" fun n => n = 0 ∨ n = -3 := by
  refine intField_default_iff (fun val b hb => ?_) h
  obtain ⟨ttl, httl, hparsed⟩ := bind_eq_ok.mp hb
  obtain ⟨n, hn, hofInt⟩ := bind_eq_ok.mp httl
  obtain ⟨hindex, hlo, hhi⟩ := extractWithin_eq_ok.mp hn
  obtain rfl := Except.ok.inj hofInt
  have hdefault := parseTtl_default hparsed
  rw [Int64.toInt_ofInt_of_le hlo (by omega)] at hdefault
  exact ⟨n, hindex, hdefault⟩

theorem filter_default_iff {filter : Option Expression}
    (h : extractFilterExpression rt dict = .ok filter) : none = filter ↔
      ∀ val, policyField (some dict) "filter_expression" = some val → isExpression val = false := by
  unfold extractFilterExpression at h
  rw [policyField_some]
  cases hval : getStr dict "filter_expression" with
  | none =>
    rw [hval] at h
    exact iff_of_true (Except.ok.inj h) (by simp)
  | some val =>
    rw [hval] at h
    dsimp only at h
    cases hexpr : isExpression val with
    | true =>
      rw [hexpr, if_pos rfl] at h
      obtain ⟨e, -, rfl⟩ := map_eq_ok.mp h
      simp [hexpr]
    | false =>
      rw [hexpr, if_neg (by simp)] at h
      obtain rfl := Except.ok.inj h
      simp [hexpr]

end Settings

theorem plain_none : Plain none := by
  constructor <;> simp [policyField, IntAmong]

/-- The write policy read from a dict is the default exactly when the dict asks for nothing. -/
theorem default_iff_plain (hdefault : crates.policies.batchWrite = .default)
    {policy : Option Entries} {base : BatchWritePolicy Expression}
    (h : parseBatchWritePolicy crates.policies rt policy = .ok base) :
    .default = base ↔ Plain policy := by
  cases policy with
  | none =>
    have hbase : crates.policies.batchWrite = base := Except.ok.inj h
    exact iff_of_true (hdefault ▸ hbase) plain_none
  | some dict =>
    have hread := policyRead_of_parseBatchWritePolicy h
    rw [hdefault] at hread
    have hgeneration : base.generation = 0 := hread.generation
    have hkey' := extractAs_default_iff (fun n => decide_eq_false_iff_not) hread.sendKey
    have haction' :=
      extractAs_default_iff (fun n => parseRecordExistsAction_update) hread.recordExistsAction
    have hgen' :=
      extractAs_default_iff (fun n => parseGenerationPolicy_none) hread.generationPolicy
    have hcommit' := extractAs_default_iff (fun n => parseCommitLevel_all) hread.commitLevel
    have hdurable' := durableDelete_default_iff hread.durableDelete
    have httl' := ttl_default_iff hread.expiration
    have hfilter' := filter_default_iff hread.filterExpression
    constructor
    · rintro rfl
      exact ⟨hdurable'.mp rfl, hkey'.mp rfl, haction'.mp rfl, hgen'.mp rfl, hcommit'.mp rfl,
        httl'.mp rfl, hfilter'.mp rfl⟩
    · intro hplain
      have hsend : false = base.sendKey := hkey'.mpr hplain.key
      have hexists : .update = base.recordExistsAction := haction'.mpr hplain.action
      have hpolicy : .none = base.generationPolicy := hgen'.mpr hplain.gen
      have hlevel : .commitAll = base.commitLevel := hcommit'.mpr hplain.commitLevel
      have hdelete : false = base.durableDelete := hdurable'.mpr hplain.durableDelete
      have hexpiration : .namespaceDefault = base.expiration := httl'.mpr hplain.ttl
      have hnone : none = base.filterExpression := hfilter'.mpr hplain.filter
      cases base
      simp only at hgeneration hsend hexists hpolicy hlevel hdelete hexpiration hnone
      rw [BatchWritePolicy.default, hgeneration, ← hsend, ← hexists, ← hpolicy, ← hlevel,
        ← hdelete, ← hexpiration, ← hnone]

/-- The third element of a record is its meta. -/
def WithoutMeta (item : PyObj) : Prop := ∃ key bins, item = .tuple [key, bins]

theorem prepareRecord_policy {base : BatchWritePolicy Expression} {item : PyObj}
    {record : WriteRecord} (hitem : WithoutMeta item)
    (h : prepareRecord crates rt base item = .ok record) : record.policy = base := by
  obtain ⟨key, bins, rfl⟩ := hitem
  obtain ⟨tuple, htuple, h⟩ := bind_eq_ok.mp h
  obtain rfl : [key, bins] = tuple := Except.ok.inj htuple
  obtain ⟨_, -, h⟩ := bind_eq_ok.mp h
  obtain ⟨_, -, h⟩ := bind_eq_ok.mp h
  obtain ⟨_, -, h⟩ := bind_eq_ok.mp h
  obtain rfl := Except.ok.inj h
  rfl

theorem prepareBatchWriteArgs_policy {records : List PyObj} {policy : Option Entries}
    {retry : UInt32} {args : BatchWriteGenericArgs} (hrecords : ∀ item ∈ records, WithoutMeta item)
    (h : prepareBatchWriteArgs crates rt records policy retry = .ok args) :
    ∃ base, parseBatchWritePolicy crates.policies rt policy = .ok base ∧
      parseBatchPolicy crates.policies rt policy = .ok args.batchPolicy ∧
      ∀ record ∈ args.records, record.policy = base := by
  obtain ⟨batchPolicy, hbatch, h⟩ := bind_eq_ok.mp h
  obtain ⟨base, hbase, h⟩ := bind_eq_ok.mp h
  obtain ⟨rustRecords, hmap, h⟩ := bind_eq_ok.mp h
  obtain rfl := Except.ok.inj h
  refine ⟨base, hbase, hbatch, fun record hrecord => ?_⟩
  obtain ⟨item, hitem, hprepared⟩ := exists_mem_of_forall₂ (mapM_eq_ok.mp hmap).flip hrecord
  exact prepareRecord_policy (hrecords item hitem) hprepared

theorem filter_of_batchPolicy {policy : Option Entries} {batch : BatchPolicy}
    {base : BatchWritePolicy Expression}
    (hnone : crates.policies.batch.filterExpression = crates.policies.batchWrite.filterExpression)
    (hbatch : parseBatchPolicy crates.policies rt policy = .ok batch)
    (hbase : parseBatchWritePolicy crates.policies rt policy = .ok base) :
    batch.filterExpression = base.filterExpression := by
  cases policy with
  | none =>
    obtain rfl := Except.ok.inj hbatch
    obtain rfl := Except.ok.inj hbase
    exact hnone
  | some dict =>
    have hsame := (filter_parseBatchPolicy hbatch).symm.trans (filter_parseBatchWritePolicy hbase)
    exact Except.ok.inj hsame

theorem prepareBatchOperateArgs_batchPolicy {heap : Nat → PyObj} {keys : List (KeyArg heap)}
    {ops : List PyObj} {policy : Option Entries} {args : BatchOperateArgs}
    (h : prepareBatchOperateArgs crates rt debug keys ops policy = .ok args) :
    parseBatchPolicy crates.policies rt policy = .ok args.batchPolicy := by
  obtain ⟨batchPolicy, hbatch, h⟩ := bind_eq_ok.mp h
  obtain ⟨_, -, h⟩ := bind_eq_ok.mp h
  obtain ⟨⟨rustOps, hasWrite⟩, -, h⟩ := bind_eq_ok.mp h
  obtain ⟨_, -, h⟩ := bind_eq_ok.mp h
  obtain rfl := Except.ok.inj h
  exact hbatch

theorem toBatchOps_policy {args : BatchOperateArgs} (hwrite : args.hasWrite = true)
    {op : BatchOperation} (hop : op ∈ args.toBatchOps crates) :
    op.writePolicy = some crates.policies.batchWrite := by
  unfold BatchOperateArgs.toBatchOps at hop
  rw [if_pos hwrite] at hop
  obtain ⟨key, -, rfl⟩ := List.mem_map.mp hop
  rfl

/-- What lies outside attaches no policy of its own: the defaults of the core client. -/
structure BatchCrates.Defaults (crates : BatchCrates) : Prop where
  batchWrite : crates.policies.batchWrite = .default
  batch : crates.policies.batch.filterExpression = none

/-- `batch_operate` writes under the default policy; that is the policy of `batch_write`
exactly when the dict asks for nothing else. The batch-level policies are the same, and
they carry the filter. -/
theorem batchOperate_policies (hcrates : crates.Defaults) {heap : Nat → PyObj}
    {keys : List (KeyArg heap)} {ops records : List PyObj} {policy : Option Entries}
    {retry : UInt32} {args : BatchOperateArgs} {writeArgs : BatchWriteGenericArgs}
    (hoperate : prepareBatchOperateArgs crates rt debug keys ops policy = .ok args)
    (hargs : prepareBatchWriteArgs crates rt records policy retry = .ok writeArgs)
    (hwrite : args.hasWrite = true) (hrecords : ∀ item ∈ records, WithoutMeta item) :
    args.batchPolicy = writeArgs.batchPolicy ∧
      ∀ op ∈ args.toBatchOps crates, op.writePolicy = some .default ∧
        ∀ record ∈ writeArgs.records,
          (op.writePolicy = some record.policy ↔ Plain policy) ∧
            args.batchPolicy.filterExpression = record.policy.filterExpression := by
  obtain ⟨base, hbase, hbatch, hall⟩ := prepareBatchWriteArgs_policy hrecords hargs
  have hbatchOperate := prepareBatchOperateArgs_batchPolicy hoperate
  have hsame : args.batchPolicy = writeArgs.batchPolicy :=
    Except.ok.inj (hbatchOperate.symm.trans hbatch)
  refine ⟨hsame, fun op hop => ?_⟩
  have hpolicy := toBatchOps_policy hwrite hop
  rw [hcrates.batchWrite] at hpolicy
  refine ⟨hpolicy, fun record hrecord => ?_⟩
  rw [hall record hrecord, hpolicy]
  have hfilter : crates.policies.batch.filterExpression =
      crates.policies.batchWrite.filterExpression := by
    rw [hcrates.batch, hcrates.batchWrite]
    rfl
  refine ⟨?_, filter_of_batchPolicy hfilter hbatchOperate hbase⟩
  rw [Option.some.injEq]
  exact default_iff_plain hcrates.batchWrite hbase

/-- A key with its digest, which is not hashed again. -/
def digestedKey : List PyObj :=
  [.str "test", .str "demo", .bytes [107], .bytes (List.replicate 20 0)]

def digestedArg : KeyArg fun i => digestedKey.getD i .none where
  obj := .tuple digestedKey
  address := id
  stored tuple h i x hx := by
    obtain rfl := PyObj.tuple.inj h
    rw [id, List.getD_eq_getElem?_getD, hx, Option.getD_some]

def coreDefaults : BatchCrates :=
  ⟨⟨fun _ => [], fun ns set v => .ok ⟨ns, set, some v, []⟩⟩, .default⟩

def increment : PyObj := .dict [(.str "op", .int 5), (.str "bin", .str "n"), (.str "val", .int 1)]

def emptyRecord : PyObj := .tuple [.tuple digestedKey, .dict []]

theorem batchOperate_policies_plain :
    ∃ args writeArgs,
      prepareBatchOperateArgs coreDefaults .plain (fun _ => "") [digestedArg] [increment]
        (some [(.str "ttl", .int 0)]) = .ok args ∧
      prepareBatchWriteArgs coreDefaults .plain [emptyRecord] (some [(.str "ttl", .int 0)]) 0 =
        .ok writeArgs ∧
      (args.toBatchOps coreDefaults).length = 1 ∧ writeArgs.records.length = 1 ∧
      ∀ op ∈ args.toBatchOps coreDefaults, ∀ record ∈ writeArgs.records,
        op.writePolicy = some record.policy ↔ Plain (some [(.str "ttl", .int 0)]) := by
  have hoperate : ∃ args, prepareBatchOperateArgs coreDefaults .plain (fun _ => "") [digestedArg]
      [increment] (some [(.str "ttl", .int 0)]) = .ok args ∧ args.hasWrite = true ∧
        (args.toBatchOps coreDefaults).length = 1 := ⟨_, rfl, rfl, rfl⟩
  have hargs : ∃ writeArgs, prepareBatchWriteArgs coreDefaults .plain [emptyRecord]
      (some [(.str "ttl", .int 0)]) 0 = .ok writeArgs ∧ writeArgs.records.length = 1 :=
    ⟨_, rfl, rfl⟩
  obtain ⟨args, hoperate, hwrite, hops⟩ := hoperate
  obtain ⟨writeArgs, hargs, hlength⟩ := hargs
  have hpolicies := batchOperate_policies ⟨rfl, rfl⟩ hoperate hargs hwrite
    (by simp [WithoutMeta, emptyRecord])
  exact ⟨args, writeArgs, hoperate, hargs, hops, hlength,
    fun op hop record hrecord => ((hpolicies.2 op hop).2 record hrecord).1⟩

/-- A create-only increment runs as an upsert. -/
theorem batchOperate_action_dropped :
    ∃ args writeArgs,
      prepareBatchOperateArgs coreDefaults .plain (fun _ => "") [digestedArg] [increment]
        (some [(.str "exists", .int 4)]) = .ok args ∧ args.hasWrite = true ∧
      prepareBatchWriteArgs coreDefaults .plain [emptyRecord] (some [(.str "exists", .int 4)]) 0 =
        .ok writeArgs ∧
      (args.toBatchOps coreDefaults).map (fun op => op.writePolicy.map (·.recordExistsAction)) =
        [some .update] ∧
      writeArgs.records.map (fun record => record.policy.recordExistsAction) = [.createOnly] :=
  ⟨_, _, rfl, rfl, rfl, rfl, rfl⟩

end AerospikePy.Batch
