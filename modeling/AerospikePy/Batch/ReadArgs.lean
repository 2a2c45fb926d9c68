import AerospikePy.Batch.RecordArgs

/-!
# The arguments of reads

`client_common.rs`: what `get`, `select`, `exists` and `batch_read` make of their arguments.
The first three parse a read policy. `batch_read` parses two policies from the same dict,
one of the batch and one of its reads, which have the settings of a read policy between
them.
-/

namespace AerospikePy.Batch

open AerospikePy.Core
open AerospikePy.Expressions
open AerospikePy.Keys
open AerospikePy.Lib.Fallible
open AerospikePy.Policies
open AerospikePy.Python
open AerospikePy.Values

variable (crates : BatchCrates) (rt : Runtime)

/-- `aerospike_core::Bins`. -/
inductive Bins where
  | all
  | none
  | some (names : List String)

inductive ReadPolicyChoice where
  | default
  | custom (policy : ReadPolicy)

def readPolicyChoice (policy : Option Entries) : Except PyErr ReadPolicyChoice :=
  match policy with
  | none => .ok .default
  | some _ => .custom <$> parseReadPolicy crates.policies rt policy

def ReadPolicyChoice.readPolicy : ReadPolicyChoice → ReadPolicy
  | .default => crates.policies.read
  | .custom policy => policy

structure GetArgs where
  key : Key
  policy : ReadPolicyChoice

def prepareGetArgs (key : PyObj) (policy : Option Entries) : Except PyErr GetArgs := do
  let rustKey ← pyToKey crates.keys rt key
  let readPolicy ← readPolicyChoice crates rt policy
  return ⟨rustKey, readPolicy⟩

structure SelectArgs where
  key : Key
  binNames : List String
  policy : ReadPolicyChoice

def prepareSelectArgs (key : PyObj) (bins : List PyObj) (policy : Option Entries) :
    Except PyErr SelectArgs := do
  let rustKey ← pyToKey crates.keys rt key
  let binNames ← bins.mapM extractString
  let readPolicy ← readPolicyChoice crates rt policy
  return ⟨rustKey, binNames, readPolicy⟩

def SelectArgs.binsSelector (args : SelectArgs) : Bins := .some args.binNames

structure ExistsArgs where
  key : Key
  readPolicy : ReadPolicy

def prepareExistsArgs (key : PyObj) (policy : Option Entries) : Except PyErr ExistsArgs := do
  let rustKey ← pyToKey crates.keys rt key
  let readPolicy ← match policy with
    | none => .ok crates.policies.read
    | some _ => parseReadPolicy crates.policies rt policy
  return ⟨rustKey, readPolicy⟩

structure BatchReadArgs where
  rustKeys : List Key
  batchPolicy : BatchPolicy
  readPolicy : BatchReadPolicy
  binsSelector : Bins
  batchNs : String
  batchSet : String

/-- No names are all bins, and an empty list of them is none. -/
def binsSelector : Option (List String) → Bins
  | none => .all
  | some [] => .none
  | some names => .some names

def prepareBatchReadArgs {heap : Nat → PyObj} (keys : List (KeyArg heap))
    (bins : Option (List String)) (policy : Option Entries) : Except PyErr BatchReadArgs := do
  let batchPolicy ← parseBatchPolicy crates.policies rt policy
  let readPolicy ← parseBatchReadPolicy crates.policies rt policy
  let rustKeys ← pyToKeys crates.keys rt keys
  return ⟨rustKeys, batchPolicy, readPolicy, binsSelector bins, (batchPlace rustKeys).1,
    (batchPlace rustKeys).2⟩

/-- `BatchOperation::read`. -/
structure BatchRead where
  policy : BatchReadPolicy
  key : Key
  bins : Bins

def BatchReadArgs.toBatchOps (args : BatchReadArgs) : List BatchRead :=
  args.rustKeys.map fun k => ⟨args.readPolicy, k, args.binsSelector⟩

section Parsers

variable {dict : Entries} {α β : Type}

/-- A field that is absent or has a value of its type. -/
def Readable (dict : Entries) (key : String) (extract : PyObj → Except PyErr α) : Prop :=
  ∀ val, getStr dict key = some val → Succeeds (extract val)

theorem succeeds_bind_of {x : Except PyErr α} {f : α → Except PyErr β} {p q : Prop}
    (hx : Succeeds x ↔ p) (hf : ∀ a, Succeeds (f a) ↔ q) : Succeeds (x >>= f) ↔ p ∧ q := by
  rw [succeeds_bind_iff fun a _ => hf a, hx]

theorem succeeds_field {key : String} {extract : PyObj → Except PyErr α} {current : α} :
    Succeeds (field dict key extract current) ↔ Readable dict key extract := by
  unfold field Readable
  cases getStr dict key with
  | none => simp
  | some val => simp

structure TimeoutsReadable (dict : Entries) : Prop where
  socketTimeout : Readable dict "socket_timeout" extractU32
  totalTimeout : Readable dict "total_timeout" extractU32
  maxRetries : Readable dict "max_retries" extractU64
  sleepBetweenRetries : Readable dict "sleep_between_retries" extractU32
  timeoutDelay : Readable dict "timeout_delay" extractU32

theorem succeeds_extractTimeouts {base : BasePolicy} :
    Succeeds (extractTimeouts dict base) ↔ TimeoutsReadable dict := by
  have h : Succeeds (extractTimeouts dict base) ↔ Readable dict "socket_timeout" extractU32 ∧
      Readable dict "total_timeout" extractU32 ∧ Readable dict "max_retries" extractU64 ∧
        Readable dict "sleep_between_retries" extractU32 ∧
          Readable dict "timeout_delay" extractU32 :=
    succeeds_bind_of succeeds_field fun _ => succeeds_bind_of succeeds_field fun _ =>
      succeeds_bind_of succeeds_field fun _ => succeeds_bind_of succeeds_field fun _ =>
        succeeds_bind_pure.trans succeeds_field
  rw [h]
  constructor
  · intro hall
    obtain ⟨h₁, h₂, h₃, h₄, h₅⟩ := hall
    exact ⟨h₁, h₂, h₃, h₄, h₅⟩
  · intro hall
    exact ⟨hall.socketTimeout, hall.totalTimeout, hall.maxRetries, hall.sleepBetweenRetries,
      hall.timeoutDelay⟩

structure ReadSettingsReadable (dict : Entries) : Prop where
  readModeAp : Readable dict "read_mode_ap" (extractAs parseConsistencyLevel)
  readTouchTtl : Readable dict "read_touch_ttl_percent" extractReadTouchTtl

theorem succeeds_extractReadSettings {base : BasePolicy} :
    Succeeds (extractReadSettings dict base) ↔ ReadSettingsReadable dict := by
  have h : Succeeds (extractReadSettings dict base) ↔
      Readable dict "read_mode_ap" (extractAs parseConsistencyLevel) ∧
        Readable dict "read_touch_ttl_percent" extractReadTouchTtl :=
    succeeds_bind_of succeeds_field fun _ => succeeds_bind_pure.trans succeeds_field
  exact h.trans ⟨fun hall => ⟨hall.1, hall.2⟩, fun hall => ⟨hall.1, hall.2⟩⟩

/-- The settings that only a batch has. -/
structure BatchSettings (dict : Entries) : Prop where
  allowInline : Readable dict "allow_inline" extractBool
  allowInlineSsd : Readable dict "allow_inline_ssd" extractBool
  respondAllKeys : Readable dict "respond_all_keys" extractBool
  concurrency : Readable dict "concurrency" fun val => extractI64 val >>= parseConcurrency

variable {crates rt}

theorem succeeds_parseReadPolicy : Succeeds (parseReadPolicy crates.policies rt (some dict)) ↔
    TimeoutsReadable dict ∧ Readable dict "replica" (extractAs parseReplica) ∧
      ReadSettingsReadable dict ∧ Succeeds (extractFilterExpression rt dict) :=
  succeeds_bind_of succeeds_extractTimeouts fun _ => succeeds_bind_of succeeds_field fun _ =>
    succeeds_bind_of succeeds_extractReadSettings fun _ => succeeds_bind_pure

theorem succeeds_parseBatchPolicy : Succeeds (parseBatchPolicy crates.policies rt (some dict)) ↔
    TimeoutsReadable dict ∧ Readable dict "allow_inline" extractBool ∧
      Readable dict "allow_inline_ssd" extractBool ∧
        Readable dict "respond_all_keys" extractBool ∧
          Readable dict "replica" (extractAs parseReplica) ∧ ReadSettingsReadable dict ∧
            Readable dict "concurrency" (fun val => extractI64 val >>= parseConcurrency) ∧
              Succeeds (extractFilterExpression rt dict) :=
  succeeds_bind_of succeeds_extractTimeouts fun _ => succeeds_bind_of succeeds_field fun _ =>
    succeeds_bind_of succeeds_field fun _ => succeeds_bind_of succeeds_field fun _ =>
      succeeds_bind_of succeeds_field fun _ =>
        succeeds_bind_of succeeds_extractReadSettings fun _ =>
          succeeds_bind_of succeeds_field fun _ => succeeds_bind_pure

theorem succeeds_parseBatchReadPolicy :
    Succeeds (parseBatchReadPolicy crates.policies rt (some dict)) ↔
      Readable dict "read_touch_ttl_percent" extractReadTouchTtl ∧
        Succeeds (extractFilterExpression rt dict) :=
  succeeds_bind_of succeeds_field fun _ => succeeds_bind_pure

/-- The dicts that `batch_read` takes are those that `get` takes with the settings of a
batch in order. -/
theorem batchPolicies_succeed_iff {policy : Option Entries} :
    Succeeds (parseBatchPolicy crates.policies rt policy) ∧
        Succeeds (parseBatchReadPolicy crates.policies rt policy) ↔
      (∀ dict ∈ policy, BatchSettings dict) ∧
        Succeeds (parseReadPolicy crates.policies rt policy) := by
  cases policy with
  | none => exact iff_of_true ⟨succeeds_ok _, succeeds_ok _⟩ ⟨nofun, succeeds_ok _⟩
  | some dict =>
    rw [succeeds_parseBatchPolicy, succeeds_parseBatchReadPolicy, succeeds_parseReadPolicy]
    constructor
    · intro h
      obtain ⟨hbatch, -⟩ := h
      obtain ⟨htimeouts, hinline, hssd, hrespond, hreplica, hsettings, hconcurrency, hfilter⟩ :=
        hbatch
      refine ⟨fun d hd => ?_, htimeouts, hreplica, hsettings, hfilter⟩
      obtain rfl := Option.some.inj hd
      exact ⟨hinline, hssd, hrespond, hconcurrency⟩
    · intro h
      obtain ⟨hbatch, htimeouts, hreplica, hsettings, hfilter⟩ := h
      obtain ⟨hinline, hssd, hrespond, hconcurrency⟩ := hbatch dict rfl
      exact ⟨⟨htimeouts, hinline, hssd, hrespond, hreplica, hsettings, hconcurrency, hfilter⟩,
        hsettings.readTouchTtl, hfilter⟩

end Parsers

/-- The settings that a read of a batch is served with. -/
def asRead (batchPolicy : BatchPolicy) (readPolicy : BatchReadPolicy) : ReadPolicy where
  basePolicy := { batchPolicy.basePolicy with
    readTouchTtl := readPolicy.readTouchTtl
    filterExpression := readPolicy.filterExpression <|> batchPolicy.filterExpression }
  replica := batchPolicy.replica

/-- The timeouts are read alike whatever the other settings are. -/
theorem extractTimeouts_with (dict : Entries) (base : BasePolicy) (touch : ReadTouchTTL)
    (filter : Option Expression) :
    extractTimeouts dict { base with readTouchTtl := touch, filterExpression := filter } =
      (fun b : BasePolicy => { b with readTouchTtl := touch, filterExpression := filter }) <$>
        extractTimeouts dict base := by
  simp only [extractTimeouts, map_bind, map_pure]

theorem extractReadSettings_eq_ok {dict : Entries} {base result : BasePolicy} :
    extractReadSettings dict base = .ok result ↔ ∃ level touch,
      field dict "read_mode_ap" (extractAs parseConsistencyLevel) base.consistencyLevel =
        .ok level ∧
      field dict "read_touch_ttl_percent" extractReadTouchTtl base.readTouchTtl = .ok touch ∧
      result = { base with consistencyLevel := level, readTouchTtl := touch } := by
  unfold extractReadSettings
  simp only [bind_eq_ok, pure_eq_ok, Except.ok.injEq]
  constructor
  · rintro ⟨level, hlevel, touch, htouch, rfl⟩
    exact ⟨level, touch, hlevel, htouch, rfl⟩
  · rintro ⟨level, touch, hlevel, htouch, rfl⟩
    exact ⟨level, hlevel, touch, htouch, rfl⟩

variable {crates rt}

/-- The two policies of a batch are together what `parse_read_policy` makes of the dict. -/
theorem parseReadPolicy_eq_asRead
    (hdefaults : crates.policies.read = asRead crates.policies.batch crates.policies.batchRead)
    {policy : Option Entries} {batchPolicy : BatchPolicy} {readPolicy : BatchReadPolicy}
    (hbatch : parseBatchPolicy crates.policies rt policy = .ok batchPolicy)
    (hread : parseBatchReadPolicy crates.policies rt policy = .ok readPolicy) :
    parseReadPolicy crates.policies rt policy = .ok (asRead batchPolicy readPolicy) := by
  cases policy with
  | none =>
    obtain rfl := Except.ok.inj hbatch
    obtain rfl := Except.ok.inj hread
    exact congrArg Except.ok hdefaults
  | some dict =>
    obtain ⟨base, hbase, hbatch⟩ := bind_eq_ok.mp hbatch
    iterate 3 obtain ⟨_, -, hbatch⟩ := bind_eq_ok.mp hbatch
    obtain ⟨replica, hreplica, hbatch⟩ := bind_eq_ok.mp hbatch
    obtain ⟨settings, hsettings, hbatch⟩ := bind_eq_ok.mp hbatch
    obtain ⟨_, -, hbatch⟩ := bind_eq_ok.mp hbatch
    obtain ⟨filter, hfilter, hbatch⟩ := bind_eq_ok.mp hbatch
    obtain rfl := Except.ok.inj hbatch
    obtain ⟨touch, htouch, hread⟩ := bind_eq_ok.mp hread
    obtain ⟨filter', hfilter', hread⟩ := bind_eq_ok.mp hread
    obtain rfl := Except.ok.inj hread
    obtain rfl := Except.ok.inj (hfilter.symm.trans hfilter')
    obtain ⟨level, touch', hlevel, -, rfl⟩ := extractReadSettings_eq_ok.mp hsettings
    unfold parseReadPolicy
    rw [hdefaults]
    dsimp only [asRead]
    rw [extractTimeouts_with, hbase]
    have hor : (filter <|> filter) = filter := by cases filter <;> rfl
    refine bind_eq_ok.mpr ⟨_, rfl, bind_eq_ok.mpr ⟨replica, hreplica, ?_⟩⟩
    refine bind_eq_ok.mpr ⟨_, extractReadSettings_eq_ok.mpr ⟨level, touch, hlevel, htouch, rfl⟩,
      bind_eq_ok.mpr ⟨filter, hfilter, ?_⟩⟩
    dsimp only
    rw [hor]
    rfl

theorem readPolicyChoice_of_parse {policy : Option Entries} {parsed : ReadPolicy}
    (h : parseReadPolicy crates.policies rt policy = .ok parsed) :
    ∃ choice, readPolicyChoice crates rt policy = .ok choice ∧
      choice.readPolicy crates = parsed := by
  cases policy with
  | none => exact ⟨.default, rfl, Except.ok.inj h⟩
  | some dict => exact ⟨.custom parsed, map_eq_ok.mpr ⟨parsed, h, rfl⟩, rfl⟩

theorem succeeds_prepareGetArgs {key : PyObj} {policy : Option Entries} :
    Succeeds (prepareGetArgs crates rt key policy) ↔
      Succeeds (pyToKey crates.keys rt key) ∧
        Succeeds (parseReadPolicy crates.policies rt policy) := by
  refine succeeds_bind_of Iff.rfl fun _ => succeeds_bind_pure.trans ?_
  cases policy with
  | none => exact iff_of_true (succeeds_ok _) (succeeds_ok _)
  | some dict => exact succeeds_map

/-- What `batch_read` takes is what `get` takes for every key, if the settings that only a
batch has are in order. -/
theorem succeeds_prepareBatchReadArgs {heap : Nat → PyObj} {keys : List (KeyArg heap)}
    {bins : Option (List String)} {policy : Option Entries} :
    Succeeds (prepareBatchReadArgs crates rt keys bins policy) ↔
      (∀ dict ∈ policy, BatchSettings dict) ∧
        Succeeds (parseReadPolicy crates.policies rt policy) ∧
          ∀ key ∈ keys, Succeeds (prepareGetArgs crates rt key.obj policy) := by
  have hkeys : Succeeds (pyToKeys crates.keys rt keys) ↔
      ∀ key ∈ keys, Succeeds (pyToKey crates.keys rt key.obj) := (pyToKeys_elementwise keys).1
  have h : Succeeds (prepareBatchReadArgs crates rt keys bins policy) ↔
      Succeeds (parseBatchPolicy crates.policies rt policy) ∧
        Succeeds (parseBatchReadPolicy crates.policies rt policy) ∧
          ∀ key ∈ keys, Succeeds (pyToKey crates.keys rt key.obj) :=
    succeeds_bind_of Iff.rfl fun _ => succeeds_bind_of Iff.rfl fun _ =>
      succeeds_bind_pure.trans hkeys
  rw [h, ← and_assoc, batchPolicies_succeed_iff, and_assoc]
  refine and_congr_right fun _ => and_congr_right fun hread => ?_
  refine forall₂_congr fun key _ => ?_
  rw [succeeds_prepareGetArgs]
  exact (and_iff_left hread).symm

end AerospikePy.Batch
