import AerospikePy.Policies.Fields

/-!
# Policy parsers

`read_policy.rs`, `write_policy.rs`, `batch_policy.rs` and `query_policy.rs`. The default
policies are those of `aerospike_core`, but a write is not retried by default.
-/

namespace AerospikePy.Policies

open AerospikePy.Core
open AerospikePy.Expressions
open AerospikePy.Lib.Fallible
open AerospikePy.Python
open AerospikePy.Values

structure BasePolicy where
  socketTimeout : UInt32
  totalTimeout : UInt32
  maxRetries : UInt64
  sleepBetweenRetries : UInt32
  timeoutDelay : UInt32
  consistencyLevel : ConsistencyLevel
  readTouchTtl : ReadTouchTTL
  filterExpression : Option Expression

structure ReadPolicy where
  basePolicy : BasePolicy
  replica : Replica

structure WritePolicy where
  basePolicy : BasePolicy
  recordExistsAction : RecordExistsAction
  generationPolicy : GenerationPolicy
  commitLevel : CommitLevel
  generation : UInt32
  expiration : Expiration
  sendKey : Bool
  durableDelete : Bool

structure BatchPolicy where
  basePolicy : BasePolicy
  replica : Replica
  concurrency : Concurrency
  allowInline : Bool
  allowInlineSsd : Bool
  respondAllKeys : Bool
  filterExpression : Option Expression

structure BatchReadPolicy where
  readTouchTtl : ReadTouchTTL
  filterExpression : Option Expression

structure BatchDeletePolicy where
  sendKey : Bool
  generationPolicy : GenerationPolicy
  generation : UInt32
  commitLevel : CommitLevel
  durableDelete : Bool
  filterExpression : Option Expression

structure BatchUDFPolicy where
  sendKey : Bool
  commitLevel : CommitLevel
  expiration : Expiration
  durableDelete : Bool
  filterExpression : Option Expression

structure QueryPolicy where
  basePolicy : BasePolicy
  replica : Replica
  expectedDuration : QueryDuration
  maxRecords : UInt64
  recordsPerSecond : UInt32
  maxConcurrentNodes : UInt64
  recordQueueSize : UInt64
  includeBinData : Bool

/-- The partitions that a query covers. -/
structure PartitionFilter where
  start : Nat
  count : Nat
  deriving DecidableEq, Repr

def PartitionFilter.all : PartitionFilter := ⟨0, 4096⟩

/-- What lies outside the source: the defaults of `aerospike_core`, and the filter that
an instance of the `PartitionFilter` class holds. -/
structure PolicyCrates where
  read : ReadPolicy
  write : WritePolicy
  batch : BatchPolicy
  batchRead : BatchReadPolicy
  batchWrite : BatchWritePolicy Expression
  batchDelete : BatchDeletePolicy
  batchUdf : BatchUDFPolicy
  query : QueryPolicy
  partitionFilter : PyInstance → Option PartitionFilter

def BasePolicy.default : BasePolicy where
  socketTimeout := 30000
  totalTimeout := 1000
  maxRetries := 2
  sleepBetweenRetries := 0
  timeoutDelay := 0
  consistencyLevel := .consistencyOne
  readTouchTtl := .serverDefault
  filterExpression := none

/-- The crate, with no `PartitionFilter` instance alive. -/
def PolicyCrates.default : PolicyCrates where
  read := ⟨.default, .sequence⟩
  write := ⟨.default, .update, .none, .commitAll, 0, .namespaceDefault, false, false⟩
  batch := ⟨.default, .sequence, .parallel, true, false, true, none⟩
  batchRead := ⟨.serverDefault, none⟩
  batchWrite := .default
  batchDelete := ⟨false, .none, 0, .commitAll, false, none⟩
  batchUdf := ⟨false, .commitAll, .namespaceDefault, false, none⟩
  query := ⟨.default, .sequence, .long, 0, 0, 0, 1024, true⟩
  partitionFilter _ := none

variable (crates : PolicyCrates) (rt : Runtime)

/-- The five fields that begin each of these parsers. -/
def extractTimeouts (dict : Entries) (base : BasePolicy) : Except PyErr BasePolicy := do
  let socketTimeout ← field dict "socket_timeout" extractU32 base.socketTimeout
  let totalTimeout ← field dict "total_timeout" extractU32 base.totalTimeout
  let maxRetries ← field dict "max_retries" extractU64 base.maxRetries
  let sleepBetweenRetries ← field dict "sleep_between_retries" extractU32 base.sleepBetweenRetries
  let timeoutDelay ← field dict "timeout_delay" extractU32 base.timeoutDelay
  return { base with
    socketTimeout := socketTimeout, totalTimeout := totalTimeout, maxRetries := maxRetries,
    sleepBetweenRetries := sleepBetweenRetries, timeoutDelay := timeoutDelay }

def extractReadSettings (dict : Entries) (base : BasePolicy) : Except PyErr BasePolicy := do
  let consistencyLevel ←
    field dict "read_mode_ap" (extractAs parseConsistencyLevel) base.consistencyLevel
  let readTouchTtl ← field dict "read_touch_ttl_percent" extractReadTouchTtl base.readTouchTtl
  return { base with consistencyLevel := consistencyLevel, readTouchTtl := readTouchTtl }

def parseReadPolicy (policyDict : Option Entries) : Except PyErr ReadPolicy :=
  let policy := crates.read
  match policyDict with
  | none => .ok policy
  | some dict => do
    let base ← extractTimeouts dict policy.basePolicy
    let replica ← field dict "replica" (extractAs parseReplica) policy.replica
    let base ← extractReadSettings dict base
    let filter ← extractFilterExpression rt dict
    return ⟨{ base with filterExpression := filter }, replica⟩

def defaultWritePolicy : WritePolicy :=
  { crates.write with basePolicy := { crates.write.basePolicy with maxRetries := 0 } }

/-- The settings of a `WriteMeta` dict. Its `gen` is an expected generation. -/
def applyWriteMeta (policy : WritePolicy) (metaDict : Option Entries) :
    Except PyErr WritePolicy :=
  match metaDict with
  | none => .ok policy
  | some metaDict => do
    let generation ← field metaDict "gen" extractU32 policy.generation
    let generationPolicy := match getStr metaDict "gen" with
      | some _ => .expectGenEqual
      | none => policy.generationPolicy
    let expiration ← field metaDict "ttl" extractTtl policy.expiration
    let sendKey ← field metaDict "key" extractSendKey policy.sendKey
    let recordExistsAction ←
      field metaDict "exists" (extractAs parseRecordExistsAction) policy.recordExistsAction
    let commitLevel ← field metaDict "commit_level" (extractAs parseCommitLevel) policy.commitLevel
    let durableDelete ← field metaDict "durable_delete" extractBool policy.durableDelete
    return { policy with
      generation := generation, generationPolicy := generationPolicy, expiration := expiration,
      sendKey := sendKey, recordExistsAction := recordExistsAction, commitLevel := commitLevel,
      durableDelete := durableDelete }

/-- The meta dict comes first; the policy dict overrides what both of them set. -/
def parseWritePolicy (policyDict metaDict : Option Entries) : Except PyErr WritePolicy := do
  let policy ← applyWriteMeta (defaultWritePolicy crates) metaDict
  match policyDict with
  | none => return policy
  | some dict => do
    let base ← extractTimeouts dict policy.basePolicy
    let durableDelete ← field dict "durable_delete" extractBool policy.durableDelete
    let sendKey ← field dict "key" extractSendKey policy.sendKey
    let recordExistsAction ←
      field dict "exists" (extractAs parseRecordExistsAction) policy.recordExistsAction
    let generationPolicy ←
      field dict "gen" (extractAs parseGenerationPolicy) policy.generationPolicy
    let commitLevel ← field dict "commit_level" (extractAs parseCommitLevel) policy.commitLevel
    let expiration ← field dict "ttl" extractTtl policy.expiration
    let base ← extractReadSettings dict base
    let filter ← extractFilterExpression rt dict
    return { policy with
      basePolicy := { base with filterExpression := filter }, durableDelete := durableDelete,
      sendKey := sendKey, recordExistsAction := recordExistsAction,
      generationPolicy := generationPolicy, commitLevel := commitLevel, expiration := expiration }

def parseBatchPolicy (policyDict : Option Entries) : Except PyErr BatchPolicy :=
  let policy := crates.batch
  match policyDict with
  | none => .ok policy
  | some dict => do
    let base ← extractTimeouts dict policy.basePolicy
    let allowInline ← field dict "allow_inline" extractBool policy.allowInline
    let allowInlineSsd ← field dict "allow_inline_ssd" extractBool policy.allowInlineSsd
    let respondAllKeys ← field dict "respond_all_keys" extractBool policy.respondAllKeys
    let replica ← field dict "replica" (extractAs parseReplica) policy.replica
    let base ← extractReadSettings dict base
    let concurrency ←
      field dict "concurrency" (fun val => extractI64 val >>= parseConcurrency) policy.concurrency
    let filter ← extractFilterExpression rt dict
    return ⟨base, replica, concurrency, allowInline, allowInlineSsd, respondAllKeys, filter⟩

def parseBatchWritePolicy (policyDict : Option Entries) :
    Except PyErr (BatchWritePolicy Expression) :=
  let policy := crates.batchWrite
  match policyDict with
  | none => .ok policy
  | some dict => do
    let durableDelete ← field dict "durable_delete" extractBool policy.durableDelete
    let sendKey ← field dict "key" extractSendKey policy.sendKey
    let recordExistsAction ←
      field dict "exists" (extractAs parseRecordExistsAction) policy.recordExistsAction
    let generationPolicy ←
      field dict "gen" (extractAs parseGenerationPolicy) policy.generationPolicy
    let commitLevel ← field dict "commit_level" (extractAs parseCommitLevel) policy.commitLevel
    let expiration ← field dict "ttl" extractTtl policy.expiration
    let filter ← extractFilterExpression rt dict
    return { policy with
      durableDelete := durableDelete, sendKey := sendKey,
      recordExistsAction := recordExistsAction, generationPolicy := generationPolicy,
      commitLevel := commitLevel, expiration := expiration, filterExpression := filter }

def parseBatchReadPolicy (policyDict : Option Entries) : Except PyErr BatchReadPolicy :=
  let policy := crates.batchRead
  match policyDict with
  | none => .ok policy
  | some dict => do
    let readTouchTtl ← field dict "read_touch_ttl_percent" extractReadTouchTtl policy.readTouchTtl
    let filter ← extractFilterExpression rt dict
    return ⟨readTouchTtl, filter⟩

def parseBatchDeletePolicy (policyDict : Option Entries) : Except PyErr BatchDeletePolicy :=
  let policy := crates.batchDelete
  match policyDict with
  | none => .ok policy
  | some dict => do
    let durableDelete ← field dict "durable_delete" extractBool policy.durableDelete
    let sendKey ← field dict "key" extractSendKey policy.sendKey
    let generationPolicy ←
      field dict "gen" (extractAs parseGenerationPolicy) policy.generationPolicy
    let commitLevel ← field dict "commit_level" (extractAs parseCommitLevel) policy.commitLevel
    let filter ← extractFilterExpression rt dict
    return { policy with
      durableDelete := durableDelete, sendKey := sendKey, generationPolicy := generationPolicy,
      commitLevel := commitLevel, filterExpression := filter }

def parseBatchUdfPolicy (policyDict : Option Entries) : Except PyErr BatchUDFPolicy :=
  let policy := crates.batchUdf
  match policyDict with
  | none => .ok policy
  | some dict => do
    let durableDelete ← field dict "durable_delete" extractBool policy.durableDelete
    let sendKey ← field dict "key" extractSendKey policy.sendKey
    let commitLevel ← field dict "commit_level" (extractAs parseCommitLevel) policy.commitLevel
    let expiration ← field dict "ttl" extractTtl policy.expiration
    let filter ← extractFilterExpression rt dict
    return ⟨sendKey, commitLevel, expiration, durableDelete, filter⟩

def parsePartitionFilter (dict : Entries) : Except PyErr (Option PartitionFilter) :=
  match getStr dict "partition_filter" with
  | none => .ok none
  | some (.other i) => match crates.partitionFilter i with
    | some filter => .ok (some filter)
    | none => .error notAFilter
  | some _ => .error notAFilter
where
  notAFilter := ⟨.typeError, "policy['partition_filter'] must be a PartitionFilter instance "
    ++ "returned by aerospike_py.partition_filter_all/_by_id/_by_range"⟩

def parseQueryPolicy (policyDict : Option Entries) : Except PyErr (QueryPolicy × PartitionFilter) :=
  let policy := crates.query
  match policyDict with
  | none => .ok (policy, .all)
  | some dict => do
    let base ← extractTimeouts dict policy.basePolicy
    let maxRecords ← field dict "max_records" extractU64 policy.maxRecords
    let recordsPerSecond ← field dict "records_per_second" extractU32 policy.recordsPerSecond
    let maxConcurrentNodes ←
      field dict "max_concurrent_nodes" extractU64 policy.maxConcurrentNodes
    let recordQueueSize ← field dict "record_queue_size" extractU64 policy.recordQueueSize
    let includeBinData ← field dict "include_bin_data" extractBool policy.includeBinData
    let replica ← field dict "replica" (extractAs parseReplica) policy.replica
    let base ← extractReadSettings dict base
    let expectedDuration ←
      field dict "expected_duration" (extractAs parseQueryDuration) policy.expectedDuration
    let filter ← extractFilterExpression rt dict
    let partitionFilter ← parsePartitionFilter crates dict
    return (⟨{ base with filterExpression := filter }, replica, expectedDuration, maxRecords,
      recordsPerSecond, maxConcurrentNodes, recordQueueSize, includeBinData⟩,
      partitionFilter.getD .all)

end AerospikePy.Policies
