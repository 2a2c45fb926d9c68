import AerospikePy.Policies.Parse

/-!
# The meta of a record

`batch_policy.rs`: the meta dict of one record of a batch overrides the policy of the
batch. Its `gen` is an expected generation and not a generation policy. For a single
write the meta dict comes first and the policy dict overrides it.
-/

namespace AerospikePy.Policies

open AerospikePy.Core
open AerospikePy.Expressions
open AerospikePy.Lib.Fallible
open AerospikePy.Python
open AerospikePy.Values

def applyRecordMeta (base : BatchWritePolicy Expression) (metaDict : Entries) :
    Except PyErr (BatchWritePolicy Expression) := do
  let expiration ← field metaDict "ttl" extractTtl base.expiration
  let generation ← field metaDict "gen" extractU32 base.generation
  let generationPolicy := match getStr metaDict "gen" with
    | some _ => .expectGenEqual
    | none => base.generationPolicy
  let sendKey ← field metaDict "key" extractSendKey base.sendKey
  let recordExistsAction ←
    field metaDict "exists" (extractAs parseRecordExistsAction) base.recordExistsAction
  let commitLevel ← field metaDict "commit_level" (extractAs parseCommitLevel) base.commitLevel
  let durableDelete ← field metaDict "durable_delete" extractBool base.durableDelete
  return { base with
    expiration := expiration, generation := generation, generationPolicy := generationPolicy,
    sendKey := sendKey, recordExistsAction := recordExistsAction, commitLevel := commitLevel,
    durableDelete := durableDelete }

def applyRecordMetaForDelete (base : BatchDeletePolicy) (metaDict : Entries) :
    Except PyErr BatchDeletePolicy := do
  let generation ← field metaDict "gen" extractU32 base.generation
  let generationPolicy := match getStr metaDict "gen" with
    | some _ => .expectGenEqual
    | none => base.generationPolicy
  let sendKey ← field metaDict "key" extractSendKey base.sendKey
  let commitLevel ← field metaDict "commit_level" (extractAs parseCommitLevel) base.commitLevel
  let durableDelete ← field metaDict "durable_delete" extractBool base.durableDelete
  return { base with
    generation := generation, generationPolicy := generationPolicy, sendKey := sendKey,
    commitLevel := commitLevel, durableDelete := durableDelete }

/-- The module, the function and the arguments of a meta dict are not settings. -/
def applyRecordMetaForApply (base : BatchUDFPolicy) (metaDict : Entries) :
    Except PyErr BatchUDFPolicy := do
  let expiration ← field metaDict "ttl" extractTtl base.expiration
  let sendKey ← field metaDict "key" extractSendKey base.sendKey
  let commitLevel ← field metaDict "commit_level" (extractAs parseCommitLevel) base.commitLevel
  let durableDelete ← field metaDict "durable_delete" extractBool base.durableDelete
  return { base with
    expiration := expiration, sendKey := sendKey, commitLevel := commitLevel,
    durableDelete := durableDelete }

/-- The generation policy that goes with the `gen` of a meta dict. -/
def metaGeneration (metaDict : Entries) (current : GenerationPolicy) : GenerationPolicy :=
  match getStr metaDict "gen" with
  | some _ => .expectGenEqual
  | none => current

theorem metaGeneration_of_some {metaDict : Entries} {gen : PyObj}
    (h : getStr metaDict "gen" = some gen) (current : GenerationPolicy) :
    metaGeneration metaDict current = .expectGenEqual := by
  unfold metaGeneration
  rw [h]

/-- The settings that single writes and batch writes have in common. -/
structure WriteSettings where
  sendKey : Bool
  recordExistsAction : RecordExistsAction
  generation : UInt32
  generationPolicy : GenerationPolicy
  commitLevel : CommitLevel
  durableDelete : Bool
  expiration : Expiration
  filterExpression : Option Expression

def WritePolicy.settings (p : WritePolicy) : WriteSettings where
  sendKey := p.sendKey
  recordExistsAction := p.recordExistsAction
  generation := p.generation
  generationPolicy := p.generationPolicy
  commitLevel := p.commitLevel
  durableDelete := p.durableDelete
  expiration := p.expiration
  filterExpression := p.basePolicy.filterExpression

def batchSettings (p : BatchWritePolicy Expression) : WriteSettings where
  sendKey := p.sendKey
  recordExistsAction := p.recordExistsAction
  generation := p.generation
  generationPolicy := p.generationPolicy
  commitLevel := p.commitLevel
  durableDelete := p.durableDelete
  expiration := p.expiration
  filterExpression := p.filterExpression

/-- What a meta dict makes of the settings before it. -/
structure MetaRead (metaDict : Entries) (s t : WriteSettings) : Prop where
  generation : field metaDict "gen" extractU32 s.generation = .ok t.generation
  generationPolicy : t.generationPolicy = metaGeneration metaDict s.generationPolicy
  expiration : field metaDict "ttl" extractTtl s.expiration = .ok t.expiration
  sendKey : field metaDict "key" extractSendKey s.sendKey = .ok t.sendKey
  recordExistsAction : field metaDict "exists" (extractAs parseRecordExistsAction)
    s.recordExistsAction = .ok t.recordExistsAction
  commitLevel : field metaDict "commit_level" (extractAs parseCommitLevel) s.commitLevel =
    .ok t.commitLevel
  durableDelete : field metaDict "durable_delete" extractBool s.durableDelete = .ok t.durableDelete
  filterExpression : t.filterExpression = s.filterExpression

/-- What a policy dict makes of the settings before it. It leaves the generation, and
replaces the filter. -/
structure PolicyRead (rt : Runtime) (dict : Entries) (s t : WriteSettings) : Prop where
  generation : t.generation = s.generation
  generationPolicy : field dict "gen" (extractAs parseGenerationPolicy) s.generationPolicy =
    .ok t.generationPolicy
  expiration : field dict "ttl" extractTtl s.expiration = .ok t.expiration
  sendKey : field dict "key" extractSendKey s.sendKey = .ok t.sendKey
  recordExistsAction : field dict "exists" (extractAs parseRecordExistsAction)
    s.recordExistsAction = .ok t.recordExistsAction
  commitLevel : field dict "commit_level" (extractAs parseCommitLevel) s.commitLevel =
    .ok t.commitLevel
  durableDelete : field dict "durable_delete" extractBool s.durableDelete = .ok t.durableDelete
  filterExpression : extractFilterExpression rt dict = .ok t.filterExpression

section Writes

variable {crates : PolicyCrates} {rt : Runtime} {dict metaDict : Entries}

theorem metaRead_of_applyWriteMeta {policy p : WritePolicy}
    (h : applyWriteMeta policy (some metaDict) = .ok p) :
    MetaRead metaDict policy.settings p.settings := by
  obtain ⟨_, hgeneration, h⟩ := bind_eq_ok.mp h
  obtain ⟨_, hexpiration, h⟩ := bind_eq_ok.mp h
  obtain ⟨_, hsend, h⟩ := bind_eq_ok.mp h
  obtain ⟨_, haction, h⟩ := bind_eq_ok.mp h
  obtain ⟨_, hcommit, h⟩ := bind_eq_ok.mp h
  obtain ⟨_, hdurable, h⟩ := bind_eq_ok.mp h
  obtain rfl := Except.ok.inj h
  exact ⟨hgeneration, rfl, hexpiration, hsend, haction, hcommit, hdurable, rfl⟩

/-- The policy dict is read after the meta dict. -/
theorem parseWritePolicy_eq_ok {metaDict : Option Entries} {p : WritePolicy}
    (h : parseWritePolicy crates rt (some dict) metaDict = .ok p) :
    ∃ q, applyWriteMeta (defaultWritePolicy crates) metaDict = .ok q ∧
      PolicyRead rt dict q.settings p.settings := by
  obtain ⟨q, hq, h⟩ := bind_eq_ok.mp h
  obtain ⟨_, -, h⟩ := bind_eq_ok.mp h
  obtain ⟨_, hdurable, h⟩ := bind_eq_ok.mp h
  obtain ⟨_, hsend, h⟩ := bind_eq_ok.mp h
  obtain ⟨_, haction, h⟩ := bind_eq_ok.mp h
  obtain ⟨_, hgeneration, h⟩ := bind_eq_ok.mp h
  obtain ⟨_, hcommit, h⟩ := bind_eq_ok.mp h
  obtain ⟨_, hexpiration, h⟩ := bind_eq_ok.mp h
  obtain ⟨_, -, h⟩ := bind_eq_ok.mp h
  obtain ⟨_, hfilter, h⟩ := bind_eq_ok.mp h
  obtain rfl := Except.ok.inj h
  exact ⟨q, hq, rfl, hgeneration, hexpiration, hsend, haction, hcommit, hdurable, hfilter⟩

theorem parseWritePolicy_none {metaDict : Option Entries} {p : WritePolicy}
    (h : parseWritePolicy crates rt none metaDict = .ok p) :
    applyWriteMeta (defaultWritePolicy crates) metaDict = .ok p := by
  obtain ⟨q, hq, h⟩ := bind_eq_ok.mp h
  obtain rfl := Except.ok.inj h
  exact hq

end Writes

section Batches

variable {crates : PolicyCrates} {rt : Runtime} {dict metaDict : Entries}

theorem policyRead_of_parseBatchWritePolicy {p : BatchWritePolicy Expression}
    (h : parseBatchWritePolicy crates rt (some dict) = .ok p) :
    PolicyRead rt dict (batchSettings crates.batchWrite) (batchSettings p) := by
  obtain ⟨_, hdurable, h⟩ := bind_eq_ok.mp h
  obtain ⟨_, hsend, h⟩ := bind_eq_ok.mp h
  obtain ⟨_, haction, h⟩ := bind_eq_ok.mp h
  obtain ⟨_, hgeneration, h⟩ := bind_eq_ok.mp h
  obtain ⟨_, hcommit, h⟩ := bind_eq_ok.mp h
  obtain ⟨_, hexpiration, h⟩ := bind_eq_ok.mp h
  obtain ⟨_, hfilter, h⟩ := bind_eq_ok.mp h
  obtain rfl := Except.ok.inj h
  exact ⟨rfl, hgeneration, hexpiration, hsend, haction, hcommit, hdurable, hfilter⟩

theorem parseBatchDeletePolicy_eq_ok {p : BatchDeletePolicy}
    (h : parseBatchDeletePolicy crates rt (some dict) = .ok p) :
    field dict "gen" (extractAs parseGenerationPolicy) crates.batchDelete.generationPolicy =
      .ok p.generationPolicy := by
  obtain ⟨_, -, h⟩ := bind_eq_ok.mp h
  obtain ⟨_, -, h⟩ := bind_eq_ok.mp h
  obtain ⟨_, hgeneration, h⟩ := bind_eq_ok.mp h
  obtain ⟨_, -, h⟩ := bind_eq_ok.mp h
  obtain ⟨_, -, h⟩ := bind_eq_ok.mp h
  obtain rfl := Except.ok.inj h
  exact hgeneration

theorem metaRead_of_applyRecordMeta {base p : BatchWritePolicy Expression}
    (h : applyRecordMeta base metaDict = .ok p) :
    MetaRead metaDict (batchSettings base) (batchSettings p) := by
  obtain ⟨_, hexpiration, h⟩ := bind_eq_ok.mp h
  obtain ⟨_, hgeneration, h⟩ := bind_eq_ok.mp h
  obtain ⟨_, hsend, h⟩ := bind_eq_ok.mp h
  obtain ⟨_, haction, h⟩ := bind_eq_ok.mp h
  obtain ⟨_, hcommit, h⟩ := bind_eq_ok.mp h
  obtain ⟨_, hdurable, h⟩ := bind_eq_ok.mp h
  obtain rfl := Except.ok.inj h
  exact ⟨hgeneration, rfl, hexpiration, hsend, haction, hcommit, hdurable, rfl⟩

/-- What a meta dict makes of the policy of a delete. -/
structure DeleteMetaRead (metaDict : Entries) (base p : BatchDeletePolicy) : Prop where
  generation : field metaDict "gen" extractU32 base.generation = .ok p.generation
  generationPolicy : p.generationPolicy = metaGeneration metaDict base.generationPolicy
  sendKey : field metaDict "key" extractSendKey base.sendKey = .ok p.sendKey
  commitLevel : field metaDict "commit_level" (extractAs parseCommitLevel) base.commitLevel =
    .ok p.commitLevel
  durableDelete : field metaDict "durable_delete" extractBool base.durableDelete =
    .ok p.durableDelete
  filterExpression : p.filterExpression = base.filterExpression

theorem deleteMetaRead_of_apply {base p : BatchDeletePolicy}
    (h : applyRecordMetaForDelete base metaDict = .ok p) : DeleteMetaRead metaDict base p := by
  obtain ⟨_, hgeneration, h⟩ := bind_eq_ok.mp h
  obtain ⟨_, hsend, h⟩ := bind_eq_ok.mp h
  obtain ⟨_, hcommit, h⟩ := bind_eq_ok.mp h
  obtain ⟨_, hdurable, h⟩ := bind_eq_ok.mp h
  obtain rfl := Except.ok.inj h
  exact ⟨hgeneration, rfl, hsend, hcommit, hdurable, rfl⟩

/-- What a meta dict makes of the policy of a UDF. -/
structure UdfMetaRead (metaDict : Entries) (base p : BatchUDFPolicy) : Prop where
  expiration : field metaDict "ttl" extractTtl base.expiration = .ok p.expiration
  sendKey : field metaDict "key" extractSendKey base.sendKey = .ok p.sendKey
  commitLevel : field metaDict "commit_level" (extractAs parseCommitLevel) base.commitLevel =
    .ok p.commitLevel
  durableDelete : field metaDict "durable_delete" extractBool base.durableDelete =
    .ok p.durableDelete
  filterExpression : p.filterExpression = base.filterExpression

theorem udfMetaRead_of_apply {base p : BatchUDFPolicy}
    (h : applyRecordMetaForApply base metaDict = .ok p) : UdfMetaRead metaDict base p := by
  obtain ⟨_, hexpiration, h⟩ := bind_eq_ok.mp h
  obtain ⟨_, hsend, h⟩ := bind_eq_ok.mp h
  obtain ⟨_, hcommit, h⟩ := bind_eq_ok.mp h
  obtain ⟨_, hdurable, h⟩ := bind_eq_ok.mp h
  obtain rfl := Except.ok.inj h
  exact ⟨hexpiration, hsend, hcommit, hdurable, rfl⟩

end Batches

end AerospikePy.Policies
