import AerospikePy.Policies.RecordMeta

/-!
# The policy dict and the meta dict

A single write and the record of a batch read the same settings from the same two dicts,
in opposite orders: the single write reads the meta dict first, the batch the policy dict.
The order shows only in a setting that both of them give, where the later dict wins.
-/

namespace AerospikePy.Policies

open AerospikePy.Core
open AerospikePy.Expressions
open AerospikePy.Lib.Fallible
open AerospikePy.Python
open AerospikePy.Values

/-- The policy of one record of a batch. -/
def parseBatchRecordPolicy (crates : PolicyCrates) (rt : Runtime) (dict metaDict : Entries) :
    Except PyErr (BatchWritePolicy Expression) := do
  let base ← parseBatchWritePolicy crates rt (some dict)
  applyRecordMeta base metaDict

/-- What the two orders make of a setting. -/
structure Taken {α : Type} (dict metaDict : Entries) (key : String)
    (extract : PyObj → Except PyErr α) (single batch : α) : Prop where
  same : getStr dict key = none ∨ getStr metaDict key = none → single = batch
  policyWins : ∀ val, getStr dict key = some val → extract val = .ok single
  metaWins : ∀ val, getStr metaDict key = some val → extract val = .ok batch

/-- `gen` is a generation policy in the policy dict and a generation in the meta dict. -/
structure GenTaken (dict metaDict : Entries) (single batch : WriteSettings) : Prop where
  generation : single.generation = batch.generation
  same : getStr dict "gen" = none ∨ getStr metaDict "gen" = none →
    single.generationPolicy = batch.generationPolicy
  policyWins : ∀ val, getStr dict "gen" = some val →
    extractAs parseGenerationPolicy val = .ok single.generationPolicy
  metaWins : ∀ val, getStr metaDict "gen" = some val →
    extractU32 val = .ok batch.generation ∧ batch.generationPolicy = .expectGenEqual

section Setting

variable {dict metaDict : Entries} {key : String}

theorem taken_of_fields {α : Type} {extract : PyObj → Except PyErr α}
    {default afterMeta single base batch : α}
    (hmeta : field metaDict key extract default = .ok afterMeta)
    (hsingle : field dict key extract afterMeta = .ok single)
    (hbase : field dict key extract default = .ok base)
    (hbatch : field metaDict key extract base = .ok batch) :
    Taken dict metaDict key extract single batch where
  policyWins val hval := by rwa [field_of_some hval] at hsingle
  metaWins val hval := by rwa [field_of_some hval] at hbatch
  same hnone := by
    rcases hnone with hnone | hnone
    · rw [field_of_none hnone] at hsingle hbase
      obtain rfl := Except.ok.inj hsingle
      obtain rfl := Except.ok.inj hbase
      exact Except.ok.inj (hmeta.symm.trans hbatch)
    · rw [field_of_none hnone] at hmeta hbatch
      obtain rfl := Except.ok.inj hmeta
      obtain rfl := Except.ok.inj hbatch
      exact Except.ok.inj (hsingle.symm.trans hbase)

theorem metaGeneration_of_none (h : getStr metaDict "gen" = none) (current : GenerationPolicy) :
    metaGeneration metaDict current = current := by
  unfold metaGeneration
  rw [h]

theorem genTaken_of_reads {rt : Runtime} {default afterMeta single base batch : WriteSettings}
    (hmeta : MetaRead metaDict default afterMeta) (hsingle : PolicyRead rt dict afterMeta single)
    (hbase : PolicyRead rt dict default base) (hbatch : MetaRead metaDict base batch) :
    GenTaken dict metaDict single batch where
  generation := by
    have hgeneration := hbatch.generation
    rw [hbase.generation, hmeta.generation] at hgeneration
    exact hsingle.generation.trans (Except.ok.inj hgeneration)
  same hnone := by
    rcases hnone with hnone | hnone
    · have hkept := hsingle.generationPolicy
      rw [field_of_none hnone] at hkept
      cases hgen : getStr metaDict "gen" with
      | some val =>
        rw [hbatch.generationPolicy, metaGeneration_of_some hgen, ← Except.ok.inj hkept,
          hmeta.generationPolicy, metaGeneration_of_some hgen]
      | none =>
        have hkept' := hbase.generationPolicy
        rw [field_of_none hnone] at hkept'
        rw [hbatch.generationPolicy, metaGeneration_of_none hgen, ← Except.ok.inj hkept,
          hmeta.generationPolicy, metaGeneration_of_none hgen, Except.ok.inj hkept']
    · have hpolicy := hsingle.generationPolicy
      rw [hmeta.generationPolicy, metaGeneration_of_none hnone, hbase.generationPolicy] at hpolicy
      rw [hbatch.generationPolicy, metaGeneration_of_none hnone]
      exact (Except.ok.inj hpolicy).symm
  policyWins val hval := by
    have hpolicy := hsingle.generationPolicy
    rwa [field_of_some hval] at hpolicy
  metaWins val hval := by
    have hgeneration := hbatch.generation
    rw [field_of_some hval] at hgeneration
    exact ⟨hgeneration, hbatch.generationPolicy.trans (metaGeneration_of_some hval _)⟩

end Setting

structure SettingsTaken (dict metaDict : Entries) (single batch : WriteSettings) : Prop where
  sendKey : Taken dict metaDict "key" extractSendKey single.sendKey batch.sendKey
  recordExistsAction : Taken dict metaDict "exists" (extractAs parseRecordExistsAction)
    single.recordExistsAction batch.recordExistsAction
  gen : GenTaken dict metaDict single batch
  commitLevel : Taken dict metaDict "commit_level" (extractAs parseCommitLevel)
    single.commitLevel batch.commitLevel
  durableDelete : Taken dict metaDict "durable_delete" extractBool
    single.durableDelete batch.durableDelete
  expiration : Taken dict metaDict "ttl" extractTtl single.expiration batch.expiration
  filterExpression : single.filterExpression = batch.filterExpression

/-- No setting is given in both dicts. -/
def NoneShared (dict metaDict : Entries) : Prop :=
  ∀ key ∈ ["key", "exists", "gen", "commit_level", "durable_delete", "ttl"],
    getStr dict key = none ∨ getStr metaDict key = none

section Settings

variable {rt : Runtime} {dict metaDict : Entries}

theorem SettingsTaken.eq_of_noneShared {single batch : WriteSettings}
    (h : SettingsTaken dict metaDict single batch) (hnone : NoneShared dict metaDict) :
    single = batch := by
  have hsend := h.sendKey.same (hnone _ (by decide))
  have haction := h.recordExistsAction.same (hnone _ (by decide))
  have hgen := h.gen.same (hnone _ (by decide))
  have hcommit := h.commitLevel.same (hnone _ (by decide))
  have hdurable := h.durableDelete.same (hnone _ (by decide))
  have hexpiration := h.expiration.same (hnone _ (by decide))
  have hgeneration := h.gen.generation
  have hfilter := h.filterExpression
  cases single
  cases batch
  simp only at hsend haction hgen hcommit hdurable hexpiration hgeneration hfilter
  rw [hsend, haction, hgen, hcommit, hdurable, hexpiration, hgeneration, hfilter]

theorem settingsTaken_of_reads {default afterMeta single base batch : WriteSettings}
    (hmeta : MetaRead metaDict default afterMeta) (hsingle : PolicyRead rt dict afterMeta single)
    (hbase : PolicyRead rt dict default base) (hbatch : MetaRead metaDict base batch) :
    SettingsTaken dict metaDict single batch where
  sendKey := taken_of_fields hmeta.sendKey hsingle.sendKey hbase.sendKey hbatch.sendKey
  recordExistsAction := taken_of_fields hmeta.recordExistsAction hsingle.recordExistsAction
    hbase.recordExistsAction hbatch.recordExistsAction
  gen := genTaken_of_reads hmeta hsingle hbase hbatch
  commitLevel := taken_of_fields hmeta.commitLevel hsingle.commitLevel hbase.commitLevel
    hbatch.commitLevel
  durableDelete := taken_of_fields hmeta.durableDelete hsingle.durableDelete hbase.durableDelete
    hbatch.durableDelete
  expiration := taken_of_fields hmeta.expiration hsingle.expiration hbase.expiration
    hbatch.expiration
  filterExpression := by
    -- only the policy dict can give a filter
    have hfilter := hsingle.filterExpression.symm.trans hbase.filterExpression
    exact (Except.ok.inj hfilter).trans hbatch.filterExpression.symm

end Settings

/-- The dict gives an integer `ttl` that stands for no expiration. -/
def TtlOutOfRange (dict : Entries) : Prop :=
  ∃ val n, getStr dict "ttl" = some val ∧ indexOf val = .ok n ∧ (n < -3 ∨ 2 ^ 32 - 1 < n)

section Ttl

variable {crates : PolicyCrates} {rt : Runtime} {dict metaDict : Entries}

theorem parseTtl_ne_ok {ttl : Int64} (h : ttl.toInt < -3 ∨ 2 ^ 32 - 1 < ttl.toInt)
    (e : Expiration) : parseTtl ttl ≠ .ok e := by
  intro hok
  unfold parseTtl at hok
  dsimp only at hok
  split_ifs at hok <;> omega

theorem TtlOutOfRange.field_ne_ok (h : TtlOutOfRange dict) (current e : Expiration) :
    field dict "ttl" extractTtl current ≠ .ok e := by
  intro hok
  obtain ⟨val, n, hval, hindex, hrange⟩ := h
  rw [field_of_some hval] at hok
  obtain ⟨ttl, httl, hok⟩ := bind_eq_ok.mp hok
  obtain ⟨m, hm, hofInt⟩ := bind_eq_ok.mp httl
  obtain ⟨hindex', hlo, hhi⟩ := extractWithin_eq_ok.mp hm
  obtain rfl : n = m := Except.ok.inj (hindex.symm.trans hindex')
  obtain rfl := Except.ok.inj hofInt
  have hsame : (Int64.ofInt n).toInt = n := Int64.toInt_ofInt_of_le hlo (by omega)
  exact parseTtl_ne_ok (by rw [hsame]; exact hrange) e hok

theorem parseWritePolicy_ne_ok (h : TtlOutOfRange dict ∨ TtlOutOfRange metaDict)
    (p : WritePolicy) : parseWritePolicy crates rt (some dict) (some metaDict) ≠ .ok p := by
  intro hok
  obtain ⟨q, hq, hread⟩ := parseWritePolicy_eq_ok hok
  rcases h with h | h
  · exact h.field_ne_ok _ _ hread.expiration
  · exact h.field_ne_ok _ _ (metaRead_of_applyWriteMeta hq).expiration

theorem parseBatchRecordPolicy_ne_ok (h : TtlOutOfRange dict ∨ TtlOutOfRange metaDict)
    (q : BatchWritePolicy Expression) : parseBatchRecordPolicy crates rt dict metaDict ≠ .ok q := by
  intro hok
  obtain ⟨base, hbase, hbatch⟩ := bind_eq_ok.mp hok
  rcases h with h | h
  · exact h.field_ne_ok _ _ (policyRead_of_parseBatchWritePolicy hbase).expiration
  · exact h.field_ne_ok _ _ (metaRead_of_applyRecordMeta hbatch).expiration

end Ttl

/-- A single write and a record of a batch have the same settings when their dicts share
none. Of a setting that both dicts give, the single write takes that of the policy and the
batch that of the meta. A time to live out of range fails both. -/
theorem settings_read_alike {crates : PolicyCrates}
    (hdefaults : crates.write.settings = batchSettings crates.batchWrite) (rt : Runtime)
    (dict metaDict : Entries) :
    (∀ p q, parseWritePolicy crates rt (some dict) (some metaDict) = .ok p →
      parseBatchRecordPolicy crates rt dict metaDict = .ok q →
        (NoneShared dict metaDict → p.settings = batchSettings q) ∧
          SettingsTaken dict metaDict p.settings (batchSettings q)) ∧
    (TtlOutOfRange dict ∨ TtlOutOfRange metaDict →
      (∀ p, parseWritePolicy crates rt (some dict) (some metaDict) ≠ .ok p) ∧
        ∀ q, parseBatchRecordPolicy crates rt dict metaDict ≠ .ok q) := by
  constructor
  · intro p q hp hq
    obtain ⟨afterMeta, hmeta, hsingle⟩ := parseWritePolicy_eq_ok hp
    obtain ⟨base, hbase, hbatch⟩ := bind_eq_ok.mp hq
    have hbase' := policyRead_of_parseBatchWritePolicy hbase
    rw [← hdefaults] at hbase'
    have htaken := settingsTaken_of_reads (metaRead_of_applyWriteMeta hmeta) hsingle hbase'
      (metaRead_of_applyRecordMeta hbatch)
    exact ⟨htaken.eq_of_noneShared, htaken⟩
  · intro h
    exact ⟨parseWritePolicy_ne_ok h, parseBatchRecordPolicy_ne_ok h⟩

theorem settings_read_alike_ttl_gen :
    ∃ p q, parseWritePolicy .default .plain (some [(.str "ttl", .int 60)])
        (some [(.str "gen", .int 5)]) = .ok p ∧
      parseBatchRecordPolicy .default .plain [(.str "ttl", .int 60)] [(.str "gen", .int 5)] =
        .ok q ∧ p.settings = batchSettings q := by
  have hsingle : ∃ p, parseWritePolicy .default .plain (some [(.str "ttl", .int 60)])
      (some [(.str "gen", .int 5)]) = .ok p := ⟨_, rfl⟩
  have hbatch : ∃ q, parseBatchRecordPolicy .default .plain [(.str "ttl", .int 60)]
      [(.str "gen", .int 5)] = .ok q := ⟨_, rfl⟩
  obtain ⟨p, hp⟩ := hsingle
  obtain ⟨q, hq⟩ := hbatch
  have halike := (settings_read_alike rfl .plain [(.str "ttl", .int 60)]
    [(.str "gen", .int 5)]).1 p q hp hq
  have hnone : NoneShared [(.str "ttl", .int 60)] [(.str "gen", .int 5)] := by
    intro key hkey
    simp only [List.mem_cons, List.not_mem_nil, or_false] at hkey
    rcases hkey with rfl | rfl | rfl | rfl | rfl | rfl
    · exact Or.inl rfl
    · exact Or.inl rfl
    · exact Or.inl rfl
    · exact Or.inl rfl
    · exact Or.inl rfl
    · exact Or.inr rfl
  exact ⟨p, q, hp, hq, halike.1 hnone⟩

end AerospikePy.Policies
