import AerospikePy.Policies.RecordMeta

/-!
# Optimistic locking

A meta dict with `gen` makes a write conditional on that generation. In a batch it does so
whatever the policy dict says; for a single write the `gen` of the policy dict replaces the
condition, and every integer that is no constant stands for no condition at all. The
decoders of the integer constants are total: their last arm is the unconditional mode.
-/

namespace AerospikePy.Policies

open AerospikePy.Core
open AerospikePy.Expressions
open AerospikePy.Lib.Fallible
open AerospikePy.Python
open AerospikePy.Values

/-- `POLICY_EXISTS_*`. -/
def recordExistsCode : RecordExistsAction → Int
  | .update => 0
  | .updateOnly => 1
  | .replace => 2
  | .replaceOnly => 3
  | .createOnly => 4

/-- `POLICY_GEN_*`. -/
def generationCode : GenerationPolicy → Int
  | .none => 0
  | .expectGenEqual => 1
  | .expectGenGreater => 2

/-- The integer fits an `i32` and is decoded to the member that has it as its constant, or
to the fallback where no member has. -/
structure Decodes {α : Type} (code : α → Int) (fallback : α) (n : Int) (a : α) : Prop where
  fits : -2 ^ 31 ≤ n ∧ n ≤ 2 ^ 31 - 1
  member : code a = n ∨ a = fallback ∧ ∀ b, code b ≠ n

theorem parseRecordExistsAction_member (n : Int) :
    recordExistsCode (parseRecordExistsAction n) = n ∨
      parseRecordExistsAction n = .update ∧ ∀ b, recordExistsCode b ≠ n := by
  unfold parseRecordExistsAction
  split
  · exact Or.inl rfl
  · exact Or.inl rfl
  · exact Or.inl rfl
  · exact Or.inl rfl
  · exact Or.inl rfl
  · refine Or.inr ⟨rfl, fun b hb => ?_⟩
    cases b <;> simp only [recordExistsCode] at hb <;> exact absurd hb.symm (by assumption)

theorem parseGenerationPolicy_member (n : Int) :
    generationCode (parseGenerationPolicy n) = n ∨
      parseGenerationPolicy n = .none ∧ ∀ b, generationCode b ≠ n := by
  unfold parseGenerationPolicy
  split
  · exact Or.inl rfl
  · exact Or.inl rfl
  · exact Or.inl rfl
  · refine Or.inr ⟨rfl, fun b hb => ?_⟩
    cases b <;> simp only [generationCode] at hb <;> exact absurd hb.symm (by assumption)

theorem extractAs_eq_ok {α : Type} {parse : Int → α} {obj : PyObj} {a : α} :
    extractAs parse obj = .ok a ↔ ∃ n, extractI32 obj = .ok n ∧ parse n = a := by
  rw [extractAs, bind_eq_ok]
  constructor
  · rintro ⟨n, hn, ha⟩
    exact ⟨n, hn, Except.ok.inj ha⟩
  · rintro ⟨n, hn, rfl⟩
    exact ⟨n, hn, rfl⟩

/-- A field that holds an integer is decoded or fails the parser. -/
theorem decodes_of_field {α : Type} {code : α → Int} {fallback : α} {parse : Int → α}
    (hparse : ∀ n, code (parse n) = n ∨ parse n = fallback ∧ ∀ b, code b ≠ n) {dict : Entries}
    {key : String} {val : PyObj} {n : Int} {current a : α} (hval : getStr dict key = some val)
    (hn : indexOf val = .ok n) (h : field dict key (extractAs parse) current = .ok a) :
    Decodes code fallback n a := by
  rw [field_of_some hval] at h
  obtain ⟨m, hm, rfl⟩ := extractAs_eq_ok.mp h
  obtain ⟨hindex, hlo, hhi⟩ := extractWithin_eq_ok.mp hm
  rw [hn] at hindex
  obtain rfl := Except.ok.inj hindex
  exact ⟨⟨hlo, hhi⟩, hparse n⟩

theorem extractU32_eq_ok {obj : PyObj} {n : UInt32} (h : extractU32 obj = .ok n) :
    indexOf obj = .ok n.toNat := by
  obtain ⟨m, hm, hn⟩ := bind_eq_ok.mp h
  obtain ⟨hindex, hlo, hhi⟩ := extractWithin_eq_ok.mp hm
  obtain rfl := Except.ok.inj hn
  have hsmall : m.toNat < 2 ^ 32 := by omega
  rw [hindex, UInt32.toNat_ofNat_of_lt' hsmall, Int.toNat_of_nonneg hlo]

theorem generation_of_field {metaDict : Entries} {gen : PyObj} {current n : UInt32}
    (hgen : getStr metaDict "gen" = some gen)
    (h : field metaDict "gen" extractU32 current = .ok n) : indexOf gen = .ok n.toNat := by
  rw [field_of_some hgen] at h
  exact extractU32_eq_ok h

/-- The entry of a policy dict that may be absent. -/
def policyField (policyDict : Option Entries) (key : String) : Option PyObj :=
  policyDict.bind fun dict => getStr dict key

@[simp] theorem policyField_some (dict : Entries) (key : String) :
    policyField (some dict) key = getStr dict key := rfl

/-- The `gen` of the policy dict is an integer other than `POLICY_GEN_EQ` and
`POLICY_GEN_GT`. -/
def Unconditional (policyDict : Option Entries) : Prop :=
  ∃ val n, policyField policyDict "gen" = some val ∧ indexOf val = .ok n ∧ n ≠ 1 ∧ n ≠ 2

/-- What a meta dict with this `gen` makes of the three policies. -/
structure GenerationKept (crates : PolicyCrates) (rt : Runtime) (policyDict : Option Entries)
    (metaDict : Entries) (gen : PyObj) : Prop where
  write : ∀ p, parseWritePolicy crates rt policyDict (some metaDict) = .ok p →
    indexOf gen = .ok p.generation.toNat ∧
      (p.generationPolicy = .none ↔ Unconditional policyDict)
  batchWrite : ∀ base p, parseBatchWritePolicy crates rt policyDict = .ok base →
    applyRecordMeta base metaDict = .ok p →
      indexOf gen = .ok p.generation.toNat ∧ p.generationPolicy = .expectGenEqual
  batchDelete : ∀ base p, parseBatchDeletePolicy crates rt policyDict = .ok base →
    applyRecordMetaForDelete base metaDict = .ok p →
      indexOf gen = .ok p.generation.toNat ∧ p.generationPolicy = .expectGenEqual

section Generation

variable {crates : PolicyCrates} {rt : Runtime} {metaDict : Entries} {gen : PyObj}

theorem unconditional_iff {dict : Entries} {val : PyObj} {n : Int}
    (hval : getStr dict "gen" = some val) (hn : indexOf val = .ok n) :
    Unconditional (some dict) ↔ n ≠ 1 ∧ n ≠ 2 := by
  constructor
  · rintro ⟨val', n', hval', hn', hne⟩
    obtain rfl : val = val' := Option.some.inj (hval.symm.trans hval')
    obtain rfl : n = n' := Except.ok.inj (hn.symm.trans hn')
    exact hne
  · exact fun hne => ⟨val, n, hval, hn, hne⟩

theorem parseGenerationPolicy_none {n : Int} :
    parseGenerationPolicy n = .none ↔ n ≠ 1 ∧ n ≠ 2 := by
  rcases parseGenerationPolicy_member n with hcode | ⟨hnone, hother⟩
  · cases hp : parseGenerationPolicy n <;> rw [hp] at hcode <;>
      simp only [generationCode] at hcode <;> simp <;> omega
  · have hequal := hother .expectGenEqual
    have hgreater := hother .expectGenGreater
    simp only [generationCode] at hequal hgreater
    exact iff_of_true hnone ⟨Ne.symm hequal, Ne.symm hgreater⟩

theorem write_generation {policyDict : Option Entries} {p : WritePolicy}
    (hgen : getStr metaDict "gen" = some gen)
    (h : parseWritePolicy crates rt policyDict (some metaDict) = .ok p) :
    indexOf gen = .ok p.generation.toNat ∧
      (p.generationPolicy = .none ↔ Unconditional policyDict) := by
  cases policyDict with
  | none =>
    have hmeta := metaRead_of_applyWriteMeta (parseWritePolicy_none h)
    have hpolicy : p.generationPolicy = .expectGenEqual :=
      hmeta.generationPolicy.trans (metaGeneration_of_some hgen _)
    refine ⟨generation_of_field hgen hmeta.generation, ?_⟩
    simp [hpolicy, Unconditional, policyField]
  | some dict =>
    obtain ⟨q, hq, hread⟩ := parseWritePolicy_eq_ok h
    have hmeta := metaRead_of_applyWriteMeta hq
    have hequal : q.settings.generationPolicy = .expectGenEqual :=
      hmeta.generationPolicy.trans (metaGeneration_of_some hgen _)
    have hpolicy := hread.generationPolicy
    have hsame : p.generation = q.generation := hread.generation
    refine ⟨?_, ?_⟩
    · rw [hsame]
      exact generation_of_field hgen hmeta.generation
    · cases hval : getStr dict "gen" with
      | none =>
        rw [field_of_none hval, hequal] at hpolicy
        have hkept : .expectGenEqual = p.generationPolicy := Except.ok.inj hpolicy
        simp [← hkept, Unconditional, policyField, hval]
      | some val =>
        rw [field_of_some hval] at hpolicy
        obtain ⟨n, hn, hparsed⟩ := extractAs_eq_ok.mp hpolicy
        obtain ⟨hindex, -⟩ := extractWithin_eq_ok.mp hn
        rw [unconditional_iff hval hindex, show p.generationPolicy = _ from hparsed.symm]
        exact parseGenerationPolicy_none

theorem generationKept (crates : PolicyCrates) (rt : Runtime) (policyDict : Option Entries)
    (hgen : getStr metaDict "gen" = some gen) :
    GenerationKept crates rt policyDict metaDict gen where
  write p h := write_generation hgen h
  batchWrite base p _ h := by
    have hmeta := metaRead_of_applyRecordMeta h
    exact ⟨generation_of_field hgen hmeta.generation,
      hmeta.generationPolicy.trans (metaGeneration_of_some hgen _)⟩
  batchDelete base p _ h := by
    have hmeta := deleteMetaRead_of_apply h
    exact ⟨generation_of_field hgen hmeta.generation,
      hmeta.generationPolicy.trans (metaGeneration_of_some hgen _)⟩

end Generation

/-- What an integer `gen` of a policy dict is decoded to. -/
structure GenDecoded (crates : PolicyCrates) (rt : Runtime) (dict : Entries) (n : Int) :
    Prop where
  write : ∀ metaDict p, parseWritePolicy crates rt (some dict) metaDict = .ok p →
    Decodes generationCode .none n p.generationPolicy
  batchWrite : ∀ p, parseBatchWritePolicy crates rt (some dict) = .ok p →
    Decodes generationCode .none n p.generationPolicy
  batchDelete : ∀ p, parseBatchDeletePolicy crates rt (some dict) = .ok p →
    Decodes generationCode .none n p.generationPolicy

/-- What an integer `exists` of a policy dict is decoded to. -/
structure ExistsDecoded (crates : PolicyCrates) (rt : Runtime) (dict : Entries) (n : Int) :
    Prop where
  write : ∀ metaDict p, parseWritePolicy crates rt (some dict) metaDict = .ok p →
    Decodes recordExistsCode .update n p.recordExistsAction
  batchWrite : ∀ p, parseBatchWritePolicy crates rt (some dict) = .ok p →
    Decodes recordExistsCode .update n p.recordExistsAction

/-- What an integer `exists` of a meta dict is decoded to. For a single write it yields to
the policy dict. -/
structure MetaExistsDecoded (crates : PolicyCrates) (rt : Runtime) (metaDict : Entries)
    (n : Int) : Prop where
  write : ∀ policyDict p, parseWritePolicy crates rt policyDict (some metaDict) = .ok p →
    ∃ action, Decodes recordExistsCode .update n action ∧
      (policyField policyDict "exists" = none → p.recordExistsAction = action)
  batchWrite : ∀ base p, applyRecordMeta base metaDict = .ok p →
    Decodes recordExistsCode .update n p.recordExistsAction

section Integers

variable {crates : PolicyCrates} {rt : Runtime} {dict : Entries} {val : PyObj} {n : Int}

theorem genDecoded (crates : PolicyCrates) (rt : Runtime) (hval : getStr dict "gen" = some val)
    (hn : indexOf val = .ok n) : GenDecoded crates rt dict n where
  write metaDict p h := by
    obtain ⟨q, -, hread⟩ := parseWritePolicy_eq_ok h
    exact decodes_of_field parseGenerationPolicy_member hval hn hread.generationPolicy
  batchWrite p h := by
    have hread := policyRead_of_parseBatchWritePolicy h
    exact decodes_of_field parseGenerationPolicy_member hval hn hread.generationPolicy
  batchDelete p h :=
    decodes_of_field parseGenerationPolicy_member hval hn (parseBatchDeletePolicy_eq_ok h)

theorem existsDecoded (crates : PolicyCrates) (rt : Runtime)
    (hval : getStr dict "exists" = some val) (hn : indexOf val = .ok n) :
    ExistsDecoded crates rt dict n where
  write metaDict p h := by
    obtain ⟨q, -, hread⟩ := parseWritePolicy_eq_ok h
    exact decodes_of_field parseRecordExistsAction_member hval hn hread.recordExistsAction
  batchWrite p h := by
    have hread := policyRead_of_parseBatchWritePolicy h
    exact decodes_of_field parseRecordExistsAction_member hval hn hread.recordExistsAction

theorem metaExistsDecoded (crates : PolicyCrates) (rt : Runtime) {metaDict : Entries}
    (hval : getStr metaDict "exists" = some val) (hn : indexOf val = .ok n) :
    MetaExistsDecoded crates rt metaDict n where
  write policyDict p h := by
    cases policyDict with
    | none =>
      have hmeta := metaRead_of_applyWriteMeta (parseWritePolicy_none h)
      have hdecoded :=
        decodes_of_field parseRecordExistsAction_member hval hn hmeta.recordExistsAction
      exact ⟨p.recordExistsAction, hdecoded, fun _ => rfl⟩
    | some dict =>
      obtain ⟨q, hq, hread⟩ := parseWritePolicy_eq_ok h
      have hmeta := metaRead_of_applyWriteMeta hq
      have hdecoded :=
        decodes_of_field parseRecordExistsAction_member hval hn hmeta.recordExistsAction
      have hoverride := hread.recordExistsAction
      refine ⟨q.recordExistsAction, hdecoded, fun hnone => ?_⟩
      rw [field_of_none hnone] at hoverride
      exact (Except.ok.inj hoverride).symm
  batchWrite base p h := by
    have hmeta := metaRead_of_applyRecordMeta h
    exact decodes_of_field parseRecordExistsAction_member hval hn hmeta.recordExistsAction

end Integers

/-- A meta dict with `gen` keeps its condition in a batch always, and in a single write unless
the policy dict has an integer `gen` that asks for none; integers that are no constants are
decoded to the unconditional mode. -/
theorem locking_kept (crates : PolicyCrates) (rt : Runtime) :
    (∀ (policyDict : Option Entries) (metaDict : Entries) (gen : PyObj),
      getStr metaDict "gen" = some gen → GenerationKept crates rt policyDict metaDict gen) ∧
    (∀ (dict : Entries) (val : PyObj) (n : Int), indexOf val = .ok n →
      (getStr dict "gen" = some val → GenDecoded crates rt dict n) ∧
      (getStr dict "exists" = some val →
        ExistsDecoded crates rt dict n ∧ MetaExistsDecoded crates rt dict n)) := by
  refine ⟨fun policyDict metaDict gen hgen => generationKept crates rt policyDict hgen, ?_⟩
  intro dict val n hn
  refine ⟨fun hgen => genDecoded crates rt hgen hn, fun hexists => ?_⟩
  exact ⟨existsDecoded crates rt hexists hn, metaExistsDecoded crates rt hexists hn⟩

theorem locking_kept_equal :
    ∃ p, parseWritePolicy .default .plain (some [(.str "gen", .int 1)])
        (some [(.str "gen", .int 5)]) = .ok p ∧
      indexOf (.int 5) = .ok (p.generation.toNat : Int) ∧
      Decodes generationCode .none 1 p.generationPolicy := by
  have hparse : ∃ p, parseWritePolicy .default .plain (some [(.str "gen", .int 1)])
      (some [(.str "gen", .int 5)]) = .ok p := ⟨_, rfl⟩
  obtain ⟨p, hp⟩ := hparse
  have hkept := (locking_kept .default .plain).1 (some [(.str "gen", .int 1)])
    [(.str "gen", .int 5)] (.int 5) rfl
  have hdecoded := ((locking_kept .default .plain).2 [(.str "gen", .int 1)] (.int 1) 1 rfl).1 rfl
  exact ⟨p, hp, (hkept.write p hp).1, hdecoded.write _ p hp⟩

/-- A generation policy that is no constant takes the condition off a put, and an exists
action that is none makes it an upsert. -/
theorem locking_lost :
    ∃ p, parseWritePolicy .default .plain
        (some [(.str "gen", .int 3), (.str "exists", .int 5)])
        (some [(.str "gen", .int 5)]) = .ok p ∧
      p.generation = 5 ∧ p.generationPolicy = .none ∧ p.recordExistsAction = .update :=
  ⟨_, rfl, rfl, rfl, rfl⟩

end AerospikePy.Policies
