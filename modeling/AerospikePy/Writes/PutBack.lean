import AerospikePy.Batch.Records
import AerospikePy.Keys.RoundTrip
import AerospikePy.Values.HashedKeys
import AerospikePy.Values.ReadBack
import AerospikePy.Writes.BinNames

/-!
# A record that was read and is written back

`get` of the native client answers with `(key, meta, bins)`, and `put` and `batch_write` take
the three of them: the write goes to the same record, expects the generation that was read,
and carries the same bins, if Python did not blur them on the way.
-/

namespace AerospikePy.Writes

open AerospikePy.Batch
open AerospikePy.Core
open AerospikePy.Keys
open AerospikePy.Lib
open AerospikePy.Lib.Fallible
open AerospikePy.Policies
open AerospikePy.Python
open AerospikePy.Values

variable (crates : BatchCrates) (rt : Runtime) (clock : Clock)

/-- What the `ttl` of a record is written as: the seconds that are left. A record that never
expires is given the largest number of seconds, and one in its last second the default. -/
def writtenTtl : Option Nat → Expiration
  | none => .seconds 0xFFFFFFFF
  | some 0 => .namespaceDefault
  | some (secs + 1) => .seconds (.ofNat (min (secs + 1) (2 ^ 32 - 1)))

/-- The bins of the record, in its order, with values that are alike. -/
def SameBins (record : Record) (bins : List Bin) : Prop :=
  List.Forall₂ (fun b bin => bin.name = b.1 ∧ Alike b.2 bin.value) record.bins bins

/-- The policy of a `put` that expects the record as it was read. -/
def readPolicy (record : Record) : WritePolicy :=
  { defaultWritePolicy crates.policies with
    generation := record.generation
    generationPolicy := .expectGenEqual
    expiration := writtenTtl (clock record) }

variable {crates rt clock}

/-- The meta dict of a result. -/
def metaOf (record : Record) (ttl : UInt32) : Entries :=
  [(.str "gen", .int record.generation.toNat), (.str "ttl", .int ttl.toNat)]

theorem extractTtl_toNat (u : UInt32) : extractTtl (.int u.toNat) =
    .ok (if u = 0 then .namespaceDefault else .seconds u) := by
  have hlt := u.toNat_lt
  have hint : (Int64.ofInt u.toNat).toInt = u.toNat :=
    Int64.toInt_ofInt_of_le (by omega) (by omega)
  have hi64 : extractI64 (.int u.toNat) = .ok (Int64.ofInt u.toNat) :=
    extractI64_int.mpr hint.symm
  rw [extractTtl, bind_of_eq_ok hi64, parseTtl]
  simp only [hint]
  by_cases hu : u = 0
  · subst hu
    rfl
  · have hpos : u.toNat ≠ 0 := fun h => hu (UInt32.toNat_inj.mp h)
    rw [if_neg (by omega), if_neg (by omega), if_neg (by omega), if_neg (by omega),
      if_pos ⟨by omega, by omega⟩, if_neg hu, Int.toNat_natCast, UInt32.ofNat_toNat]

/-- The seconds of a result are written as they were read. -/
theorem extractTtl_recordTtl (record : Record) :
    extractTtl (.int (recordTtlSeconds clock record).toNat) =
      .ok (writtenTtl (clock record)) := by
  rw [extractTtl_toNat, recordTtlSeconds]
  cases clock record with
  | none => rfl
  | some secs =>
    cases secs with
    | zero => rfl
    | succ secs =>
      have hne : ttlFromDuration (some (secs + 1)) ≠ 0 := by
        intro h
        have hnat := congrArg UInt32.toNat h
        simp only [ttlFromDuration, UInt32.toNat_ofNat'] at hnat
        have hzero : (0 : UInt32).toNat = 0 := rfl
        rw [hzero] at hnat
        omega
      rw [if_neg hne]
      rfl

theorem getStr_metaOf (record : Record) (ttl : UInt32) {key : String} (hgen : key ≠ "gen")
    (httl : key ≠ "ttl") : getStr (metaOf record ttl) key = none := by
  simp [getStr, getItem, metaOf, Assoc.lookup, hgen.symm, httl.symm]

theorem getStr_metaOf_gen (record : Record) (ttl : UInt32) :
    getStr (metaOf record ttl) "gen" = some (.int record.generation.toNat) := rfl

theorem getStr_metaOf_ttl (record : Record) (ttl : UInt32) :
    getStr (metaOf record ttl) "ttl" = some (.int ttl.toNat) := rfl

/-- The settings of a meta dict that a result's does not have. -/
theorem field_metaOf (record : Record) (ttl : UInt32) {key : String} (hgen : key ≠ "gen")
    (httl : key ≠ "ttl") {α : Type} (extract : PyObj → Except PyErr α) (current : α) :
    field (metaOf record ttl) key extract current = .ok current :=
  field_of_none (getStr_metaOf record ttl hgen httl) extract current

theorem applyWriteMeta_metaOf (record : Record) :
    applyWriteMeta (defaultWritePolicy crates.policies)
      (some (metaOf record (recordTtlSeconds clock record))) =
      .ok (readPolicy crates clock record) := by
  simp only [applyWriteMeta, field_of_some (getStr_metaOf_gen _ _), extractU32_toNat,
    field_of_some (getStr_metaOf_ttl _ _), extractTtl_recordTtl, getStr_metaOf_gen,
    field_metaOf record _ (by decide : "key" ≠ "gen") (by decide),
    field_metaOf record _ (by decide : "exists" ≠ "gen") (by decide),
    field_metaOf record _ (by decide : "commit_level" ≠ "gen") (by decide),
    field_metaOf record _ (by decide : "durable_delete" ≠ "gen") (by decide), ok_bind]
  rfl

/-- The policy of an entry of `batch_write` that expects the record as it was read. -/
def readBatchPolicy (clock : Clock) (base : BatchWritePolicy Expressions.Expression)
    (record : Record) : BatchWritePolicy Expressions.Expression :=
  { base with
    generation := record.generation
    generationPolicy := .expectGenEqual
    expiration := writtenTtl (clock record) }

theorem applyRecordMeta_metaOf (base : BatchWritePolicy Expressions.Expression)
    (record : Record) :
    applyRecordMeta base (metaOf record (recordTtlSeconds clock record)) =
      .ok (readBatchPolicy clock base record) := by
  simp only [applyRecordMeta, field_of_some (getStr_metaOf_gen _ _), extractU32_toNat,
    field_of_some (getStr_metaOf_ttl _ _), extractTtl_recordTtl, getStr_metaOf_gen,
    field_metaOf record _ (by decide : "key" ≠ "gen") (by decide),
    field_metaOf record _ (by decide : "exists" ≠ "gen") (by decide),
    field_metaOf record _ (by decide : "commit_level" ≠ "gen") (by decide),
    field_metaOf record _ (by decide : "durable_delete" ≠ "gen") (by decide), ok_bind]
  rfl

theorem pyBinToBin_eq_ok {name : String} {y : PyObj} {bin : Bin} :
    pyBinToBin rt (.str name, y) = .ok bin ↔
      ValidBinName name ∧ ∃ w, pyToValue rt y = .ok w ∧ bin = ⟨name, w⟩ := by
  have hname : extractString (.str name) = .ok name := rfl
  rw [pyBinToBin]
  simp only [hname, ok_bind]
  constructor
  · intro h
    obtain ⟨_, hne, h⟩ := bind_eq_ok.mp h
    obtain ⟨_, hlen, h⟩ := bind_eq_ok.mp h
    obtain ⟨w, hw, h⟩ := bind_eq_ok.mp h
    exact ⟨⟨require_eq_ok.mp hne, require_eq_ok.mp hlen⟩, w, hw, (Except.ok.inj h).symm⟩
  · intro h
    obtain ⟨⟨hne, hlen⟩, w, hw, rfl⟩ := h
    rw [require_bind hne, require_bind hlen, bind_of_eq_ok hw]
    rfl

/-- The bins of which a read and a write make the same bins again. -/
def BinsKept (rt : Runtime) (record : Record) : Prop :=
  ∀ b ∈ record.bins, ValidBinName b.1 ∧
    ∀ n u, WithinAt n b.2 u → n ≤ maxNestingDepth ∧ Kept rt u

theorem pyDictToBins_read {record : Record} {es : Entries}
    (hes : List.Forall₂ (fun b e => e.1 = PyObj.str b.1 ∧ valueToPy rt b.2 = .ok e.2)
      record.bins es) :
    (∃ bins, pyDictToBins rt es = .ok bins ∧ SameBins record bins) ↔ BinsKept rt record := by
  have hback : ∀ {v y}, valueToPy rt v = .ok y → ((∃ w, pyToValue rt y = .ok w ∧ Alike v w) ↔
      ∀ n u, WithinAt n v u → n ≤ maxNestingDepth ∧ Kept rt u) := by
    intro v y hy
    rw [pyToValue, readBack_iff_within hy]
    simp only [Nat.lt_succ_iff]
  constructor
  · intro h
    obtain ⟨bins, hbins, hsame⟩ := h
    intro b hb
    obtain ⟨⟨_, y⟩, bin, ⟨rfl, hy⟩, hbin, hname, halike⟩ :=
      exists_answer_of_forall₂ hes (mapM_eq_ok.mp hbins) hsame b hb
    obtain ⟨hvalid, w, hw, rfl⟩ := pyBinToBin_eq_ok.mp hbin
    exact ⟨hvalid, (hback hy).mp ⟨w, hw, halike⟩⟩
  · intro h
    obtain ⟨bins, hbins, hsame⟩ := forall₂_answer
      (U := fun e bin => pyBinToBin rt e = .ok bin)
      (W := fun b bin => bin.name = b.1 ∧ Alike b.2 bin.value) hes (by
        intro b hb e he
        obtain ⟨_, y⟩ := e
        obtain ⟨rfl, hy⟩ := he
        obtain ⟨hvalid, hkept⟩ := h b hb
        obtain ⟨w, hw, halike⟩ := (hback hy).mpr hkept
        exact ⟨⟨b.1, w⟩, pyBinToBin_eq_ok.mpr ⟨hvalid, w, hw, rfl⟩, rfl, halike⟩)
    exact ⟨bins, mapM_eq_ok.mpr hbins, hsame⟩

/-- The bins that a write takes: their names are valid, and all there is in what they are read
as is storable, within the bound on nesting. -/
def BinsAccepted (rt : Runtime) (record : Record) : Prop :=
  ∀ b ∈ record.bins, ValidBinName b.1 ∧ ∀ y, valueToPy rt b.2 = .ok y →
    ∀ n z, OccursAt n y z → n ≤ maxNestingDepth ∧ Storable z

theorem pyDictToBins_accepted {record : Record} {es : Entries}
    (hes : List.Forall₂ (fun b e => e.1 = PyObj.str b.1 ∧ valueToPy rt b.2 = .ok e.2)
      record.bins es) :
    (∃ bins, pyDictToBins rt es = .ok bins) ↔ BinsAccepted rt record := by
  have hvalue : ∀ y, (∃ w, pyToValue rt y = .ok w) ↔
      ∀ n z, OccursAt n y z → n ≤ maxNestingDepth ∧ Storable z := by
    intro y
    rw [pyToValue, accepted_iff]
    simp only [Nat.lt_succ_iff]
  constructor
  · intro h b hb
    obtain ⟨bins, hbins⟩ := h
    obtain ⟨⟨_, y⟩, hmem, rfl, hy⟩ := exists_mem_of_forall₂ hes hb
    obtain ⟨bin, -, hbin⟩ := exists_mem_of_forall₂ (mapM_eq_ok.mp hbins) hmem
    obtain ⟨hvalid, w, hw, -⟩ := pyBinToBin_eq_ok.mp hbin
    refine ⟨hvalid, fun y' hy' => ?_⟩
    obtain rfl : y = y' := Except.ok.inj (hy.symm.trans hy')
    exact (hvalue y).mp ⟨w, hw⟩
  · intro h
    refine exists_mapM_eq_ok.mpr fun e he => ?_
    obtain ⟨b, hb, hname, hy⟩ := exists_mem_of_forall₂ hes.flip he
    obtain ⟨hvalid, hstorable⟩ := h b hb
    obtain ⟨w, hw⟩ := (hvalue e.2).mpr (hstorable e.2 hy)
    obtain ⟨name, y⟩ := e
    obtain rfl := hname
    exact ⟨_, pyBinToBin_eq_ok.mpr ⟨hvalid, w, hw, rfl⟩⟩

/-- No conversion of what the bins are read as asks core's hash for a key it does not take. -/
def BinsSpared (core : Hashing.CoreHash) (rt : Runtime) (record : Record) : Prop :=
  ∀ b ∈ record.bins, ∀ y, valueToPy rt b.2 = .ok y → Hashing.Spared core y

/-- A key that a write takes as it is: with a digest, and a user key that Python does not
blur. -/
structure Addresses (key : Key) : Prop where
  digest : key.digest.length = 20
  userKey : ∀ v, key.userKey = some v → Survives v

/-- The key of a result is the record's own, and else the requested one. -/
theorem recordKeyToPy_eq {record : Record} {fallback : Option Key} {key : Key}
    (hkey : record.key.or fallback = some key) :
    recordKeyToPy rt record fallback none = keyToPy rt key := by
  unfold recordKeyToPy
  cases hrecord : record.key with
  | some own =>
    rw [hrecord, Option.some_or] at hkey
    rw [Option.some.inj hkey]
  | none =>
    rw [hrecord, Option.none_or] at hkey
    rw [hkey]

/-- A result of `recordToPy`, part by part. -/
theorem recordToPy_eq_ok {record : Record} {fallback : Option Key} {key : Key} {result : PyObj}
    (hkey : record.key.or fallback = some key)
    (h : recordToPy rt clock record fallback = .ok result) :
    ∃ keyPy es, keyToPy rt key = .ok keyPy ∧
      List.Forall₂ (fun b e => e.1 = PyObj.str b.1 ∧ valueToPy rt b.2 = .ok e.2)
        record.bins es ∧
      result = .tuple [keyPy, .dict (metaOf record (recordTtlSeconds clock record)), .dict es] := by
  rw [recordToPy, recordToPyInner, recordKeyToPy_eq hkey] at h
  obtain ⟨keyPy, hkeyPy, h⟩ := bind_eq_ok.mp h
  obtain ⟨bins, hbins, h⟩ := bind_eq_ok.mp h
  obtain ⟨es, rfl, hes⟩ := binsToPy_eq_ok.mp hbins
  exact ⟨keyPy, es, hkeyPy, hes, (Except.ok.inj h).symm⟩

/-- What `put` makes of the parts of a result. -/
theorem preparePutArgs_read {key : Key} {keyPy : PyObj} {es : Entries} (record : Record)
    (hback : pyToKey crates.keys rt keyPy = .ok key) :
    preparePutArgs crates rt keyPy (.dict es)
      (some (metaOf record (recordTtlSeconds clock record))) none = (do
        let bins ← pyDictToBins rt es
        return ⟨key, bins, .custom (readPolicy crates clock record)⟩) := by
  have hpolicy : putPolicy crates rt
      (some (metaOf record (recordTtlSeconds clock record))) none =
      .ok (.custom (readPolicy crates clock record)) := by
    show PutPolicy.custom <$> parseWritePolicy crates.policies rt none
      (some (metaOf record (recordTtlSeconds clock record))) = _
    rw [parseWritePolicy, applyWriteMeta_metaOf]
    rfl
  have hcast : castWith castDict s!"bins argument must be a dict, got {(PyObj.dict es).typeName}"
      (.dict es) = .ok es := castWith_eq_ok.mpr rfl
  unfold preparePutArgs
  rw [hcast, ok_bind]
  refine bind_congr_ok fun bins _ => ?_
  rw [hback, hpolicy]
  rfl

/-- What `batch_write` makes of them. -/
theorem prepareRecord_read {key : Key} {keyPy : PyObj} {es : Entries} (record : Record)
    (base : BatchWritePolicy Expressions.Expression)
    (hback : pyToKey crates.keys rt keyPy = .ok key) :
    prepareRecord crates rt base (.tuple [keyPy, .dict es,
      .dict (metaOf record (recordTtlSeconds clock record))]) = (do
        let bins ← pyDictToBins rt es
        return ⟨key, bins, readBatchPolicy clock base record⟩) := by
  have hcast : ∀ (message : String) (d : Entries), castWith castDict message (.dict d) = .ok d :=
    fun _ _ => castWith_eq_ok.mpr rfl
  have htuple : ∀ (message : String) (xs : List PyObj),
      castWith castTuple message (.tuple xs) = .ok xs := fun _ _ => castWith_eq_ok.mpr rfl
  unfold prepareRecord
  simp only [htuple, hcast, hback, ok_bind, applyRecordMeta_metaOf]

/-- The result of a read, written back under the key, the meta and the bins that it carries.
No conversion of a bin panics. Both writes take it exactly when its bins are accepted, and
then address the record that was read, expect its generation and give it the seconds it has
left; the bins are the same if and only if they are kept. -/
def PutsBack (crates : BatchCrates) (core : Hashing.CoreHash) (rt : Runtime) (clock : Clock)
    (record : Record) (key : Key) (result : PyObj) : Prop :=
  ∃ keyPy metaDict binsPy, result = .tuple [keyPy, .dict metaDict, binsPy] ∧
    (∀ b ∈ record.bins, ∀ y, valueToPy rt b.2 = .ok y →
      Hashing.pyToValue core rt y = (pyToValue rt y).mapError .raised) ∧
    ((∃ args, preparePutArgs crates rt keyPy binsPy (some metaDict) none = .ok args) ↔
      BinsAccepted rt record) ∧
    (∀ args, preparePutArgs crates rt keyPy binsPy (some metaDict) none = .ok args →
      args.key = key ∧ args.policy = .custom (readPolicy crates clock record) ∧
        (SameBins record args.bins ↔ BinsKept rt record)) ∧
    ∀ base, ((∃ entry, prepareRecord crates rt base (.tuple [keyPy, binsPy, .dict metaDict]) =
        .ok entry) ↔ BinsAccepted rt record) ∧
      ∀ entry, prepareRecord crates rt base (.tuple [keyPy, binsPy, .dict metaDict]) = .ok entry →
        entry.key = key ∧ entry.policy = readBatchPolicy clock base record ∧
          (SameBins record entry.bins ↔ BinsKept rt record)

theorem put_back (crates : BatchCrates) (core : Hashing.CoreHash) (rt : Runtime) (clock : Clock)
    (record : Record) (fallback : Option Key) (key : Key)
    (hkey : record.key.or fallback = some key) (haddress : Addresses key)
    (hspared : BinsSpared core rt record) (result : PyObj)
    (hread : recordToPy rt clock record fallback = .ok result) :
    PutsBack crates core rt clock record key result := by
  obtain ⟨keyPy, es, hkeyPy, hes, rfl⟩ := recordToPy_eq_ok hkey hread
  obtain ⟨keyPy', hkeyPy', hback⟩ :=
    @keyToPy_roundTrip crates.keys rt key haddress.digest haddress.userKey
  obtain rfl : keyPy = keyPy' := Except.ok.inj (hkeyPy.symm.trans hkeyPy')
  -- the bins are the one part that may be refused, and the one part that may be blurred
  have hsame : ∀ {bins}, pyDictToBins rt es = .ok bins →
      (SameBins record bins ↔ BinsKept rt record) := by
    intro bins hbins
    rw [← pyDictToBins_read hes]
    constructor
    · exact fun h => ⟨bins, hbins, h⟩
    · intro h
      obtain ⟨bins', hbins', h⟩ := h
      rwa [Except.ok.inj (hbins.symm.trans hbins')]
  refine ⟨keyPy, _, .dict es, rfl, fun b hb y hy => ?_, ?_, ?_, fun base => ?_⟩
  · exact Hashing.pyToValue_of_spared (wellFormed_of_valueToPy b.2 hy) (hspared b hb y hy)
  · rw [← pyDictToBins_accepted hes, preparePutArgs_read record hback]
    exact succeeds_bind_pure
  · intro args hargs
    rw [preparePutArgs_read record hback] at hargs
    obtain ⟨bins, hbins, heq⟩ := bind_eq_ok.mp hargs
    obtain rfl := Except.ok.inj heq
    exact ⟨rfl, rfl, hsame hbins⟩
  · rw [← pyDictToBins_accepted hes, prepareRecord_read record base hback]
    refine ⟨succeeds_bind_pure, fun entry hentry => ?_⟩
    obtain ⟨bins, hbins, heq⟩ := bind_eq_ok.mp hentry
    obtain rfl := Except.ok.inj heq
    exact ⟨rfl, rfl, hsame hbins⟩

/-- A record whose bin `b` is an ordered map. -/
def mapRecord : Record where
  key := none
  bins := [("a", .int 1), ("b", .orderedMap [(.string "x", .nil)])]
  generation := 3
  expiration := 0

def mapRecordKey : Key := ⟨"test", "demo", some (.int 1), List.replicate 20 0⟩

/-- Its one map key is a text. -/
theorem mapRecord_spared : BinsSpared .pinned .plain mapRecord := by
  intro b hb y hy
  refine Hashing.spared_of_keys fun k hk hrefused => ?_
  obtain ⟨v, hv, hhash⟩ := hrefused
  simp only [mapRecord, List.mem_cons, List.not_mem_nil, or_false] at hb
  rcases hb with rfl | rfl
  · obtain rfl := Except.ok.inj hy
    simp [Hashing.visits] at hk
  · have hread : valueToPy .plain (.orderedMap [(.string "x", .nil)]) =
        .ok (.dict [(.str "x", .none)]) := rfl
    obtain rfl := Except.ok.inj (hread.symm.trans hy)
    simp only [Hashing.visits, Hashing.entryVisits, List.mem_cons, List.mem_append,
      List.not_mem_nil, Hashing.Visit.insertion.injEq, reduceCtorEq, or_false, false_or] at hk
    subst hk
    cases hv
    cases hhash

theorem put_back_map :
    PutsBack ⟨fullDigests, .default⟩ .pinned .plain (fun _ => some 60) mapRecord mapRecordKey
      (.tuple [.tuple [.str "test", .str "demo", .int 1, .bytes (List.replicate 20 0)],
        .dict [(.str "gen", .int 3), (.str "ttl", .int 60)],
        .dict [(.str "a", .int 1), (.str "b", .dict [(.str "x", .none)])]]) := by
  have haddress : Addresses mapRecordKey :=
    ⟨rfl, fun v hv => by obtain rfl := Option.some.inj hv; exact .int 1⟩
  exact put_back ⟨fullDigests, .default⟩ .pinned .plain (fun _ => some 60) mapRecord
    (some mapRecordKey) mapRecordKey rfl haddress mapRecord_spared _ rfl

/-- The ordered map is written as an unordered one. -/
example : ¬ BinsKept .plain mapRecord := by
  intro h
  have hmap := (h ("b", .orderedMap [(.string "x", .nil)]) (by decide)).2 0 _ (.here _)
  exact hmap.2

end AerospikePy.Writes
