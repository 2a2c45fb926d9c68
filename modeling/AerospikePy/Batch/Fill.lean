import Mathlib.Data.List.Nodup
import AerospikePy.Batch.ToNumpy
import AerospikePy.Lib.Memory

/-!
# What the fill leaves in the arrays

The data array starts as zeros. Every store of the fill is into the field that a bin
names, in the row of the bin's record, so that with disjoint fields a byte is decided by
one bin at most, in whatever order the bins come.
-/

namespace AerospikePy.Batch

open AerospikePy.Core
open AerospikePy.Lib
open AerospikePy.Lib.Fallible
open AerospikePy.Numpy
open AerospikePy.Python
open AerospikePy.Values

def zeroed : Int → UInt8 := fun _ => 0

/-- Byte `k` of row `i` of the data array. -/
def NumpyBatchRecords.data (array : NumpyBatchRecords) (i k : Nat) : UInt8 :=
  Memory.stored zeroed (array.rows.map (·.stores)).flatten
    (rowAt array.dataPtr array.rowStride i + k)

/-- Byte `k` of a row is one of the field. -/
def Covers (f : FieldInfo) (k : Nat) : Prop := f.offset ≤ k ∧ k < f.offset + f.itemsize

instance (f : FieldInfo) (k : Nat) : Decidable (Covers f k) := by
  unfold Covers
  infer_instance

theorem inField_iff_covers {rowPtr : Int} {f : FieldInfo} {k : Nat} :
    InField rowPtr f (rowPtr + k) ↔ Covers f k := by
  unfold InField Covers
  omega

theorem exists_covers {rowPtr a : Int} {f : FieldInfo} (h : InField rowPtr f a) :
    ∃ k : Nat, a = rowPtr + k ∧ Covers f k := by
  have hk : a = rowPtr + (a - rowPtr).toNat := by
    unfold InField at h
    omega
  refine ⟨(a - rowPtr).toNat, hk, ?_⟩
  rw [← @inField_iff_covers rowPtr, ← hk]
  exact h

theorem rowAt_lt {dataPtr rowStride i j k : Nat} (hlt : i < j) (hk : k < rowStride) :
    rowAt dataPtr rowStride i + k < rowAt dataPtr rowStride j := by
  have hrows : (i + 1) * rowStride ≤ j * rowStride := Nat.mul_le_mul_right rowStride hlt
  have hstep : (i + 1) * rowStride = i * rowStride + rowStride := Nat.succ_mul i rowStride
  have hcast : ((i * rowStride + k : Nat) : Int) < (j * rowStride : Nat) := by omega
  push_cast at hcast
  unfold rowAt
  omega

/-- Bytes of different rows are at different addresses. -/
theorem rowAt_ne {dataPtr rowStride i j k l : Nat} (hne : i ≠ j) (hk : k < rowStride)
    (hl : l < rowStride) : rowAt dataPtr rowStride i + k ≠ rowAt dataPtr rowStride j + l := by
  rcases Nat.lt_or_gt_of_ne hne with hlt | hgt
  · have := @rowAt_lt dataPtr _ _ _ _ hlt hk
    omega
  · have := @rowAt_lt dataPtr _ _ _ _ hgt hl
    omega

theorem rowAt_ne_zero {dataPtr : Nat} (h : dataPtr ≠ 0) (rowStride i : Nat) :
    rowAt dataPtr rowStride i ≠ 0 := by
  unfold rowAt
  have hnonneg : (0 : Int) ≤ (i : Int) * rowStride := Int.mul_nonneg (by omega) (by omega)
  omega

/-- A layout whose fields have names of their own, lie in the row, do not overlap, and
hold at least one number of their base type. -/
structure Separate (fields : List FieldInfo) (rowStride : Nat) : Prop where
  names : (fields.map (·.name)).Nodup
  fits : ∀ f ∈ fields, ∀ k, Covers f k → k < rowStride
  disjoint : ∀ f ∈ fields, ∀ g ∈ fields, f ≠ g → ∀ k, Covers f k → ¬ Covers g k
  base : ∀ f ∈ fields, f.baseItemsize ≤ f.itemsize

theorem separate_of_accepted {endian : Endian} {d : Dtype} {fields : List FieldInfo}
    {rowStride : Nat} (haccept : parseDtypeFields endian d = .ok (fields, rowStride))
    (hdisjoint : fields.Pairwise fun f g => ∀ k, ¬(Covers f k ∧ Covers g k))
    (hbase : ∀ f ∈ fields, f.baseItemsize ≤ f.itemsize) : Separate fields rowStride := by
  obtain ⟨-, dfields, hfields, hall⟩ := parseDtypeFields_ok haccept
  have hnames : dfields.map (·.name) = fields.map (·.name) := by
    rw [← List.forall₂_eq_eq_eq, List.forall₂_map_left_iff, List.forall₂_map_right_iff]
    exact hall.imp fun f info h => h.name.symm
  refine ⟨?_, fun f hf k hk => ?_, fun f hf g hg hne k hkf hkg => ?_, hbase⟩
  · rw [← hnames]
    have hnodup := d.nodup
    rwa [hfields] at hnodup
  · obtain ⟨_, -, hdesc⟩ := exists_mem_of_forall₂ hall.flip hf
    have hfits := hdesc.fits
    unfold Covers at hk
    omega
  · have hsymm : Std.Symm fun f g : FieldInfo => ∀ k, ¬(Covers f k ∧ Covers g k) :=
      ⟨fun f g h k hk => h k hk.symm⟩
    exact hdisjoint.forall hf hg hne k ⟨hkf, hkg⟩

theorem Separate.find {fields : List FieldInfo} {rowStride : Nat} (h : Separate fields rowStride)
    {f : FieldInfo} (hf : f ∈ fields) : fields.find? (fun g => g.name == f.name) = some f := by
  cases hfind : fields.find? fun g => g.name == f.name with
  | none =>
    have hno := List.find?_eq_none.mp hfind f hf
    exact absurd (by simp) hno
  | some g =>
    have hname : g.name = f.name := by simpa using List.find?_some hfind
    rw [List.inj_on_of_nodup_map h.names (List.mem_of_find?_eq_some hfind) hf hname]

variable {rt : Runtime} {clock : Clock} {p : Platform} {fields : List FieldInfo} {rowStride : Nat}

theorem storeBin_of_field (hsep : Separate fields rowStride) {f : FieldInfo} (hf : f ∈ fields)
    {bin : String × Value} (hname : f.name = bin.1) (rowPtr : Int) :
    storeBin p fields rowPtr bin = writeValueToBuffer p rowPtr f bin.2 := by
  unfold storeBin
  rw [← hname, hsep.find hf]

/-- A bin reaches no byte but those of the field it names. -/
theorem storeBin_inField (hsep : Separate fields rowStride) {rowPtr : Int}
    {bin : String × Value} {ws : List (Int × UInt8)}
    (h : storeBin p fields rowPtr bin = .ok ws) {w : Int × UInt8} (hw : w ∈ ws) :
    ∃ f ∈ fields, f.name = bin.1 ∧ InField rowPtr f w.1 := by
  unfold storeBin at h
  split at h
  · rename_i f hfind
    have hf := List.mem_of_find?_eq_some hfind
    exact ⟨f, hf, by simpa using List.find?_some hfind,
      writeValueToBuffer_inField (hsep.base f hf) h w hw⟩
  · obtain rfl := Except.ok.inj h
    cases hw

/-- What a record leaves in a row of zeros. -/
structure Filled (p : Platform) (fields : List FieldInfo) (rowStride : Nat) (record : Record)
    (data : Nat → UInt8) : Prop where
  field : ∀ bin ∈ record.bins, ∀ f ∈ fields, f.name = bin.1 → ∀ rowPtr, rowPtr ≠ 0 →
    ∃ ws, writeValueToBuffer p rowPtr f bin.2 = .ok ws ∧
      ∀ k, Covers f k → data k = Memory.stored zeroed ws (rowPtr + k)
  nil : ∀ bin ∈ record.bins, ∀ f ∈ fields, f.name = bin.1 → bin.2 = .nil →
    ∀ k, Covers f k → data k = 0
  rest : ∀ k < rowStride, (∀ bin ∈ record.bins, ∀ f ∈ fields, f.name = bin.1 → ¬ Covers f k) →
    data k = 0

/-- A row is determined by the bins, and not by their order. -/
theorem Filled.unique {record record' : Record} {data data' : Nat → UInt8}
    (h : Filled p fields rowStride record data) (h' : Filled p fields rowStride record' data')
    (hbins : ∀ bin, bin ∈ record'.bins ↔ bin ∈ record.bins) {k : Nat} (hk : k < rowStride) :
    data' k = data k := by
  by_cases hcover : ∃ bin ∈ record.bins, ∃ f ∈ fields, f.name = bin.1 ∧ Covers f k
  · obtain ⟨bin, hbin, f, hf, hname, hk⟩ := hcover
    obtain ⟨ws, hws, hdata⟩ := h.field bin hbin f hf hname 1 (by decide)
    obtain ⟨ws', hws', hdata'⟩ := h'.field bin ((hbins bin).mpr hbin) f hf hname 1 (by decide)
    obtain rfl := Except.ok.inj (hws.symm.trans hws')
    rw [hdata k hk, hdata' k hk]
  · have hno : ∀ bin ∈ record.bins, ∀ f ∈ fields, f.name = bin.1 → ¬ Covers f k :=
      fun bin hbin f hf hname hc => hcover ⟨bin, hbin, f, hf, hname, hc⟩
    rw [h.rest k hk hno, h'.rest k hk fun bin hbin => hno bin ((hbins bin).mp hbin)]

theorem Filled.congr {record : Record} {data data' : Nat → UInt8}
    (hsep : Separate fields rowStride) (h : Filled p fields rowStride record data)
    (hdata : ∀ k < rowStride, data' k = data k) : Filled p fields rowStride record data' where
  field bin hbin f hf hname rowPtr hrow := by
    obtain ⟨ws, hws, hk⟩ := h.field bin hbin f hf hname rowPtr hrow
    refine ⟨ws, hws, fun k hcover => ?_⟩
    rw [hdata k (hsep.fits f hf k hcover), hk k hcover]
  nil bin hbin f hf hname hnil k hcover := by
    rw [hdata k (hsep.fits f hf k hcover), h.nil bin hbin f hf hname hnil k hcover]
  rest k hlt hno := by rw [hdata k hlt, h.rest k hlt hno]

theorem stored_moved {d a : Int} (ws : List (Int × UInt8)) :
    Memory.stored zeroed (moved d ws) (a + d) = Memory.stored zeroed ws a :=
  @Memory.stored_map _ _ _ _ _ (· + d) (add_left_injective d) zeroed zeroed (fun _ => rfl) ws a

/-- The bins of one record are stored one after the other, each in a field of its own. -/
theorem field_of_parts (hsep : Separate fields rowStride) {rowPtr : Int} (hrow : rowPtr ≠ 0)
    {record : Record} {parts : List (List (Int × UInt8))}
    (hparts : List.Forall₂ (fun bin ws => storeBin p fields rowPtr bin = .ok ws) record.bins parts)
    {bin : String × Value} (hbin : bin ∈ record.bins) {f : FieldInfo} (hf : f ∈ fields)
    (hname : f.name = bin.1) {rowPtr' : Int} (hrow' : rowPtr' ≠ 0) :
    ∃ ws, writeValueToBuffer p rowPtr' f bin.2 = .ok ws ∧ ∀ k, Covers f k →
      Memory.stored zeroed parts.flatten (rowPtr + k) = Memory.stored zeroed ws (rowPtr' + k) := by
  obtain ⟨b, hb⟩ := List.mem_iff_getElem?.mp hbin
  have hlen : b < parts.length := by
    rw [← hparts.length_eq]
    exact (List.getElem?_eq_some_iff.mp hb).1
  have hpart : parts[b]? = some parts[b] := List.getElem?_eq_getElem hlen
  have hstore := rel_of_forall₂ hparts hb hpart
  rw [storeBin_of_field hsep hf hname] at hstore
  have hmoved := @writeValueToBuffer_moves p rowPtr rowPtr' f hrow hrow' bin.2
  rw [hstore] at hmoved
  refine ⟨_, hmoved, fun k hk => ?_⟩
  have haddr : rowPtr' + k = rowPtr + k + (rowPtr' - rowPtr) := by omega
  rw [haddr, stored_moved]
  refine Memory.stored_flatten hpart (fun j other hother hne w hw heq => ?_) zeroed
  -- a byte of this field that another bin stores would be one of two fields
  have hj : j < record.bins.length := by
    rw [hparts.length_eq]
    exact (List.getElem?_eq_some_iff.mp hother).1
  obtain ⟨g, hg, hgname, hin⟩ := storeBin_inField hsep
    (rel_of_forall₂ hparts (List.getElem?_eq_getElem hj) hother) hw
  rw [heq, inField_iff_covers] at hin
  by_cases hfg : f = g
  · subst hfg
    have hsame : (record.bins.map (·.1))[j]? = (record.bins.map (·.1))[b]? := by
      rw [List.getElem?_map, List.getElem?_map, hb, List.getElem?_eq_getElem hj]
      simp [← hname, hgname]
    exact hne ((List.getElem?_inj (by simpa using hj) record.distinct).mp hsame)
  · exact hsep.disjoint f hf g hg hfg k hk hin

theorem filled_of_parts (hsep : Separate fields rowStride) {rowPtr : Int} (hrow : rowPtr ≠ 0)
    {record : Record} {parts : List (List (Int × UInt8))}
    (hparts : List.Forall₂ (fun bin ws => storeBin p fields rowPtr bin = .ok ws) record.bins parts) :
    Filled p fields rowStride record fun k => Memory.stored zeroed parts.flatten (rowPtr + k) where
  field bin hbin f hf hname rowPtr' hrow' := field_of_parts hsep hrow hparts hbin hf hname hrow'
  nil bin hbin f hf hname hnil k hk := by
    obtain ⟨ws, hws, hstored⟩ := field_of_parts hsep hrow hparts hbin hf hname hrow
    rw [hnil] at hws
    obtain rfl := Except.ok.inj hws
    rw [hstored k hk, Memory.stored_nil]
    rfl
  rest k _ hno := by
    refine Memory.stored_flatten_of_outside (fun part hpart w hw heq => ?_) zeroed
    obtain ⟨bin, hbin, hstore⟩ := exists_mem_of_forall₂ hparts.flip hpart
    obtain ⟨f, hf, hname, hin⟩ := storeBin_inField hsep hstore hw
    rw [heq, inField_iff_covers] at hin
    exact hno bin hbin f hf hname hin

/-- What row `i` of the arrays has of record `i`, and of nothing else. -/
structure RowOf (clock : Clock) (p : Platform) (fields : List FieldInfo) (rowStride : Nat)
    (br : BatchRecord Key Record) (row : Row) (data : Nat → UInt8) : Prop where
  code : row.resultCode = resultOf br
  present : ∀ record, resultOf br = 0 → br.record = some record →
    row.gen = record.generation ∧ row.ttl = recordTtlSeconds clock record ∧
      Filled p fields rowStride record data
  absent : (resultOf br = 0 → br.record = none) →
    row.gen = 0 ∧ row.ttl = 0 ∧ ∀ k < rowStride, data k = 0

theorem absent_or_present (br : BatchRecord Key Record) :
    (resultOf br = 0 → br.record = none) ∨
      (resultOf br = 0 ∧ ∃ record, br.record = some record) := by
  cases h : br.record with
  | none => exact Or.inl fun _ => rfl
  | some record =>
    by_cases hcode : resultOf br = 0
    · exact Or.inr ⟨hcode, record, rfl⟩
    · exact Or.inl fun hzero => absurd hzero hcode

theorem fillRow_present {rowPtr : Int} {br : BatchRecord Key Record} {row : Row} {record : Record}
    (h : fillRow clock p fields rowPtr br = .ok row) (hcode : resultOf br = 0)
    (hrecord : br.record = some record) :
    row.gen = record.generation ∧ row.ttl = recordTtlSeconds clock record ∧
      ∃ parts, row.stores = parts.flatten ∧
        List.Forall₂ (fun bin ws => storeBin p fields rowPtr bin = .ok ws) record.bins parts := by
  unfold fillRow at h
  rw [hrecord] at h
  dsimp only at h
  rw [if_neg (by simpa using hcode)] at h
  obtain ⟨parts, hparts, h⟩ := bind_eq_ok.mp h
  obtain rfl := Except.ok.inj h
  exact ⟨rfl, rfl, parts, rfl, mapM_eq_ok.mp hparts⟩

theorem fillRow_absent {rowPtr : Int} {br : BatchRecord Key Record}
    (habsent : resultOf br = 0 → br.record = none) :
    fillRow clock p fields rowPtr br = .ok ⟨resultOf br, 0, 0, []⟩ := by
  unfold fillRow
  by_cases hcode : resultOf br = 0
  · rw [habsent hcode]
    simp [hcode]
    rfl
  · dsimp only
    rw [if_pos hcode]
    rfl

theorem rowOf_fillRow (hsep : Separate fields rowStride) {rowPtr : Int} (hrow : rowPtr ≠ 0)
    {br : BatchRecord Key Record} {row : Row} (h : fillRow clock p fields rowPtr br = .ok row) :
    RowOf clock p fields rowStride br row
      fun k => Memory.stored zeroed row.stores (rowPtr + k) where
  code := fillRow_resultCode h
  present record hcode hrecord := by
    obtain ⟨hgen, httl, parts, hstores, hparts⟩ := fillRow_present h hcode hrecord
    refine ⟨hgen, httl, ?_⟩
    rw [hstores]
    exact filled_of_parts hsep hrow hparts
  absent habsent := by
    rw [fillRow_absent habsent] at h
    obtain rfl := Except.ok.inj h
    exact ⟨rfl, rfl, fun k _ => rfl⟩

/-- Nothing is stored outside the row. -/
theorem fillRow_inRow (hsep : Separate fields rowStride) {rowPtr : Int}
    {br : BatchRecord Key Record} {row : Row} (h : fillRow clock p fields rowPtr br = .ok row)
    {w : Int × UInt8} (hw : w ∈ row.stores) : ∃ k < rowStride, w.1 = rowPtr + (k : Nat) := by
  rcases absent_or_present br with habsent | ⟨hcode, record, hrecord⟩
  · rw [fillRow_absent habsent] at h
    obtain rfl := Except.ok.inj h
    cases hw
  · obtain ⟨-, -, parts, hstores, hparts⟩ := fillRow_present h hcode hrecord
    rw [hstores] at hw
    obtain ⟨part, hpart, hwp⟩ := List.mem_flatten.mp hw
    obtain ⟨bin, -, hstore⟩ := exists_mem_of_forall₂ hparts.flip hpart
    obtain ⟨f, hf, -, hin⟩ := storeBin_inField hsep hstore hwp
    obtain ⟨k, hk, hcover⟩ := exists_covers hin
    exact ⟨k, hsep.fits f hf k hcover, hk⟩

theorem RowOf.congr (hsep : Separate fields rowStride) {br : BatchRecord Key Record} {row : Row}
    {data data' : Nat → UInt8} (h : RowOf clock p fields rowStride br row data)
    (hdata : ∀ k < rowStride, data' k = data k) :
    RowOf clock p fields rowStride br row data' where
  code := h.code
  present record hcode hrecord := by
    obtain ⟨hgen, httl, hfilled⟩ := h.present record hcode hrecord
    exact ⟨hgen, httl, hfilled.congr hsep hdata⟩
  absent habsent := by
    obtain ⟨hgen, httl, hzero⟩ := h.absent habsent
    exact ⟨hgen, httl, fun k hk => by rw [hdata k hk, hzero k hk]⟩

/-- The stores of the other rows do not reach row `i`. -/
theorem data_eq_stored {zeros : Zeros} {results : Results} {d : Dtype} {array : NumpyBatchRecords}
    (h : batchToNumpyPy rt clock p zeros results d = .ok array)
    (haccept : parseDtypeFields p.endian d = .ok (fields, rowStride))
    (hsep : Separate fields rowStride) {i : Nat} {row : Row} (hrow : array.rows[i]? = some row)
    {k : Nat} (hk : k < rowStride) : array.data i k =
      Memory.stored zeroed row.stores (rowAt array.dataPtr array.rowStride i + k) := by
  obtain ⟨_, hparse, -, hrows, -⟩ := batchToNumpyPy_eq_ok h
  obtain ⟨rfl, rfl⟩ := Prod.mk.inj (Except.ok.inj (haccept.symm.trans hparse))
  obtain ⟨hlen, hfill⟩ := fillRows_eq_ok hrows
  have hpart : (array.rows.map (·.stores))[i]? = some row.stores := by
    rw [List.getElem?_map, hrow]
    rfl
  refine Memory.stored_flatten hpart (fun j other hother hne w hw heq => ?_) zeroed
  rw [List.getElem?_map] at hother
  obtain ⟨row', hrow', rfl⟩ := Option.map_eq_some_iff.mp hother
  have hj : j < results.length := by
    rw [← hlen]
    exact (List.getElem?_eq_some_iff.mp hrow').1
  obtain ⟨l, hl, hin⟩ := fillRow_inRow hsep
    (hfill j results[j] row' (List.getElem?_eq_getElem hj) hrow') hw
  exact rowAt_ne hne hl hk (hin.symm.trans heq)

theorem rowOf_array {zeros : Zeros} {results : Results} {d : Dtype} {array : NumpyBatchRecords}
    (h : batchToNumpyPy rt clock p zeros results d = .ok array)
    (haccept : parseDtypeFields p.endian d = .ok (fields, rowStride))
    (hsep : Separate fields rowStride) {i : Nat} {br : BatchRecord Key Record} {row : Row}
    (hbr : results[i]? = some br) (hrow : array.rows[i]? = some row) :
    RowOf clock p fields rowStride br row (array.data i) := by
  obtain ⟨_, hparse, hnull, hrows, -⟩ := batchToNumpyPy_eq_ok h
  obtain ⟨rfl, -⟩ := Prod.mk.inj (Except.ok.inj (haccept.symm.trans hparse))
  have hfill := (fillRows_eq_ok hrows).2 i br row hbr hrow
  exact (rowOf_fillRow hsep (rowAt_ne_zero hnull _ _) hfill).congr hsep
    fun k hk => data_eq_stored h haccept hsep hrow hk

/-- The same record, from a map that iterates in another order. -/
structure SameBody (record record' : Record) : Prop where
  generation : record'.generation = record.generation
  expiration : record'.expiration = record.expiration
  bins : record'.bins.Perm record.bins

structure Reordered (br br' : BatchRecord Key Record) : Prop where
  key : br'.key = br.key
  resultCode : br'.resultCode = br.resultCode
  inDoubt : br'.inDoubt = br.inDoubt
  record : Option.Rel SameBody br.record br'.record

theorem Reordered.resultOf_eq {br br' : BatchRecord Key Record} (h : Reordered br br') :
    resultOf br' = resultOf br := by
  unfold resultOf
  rw [h.resultCode]

theorem Reordered.record_eq_none {br br' : BatchRecord Key Record} (h : Reordered br br') :
    br'.record = none ↔ br.record = none := by
  have hrel := h.record
  generalize br.record = r at hrel
  generalize br'.record = r' at hrel
  cases hrel <;> simp

theorem Reordered.record_eq_some {br br' : BatchRecord Key Record} (h : Reordered br br')
    {record : Record} (hrecord : br.record = some record) :
    ∃ record', br'.record = some record' ∧ SameBody record record' := by
  have hrel := h.record
  rw [hrecord] at hrel
  generalize br'.record = r' at hrel
  cases hrel with
  | some hsame => exact ⟨_, rfl, hsame⟩

/-- Rows of two arrays that have the same in them. -/
structure SameRow (rowStride : Nat) (row row' : Row) (data data' : Nat → UInt8) : Prop where
  code : row'.resultCode = row.resultCode
  gen : row'.gen = row.gen
  ttl : row'.ttl = row.ttl
  bytes : ∀ k < rowStride, data' k = data k

theorem RowOf.unique (hclock : ∀ r r' : Record, r'.expiration = r.expiration → clock r' = clock r)
    {br br' : BatchRecord Key Record} {row row' : Row} {data data' : Nat → UInt8}
    (h : RowOf clock p fields rowStride br row data)
    (h' : RowOf clock p fields rowStride br' row' data') (hsame : Reordered br br') :
    SameRow rowStride row row' data data' := by
  have hcode : row'.resultCode = row.resultCode := by rw [h.code, h'.code, hsame.resultOf_eq]
  rcases absent_or_present br with habsent | ⟨hzero, record, hrecord⟩
  · have habsent' : resultOf br' = 0 → br'.record = none := by
      rw [hsame.resultOf_eq, hsame.record_eq_none]
      exact habsent
    obtain ⟨hgen, httl, hzero⟩ := h.absent habsent
    obtain ⟨hgen', httl', hzero'⟩ := h'.absent habsent'
    exact ⟨hcode, hgen'.trans hgen.symm, httl'.trans httl.symm,
      fun k hk => (hzero' k hk).trans (hzero k hk).symm⟩
  · obtain ⟨record', hrecord', hbody⟩ := hsame.record_eq_some hrecord
    obtain ⟨hgen, httl, hfilled⟩ := h.present record hzero hrecord
    obtain ⟨hgen', httl', hfilled'⟩ :=
      h'.present record' (hsame.resultOf_eq.trans hzero) hrecord'
    refine ⟨hcode, by rw [hgen', hgen, hbody.generation], ?_,
      fun k hk => hfilled.unique hfilled' (fun bin => hbody.bins.mem_iff) hk⟩
    rw [httl', httl, recordTtlSeconds, recordTtlSeconds, hclock record record' hbody.expiration]

/-- A row is filled exactly when each of its bins can be stored. -/
theorem exists_fillRow_iff {rowPtr : Int} {br : BatchRecord Key Record} :
    (∃ row, fillRow clock p fields rowPtr br = .ok row) ↔
      ∀ record, resultOf br = 0 → br.record = some record →
        ∀ bin ∈ record.bins, ∃ ws, storeBin p fields rowPtr bin = .ok ws := by
  rcases absent_or_present br with habsent | ⟨hzero, record, hrecord⟩
  · rw [fillRow_absent habsent]
    refine ⟨fun _ record hzero hrecord => ?_, fun _ => ⟨_, rfl⟩⟩
    rw [habsent hzero] at hrecord
    cases hrecord
  · constructor
    · intro h record' _ hrecord'
      obtain ⟨row, hrow⟩ := h
      obtain ⟨-, -, parts, -, hparts⟩ := fillRow_present hrow hzero hrecord'
      exact forall_of_forall₂ hparts fun bin ws hws => ⟨ws, hws⟩
    · intro h
      obtain ⟨parts, hparts⟩ := exists_mapM_eq_ok.mpr (h record hzero hrecord)
      refine ⟨⟨resultOf br, record.generation, recordTtlSeconds clock record, parts.flatten⟩, ?_⟩
      unfold fillRow
      rw [hrecord]
      dsimp only
      rw [if_neg (by simpa using hzero), hparts]
      rfl

theorem exists_fillRow_of_reordered {rowPtr : Int} {br br' : BatchRecord Key Record}
    (hsame : Reordered br br') (h : ∃ row, fillRow clock p fields rowPtr br = .ok row) :
    ∃ row, fillRow clock p fields rowPtr br' = .ok row := by
  rw [exists_fillRow_iff] at h ⊢
  intro record' hzero hrecord' bin hbin
  cases hrecord : br.record with
  | none =>
    rw [hsame.record_eq_none.mpr hrecord] at hrecord'
    cases hrecord'
  | some record =>
    obtain ⟨record'', hrecord'', hbody⟩ := hsame.record_eq_some hrecord
    obtain rfl := Option.some.inj (hrecord''.symm.trans hrecord')
    rw [hsame.resultOf_eq] at hzero
    exact h record hzero hrecord bin (hbody.bins.mem_iff.mp hbin)

theorem SameBody.symm {record record' : Record} (h : SameBody record record') :
    SameBody record' record :=
  ⟨h.generation.symm, h.expiration.symm, h.bins.symm⟩

theorem Reordered.symm {br br' : BatchRecord Key Record} (h : Reordered br br') :
    Reordered br' br where
  key := h.key.symm
  resultCode := h.resultCode.symm
  inDoubt := h.inDoubt.symm
  record := by
    have hrel := h.record
    generalize br.record = r at hrel ⊢
    generalize br'.record = r' at hrel ⊢
    cases hrel with
    | some hsame => exact .some hsame.symm
    | none => exact .none

theorem exists_fillRows_of_reordered {dataPtr : Nat} {results results' : Results}
    (hsame : List.Forall₂ Reordered results results')
    (h : ∃ rows, fillRows clock p fields dataPtr rowStride results = .ok rows) :
    ∃ rows, fillRows clock p fields dataPtr rowStride results' = .ok rows := by
  unfold fillRows at h ⊢
  rw [exists_mapM_eq_ok] at h ⊢
  intro e' he'
  obtain ⟨e, he, hbr, hi⟩ := exists_mem_of_forall₂ (forall₂_zipIdx hsame 0).flip he'
  rw [← hi]
  exact exists_fillRow_of_reordered hbr (h e he)

/-- The slots and their keys do not depend on the bins. -/
theorem map_reordered (rt : Runtime) {results results' : Results}
    (hsame : List.Forall₂ Reordered results results') :
    results.zipIdx.foldlM (addToMap rt) [] = results'.zipIdx.foldlM (addToMap rt) [] := by
  refine foldlM_congr ((forall₂_zipIdx hsame 0).imp fun e e' h keyMap => ?_) []
  unfold addToMap mapKey
  rw [h.1.key, h.2]

/-- Results with the same in them. -/
structure SameArrays (array array' : NumpyBatchRecords) : Prop where
  rowStride : array'.rowStride = array.rowStride
  length : array'.rows.length = array.rows.length
  rows : ∀ (i : Nat) row row', array.rows[i]? = some row → array'.rows[i]? = some row' →
    SameRow array.rowStride row row' (array.data i) (array'.data i)
  map : array'.map = array.map

theorem length_rows {zeros : Zeros} {results : Results} {d : Dtype} {array : NumpyBatchRecords}
    (h : batchToNumpyPy rt clock p zeros results d = .ok array) :
    array.rows.length = results.length := by
  obtain ⟨_, -, -, hrows, -⟩ := batchToNumpyPy_eq_ok h
  exact (fillRows_eq_ok hrows).1

theorem exists_batchToNumpyPy_of_reordered {zeros : Zeros} {results results' : Results}
    {d : Dtype} (hsame : List.Forall₂ Reordered results results')
    (h : ∃ array, batchToNumpyPy rt clock p zeros results d = .ok array) :
    ∃ array, batchToNumpyPy rt clock p zeros results' d = .ok array := by
  obtain ⟨array, h⟩ := h
  have hlen : results'.length = results.length := hsame.length_eq.symm
  obtain ⟨⟨fields, rowStride⟩, hparse, h⟩ := bind_eq_ok.mp h
  obtain ⟨_, hsize, h⟩ := bind_eq_ok.mp h
  obtain ⟨dataArray, hdata, h⟩ := bind_eq_ok.mp h
  obtain ⟨metaArray, hmeta, h⟩ := bind_eq_ok.mp h
  obtain ⟨codesArray, hcodes, h⟩ := bind_eq_ok.mp h
  obtain ⟨dataPtr, hdataPtr, h⟩ := bind_eq_ok.mp h
  obtain ⟨metaPtr, hmetaPtr, h⟩ := bind_eq_ok.mp h
  obtain ⟨codesPtr, hcodesPtr, h⟩ := bind_eq_ok.mp h
  obtain ⟨rows, hrows, h⟩ := bind_eq_ok.mp h
  obtain ⟨map, hmap, -⟩ := bind_eq_ok.mp h
  obtain ⟨rows', hrows'⟩ := exists_fillRows_of_reordered hsame ⟨rows, hrows⟩
  rw [map_reordered rt hsame] at hmap
  refine ⟨⟨rows', dataPtr, rowStride, map⟩, ?_⟩
  unfold batchToNumpyPy
  rw [hlen, bind_of_eq_ok hparse]
  dsimp only
  rw [bind_of_eq_ok hsize, bind_of_eq_ok hdata, bind_of_eq_ok hmeta, bind_of_eq_ok hcodes,
    bind_of_eq_ok hdataPtr, bind_of_eq_ok hmetaPtr, bind_of_eq_ok hcodesPtr,
    bind_of_eq_ok hrows', bind_of_eq_ok hmap]
  rfl

theorem sameRow_of_arrays (hclock : ∀ r r' : Record, r'.expiration = r.expiration → clock r' = clock r)
    {zeros zeros' : Zeros} {results results' : Results} {d : Dtype}
    {array array' : NumpyBatchRecords}
    (h : batchToNumpyPy rt clock p zeros results d = .ok array)
    (h' : batchToNumpyPy rt clock p zeros' results' d = .ok array')
    (haccept : parseDtypeFields p.endian d = .ok (fields, rowStride))
    (hsep : Separate fields rowStride) {i j : Nat} {br br' : BatchRecord Key Record}
    {row row' : Row} (hbr : results[i]? = some br) (hbr' : results'[j]? = some br')
    (hsame : Reordered br br') (hrow : array.rows[i]? = some row)
    (hrow' : array'.rows[j]? = some row') :
    SameRow rowStride row row' (array.data i) (array'.data j) :=
  (rowOf_array h haccept hsep hbr hrow).unique hclock (rowOf_array h' haccept hsep hbr' hrow') hsame

theorem sameOutcome_of_reordered
    (hclock : ∀ r r' : Record, r'.expiration = r.expiration → clock r' = clock r)
    {zeros : Zeros} {results results' : Results} {d : Dtype}
    (haccept : parseDtypeFields p.endian d = .ok (fields, rowStride))
    (hsep : Separate fields rowStride) (hsame : List.Forall₂ Reordered results results') :
    SameOutcome SameArrays (batchToNumpyPy rt clock p zeros results d)
      (batchToNumpyPy rt clock p zeros results' d) := by
  have hsame' : List.Forall₂ Reordered results' results :=
    hsame.flip.imp fun _ _ h => Reordered.symm h
  refine sameOutcome_iff.mpr ⟨⟨exists_batchToNumpyPy_of_reordered hsame,
    exists_batchToNumpyPy_of_reordered hsame'⟩, fun array array' h h' => ?_⟩
  have hlen := length_rows h
  obtain ⟨_, hparse, -, -, hmap⟩ := batchToNumpyPy_eq_ok h
  obtain ⟨_, hparse', -, -, hmap'⟩ := batchToNumpyPy_eq_ok h'
  obtain ⟨-, hstride⟩ := Prod.mk.inj (Except.ok.inj (haccept.symm.trans hparse))
  obtain ⟨-, hstride'⟩ := Prod.mk.inj (Except.ok.inj (haccept.symm.trans hparse'))
  rw [map_reordered rt hsame, hmap'] at hmap
  refine ⟨hstride'.symm.trans hstride, ?_, fun i row row' hrow hrow' => ?_, Except.ok.inj hmap⟩
  · rw [hlen, length_rows h', hsame.length_eq]
  · have hi : i < results.length := by
      rw [← hlen]
      exact (List.getElem?_eq_some_iff.mp hrow).1
    have hi' : i < results'.length := by
      rw [← hsame.length_eq]
      exact hi
    have hbr : results[i]? = some results[i] := List.getElem?_eq_getElem hi
    have hbr' : results'[i]? = some results'[i] := List.getElem?_eq_getElem hi'
    rw [← hstride]
    exact sameRow_of_arrays hclock h h' haccept hsep hbr hbr' (rel_of_forall₂ hsame hbr hbr')
      hrow hrow'

/-- A bin that its field cannot store fails the call. -/
theorem error_of_unstorable {zeros : Zeros} {results : Results} {d : Dtype}
    (haccept : parseDtypeFields p.endian d = .ok (fields, rowStride))
    (hsep : Separate fields rowStride) {br : BatchRecord Key Record} (hbr : br ∈ results)
    {record : Record} (hzero : resultOf br = 0) (hrecord : br.record = some record)
    {bin : String × Value} (hbin : bin ∈ record.bins) {f : FieldInfo} (hf : f ∈ fields)
    (hname : f.name = bin.1) {rowPtr : Int} (hrow : rowPtr ≠ 0) {e : PyErr}
    (herror : writeValueToBuffer p rowPtr f bin.2 = .error e) :
    ∃ e', batchToNumpyPy rt clock p zeros results d = .error e' := by
  cases h : batchToNumpyPy rt clock p zeros results d with
  | error e' => exact ⟨e', rfl⟩
  | ok array =>
    exfalso
    obtain ⟨_, hparse, hnull, hrows, -⟩ := batchToNumpyPy_eq_ok h
    obtain ⟨rfl, -⟩ := Prod.mk.inj (Except.ok.inj (haccept.symm.trans hparse))
    obtain ⟨hlen, hfill⟩ := fillRows_eq_ok hrows
    obtain ⟨i, hi⟩ := List.mem_iff_getElem?.mp hbr
    have hlt : i < array.rows.length := by
      rw [hlen]
      exact (List.getElem?_eq_some_iff.mp hi).1
    have hok := exists_fillRow_iff.mp
      ⟨_, hfill i br array.rows[i] hi (List.getElem?_eq_getElem hlt)⟩ record hzero hrecord bin hbin
    obtain ⟨ws, hws⟩ := hok
    rw [storeBin_of_field hsep hf hname] at hws
    have hmoved := @writeValueToBuffer_moves p rowPtr _ f hrow
      (rowAt_ne_zero hnull array.rowStride i) bin.2
    rw [herror, hws] at hmoved
    cases hmoved

/-- The fill of an accepted dtype with separate fields: row by row what record `i` leaves,
whatever the order of the bins, and nothing if a bin cannot be stored. -/
theorem batchToNumpyPy_fill (rt : Runtime) (clock : Clock) (p : Platform) (zeros : Zeros)
    (results : Results) (d : Dtype) {fields : List FieldInfo} {rowStride : Nat}
    (haccept : parseDtypeFields p.endian d = .ok (fields, rowStride))
    (hdisjoint : fields.Pairwise fun f g => ∀ k, ¬(Covers f k ∧ Covers g k))
    (hbase : ∀ f ∈ fields, f.baseItemsize ≤ f.itemsize)
    (hclock : ∀ r r' : Record, r'.expiration = r.expiration → clock r' = clock r) :
    (∀ array, batchToNumpyPy rt clock p zeros results d = .ok array →
      array.rows.length = results.length ∧ array.rowStride = rowStride ∧
      (∀ (i : Nat) br row, results[i]? = some br → array.rows[i]? = some row →
        RowOf clock p fields rowStride br row (array.data i)) ∧
      ∀ zeros' results' array', batchToNumpyPy rt clock p zeros' results' d = .ok array' →
        ∀ (i j : Nat) br br' row row', results[i]? = some br → results'[j]? = some br' →
          Reordered br br' → array.rows[i]? = some row → array'.rows[j]? = some row' →
          SameRow rowStride row row' (array.data i) (array'.data j)) ∧
    (∀ results', List.Forall₂ Reordered results results' →
      SameOutcome SameArrays (batchToNumpyPy rt clock p zeros results d)
        (batchToNumpyPy rt clock p zeros results' d)) ∧
    ∀ br ∈ results, ∀ record, resultOf br = 0 → br.record = some record →
      ∀ bin ∈ record.bins, ∀ f ∈ fields, f.name = bin.1 → ∀ rowPtr e, rowPtr ≠ 0 →
        writeValueToBuffer p rowPtr f bin.2 = .error e →
        ∃ e', batchToNumpyPy rt clock p zeros results d = .error e' := by
  have hsep := separate_of_accepted haccept hdisjoint hbase
  refine ⟨fun array h => ?_, fun results' => sameOutcome_of_reordered hclock haccept hsep, ?_⟩
  · obtain ⟨_, hparse, -⟩ := batchToNumpyPy_eq_ok h
    obtain ⟨-, hstride⟩ := Prod.mk.inj (Except.ok.inj (haccept.symm.trans hparse))
    refine ⟨length_rows h, hstride.symm,
      fun i br row hbr hrow => rowOf_array h haccept hsep hbr hrow, ?_⟩
    intro zeros' results' array' h' i j br br' row row' hbr hbr' hsame hrow hrow'
    exact sameRow_of_arrays hclock h h' haccept hsep hbr hbr' hsame hrow hrow'
  · intro br hbr record hzero hrecord bin hbin f hf hname rowPtr e hrow herror
    exact error_of_unstorable haccept hsep hbr hzero hrecord hbin hf hname hrow herror

def found (i : Int64) (bins : List (String × Value)) (h : (bins.map (·.1)).Nodup) :
    BatchRecord Key Record :=
  ⟨⟨"test", "a", some (.int i), List.replicate 20 0⟩, some ⟨none, bins, 3, 0, h⟩, some .ok, false⟩

/-- A number, a record that is not there, and a vector beside a `Nil`. -/
def threeRows : Results :=
  [found 1 [("n", .int 7), ("other", .bool true)] (by decide),
    ⟨⟨"test", "a", some (.int 2), List.replicate 20 1⟩, none, some .keyNotFoundError, false⟩,
    found 3 [("vec", .blob [1, 2, 3]), ("n", .nil)] (by decide)]

theorem batchToNumpyPy_fill_threeRows :
    let swapped := threeRows.set 2 (found 3 [("n", .nil), ("vec", .blob [1, 2, 3])] (by decide))
    let fill (results : Results) :=
      batchToNumpyPy .plain (fun _ => none) .littleEndian newArrays results numberAndVector
    (fill threeRows).map (fun array => (List.range 3).map fun i => (List.range 16).map (array.data i))
      = .ok [[7, 0, 0, 0, 0, 0, 0, 0, 0, 0, 0, 0, 0, 0, 0, 0],
        [0, 0, 0, 0, 0, 0, 0, 0, 0, 0, 0, 0, 0, 0, 0, 0],
        [0, 0, 0, 0, 0, 0, 0, 0, 1, 2, 3, 0, 0, 0, 0, 0]] ∧
    SameOutcome SameArrays (fill threeRows) (fill swapped) := by
  have haccept : parseDtypeFields .little numberAndVector =
      .ok ([⟨"n", 0, 8, 8, .int⟩, ⟨"vec", 8, 8, 4, .float⟩], 16) := by decide +kernel
  have hreordered {br : BatchRecord Key Record} : Reordered br br :=
    ⟨rfl, rfl, rfl, by cases br.record <;> constructor; exact ⟨rfl, rfl, .rfl⟩⟩
  refine ⟨by decide +kernel, (batchToNumpyPy_fill .plain _ .littleEndian newArrays threeRows
    numberAndVector haccept ?_ ?_ fun _ _ _ => rfl).2.1 _ ?_⟩
  · simp [Covers]
    omega
  · simp
  · refine .cons hreordered (.cons hreordered (.cons ⟨rfl, rfl, rfl, .some ⟨rfl, rfl, ?_⟩⟩ .nil))
    exact .swap _ _ _

end AerospikePy.Batch
