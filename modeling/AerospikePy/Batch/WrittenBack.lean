import AerospikePy.Batch.Fill
import AerospikePy.Numpy.KeptFloats
import AerospikePy.Numpy.Packed

/-!
# An array written and read back

The rows of an array are written as records, and the records are read into an array of
the same dtype. The fields of the bins come back byte by byte, and all else is zero.
-/

namespace AerospikePy.Batch

open AerospikePy.Core
open AerospikePy.Lib
open AerospikePy.Lib.Fallible
open AerospikePy.Numpy
open AerospikePy.Python
open AerospikePy.Values

section Written

variable {crates : KeyCrates} {p : Platform} {mem : Int → UInt8} {a : NdArray} {d : Dtype}
  {namespaceName setName keyField : String} {fields : List FieldInfo} {rowStride : Nat}

/-- The bin is that of the field, with the value that is read of it. -/
structure ReadsAs (p : Platform) (mem : Int → UInt8) (rowPtr : Int) (f : FieldInfo) (bin : Bin) :
    Prop where
  name : bin.name = f.name
  value : (readValueFromBuffer p mem rowPtr f).result = .ok bin.value

theorem readsAs_of_readBin {rowPtr : Int} {f : FieldInfo} {bin : Bin}
    (h : (readBin p mem rowPtr f).result = .ok bin) : ReadsAs p mem rowPtr f bin := by
  obtain ⟨v, hv, rfl⟩ := readBin_eq_ok.mp h
  exact ⟨rfl, hv⟩

/-- The bins of record `i` are the bin fields of row `i`. -/
theorem bins_of_call (hview : IsView a d) (hmem : InMemory a)
    (haccept : parseDtypeFields p.endian d = .ok (fields, rowStride))
    {records : List (Key × List Bin)}
    (hwrite : (numpyToRecords crates p mem a d namespaceName setName keyField).result =
      .ok records) :
    records.length = a.rows ∧ ∀ (i : Nat) row, records[i]? = some row →
      List.Forall₂ (ReadsAs p mem (a.rowStart i)) (fields.filter (isBin keyField)) row.2 := by
  cases hprep : prepare p.endian a d keyField with
  | error e =>
    rw [numpyToRecords, hprep] at hwrite
    cases hwrite
  | ok l =>
    have hloop := (numpyToRecords_eq_ok hprep).mp hwrite
    rw [prepare_of_view hview hmem, bind_of_eq_ok haccept] at hprep
    obtain ⟨hrows, hbase, hstride, hbins⟩ := layoutOf_eq_ok hprep
    have hlength : a.rows = records.length := by
      have h := hloop.length_eq
      rwa [List.length_range, hrows] at h
    refine ⟨hlength.symm, fun i row hi => ?_⟩
    have hlt := (List.getElem?_eq_some_iff.mp hi).1
    have hrow := rel_of_forall₂ hloop (List.getElem?_range (by omega)) hi
    rw [readRowAt_of_view hview hmem hbase hstride (by omega)] at hrow
    obtain ⟨_, _, _, -, -, -, -, hread⟩ := readRow_eq_ok.mp hrow
    rw [← hbins]
    exact hread.imp fun f bin => readsAs_of_readBin

end Written

/-- The server has the record of the row: its bins, in some order. -/
structure HoldsRow (row : Key × List Bin) (br : BatchRecord Key Record) : Prop where
  found : resultOf br = 0
  record : ∃ record, br.record = some record ∧
    record.bins.Perm (row.2.map fun bin => (bin.name, bin.value))

/-- What comes back of a row: the fields of its bins, and zeros. -/
structure WrittenBack (fields : List FieldInfo) (keyField : String) (rowStride : Nat)
    (row data : Nat → UInt8) : Prop where
  bins : ∀ f ∈ fields, isBin keyField f = true → ∀ k, Covers f k → data k = row k
  rest : ∀ k < rowStride, (∀ f ∈ fields, isBin keyField f = true → ¬ Covers f k) → data k = 0

section Back

variable {rt : Runtime} {clock : Clock} {p : Platform} {mem : Int → UInt8} {rowPtr : Int}
  {keyField : String} {fields : List FieldInfo} {rowStride : Nat}

theorem mem_bins_iff {record : Record} {bins : List Bin}
    (hperm : record.bins.Perm (bins.map fun bin => (bin.name, bin.value)))
    {bin : String × Value} : bin ∈ record.bins ↔ ∃ b ∈ bins, (b.name, b.value) = bin := by
  rw [hperm.mem_iff, List.mem_map]

/-- A bin of the record is that of one of the fields of the dtype. -/
theorem exists_field {bins : List Bin} {record : Record}
    (hread : List.Forall₂ (ReadsAs p mem rowPtr) (fields.filter (isBin keyField)) bins)
    (hperm : record.bins.Perm (bins.map fun bin => (bin.name, bin.value)))
    {bin : String × Value} (hbin : bin ∈ record.bins) :
    ∃ f ∈ fields, isBin keyField f = true ∧ f.name = bin.1 ∧
      (readValueFromBuffer p mem rowPtr f).result = .ok bin.2 := by
  obtain ⟨b, hb, rfl⟩ := (mem_bins_iff hperm).mp hbin
  obtain ⟨f, hf, hreads⟩ := exists_mem_of_forall₂ hread.flip hb
  obtain ⟨hmem, hisBin⟩ := List.mem_filter.mp hf
  exact ⟨f, hmem, hisBin, hreads.name.symm, hreads.value⟩

theorem exists_bin {bins : List Bin} {record : Record}
    (hread : List.Forall₂ (ReadsAs p mem rowPtr) (fields.filter (isBin keyField)) bins)
    (hperm : record.bins.Perm (bins.map fun bin => (bin.name, bin.value)))
    {f : FieldInfo} (hf : f ∈ fields) (hisBin : isBin keyField f = true) :
    ∃ v, (f.name, v) ∈ record.bins ∧ (readValueFromBuffer p mem rowPtr f).result = .ok v := by
  obtain ⟨b, hb, hreads⟩ := exists_mem_of_forall₂ hread (List.mem_filter.mpr ⟨hf, hisBin⟩)
  refine ⟨b.value, (mem_bins_iff hperm).mpr ⟨b, hb, ?_⟩, hreads.value⟩
  rw [hreads.name]

/-- No value that was read of a field is refused when it comes back. -/
theorem exists_storeBin (hp : p.HalfKeeps) (hsep : Separate fields rowStride)
    {bins : List Bin} {record : Record}
    (hread : List.Forall₂ (ReadsAs p mem rowPtr) (fields.filter (isBin keyField)) bins)
    (hperm : record.bins.Perm (bins.map fun bin => (bin.name, bin.value)))
    (hkept : ∀ f ∈ fields, isBin keyField f = true → FieldKept p mem rowPtr f)
    {rowPtr' : Int} (hrow' : rowPtr' ≠ 0) {bin : String × Value} (hbin : bin ∈ record.bins) :
    ∃ ws, storeBin p fields rowPtr' bin = .ok ws := by
  obtain ⟨f, hf, hisBin, hname, hvalue⟩ := exists_field hread hperm hbin
  rw [storeBin_of_field hsep hf hname]
  exact ⟨_, writeValueToBuffer_of_kept hp (hkept f hf hisBin) (hsep.base f hf) hrow' hvalue⟩

theorem writtenBack_of_filled (hp : p.HalfKeeps) (hsep : Separate fields rowStride)
    {bins : List Bin} {record : Record} {data : Nat → UInt8}
    (hread : List.Forall₂ (ReadsAs p mem rowPtr) (fields.filter (isBin keyField)) bins)
    (hperm : record.bins.Perm (bins.map fun bin => (bin.name, bin.value)))
    (hkept : ∀ f ∈ fields, isBin keyField f = true → FieldKept p mem rowPtr f)
    (hfilled : Filled p fields rowStride record data) :
    WrittenBack fields keyField rowStride (fun k => mem (rowPtr + k)) data where
  bins f hf hisBin k hk := by
    obtain ⟨v, hbin, hvalue⟩ := exists_bin hread hperm hf hisBin
    obtain ⟨ws, hws, hdata⟩ := hfilled.field _ hbin f hf rfl 1 (by decide)
    rw [writeValueToBuffer_of_kept hp (hkept f hf hisBin) (hsep.base f hf) (by decide) hvalue]
      at hws
    obtain rfl := Except.ok.inj hws
    have hlen := length_fieldBytes mem rowPtr f f.itemsize
    unfold Covers at hk
    have hin : k - f.offset < (fieldBytes mem rowPtr f f.itemsize).length := by omega
    have hfrom : rowPtr + f.offset + ((k - f.offset : Nat) : Int) = rowPtr + k := by omega
    have hto : (1 : Int) + f.offset + ((k - f.offset : Nat) : Int) = 1 + k := by omega
    have hstored := @stored_store zeroed (1 + f.offset) _ _ hin
    rw [getElem_fieldBytes hin, hfrom, hto] at hstored
    rw [hdata k hk, hstored]
  rest k hk hno := by
    refine hfilled.rest k hk fun bin hbin f hf hname => ?_
    obtain ⟨g, hg, hisBin, hgname, -⟩ := exists_field hread hperm hbin
    -- the two fields have one name, so they are one field
    obtain rfl := List.inj_on_of_nodup_map hsep.names hg hf (hgname.trans hname.symm)
    exact hno g hg hisBin

theorem exists_fillRows (hp : p.HalfKeeps) (hsep : Separate fields rowStride)
    {records : List (Key × List Bin)} {results : Results} {rowStart : Nat → Int}
    (hread : ∀ (i : Nat) row, records[i]? = some row →
      List.Forall₂ (ReadsAs p mem (rowStart i)) (fields.filter (isBin keyField)) row.2)
    (hkept : ∀ i < records.length, ∀ f ∈ fields, isBin keyField f = true →
      FieldKept p mem (rowStart i) f)
    (hback : List.Forall₂ HoldsRow records results) {dataPtr : Nat} (hnull : dataPtr ≠ 0) :
    ∃ rows, fillRows clock p fields dataPtr rowStride results = .ok rows := by
  unfold fillRows
  rw [exists_mapM_eq_ok]
  intro e he
  have hbr := List.mem_zipIdx_iff_getElem?.mp he
  have hi : e.2 < records.length := by
    rw [hback.length_eq]
    exact (List.getElem?_eq_some_iff.mp hbr).1
  have hholds := rel_of_forall₂ hback (List.getElem?_eq_getElem hi) hbr
  rw [exists_fillRow_iff]
  intro record _ hrecord bin hbin
  obtain ⟨record', hrecord', hperm⟩ := hholds.record
  obtain rfl := Option.some.inj (hrecord'.symm.trans hrecord)
  exact exists_storeBin hp hsep (hread e.2 _ (List.getElem?_eq_getElem hi)) hperm
    (hkept e.2 hi) (rowAt_ne_zero hnull _ _) hbin

end Back

/-- An array that is written and read back with the same dtype has the bytes of its bin
fields in every row, the strides that it was written with apart. -/
theorem array_written_back {crates : KeyCrates} {p : Platform} {mem : Int → UInt8} {a : NdArray}
    {d : Dtype} {namespaceName setName keyField : String} {fields : List FieldInfo}
    {rowStride : Nat} {records : List (Key × List Bin)} {results : Results} (hp : p.HalfKeeps)
    (hview : IsView a d) (hmem : InMemory a)
    (haccept : parseDtypeFields p.endian d = .ok (fields, rowStride))
    (hdisjoint : fields.Pairwise fun f g => ∀ k, ¬(Covers f k ∧ Covers g k))
    (hkept : ∀ i < a.rows, ∀ f ∈ fields, isBin keyField f = true →
      FieldKept p mem (a.rowStart i) f)
    (hwrite : (numpyToRecords crates p mem a d namespaceName setName keyField).result =
      .ok records)
    (hback : List.Forall₂ HoldsRow records results) (rt : Runtime) (clock : Clock) :
    (∀ dataPtr, dataPtr ≠ 0 →
      ∃ rows, fillRows clock p fields dataPtr rowStride results = .ok rows) ∧
    ∀ zeros array, batchToNumpyPy rt clock p zeros results d = .ok array →
      array.rows.length = a.rows ∧ (∀ row ∈ array.rows, row.resultCode = 0) ∧
      ∀ i < a.rows, WrittenBack fields keyField rowStride (fun k => mem (a.rowStart i + k))
        (array.data i) := by
  obtain ⟨hlength, hread⟩ := bins_of_call hview hmem haccept hwrite
  have hbase : ∀ f ∈ fields, f.baseItemsize ≤ f.itemsize :=
    fun f hf => (hview.info haccept f hf).1
  have hsep := separate_of_accepted haccept hdisjoint hbase
  rw [← hlength] at hkept ⊢
  refine ⟨fun dataPtr => exists_fillRows hp hsep hread hkept hback, fun zeros array h => ?_⟩
  have hrows := length_rows h
  have hresults := hback.length_eq
  have hrow : ∀ i (hi : i < array.rows.length), ∃ row br, records[i]? = some row ∧
      HoldsRow row br ∧ RowOf clock p fields rowStride br array.rows[i] (array.data i) := by
    intro i hi
    have hbr : results[i]? = some results[i] := List.getElem?_eq_getElem (by omega)
    have hwritten : records[i]? = some records[i] := List.getElem?_eq_getElem (by omega)
    exact ⟨_, _, hwritten, rel_of_forall₂ hback hwritten hbr,
      rowOf_array h haccept hsep hbr (List.getElem?_eq_getElem hi)⟩
  refine ⟨by omega, fun row hmem => ?_, fun i hi => ?_⟩
  · obtain ⟨i, hi, rfl⟩ := List.getElem_of_mem hmem
    obtain ⟨_, br, -, hholds, hof⟩ := hrow i hi
    rw [hof.code, hholds.found]
  · obtain ⟨row, br, hwritten, hholds, hof⟩ := hrow i (by omega)
    obtain ⟨record, hrecord, hperm⟩ := hholds.record
    obtain ⟨-, -, hfilled⟩ := hof.present record hholds.found hrecord
    exact writtenBack_of_filled hp hsep (hread i row hwritten) hperm (hkept i hi) hfilled

/-- The dtype `[('_key', 'i8'), ('x', 'f4'), ('n', 'i2')]`, aligned. -/
def measurement : Dtype where
  fields := some [⟨"_key", ⟨⟨"i", "=", 8, "int64"⟩, [], "int64"⟩, 0⟩,
    ⟨"x", ⟨⟨"f", "=", 4, "float32"⟩, [], "float32"⟩, 8⟩,
    ⟨"n", ⟨⟨"i", "=", 2, "int16"⟩, [], "int16"⟩, 12⟩]
  itemsize := 16

def measurementFields : List FieldInfo :=
  [⟨"_key", 0, 8, 8, .int⟩, ⟨"x", 8, 4, 4, .float⟩, ⟨"n", 12, 2, 2, .int⟩]

/-- The rows `(1, 1.5, -2)` and `(2, nan, 3)` from 4096 on, with something in the padding. -/
def measurements (addr : Int) : UInt8 :=
  ([1, 0, 0, 0, 0, 0, 0, 0, 0x00, 0x00, 0xC0, 0x3F, 0xFE, 0xFF, 9, 9,
    2, 0, 0, 0, 0, 0, 0, 0, 0x01, 0x00, 0xC0, 0x7F, 0x03, 0x00, 9, 9].getD (addr - 4096).toNat 0)

theorem not_covers_of_le {f g : FieldInfo} (h : f.offset + f.itemsize ≤ g.offset) (k : Nat) :
    ¬(Covers f k ∧ Covers g k) := by
  unfold Covers
  omega

theorem array_written_back_reversed :
    let records : List (Key × List Bin) :=
      [(⟨"test", "demo", some (.int 2), []⟩, [⟨"x", .float (.f64 0x7FF8000020000000)⟩, ⟨"n", .int 3⟩]),
        (⟨"test", "demo", some (.int 1), []⟩, [⟨"x", .float (.f64 0x3FF8000000000000)⟩, ⟨"n", .int (-2)⟩])]
    let results : Results :=
      [found 2 [("n", .int 3), ("x", .float (.f64 0x7FF8000020000000))] (by decide),
        found 1 [("x", .float (.f64 0x3FF8000000000000)), ("n", .int (-2))] (by decide)]
    let fill := batchToNumpyPy .plain (fun _ => none) .littleEndian newArrays results measurement
    (numpyToRecords ⟨fun _ => [], fun ns set v => .ok ⟨ns, set, some v, []⟩⟩ .littleEndian
      measurements reversedRows measurement "test" "demo" "_key").result = .ok records ∧
    (fill.map fun array => (List.range 2).map fun i => (List.range 16).map (array.data i)) =
      .ok [[0, 0, 0, 0, 0, 0, 0, 0, 0x01, 0x00, 0xC0, 0x7F, 0x03, 0x00, 0, 0],
        [0, 0, 0, 0, 0, 0, 0, 0, 0x00, 0x00, 0xC0, 0x3F, 0xFE, 0xFF, 0, 0]] ∧
    ∀ array, fill = .ok array → ∀ i < 2, WrittenBack measurementFields "_key" 16
      (fun k => measurements (reversedRows.rowStart i + k)) (array.data i) := by
  intro records results fill
  have hview : IsView reversedRows measurement :=
    ⟨rfl, rfl, by decide, Or.inr (by decide), by decide⟩
  have hmem : InMemory reversedRows :=
    ⟨by decide, by decide, 4096, 32, by decide, by decide, by decide⟩
  have haccept : parseDtypeFields .little measurement = .ok (measurementFields, 16) := by
    decide +kernel
  have hdisjoint : measurementFields.Pairwise fun f g => ∀ k, ¬(Covers f k ∧ Covers g k) := by
    have hafter : measurementFields.Pairwise fun f g => f.offset + f.itemsize ≤ g.offset := by
      decide
    exact hafter.imp fun h => not_covers_of_le h
  have hkept : ∀ i < reversedRows.rows, ∀ f ∈ measurementFields, isBin "_key" f = true →
      FieldKept .littleEndian measurements (reversedRows.rowStart i) f := by
    decide +kernel
  have hwrite : (numpyToRecords ⟨fun _ => [], fun ns set v => .ok ⟨ns, set, some v, []⟩⟩
      .littleEndian measurements reversedRows measurement "test" "demo" "_key").result =
        .ok records := by
    decide +kernel
  have hback : List.Forall₂ HoldsRow records results :=
    .cons ⟨rfl, _, rfl, .swap _ _ _⟩ (.cons ⟨rfl, _, rfl, .rfl⟩ .nil)
  refine ⟨hwrite, by decide +kernel, ?_⟩
  exact fun array h => ((array_written_back halfKeeps_littleEndian hview hmem haccept hdisjoint
    hkept hwrite hback .plain fun _ => none).2 _ _ h).2.2

end AerospikePy.Batch
