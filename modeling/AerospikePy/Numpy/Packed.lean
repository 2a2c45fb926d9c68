import AerospikePy.Numpy.FieldValue
import AerospikePy.Numpy.ReadBounds

/-!
# Views and packed copies

The rows of a one-dimensional array need not be next to each other: a slice leaves room
between them, a reversal takes them from the last one on, and a broadcast repeats one. A
call makes the same of them as of a contiguous copy.
-/

namespace AerospikePy.Numpy

open AerospikePy.Core
open AerospikePy.Lib.Fallible

/-- A one-dimensional array of this dtype, with rows that do not overlap or are all one. -/
structure IsView (a : NdArray) (d : Dtype) : Prop where
  oneDim : a.shape.length = 1
  own : a.itemsize = d.itemsize
  wide : ∀ f ∈ d.fields.getD [], f.dtype.base.itemsize ≤ f.dtype.itemsize
  stride : a.strides.headD 0 = 0 ∨ a.itemsize ≤ (a.strides.headD 0).natAbs
  small : a.rows * a.itemsize < 2 ^ 64

/-- What NumPy promises of the memory of an array: lengths are of its signed 64-bit type,
and the rows lie in one allocation, which is not at null and no longer than `isize::MAX`. -/
structure InMemory (a : NdArray) : Prop where
  length : a.rows < 2 ^ 63
  nonnull : a.dataPtr ≠ 0
  allocated : ∃ base size : Nat, 0 < base ∧ size < 2 ^ 63 ∧
    ∀ i < a.rows, base ≤ a.rowStart i ∧ a.rowStart i + a.itemsize ≤ base + size

/-- `b` holds the rows of `a`, one after the other. -/
structure PackedCopy (a : NdArray) (mem : Int → UInt8) (b : NdArray) (mem' : Int → UInt8) : Prop where
  shape : b.shape = a.shape
  itemsize : b.itemsize = a.itemsize
  strides : b.strides = [(b.itemsize : Int)]
  bytes : ∀ i < a.rows, ∀ k < a.itemsize, mem' (b.rowStart i + k) = mem (a.rowStart i + k)

/-- The bin of the field, with the value of its bytes in the row. -/
structure IsBinOf (p : Platform) (mem : Int → UInt8) (rowPtr : Int) (f : FieldInfo) (bin : Bin) :
    Prop where
  name : bin.name = f.name
  value : HoldsValue p f (fieldBytes mem rowPtr f) bin.value

section View

variable {a : NdArray} {d : Dtype}

theorem PackedCopy.rows_eq {mem mem' : Int → UInt8} {b : NdArray} (h : PackedCopy a mem b mem') :
    b.rows = a.rows := by
  rw [NdArray.rows, h.shape, NdArray.rows]

theorem PackedCopy.isView {mem mem' : Int → UInt8} {b : NdArray} (h : PackedCopy a mem b mem')
    (hview : IsView a d) : IsView b d where
  oneDim := by rw [h.shape, hview.oneDim]
  own := by rw [h.itemsize, hview.own]
  wide := hview.wide
  stride := by simp [h.strides]
  small := by rw [h.rows_eq, h.itemsize]; exact hview.small

theorem InMemory.rowStart_pos (h : InMemory a) {i : Nat} (hi : i < a.rows) : 0 < a.rowStart i := by
  obtain ⟨base, size, hbase, -, hblock⟩ := h.allocated
  have hrow := (hblock i hi).1
  omega

/-- The rows of an allocation are less than `2 ^ 63` apart. -/
theorem InMemory.offset_bounds (h : InMemory a) {i : Nat} (hi : i < a.rows) :
    -2 ^ 63 < i * a.strides.headD 0 ∧ i * a.strides.headD 0 < 2 ^ 63 := by
  obtain ⟨base, size, -, hsize, hblock⟩ := h.allocated
  have hfirst := hblock 0 (by omega)
  have hrow := hblock i hi
  unfold NdArray.rowStart at hfirst hrow
  rw [Int.natCast_zero, Int.zero_mul] at hfirst
  generalize (i : Int) * a.strides.headD 0 = offset at hrow ⊢
  omega

/-- The stride that a call takes from the interface. -/
def readStride (a : NdArray) : Int := if a.cContiguous then a.itemsize else a.strides.headD 0

theorem getArrayRowStride_of_view (hview : IsView a d) (hmem : InMemory a) :
    getArrayRowStride a d.itemsize = .ok (readStride a) := by
  obtain ⟨n, s, hshape, hstrides⟩ := strides_of_shape hview.oneDim
  have hrows : a.rows = n := by simp [NdArray.rows, hshape]
  have hsmall : d.itemsize ≤ isizeMax := by
    have h := d.small.1
    unfold isizeMax
    omega
  unfold getArrayRowStride readStride NdArray.interfaceStrides
  rw [require_bind hview.oneDim, require_bind hsmall]
  by_cases hc : a.cContiguous = true
  · rw [if_pos hc, if_pos hc, hview.own]
    rfl
  · -- more than one row, so the stride is the distance of two of them
    have hn : 1 < n := by
      by_contra hle
      have hcases : n = 0 ∨ n = 1 := by omega
      rcases hcases with rfl | rfl <;>
        simp [NdArray.cContiguous, NdArray.rowMajor, hshape, hstrides] at hc
    have hoffset := hmem.offset_bounds (show 1 < a.rows by omega)
    have hstride := hview.stride
    rw [hview.own] at hstride
    rw [if_neg hc, if_neg hc]
    dsimp only
    rw [require_bind (by rw [hstrides]; rfl), require_bind (by omega), require_bind hstride]
    rfl

theorem offset_of_view (hview : IsView a d) {i : Nat} (hi : i < a.rows) :
    (i : Int) * readStride a = i * a.strides.headD 0 := by
  obtain ⟨n, s, hshape, hstrides⟩ := strides_of_shape hview.oneDim
  have hrows : a.rows = n := by simp [NdArray.rows, hshape]
  unfold readStride
  by_cases hc : a.cContiguous = true
  · rw [if_pos hc]
    by_cases hn : 1 < n
    · rw [hstrides, List.headD_cons, contiguous_stride hshape hstrides hc hn]
    · obtain rfl : i = 0 := by omega
      simp
  · rw [if_neg hc]

/-- What `prepare` makes of the fields, where its checks pass. -/
def layoutOf (keyField : String) (a : NdArray) (infos : List FieldInfo) : Except PyErr Layout :=
  match infos.find? fun f => f.name == keyField with
  | none => .error ⟨.valueError,
      s!"dtype must contain a '{keyField}' field for the record key"⟩
  | some key =>
    return {
      rows := a.rows
      base := a.dataPtr
      rowStride := readStride a
      key := key
      ns := infos.find? fun f => f.name == "_namespace"
      set := infos.find? fun f => f.name == "_set"
      bins := infos.filter (isBin keyField) }

theorem prepare_of_view {endian : Endian} {keyField : String} (hview : IsView a d)
    (hmem : InMemory a) :
    prepare endian a d keyField =
      parseDtypeFields endian d >>= fun parsed => layoutOf keyField a parsed.1 := by
  obtain ⟨n, s, hshape, hstrides⟩ := strides_of_shape hview.oneDim
  have hlen : lenArray a = .ok a.rows := by rw [lenArray, NdArray.rows, hshape]; rfl
  have hptr : getArrayDataPtrReadonly a = .ok a.dataPtr := by
    rw [getArrayDataPtrReadonly, require_bind hmem.nonnull]
    rfl
  unfold prepare
  rw [bind_of_eq_ok hlen]
  refine bind_congr_ok fun parsed hparse => ?_
  obtain ⟨infos, rowSize⟩ := parsed
  obtain ⟨rfl, -⟩ := parseDtypeFields_ok hparse
  have hsmall := hview.small
  rw [hview.own] at hsmall
  dsimp only
  rw [require_bind hsmall, bind_of_eq_ok hptr, bind_of_eq_ok (getArrayRowStride_of_view hview hmem)]
  rfl

end View

section Row

variable {crates : KeyCrates} {p : Platform} {mem mem' : Int → UInt8} {rowPtr rowPtr' : Int}
  {namespaceName setName : String}

theorem readName_congr {default : String} {f : Option FieldInfo}
    (h : ∀ g ∈ f.toList, (readValueFromBuffer p mem rowPtr g).result =
      (readValueFromBuffer p mem' rowPtr' g).result) :
    (readName p mem rowPtr default f).result = (readName p mem' rowPtr' default f).result := by
  cases f with
  | none => rfl
  | some g =>
    unfold readName
    rw [Logged.result_bind, Logged.result_bind, h g (by simp)]

/-- A row is made of what is read of its fields. -/
theorem readRow_congr {l : Layout} {i : Nat}
    (h : ∀ f ∈ l.fields, (readValueFromBuffer p mem rowPtr f).result =
      (readValueFromBuffer p mem' rowPtr' f).result) :
    (readRow crates p mem l namespaceName setName i rowPtr).result =
      (readRow crates p mem' l namespaceName setName i rowPtr').result := by
  have hns := @readName_congr p mem mem' rowPtr rowPtr' namespaceName l.ns fun f hf =>
    h f (by simp [Layout.fields, Option.mem_toList.mp hf])
  have hset := @readName_congr p mem mem' rowPtr rowPtr' setName l.set fun f hf =>
    h f (by simp [Layout.fields, Option.mem_toList.mp hf])
  have hbins : l.bins.mapM (fun f => (readBin p mem rowPtr f).result) =
      l.bins.mapM fun f => (readBin p mem' rowPtr' f).result := by
    refine mapM_congr fun f hf => ?_
    unfold readBin
    rw [Logged.result_bind, Logged.result_bind, h f (by simp [Layout.fields, hf])]
  unfold readRow
  simp only [Logged.result_bind, Logged.result_mapM, hns, hset, hbins, h l.key List.mem_cons_self]

theorem fieldBytes_congr {f : FieldInfo} {w size : Nat} (hfits : f.offset + w ≤ size)
    (h : ∀ k < size, mem' (rowPtr' + k) = mem (rowPtr + k)) :
    fieldBytes mem' rowPtr' f w = fieldBytes mem rowPtr f w := by
  unfold fieldBytes addresses
  rw [List.map_map, List.map_map]
  refine List.map_congr_left fun k hk => ?_
  have hlt := List.mem_range.mp hk
  have hbyte := h (f.offset + k) (by omega)
  rw [Int.natCast_add, ← Int.add_assoc, ← Int.add_assoc] at hbyte
  exact hbyte

/-- The bytes of the item decide what is read of a field. -/
theorem readValueFromBuffer_congr {f : FieldInfo} {size : Nat} (hrow : rowPtr ≠ 0)
    (hrow' : rowPtr' ≠ 0) (hwide : f.baseItemsize ≤ f.itemsize) (hfits : f.offset + f.itemsize ≤ size)
    (h : ∀ k < size, mem' (rowPtr' + k) = mem (rowPtr + k)) :
    (readValueFromBuffer p mem' rowPtr' f).result = (readValueFromBuffer p mem rowPtr f).result := by
  rw [readValueFromBuffer_eq hrow, readValueFromBuffer_eq hrow']
  refine fieldValue_congr fun w hw => ?_
  have hle := readWidth_le hwide hw
  exact fieldBytes_congr (by omega) h

end Row

theorem checkedRowOffset_of_bounds {i : Nat} {stride : Int} (hi : i < 2 ^ 63)
    (h : -2 ^ 63 < i * stride ∧ i * stride < 2 ^ 63) :
    checkedRowOffset i stride = .ok (i * stride) := by
  have hindex : i ≤ isizeMax := by
    unfold isizeMax
    omega
  rw [checkedRowOffset, require_bind hindex, require_bind ⟨by omega, h.2⟩]
  rfl

/-- The loop reads row `i` of a view where it starts. -/
theorem readRowAt_of_view {crates : KeyCrates} {p : Platform} {mem : Int → UInt8} {a : NdArray}
    {d : Dtype} {l : Layout} {namespaceName setName : String} {i : Nat} (hview : IsView a d)
    (hmem : InMemory a) (hbase : l.base = a.dataPtr) (hstride : l.rowStride = readStride a)
    (hi : i < a.rows) :
    (readRowAt crates p mem l namespaceName setName i).result =
      (readRow crates p mem l namespaceName setName i (a.rowStart i)).result := by
  have hbounds := hmem.offset_bounds hi
  have hlength := hmem.length
  rw [← offset_of_view hview hi] at hbounds
  unfold readRowAt
  rw [Logged.result_bind, hstride]
  refine (bind_of_eq_ok (checkedRowOffset_of_bounds (by omega) hbounds) _).trans ?_
  rw [offset_of_view hview hi, hbase]
  rfl

section Call

variable {crates : KeyCrates} {p : Platform} {mem mem' : Int → UInt8} {a b : NdArray} {d : Dtype}
  {namespaceName setName keyField : String}

/-- The fields of a view lie in its items, and are no shorter than their bases. -/
theorem IsView.info {infos : List FieldInfo} {rowSize : Nat} (hview : IsView a d)
    (hparse : parseDtypeFields p.endian d = .ok (infos, rowSize)) :
    ∀ f ∈ infos, f.baseItemsize ≤ f.itemsize ∧ f.offset + f.itemsize ≤ a.itemsize := by
  intro f hf
  obtain ⟨rfl, fields, hfields, hall⟩ := parseDtypeFields_ok hparse
  obtain ⟨g, hg, hdesc⟩ := exists_mem_of_forall₂ hall.flip hf
  have hwide := hview.wide g (by rw [hfields]; exact hg)
  constructor
  · rw [hdesc.baseItemsize, hdesc.itemsize]
    exact hwide
  · rw [hview.own]
    exact hdesc.fits

theorem layoutOf_eq_ok {infos : List FieldInfo} {l : Layout} (h : layoutOf keyField a infos = .ok l) :
    l.rows = a.rows ∧ l.base = a.dataPtr ∧ l.rowStride = readStride a ∧
      l.bins = infos.filter (isBin keyField) := by
  unfold layoutOf at h
  split at h
  · cases h
  · cases h
    exact ⟨rfl, rfl, rfl, rfl⟩

theorem layoutOf_fields {infos : List FieldInfo} {l : Layout} (h : layoutOf keyField a infos = .ok l) :
    l.fields = usedFields keyField infos := by
  unfold layoutOf at h
  split at h
  · cases h
  · rename_i key hkey
    cases h
    unfold usedFields Layout.fields
    rw [hkey]
    rfl

/-- The layout for other rows of the same dtype. -/
def Layout.moved (l : Layout) (b : NdArray) : Layout :=
  { l with base := b.dataPtr, rowStride := readStride b }

theorem layoutOf_moved (infos : List FieldInfo) (hrows : b.rows = a.rows) :
    layoutOf keyField b infos = (fun l => l.moved b) <$> layoutOf keyField a infos := by
  unfold layoutOf
  rw [hrows]
  cases infos.find? fun f => f.name == keyField <;> rfl

/-- A packed copy is read as the view it was made of. -/
theorem numpyToRecords_packed (hview : IsView a d) (hmem : InMemory a)
    (hcopy : PackedCopy a mem b mem') (hmem' : InMemory b) :
    (numpyToRecords crates p mem' b d namespaceName setName keyField).result =
      (numpyToRecords crates p mem a d namespaceName setName keyField).result := by
  have hview' := hcopy.isView hview
  unfold numpyToRecords
  rw [Logged.result_bind, Logged.result_bind]
  change prepare p.endian b d keyField >>= _ = prepare p.endian a d keyField >>= _
  rw [prepare_of_view hview hmem, prepare_of_view hview' hmem', bind_assoc, bind_assoc]
  refine bind_congr_ok fun parsed hparse => ?_
  obtain ⟨infos, rowSize⟩ := parsed
  rw [layoutOf_moved infos hcopy.rows_eq, bind_map_left]
  refine bind_congr_ok fun l hl => ?_
  obtain ⟨hrows, hbase, hstride, -⟩ := layoutOf_eq_ok hl
  have hfields := layoutOf_fields hl
  rw [Logged.result_mapM, Logged.result_mapM]
  refine mapM_congr fun i hi => ?_
  have hlt : i < a.rows := by
    rw [← hrows]
    exact List.mem_range.mp hi
  have hlt' : i < b.rows := by rwa [hcopy.rows_eq]
  have hpos := hmem.rowStart_pos hlt
  have hpos' := hmem'.rowStart_pos hlt'
  rw [readRowAt_of_view hview hmem hbase hstride hlt, readRowAt_of_view hview' hmem' rfl rfl hlt']
  -- both layouts name the same fields
  refine @readRow_congr crates p mem' mem (b.rowStart i) (a.rowStart i) _ _ l i fun f hf => ?_
  rw [hfields] at hf
  obtain ⟨hwide, hfits⟩ := hview.info hparse f (mem_of_usedFields hf)
  exact readValueFromBuffer_congr (by omega) (by omega) hwide hfits (hcopy.bytes i hlt)

/-- The bins of a row are the bin fields of the dtype, with the values of their bytes. -/
theorem bins_of_readRow (hp : p.HalfExact) {l : Layout} {i : Nat} {rowPtr : Int}
    {row : Key × List Bin}
    (h : (readRow crates p mem l namespaceName setName i rowPtr).result = .ok row) :
    List.Forall₂ (IsBinOf p mem rowPtr) l.bins row.2 := by
  obtain ⟨v, ns, set, hv, -, -, -, hbins⟩ := readRow_eq_ok.mp h
  refine hbins.imp fun f bin hbin => ?_
  obtain ⟨value, hvalue, rfl⟩ := readBin_eq_ok.mp hbin
  rw [readValueFromBuffer_eq (rowPtr_ne_zero hvalue)] at hvalue
  exact ⟨rfl, fieldValue_holds (fun _ => hp) (length_fieldBytes ..) hvalue⟩

/-- A call makes the same of a view as of a packed copy, error for error. Where it
succeeds, there is one record for each row, and its bins are the bin fields in dtype order. -/
theorem numpyToRecords_layout (hp : p.HalfExact) (hview : IsView a d) (hmem : InMemory a) :
    (∀ b mem', PackedCopy a mem b mem' → InMemory b →
      (numpyToRecords crates p mem' b d namespaceName setName keyField).result =
        (numpyToRecords crates p mem a d namespaceName setName keyField).result) ∧
    ∀ records,
      (numpyToRecords crates p mem a d namespaceName setName keyField).result = .ok records →
        records.length = a.rows ∧
        ∃ fields infos, d.fields = some fields ∧ List.Forall₂ (Describes d.itemsize) fields infos ∧
          ∀ i row, records[i]? = some row →
            List.Forall₂ (IsBinOf p mem (a.rowStart i)) (infos.filter (isBin keyField)) row.2 := by
  refine ⟨fun b mem' hcopy hmem' => numpyToRecords_packed hview hmem hcopy hmem', ?_⟩
  intro records hcall
  cases hprep : prepare p.endian a d keyField with
  | error e =>
    rw [numpyToRecords, hprep] at hcall
    cases hcall
  | ok l =>
    have hloop := (numpyToRecords_eq_ok hprep).mp hcall
    rw [prepare_of_view hview hmem] at hprep
    obtain ⟨⟨infos, rowSize⟩, hparse, hl⟩ := bind_eq_ok.mp hprep
    obtain ⟨hrows, hbase, hstride, hbins⟩ := layoutOf_eq_ok hl
    obtain ⟨rfl, fields, hfields, hall⟩ := parseDtypeFields_ok hparse
    have hlength : a.rows = records.length := by
      have h := hloop.length_eq
      rwa [List.length_range, hrows] at h
    refine ⟨hlength.symm, fields, infos, hfields, hall, fun i row hi => ?_⟩
    have hlt := (List.getElem?_eq_some_iff.mp hi).1
    have hrow := rel_of_forall₂ hloop (List.getElem?_range (by omega)) hi
    rw [readRowAt_of_view hview hmem hbase hstride (by omega)] at hrow
    rw [← hbins]
    exact bins_of_readRow hp hrow

end Call

/-- The keys 7 and 9 in two rows from 4096 on. -/
def twoKeys (addr : Int) : UInt8 := if addr = 4096 then 7 else if addr = 4112 then 9 else 0

/-- The two rows, last one first. -/
def reversedRows : NdArray := ⟨4112, [2], [-16], 16, rfl⟩

/-- The rows of the copy start at 8192. -/
def reversedCopy (addr : Int) : UInt8 := if addr = 8192 then 9 else if addr = 8208 then 7 else 0

def packedRows : NdArray := ⟨8192, [2], [16], 16, rfl⟩

theorem numpyToRecords_layout_reversed :
    let crates : KeyCrates := ⟨fun _ => [], fun ns set v => .ok ⟨ns, set, some v, []⟩⟩
    let record (k : Int64) : Key × List Bin := (⟨"test", "demo", some (.int k), []⟩, [⟨"v", .int 0⟩])
    (numpyToRecords crates .littleEndian reversedCopy packedRows keyAndValue "test" "demo"
      "_key").result =
      (numpyToRecords crates .littleEndian twoKeys reversedRows keyAndValue "test" "demo"
        "_key").result ∧
    (numpyToRecords crates .littleEndian twoKeys reversedRows keyAndValue "test" "demo"
      "_key").result = .ok [record 9, record 7] ∧
    ∃ fields infos, keyAndValue.fields = some fields ∧ List.Forall₂ (Describes 16) fields infos ∧
      List.Forall₂ (IsBinOf .littleEndian twoKeys 4112) (infos.filter (isBin "_key"))
        (record 9).2 := by
  intro crates record
  have hview : IsView reversedRows keyAndValue :=
    ⟨rfl, rfl, by decide, Or.inr (by decide), by decide⟩
  have hmem : InMemory reversedRows := ⟨by decide, by decide, 4096, 32, by decide, by decide, by decide⟩
  have hmem' : InMemory packedRows := ⟨by decide, by decide, 8192, 32, by decide, by decide, by decide⟩
  have hcopy : PackedCopy reversedRows twoKeys packedRows reversedCopy :=
    ⟨rfl, rfl, rfl, by decide⟩
  have hcall : (numpyToRecords crates .littleEndian twoKeys reversedRows keyAndValue "test" "demo"
      "_key").result = .ok [record 9, record 7] := by with_unfolding_all rfl
  obtain ⟨hpacked, hrecords⟩ := @numpyToRecords_layout crates .littleEndian twoKeys reversedRows
    keyAndValue "test" "demo" "_key" halfExact_littleEndian hview hmem
  obtain ⟨-, fields, infos, hfields, hall, hbins⟩ := hrecords _ hcall
  exact ⟨hpacked packedRows reversedCopy hcopy hmem', hcall, fields, infos, hfields, hall,
    hbins 0 _ rfl⟩

/-- The dtype `[('_key', 'i8'), ('v', 'i8', (1,))]`. -/
def oneElement : Dtype where
  fields := some [⟨"_key", ⟨baseI8, [], "int64"⟩, 0⟩, ⟨"v", ⟨baseI8, [1], "('<i8', (1,))"⟩, 8⟩]
  itemsize := 16

def oneRow : NdArray := ⟨4096, [1], [16], 16, rfl⟩

/-- A sub-array of one element is read as the element and not as its bytes. -/
theorem numpyToRecords_single_element :
    let crates : KeyCrates := ⟨fun _ => [], fun ns set v => .ok ⟨ns, set, some v, []⟩⟩
    IsView oneRow oneElement ∧ InMemory oneRow ∧
    (numpyToRecords crates .littleEndian twoKeys oneRow oneElement "test" "demo" "_key").result =
      .ok [(⟨"test", "demo", some (.int 7), []⟩, [⟨"v", .int 0⟩])] ∧
    ∃ f ∈ oneElement.fields.getD [], f.name = "v" ∧ f.dtype.shape ≠ [] ∧
      Value.int 0 ≠ .blob ((addresses (4096 + f.offset) f.dtype.itemsize).map twoKeys) := by
  refine ⟨⟨rfl, rfl, by decide, Or.inr (by decide), by decide⟩,
    ⟨by decide, by decide, 4096, 16, by decide, by decide, by decide⟩,
    by with_unfolding_all rfl, _, List.mem_cons_of_mem _ List.mem_cons_self, rfl, by decide, ?_⟩
  intro h
  cases h

end AerospikePy.Numpy
