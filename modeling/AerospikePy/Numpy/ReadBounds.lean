import AerospikePy.Numpy.Records

/-!
# Reads inside the array

`DtypeFits` is the relation between the `_dtype` argument and the array that the
pointer arithmetic needs, and that no check establishes: the call is safe where it
holds, and where another check happens to refuse the call first.
-/

namespace AerospikePy.Numpy

open AerospikePy.Core
open AerospikePy.Lib.Fallible

/-- The first field that is not empty: where the first load, or the refusal of an
unsupported width, takes place. -/
def firstRead (fields : List FieldInfo) : Option FieldInfo :=
  fields.find? fun f => readWidth f != some 0

theorem firstRead_append (fs gs : List FieldInfo) :
    firstRead (fs ++ gs) = (firstRead fs).or (firstRead gs) := List.find?_append

theorem firstRead_singleton {f : FieldInfo} (h : readWidth f ≠ some 0) :
    firstRead [f] = some f := by
  simp [firstRead, h]

theorem firstRead_isSome {fields : List FieldInfo} {f : FieldInfo} (hf : f ∈ fields)
    (h : readWidth f ≠ some 0) : ∃ g, firstRead fields = some g := by
  rw [← Option.isSome_iff_exists, firstRead, List.find?_isSome]
  exact ⟨f, hf, by simpa using h⟩

/-- How a computation that reads these fields starts: with a load, or not at all, or
through them all without a load. -/
inductive Starts {α : Type} (fields : List FieldInfo) (x : Reading α) : Prop where
  | loud (f : FieldInfo) (hfirst : firstRead fields = some f) (hw : readWidth f ≠ none)
      (h : x.log ≠ [])
  | refused (f : FieldInfo) (hfirst : firstRead fields = some f) (hw : readWidth f = none)
      (e : PyErr) (h : x = Logged.fail e)
  | silent (hfirst : firstRead fields = none) (a : α) (h : x = pure a)

theorem starts_pure {α : Type} (a : α) : Starts [] (pure a : Reading α) := .silent rfl a rfl

theorem starts_bind {α β : Type} {fs gs : List FieldInfo} {x : Reading α} {g : α → Reading β}
    (hx : Starts fs x) (hg : ∀ a, x = pure a → Starts gs (g a)) : Starts (fs ++ gs) (x >>= g) := by
  have happend := firstRead_append fs gs
  cases hx with
  | loud f hfirst hw h =>
    rw [hfirst, Option.some_or] at happend
    exact .loud f happend hw fun hnil => h (Logged.log_bind_eq_nil.mp hnil).1
  | refused f hfirst hw e h =>
    rw [hfirst, Option.some_or] at happend
    exact .refused f happend hw e (by rw [h]; rfl)
  | silent hfirst a h =>
    rw [hfirst, Option.none_or] at happend
    have hbind : x >>= g = g a := by
      rw [h]
      rfl
    rw [hbind]
    cases hg a h with
    | loud f hf hw h' => exact .loud f (happend.trans hf) hw h'
    | refused f hf hw e h' => exact .refused f (happend.trans hf) hw e h'
    | silent hf b h' => exact .silent (happend.trans hf) b h'

section Row

variable {p : Platform} {mem : Int → UInt8} {rowPtr : Int}

theorem starts_read (hrow : rowPtr ≠ 0) (f : FieldInfo) :
    Starts [f] (readValueFromBuffer p mem rowPtr f) := by
  by_cases hempty : readWidth f = some 0
  · exact .silent (by simp [firstRead, hempty]) _ (readValueFromBuffer_empty hrow hempty)
  · have hfirst := firstRead_singleton hempty
    cases hw : readWidth f with
    | none =>
      obtain ⟨e, he⟩ := readValueFromBuffer_none p mem hrow hw
      exact .refused f hfirst hw e he
    | some w =>
      refine .loud f hfirst (by simp [hw]) ?_
      rw [readValueFromBuffer_log hrow hw, ne_eq, addresses_eq_nil]
      intro hzero
      exact hempty (hw.trans (congrArg some hzero))

theorem starts_readName (hrow : rowPtr ≠ 0) (default : String) (f : Option FieldInfo) :
    Starts f.toList (readName p mem rowPtr default f) := by
  cases f with
  | none => exact starts_pure default
  | some f => exact starts_bind (starts_read hrow f) fun v _ => starts_pure (nameOf default v)

theorem starts_readBins (p : Platform) (mem : Int → UInt8) (hrow : rowPtr ≠ 0) (fs : List FieldInfo) :
    Starts fs (fs.mapM (readBin p mem rowPtr)) := by
  induction fs with
  | nil =>
    rw [List.mapM_nil]
    exact starts_pure []
  | cons f fs ih =>
    rw [List.mapM_cons]
    have hbin : Starts [f] (readBin p mem rowPtr f) :=
      starts_bind (starts_read hrow f) fun v _ => starts_pure (⟨f.name, v⟩ : Bin)
    refine starts_bind hbin fun b _ => ?_
    have hrest := starts_bind ih fun bs _ => starts_pure (b :: bs)
    rwa [List.append_nil] at hrest

/-- What is read without a load is an empty blob. -/
theorem read_eq_pure (hrow : rowPtr ≠ 0) {f : FieldInfo} {v : Value}
    (h : readValueFromBuffer p mem rowPtr f = pure v) : v = .blob [] := by
  cases hw : readWidth f with
  | none =>
    obtain ⟨e, he⟩ := readValueFromBuffer_none p mem hrow hw
    rw [he] at h
    cases h
  | some w =>
    have hlog : (readValueFromBuffer p mem rowPtr f).log = _ := readValueFromBuffer_log hrow hw
    rw [h] at hlog
    obtain rfl := addresses_eq_nil.mp hlog.symm
    rw [readValueFromBuffer_empty hrow hw] at h
    exact (Except.ok.inj (Logged.mk.inj h).2).symm

/-- A row starts with the first of its fields that is not empty. -/
theorem starts_readRow (crates : KeyCrates) (p : Platform) (mem : Int → UInt8) (hrow : rowPtr ≠ 0)
    (l : Layout) (namespaceName setName : String) (i : Nat) :
    Starts l.fields (readRow crates p mem l namespaceName setName i rowPtr) := by
  refine starts_bind (starts_read hrow l.key) fun v hv => ?_
  refine starts_bind (starts_readName hrow namespaceName l.ns) fun ns _ => ?_
  refine starts_bind (starts_readName hrow setName l.set) fun set _ => ?_
  -- the key is empty bytes, which no check refuses
  obtain rfl := read_eq_pure hrow hv
  have hbins := starts_bind (starts_readBins p mem hrow l.bins) fun bins _ =>
    starts_pure ((⟨ns, set, some (.blob []), computeBytesKeyDigest crates set []⟩ : Key), bins)
  rw [List.append_nil] at hbins
  exact hbins

end Row

def NdArray.rowStart (a : NdArray) (i : Nat) : Int := a.dataPtr + i * a.strides.headD 0

/-- The address belongs to a row of the array, at the itemsize of its own dtype. -/
def InRows (a : NdArray) (addr : Int) : Prop :=
  ∃ j < a.rows, a.rowStart j ≤ addr ∧ addr < a.rowStart j + a.itemsize

/-- `w` bytes at the field end within the item; where the array is contiguous, and the
rows are taken to be as long as `_dtype` says, those of the last row end within the array. -/
def FieldFits (a : NdArray) (rowSize : Nat) (f : FieldInfo) (w : Nat) : Prop :=
  if a.cContiguous then (a.rows - 1) * rowSize + f.offset + w ≤ a.rows * a.itemsize
  else f.offset + w ≤ a.itemsize

instance (a : NdArray) (rowSize : Nat) (f : FieldInfo) (w : Nat) :
    Decidable (FieldFits a rowSize f w) := by
  unfold FieldFits
  infer_instance

/-- Every field that a call reads fits the array. -/
def DtypeFits (endian : Endian) (a : NdArray) (d : Dtype) (keyField : String) : Prop :=
  ∀ infos rowSize, parseDtypeFields endian d = .ok (infos, rowSize) → 0 < a.rows →
    ∀ f ∈ usedFields keyField infos, ∀ w, readWidth f = some w → 0 < w → FieldFits a rowSize f w

theorem contiguous_stride {a : NdArray} {n : Nat} {s : Int} (hshape : a.shape = [n])
    (hstrides : a.strides = [s]) (hc : a.cContiguous = true) (hn : 1 < n) : s = a.itemsize := by
  have h0 : n ≠ 0 := by omega
  have h1 : n ≠ 1 := by omega
  simpa [NdArray.cContiguous, NdArray.rowMajor, hshape, hstrides, h0.symm, h1] using hc

theorem strides_of_shape {a : NdArray} (h : a.shape.length = 1) :
    ∃ n s, a.shape = [n] ∧ a.strides = [s] := by
  obtain ⟨n, hn⟩ := List.length_eq_one_iff.mp h
  obtain ⟨s, hs⟩ := List.length_eq_one_iff.mp (a.dims.trans h)
  exact ⟨n, s, hn, hs⟩

/-- The stride the loop uses: the row size of `_dtype` on a contiguous array, else the
stride of the array. -/
theorem getArrayRowStride_ok {a : NdArray} {rowSize : Nat} {stride : Int}
    (h : getArrayRowStride a rowSize = .ok stride) :
    a.shape.length = 1 ∧ stride = if a.cContiguous then (rowSize : Int) else a.strides.headD 0 := by
  unfold getArrayRowStride at h
  obtain ⟨_, hshape, h⟩ := bind_eq_ok.mp h
  obtain ⟨_, -, h⟩ := bind_eq_ok.mp h
  refine ⟨require_eq_ok.mp hshape, ?_⟩
  unfold NdArray.interfaceStrides at h
  by_cases hc : a.cContiguous = true
  · rw [if_pos hc] at h ⊢
    exact (Except.ok.inj h).symm
  · rw [if_neg hc] at h ⊢
    obtain ⟨_, -, h⟩ := bind_eq_ok.mp h
    obtain ⟨_, -, h⟩ := bind_eq_ok.mp h
    obtain ⟨_, -, h⟩ := bind_eq_ok.mp h
    exact (Except.ok.inj h).symm

/-- A field that fits lies in the rows of the array, in every row of the loop. -/
theorem inRows_of_fits {a : NdArray} {rowSize : Nat} {stride : Int} {f : FieldInfo} {w i : Nat}
    (hstride : getArrayRowStride a rowSize = .ok stride) (hfits : FieldFits a rowSize f w)
    (hi : i < a.rows) :
    ∀ addr ∈ addresses (a.dataPtr + i * stride + f.offset) w, InRows a addr := by
  intro addr haddr
  obtain ⟨k, hk, rfl⟩ := mem_addresses.mp haddr
  obtain ⟨hlen, rfl⟩ := getArrayRowStride_ok hstride
  obtain ⟨n, s, hshape, hs⟩ := strides_of_shape hlen
  have hrows : a.rows = n := by simp [NdArray.rows, hshape]
  unfold FieldFits at hfits
  unfold InRows NdArray.rowStart
  rw [hrows] at hi hfits ⊢
  simp only [hs, List.headD_cons]
  by_cases hc : a.cContiguous = true
  · rw [if_pos hc] at hfits ⊢
    -- the position in the array, counted from its first byte
    have hle : i * rowSize ≤ (n - 1) * rowSize := Nat.mul_le_mul_right _ (by omega)
    have hpos : i * rowSize + f.offset + k < n * a.itemsize := by omega
    have hitem : 0 < a.itemsize := by
      rcases Nat.eq_zero_or_pos a.itemsize with h0 | h0
      · rw [h0, Nat.mul_zero] at hpos
        omega
      · exact h0
    have hcast : (a.dataPtr : Int) + i * (rowSize : Int) + f.offset + k =
        a.dataPtr + ((i * rowSize + f.offset + k : Nat) : Int) := by push_cast; omega
    rw [hcast]
    generalize i * rowSize + f.offset + k = x at hpos
    have hdiv : x / a.itemsize < n := Nat.div_lt_of_lt_mul (by rwa [Nat.mul_comm] at hpos)
    have hmod := Nat.mod_lt x hitem
    have hsplit := Nat.div_add_mod x a.itemsize
    refine ⟨x / a.itemsize, hdiv, ?_⟩
    generalize x / a.itemsize = q at hdiv hsplit ⊢
    have hstep : (q : Int) * s = ((a.itemsize * q : Nat) : Int) := by
      by_cases hn : 1 < n
      · rw [contiguous_stride hshape hs hc hn, Int.natCast_mul, Int.mul_comm]
      · obtain rfl : q = 0 := by omega
        simp
    rw [hstep]
    omega
  · rw [if_neg hc] at hfits ⊢
    exact ⟨i, hi, by omega, by omega⟩

theorem readWidth_le {f : FieldInfo} {w : Nat} (h : f.baseItemsize ≤ f.itemsize)
    (hw : readWidth f = some w) : w ≤ f.itemsize := by
  cases readAs f with
  | whole _ hsome => exact Nat.le_of_eq (Option.some.inj (hw.symm.trans hsome))
  | number _ _ _ hsome =>
    rw [Option.some.inj (hw.symm.trans hsome)]
    exact h
  | unsupported _ _ _ hnone =>
    rw [hw] at hnone
    cases hnone

theorem mem_of_usedFields {keyField : String} {infos : List FieldInfo} {f : FieldInfo}
    (h : f ∈ usedFields keyField infos) : f ∈ infos := by
  simp only [usedFields, List.mem_append, Option.mem_toList] at h
  rcases h with h | h | h | h
  · exact List.mem_of_find?_eq_some h
  · exact List.mem_of_find?_eq_some h
  · exact List.mem_of_find?_eq_some h
  · exact (List.mem_filter.mp h).1

/-- A `_dtype` of the array's own itemsize fits, when none of its fields is shorter than
its base. -/
theorem dtypeFits_of_itemsize {endian : Endian} {a : NdArray} {d : Dtype} (keyField : String)
    (hsize : d.itemsize = a.itemsize)
    (hbase : ∀ infos rowSize, parseDtypeFields endian d = .ok (infos, rowSize) →
      ∀ f ∈ infos, f.baseItemsize ≤ f.itemsize) : DtypeFits endian a d keyField := by
  intro infos rowSize hparse hrows f hf w hw _
  have hmem := mem_of_usedFields hf
  have hle := readWidth_le (hbase infos rowSize hparse f hmem) hw
  obtain ⟨rfl, fields, -, hall⟩ := parseDtypeFields_ok hparse
  obtain ⟨_, -, hdesc⟩ := exists_mem_of_forall₂ hall.flip hmem
  have hfits := hdesc.fits
  have hsplit : a.rows * a.itemsize = (a.rows - 1) * a.itemsize + a.itemsize := by
    rw [← Nat.succ_mul, Nat.succ_eq_add_one, Nat.sub_add_cancel hrows]
  unfold FieldFits
  split
  · rw [hsplit, hsize]
    omega
  · omega

section Loop

variable {crates : KeyCrates} {p : Platform} {mem : Int → UInt8} {a : NdArray} {d : Dtype}
  {keyField : String} {infos : List FieldInfo} {rowSize : Nat} {l : Layout}

theorem logs_read {P : Int → Prop} {rowPtr : Int} {f : FieldInfo}
    (hP : ∀ w, readWidth f = some w → ∀ addr ∈ addresses (rowPtr + f.offset) w, P addr) :
    Logged.Logs P (readValueFromBuffer p mem rowPtr f) := by
  by_cases hrow : rowPtr = 0
  · rw [readValueFromBuffer, if_pos hrow]
    exact Logged.logs_ofExcept (.error _)
  · intro addr haddr
    cases hw : readWidth f with
    | none =>
      obtain ⟨e, he⟩ := readValueFromBuffer_none p mem hrow hw
      rw [he] at haddr
      cases haddr
    | some w =>
      rw [readValueFromBuffer_log hrow hw] at haddr
      exact hP w hw addr haddr

theorem logs_readName {P : Int → Prop} {rowPtr : Int} {default : String} {f : Option FieldInfo}
    (hP : ∀ g ∈ f.toList, Logged.Logs P (readValueFromBuffer p mem rowPtr g)) :
    Logged.Logs P (readName p mem rowPtr default f) := by
  cases f with
  | none => exact Logged.logs_pure _
  | some f => exact Logged.logs_bind (hP f (by simp)) fun _ => Logged.logs_pure _

theorem logs_readRow {P : Int → Prop} {rowPtr : Int} {namespaceName setName : String} {i : Nat}
    (hP : ∀ f ∈ l.fields, Logged.Logs P (readValueFromBuffer p mem rowPtr f)) :
    Logged.Logs P (readRow crates p mem l namespaceName setName i rowPtr) := by
  have hns : ∀ f ∈ l.ns.toList, f ∈ l.fields := by
    intro f hf
    simp [Layout.fields, hf]
  have hset : ∀ f ∈ l.set.toList, f ∈ l.fields := by
    intro f hf
    simp [Layout.fields, hf]
  have hbins : ∀ f ∈ l.bins, f ∈ l.fields := by
    intro f hf
    simp [Layout.fields, hf]
  refine Logged.logs_bind (hP _ List.mem_cons_self) fun _ => ?_
  refine Logged.logs_bind (logs_readName fun f hf => hP f (hns f hf)) fun _ => ?_
  refine Logged.logs_bind (logs_readName fun f hf => hP f (hset f hf)) fun _ => ?_
  refine Logged.logs_bind (Logged.logs_ofExcept _) fun _ => ?_
  refine Logged.logs_bind (Logged.logs_mapM fun f hf => ?_) fun _ => Logged.logs_pure _
  exact Logged.logs_bind (hP f (hbins f hf)) fun _ => Logged.logs_pure _

theorem checkedRowOffset_zero (rowStride : Int) : checkedRowOffset 0 rowStride = .ok 0 := by
  rw [checkedRowOffset, require_bind (by decide), require_bind (by simp)]
  simp [pure, Except.pure]

/-- Where `_dtype` fits the array, every row stays in the rows of the array. -/
theorem logs_readRowAt (hl : Prepared p.endian a d keyField infos rowSize l)
    (hfits : DtypeFits p.endian a d keyField) {namespaceName setName : String} {i : Nat}
    (hi : i < a.rows) :
    Logged.Logs (InRows a) (readRowAt crates p mem l namespaceName setName i) := by
  unfold readRowAt
  cases hoff : checkedRowOffset i l.rowStride with
  | error e => exact Logged.logs_ofExcept (.error e)
  | ok offset =>
    obtain rfl := checkedRowOffset_ok hoff
    refine logs_readRow fun f hf => logs_read fun w hw => ?_
    rw [hl.base]
    by_cases hzero : w = 0
    · subst hzero
      simp [addresses]
    · rw [hl.fields] at hf
      exact inRows_of_fits hl.stride
        (hfits infos rowSize hl.parsed (by omega) f hf w hw (by omega)) hi

/-- The call starts as its first row does. -/
theorem starts_numpyToRecords (crates : KeyCrates) (mem : Int → UInt8)
    (hprep : prepare p.endian a d keyField = .ok l)
    (hl : Prepared p.endian a d keyField infos rowSize l) (hrows : 0 < a.rows)
    (namespaceName setName : String) {f : FieldInfo}
    (hfirst : firstRead (usedFields keyField infos) = some f) :
    (readWidth f ≠ none ∧
      (numpyToRecords crates p mem a d namespaceName setName keyField).log ≠ []) ∨
    (readWidth f = none ∧
      ∃ e, numpyToRecords crates p mem a d namespaceName setName keyField = Logged.fail e) := by
  obtain ⟨n, hn⟩ : ∃ n, l.rows = n + 1 := ⟨l.rows - 1, by rw [hl.rows]; omega⟩
  have hrow0 : readRowAt crates p mem l namespaceName setName 0 =
      readRow crates p mem l namespaceName setName 0 a.dataPtr := by
    rw [readRowAt, checkedRowOffset_zero, ← hl.base]
    change readRow crates p mem l namespaceName setName 0 (l.base + 0) = _
    rw [Int.add_zero]
  have hloop : numpyToRecords crates p mem a d namespaceName setName keyField =
      readRowAt crates p mem l namespaceName setName 0 >>= fun r =>
        (((List.range n).map Nat.succ).mapM (readRowAt crates p mem l namespaceName setName) >>=
          fun rs => pure (r :: rs)) := by
    rw [← List.mapM_cons, ← List.range_succ_eq_map, ← hn, numpyToRecords, hprep]
    rfl
  rw [hloop, hrow0]
  rw [← hl.fields] at hfirst
  cases starts_readRow crates p mem (Int.natCast_ne_zero.mpr hl.nonnull) l namespaceName
      setName 0 with
  | loud g hg hw h =>
    obtain rfl := Option.some.inj (hfirst.symm.trans hg)
    exact Or.inl ⟨hw, fun hnil => h (Logged.log_bind_eq_nil.mp hnil).1⟩
  | refused g hg hw e h =>
    obtain rfl := Option.some.inj (hfirst.symm.trans hg)
    exact Or.inr ⟨hw, e, by rw [h]; rfl⟩
  | silent hg =>
    rw [hfirst] at hg
    cases hg

end Loop

/-- The checks that refuse a call before it has loaded a byte. None of them compares
`_dtype` with the dtype of the array. -/
inductive RefusedUpFront (endian : Endian) (a : NdArray) (d : Dtype) (keyField : String) : Prop where
  | unsized (h : a.shape = [])
  | dtype (h : ∃ e, parseDtypeFields endian d = .error e)
  | null (h : a.dataPtr = 0)
  | overflow {infos : List FieldInfo} {rowSize : Nat}
      (hparse : parseDtypeFields endian d = .ok (infos, rowSize)) (h : 2 ^ 64 ≤ a.rows * rowSize)
  | stride {infos : List FieldInfo} {rowSize : Nat}
      (hparse : parseDtypeFields endian d = .ok (infos, rowSize))
      (h : ∃ e, getArrayRowStride a rowSize = .error e)
  | noKey {infos : List FieldInfo} {rowSize : Nat}
      (hparse : parseDtypeFields endian d = .ok (infos, rowSize))
      (h : ∀ f ∈ infos, f.name ≠ keyField)
  | leading {infos : List FieldInfo} {rowSize : Nat}
      (hparse : parseDtypeFields endian d = .ok (infos, rowSize)) (hrows : 0 < a.rows)
      {f : FieldInfo} (hfirst : firstRead (usedFields keyField infos) = some f)
      (hw : readWidth f = none)

/-- Preparation raises only by these checks. -/
theorem prepare_error {endian : Endian} {a : NdArray} {d : Dtype} {keyField : String} {e : PyErr}
    (h : prepare endian a d keyField = .error e) : RefusedUpFront endian a d keyField := by
  by_contra hnot
  have hshape : a.shape ≠ [] := fun hs => hnot (.unsized hs)
  have hlen : lenArray a = .ok a.rows := by
    unfold lenArray NdArray.rows
    cases hs : a.shape with
    | nil => exact absurd hs hshape
    | cons n ns => rfl
  have hnull : a.dataPtr ≠ 0 := fun h0 => hnot (.null h0)
  cases hparse : parseDtypeFields endian d with
  | error e' => exact hnot (.dtype ⟨e', hparse⟩)
  | ok parsed =>
    obtain ⟨infos, rowSize⟩ := parsed
    have hsmall : a.rows * rowSize < 2 ^ 64 := by
      by_contra hge
      exact hnot (.overflow hparse (by omega))
    cases hstride : getArrayRowStride a rowSize with
    | error e' => exact hnot (.stride hparse ⟨e', hstride⟩)
    | ok rowStride =>
      cases hkey : infos.find? fun f => f.name == keyField with
      | none =>
        refine hnot (.noKey hparse fun f hf hname => ?_)
        exact List.find?_eq_none.mp hkey f hf (by simpa using hname)
      | some key =>
        have hok : ∃ l, prepare endian a d keyField = .ok l := by
          rw [prepare, hlen, hparse]
          change ∃ l, (require _ _ >>= _) = _
          rw [require_bind hsmall, getArrayDataPtrReadonly, require_bind hnull, hstride]
          dsimp only [bind, Except.bind, pure, Except.pure]
          rw [hkey]
          exact ⟨_, rfl⟩
        obtain ⟨l, hl⟩ := hok
        rw [hl] at h
        cases h

/-- What preparation established rules out all refusals but that of the first row. -/
theorem leading_of_refused {endian : Endian} {a : NdArray} {d : Dtype} {keyField : String}
    {infos : List FieldInfo} {rowSize : Nat} {l : Layout}
    (hl : Prepared endian a d keyField infos rowSize l) (h : RefusedUpFront endian a d keyField) :
    0 < a.rows ∧ ∃ f, firstRead (usedFields keyField infos) = some f ∧ readWidth f = none := by
  have hinj : ∀ {infos' rowSize'}, parseDtypeFields endian d = .ok (infos', rowSize') →
      infos' = infos ∧ rowSize' = rowSize := by
    intro infos' rowSize' hparse
    exact Prod.mk.inj (Except.ok.inj (hparse.symm.trans hl.parsed))
  cases h with
  | unsized h => exact absurd h hl.sized
  | dtype h =>
    obtain ⟨e, he⟩ := h
    rw [hl.parsed] at he
    cases he
  | null h => exact absurd h hl.nonnull
  | overflow hparse h =>
    obtain ⟨rfl, rfl⟩ := hinj hparse
    have := hl.small
    omega
  | stride hparse h =>
    obtain ⟨rfl, rfl⟩ := hinj hparse
    obtain ⟨e, he⟩ := h
    rw [hl.stride] at he
    cases he
  | noKey hparse h =>
    obtain ⟨rfl, rfl⟩ := hinj hparse
    have hname := List.find?_some hl.key
    exact absurd (by simpa using hname) (h _ (List.mem_of_find?_eq_some hl.key))
  | leading hparse hrows hfirst hw =>
    obtain ⟨rfl, rfl⟩ := hinj hparse
    exact ⟨hrows, _, hfirst, hw⟩

/-- A call reads only inside the rows of the array, and raises before it reads anything
where `_dtype` does not fit, exactly when `_dtype` fits or another check comes first. -/
theorem numpyToRecords_inside_iff (crates : KeyCrates) (p : Platform) (mem : Int → UInt8)
    (a : NdArray) (d : Dtype) (namespaceName setName keyField : String) :
    ((∀ addr ∈ (numpyToRecords crates p mem a d namespaceName setName keyField).log, InRows a addr) ∧
      (¬ DtypeFits p.endian a d keyField →
        ∃ e, numpyToRecords crates p mem a d namespaceName setName keyField = ⟨[], .error e⟩)) ↔
    DtypeFits p.endian a d keyField ∨ RefusedUpFront p.endian a d keyField := by
  cases hprep : prepare p.endian a d keyField with
  | error e =>
    have hcall : numpyToRecords crates p mem a d namespaceName setName keyField = ⟨[], .error e⟩ := by
      rw [numpyToRecords, hprep]
      rfl
    rw [hcall]
    exact ⟨fun _ => Or.inr (prepare_error hprep), fun _ => ⟨by simp, fun _ => ⟨e, rfl⟩⟩⟩
  | ok l =>
    obtain ⟨infos, rowSize, hl⟩ := prepare_ok hprep
    constructor
    · intro h
      by_contra hnot
      obtain ⟨hfits, hrefused⟩ := not_or.mp hnot
      obtain ⟨e, hcall⟩ := h.2 hfits
      unfold DtypeFits at hfits
      push Not at hfits
      obtain ⟨infos', rowSize', hparse, hrows, f, hf, w, hw, hpos, -⟩ := hfits
      obtain ⟨rfl, rfl⟩ := Prod.mk.inj (Except.ok.inj (hparse.symm.trans hl.parsed))
      -- a field that does not fit is not empty, so the first row loads or refuses
      obtain ⟨g, hg⟩ := firstRead_isSome hf (by rw [hw]; simp; omega)
      rcases starts_numpyToRecords crates mem hprep hl hrows namespaceName setName hg with
        ⟨-, hlog⟩ | ⟨hnone, -⟩
      · rw [hcall] at hlog
        exact hlog rfl
      · exact hrefused (.leading hparse hrows hg hnone)
    · intro h
      rcases h with hfits | hrefused
      · refine ⟨?_, fun hnot => absurd hfits hnot⟩
        rw [numpyToRecords, hprep]
        change Logged.Logs (InRows a) (List.mapM _ _)
        refine Logged.logs_mapM fun i hi => logs_readRowAt hl hfits ?_
        rw [← hl.rows]
        exact List.mem_range.mp hi
      · obtain ⟨hrows, f, hfirst, hnone⟩ := leading_of_refused hl hrefused
        rcases starts_numpyToRecords crates mem hprep hl hrows namespaceName setName
          hfirst with ⟨hsome, -⟩ | ⟨-, e, hcall⟩
        · exact absurd hnone hsome
        · rw [hcall]
          exact ⟨by simp [Logged.fail], fun _ => ⟨e, rfl⟩⟩

/-- The dtype `[('_key', 'i8'), ('v', 'i8')]`. -/
def keyAndValue : Dtype where
  fields := some [⟨"_key", ⟨baseI8, [], "int64"⟩, 0⟩, ⟨"v", ⟨baseI8, [], "int64"⟩, 8⟩]
  itemsize := 16

/-- An array of one row of 8 bytes, for example of dtype `[('_key', 'i8')]`. -/
def oneKey : NdArray := ⟨4096, [1], [8], 8, rfl⟩

/-- With the longer `_dtype` the call succeeds and reads the 8 bytes behind the array. -/
theorem numpyToRecords_reads_past_the_array :
    let crates : KeyCrates := ⟨fun _ => [], fun ns set v => .ok ⟨ns, set, some v, []⟩⟩
    let call := numpyToRecords crates .littleEndian (fun _ => 1) oneKey keyAndValue "test" "demo" "_key"
    call.result.isOk = true ∧ 4104 ∈ call.log ∧ ¬ InRows oneKey 4104 := by
  refine ⟨by decide +kernel, by decide +kernel, ?_⟩
  intro h
  obtain ⟨j, hj, -, hlt⟩ := h
  obtain rfl : j = 0 := by simpa [NdArray.rows, oneKey] using hj
  simp [NdArray.rowStart, oneKey] at hlt

end AerospikePy.Numpy
