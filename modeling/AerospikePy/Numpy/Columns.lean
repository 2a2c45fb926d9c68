import AerospikePy.Numpy.Records

/-!
# A column and its name

The name of a bin column goes into the bins and into the messages, and nowhere else: a
call that takes a column under one name takes it under every other name of a bin.
-/

namespace AerospikePy.Numpy

open AerospikePy.Core
open AerospikePy.Lib.Fallible

section Rename

variable {endian : Endian} {rowStride : Nat} {dtype : FieldDtype} {offset : Nat} {b : String}
  {info : FieldInfo}

theorem dtypeKind_rename {kind : DtypeKind} (h : dtypeKind ⟨b, dtype, offset⟩ = .ok kind)
    (b' : String) : dtypeKind ⟨b', dtype, offset⟩ = .ok kind := by
  unfold dtypeKind at h ⊢
  split at h <;> simp_all

theorem checkNativeByteorder_rename {base : BaseDtype} {u : Unit}
    (h : checkNativeByteorder endian base b = .ok u) (b' : String) :
    checkNativeByteorder endian base b' = .ok u := by
  unfold checkNativeByteorder at h ⊢
  split at h
  · exact if_pos ‹_›
  · cases h

theorem parseField_rename (h : parseField endian rowStride ⟨b, dtype, offset⟩ = .ok info)
    (b' : String) :
    parseField endian rowStride ⟨b', dtype, offset⟩ = .ok { info with name := b' } := by
  obtain ⟨kind, hkind, h⟩ := bind_eq_ok.mp h
  obtain ⟨_, hnative, h⟩ := bind_eq_ok.mp h
  obtain ⟨_, hfits, h⟩ := bind_eq_ok.mp h
  obtain rfl := Except.ok.inj h
  refine bind_eq_ok.mpr ⟨kind, dtypeKind_rename hkind b', ?_⟩
  refine bind_eq_ok.mpr ⟨(), checkNativeByteorder_rename hnative b', ?_⟩
  exact require_bind (require_eq_ok.mp hfits) _ _

variable {p : Platform} {mem : Int → UInt8} {rowPtr : Int}

theorem succeeds_fieldValue_rename {bytes : Nat → List UInt8} :
    Succeeds (fieldValue p { info with name := b } bytes) ↔ Succeeds (fieldValue p info bytes) := by
  cases readAs info with
  | whole h _ => rw [fieldValue_whole h, fieldValue_whole (f := { info with name := b }) h]
  | number hnum hscalar hwidth _ =>
    rw [fieldValue_number hnum hscalar hwidth,
      fieldValue_number (f := { info with name := b }) hnum hscalar hwidth]
    unfold numberValue
    cases info.kind <;> simp [uintToI64]
  | unsupported hnum hscalar hwidth _ =>
    rw [fieldValue_unsupported hnum hscalar hwidth,
      fieldValue_unsupported (f := { info with name := b }) hnum hscalar hwidth]

theorem succeeds_read_rename :
    Succeeds (readValueFromBuffer p mem rowPtr { info with name := b }).result ↔
      Succeeds (readValueFromBuffer p mem rowPtr info).result := by
  by_cases hrow : rowPtr = 0
  · rw [readValueFromBuffer, readValueFromBuffer, if_pos hrow, if_pos hrow]
  · rw [readValueFromBuffer_eq hrow, readValueFromBuffer_eq hrow]
    exact succeeds_fieldValue_rename

end Rename

/-- A dtype with one more field, whose name is open. -/
structure Column where
  rest : Dtype
  pre : List DtypeField
  post : List DtypeField
  split : rest.fields = some (pre ++ post)
  dtype : FieldDtype
  offset : Nat
  small : offset < 2 ^ 63 ∧ dtype.itemsize < 2 ^ 63

namespace Column

variable (c : Column)

def field (b : String) : DtypeField := ⟨b, c.dtype, c.offset⟩

/-- The column is that of a bin under this name, which no other field has. -/
structure NamesBin (keyField b : String) : Prop where
  fresh : b ∉ (c.pre ++ c.post).map (·.name)
  notKey : b ≠ keyField
  notReserved : b.startsWith "_" = false

theorem perm_named (b : String) :
    ((c.pre ++ c.field b :: c.post).map (·.name)).Perm (b :: (c.pre ++ c.post).map (·.name)) := by
  have hmiddle : (c.pre ++ c.field b :: c.post).Perm (c.field b :: (c.pre ++ c.post)) :=
    List.perm_middle
  exact hmiddle.map _

/-- The dtype with the column under this name. -/
def named {keyField b : String} (h : c.NamesBin keyField b) : Dtype where
  fields := some (c.pre ++ c.field b :: c.post)
  itemsize := c.rest.itemsize
  nodup := by
    have hrest := c.rest.nodup
    rw [c.split] at hrest
    exact (c.perm_named b).nodup_iff.mpr (List.nodup_cons.mpr ⟨h.fresh, hrest⟩)
  small := by
    have hrest := c.rest.small
    rw [c.split] at hrest
    refine ⟨hrest.1, fun f hf => ?_⟩
    rcases List.mem_cons.mp (List.perm_middle.mem_iff.mp hf) with rfl | hother
    · exact c.small
    · exact hrest.2 f hother

end Column

/-- The layout has one more bin. -/
structure WithColumn (info : FieldInfo) (l l' : Layout) : Prop where
  rows : l'.rows = l.rows
  base : l'.base = l.base
  rowStride : l'.rowStride = l.rowStride
  key : l'.key = l.key
  ns : l'.ns = l.ns
  set : l'.set = l.set
  bins : ∀ f, f ∈ l'.bins ↔ f = info ∨ f ∈ l.bins

section Prepare

variable {endian : Endian} {a : NdArray} {c : Column} {keyField b : String} {info : FieldInfo}

/-- The descriptors with one more among them, and the row size. -/
def WithInfo (info : FieldInfo) (r r' : List FieldInfo × Nat) : Prop :=
  ∃ pre post, r.1 = pre ++ post ∧ r'.1 = pre ++ info :: post ∧ r'.2 = r.2

theorem parseDtypeFields_eq {d : Dtype} {fields : List DtypeField} (h : d.fields = some fields) :
    parseDtypeFields endian d = do
      let infos ← fields.mapM (parseField endian d.itemsize)
      return (infos, d.itemsize) := by
  rw [parseDtypeFields, h]

theorem parseDtypeFields_named (h : c.NamesBin keyField b)
    (hinfo : parseField endian c.rest.itemsize (c.field b) = .ok info) :
    SameOutcome (WithInfo info) (parseDtypeFields endian c.rest)
      (parseDtypeFields endian (c.named h)) := by
  have hnamed : (c.named h).fields = some (c.pre ++ c.field b :: c.post) := rfl
  have hitemsize : (c.named h).itemsize = c.rest.itemsize := rfl
  rw [parseDtypeFields_eq c.split, parseDtypeFields_eq hnamed, hitemsize, List.mapM_append,
    List.mapM_append, List.mapM_cons, hinfo]
  simp only [bind_assoc, ok_bind]
  refine sameOutcome_bind (sameOutcome_refl fun _ _ => rfl) fun pre _ hpre => ?_
  obtain rfl := hpre
  refine sameOutcome_bind (sameOutcome_refl fun _ _ => rfl) fun post _ hpost => ?_
  obtain rfl := hpost
  exact ⟨pre, post, rfl, rfl, rfl⟩

theorem ne_of_reserved {name : String} (h : c.NamesBin keyField b)
    (hname : name.startsWith "_" = true) : name ≠ b := by
  rintro rfl
  rw [h.notReserved] at hname
  cases hname

theorem prepare_named (h : c.NamesBin keyField b)
    (hinfo : parseField endian c.rest.itemsize (c.field b) = .ok info) :
    SameOutcome (WithColumn info) (prepare endian a c.rest keyField)
      (prepare endian a (c.named h) keyField) := by
  have hname : info.name = b := (parseField_ok hinfo).name
  refine sameOutcome_bind (sameOutcome_refl fun _ _ => rfl) fun n _ hn => ?_
  obtain rfl := hn
  refine sameOutcome_bind (parseDtypeFields_named h hinfo) fun r r' hr => ?_
  obtain ⟨infos, rowSize⟩ := r
  obtain ⟨infos', rowSize'⟩ := r'
  obtain ⟨pre, post, rfl, rfl, rfl⟩ := hr
  refine sameOutcome_bind (sameOutcome_refl fun _ _ => rfl) fun _ _ _ => ?_
  refine sameOutcome_bind (sameOutcome_refl fun _ _ => rfl) fun base _ hbase => ?_
  obtain rfl := hbase
  refine sameOutcome_bind (sameOutcome_refl fun _ _ => rfl) fun stride _ hstride => ?_
  obtain rfl := hstride
  have hfind : ∀ name, name ≠ b → (pre ++ info :: post).find? (fun f => f.name == name) =
      (pre ++ post).find? (fun f => f.name == name) := by
    intro name hne
    have hother : (info.name == name) = false := by simpa [hname] using hne.symm
    simp only [List.find?_append, List.find?_cons, hother]
  have hns := hfind "_namespace" (ne_of_reserved h (by simp))
  have hset := hfind "_set" (ne_of_reserved h (by simp))
  have hisBin : isBin keyField info = true := by
    simp [isBin, hname, h.notKey, h.notReserved]
  have hbins : ∀ f, f ∈ (pre ++ info :: post).filter (isBin keyField) ↔
      f = info ∨ f ∈ (pre ++ post).filter (isBin keyField) := by
    intro f
    rw [List.mem_filter, List.mem_filter, List.perm_middle.mem_iff, List.mem_cons, or_and_right]
    refine or_congr_left ⟨And.left, ?_⟩
    rintro rfl
    exact ⟨rfl, hisBin⟩
  simp only [hfind keyField h.notKey.symm, hns, hset]
  cases hkey : (pre ++ post).find? fun f => f.name == keyField with
  | none => exact True.intro
  | some key => exact ⟨rfl, rfl, rfl, rfl, rfl, rfl, hbins⟩

theorem parseField_of_prepare {l : Layout} (h : c.NamesBin keyField b)
    (hprepare : prepare endian a (c.named h) keyField = .ok l) :
    ∃ info, parseField endian c.rest.itemsize (c.field b) = .ok info := by
  have hnamed : (c.named h).fields = some (c.pre ++ c.field b :: c.post) := rfl
  obtain ⟨infos, rowSize, hprepared⟩ := prepare_ok hprepare
  have hparsed := hprepared.parsed
  rw [parseDtypeFields_eq hnamed] at hparsed
  obtain ⟨_, hmap, -⟩ := bind_eq_ok.mp hparsed
  have hfield : c.field b ∈ c.pre ++ c.field b :: c.post := by simp
  exact exists_mapM_eq_ok.mp ⟨_, hmap⟩ (c.field b) hfield

end Prepare

section Call

variable {crates : KeyCrates} {p : Platform} {mem : Int → UInt8} {namespaceName setName : String}
  {l l' : Layout} {info : FieldInfo} {i : Nat} {rowPtr : Int}

theorem succeeds_readBin {f : FieldInfo} : Succeeds (readBin p mem rowPtr f).result ↔
    Succeeds (readValueFromBuffer p mem rowPtr f).result := by
  unfold readBin
  rw [Logged.result_bind]
  exact succeeds_bind_pure

/-- A row is read if its key is, and each of its bins. -/
theorem succeeds_readRow :
    Succeeds (readRow crates p mem l namespaceName setName i rowPtr).result ↔
      (∃ v ns set key, (readValueFromBuffer p mem rowPtr l.key).result = .ok v ∧
        (readName p mem rowPtr namespaceName l.ns).result = .ok ns ∧
        (readName p mem rowPtr setName l.set).result = .ok set ∧
        makeKey crates ns set (trimKey v) i = .ok key) ∧
      ∀ f ∈ l.bins, Succeeds (readValueFromBuffer p mem rowPtr f).result := by
  simp only [← succeeds_readBin]
  rw [← succeeds_mapM]
  constructor
  · intro h
    obtain ⟨⟨key, bins⟩, hrow⟩ := h
    obtain ⟨v, ns, set, hv, hns, hset, hkey, hbins⟩ := readRow_eq_ok.mp hrow
    exact ⟨⟨v, ns, set, key, hv, hns, hset, hkey⟩, bins, mapM_eq_ok.mpr hbins⟩
  · intro h
    obtain ⟨⟨v, ns, set, key, hv, hns, hset, hkey⟩, bins, hbins⟩ := h
    exact ⟨(key, bins), readRow_eq_ok.mpr
      ⟨v, ns, set, hv, hns, hset, hkey, mapM_eq_ok.mp hbins⟩⟩

theorem WithColumn.succeeds_readRow (h : WithColumn info l l') :
    Succeeds (readRow crates p mem l' namespaceName setName i rowPtr).result ↔
      Succeeds (readRow crates p mem l namespaceName setName i rowPtr).result ∧
        Succeeds (readValueFromBuffer p mem rowPtr info).result := by
  rw [Numpy.succeeds_readRow, Numpy.succeeds_readRow, h.key, h.ns, h.set, and_assoc]
  simp only [h.bins, forall_eq_or_imp]
  exact and_congr_right fun _ => and_comm

theorem succeeds_readRowAt :
    Succeeds (readRowAt crates p mem l namespaceName setName i).result ↔
      Succeeds (checkedRowOffset i l.rowStride) ∧
        Succeeds (readRow crates p mem l namespaceName setName i (l.rowAddr i)).result := by
  unfold readRowAt
  rw [Logged.result_bind]
  refine succeeds_bind_iff fun offset hoffset => ?_
  rw [checkedRowOffset_ok hoffset]
  rfl

theorem WithColumn.succeeds_readRowAt (h : WithColumn info l l') :
    Succeeds (readRowAt crates p mem l' namespaceName setName i).result ↔
      Succeeds (readRowAt crates p mem l namespaceName setName i).result ∧
        Succeeds (readValueFromBuffer p mem (l.rowAddr i) info).result := by
  have haddr : l'.rowAddr i = l.rowAddr i := by
    rw [Layout.rowAddr, Layout.rowAddr, h.base, h.rowStride]
  rw [Numpy.succeeds_readRowAt, Numpy.succeeds_readRowAt, h.rowStride, haddr, h.succeeds_readRow,
    and_assoc]

theorem succeeds_numpyToRecords {a : NdArray} {d : Dtype} {keyField : String} :
    Succeeds (numpyToRecords crates p mem a d namespaceName setName keyField).result ↔
      ∃ l, prepare p.endian a d keyField = .ok l ∧
        ∀ i < l.rows, Succeeds (readRowAt crates p mem l namespaceName setName i).result := by
  unfold numpyToRecords
  rw [Logged.result_bind, succeeds_bind]
  refine exists_congr fun l => and_congr_right fun _ => ?_
  rw [Logged.result_mapM, succeeds_mapM]
  simp only [List.mem_range]

namespace Column

variable {a : NdArray} {c : Column} {keyField b : String}

/-- The other fields of the dtype are accepted and read in every row, and so is the column. -/
def Converts (crates : KeyCrates) (p : Platform) (mem : Int → UInt8) (a : NdArray) (c : Column)
    (namespaceName setName keyField : String) : Prop :=
  ∃ l name info, prepare p.endian a c.rest keyField = .ok l ∧
    parseField p.endian c.rest.itemsize (c.field name) = .ok info ∧
    ∀ i < l.rows, Succeeds (readRowAt crates p mem l namespaceName setName i).result ∧
      Succeeds (readValueFromBuffer p mem (l.rowAddr i) info).result

/-- A bin column is taken under every name, if under any. -/
theorem succeeds_named (h : c.NamesBin keyField b) :
    Succeeds (numpyToRecords crates p mem a (c.named h) namespaceName setName keyField).result ↔
      c.Converts crates p mem a namespaceName setName keyField := by
  rw [succeeds_numpyToRecords]
  constructor
  · intro hcall
    obtain ⟨l', hprepare', hrows⟩ := hcall
    obtain ⟨info, hinfo⟩ := parseField_of_prepare h hprepare'
    have hsame := sameOutcome_iff.mp (@prepare_named _ a _ _ _ _ h hinfo)
    obtain ⟨l, hprepare⟩ := hsame.1.mpr ⟨l', hprepare'⟩
    have hcolumn := hsame.2 l l' hprepare hprepare'
    refine ⟨l, b, info, hprepare, hinfo, fun i hi => ?_⟩
    exact hcolumn.succeeds_readRowAt.mp (hrows i (hcolumn.rows ▸ hi))
  · intro hconverts
    obtain ⟨l, name, info, hprepare, hinfo, hrows⟩ := hconverts
    have hsame := sameOutcome_iff.mp (@prepare_named _ a _ _ _ _ h (parseField_rename hinfo b))
    obtain ⟨l', hprepare'⟩ := hsame.1.mp ⟨l, hprepare⟩
    have hcolumn := hsame.2 l l' hprepare hprepare'
    refine ⟨l', hprepare', fun i hi => hcolumn.succeeds_readRowAt.mpr ?_⟩
    obtain ⟨hrow, hread⟩ := hrows i (hcolumn.rows ▸ hi)
    exact ⟨hrow, succeeds_read_rename.mpr hread⟩

end Column

end Call

end AerospikePy.Numpy
