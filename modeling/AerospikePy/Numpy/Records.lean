import AerospikePy.Core.Utf8
import AerospikePy.Numpy.ReadBuffer

/-!
# Records from an array

`numpy_to_records` takes the layout of a row from one object, the `_dtype` argument,
and base pointer, strides and row count from another, the array. All of its checks
come before the first row.
-/

namespace AerospikePy.Numpy

open AerospikePy.Core
open AerospikePy.Core.Utf8
open AerospikePy.Lib.Fallible

/-- An array as `__array_interface__` shows it; `itemsize` is that of its own dtype. -/
structure NdArray where
  dataPtr : Nat
  shape : List Nat
  strides : List Int
  itemsize : Nat
  dims : strides.length = shape.length := by decide

namespace NdArray

/-- Each dimension, outermost first, is a single element or steps over the next ones. -/
def rowMajor (itemsize : Nat) : List (Nat × Int) → Bool
  | [] => true
  | (n, s) :: dims => (n == 1 || s == itemsize * (dims.map (·.1)).prod) && rowMajor itemsize dims

def cContiguous (a : NdArray) : Bool :=
  a.shape.contains 0 || rowMajor a.itemsize (a.shape.zip a.strides)

/-- The `strides` entry of the interface is `None` for a contiguous array. -/
def interfaceStrides (a : NdArray) : Option (List Int) :=
  if a.cContiguous then none else some a.strides

end NdArray

def lenArray (a : NdArray) : Except PyErr Nat :=
  match a.shape with
  | [] => .error ⟨.typeError, "len() of unsized object"⟩
  | n :: _ => .ok n

def getArrayDataPtrReadonly (a : NdArray) : Except PyErr Nat := do
  require (a.dataPtr ≠ 0) ⟨.valueError, "numpy array data pointer is null"⟩
  return a.dataPtr

def isizeMax : Nat := 2 ^ 63 - 1

def getArrayRowStride (a : NdArray) (rowSize : Nat) : Except PyErr Int := do
  require (a.shape.length = 1) ⟨.valueError,
    s!"numpy structured array must be 1-dimensional, got shape {a.shape}"⟩
  require (rowSize ≤ isizeMax) ⟨.valueError,
    s!"dtype itemsize {rowSize} exceeds supported pointer stride range"⟩
  match a.interfaceStrides with
  | none => return rowSize
  | some strides =>
    require (strides.length = 1) ⟨.valueError,
      s!"numpy structured array must be 1-dimensional, got strides {strides}"⟩
    let stride := strides.headD 0
    require (stride ≠ -2 ^ 63) ⟨.valueError,
      s!"numpy structured array row stride {stride} is not supported"⟩
    require (stride = 0 ∨ rowSize ≤ stride.natAbs) ⟨.valueError,
      s!"numpy structured array row stride {stride} is smaller than dtype itemsize {rowSize}"⟩
    return stride

def checkedRowOffset (index : Nat) (rowStride : Int) : Except PyErr Int := do
  require (index ≤ isizeMax) ⟨.valueError,
    s!"array index {index} exceeds supported pointer offset range"⟩
  require (-2 ^ 63 ≤ index * rowStride ∧ index * rowStride < 2 ^ 63) ⟨.valueError,
    s!"buffer offset overflow: index {index} * stride {rowStride} exceeds isize"⟩
  return index * rowStride

/-- What the row loop works with. -/
structure Layout where
  rows : Nat
  base : Nat
  rowStride : Int
  key : FieldInfo
  ns : Option FieldInfo
  set : Option FieldInfo
  bins : List FieldInfo

def isBin (keyField : String) (f : FieldInfo) : Bool :=
  f.name != keyField && !f.name.startsWith "_"

/-- The part of `numpy_to_records` before its loop. -/
def prepare (endian : Endian) (a : NdArray) (d : Dtype) (keyField : String) :
    Except PyErr Layout := do
  let n ← lenArray a
  let (fields, rowSize) ← parseDtypeFields endian d
  require (n * rowSize < 2 ^ 64) ⟨.valueError,
    s!"buffer size overflow: {n} rows * {rowSize} bytes/row exceeds usize"⟩
  let base ← getArrayDataPtrReadonly a
  let rowStride ← getArrayRowStride a rowSize
  match fields.find? fun f => f.name == keyField with
  | none => .error ⟨.valueError,
      s!"dtype must contain a '{keyField}' field for the record key"⟩
  | some key =>
    return {
      rows := n
      base := base
      rowStride := rowStride
      key := key
      ns := fields.find? fun f => f.name == "_namespace"
      set := fields.find? fun f => f.name == "_set"
      bins := fields.filter (isBin keyField) }

/-- A byte string without its trailing NULs. -/
def trimNul (bytes : List UInt8) : List UInt8 := (bytes.reverse.dropWhile (· == 0)).reverse

def trimKey : Value → Value
  | .blob bytes => .blob (trimNul bytes)
  | v => v

def nameOf (default : String) : Value → String
  | .blob bytes => fromUtf8Lossy (trimNul bytes)
  | .string s => s
  | _ => default

/-- The key of row `i`; for bytes the digest is computed here, with the type of strings. -/
def makeKey (crates : KeyCrates) (ns set : String) (keyValue : Value) (i : Nat) : Except PyErr Key :=
  match keyValue with
  | .blob bytes => .ok ⟨ns, set, some keyValue, computeBytesKeyDigest crates set bytes⟩
  | _ => match crates.keyNew ns set keyValue with
    | .ok key => .ok key
    | .error e => .error ⟨.valueError, s!"Invalid key at row {i}: {e}"⟩

section Loop

variable (crates : KeyCrates) (p : Platform) (mem : Int → UInt8)

def readName (rowPtr : Int) (default : String) : Option FieldInfo → Reading String
  | none => return default
  | some f => do
    let v ← readValueFromBuffer p mem rowPtr f
    return nameOf default v

def readBin (rowPtr : Int) (f : FieldInfo) : Reading Bin := do
  let v ← readValueFromBuffer p mem rowPtr f
  return ⟨f.name, v⟩

/-- One turn of the loop, at the row's address. -/
def readRow (l : Layout) (namespaceName setName : String) (i : Nat) (rowPtr : Int) :
    Reading (Key × List Bin) := do
  let v ← readValueFromBuffer p mem rowPtr l.key
  let ns ← readName p mem rowPtr namespaceName l.ns
  let set ← readName p mem rowPtr setName l.set
  let key ← Logged.ofExcept (makeKey crates ns set (trimKey v) i)
  let bins ← l.bins.mapM (readBin p mem rowPtr)
  return (key, bins)

def readRowAt (l : Layout) (namespaceName setName : String) (i : Nat) :
    Reading (Key × List Bin) := do
  let offset ← Logged.ofExcept (checkedRowOffset i l.rowStride)
  readRow crates p mem l namespaceName setName i (l.base + offset)

def numpyToRecords (a : NdArray) (d : Dtype) (namespaceName setName keyField : String) :
    Reading (List (Key × List Bin)) := do
  let l ← Logged.ofExcept (prepare p.endian a d keyField)
  (List.range l.rows).mapM (readRowAt crates p mem l namespaceName setName)

end Loop

/-- The fields that the loop reads in a row, in the order in which it reads them. -/
def Layout.fields (l : Layout) : List FieldInfo := l.key :: (l.ns.toList ++ (l.set.toList ++ l.bins))

/-- The fields of a dtype that a call reads, in the order in which it reads them. -/
def usedFields (keyField : String) (fields : List FieldInfo) : List FieldInfo :=
  (fields.find? fun f => f.name == keyField).toList ++
    ((fields.find? fun f => f.name == "_namespace").toList ++
      ((fields.find? fun f => f.name == "_set").toList ++ fields.filter (isBin keyField)))

def NdArray.rows (a : NdArray) : Nat := a.shape.headD 0

structure Prepared (endian : Endian) (a : NdArray) (d : Dtype) (keyField : String)
    (infos : List FieldInfo) (rowSize : Nat) (l : Layout) : Prop where
  parsed : parseDtypeFields endian d = .ok (infos, rowSize)
  sized : a.shape ≠ []
  small : a.rows * rowSize < 2 ^ 64
  nonnull : a.dataPtr ≠ 0
  stride : getArrayRowStride a rowSize = .ok l.rowStride
  rows : l.rows = a.rows
  base : l.base = a.dataPtr
  key : infos.find? (fun f => f.name == keyField) = some l.key
  fields : l.fields = usedFields keyField infos

theorem prepare_ok {endian : Endian} {a : NdArray} {d : Dtype} {keyField : String} {l : Layout}
    (h : prepare endian a d keyField = .ok l) :
    ∃ infos rowSize, Prepared endian a d keyField infos rowSize l := by
  unfold prepare at h
  obtain ⟨n, hn, h⟩ := bind_eq_ok.mp h
  obtain ⟨⟨infos, rowSize⟩, hparse, h⟩ := bind_eq_ok.mp h
  obtain ⟨_, hsmall, h⟩ := bind_eq_ok.mp h
  obtain ⟨base, hbase, h⟩ := bind_eq_ok.mp h
  obtain ⟨rowStride, hstride, h⟩ := bind_eq_ok.mp h
  obtain ⟨_, hnull, hbase⟩ := bind_eq_ok.mp hbase
  obtain rfl := Except.ok.inj hbase
  have hshape : a.shape ≠ [] ∧ n = a.rows := by
    unfold lenArray at hn
    unfold NdArray.rows
    cases hs : a.shape with
    | nil =>
      rw [hs] at hn
      cases hn
    | cons m ms =>
      rw [hs] at hn
      exact ⟨by simp, (Except.ok.inj hn).symm⟩
  obtain ⟨hsized, rfl⟩ := hshape
  split at h
  · cases h
  · rename_i key hkey
    obtain rfl := Except.ok.inj h
    refine ⟨infos, rowSize, hparse, hsized, require_eq_ok.mp hsmall, require_eq_ok.mp hnull,
      hstride, rfl, rfl, hkey, ?_⟩
    unfold usedFields Layout.fields
    rw [hkey]
    rfl

def Layout.rowAddr (l : Layout) (i : Nat) : Int := l.base + i * l.rowStride

theorem checkedRowOffset_ok {index : Nat} {rowStride offset : Int}
    (h : checkedRowOffset index rowStride = .ok offset) : offset = index * rowStride := by
  unfold checkedRowOffset at h
  obtain ⟨_, -, h⟩ := bind_eq_ok.mp h
  obtain ⟨_, -, h⟩ := bind_eq_ok.mp h
  exact (Except.ok.inj h).symm

section Returned

variable {crates : KeyCrates} {p : Platform} {mem : Int → UInt8} {l : Layout}
  {namespaceName setName : String}

theorem readBin_eq_ok {rowPtr : Int} {f : FieldInfo} {bin : Bin} :
    (readBin p mem rowPtr f).result = .ok bin ↔
      ∃ v, (readValueFromBuffer p mem rowPtr f).result = .ok v ∧ bin = ⟨f.name, v⟩ := by
  unfold readBin
  rw [Logged.result_bind, bind_eq_ok]
  refine exists_congr fun v => and_congr_right fun _ => ?_
  constructor
  · intro h
    exact (Except.ok.inj h).symm
  · intro h
    rw [h]
    rfl

theorem readRow_eq_ok {i : Nat} {rowPtr : Int} {key : Key} {bins : List Bin} :
    (readRow crates p mem l namespaceName setName i rowPtr).result = .ok (key, bins) ↔
      ∃ v ns set, (readValueFromBuffer p mem rowPtr l.key).result = .ok v ∧
        (readName p mem rowPtr namespaceName l.ns).result = .ok ns ∧
        (readName p mem rowPtr setName l.set).result = .ok set ∧
        makeKey crates ns set (trimKey v) i = .ok key ∧
        List.Forall₂ (fun f bin => (readBin p mem rowPtr f).result = .ok bin) l.bins bins := by
  unfold readRow
  constructor
  · intro h
    rw [Logged.result_bind] at h
    obtain ⟨v, hv, h⟩ := bind_eq_ok.mp h
    rw [Logged.result_bind] at h
    obtain ⟨ns, hns, h⟩ := bind_eq_ok.mp h
    rw [Logged.result_bind] at h
    obtain ⟨set, hset, h⟩ := bind_eq_ok.mp h
    rw [Logged.result_bind] at h
    obtain ⟨key', hkey, h⟩ := bind_eq_ok.mp h
    rw [Logged.result_bind, Logged.result_mapM] at h
    obtain ⟨bins', hbins, h⟩ := bind_eq_ok.mp h
    cases h
    exact ⟨v, ns, set, hv, hns, hset, hkey, mapM_eq_ok.mp hbins⟩
  · intro h
    obtain ⟨v, ns, set, hv, hns, hset, hkey, hbins⟩ := h
    rw [Logged.result_bind, bind_of_eq_ok hv, Logged.result_bind, bind_of_eq_ok hns,
      Logged.result_bind, bind_of_eq_ok hset, Logged.result_bind]
    refine bind_eq_ok.mpr ⟨key, hkey, ?_⟩
    rw [Logged.result_bind, Logged.result_mapM, bind_of_eq_ok (mapM_eq_ok.mpr hbins)]
    rfl

theorem readRowAt_ok {i : Nat} {row : Key × List Bin}
    (h : (readRowAt crates p mem l namespaceName setName i).result = .ok row) :
    (readRow crates p mem l namespaceName setName i (l.rowAddr i)).result = .ok row := by
  unfold readRowAt at h
  rw [Logged.result_bind] at h
  obtain ⟨offset, hoff, h⟩ := bind_eq_ok.mp h
  rwa [checkedRowOffset_ok hoff] at h

theorem numpyToRecords_eq_ok {a : NdArray} {d : Dtype} {keyField : String}
    {records : List (Key × List Bin)} (hprep : prepare p.endian a d keyField = .ok l) :
    (numpyToRecords crates p mem a d namespaceName setName keyField).result = .ok records ↔
      List.Forall₂ (fun i row => (readRowAt crates p mem l namespaceName setName i).result = .ok row)
        (List.range l.rows) records := by
  rw [← mapM_eq_ok, ← Logged.result_mapM, numpyToRecords, hprep]
  rfl

end Returned

end AerospikePy.Numpy
