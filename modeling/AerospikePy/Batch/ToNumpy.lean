import AerospikePy.Batch.Records
import AerospikePy.Numpy.WriteBuffer

/-!
# Batch results in an array

`batch_to_numpy_py`. The arrays of codes and of metadata have a fixed dtype and are
given by their rows. The data array has the caller's dtype, and what is stored in it is
kept as addresses and bytes.
-/

namespace AerospikePy.Batch

open AerospikePy.Core
open AerospikePy.Lib.Fallible
open AerospikePy.Numpy
open AerospikePy.Python
open AerospikePy.Values

/-- The arrays that are allocated for a batch. -/
inductive ArrayRole where
  | batchRecords | recordMeta | resultCodes

/-- What `__array_interface__` shows of an array. -/
structure ArrayInterface where
  dataPtr : Nat
  readonly : Bool
  strides : Option (List Int)

/-- What lies outside the source: `numpy.zeros`, for so many rows of so many bytes. -/
abbrev Zeros := ArrayRole → Nat → Nat → Except PyErr ArrayInterface

/-- Memory enough for each. -/
def newArrays : Zeros := fun role _ _ => .ok <| match role with
  | .batchRecords => ⟨0x1000, false, none⟩
  | .recordMeta => ⟨0x2000, false, none⟩
  | .resultCodes => ⟨0x3000, false, none⟩

/-- The `str` of a tuple of integers. -/
def tupleText : List Int → String
  | [x] => s!"({x},)"
  | xs => "(" ++ ", ".intercalate (xs.map toString) ++ ")"

def getArrayDataPtr (a : ArrayInterface) : Except PyErr Nat := do
  require (a.strides = none) ⟨.valueError,
    "numpy array must be C-contiguous, got strides " ++ tupleText (a.strides.getD [])⟩
  require (a.readonly = false) ⟨.valueError, "numpy array is read-only"⟩
  require (a.dataPtr ≠ 0) ⟨.valueError, "numpy array data pointer is null"⟩
  return a.dataPtr

/-- Row `i` of the three arrays; of the data array, what is stored in it. -/
structure Row where
  resultCode : Int
  gen : UInt32
  ttl : UInt32
  stores : List (Int × UInt8)

structure NumpyBatchRecords where
  rows : List Row
  dataPtr : Nat
  rowStride : Nat
  map : Entries

variable (rt : Runtime) (clock : Clock) (p : Platform)

/-- A bin that has no field is ignored. -/
def storeBin (fields : List FieldInfo) (rowPtr : Int) (bin : String × Value) :
    Except PyErr (List (Int × UInt8)) :=
  match fields.find? fun f => f.name == bin.1 with
  | some field => writeValueToBuffer p rowPtr field bin.2
  | none => .ok []

/-- One turn of the loop, on zeroed rows. -/
def fillRow (fields : List FieldInfo) (rowPtr : Int) (br : BatchRecord Key Record) :
    Except PyErr Row := do
  let resultCode := resultOf br
  if resultCode ≠ 0 then return ⟨resultCode, 0, 0, []⟩
  else match br.record with
    | none => return ⟨resultCode, 0, 0, []⟩
    | some record =>
      let stores ← record.bins.mapM (storeBin p fields rowPtr)
      return ⟨resultCode, record.generation, recordTtlSeconds clock record, stores.flatten⟩

def rowAt (dataPtr rowStride i : Nat) : Int := dataPtr + i * rowStride

def fillRows (fields : List FieldInfo) (dataPtr rowStride : Nat) (results : Results) :
    Except PyErr (List Row) :=
  results.zipIdx.mapM fun e => fillRow clock p fields (rowAt dataPtr rowStride e.2) e.1

/-- The key of slot `i` in the map; a slot without one has a name of its own. -/
def mapKey (br : BatchRecord Key Record) (i : Nat) : Except PyErr PyObj :=
  match br.key.userKey with
  | some v => valueToPy rt v
  | none => .ok (.str s!"__no_user_key_{i}__")

def addToMap (keyMap : Entries) (e : BatchRecord Key Record × Nat) : Except PyErr Entries := do
  let userKey ← mapKey rt e.1 e.2
  setItem keyMap userKey (.int e.2)

def batchToNumpyPy (zeros : Zeros) (results : Results) (d : Dtype) :
    Except PyErr NumpyBatchRecords := do
  let n := results.length
  let (fields, rowStride) ← parseDtypeFields p.endian d
  require (n * rowStride < 2 ^ 64) ⟨.valueError,
    s!"buffer size overflow: {n} rows * {rowStride} bytes/row exceeds usize"⟩
  let dataArray ← zeros .batchRecords n rowStride
  let metaArray ← zeros .recordMeta n 8
  let resultCodesArray ← zeros .resultCodes n 4
  let dataPtr ← getArrayDataPtr dataArray
  let _ ← getArrayDataPtr metaArray
  let _ ← getArrayDataPtr resultCodesArray
  let rows ← fillRows clock p fields dataPtr rowStride results
  let map ← results.zipIdx.foldlM (addToMap rt) []
  return ⟨rows, dataPtr, rowStride, map⟩

variable {rt clock p}

theorem fillRow_resultCode {fields : List FieldInfo} {rowPtr : Int} {br : BatchRecord Key Record}
    {row : Row} (h : fillRow clock p fields rowPtr br = .ok row) : row.resultCode = resultOf br := by
  unfold fillRow at h
  dsimp only at h
  split at h
  · rw [← Except.ok.inj h]
  · split at h
    · rw [← Except.ok.inj h]
    · obtain ⟨stores, -, h⟩ := bind_eq_ok.mp h
      rw [← Except.ok.inj h]

/-- Row `i` is filled from record `i`. -/
theorem fillRows_eq_ok {fields : List FieldInfo} {dataPtr rowStride : Nat} {results : Results}
    {rows : List Row} (h : fillRows clock p fields dataPtr rowStride results = .ok rows) :
    rows.length = results.length ∧ ∀ i br row, results[i]? = some br → rows[i]? = some row →
      fillRow clock p fields (rowAt dataPtr rowStride i) br = .ok row := by
  have hrows := mapM_eq_ok.mp h
  refine ⟨by rw [← hrows.length_eq, List.length_zipIdx], fun i br row hbr hrow => ?_⟩
  have hzip : results.zipIdx[i]? = some (br, i) := by simp [hbr]
  exact rel_of_forall₂ hrows hzip hrow

theorem getArrayDataPtr_ne_zero {a : ArrayInterface} {dataPtr : Nat}
    (h : getArrayDataPtr a = .ok dataPtr) : dataPtr ≠ 0 := by
  obtain ⟨_, -, h⟩ := bind_eq_ok.mp h
  obtain ⟨_, -, h⟩ := bind_eq_ok.mp h
  obtain ⟨_, hnull, h⟩ := bind_eq_ok.mp h
  obtain rfl := Except.ok.inj h
  exact require_eq_ok.mp hnull

theorem batchToNumpyPy_eq_ok {zeros : Zeros} {results : Results} {d : Dtype}
    {array : NumpyBatchRecords} (h : batchToNumpyPy rt clock p zeros results d = .ok array) :
    ∃ fields, parseDtypeFields p.endian d = .ok (fields, array.rowStride) ∧
      array.dataPtr ≠ 0 ∧
      fillRows clock p fields array.dataPtr array.rowStride results = .ok array.rows ∧
      results.zipIdx.foldlM (addToMap rt) [] = .ok array.map := by
  obtain ⟨⟨fields, rowStride⟩, hparse, h⟩ := bind_eq_ok.mp h
  obtain ⟨_, -, h⟩ := bind_eq_ok.mp h
  obtain ⟨_, -, h⟩ := bind_eq_ok.mp h
  obtain ⟨_, -, h⟩ := bind_eq_ok.mp h
  obtain ⟨_, -, h⟩ := bind_eq_ok.mp h
  obtain ⟨dataPtr, hdata, h⟩ := bind_eq_ok.mp h
  obtain ⟨_, -, h⟩ := bind_eq_ok.mp h
  obtain ⟨_, -, h⟩ := bind_eq_ok.mp h
  obtain ⟨rows, hrows, h⟩ := bind_eq_ok.mp h
  obtain ⟨map, hmap, h⟩ := bind_eq_ok.mp h
  obtain rfl := Except.ok.inj h
  exact ⟨fields, hparse, getArrayDataPtr_ne_zero hdata, hrows, hmap⟩

end AerospikePy.Batch
