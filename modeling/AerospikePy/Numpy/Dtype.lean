import Mathlib.Algebra.BigOperators.Ring.List
import Mathlib.Algebra.Order.Ring.Nat
import AerospikePy.Lib.Fallible
import AerospikePy.Core.Types
import AerospikePy.Core.Value

/-!
# Structured dtypes

What the bindings read off a NumPy dtype object, and `parse_dtype_fields`. A field of
a structured dtype is a scalar or a sub-array of scalars. Its itemsize is the product
of the base itemsize and the shape, so that a zero dimension makes it 0.
-/

namespace AerospikePy.Numpy

open AerospikePy.Core
open AerospikePy.Lib.BinaryFloat
open AerospikePy.Lib.Fallible

inductive Endian where
  | little | big
  deriving DecidableEq, Repr

/-- What lies outside the source: the byte order of the build and `half::f16`. -/
structure Platform where
  endian : Endian
  halfFromF64 : F64 → UInt16
  halfToF64 : UInt16 → F64

/-- A little-endian build, with `half` rounding to nearest, ties to even. -/
def Platform.littleEndian : Platform where
  endian := .little
  halfFromF64 x := match x.datum with
    | .nan => 0x7E00
    | .infinite negative => if negative then 0xFC00 else 0x7C00
    | .finite negative magnitude => .ofNat (binary16.encodeFinite negative
        (binary16.roundMagnitude magnitude (2 ^ (binary64.unit - binary16.unit))))
  halfToF64 h := match binary16.decode h.toNat with
    | .finite negative magnitude =>
      F64.ofDatum (.finite negative (magnitude * 2 ^ (binary64.unit - binary16.unit)))
    | d => F64.ofDatum d

/-- The dtype of one element; `text` is its `str`. -/
structure BaseDtype where
  kind : String
  byteorder : String
  itemsize : Nat
  text : String
  deriving DecidableEq, Repr

/-- The dtype of a field; a scalar has the empty shape. -/
structure FieldDtype where
  base : BaseDtype
  shape : List Nat
  text : String
  deriving DecidableEq, Repr

def FieldDtype.itemsize (d : FieldDtype) : Nat := d.base.itemsize * d.shape.prod

structure DtypeField where
  name : String
  dtype : FieldDtype
  offset : Nat
  deriving DecidableEq, Repr

/-- A dtype object; `fields` is `none` where it is not structured. Names are distinct,
and sizes and offsets are of NumPy's signed 64-bit type. -/
structure Dtype where
  fields : Option (List DtypeField)
  itemsize : Nat
  nodup : ((fields.getD []).map (·.name)).Nodup := by decide
  small : itemsize < 2 ^ 63 ∧
    ∀ f ∈ fields.getD [], f.offset < 2 ^ 63 ∧ f.dtype.itemsize < 2 ^ 63 := by decide

inductive DtypeKind where
  | int | uint | float | fixedBytes | voidBytes
  deriving DecidableEq, Repr

structure FieldInfo where
  name : String
  offset : Nat
  itemsize : Nat
  baseItemsize : Nat
  kind : DtypeKind
  deriving DecidableEq, Repr

def nativeByteorderChar : Endian → String
  | .little => "<"
  | .big => ">"

def checkNativeByteorder (endian : Endian) (base : BaseDtype) (name : String) : Except PyErr Unit :=
  if base.byteorder = "=" ∨ base.byteorder = "|" ∨ base.byteorder = nativeByteorderChar endian then
    .ok ()
  else .error ⟨.valueError,
    s!"dtype field '{name}' has non-native byte order (byteorder='{base.byteorder}', base dtype {base.text}): " ++
    "this buffer is read and written natively, so a byte-swapped field would " ++
    "silently round-trip corrupted values. Convert the array first with " ++
    "`arr.astype(arr.dtype.newbyteorder('='))`, or declare the field natively " ++
    "(e.g. 'i4' / '=i4' instead of '>i4')."⟩

def dtypeKind (f : DtypeField) : Except PyErr DtypeKind :=
  match f.dtype.base.kind with
  | "i" => .ok .int
  | "u" => .ok .uint
  | "f" => .ok .float
  | "S" => .ok .fixedBytes
  | "V" => .ok .voidBytes
  | other => .error ⟨.typeError,
      s!"dtype field '{f.name}' must be numeric (int/float) or fixed-length bytes, got {f.dtype.text} (kind='{other}')"⟩

def exceedsRow (f : DtypeField) (rowStride : Nat) : PyErr :=
  let stop := f.offset + f.dtype.itemsize
  ⟨.valueError,
    s!"dtype field '{f.name}' exceeds row boundary: offset({f.offset}) + itemsize({f.dtype.itemsize}) = {stop} > row_stride({rowStride})"⟩

/-- One turn of the loop of `parse_dtype_fields`. -/
def parseField (endian : Endian) (rowStride : Nat) (f : DtypeField) : Except PyErr FieldInfo := do
  let kind ← dtypeKind f
  checkNativeByteorder endian f.dtype.base f.name
  require (f.offset + f.dtype.itemsize ≤ rowStride) (exceedsRow f rowStride)
  return ⟨f.name, f.offset, f.dtype.itemsize, f.dtype.base.itemsize, kind⟩

/-- The names of an unstructured dtype are `None`, which is no sequence. -/
def parseDtypeFields (endian : Endian) (d : Dtype) : Except PyErr (List FieldInfo × Nat) := do
  match d.fields with
  | none => .error ⟨.typeError, "'NoneType' object is not an instance of 'Sequence'"⟩
  | some fields =>
    let infos ← fields.mapM (parseField endian d.itemsize)
    return (infos, d.itemsize)

/-- `info` describes the accepted field `f` of a dtype with this itemsize. -/
structure Describes (rowStride : Nat) (f : DtypeField) (info : FieldInfo) : Prop where
  name : info.name = f.name
  offset : info.offset = f.offset
  itemsize : info.itemsize = f.dtype.itemsize
  baseItemsize : info.baseItemsize = f.dtype.base.itemsize
  kind : dtypeKind f = .ok info.kind
  fits : info.offset + info.itemsize ≤ rowStride

theorem parseField_ok {endian : Endian} {rowStride : Nat} {f : DtypeField} {info : FieldInfo}
    (h : parseField endian rowStride f = .ok info) : Describes rowStride f info := by
  unfold parseField at h
  obtain ⟨kind, hkind, h⟩ := bind_eq_ok.mp h
  obtain ⟨_, _, h⟩ := bind_eq_ok.mp h
  obtain ⟨_, hfits, h⟩ := bind_eq_ok.mp h
  obtain rfl := Except.ok.inj h
  exact ⟨rfl, rfl, rfl, rfl, hkind, require_eq_ok.mp hfits⟩

/-- An accepted dtype has a descriptor for each of its fields, in order. -/
theorem parseDtypeFields_ok {endian : Endian} {d : Dtype} {infos : List FieldInfo} {rowStride : Nat}
    (h : parseDtypeFields endian d = .ok (infos, rowStride)) :
    rowStride = d.itemsize ∧ ∃ fields, d.fields = some fields ∧
      List.Forall₂ (Describes rowStride) fields infos := by
  unfold parseDtypeFields at h
  cases hfields : d.fields with
  | none =>
    rw [hfields] at h
    cases h
  | some fields =>
    rw [hfields] at h
    obtain ⟨infos', hinfos, h⟩ := bind_eq_ok.mp h
    obtain ⟨rfl, rfl⟩ := Prod.mk.inj (Except.ok.inj h)
    exact ⟨rfl, fields, rfl, (mapM_eq_ok.mp hinfos).imp fun _ _ => parseField_ok⟩

end AerospikePy.Numpy
