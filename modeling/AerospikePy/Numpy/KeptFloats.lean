import AerospikePy.Core.Narrowing
import AerospikePy.Numpy.NumberRange
import AerospikePy.Numpy.RoundTrip

/-!
# Floats read and written back

A float of a row is read as a double, whatever its width, and a double is written as a
float of the width of its field. Both casts together give the bits back, NaNs apart.
-/

namespace AerospikePy.Numpy

open AerospikePy.Core
open AerospikePy.Lib.BinaryFloat
open AerospikePy.Lib.Fallible

/-- `half` narrows what it widened to the same bits, NaNs apart. -/
def Platform.HalfKeeps (p : Platform) : Prop :=
  ∀ h, binary16.decode h.toNat ≠ .nan → p.halfFromF64 (p.halfToF64 h) = h

theorem datum_halfToF64_littleEndian (h : UInt16) :
    (Platform.littleEndian.halfToF64 h).datum =
      (binary16.decode h.toNat).rescale binary16 binary64 :=
  halfExact_littleEndian h

theorem halfKeeps_littleEndian : Platform.littleEndian.HalfKeeps := by
  intro h hnan
  have hbits : h.toNat < 2 ^ 16 := h.toNat_lt
  have hdatum := datum_halfToF64_littleEndian h
  apply UInt16.toNat_inj.mp
  cases hdecode : binary16.decode h.toNat with
  | nan => exact absurd hdecode hnan
  | finite negative m =>
    rw [hdecode] at hdatum
    have hround := @Format.roundMagnitude_of_represents binary16 m
      (2 ^ (binary64.unit - binary16.unit)) (Format.represents_of_decode hdecode)
      (Nat.two_pow_pos _)
    rw [halfFromF64_littleEndian hdatum, hround]
    exact Format.encodeFinite_of_decode hbits hdecode
  | infinite negative =>
    rw [hdecode] at hdatum
    have hinfinite := Format.bits_of_infinite hbits hdecode
    generalize Platform.littleEndian.halfToF64 h = x at hdatum
    unfold Platform.littleEndian
    dsimp only
    rw [hdatum, hinfinite]
    cases negative <;> rfl

/-- The bits of a float that the casts give back. -/
def KeptByCasts (width n : Nat) : Prop :=
  match width with
  | 2 => binary16.decode n ≠ .nan
  | 4 => F32.Quiet ⟨.ofNat n⟩
  | _ => True

instance (width n : Nat) : Decidable (KeptByCasts width n) := by
  unfold KeptByCasts
  split <;> infer_instance

theorem floatBits_floatOf {p : Platform} {width n : Nat} (hp : p.HalfKeeps)
    (hwidth : numericWidth .float width = true) (hn : n < 256 ^ width)
    (hkept : KeptByCasts width n) : floatBits p width (floatOf p width n) = n := by
  rcases numericWidth_float.mp hwidth with rfl | rfl | rfl
  · have hbits : (UInt16.ofNat n).toNat = n := UInt16.toNat_ofNat_of_lt' hn
    show (p.halfFromF64 (p.halfToF64 (.ofNat n))).toNat = n
    rw [hp (.ofNat n) (by rw [hbits]; exact hkept), hbits]
  · show (F32.toF64 ⟨.ofNat n⟩).toF32.bits.toNat = n
    rw [F32.toF32_toF64 hkept]
    exact UInt32.toNat_ofNat_of_lt' hn
  · exact UInt64.toNat_ofNat_of_lt' hn

/-- What was widened from four bytes is in the range of four bytes. -/
theorem passesFloatCheck_floatOf (p : Platform) (width n : Nat) :
    PassesFloatCheck width (floatOf p width n) := by
  intro hfour
  subst hfour
  have hdatum := F32.datum_toF64 ⟨.ofNat n⟩
  rintro ⟨hfinite, hout⟩
  obtain ⟨negative, m, hx⟩ := F64.isFinite_iff.mp hfinite
  refine (passesFloatCheck_four hx).mpr ?_ rfl ⟨hfinite, hout⟩
  rw [show (floatOf p 4 n).datum = _ from hdatum] at hx
  cases hdecode : binary32.decode (UInt32.ofNat n).toNat with
  | finite negative' m' =>
    rw [hdecode] at hx
    obtain ⟨-, rfl⟩ := Datum.finite.inj hx
    have hle := Format.le_maxFinite_of_represents (by decide) (Format.represents_of_decode hdecode)
    exact Nat.mul_le_mul_right _ hle
  | nan | infinite _ =>
    rw [hdecode] at hx
    cases hx

section Field

variable {p : Platform} {f : FieldInfo}

theorem writeValueToBuffer_of_float {rowPtr : Int} {bytes : List UInt8} (hp : p.HalfKeeps)
    (hkind : f.kind = .float) (hrow : rowPtr ≠ 0) (hlen : bytes.length = f.baseItemsize)
    (hwidth : numericWidth .float f.baseItemsize = true)
    (hkept : KeptByCasts f.baseItemsize (ofBytes p.endian bytes)) :
    writeValueToBuffer p rowPtr f
      (.float (.f64 (floatOf p f.baseItemsize (ofBytes p.endian bytes)).bits)) =
        .ok (store (rowPtr + f.offset) bytes) := by
  have hlt := ofBytes_lt p.endian bytes
  rw [hlen] at hlt
  have hbits := floatBits_floatOf hp hwidth hlt hkept
  have hbytes := toBytes_ofBytes p.endian bytes
  rw [hlen] at hbytes
  unfold writeValueToBuffer
  rw [hkind]
  refine writeFloatToBuffer_eq_ok.mpr ⟨hrow, hwidth, passesFloatCheck_floatOf _ _ _, ?_⟩
  show _ = store _ (toBytes _ _ (floatBits p f.baseItemsize (floatOf p f.baseItemsize _)))
  rw [hbits, hbytes]

/-- The casts give back the float of this field in the row, if it is a single float. -/
def FieldKept (p : Platform) (mem : Int → UInt8) (rowPtr : Int) (f : FieldInfo) : Prop :=
  f.kind = .float → isSubArray f = false →
    KeptByCasts f.baseItemsize (ofBytes p.endian (fieldBytes mem rowPtr f f.baseItemsize))

instance (p : Platform) (mem : Int → UInt8) (rowPtr : Int) (f : FieldInfo) :
    Decidable (FieldKept p mem rowPtr f) := inferInstanceAs (Decidable (_ → _ → _))

/-- What is read of a field is written, into any row, as the bytes of the field. -/
theorem writeValueToBuffer_of_kept {mem : Int → UInt8} {rowPtr rowPtr' : Int} {v : Value}
    (hp : p.HalfKeeps) (hkept : FieldKept p mem rowPtr f) (hbase : f.baseItemsize ≤ f.itemsize)
    (hrow' : rowPtr' ≠ 0) (hread : (readValueFromBuffer p mem rowPtr f).result = .ok v) :
    writeValueToBuffer p rowPtr' f v =
      .ok (store (rowPtr' + f.offset) (fieldBytes mem rowPtr f f.itemsize)) := by
  by_cases hsingle : f.kind = .float ∧ isSubArray f = false
  · obtain ⟨hkind, hscalar⟩ := hsingle
    have hnum : isNumeric f.kind = true := by rw [hkind]; rfl
    rw [readValueFromBuffer_eq (rowPtr_ne_zero hread)] at hread
    dsimp only at hread
    cases hwidth : numericWidth f.kind f.baseItemsize with
    | false =>
      rw [fieldValue_unsupported hnum hscalar hwidth] at hread
      cases hread
    | true =>
      rw [fieldValue_number hnum hscalar hwidth, numberValue, hkind] at hread
      rw [hkind] at hwidth
      obtain rfl := Except.ok.inj hread
      rw [itemsize_eq_of_scalar hbase hnum hscalar]
      exact writeValueToBuffer_of_float hp hkind hrow' (length_fieldBytes _ _ _ _) hwidth
        (hkept hkind hscalar)
  · refine writeValueToBuffer_of_read (fun hkind => Or.inl ?_) hbase hrow' hread
    cases hsub : isSubArray f with
    | true => rfl
    | false => exact absurd ⟨hkind, hsub⟩ hsingle

end Field

end AerospikePy.Numpy
