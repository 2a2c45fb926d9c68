import AerospikePy.Numpy.ReadBuffer

/-!
# The value of a field

Reading a field makes a value of its bytes, and of nothing else. A scalar number is read
exactly, whatever its width; every other field is read as the bytes it has.
-/

namespace AerospikePy.Numpy

open AerospikePy.Core
open AerospikePy.Lib.BinaryFloat
open AerospikePy.Lib.Fallible

/-- Only the bytes that are loaded matter. -/
theorem fieldValue_congr {p : Platform} {f : FieldInfo} {bytes bytes' : Nat → List UInt8}
    (h : ∀ w, readWidth f = some w → bytes w = bytes' w) :
    fieldValue p f bytes = fieldValue p f bytes' := by
  cases readAs f with
  | whole hwhole hw => rw [fieldValue_whole hwhole, fieldValue_whole hwhole, h _ hw]
  | number hnum hscalar hwidth hw =>
    rw [fieldValue_number hnum hscalar hwidth, fieldValue_number hnum hscalar hwidth, h _ hw]
  | unsupported hnum hscalar hwidth _ =>
    rw [fieldValue_unsupported hnum hscalar hwidth, fieldValue_unsupported hnum hscalar hwidth]

/-- `half` widens without rounding, any NaN to some NaN. -/
def Platform.HalfExact (p : Platform) : Prop :=
  ∀ h, (p.halfToF64 h).datum = (binary16.decode h.toNat).rescale binary16 binary64

theorem halfExact_littleEndian : Platform.littleEndian.HalfExact := by
  intro h
  have hcast := @F64.datum_ofDatum_rescale binary16 (by decide) (by decide) (by decide) h.toNat
  rw [← hcast]
  unfold Platform.littleEndian
  dsimp only
  cases binary16.decode h.toNat <;> rfl

def formatOf : Nat → Option Format
  | 2 => some binary16
  | 4 => some binary32
  | 8 => some binary64
  | _ => none

/-- The value is that of a field with these bytes: the very number that a scalar stores,
and of any other field all of its bytes. -/
inductive HoldsValue (p : Platform) (f : FieldInfo) (bytes : Nat → List UInt8) : Value → Prop where
  | int (hkind : f.kind = .int) (hscalar : isSubArray f = false) (i : Int64)
      (h : i.toInt = signExtend f.baseItemsize (ofBytes p.endian (bytes f.baseItemsize))) :
      HoldsValue p f bytes (.int i)
  | uint (hkind : f.kind = .uint) (hscalar : isSubArray f = false) (i : Int64)
      (h : i.toInt = ofBytes p.endian (bytes f.baseItemsize)) : HoldsValue p f bytes (.int i)
  | float (hkind : f.kind = .float) (hscalar : isSubArray f = false) (x : F64) (g : Format)
      (hformat : formatOf f.baseItemsize = some g)
      (h : x.datum = (g.decode (ofBytes p.endian (bytes f.baseItemsize))).rescale g binary64) :
      HoldsValue p f bytes (.float (.f64 x.bits))
  | bytes (h : isNumeric f.kind = false ∨ isSubArray f = true) :
      HoldsValue p f bytes (.blob (bytes f.itemsize))

theorem signExtend_bounds {width n : Nat} (hwidth : width = 1 ∨ width = 2 ∨ width = 4 ∨ width = 8)
    (hn : n < 256 ^ width) : -2 ^ 63 ≤ signExtend width n ∧ signExtend width n < 2 ^ 63 := by
  unfold signExtend
  rcases hwidth with rfl | rfl | rfl | rfl <;> split <;> omega

theorem floatOf_datum {p : Platform} (hp : p.HalfExact) {width n : Nat} {g : Format}
    (hg : formatOf width = some g) (hn : n < 256 ^ width) :
    (floatOf p width n).datum = (g.decode n).rescale g binary64 := by
  unfold formatOf at hg
  split at hg <;> cases hg
  · show (p.halfToF64 (.ofNat n)).datum = _
    rw [hp, UInt16.toNat_ofNat_of_lt' hn]
  · show (F32.toF64 ⟨.ofNat n⟩).datum = _
    rw [F32.datum_toF64, UInt32.toNat_ofNat_of_lt' hn]
  · show binary64.decode (UInt64.ofNat n).toNat = _
    rw [UInt64.toNat_ofNat_of_lt' hn, Datum.rescale_self]

/-- Whatever is read of a field is its value. -/
theorem fieldValue_holds {p : Platform} {f : FieldInfo} {bytes : Nat → List UInt8} {v : Value}
    (hp : f.kind = .float → p.HalfExact) (hlen : (bytes f.baseItemsize).length = f.baseItemsize)
    (h : fieldValue p f bytes = .ok v) : HoldsValue p f bytes v := by
  have hn := ofBytes_lt p.endian (bytes f.baseItemsize)
  rw [hlen] at hn
  cases readAs f with
  | whole hwhole _ =>
    rw [fieldValue_whole hwhole] at h
    obtain rfl := Except.ok.inj h
    exact .bytes hwhole
  | number hnum hscalar hwidth _ =>
    rw [fieldValue_number hnum hscalar hwidth, numberValue] at h
    cases hkind : f.kind with
    | int =>
      rw [hkind] at h hwidth
      obtain rfl := Except.ok.inj h
      have hbounds := signExtend_bounds (numericWidth_int.mp hwidth) hn
      exact .int hkind hscalar _ (Int64.toInt_ofInt_of_le hbounds.1 hbounds.2)
    | uint =>
      rw [hkind] at h
      obtain ⟨i, hi, rfl⟩ := map_eq_ok.mp h
      obtain ⟨_, hlt, hi⟩ := bind_eq_ok.mp hi
      obtain rfl := Except.ok.inj hi
      exact .uint hkind hscalar _ (Int64.toInt_ofNat_of_lt (require_eq_ok.mp hlt))
    | float =>
      rw [hkind] at h hwidth
      obtain rfl := Except.ok.inj h
      obtain ⟨g, hg⟩ : ∃ g, formatOf f.baseItemsize = some g := by
        rcases numericWidth_float.mp hwidth with hw | hw | hw <;> rw [hw] <;> exact ⟨_, rfl⟩
      exact .float hkind hscalar _ g hg (floatOf_datum (hp hkind) hg hn)
    | fixedBytes | voidBytes =>
      rw [hkind] at hnum
      cases hnum
  | unsupported hnum hscalar hwidth _ =>
    rw [fieldValue_unsupported hnum hscalar hwidth] at h
    cases h

end AerospikePy.Numpy
