import AerospikePy.Lib.Memory
import AerospikePy.Lib.Rounding
import AerospikePy.Numpy.FieldValue

/-!
# What a write leaves in its field

A number is read back from its bytes up to a power of 256, and bytes from their number.
The bytes that a writer stores are the first bytes of the field afterwards.
-/

namespace AerospikePy.Numpy

open AerospikePy.Core
open AerospikePy.Lib.BinaryFloat
open AerospikePy.Lib.Fallible
open AerospikePy.Lib.Memory

theorem toBytes_little_succ (width n : Nat) :
    toBytes .little (width + 1) n = UInt8.ofNat n :: toBytes .little width (n / 256) := by
  show (List.range (width + 1)).map _ = _ :: (List.range width).map _
  rw [List.range_succ_eq_map, List.map_cons, List.map_map, Nat.pow_zero, Nat.div_one]
  congr 1
  apply List.map_congr_left
  intro i _
  show UInt8.ofNat (n / 256 ^ (i + 1)) = UInt8.ofNat (n / 256 / 256 ^ i)
  rw [Nat.pow_succ, Nat.mul_comm, Nat.div_div_eq_div_mul]

theorem ofBytes_toBytes_little (width n : Nat) :
    ofBytes .little (toBytes .little width n) = n % 256 ^ width := by
  induction width generalizing n with
  | zero => rw [Nat.pow_zero, Nat.mod_one]; rfl
  | succ width ih =>
    have hbyte : (UInt8.ofNat n).toNat = n % 256 := by simp
    rw [toBytes_little_succ, Nat.pow_succ, Nat.mul_comm (256 ^ width), Nat.mod_mul]
    show (UInt8.ofNat n).toNat + 256 * ofBytes .little (toBytes .little width (n / 256)) = _
    rw [ih, hbyte]

theorem toBytes_ofBytes_little (bytes : List UInt8) :
    toBytes .little bytes.length (ofBytes .little bytes) = bytes := by
  induction bytes with
  | nil => rfl
  | cons b bytes ih =>
    have hb : b.toNat < 256 := b.toNat_lt
    have hn : ofBytes .little (b :: bytes) = b.toNat + 256 * ofBytes .little bytes := rfl
    have hhead : UInt8.ofNat (b.toNat + 256 * ofBytes .little bytes) = b := by
      apply UInt8.toNat_inj.mp
      rw [UInt8.toNat_ofNat']
      omega
    have htail : (b.toNat + 256 * ofBytes .little bytes) / 256 = ofBytes .little bytes := by omega
    rw [List.length_cons, toBytes_little_succ, hn, hhead, htail, ih]

/-- The low bytes of a number. -/
theorem ofBytes_toBytes (endian : Endian) (width n : Nat) :
    ofBytes endian (toBytes endian width n) = n % 256 ^ width := by
  cases endian with
  | little => exact ofBytes_toBytes_little width n
  | big =>
    have hreverse : ofBytes .big (toBytes .big width n) =
        ofBytes .little (toBytes .big width n).reverse := rfl
    have hbytes : toBytes .big width n = (toBytes .little width n).reverse := rfl
    rw [hreverse, hbytes, List.reverse_reverse]
    exact ofBytes_toBytes_little width n

/-- Bytes are the bytes of their number. -/
theorem toBytes_ofBytes (endian : Endian) (bytes : List UInt8) :
    toBytes endian bytes.length (ofBytes endian bytes) = bytes := by
  cases endian with
  | little => exact toBytes_ofBytes_little bytes
  | big =>
    have hback := toBytes_ofBytes_little bytes.reverse
    rw [List.length_reverse] at hback
    show (toBytes .little bytes.length (ofBytes .little bytes.reverse)).reverse = bytes
    rw [hback, List.reverse_reverse]

theorem toUInt64_toNat (n : Int64) : (n.toUInt64.toNat : Int) = n.toInt % 2 ^ 64 := by
  have hlt : n.toUInt64.toNat < 2 ^ 64 := n.toUInt64.toNat_lt
  have hcond : n.toInt = if 2 * n.toUInt64.toNat < 2 ^ 64 then (n.toUInt64.toNat : Int)
      else (n.toUInt64.toNat : Int) - (2 ^ 64 : Nat) := BitVec.toInt_eq_toNat_cond n.toBitVec
  split at hcond <;> omega

theorem map_fst_store (dst : Int) (bytes : List UInt8) :
    (store dst bytes).map (·.1) = addresses dst bytes.length := by
  apply List.ext_getElem
  · simp [store, addresses]
  · intro i _ _
    simp [store, addresses]

theorem nodup_addresses (src : Int) (len : Nat) : (addresses src len).Nodup := by
  refine List.Pairwise.map _ ?_ (@List.nodup_range len)
  intro i j hne h
  omega

theorem stored_store {mem : Int → UInt8} {dst : Int} {bytes : List UInt8} {k : Nat}
    (hk : k < bytes.length) : stored mem (store dst bytes) (dst + k) = bytes[k] := by
  have hnodup : ((store dst bytes).map (·.1)).Nodup := by
    rw [map_fst_store]
    exact nodup_addresses _ _
  have hmem : (dst + (k : Int), bytes[k]) ∈ store dst bytes := by
    apply List.mem_mapIdx.mpr
    exact ⟨k, hk, rfl⟩
  exact stored_of_mem hnodup hmem

theorem stored_store_of_outside {mem : Int → UInt8} {dst a : Int} {bytes : List UInt8}
    (h : a < dst ∨ dst + bytes.length ≤ a) : stored mem (store dst bytes) a = mem a := by
  apply stored_of_outside
  intro w hw heq
  have hbounds := mem_store hw
  omega

section Stored

variable {mem : Int → UInt8} {rowPtr : Int} {f : FieldInfo}

theorem getElem_fieldBytes {len k : Nat} (hk : k < (fieldBytes mem rowPtr f len).length) :
    (fieldBytes mem rowPtr f len)[k] = mem (rowPtr + f.offset + (k : Nat)) := by
  simp [fieldBytes, addresses]

/-- The bytes of the field after a store from its start on. -/
theorem fieldBytes_stored (bytes : List UInt8) :
    fieldBytes (stored mem (store (rowPtr + f.offset) bytes)) rowPtr f bytes.length = bytes := by
  apply List.ext_getElem
  · exact length_fieldBytes _ _ _ _
  · intro k hk hk'
    rw [getElem_fieldBytes]
    exact stored_store hk'

/-- Data cut to a width, or filled up with zeros. -/
def padded (width : Nat) (data : List UInt8) : List UInt8 :=
  data.take width ++ List.replicate (width - data.length) 0

theorem length_padded (width : Nat) (data : List UInt8) : (padded width data).length = width := by
  rw [padded, List.length_append, List.length_take, List.length_replicate]
  omega

/-- The row and its field hold zeros. -/
def ZeroRow (mem : Int → UInt8) (rowPtr : Int) (rowStride : Nat) : Prop :=
  ∀ k < rowStride, mem (rowPtr + (k : Nat)) = 0

/-- The rest of the field keeps its zeros. -/
theorem fieldBytes_stored_padded {rowStride : Nat} (hfits : f.offset + f.itemsize ≤ rowStride)
    (hzero : ZeroRow mem rowPtr rowStride) (data : List UInt8) :
    fieldBytes (stored mem (store (rowPtr + f.offset) (data.take f.itemsize))) rowPtr f f.itemsize =
      padded f.itemsize data := by
  apply List.ext_getElem
  · rw [length_fieldBytes, length_padded]
  · intro k hk hk'
    rw [getElem_fieldBytes]
    rw [length_fieldBytes] at hk
    simp only [padded, List.getElem_append]
    by_cases hin : k < (data.take f.itemsize).length
    · rw [dif_pos hin]
      exact stored_store hin
    · have hcell := hzero (f.offset + k) (by omega)
      rw [show rowPtr + ((f.offset + k : Nat) : Int) = rowPtr + f.offset + (k : Nat) by omega]
        at hcell
      rw [dif_neg hin, List.getElem_replicate, stored_store_of_outside (by omega)]
      exact hcell

end Stored

theorem signExtend_of_inRange {width : Nat} {n : Int64} (hwidth : numericWidth .int width = true)
    (hrange : InRange .int width n.toInt) :
    signExtend width (n.toUInt64.toNat % 256 ^ width) = n.toInt := by
  have hnat := toUInt64_toNat n
  unfold InRange at hrange
  unfold signExtend
  rcases numericWidth_int.mp hwidth with rfl | rfl | rfl | rfl <;> split <;> omega

theorem toUInt64_of_inRange {width : Nat} {n : Int64} (hwidth : numericWidth .uint width = true)
    (hrange : InRange .uint width n.toInt) :
    ((n.toUInt64.toNat % 256 ^ width : Nat) : Int) = n.toInt := by
  have hnat := toUInt64_toNat n
  have hhigh := n.toInt_lt
  unfold InRange at hrange
  rcases numericWidth_uint.mp hwidth with rfl | rfl | rfl | rfl <;> omega

/-- No integer of 64 bits is out of the range of `f32`. -/
theorem passesFloatCheck_ofInt (width : Nat) (n : Int64) :
    PassesFloatCheck width (F64.ofInt n.toInt) := by
  intro _ hcheck
  have hlow := n.le_toInt
  have hhigh := n.toInt_lt
  have habs : n.toInt.natAbs ≤ 2 ^ 64 := by omega
  apply (F64.not_outside_iff (F64.datum_ofInt habs) ((2 ^ 24 - 1) * 2 ^ 104)).mpr _ hcheck.2
  apply Nat.le_trans (F64.roundMagnitude_int_le habs)
  exact Nat.mul_le_mul_right _ (by decide)

end AerospikePy.Numpy
