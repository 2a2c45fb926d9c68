import Mathlib.Algebra.Order.Ring.Int

/-!
# Numbers and texts as bytes

A number as a fixed number of bytes, the most significant first. What does not fit the
width is dropped, so that the bytes tell two numbers apart up to a power of 256. A text
is told apart by its UTF-8 bytes.
-/

namespace AerospikePy.Lib.Bytes

def bigEndian : Nat → Nat → List UInt8
  | 0, _ => []
  | width + 1, n => .ofNat (n / 256 ^ width) :: bigEndian width n

def ofBigEndian : List UInt8 → Nat
  | [] => 0
  | b :: bs => b.toNat * 256 ^ bs.length + ofBigEndian bs

@[simp] theorem length_bigEndian (width n : Nat) : (bigEndian width n).length = width := by
  induction width with
  | zero => rfl
  | succ width ih => rw [bigEndian, List.length_cons, ih]

theorem ofBigEndian_bigEndian (width n : Nat) :
    ofBigEndian (bigEndian width n) = n % 256 ^ width := by
  induction width with
  | zero => rw [Nat.pow_zero, Nat.mod_one]; rfl
  | succ width ih =>
    have hbyte : (UInt8.ofNat (n / 256 ^ width)).toNat = n / 256 ^ width % 256 := by simp
    rw [bigEndian, ofBigEndian, length_bigEndian, ih, hbyte, Nat.pow_succ, Nat.mod_mul]
    rw [Nat.mul_comm, Nat.add_comm]

theorem bigEndian_inj {width m n : Nat} (hm : m < 256 ^ width) (hn : n < 256 ^ width) :
    bigEndian width m = bigEndian width n ↔ m = n := by
  refine ⟨fun h => ?_, fun h => by rw [h]⟩
  have hback := congrArg ofBigEndian h
  rwa [ofBigEndian_bigEndian, ofBigEndian_bigEndian, Nat.mod_eq_of_lt hm, Nat.mod_eq_of_lt hn]
    at hback

/-- The loop lists the bytes from its index on. -/
theorem toList_loop (bytes : ByteArray) (i : Nat) (done : List UInt8) :
    ByteArray.toList.loop bytes i done = done.reverse ++ bytes.data.toList.drop i := by
  fun_induction ByteArray.toList.loop bytes i done with
  | case1 i done hlt ih =>
    have hlen : i < bytes.data.toList.length := hlt
    have hget : bytes.get! i = bytes.data.toList[i] := by
      show bytes.data[i]! = _
      exact getElem!_pos bytes.data i hlt
    rw [ih, List.drop_eq_getElem_cons hlen, hget, List.reverse_cons, List.append_assoc]
    rfl
  | case2 i done hge =>
    have hlen : bytes.data.toList.length ≤ i := Nat.le_of_not_lt hge
    rw [List.drop_of_length_le hlen, List.append_nil]

theorem utf8_inj {s t : String} : s.toUTF8.toList = t.toUTF8.toList ↔ s = t := by
  refine ⟨fun h => ?_, fun h => by rw [h]⟩
  rw [ByteArray.toList, ByteArray.toList, toList_loop, toList_loop] at h
  have hdata : s.toUTF8.data.toList = t.toUTF8.data.toList := h
  exact String.toByteArray_inj.mp (ByteArray.ext (Array.toList_inj.mp hdata))

end AerospikePy.Lib.Bytes
