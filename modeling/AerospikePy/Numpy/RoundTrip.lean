import AerospikePy.Numpy.Stored

/-!
# Values written and read back

A value that a field takes comes back whole, except where a single number is offered to
a sub-array of numbers: it is stored in the first element alone. The bytes of a field
come back without exception.
-/

namespace AerospikePy.Numpy

open AerospikePy.Core
open AerospikePy.Lib.BinaryFloat
open AerospikePy.Lib.Fallible
open AerospikePy.Lib.Memory

/-- The integer that an Int or a Bool offers. -/
def numberOf : Value → Option Int64
  | .int n => some n
  | .bool b => some (if b then 1 else 0)
  | _ => none

/-- The bytes that a String or a Blob offers. -/
def bytesOf : Value → Option (List UInt8)
  | .string s => some s.toUTF8.toList
  | .blob bytes => some bytes
  | _ => none

/-- One element of the column holds the integer; a column of floats rounds it. -/
def FitsBase (kind : DtypeKind) (width : Nat) (n : Int64) : Prop :=
  numericWidth kind width = true ∧ (kind ≠ .float → InRange kind width n.toInt)

/-- What an integer is stored as. -/
def storedNumber (p : Platform) (f : FieldInfo) (n : Int64) : Nat :=
  if f.kind = .float then floatBits p f.baseItemsize (F64.ofInt n.toInt) else n.toUInt64.toNat

section Write

variable {p : Platform} {rowPtr : Int} {f : FieldInfo} {ws : List (Int × UInt8)}

theorem nonNegativeU64_eq_ok {n : Int64} {u : UInt64} :
    nonNegativeU64 n f = .ok u ↔ 0 ≤ n.toInt ∧ u = n.toUInt64 := require_bind_pure_eq_ok

theorem writeValueToBuffer_int_eq_ok {n : Int64} :
    writeValueToBuffer p rowPtr f (.int n) = .ok ws ↔
      rowPtr ≠ 0 ∧ FitsBase f.kind f.baseItemsize n ∧
        ws = store (rowPtr + f.offset) (toBytes p.endian f.baseItemsize (storedNumber p f n)) := by
  unfold writeValueToBuffer FitsBase storedNumber
  cases hkind : f.kind with
  | int =>
    dsimp only
    rw [writeIntToBuffer_eq_ok, if_neg (by decide)]
    simp [and_assoc]
  | uint =>
    dsimp only
    rw [bind_eq_ok, if_neg (by decide)]
    have hnat := toUInt64_toNat n
    have hlow := n.le_toInt
    have hhigh := n.toInt_lt
    constructor
    · intro h
      obtain ⟨u, hu, hw⟩ := h
      obtain ⟨hpos, rfl⟩ := nonNegativeU64_eq_ok.mp hu
      obtain ⟨hrow, hwidth, hrange, hws⟩ := writeUintToBuffer_eq_ok.mp hw
      have hsame : (n.toUInt64.toNat : Int) = n.toInt := by omega
      rw [hsame] at hrange
      exact ⟨hrow, ⟨hwidth, fun _ => hrange⟩, hws⟩
    · intro h
      obtain ⟨hrow, ⟨hwidth, hrange⟩, hws⟩ := h
      have hrange := hrange (by decide)
      have hpos : 0 ≤ n.toInt := hrange.1
      have hsame : (n.toUInt64.toNat : Int) = n.toInt := by omega
      rw [← hsame] at hrange
      exact ⟨_, nonNegativeU64_eq_ok.mpr ⟨hpos, rfl⟩,
        writeUintToBuffer_eq_ok.mpr ⟨hrow, hwidth, hrange, hws⟩⟩
  | float =>
    dsimp only
    rw [writeFloatToBuffer_eq_ok, if_pos rfl]
    simp [passesFloatCheck_ofInt]
  | fixedBytes | voidBytes =>
    dsimp only
    simp [numericWidth]

/-- A Bool is written as the integer it stands for. -/
theorem writeValueToBuffer_number_eq_ok {v : Value} {n : Int64} (hn : numberOf v = some n) :
    writeValueToBuffer p rowPtr f v = .ok ws ↔
      rowPtr ≠ 0 ∧ FitsBase f.kind f.baseItemsize n ∧
        ws = store (rowPtr + f.offset) (toBytes p.endian f.baseItemsize (storedNumber p f n)) := by
  rw [← writeValueToBuffer_int_eq_ok]
  cases v with
  | int i =>
    obtain rfl := Option.some.inj hn
    rfl
  | bool b =>
    obtain rfl := Option.some.inj hn
    unfold writeValueToBuffer
    dsimp only
    cases hkind : f.kind with
    | int | float => rfl
    | uint =>
      have hpos : nonNegativeU64 (if b then 1 else 0) f =
          .ok (if b then 1 else 0 : Int64).toUInt64 := by
        cases b <;> rfl
      rw [hpos]
      rfl
    | fixedBytes | voidBytes => simp
  | _ => cases hn

/-- Bytes are taken by a byte field, a Blob by a sub-array of numbers too. -/
theorem writeValueToBuffer_bytes_eq_ok {v : Value} {data : List UInt8}
    (hd : bytesOf v = some data) :
    writeValueToBuffer p rowPtr f v = .ok ws ↔
      rowPtr ≠ 0 ∧ (isNumeric f.kind = false ∨ v = .blob data ∧ isSubArray f = true) ∧
        ws = store (rowPtr + f.offset) (data.take f.itemsize) := by
  cases v with
  | string s =>
    obtain rfl := Option.some.inj hd
    unfold writeValueToBuffer
    cases hkind : f.kind with
    | fixedBytes | voidBytes =>
      dsimp only
      rw [writeBytesToBuffer_eq_ok]
      simp [isNumeric]
    | _ => simp [isNumeric]
  | blob bytes =>
    obtain rfl := Option.some.inj hd
    unfold writeValueToBuffer isSubArray
    cases hkind : f.kind with
    | fixedBytes | voidBytes =>
      dsimp only
      rw [writeBytesToBuffer_eq_ok]
      simp [isNumeric]
    | _ =>
      dsimp only
      split
      · rename_i hsub
        rw [writeBytesToBuffer_eq_ok]
        simp [isNumeric, hsub]
      · rename_i hsub
        simp [isNumeric, hsub]
  | _ => cases hd

end Write

section ReadBack

variable {p : Platform} {f : FieldInfo}

/-- A number of a scalar field is stored over the whole field. -/
theorem itemsize_eq_of_scalar (hbase : f.baseItemsize ≤ f.itemsize)
    (hnum : isNumeric f.kind = true) (hscalar : isSubArray f = false) :
    f.itemsize = f.baseItemsize := by
  have hle : ¬ f.itemsize > f.baseItemsize := by simpa [isSubArray, hnum] using hscalar
  omega

/-- An integer that a scalar column holds is read from its bytes. -/
theorem fieldValue_of_number {n : Int64} {bytes : Nat → List UInt8}
    (hkind : f.kind = .int ∨ f.kind = .uint) (hscalar : isSubArray f = false)
    (hfits : FitsBase f.kind f.baseItemsize n)
    (hbytes : ofBytes p.endian (bytes f.baseItemsize) =
      n.toUInt64.toNat % 256 ^ f.baseItemsize) :
    fieldValue p f bytes = .ok (.int n) := by
  obtain ⟨hwidth, hrange⟩ := hfits
  have hnum : isNumeric f.kind = true := by rcases hkind with h | h <;> rw [h] <;> rfl
  rw [fieldValue_number hnum hscalar hwidth, numberValue, hbytes]
  rcases hkind with hkind | hkind
  · rw [hkind] at hwidth hrange ⊢
    dsimp only
    rw [signExtend_of_inRange hwidth (hrange (by decide)), Int64.ofInt_toInt]
  · rw [hkind] at hwidth hrange ⊢
    have hnat := toUInt64_of_inRange hwidth (hrange (by decide))
    have hhigh := n.toInt_lt
    dsimp only
    rw [uintToI64_of_lt (by omega), map_eq_ok]
    refine ⟨_, rfl, congrArg Value.int ?_⟩
    rw [← Int64.ofInt_eq_ofNat, hnat, Int64.ofInt_toInt]

/-- What the field must give back of a value that it took. A single number is no value
of a sub-array. -/
structure ReadWhole (f : FieldInfo) (v : Value) (result : Except PyErr Value) : Prop where
  scalar : ∀ n, numberOf v = some n → isSubArray f = false
  number : ∀ n, numberOf v = some n → f.kind = .int ∨ f.kind = .uint → result = .ok (.int n)
  bytes : ∀ data, bytesOf v = some data → result = .ok (.blob (padded f.itemsize data))

/-- Written into any row of zeros, the value is read back whole. -/
def ReadsBack (p : Platform) (f : FieldInfo) (v : Value) : Prop :=
  ∀ (mem : Int → UInt8) (rowPtr : Int) (rowStride : Nat) (ws : List (Int × UInt8)),
    f.offset + f.itemsize ≤ rowStride → ZeroRow mem rowPtr rowStride →
    writeValueToBuffer p rowPtr f v = .ok ws →
    ReadWhole f v (readValueFromBuffer p (stored mem ws) rowPtr f).result

theorem readWhole_of_write {v : Value} {mem : Int → UInt8} {rowPtr : Int} {rowStride : Nat}
    {ws : List (Int × UInt8)} (hfits : f.offset + f.itemsize ≤ rowStride)
    (hzero : ZeroRow mem rowPtr rowStride) (hw : writeValueToBuffer p rowPtr f v = .ok ws)
    (hscalar : ∀ n, numberOf v = some n → isSubArray f = false) :
    ReadWhole f v (readValueFromBuffer p (stored mem ws) rowPtr f).result := by
  refine ⟨hscalar, ?_, ?_⟩
  · intro n hn hkind
    obtain ⟨hrow, hbase, rfl⟩ := (writeValueToBuffer_number_eq_ok hn).mp hw
    rw [readValueFromBuffer_eq hrow]
    apply fieldValue_of_number hkind (hscalar n hn) hbase
    have hfloat : f.kind ≠ .float := by rcases hkind with h | h <;> rw [h] <;> decide
    have hback := @fieldBytes_stored mem rowPtr f
      (toBytes p.endian f.baseItemsize (storedNumber p f n))
    rw [length_toBytes] at hback
    rw [hback, ofBytes_toBytes, storedNumber, if_neg hfloat]
  · intro data hd
    obtain ⟨hrow, htakes, rfl⟩ := (writeValueToBuffer_bytes_eq_ok hd).mp hw
    have hwhole : isNumeric f.kind = false ∨ isSubArray f = true := htakes.imp_right (·.2)
    rw [readValueFromBuffer_eq hrow]
    dsimp only
    rw [fieldValue_whole hwhole, fieldBytes_stored_padded hfits hzero]

/-- A value comes back whole unless it is a number that one element of a sub-array holds. -/
theorem readsBack_iff (v : Value) : ReadsBack p f v ↔
    ∀ n, numberOf v = some n → isSubArray f = true → ¬ FitsBase f.kind f.baseItemsize n := by
  constructor
  · intro h n hn hsub hbase
    have hw := (@writeValueToBuffer_number_eq_ok p 1 f _ v n hn).mpr ⟨by decide, hbase, rfl⟩
    have hwhole := h (fun _ => 0) 1 _ _ (Nat.le_refl _) (fun _ _ => rfl) hw
    rw [hwhole.scalar n hn] at hsub
    cases hsub
  · intro h mem rowPtr rowStride ws hfits hzero hw
    apply readWhole_of_write hfits hzero hw
    intro n hn
    obtain ⟨-, hbase, -⟩ := (writeValueToBuffer_number_eq_ok hn).mp hw
    cases hsub : isSubArray f with
    | false => rfl
    | true => exact absurd hbase (h n hn hsub)

end ReadBack

/-- Two integers of four bytes. -/
def vector : Dtype where
  fields := some [⟨"vec", ⟨⟨"i", "=", 4, "<i4"⟩, [2], "('<i4', (2,))"⟩, 0⟩]
  itemsize := 8

/-- The integer 7 goes into the first element, and the field is read as both. -/
theorem readsBack_vector :
    let vec : FieldInfo := ⟨"vec", 0, 8, 4, .int⟩
    let ws : List (Int × UInt8) := [(1000, 7), (1001, 0), (1002, 0), (1003, 0)]
    parseDtypeFields .little vector = .ok ([vec], 8) ∧
    writeValueToBuffer .littleEndian 1000 vec (.int 7) = .ok ws ∧
    (readValueFromBuffer .littleEndian (stored (fun _ => 0) ws) 1000 vec).result =
      .ok (.blob [7, 0, 0, 0, 0, 0, 0, 0]) ∧
    ¬ ReadsBack .littleEndian vec (.int 7) := by
  intro vec ws
  have hw : writeValueToBuffer .littleEndian 1000 vec (.int 7) = .ok ws := by decide +kernel
  refine ⟨by decide +kernel, hw, by decide +kernel, ?_⟩
  intro h
  have hwhole := h (fun _ => 0) 1000 8 ws (by decide) (fun _ _ => rfl) hw
  have hscalar := hwhole.scalar 7 rfl
  revert hscalar
  decide

section WriteBack

variable {p : Platform} {f : FieldInfo}

/-- Only the low bytes of a number are stored. -/
theorem toBytes_of_mod {bytes : List UInt8} {n : Nat}
    (h : n % 256 ^ bytes.length = ofBytes p.endian bytes) :
    toBytes p.endian bytes.length n = bytes := by
  have hlow := toBytes_ofBytes p.endian (toBytes p.endian bytes.length n)
  rw [length_toBytes, ofBytes_toBytes, h, toBytes_ofBytes] at hlow
  exact hlow.symm

theorem inRange_signExtend {width n : Nat} (hwidth : numericWidth .int width = true)
    (hn : n < 256 ^ width) : InRange .int width (signExtend width n) := by
  unfold signExtend InRange
  rcases numericWidth_int.mp hwidth with rfl | rfl | rfl | rfl <;> split <;> omega

theorem toUInt64_signExtend {width n : Nat} (hwidth : numericWidth .int width = true)
    (hn : n < 256 ^ width) {i : Int64} (hi : i.toInt = signExtend width n) :
    i.toUInt64.toNat % 256 ^ width = n := by
  have hnat := toUInt64_toNat i
  unfold signExtend at hi
  rcases numericWidth_int.mp hwidth with rfl | rfl | rfl | rfl <;> split at hi <;> omega

/-- The value of a scalar field is written as the bytes that it was read of. -/
theorem writeValueToBuffer_of_number {rowPtr : Int} {bytes : List UInt8} {v : Value}
    (hfloat : f.kind = .float → f.baseItemsize = 8) (hrow : rowPtr ≠ 0)
    (hlen : bytes.length = f.baseItemsize) (hwidth : numericWidth f.kind f.baseItemsize = true)
    (hv : numberValue p f (ofBytes p.endian bytes) = .ok v) :
    writeValueToBuffer p rowPtr f v = .ok (store (rowPtr + f.offset) bytes) := by
  have hlt := ofBytes_lt p.endian bytes
  rw [hlen] at hlt
  unfold numberValue at hv
  cases hkind : f.kind with
  | int =>
    rw [hkind] at hv hwidth
    obtain rfl := Except.ok.inj hv
    have hbounds := signExtend_bounds (numericWidth_int.mp hwidth) hlt
    have hi := Int64.toInt_ofInt_of_le hbounds.1 hbounds.2
    have hbytes := @toBytes_of_mod p bytes (Int64.ofInt (signExtend f.baseItemsize
      (ofBytes p.endian bytes))).toUInt64.toNat (by
        rw [hlen]
        exact toUInt64_signExtend hwidth hlt hi)
    rw [hlen] at hbytes
    refine writeValueToBuffer_int_eq_ok.mpr ⟨hrow, ⟨by rwa [hkind], fun _ => ?_⟩, ?_⟩
    · rw [hkind, hi]
      exact inRange_signExtend hwidth hlt
    · rw [storedNumber, if_neg (by rw [hkind]; decide), hbytes]
  | uint =>
    rw [hkind] at hv hwidth
    obtain ⟨i, hi, rfl⟩ := map_eq_ok.mp hv
    obtain ⟨hsmall, rfl⟩ := require_bind_pure_eq_ok.mp hi
    have hto : (Int64.ofNat (ofBytes p.endian bytes)).toInt = ofBytes p.endian bytes :=
      Int64.toInt_ofNat_of_lt hsmall
    have hnat := toUInt64_toNat (Int64.ofNat (ofBytes p.endian bytes))
    have hbytes := @toBytes_of_mod p bytes (Int64.ofNat (ofBytes p.endian bytes)).toUInt64.toNat (by
        rw [hlen, show (Int64.ofNat (ofBytes p.endian bytes)).toUInt64.toNat =
          ofBytes p.endian bytes by omega, Nat.mod_eq_of_lt hlt])
    rw [hlen] at hbytes
    refine writeValueToBuffer_int_eq_ok.mpr ⟨hrow, ⟨by rwa [hkind], fun _ => ?_⟩, ?_⟩
    · rw [hkind, hto]
      unfold InRange
      rcases numericWidth_uint.mp hwidth with hw | hw | hw | hw <;> rw [hw] at hlt ⊢ <;> omega
    · rw [storedNumber, if_neg (by rw [hkind]; decide), hbytes]
  | float =>
    rw [hkind] at hv hwidth
    obtain rfl := Except.ok.inj hv
    have hw := hfloat hkind
    have hbits : (UInt64.ofNat (ofBytes p.endian bytes)).toNat = ofBytes p.endian bytes := by
      apply UInt64.toNat_ofNat_of_lt'
      rw [hw] at hlt
      exact hlt
    have hbytes := toBytes_ofBytes p.endian bytes
    rw [hlen, hw] at hbytes
    unfold writeValueToBuffer
    rw [hkind]
    refine writeFloatToBuffer_eq_ok.mpr ⟨hrow, hwidth, ?_, ?_⟩
    · intro hfour
      omega
    · rw [hw]
      show _ = store _ (toBytes p.endian 8 (UInt64.ofNat _).toNat)
      rw [hbits, hbytes]
  | fixedBytes | voidBytes =>
    rw [hkind] at hwidth
    cases hwidth

/-- Whatever is read of a field is written, into any row, as the bytes of the field. -/
theorem writeValueToBuffer_of_read {mem : Int → UInt8} {rowPtr rowPtr' : Int} {v : Value}
    (hfloat : f.kind = .float → isSubArray f = true ∨ f.baseItemsize = 8)
    (hbase : f.baseItemsize ≤ f.itemsize) (hrow' : rowPtr' ≠ 0)
    (hread : (readValueFromBuffer p mem rowPtr f).result = .ok v) :
    writeValueToBuffer p rowPtr' f v =
      .ok (store (rowPtr' + f.offset) (fieldBytes mem rowPtr f f.itemsize)) := by
  rw [readValueFromBuffer_eq (rowPtr_ne_zero hread)] at hread
  dsimp only at hread
  cases readAs f with
  | whole hwhole _ =>
    rw [fieldValue_whole hwhole] at hread
    obtain rfl := Except.ok.inj hread
    have htake : (fieldBytes mem rowPtr f f.itemsize).take f.itemsize =
        fieldBytes mem rowPtr f f.itemsize := by
      apply List.take_of_length_le
      rw [length_fieldBytes]
    refine (writeValueToBuffer_bytes_eq_ok rfl).mpr ⟨hrow', ?_, ?_⟩
    · exact hwhole.imp_right fun hsub => ⟨rfl, hsub⟩
    · rw [htake]
  | number hnum hscalar hwidth _ =>
    rw [fieldValue_number hnum hscalar hwidth] at hread
    rw [itemsize_eq_of_scalar hbase hnum hscalar]
    apply writeValueToBuffer_of_number _ hrow' (length_fieldBytes _ _ _ _) hwidth hread
    intro hkind
    apply (hfloat hkind).resolve_left
    rw [hscalar]
    decide
  | unsupported hnum hscalar hwidth _ =>
    rw [fieldValue_unsupported hnum hscalar hwidth] at hread
    cases hread

/-- Reading a field and writing its value into a row of zeros copies the bytes of the
field, and nothing else. -/
theorem write_read_field {mem mem' : Int → UInt8} {rowPtr rowPtr' : Int} {rowStride : Nat}
    {v : Value} (hfloat : f.kind = .float → isSubArray f = true ∨ f.baseItemsize = 8)
    (hbase : f.baseItemsize ≤ f.itemsize) (hrow' : rowPtr' ≠ 0)
    (hzero : ZeroRow mem' rowPtr' rowStride)
    (hread : (readValueFromBuffer p mem rowPtr f).result = .ok v) :
    ∃ ws, writeValueToBuffer p rowPtr' f v = .ok ws ∧
      fieldBytes (stored mem' ws) rowPtr' f f.itemsize = fieldBytes mem rowPtr f f.itemsize ∧
      ∀ k < rowStride, (k < f.offset ∨ f.offset + f.itemsize ≤ k) →
        stored mem' ws (rowPtr' + (k : Nat)) = 0 := by
  refine ⟨_, writeValueToBuffer_of_read hfloat hbase hrow' hread, ?_, ?_⟩
  · have hback := @fieldBytes_stored mem' rowPtr' f (fieldBytes mem rowPtr f f.itemsize)
    rwa [length_fieldBytes] at hback
  · intro k hk hout
    rw [stored_store_of_outside]
    · exact hzero k hk
    · rw [length_fieldBytes]
      omega

end WriteBack

/-- The largest integer of four bytes, at the second field of a row. -/
theorem write_read_field_max : ∃ ws,
    writeValueToBuffer .littleEndian 2000 ⟨"n", 4, 4, 4, .int⟩ (.int 2147483647) = .ok ws ∧
    fieldBytes (stored (fun _ => 0) ws) 2000 ⟨"n", 4, 4, 4, .int⟩ 4 =
      fieldBytes (fun a => if a = 1007 then 0x7F else 0xFF) 1000 ⟨"n", 4, 4, 4, .int⟩ 4 ∧
    ∀ k < 12, (k < 4 ∨ 4 + 4 ≤ k) → stored (fun _ => 0) ws (2000 + (k : Nat)) = 0 :=
  write_read_field (by decide) (by decide) (by decide) (fun _ _ => rfl)
    (by decide +kernel)

end AerospikePy.Numpy
