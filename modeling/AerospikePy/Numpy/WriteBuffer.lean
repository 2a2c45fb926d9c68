import AerospikePy.Numpy.Dtype

/-!
# Writing values into a row

The writers store through a raw pointer. A call returns the bytes it stores with
their addresses; it stores all of them at once, after its checks, so that a call that
fails stores nothing.
-/

namespace AerospikePy.Numpy

open AerospikePy.Core
open AerospikePy.Lib.Fallible

/-- The low `width` bytes of a number, in memory order. -/
def toBytes (endian : Endian) (width n : Nat) : List UInt8 :=
  let bytes := (List.range width).map fun i => UInt8.ofNat (n / 256 ^ i)
  match endian with
  | .little => bytes
  | .big => bytes.reverse

@[simp] theorem length_toBytes (endian : Endian) (width n : Nat) :
    (toBytes endian width n).length = width := by
  cases endian <;> simp [toBytes]

def store (dst : Int) (bytes : List UInt8) : List (Int × UInt8) :=
  bytes.mapIdx fun i b => (dst + i, b)

theorem mem_store {dst : Int} {bytes : List UInt8} {w : Int × UInt8} (h : w ∈ store dst bytes) :
    dst ≤ w.1 ∧ w.1 < dst + bytes.length := by
  obtain ⟨i, hi, rfl⟩ := List.mem_mapIdx.mp h
  dsimp only
  omega

def nullBuffer (function : String) : PyErr := ⟨.valueError, s!"null buffer pointer in {function}"⟩

def unsupportedSize (type : String) (size : Nat) : PyErr :=
  ⟨.typeError, s!"unsupported {type} size: {size} bytes"⟩

def integerOverflow (value type : String) (field : FieldInfo) : PyErr :=
  ⟨.overflowError,
    s!"integer overflow: value {value} does not fit in {type} for field '{field.name}'"⟩

def writeIntToBuffer (p : Platform) (rowPtr : Int) (field : FieldInfo) (val : Int64) :
    Except PyErr (List (Int × UInt8)) := do
  require (rowPtr ≠ 0) (nullBuffer "write_int_to_buffer")
  let dst := rowPtr + field.offset
  let narrow (width : Nat) (type : String) : Except PyErr (List (Int × UInt8)) := do
    require (-2 ^ (8 * width - 1) ≤ val.toInt ∧ val.toInt ≤ 2 ^ (8 * width - 1) - 1)
      (integerOverflow (toString val) type field)
    return store dst (toBytes p.endian width val.toUInt64.toNat)
  match field.baseItemsize with
  | 1 => narrow 1 "i8"
  | 2 => narrow 2 "i16"
  | 4 => narrow 4 "i32"
  | 8 => return store dst (toBytes p.endian 8 val.toUInt64.toNat)
  | s => .error (unsupportedSize "int" s)

def writeUintToBuffer (p : Platform) (rowPtr : Int) (field : FieldInfo) (val : UInt64) :
    Except PyErr (List (Int × UInt8)) := do
  require (rowPtr ≠ 0) (nullBuffer "write_uint_to_buffer")
  let dst := rowPtr + field.offset
  let narrow (width : Nat) (type : String) : Except PyErr (List (Int × UInt8)) := do
    require (val.toNat ≤ 2 ^ (8 * width) - 1) (integerOverflow (toString val) type field)
    return store dst (toBytes p.endian width val.toNat)
  match field.baseItemsize with
  | 1 => narrow 1 "u8"
  | 2 => narrow 2 "u16"
  | 4 => narrow 4 "u32"
  | 8 => return store dst (toBytes p.endian 8 val.toNat)
  | s => .error (unsupportedSize "uint" s)

/-- `f32::MAX`, an integer. -/
def f32Max : Int := (2 ^ 24 - 1) * 2 ^ 104

def writeFloatToBuffer (p : Platform) (rowPtr : Int) (field : FieldInfo) (val : F64) :
    Except PyErr (List (Int × UInt8)) := do
  require (rowPtr ≠ 0) (nullBuffer "write_float_to_buffer")
  let dst := rowPtr + field.offset
  match field.baseItemsize with
  | 4 => do
    require (¬(val.isFinite ∧ (val.gtInt f32Max ∨ val.ltInt (-f32Max)))) ⟨.overflowError,
      s!"float overflow: value {val.display} does not fit in f32 for field '{field.name}'"⟩
    return store dst (toBytes p.endian 4 val.toF32.bits.toNat)
  | 8 => return store dst (toBytes p.endian 8 val.bits.toNat)
  -- no range check: `half::f16::from_f64` decides what becomes of large values
  | 2 => return store dst (toBytes p.endian 2 (p.halfFromF64 val).toNat)
  | s => .error (unsupportedSize "float" s)

/-- The data is truncated to the field; what it does not cover stays as it was. -/
def writeBytesToBuffer (rowPtr : Int) (field : FieldInfo) (data : List UInt8) :
    Except PyErr (List (Int × UInt8)) := do
  require (rowPtr ≠ 0) (nullBuffer "write_bytes_to_buffer")
  let copyLen := min data.length field.itemsize
  return store (rowPtr + field.offset) (data.take copyLen)

/-- `float_value_to_f64`. -/
def floatValueToF64 : FloatValue → F64
  | .f64 bits => ⟨bits⟩
  | .f32 bits => F32.toF64 ⟨bits⟩

def cannotWrite (what : String) (field : FieldInfo) : PyErr :=
  ⟨.valueError, s!"cannot write {what} field '{field.name}'"⟩

def cannotWriteType (what : String) (field : FieldInfo) : PyErr :=
  ⟨.typeError, s!"cannot write {what} field '{field.name}'"⟩

def nonNegativeU64 (v : Int64) (field : FieldInfo) : Except PyErr UInt64 := do
  require (0 ≤ v.toInt) (cannotWrite s!"negative integer {v} to unsigned" field)
  return v.toUInt64

def nonNegativeF64ToU64 (v : F64) (field : FieldInfo) : Except PyErr UInt64 := do
  require (v.isFinite = true) (cannotWrite s!"non-finite float {v.display} to unsigned" field)
  require (v.ltInt 0 = false) (cannotWrite s!"negative float {v.display} to unsigned" field)
  require (v.geInt (2 ^ 64) = false)
    (cannotWrite s!"out-of-range float {v.display} to unsigned" field)
  return v.toU64

def finiteF64ToI64 (v : F64) (field : FieldInfo) : Except PyErr Int64 := do
  require (v.isFinite = true) (cannotWrite s!"non-finite float {v.display} to integer" field)
  require (v.ltInt (-2 ^ 63) = false ∧ v.geInt (2 ^ 63) = false)
    (cannotWrite s!"out-of-range float {v.display} to integer" field)
  return v.toI64

def writeValueToBuffer (p : Platform) (rowPtr : Int) (field : FieldInfo) (value : Value) :
    Except PyErr (List (Int × UInt8)) :=
  match value with
  | .int v =>
    match field.kind with
    | .int => writeIntToBuffer p rowPtr field v
    | .uint => do
      let u ← nonNegativeU64 v field
      writeUintToBuffer p rowPtr field u
    | .float => writeFloatToBuffer p rowPtr field (F64.ofInt v.toInt)
    | _ => .error (cannotWriteType "integer to bytes" field)
  | .float fv =>
    let v := floatValueToF64 fv
    match field.kind with
    | .float => writeFloatToBuffer p rowPtr field v
    | .int => do
      let i ← finiteF64ToI64 v field
      writeIntToBuffer p rowPtr field i
    | .uint => do
      let u ← nonNegativeF64ToU64 v field
      writeUintToBuffer p rowPtr field u
    | _ => .error (cannotWriteType "float to bytes" field)
  | .bool b =>
    let iv : Int64 := if b then 1 else 0
    match field.kind with
    | .int => writeIntToBuffer p rowPtr field iv
    | .uint => writeUintToBuffer p rowPtr field iv.toUInt64
    | .float => writeFloatToBuffer p rowPtr field (F64.ofInt iv.toInt)
    | _ => .error (cannotWriteType "bool to bytes" field)
  | .blob bytes =>
    match field.kind with
    | .fixedBytes | .voidBytes => writeBytesToBuffer rowPtr field bytes
    | _ =>
      -- a sub-array of numbers takes its bytes as they are
      if field.itemsize > field.baseItemsize then writeBytesToBuffer rowPtr field bytes
      else .error (cannotWriteType "bytes to numeric" field)
  | .string s =>
    match field.kind with
    | .fixedBytes | .voidBytes => writeBytesToBuffer rowPtr field s.toUTF8.toList
    | _ => .error (cannotWriteType "string to numeric" field)
  | .nil => .ok []
  | _ => .error ⟨.typeError,
      s!"unsupported Aerospike value type for numpy field '{field.name}'"⟩

/-- The base widths that the numeric writers support. -/
def numericWidth : DtypeKind → Nat → Bool
  | .int, w | .uint, w => w ∈ [1, 2, 4, 8]
  | .float, w => w ∈ [2, 4, 8]
  | .fixedBytes, _ | .voidBytes, _ => false

theorem numericWidth_int {w : Nat} :
    numericWidth .int w = true ↔ w = 1 ∨ w = 2 ∨ w = 4 ∨ w = 8 := by
  simp [numericWidth]

theorem numericWidth_uint {w : Nat} :
    numericWidth .uint w = true ↔ w = 1 ∨ w = 2 ∨ w = 4 ∨ w = 8 := by
  simp [numericWidth]

theorem numericWidth_float {w : Nat} : numericWidth .float w = true ↔ w = 2 ∨ w = 4 ∨ w = 8 := by
  simp [numericWidth]

/-- The numbers that a column of integers holds. -/
def InRange : DtypeKind → Nat → Int → Prop
  | .int, width, n => -2 ^ (8 * width - 1) ≤ n ∧ n < 2 ^ (8 * width - 1)
  | _, width, n => 0 ≤ n ∧ n < 2 ^ (8 * width)

theorem inRange_zero (kind : DtypeKind) (width : Nat) : InRange kind width 0 := by
  have hpos : ∀ k : Nat, (0 : Int) < 2 ^ k := fun k => Int.pow_pos (by decide)
  cases kind with
  | int =>
    have hhalf := hpos (8 * width - 1)
    exact ⟨by omega, hhalf⟩
  | _ => exact ⟨Int.le_refl 0, hpos (8 * width)⟩

/-- `f32::MAX` bounds the finite numbers of a column of 4 bytes. -/
def PassesFloatCheck (width : Nat) (x : F64) : Prop :=
  width = 4 → ¬(x.isFinite = true ∧ (x.gtInt f32Max = true ∨ x.ltInt (-f32Max) = true))

/-- The bits that a float is stored as. -/
def floatBits (p : Platform) (width : Nat) (x : F64) : Nat :=
  match width with
  | 2 => (p.halfFromF64 x).toNat
  | 4 => x.toF32.bits.toNat
  | _ => x.bits.toNat

theorem require_bind_pure_eq_ok {α : Type} {q : Prop} [Decidable q] {e : PyErr} {a b : α} :
    (require q e >>= fun _ => pure a) = .ok b ↔ q ∧ b = a := by
  rw [bind_eq_ok]
  constructor
  · intro h
    obtain ⟨_, hq, hok⟩ := h
    exact ⟨require_eq_ok.mp hq, (Except.ok.inj hok).symm⟩
  · intro h
    exact ⟨(), require_eq_ok.mpr h.1, congrArg Except.ok h.2.symm⟩

section Writers

variable {p : Platform} {rowPtr : Int} {f : FieldInfo} {ws : List (Int × UInt8)}

/-- Every writer checks the pointer first. -/
theorem nonnull_bind_eq_ok {e : PyErr} {k : Unit → Except PyErr (List (Int × UInt8))} :
    (require (rowPtr ≠ 0) e >>= k) = .ok ws ↔ rowPtr ≠ 0 ∧ k () = .ok ws := by
  rw [bind_eq_ok]
  constructor
  · intro h
    obtain ⟨_, hrow, hk⟩ := h
    exact ⟨require_eq_ok.mp hrow, hk⟩
  · intro h
    exact ⟨(), require_eq_ok.mpr h.1, h.2⟩

theorem writeIntToBuffer_eq_ok {n : Int64} : writeIntToBuffer p rowPtr f n = .ok ws ↔
    rowPtr ≠ 0 ∧ numericWidth .int f.baseItemsize = true ∧
      InRange .int f.baseItemsize n.toInt ∧
      ws = store (rowPtr + f.offset) (toBytes p.endian f.baseItemsize n.toUInt64.toNat) := by
  rw [writeIntToBuffer, nonnull_bind_eq_ok, numericWidth_int]
  apply and_congr_right
  intro _
  dsimp only
  split
  case h_1 hw | h_2 hw | h_3 hw =>
    rw [require_bind_pure_eq_ok, hw]
    unfold InRange
    constructor <;> intro h
    · exact ⟨by omega, ⟨h.1.1, by omega⟩, h.2⟩
    · exact ⟨⟨h.2.1.1, by omega⟩, h.2.2⟩
  case h_4 hw =>
    have hle := n.le_toInt
    have hlt := n.toInt_lt
    rw [hw]
    unfold InRange
    constructor <;> intro h
    · exact ⟨by omega, ⟨by omega, by omega⟩, (Except.ok.inj h).symm⟩
    · exact congrArg Except.ok h.2.2.symm
  case h_5 =>
    constructor <;> intro h
    · cases h
    · rcases h.1 with hw | hw | hw | hw <;> contradiction

theorem writeUintToBuffer_eq_ok {n : UInt64} : writeUintToBuffer p rowPtr f n = .ok ws ↔
    rowPtr ≠ 0 ∧ numericWidth .uint f.baseItemsize = true ∧
      InRange .uint f.baseItemsize n.toNat ∧
      ws = store (rowPtr + f.offset) (toBytes p.endian f.baseItemsize n.toNat) := by
  rw [writeUintToBuffer, nonnull_bind_eq_ok, numericWidth_uint]
  apply and_congr_right
  intro _
  dsimp only
  split
  case h_1 hw | h_2 hw | h_3 hw =>
    rw [require_bind_pure_eq_ok, hw]
    unfold InRange
    constructor <;> intro h
    · exact ⟨by omega, ⟨by omega, by omega⟩, h.2⟩
    · exact ⟨by omega, h.2.2⟩
  case h_4 hw =>
    have hlt : n.toNat < 2 ^ 64 := n.toNat_lt
    rw [hw]
    unfold InRange
    constructor <;> intro h
    · exact ⟨by omega, ⟨by omega, by omega⟩, (Except.ok.inj h).symm⟩
    · exact congrArg Except.ok h.2.2.symm
  case h_5 =>
    constructor <;> intro h
    · cases h
    · rcases h.1 with hw | hw | hw | hw <;> contradiction

theorem writeFloatToBuffer_eq_ok {x : F64} : writeFloatToBuffer p rowPtr f x = .ok ws ↔
    rowPtr ≠ 0 ∧ numericWidth .float f.baseItemsize = true ∧
      PassesFloatCheck f.baseItemsize x ∧
      ws = store (rowPtr + f.offset) (toBytes p.endian f.baseItemsize
        (floatBits p f.baseItemsize x)) := by
  rw [writeFloatToBuffer, nonnull_bind_eq_ok, numericWidth_float]
  apply and_congr_right
  intro _
  dsimp only
  split
  case h_1 hw =>
    rw [require_bind_pure_eq_ok, hw]
    constructor <;> intro h
    · exact ⟨by omega, fun _ => h.1, h.2⟩
    · exact ⟨h.2.1 rfl, h.2.2⟩
  case h_2 hw | h_3 hw =>
    rw [hw]
    constructor <;> intro h
    · exact ⟨by omega, fun hfour => absurd hfour (by decide), (Except.ok.inj h).symm⟩
    · exact congrArg Except.ok h.2.2.symm
  case h_4 =>
    constructor <;> intro h
    · cases h
    · rcases h.1 with hw | hw | hw <;> contradiction

theorem writeBytesToBuffer_eq_ok {data : List UInt8} : writeBytesToBuffer rowPtr f data = .ok ws ↔
    rowPtr ≠ 0 ∧ ws = store (rowPtr + f.offset) (data.take f.itemsize) := by
  rw [writeBytesToBuffer, nonnull_bind_eq_ok]
  apply and_congr_right
  intro _
  have htake : data.take (min data.length f.itemsize) = data.take f.itemsize := by
    rw [Nat.min_comm, ← List.take_take, List.take_length]
  constructor <;> intro h
  · rw [← htake]
    exact (Except.ok.inj h).symm
  · rw [h, ← htake]
    rfl

end Writers

/-- A scalar write: the whole base width, from the start of the field on. -/
def ScalarExtent (rowPtr : Int) (field : FieldInfo) (kind : DtypeKind)
    (ws : List (Int × UInt8)) : Prop :=
  numericWidth kind field.baseItemsize = true ∧
    ∃ bytes : List UInt8, ws = store (rowPtr + field.offset) bytes ∧
      bytes.length = field.baseItemsize

theorem scalarExtent_store {rowPtr : Int} {field : FieldInfo} {kind : DtypeKind}
    (hkind : numericWidth kind field.baseItemsize = true) (endian : Endian) (n : Nat) :
    ScalarExtent rowPtr field kind
      (store (rowPtr + field.offset) (toBytes endian field.baseItemsize n)) :=
  ⟨hkind, _, rfl, length_toBytes _ _ _⟩

theorem writeIntToBuffer_ok {p : Platform} {rowPtr : Int} {field : FieldInfo} {val : Int64}
    {ws : List (Int × UInt8)} (h : writeIntToBuffer p rowPtr field val = .ok ws) :
    ScalarExtent rowPtr field .int ws := by
  obtain ⟨-, hwidth, -, rfl⟩ := writeIntToBuffer_eq_ok.mp h
  exact scalarExtent_store hwidth _ _

theorem writeUintToBuffer_ok {p : Platform} {rowPtr : Int} {field : FieldInfo} {val : UInt64}
    {ws : List (Int × UInt8)} (h : writeUintToBuffer p rowPtr field val = .ok ws) :
    ScalarExtent rowPtr field .uint ws := by
  obtain ⟨-, hwidth, -, rfl⟩ := writeUintToBuffer_eq_ok.mp h
  exact scalarExtent_store hwidth _ _

theorem writeFloatToBuffer_ok {p : Platform} {rowPtr : Int} {field : FieldInfo} {val : F64}
    {ws : List (Int × UInt8)} (h : writeFloatToBuffer p rowPtr field val = .ok ws) :
    ScalarExtent rowPtr field .float ws := by
  obtain ⟨-, hwidth, -, rfl⟩ := writeFloatToBuffer_eq_ok.mp h
  exact scalarExtent_store hwidth _ _

/-- A copy of bytes never leaves the field. -/
theorem writeBytesToBuffer_ok {rowPtr : Int} {field : FieldInfo} {data : List UInt8}
    {ws : List (Int × UInt8)} (h : writeBytesToBuffer rowPtr field data = .ok ws) :
    ∃ bytes : List UInt8, ws = store (rowPtr + field.offset) bytes ∧
      bytes.length ≤ field.itemsize := by
  obtain ⟨-, rfl⟩ := writeBytesToBuffer_eq_ok.mp h
  refine ⟨_, rfl, ?_⟩
  rw [List.length_take]
  omega

/-- The dispatch on the kind of the field, for a value that byte fields refuse. -/
theorem scalarExtent_of_kind {rowPtr : Int} {field : FieldInfo} {ws : List (Int × UInt8)}
    {int uint float : Except PyErr (List (Int × UInt8))} {e : PyErr}
    (hint : int = .ok ws → ScalarExtent rowPtr field .int ws)
    (huint : uint = .ok ws → ScalarExtent rowPtr field .uint ws)
    (hfloat : float = .ok ws → ScalarExtent rowPtr field .float ws)
    (h : (match field.kind with
      | .int => int
      | .uint => uint
      | .float => float
      | _ => .error e) = .ok ws) : ScalarExtent rowPtr field field.kind ws := by
  cases hkind : field.kind with
  | int =>
    rw [hkind] at h
    exact hint h
  | uint =>
    rw [hkind] at h
    exact huint h
  | float =>
    rw [hkind] at h
    exact hfloat h
  | fixedBytes | voidBytes =>
    rw [hkind] at h
    cases h

/-- A value is stored from the start of its field on: as bytes within the itemsize, or
as one number of the base width. -/
theorem writeValueToBuffer_ok {p : Platform} {rowPtr : Int} {field : FieldInfo} {value : Value}
    {ws : List (Int × UInt8)} (h : writeValueToBuffer p rowPtr field value = .ok ws) :
    ScalarExtent rowPtr field field.kind ws ∨
      ∃ bytes : List UInt8, ws = store (rowPtr + field.offset) bytes ∧
        bytes.length ≤ field.itemsize := by
  unfold writeValueToBuffer at h
  cases value with
  | int v =>
    refine Or.inl (scalarExtent_of_kind writeIntToBuffer_ok (fun hu => ?_) writeFloatToBuffer_ok h)
    obtain ⟨u, -, hu⟩ := bind_eq_ok.mp hu
    exact writeUintToBuffer_ok hu
  | float fv =>
    left
    cases hkind : field.kind with
    | int =>
      rw [hkind] at h
      obtain ⟨i, -, h⟩ := bind_eq_ok.mp h
      exact writeIntToBuffer_ok h
    | uint =>
      rw [hkind] at h
      obtain ⟨u, -, h⟩ := bind_eq_ok.mp h
      exact writeUintToBuffer_ok h
    | float =>
      rw [hkind] at h
      exact writeFloatToBuffer_ok h
    | fixedBytes | voidBytes =>
      rw [hkind] at h
      cases h
  | bool b =>
    exact Or.inl (scalarExtent_of_kind writeIntToBuffer_ok writeUintToBuffer_ok
      writeFloatToBuffer_ok h)
  | blob bytes =>
    right
    dsimp only at h
    split at h
    · exact writeBytesToBuffer_ok h
    · exact writeBytesToBuffer_ok h
    · split at h
      · exact writeBytesToBuffer_ok h
      · cases h
  | string s =>
    right
    dsimp only at h
    split at h
    · exact writeBytesToBuffer_ok h
    · exact writeBytesToBuffer_ok h
    · cases h
  | nil =>
    right
    obtain rfl := Except.ok.inj h
    exact ⟨[], rfl, Nat.zero_le _⟩
  | _ => cases h

/-- The integer 0 is stored at every supported width. -/
theorem writeValueToBuffer_zero (p : Platform) {rowPtr : Int} (hrow : rowPtr ≠ 0)
    {field : FieldInfo} (hwidth : numericWidth field.kind field.baseItemsize = true) :
    ∃ ws, writeValueToBuffer p rowPtr field (.int 0) = .ok ws ∧
      ScalarExtent rowPtr field field.kind ws := by
  cases hkind : field.kind with
  | int =>
    rw [hkind] at hwidth
    have hws := (@writeIntToBuffer_eq_ok p rowPtr field _ 0).mpr
      ⟨hrow, hwidth, inRange_zero _ _, rfl⟩
    refine ⟨_, ?_, writeIntToBuffer_ok hws⟩
    unfold writeValueToBuffer
    rw [hkind]
    exact hws
  | uint =>
    rw [hkind] at hwidth
    have hws := (@writeUintToBuffer_eq_ok p rowPtr field _ 0).mpr
      ⟨hrow, hwidth, inRange_zero _ _, rfl⟩
    refine ⟨_, ?_, writeUintToBuffer_ok hws⟩
    unfold writeValueToBuffer
    rw [hkind]
    show nonNegativeU64 0 field >>= writeUintToBuffer p rowPtr field = .ok _
    rw [nonNegativeU64]
    exact hws
  | float =>
    rw [hkind] at hwidth
    have hcheck : PassesFloatCheck field.baseItemsize (F64.ofInt 0) := by
      intro _
      decide +kernel
    have hws := (@writeFloatToBuffer_eq_ok p rowPtr field _ (F64.ofInt 0)).mpr
      ⟨hrow, hwidth, hcheck, rfl⟩
    refine ⟨_, ?_, writeFloatToBuffer_ok hws⟩
    unfold writeValueToBuffer
    rw [hkind]
    exact hws
  | fixedBytes | voidBytes =>
    rw [hkind] at hwidth
    cases hwidth

def moved (d : Int) (ws : List (Int × UInt8)) : List (Int × UInt8) :=
  ws.map fun w => (w.1 + d, w.2)

theorem moved_store (d dst : Int) (bytes : List UInt8) :
    moved d (store dst bytes) = store (dst + d) bytes := by
  unfold moved store
  rw [List.mapIdx_eq_zipIdx_map, List.mapIdx_eq_zipIdx_map, List.map_map]
  congr 1
  funext e
  show (dst + e.2 + d, e.1) = (dst + d + e.2, e.1)
  rw [Int.add_right_comm]

/-- `w'` is `w` moved from one row to another. -/
def Moves (rowPtr rowPtr' : Int) (w w' : Except PyErr (List (Int × UInt8))) : Prop :=
  w' = moved (rowPtr' - rowPtr) <$> w

theorem moves_store (rowPtr rowPtr' : Int) (field : FieldInfo) (bytes : List UInt8) :
    Moves rowPtr rowPtr' (.ok (store (rowPtr + field.offset) bytes))
      (.ok (store (rowPtr' + field.offset) bytes)) := by
  show _ = Except.ok (moved _ _)
  rw [moved_store]
  congr 2
  omega

theorem moves_error (rowPtr rowPtr' : Int) (e : PyErr) :
    Moves rowPtr rowPtr' (.error e) (.error e) := rfl

theorem moves_bind {α : Type} {rowPtr rowPtr' : Int} (x : Except PyErr α)
    {f f' : α → Except PyErr (List (Int × UInt8))} (h : ∀ a, Moves rowPtr rowPtr' (f a) (f' a)) :
    Moves rowPtr rowPtr' (x >>= f) (x >>= f') := by
  cases x with
  | error e => exact moves_error rowPtr rowPtr' e
  | ok a => exact h a

section Moves

variable {p : Platform} {rowPtr rowPtr' : Int} {field : FieldInfo}

theorem writeIntToBuffer_moves (hrow : rowPtr ≠ 0) (hrow' : rowPtr' ≠ 0) (val : Int64) :
    Moves rowPtr rowPtr' (writeIntToBuffer p rowPtr field val)
      (writeIntToBuffer p rowPtr' field val) := by
  rw [writeIntToBuffer, writeIntToBuffer, require_bind hrow, require_bind hrow']
  dsimp only
  split
  case h_1 | h_2 | h_3 => exact moves_bind _ fun _ => moves_store _ _ _ _
  case h_4 => exact moves_store _ _ _ _
  case h_5 => exact moves_error _ _ _

theorem writeUintToBuffer_moves (hrow : rowPtr ≠ 0) (hrow' : rowPtr' ≠ 0) (val : UInt64) :
    Moves rowPtr rowPtr' (writeUintToBuffer p rowPtr field val)
      (writeUintToBuffer p rowPtr' field val) := by
  rw [writeUintToBuffer, writeUintToBuffer, require_bind hrow, require_bind hrow']
  dsimp only
  split
  case h_1 | h_2 | h_3 => exact moves_bind _ fun _ => moves_store _ _ _ _
  case h_4 => exact moves_store _ _ _ _
  case h_5 => exact moves_error _ _ _

theorem writeFloatToBuffer_moves (hrow : rowPtr ≠ 0) (hrow' : rowPtr' ≠ 0) (val : F64) :
    Moves rowPtr rowPtr' (writeFloatToBuffer p rowPtr field val)
      (writeFloatToBuffer p rowPtr' field val) := by
  rw [writeFloatToBuffer, writeFloatToBuffer, require_bind hrow, require_bind hrow']
  dsimp only
  split
  case h_1 => exact moves_bind _ fun _ => moves_store _ _ _ _
  case h_2 | h_3 => exact moves_store _ _ _ _
  case h_4 => exact moves_error _ _ _

theorem writeBytesToBuffer_moves (hrow : rowPtr ≠ 0) (hrow' : rowPtr' ≠ 0) (data : List UInt8) :
    Moves rowPtr rowPtr' (writeBytesToBuffer rowPtr field data)
      (writeBytesToBuffer rowPtr' field data) := by
  rw [writeBytesToBuffer, writeBytesToBuffer, require_bind hrow, require_bind hrow']
  exact moves_store _ _ _ _

/-- Where the row is does not matter to a write, as long as it is somewhere. -/
theorem writeValueToBuffer_moves (hrow : rowPtr ≠ 0) (hrow' : rowPtr' ≠ 0) (value : Value) :
    Moves rowPtr rowPtr' (writeValueToBuffer p rowPtr field value)
      (writeValueToBuffer p rowPtr' field value) := by
  unfold writeValueToBuffer
  cases value with
  | int v =>
    cases field.kind with
    | int => exact writeIntToBuffer_moves hrow hrow' v
    | uint => exact moves_bind _ (writeUintToBuffer_moves hrow hrow')
    | float => exact writeFloatToBuffer_moves hrow hrow' _
    | fixedBytes | voidBytes => exact moves_error _ _ _
  | float fv =>
    cases field.kind with
    | int => exact moves_bind _ (writeIntToBuffer_moves hrow hrow')
    | uint => exact moves_bind _ (writeUintToBuffer_moves hrow hrow')
    | float => exact writeFloatToBuffer_moves hrow hrow' _
    | fixedBytes | voidBytes => exact moves_error _ _ _
  | bool b =>
    cases field.kind with
    | int => exact writeIntToBuffer_moves hrow hrow' _
    | uint => exact writeUintToBuffer_moves hrow hrow' _
    | float => exact writeFloatToBuffer_moves hrow hrow' _
    | fixedBytes | voidBytes => exact moves_error _ _ _
  | blob bytes =>
    dsimp only
    split
    · exact writeBytesToBuffer_moves hrow hrow' bytes
    · exact writeBytesToBuffer_moves hrow hrow' bytes
    · split
      · exact writeBytesToBuffer_moves hrow hrow' bytes
      · exact moves_error _ _ _
  | string s =>
    dsimp only
    split
    · exact writeBytesToBuffer_moves hrow hrow' _
    · exact writeBytesToBuffer_moves hrow hrow' _
    · exact moves_error _ _ _
  | nil => rfl
  | _ => exact moves_error _ _ _

end Moves

def InField (rowPtr : Int) (field : FieldInfo) (addr : Int) : Prop :=
  rowPtr + field.offset ≤ addr ∧ addr < rowPtr + field.offset + field.itemsize

theorem inField_of_store {rowPtr : Int} {field : FieldInfo} {bytes : List UInt8}
    (hlen : bytes.length ≤ field.itemsize) :
    ∀ w ∈ store (rowPtr + field.offset) bytes, InField rowPtr field w.1 := by
  intro w hw
  have hin := mem_store hw
  unfold InField
  omega

/-- Where a number fits its field, every write does. -/
theorem writeValueToBuffer_inField {p : Platform} {rowPtr : Int} {field : FieldInfo} {value : Value}
    {ws : List (Int × UInt8)} (hbase : field.baseItemsize ≤ field.itemsize)
    (h : writeValueToBuffer p rowPtr field value = .ok ws) :
    ∀ w ∈ ws, InField rowPtr field w.1 := by
  rcases writeValueToBuffer_ok h with ⟨-, bytes, rfl, hlen⟩ | ⟨bytes, rfl, hlen⟩
  · exact inField_of_store (by omega)
  · exact inField_of_store hlen

theorem itemsize_of_shape {d : FieldDtype} (h : 0 ∉ d.shape) : d.base.itemsize ≤ d.itemsize := by
  have hprod : 0 < d.shape.prod := by
    rw [Nat.pos_iff_ne_zero, ne_eq, List.prod_eq_zero_iff]
    exact h
  exact Nat.le_mul_of_pos_right _ hprod

/-- Every write into a row of an accepted dtype stays inside its field exactly when no
numeric field of a supported width has a zero dimension. -/
theorem writeValueToBuffer_inside_iff {p : Platform} {d : Dtype} {infos : List FieldInfo}
    {rowStride : Nat} (haccept : parseDtypeFields p.endian d = .ok (infos, rowStride)) :
    (∀ info ∈ infos, ∀ rowPtr value ws, writeValueToBuffer p rowPtr info value = .ok ws →
      ∀ w ∈ ws, InField rowPtr info w.1) ↔
    ∀ f ∈ d.fields.getD [], ∀ kind, dtypeKind f = .ok kind →
      numericWidth kind f.dtype.base.itemsize = true → 0 ∉ f.dtype.shape := by
  obtain ⟨rfl, fields, hfields, hall⟩ := parseDtypeFields_ok haccept
  rw [hfields, Option.getD_some]
  constructor
  · intro hinside f hf kind hkind hwidth hzero
    obtain ⟨info, hinfo, hdesc⟩ := exists_mem_of_forall₂ hall hf
    obtain rfl := Except.ok.inj (hdesc.kind.symm.trans hkind)
    rw [← hdesc.baseItemsize] at hwidth
    -- the itemsize is 0, but the integer 0 is stored with its whole base width
    have hitem : info.itemsize = 0 := by
      rw [hdesc.itemsize, FieldDtype.itemsize, List.prod_eq_zero_iff.mpr hzero, Nat.mul_zero]
    obtain ⟨ws, hws, -, bytes, rfl, hlen⟩ := writeValueToBuffer_zero p (by decide : (1 : Int) ≠ 0) hwidth
    cases bytes with
    | nil =>
      rw [← hlen] at hwidth
      cases hk : info.kind <;> rw [hk] at hwidth <;> cases hwidth
    | cons b bs =>
      have hmem : (1 + (info.offset : Int), b) ∈ store (1 + info.offset) (b :: bs) :=
        List.mem_mapIdx.mpr ⟨0, by simp, by simp⟩
      have hin := hinside info hinfo 1 (.int 0) _ hws _ hmem
      unfold InField at hin
      omega
  · intro hshape info hinfo rowPtr value ws hws
    obtain ⟨f, hf, hdesc⟩ := exists_mem_of_forall₂ hall.flip hinfo
    rcases writeValueToBuffer_ok hws with ⟨hwidth, bytes, rfl, hlen⟩ | ⟨bytes, rfl, hlen⟩
    · refine inField_of_store ?_
      rw [hdesc.baseItemsize] at hwidth hlen
      have hle := itemsize_of_shape (hshape f hf info.kind hdesc.kind hwidth)
      rw [hlen, hdesc.itemsize]
      exact hle
    · exact inField_of_store hlen

def baseI8 : BaseDtype := ⟨"i", "=", 8, "int64"⟩

/-- The dtype `[('n', 'i8'), ('vec', '(2,)f4')]`. -/
def numberAndVector : Dtype where
  fields := some [⟨"n", ⟨baseI8, [], "int64"⟩, 0⟩,
    ⟨"vec", ⟨⟨"f", "=", 4, "float32"⟩, [2], "('<f4', (2,))"⟩, 8⟩]
  itemsize := 16

theorem writeValueToBuffer_inside_iff_numberAndVector :
    let infos : List FieldInfo := [⟨"n", 0, 8, 8, .int⟩, ⟨"vec", 8, 8, 4, .float⟩]
    parseDtypeFields .little numberAndVector = .ok (infos, 16) ∧
    ∀ info ∈ infos, ∀ rowPtr value ws, writeValueToBuffer .littleEndian rowPtr info value =
      .ok ws → ∀ w ∈ ws, InField rowPtr info w.1 := by
  have haccept : parseDtypeFields .little numberAndVector =
      .ok ([⟨"n", 0, 8, 8, .int⟩, ⟨"vec", 8, 8, 4, .float⟩], 16) := by decide +kernel
  refine ⟨haccept, (writeValueToBuffer_inside_iff haccept).mpr ?_⟩
  intro f hf kind _ _
  simp only [numberAndVector, Option.getD_some, List.mem_cons, List.not_mem_nil, or_false] at hf
  rcases hf with rfl | rfl
  · decide
  · decide

/-- The dtype `[('n', 'i8'), ('none', '(0,)i8')]`: the second field is empty. -/
def zeroDimension : Dtype where
  fields := some [⟨"n", ⟨baseI8, [], "int64"⟩, 0⟩,
    ⟨"none", ⟨baseI8, [0], "('<i8', (0,))"⟩, 8⟩]
  itemsize := 8

/-- An integer for the empty field at the end of the row is stored past the row. -/
theorem writeValueToBuffer_past_the_row :
    let empty : FieldInfo := ⟨"none", 8, 0, 8, .int⟩
    parseDtypeFields .little zeroDimension = .ok ([⟨"n", 0, 8, 8, .int⟩, empty], 8) ∧
    writeValueToBuffer .littleEndian 1000 empty (.int 7) = .ok [(1008, 7), (1009, 0), (1010, 0),
      (1011, 0), (1012, 0), (1013, 0), (1014, 0), (1015, 0)] ∧
    ¬ InField 1000 empty 1008 := by
  refine ⟨by decide +kernel, by decide +kernel, ?_⟩
  simp [InField]

end AerospikePy.Numpy
