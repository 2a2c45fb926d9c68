import AerospikePy.Numpy.WriteBuffer

/-!
# Reading values out of a row

The readers load through a raw pointer, in the memory `mem`. A computation logs the
address of every byte it loads, also where it fails later.
-/

namespace AerospikePy.Numpy

open AerospikePy.Core
open AerospikePy.Lib.Fallible

abbrev Reading (α : Type) := Logged Int PyErr α

def addresses (src : Int) (len : Nat) : List Int := (List.range len).map fun i => src + (i : Nat)

theorem mem_addresses {src a : Int} {len : Nat} :
    a ∈ addresses src len ↔ ∃ k < len, a = src + (k : Nat) := by
  simp only [addresses, List.mem_map, List.mem_range, eq_comm]

theorem addresses_eq_nil {src : Int} {len : Nat} : addresses src len = [] ↔ len = 0 := by
  simp [addresses]

def load (mem : Int → UInt8) (src : Int) (len : Nat) : Reading (List UInt8) :=
  ⟨addresses src len, .ok ((addresses src len).map mem)⟩

/-- The number stored in the bytes. -/
def ofBytes (endian : Endian) (bytes : List UInt8) : Nat :=
  let little := match endian with
    | .little => bytes
    | .big => bytes.reverse
  little.foldr (fun b n => b.toNat + 256 * n) 0

/-- Two's complement. -/
def signExtend (width n : Nat) : Int :=
  if n < 2 ^ (8 * width - 1) then n else n - 2 ^ (8 * width)

def isNumeric : DtypeKind → Bool
  | .int | .uint | .float => true
  | .fixedBytes | .voidBytes => false

def uintToI64 (v : Nat) (field : FieldInfo) : Except PyErr Int64 := do
  require (v < 2 ^ 63) ⟨.overflowError,
    s!"unsigned value {v} in field '{field.name}' exceeds signed 64-bit Aerospike integer range"⟩
  return .ofNat v

/-- The scalar arms of `read_value_from_buffer`. -/
def readScalar (p : Platform) (mem : Int → UInt8) (src : Int) (field : FieldInfo) :
    Reading Value :=
  let number (width : Nat) : Reading Nat := do
    let bytes ← load mem src width
    return ofBytes p.endian bytes
  let float (v : F64) : Value := .float (.f64 v.bits)
  match field.kind with
  | .int =>
    let signed (width : Nat) : Reading Value := do
      let n ← number width
      return .int (.ofInt (signExtend width n))
    match field.baseItemsize with
    | 1 => signed 1
    | 2 => signed 2
    | 4 => signed 4
    | 8 => signed 8
    | s => Logged.fail (unsupportedSize "int" s)
  | .uint =>
    let unsigned (width : Nat) : Reading Value := do
      let n ← number width
      return .int (.ofNat n)
    match field.baseItemsize with
    | 1 => unsigned 1
    | 2 => unsigned 2
    | 4 => unsigned 4
    | 8 => do
      let n ← number 8
      let v ← Logged.ofExcept (uintToI64 n field)
      return .int v
    | s => Logged.fail (unsupportedSize "uint" s)
  | .float =>
    match field.baseItemsize with
    | 2 => do
      let n ← number 2
      return float (p.halfToF64 (.ofNat n))
    | 4 => do
      let n ← number 4
      return float (F32.toF64 ⟨.ofNat n⟩)
    | 8 => do
      let n ← number 8
      return float ⟨.ofNat n⟩
    | s => Logged.fail (unsupportedSize "float" s)
  | .fixedBytes | .voidBytes => do
    let bytes ← load mem src field.itemsize
    return .blob bytes

def readValueFromBuffer (p : Platform) (mem : Int → UInt8) (rowPtr : Int) (field : FieldInfo) :
    Reading Value :=
  if rowPtr = 0 then Logged.fail (nullBuffer "read_value_from_buffer")
  else
    let src := rowPtr + field.offset
    if isNumeric field.kind ∧ field.itemsize > field.baseItemsize then do
      -- a sub-array of numbers: all of its bytes
      let bytes ← load mem src field.itemsize
      return .blob bytes
    else readScalar p mem src field

/-- Numbers side by side. A sub-array of one of them is described, and read, as a scalar. -/
def isSubArray (f : FieldInfo) : Bool := isNumeric f.kind && decide (f.itemsize > f.baseItemsize)

/-- The number of bytes that reading the field loads; `none` where its width is not
supported. -/
def readWidth (field : FieldInfo) : Option Nat :=
  if isNumeric field.kind ∧ field.itemsize > field.baseItemsize then some field.itemsize
  else if isNumeric field.kind then
    if numericWidth field.kind field.baseItemsize then some field.baseItemsize else none
  else some field.itemsize

/-- The first `len` bytes of a field, in memory order. -/
def fieldBytes (mem : Int → UInt8) (rowPtr : Int) (f : FieldInfo) (len : Nat) : List UInt8 :=
  (addresses (rowPtr + f.offset) len).map mem

@[simp] theorem length_fieldBytes (mem : Int → UInt8) (rowPtr : Int) (f : FieldInfo) (len : Nat) :
    (fieldBytes mem rowPtr f len).length = len := by
  simp [fieldBytes, addresses]

theorem foldr_bytes_lt (bytes : List UInt8) :
    bytes.foldr (fun b n => b.toNat + 256 * n) 0 < 256 ^ bytes.length := by
  induction bytes with
  | nil => decide
  | cons b bytes ih =>
    have hb : b.toNat < 256 := b.toNat_lt
    rw [List.foldr_cons, List.length_cons, Nat.pow_succ]
    omega

theorem ofBytes_lt (endian : Endian) (bytes : List UInt8) :
    ofBytes endian bytes < 256 ^ bytes.length := by
  cases endian with
  | little => exact foldr_bytes_lt bytes
  | big =>
    have h := foldr_bytes_lt bytes.reverse
    rwa [List.length_reverse] at h

def floatOf (p : Platform) (width n : Nat) : F64 :=
  match width with
  | 2 => p.halfToF64 (.ofNat n)
  | 4 => F32.toF64 ⟨.ofNat n⟩
  | _ => ⟨.ofNat n⟩

/-- What is read of a number of a supported width. -/
def numberValue (p : Platform) (f : FieldInfo) (n : Nat) : Except PyErr Value :=
  match f.kind with
  | .int => .ok (.int (.ofInt (signExtend f.baseItemsize n)))
  | .uint => Value.int <$> uintToI64 n f
  | _ => .ok (.float (.f64 (floatOf p f.baseItemsize n).bits))

/-- How the errors name a kind. -/
def kindName : DtypeKind → String
  | .int => "int"
  | .uint => "uint"
  | _ => "float"

/-- What is read of a field with these bytes. -/
def fieldValue (p : Platform) (f : FieldInfo) (bytes : Nat → List UInt8) : Except PyErr Value :=
  if isNumeric f.kind = false ∨ isSubArray f = true then .ok (.blob (bytes f.itemsize))
  else if numericWidth f.kind f.baseItemsize = true then
    numberValue p f (ofBytes p.endian (bytes f.baseItemsize))
  else .error (unsupportedSize (kindName f.kind) f.baseItemsize)

/-- A field is read whole, or as one number, or not at all. -/
inductive ReadAs (f : FieldInfo) : Prop where
  | whole (h : isNumeric f.kind = false ∨ isSubArray f = true)
      (hw : readWidth f = some f.itemsize)
  | number (hnum : isNumeric f.kind = true) (hscalar : isSubArray f = false)
      (hwidth : numericWidth f.kind f.baseItemsize = true) (hw : readWidth f = some f.baseItemsize)
  | unsupported (hnum : isNumeric f.kind = true) (hscalar : isSubArray f = false)
      (hwidth : numericWidth f.kind f.baseItemsize = false) (hw : readWidth f = none)

theorem readAs (f : FieldInfo) : ReadAs f := by
  by_cases hnum : isNumeric f.kind = true
  · by_cases hsub : isSubArray f = true
    · refine .whole (Or.inr hsub) ?_
      simp [readWidth, show isNumeric f.kind = true ∧ f.itemsize > f.baseItemsize by
        simpa [isSubArray] using hsub]
    · have hscalar : ¬(isNumeric f.kind = true ∧ f.itemsize > f.baseItemsize) := by
        simpa [isSubArray] using hsub
      by_cases hwidth : numericWidth f.kind f.baseItemsize = true
      · exact .number hnum (by simpa using hsub) hwidth
          (by rw [readWidth, if_neg hscalar, if_pos hnum, if_pos hwidth])
      · exact .unsupported hnum (by simpa using hsub) (by simpa using hwidth)
          (by rw [readWidth, if_neg hscalar, if_pos hnum, if_neg hwidth])
  · exact .whole (Or.inl (by simpa using hnum)) (by simp [readWidth, hnum])

section Value

variable {p : Platform} {f : FieldInfo} {bytes : Nat → List UInt8}

theorem fieldValue_whole (h : isNumeric f.kind = false ∨ isSubArray f = true) :
    fieldValue p f bytes = .ok (.blob (bytes f.itemsize)) := if_pos h

theorem fieldValue_number (hnum : isNumeric f.kind = true) (hscalar : isSubArray f = false)
    (hwidth : numericWidth f.kind f.baseItemsize = true) :
    fieldValue p f bytes = numberValue p f (ofBytes p.endian (bytes f.baseItemsize)) := by
  rw [fieldValue, if_neg (by simp [hnum, hscalar]), if_pos hwidth]

theorem fieldValue_unsupported (hnum : isNumeric f.kind = true) (hscalar : isSubArray f = false)
    (hwidth : numericWidth f.kind f.baseItemsize = false) :
    fieldValue p f bytes = .error (unsupportedSize (kindName f.kind) f.baseItemsize) := by
  rw [fieldValue, if_neg (by simp [hnum, hscalar]), if_neg (by simp [hwidth])]

end Value

section Number

variable {p : Platform} {mem : Int → UInt8} {src : Int} {f : FieldInfo}

/-- What follows a load and loads no more. -/
theorem load_bind {α : Type} {len : Nat} {k : List UInt8 → Reading α}
    (hk : ∀ bytes, (k bytes).log = []) :
    load mem src len >>= k =
      ⟨addresses src len, (k ((addresses src len).map mem)).result⟩ := by
  refine (Logged.bind_of_ok rfl k).trans ?_
  rw [hk, List.append_nil]
  rfl

theorem number_bind {α : Type} {len : Nat} {g : List UInt8 → Nat} {k : Nat → Reading α}
    (hk : ∀ n, (k n).log = []) :
    (load mem src len >>= fun bytes => pure (g bytes)) >>= k =
      ⟨addresses src len, (k (g ((addresses src len).map mem))).result⟩ := by
  rw [Logged.bind_assoc]
  exact load_bind fun bytes => hk (g bytes)

theorem uintToI64_of_lt {n : Nat} (h : n < 2 ^ 63) : uintToI64 n f = .ok (.ofNat n) := by
  rw [uintToI64, require_bind h]
  rfl

theorem readScalar_number (hwidth : numericWidth f.kind f.baseItemsize = true) :
    readScalar p mem src f = ⟨addresses src f.baseItemsize,
      numberValue p f (ofBytes p.endian ((addresses src f.baseItemsize).map mem))⟩ := by
  have hlt := ofBytes_lt p.endian ((addresses src f.baseItemsize).map mem)
  rw [List.length_map, addresses, List.length_map, List.length_range, ← addresses] at hlt
  unfold readScalar numberValue
  cases hkind : f.kind with
  | int =>
    rw [hkind, numericWidth_int] at hwidth
    rcases hwidth with hw | hw | hw | hw <;> rw [hw] <;> exact number_bind fun _ => rfl
  | uint =>
    rw [hkind, numericWidth_uint] at hwidth
    rcases hwidth with hw | hw | hw | hw <;> rw [hw] at hlt ⊢
    · rw [uintToI64_of_lt (by omega)]
      exact number_bind fun _ => rfl
    · rw [uintToI64_of_lt (by omega)]
      exact number_bind fun _ => rfl
    · rw [uintToI64_of_lt (by omega)]
      exact number_bind fun _ => rfl
    · -- the check of the range comes after the load
      refine (number_bind fun n => ?_).trans ?_
      · exact Logged.log_bind_eq_nil.mpr ⟨rfl, fun _ _ => rfl⟩
      · cases uintToI64 (ofBytes p.endian ((addresses src 8).map mem)) f <;> rfl
  | float =>
    rw [hkind, numericWidth_float] at hwidth
    rcases hwidth with hw | hw | hw <;> rw [hw] <;> exact number_bind fun _ => rfl
  | fixedBytes | voidBytes =>
    rw [hkind] at hwidth
    cases hwidth

theorem readScalar_unsupported (hnum : isNumeric f.kind = true)
    (hwidth : numericWidth f.kind f.baseItemsize = false) :
    readScalar p mem src f = Logged.fail (unsupportedSize (kindName f.kind) f.baseItemsize) := by
  have hnot : ¬ numericWidth f.kind f.baseItemsize = true := by simp [hwidth]
  unfold readScalar
  cases hkind : f.kind with
  | int =>
    rw [hkind, numericWidth_int] at hnot
    dsimp only
    split
    all_goals first | rfl | omega
  | uint =>
    rw [hkind, numericWidth_uint] at hnot
    dsimp only
    split
    all_goals first | rfl | omega
  | float =>
    rw [hkind, numericWidth_float] at hnot
    dsimp only
    split
    all_goals first | rfl | omega
  | fixedBytes | voidBytes =>
    rw [hkind] at hnum
    cases hnum

end Number

section Row

variable {p : Platform} {mem : Int → UInt8} {rowPtr : Int} {field : FieldInfo}

/-- Reading a field loads its read width, from the start of the field on, and makes its
value of these bytes. -/
theorem readValueFromBuffer_eq (hrow : rowPtr ≠ 0) :
    readValueFromBuffer p mem rowPtr field =
      ⟨(readWidth field).elim [] (addresses (rowPtr + field.offset)),
        fieldValue p field (fieldBytes mem rowPtr field)⟩ := by
  rw [readValueFromBuffer, if_neg hrow]
  dsimp only
  have hsub : (isNumeric field.kind = true ∧ field.itemsize > field.baseItemsize) ↔
      isSubArray field = true := by simp [isSubArray]
  cases readAs field with
  | whole h hw =>
    rw [hw, fieldValue_whole h]
    rcases h with hnum | h
    · rw [if_neg (by simp [hnum]), readScalar]
      cases hkind : field.kind with
      | fixedBytes | voidBytes => exact load_bind fun _ => rfl
      | _ =>
        rw [hkind] at hnum
        cases hnum
    · rw [if_pos (hsub.mpr h)]
      exact load_bind fun _ => rfl
  | number hnum hscalar hwidth hw =>
    rw [hw, fieldValue_number hnum hscalar hwidth, if_neg (by simp [hsub, hscalar]),
      readScalar_number hwidth]
    rfl
  | unsupported hnum hscalar hwidth hw =>
    rw [hw, fieldValue_unsupported hnum hscalar hwidth, if_neg (by simp [hsub, hscalar]),
      readScalar_unsupported hnum hwidth]
    rfl

theorem readValueFromBuffer_log (hrow : rowPtr ≠ 0) {w : Nat} (hw : readWidth field = some w) :
    (readValueFromBuffer p mem rowPtr field).log = addresses (rowPtr + field.offset) w := by
  rw [readValueFromBuffer_eq hrow, hw]
  rfl

theorem readValueFromBuffer_none (p : Platform) (mem : Int → UInt8) (hrow : rowPtr ≠ 0)
    (hw : readWidth field = none) :
    ∃ e, readValueFromBuffer p mem rowPtr field = Logged.fail e := by
  rw [readValueFromBuffer_eq hrow]
  cases readAs field with
  | whole _ hsome | number _ _ _ hsome =>
    rw [hw] at hsome
    cases hsome
  | unsupported hnum hscalar hwidth _ =>
    rw [hw, fieldValue_unsupported hnum hscalar hwidth]
    exact ⟨_, rfl⟩

/-- An empty field is read as an empty blob. -/
theorem readValueFromBuffer_empty (hrow : rowPtr ≠ 0) (hw : readWidth field = some 0) :
    readValueFromBuffer p mem rowPtr field = ⟨[], .ok (.blob [])⟩ := by
  rw [readValueFromBuffer_eq hrow]
  cases readAs field with
  | whole h hsome =>
    rw [fieldValue_whole h, hw, Option.some.inj (hsome.symm.trans hw)]
    rfl
  | number _ _ hwidth hsome =>
    rw [Option.some.inj (hsome.symm.trans hw)] at hwidth
    cases hk : field.kind <;> rw [hk] at hwidth <;> cases hwidth
  | unsupported _ _ _ hnone =>
    rw [hw] at hnone
    cases hnone

theorem rowPtr_ne_zero {v : Value} (h : (readValueFromBuffer p mem rowPtr field).result = .ok v) :
    rowPtr ≠ 0 := by
  intro hzero
  rw [readValueFromBuffer, if_pos hzero] at h
  cases h

end Row

end AerospikePy.Numpy
