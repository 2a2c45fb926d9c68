import AerospikePy.Lib.Rounding

/-!
# The `f32` and `f64` of the source

Bit patterns, the casts and comparisons that the source applies to them, and the
decimal text that `{}` prints. Comparisons are needed with integers only.
-/

namespace AerospikePy.Core

open AerospikePy.Lib.BinaryFloat

structure F64 where
  bits : UInt64
  deriving DecidableEq, Repr

structure F32 where
  bits : UInt32
  deriving DecidableEq, Repr

namespace F64

def datum (x : F64) : Datum := binary64.decode x.bits.toNat

def ofDatum : Datum → F64
  | .nan => ⟨0x7FF8000000000000⟩
  | .infinite negative => ⟨if negative then 0xFFF0000000000000 else 0x7FF0000000000000⟩
  | .finite negative magnitude => ⟨.ofNat (binary64.encodeFinite negative magnitude)⟩

/-- A signed magnitude as a multiple of the smallest subnormal. -/
def signed (negative : Bool) (magnitude : Nat) : Int :=
  if negative then -magnitude else magnitude

def isFinite (x : F64) : Bool :=
  match x.datum with
  | .finite _ _ => true
  | _ => false

/-- `v as f64`. -/
def ofInt (v : Int) : F64 :=
  ofDatum (.finite (v < 0) (binary64.roundMagnitude (v.natAbs * 2 ^ binary64.unit) 1))

/-- `x < k`, false for NaN. -/
def ltInt (x : F64) (k : Int) : Bool :=
  match x.datum with
  | .nan => false
  | .infinite negative => negative
  | .finite negative magnitude => signed negative magnitude < k * 2 ^ binary64.unit

/-- `x > k`, false for NaN. -/
def gtInt (x : F64) (k : Int) : Bool :=
  match x.datum with
  | .nan => false
  | .infinite negative => !negative
  | .finite negative magnitude => k * 2 ^ binary64.unit < signed negative magnitude

/-- `x >= k`, false for NaN. -/
def geInt (x : F64) (k : Int) : Bool :=
  match x.datum with
  | .nan => false
  | .infinite negative => !negative
  | .finite negative magnitude => k * 2 ^ binary64.unit ≤ signed negative magnitude

/-- The cast to an integer type with bounds `lo` and `hi`: toward zero, saturating,
zero for NaN. -/
def truncate (x : F64) (lo hi : Int) : Int :=
  match x.datum with
  | .nan => 0
  | .infinite negative => if negative then lo else hi
  | .finite negative magnitude => max lo (min hi (signed negative (magnitude / 2 ^ binary64.unit)))

/-- `x as i64`. -/
def toI64 (x : F64) : Int64 := .ofInt (x.truncate (-2 ^ 63) (2 ^ 63 - 1))

/-- `x as u64`. -/
def toU64 (x : F64) : UInt64 := .ofNat (x.truncate 0 (2 ^ 64 - 1)).toNat

/-- `x as f32`. A NaN keeps its sign and the top of its payload, and is made quiet. -/
def toF32 (x : F64) : F32 :=
  match x.datum with
  | .nan =>
    let sign := x.bits.toNat / 2 ^ 63 * 2 ^ 31
    let payload := x.bits.toNat % 2 ^ 52 / 2 ^ 29 % 2 ^ 22
    ⟨.ofNat (sign + 0x7FC00000 + payload)⟩
  | .infinite negative => ⟨if negative then 0xFF800000 else 0x7F800000⟩
  | .finite negative magnitude =>
    let rounded := binary32.roundMagnitude magnitude (2 ^ (binary64.unit - binary32.unit))
    ⟨.ofNat (binary32.encodeFinite negative rounded)⟩

end F64

/-- `x as f64`, which is exact. -/
def F32.toF64 (x : F32) : F64 :=
  match binary32.decode x.bits.toNat with
  | .nan =>
    let sign := x.bits.toNat / 2 ^ 31 * 2 ^ 63
    let payload := x.bits.toNat % 2 ^ 22 * 2 ^ 29
    ⟨.ofNat (sign + 0x7FF8000000000000 + payload)⟩
  | .infinite negative => F64.ofDatum (.infinite negative)
  | .finite negative magnitude =>
    F64.ofDatum (.finite negative (magnitude * 2 ^ (binary64.unit - binary32.unit)))

/-- The magnitude of 1. -/
def F64.one : Nat := 2 ^ binary64.unit

section Compare

variable {x : F64} {negative : Bool} {magnitude : Nat} {k : Int}

theorem F64.isFinite_iff : x.isFinite = true ↔ ∃ negative m, x.datum = .finite negative m := by
  unfold isFinite
  cases h : x.datum <;> simp

theorem F64.ltInt_finite (h : x.datum = .finite negative magnitude) :
    x.ltInt k = true ↔ signed negative magnitude < k * 2 ^ binary64.unit := by
  unfold ltInt
  rw [h]
  exact decide_eq_true_iff

theorem F64.gtInt_finite (h : x.datum = .finite negative magnitude) :
    x.gtInt k = true ↔ k * 2 ^ binary64.unit < signed negative magnitude := by
  unfold gtInt
  rw [h]
  exact decide_eq_true_iff

theorem F64.geInt_finite (h : x.datum = .finite negative magnitude) :
    x.geInt k = true ↔ k * 2 ^ binary64.unit ≤ signed negative magnitude := by
  unfold geInt
  rw [h]
  exact decide_eq_true_iff

/-- Between `-k` and `k`. -/
theorem F64.not_outside_iff (h : x.datum = .finite negative magnitude) (k : Nat) :
    ¬(x.gtInt k = true ∨ x.ltInt (-(k : Int)) = true) ↔ magnitude ≤ k * one := by
  have hcast : (k : Int) * 2 ^ binary64.unit = ((k * one : Nat) : Int) := by
    rw [one, Int.natCast_mul, Int.natCast_pow]
    rfl
  rw [gtInt_finite h, ltInt_finite h, Int.neg_mul, hcast]
  generalize k * one = top
  unfold signed
  cases negative with
  | false =>
    simp only [Bool.false_eq_true, if_false]
    omega
  | true =>
    simp only [if_true]
    omega

end Compare

theorem F64.datum_ofDatum_finite {m : Nat} (h : binary64.Represents m) (negative : Bool) :
    (F64.ofDatum (.finite negative m)).datum = .finite negative m := by
  have hdecode := Format.decode_encodeFinite h (by decide) negative
  have hlt : binary64.encodeFinite negative m < 2 ^ 64 := Format.encodeFinite_lt negative m
  show binary64.decode (UInt64.ofNat _).toNat = _
  rw [UInt64.toNat_ofNat_of_lt' hlt, hdecode]

/-- Every integer of 64 bits is below the overflow point. -/
theorem F64.datum_ofInt {n : Int} (h : n.natAbs ≤ 2 ^ 64) : (ofInt n).datum =
    .finite (n < 0) (binary64.roundMagnitude (n.natAbs * F64.one) 1) := by
  apply datum_ofDatum_finite
  apply Format.represents_roundMagnitude (by decide) (by decide)
  show 2 * (n.natAbs * F64.one) < _
  have hpoint : 2 * (2 ^ 64 * F64.one) < binary64.overflowPoint * 1 := by decide +kernel
  have hmul : n.natAbs * F64.one ≤ 2 ^ 64 * F64.one := Nat.mul_le_mul_right _ h
  omega

theorem F64.roundMagnitude_int_le {n : Nat} (h : n ≤ 2 ^ 64) :
    binary64.roundMagnitude (n * F64.one) 1 ≤ 2 ^ 64 * F64.one := by
  have hpow : 2 ^ 64 * F64.one = 2 ^ (64 + binary64.unit) := by rw [one, Nat.pow_add]
  rw [hpow]
  apply Format.roundMagnitude_le_pow (by decide)
  rw [Nat.mul_one, ← hpow]
  exact Nat.mul_le_mul_right _ h

theorem F64.le_roundMagnitude_int {n k : Nat} (hk : k ≤ 2 ^ 52) (h : k ≤ n) :
    k * F64.one ≤ binary64.roundMagnitude (n * F64.one) 1 := by
  by_cases hn : n < 2 ^ 53
  · -- nothing is rounded
    rw [F64.one, Format.roundMagnitude_of_short hn]
    exact Nat.mul_le_mul_right _ h
  · have hpow : 2 ^ 52 * F64.one = 2 ^ (52 + binary64.unit) := by rw [one, Nat.pow_add]
    apply Nat.le_trans (Nat.mul_le_mul_right F64.one hk)
    rw [hpow]
    apply Format.pow_le_roundMagnitude (by decide)
    rw [Nat.mul_one, ← hpow]
    exact Nat.mul_le_mul_right _ (Nat.le_trans (by decide) (Nat.le_of_not_lt hn))

/-- The magnitude of a double is in the finite range of a narrower format. -/
def InFiniteRange (g : Format) (m : Nat) : Prop := m ≤ g.maxFinite * 2 ^ (binary64.unit - g.unit)

theorem inFiniteRange_binary16 {m : Nat} :
    InFiniteRange binary16 m ↔ m ≤ 65504 * F64.one := by
  have hmax : binary16.maxFinite * 2 ^ (binary64.unit - binary16.unit) = 65504 * F64.one := by
    decide +kernel
  rw [InFiniteRange, hmax]

/-- `f32::MAX`. -/
theorem inFiniteRange_binary32 {m : Nat} :
    InFiniteRange binary32 m ↔ m ≤ 340282346638528859811704183484516925440 * F64.one := by
  have hmax : binary32.maxFinite * 2 ^ (binary64.unit - binary32.unit) =
      340282346638528859811704183484516925440 * F64.one := by decide +kernel
  rw [InFiniteRange, hmax]

theorem inFiniteRange_of_int {n : Nat} (h : n ≤ 2 ^ 64) {g : Format}
    (hg : g = binary32 ∨ g = binary64) : InFiniteRange g (n * F64.one) := by
  have hmul : n * F64.one ≤ 2 ^ 64 * F64.one := Nat.mul_le_mul_right _ h
  have hmax : ∀ g ∈ [binary32, binary64],
      2 ^ 64 * F64.one ≤ g.maxFinite * 2 ^ (binary64.unit - g.unit) := by decide +kernel
  apply Nat.le_trans hmul
  apply hmax
  rcases hg with rfl | rfl <;> decide

theorem inFiniteRange_binary64 {m : Nat} (h : binary64.Represents m) :
    InFiniteRange binary64 m := by
  unfold InFiniteRange
  rw [Nat.sub_self, Nat.pow_zero, Nat.mul_one]
  exact Format.le_maxFinite_of_represents (by decide) h

/-- The cast to `f32` of what is not above its largest finite magnitude. -/
theorem F64.datum_toF32 {x : F64} {negative : Bool} {m : Nat} (hx : x.datum = .finite negative m)
    (hm : InFiniteRange binary32 m) :
    binary32.decode x.toF32.bits.toNat = .finite negative
      (binary32.roundMagnitude m (2 ^ (binary64.unit - binary32.unit))) := by
  have hlt := @Format.encodeFinite_lt binary32 negative
    (binary32.roundMagnitude m (2 ^ (binary64.unit - binary32.unit)))
  have hpos : 0 < 2 ^ (binary64.unit - binary32.unit) := Nat.two_pow_pos _
  unfold toF32
  rw [hx]
  dsimp only
  rw [UInt32.toNat_ofNat_of_lt' hlt]
  apply Format.decode_encodeFinite _ (by decide)
  apply Format.represents_roundMagnitude (by decide) hpos
  exact Format.lt_overflowPoint_of_le hpos hm

/-- The cast of a format whose data `f64` has, with any NaN for a NaN. -/
theorem F64.datum_ofDatum_rescale {g : Format} (hfrac : g.fracBits ≤ 52)
    (hunit : 52 ≤ binary64.unit - g.unit)
    (hexp : g.topExp + (binary64.unit - g.unit) + 1 < binary64.topExp) (bits : Nat) :
    (F64.ofDatum ((g.decode bits).rescale g binary64)).datum =
      (g.decode bits).rescale g binary64 := by
  cases h : g.decode bits with
  | nan =>
    show (F64.ofDatum .nan).datum = .nan
    decide
  | infinite negative =>
    show (F64.ofDatum (.infinite negative)).datum = .infinite negative
    cases negative <;> decide
  | finite negative magnitude =>
    exact F64.datum_ofDatum_finite (represents_rescale hfrac hunit hexp h) negative

theorem F32.datum_toF64 (x : F32) :
    x.toF64.datum = (binary32.decode x.bits.toNat).rescale binary32 binary64 := by
  have hrescale := @F64.datum_ofDatum_rescale binary32 (by decide) (by decide) (by decide)
    x.bits.toNat
  unfold toF64
  cases h : binary32.decode x.bits.toNat with
  | infinite negative =>
    rw [h] at hrescale
    exact hrescale
  | finite negative magnitude =>
    rw [h] at hrescale
    exact hrescale
  | nan =>
    -- the sign and the payload leave the exponent field full and the fraction nonzero
    have hx : x.bits.toNat < 2 ^ 32 := x.bits.toNat_lt
    show binary64.decode (UInt64.ofNat (x.bits.toNat / 2 ^ 31 * 2 ^ 63 + 0x7FF8000000000000 +
      x.bits.toNat % 2 ^ 22 * 2 ^ 29)).toNat = .nan
    generalize hn : x.bits.toNat / 2 ^ 31 * 2 ^ 63 + 0x7FF8000000000000 +
      x.bits.toNat % 2 ^ 22 * 2 ^ 29 = n
    have hexp : n / 2 ^ 52 % 2 ^ 11 = 2 ^ 11 - 1 := by omega
    have hfrac : n % 2 ^ 52 ≠ 0 := by omega
    rw [UInt64.toNat_ofNat_of_lt' (show n < 2 ^ 64 by omega)]
    exact Format.decode_nan hexp hfrac

namespace F64

/-- `⌊magnitude / 10 ^ k⌋`, the magnitude read as a number. -/
def digitsAbove (magnitude : Nat) (k : Int) : Nat :=
  magnitude * 10 ^ (-k).toNat / (2 ^ binary64.unit * 10 ^ k.toNat)

/-- The magnitude of the double nearest to `d * 10 ^ k`. -/
def readDecimal (d : Nat) (k : Int) : Nat :=
  binary64.roundMagnitude (d * 10 ^ k.toNat * 2 ^ binary64.unit) (10 ^ (-k).toNat)

/-- The least `k` for which the magnitude is below `10 ^ k`; doubles lie between
`10 ^ (-324)` and `10 ^ 309`. -/
def point (magnitude : Nat) : Int :=
  (((List.range 634).map fun (i : Nat) => (i : Int) - 324).find? fun k =>
    digitsAbove magnitude k == 0).getD 309

/-- The shortest decimal `d * 10 ^ k` that reads back as the magnitude, the nearest
one where two are as short. -/
def shortest (magnitude : Nat) : Nat × Int :=
  let attempt (n : Nat) : Option (Nat × Int) :=
    let k := point magnitude - (n + 1)
    let low := digitsAbove magnitude k
    let lowIsNearer := 2 * magnitude * 10 ^ (-k).toNat ≤
      (2 * low + 1) * (2 ^ binary64.unit * 10 ^ k.toNat)
    let candidates := if lowIsNearer then [low, low + 1] else [low + 1, low]
    (candidates.find? fun d => readDecimal d k == magnitude).map fun d =>
      if d = 10 ^ (n + 1) then (1, k + n + 1) else (d, k)
  ((List.range 17).findSome? attempt).getD (0, 0)

/-- `{}` of a double: never an exponent, no point for an integer. -/
def display (x : F64) : String :=
  match x.datum with
  | .nan => "NaN"
  | .infinite negative => if negative then "-inf" else "inf"
  | .finite negative magnitude =>
    let (d, k) := if magnitude = 0 then (0, 0) else shortest magnitude
    let digits := (toString d).toList
    let text :=
      if 0 ≤ k then digits ++ List.replicate k.toNat '0'
      else
        let padded := List.replicate ((-k).toNat + 1 - digits.length) '0' ++ digits
        let whole := padded.length - (-k).toNat
        padded.take whole ++ '.' :: padded.drop whole
    (if negative then "-" else "") ++ String.ofList text

end F64

end AerospikePy.Core
