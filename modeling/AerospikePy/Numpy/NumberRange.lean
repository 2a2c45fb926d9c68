import AerospikePy.Numpy.Stored

/-!
# Numbers in columns of numbers

An integer column holds the truncation of a number, and only where it is in range. A
column of floats of 4 or 8 bytes refuses what it has no finite datum for; one of 2 bytes
refuses nothing, and stores large numbers as infinities.
-/

namespace AerospikePy.Numpy

open AerospikePy.Core
open AerospikePy.Lib.BinaryFloat
open AerospikePy.Lib.Fallible

/-- The number without its fraction; none of an infinity or a NaN. -/
def truncated : Value → Option Int
  | .int n => some n.toInt
  | .float fv =>
    match (floatValueToF64 fv).datum with
    | .finite negative m => some (F64.signed negative (m / 2 ^ binary64.unit))
    | _ => none
  | _ => none

/-- The integer that a column has in these bytes. -/
def columnInteger (endian : Endian) (kind : DtypeKind) (bytes : List UInt8) : Int :=
  match kind with
  | .int => signExtend bytes.length (ofBytes endian bytes)
  | _ => ofBytes endian bytes

section Truncate

variable {p : Platform} {rowPtr : Int} {f : FieldInfo} {ws : List (Int × UInt8)}

/-- A float of 64 bits that is truncated into bounds that it does not reach. -/
theorem truncate_of_bounds {x : F64} {negative : Bool} {m : Nat} {lo hi : Int}
    (hx : x.datum = .finite negative m)
    (hlo : lo ≤ F64.signed negative (m / 2 ^ binary64.unit))
    (hhi : F64.signed negative (m / 2 ^ binary64.unit) ≤ hi) :
    x.truncate lo hi = F64.signed negative (m / 2 ^ binary64.unit) := by
  unfold F64.truncate
  rw [hx]
  dsimp only
  omega

/-- Dropping the fraction moves a number toward zero. -/
theorem signed_div_bounds {negative : Bool} {m : Nat} {a b : Nat}
    (hlo : -(a : Int) * 2 ^ binary64.unit ≤ F64.signed negative m)
    (hhi : F64.signed negative m < (b : Int) * 2 ^ binary64.unit) (hb : 0 < b) :
    -(a : Int) ≤ F64.signed negative (m / 2 ^ binary64.unit) ∧
      F64.signed negative (m / 2 ^ binary64.unit) < b := by
  have hpos : 0 < 2 ^ binary64.unit := Nat.two_pow_pos _
  have hcast : ((2 ^ binary64.unit : Nat) : Int) = 2 ^ binary64.unit := Int.natCast_pow _ _
  rw [← hcast] at hlo hhi
  generalize 2 ^ binary64.unit = u at *
  unfold F64.signed at *
  cases negative with
  | false =>
    have hdiv : m / u < b := by
      rw [Nat.div_lt_iff_lt_mul hpos]
      simp only [Bool.false_eq_true, if_false] at hhi
      exact_mod_cast hhi
    simp only [Bool.false_eq_true, if_false]
    generalize m / u = q at *
    omega
  | true =>
    have hdiv : m / u ≤ a := by
      apply Nat.div_le_of_le_mul
      simp only [if_true] at hlo
      rw [Int.neg_mul, Int.neg_le_neg_iff] at hlo
      rw [Nat.mul_comm]
      exact_mod_cast hlo
    simp only [if_true]
    generalize m / u = q at *
    omega

theorem finiteF64ToI64_eq_ok {x : F64} {i : Int64} (h : finiteF64ToI64 x f = .ok i) :
    ∃ negative m, x.datum = .finite negative m ∧
      i.toInt = F64.signed negative (m / 2 ^ binary64.unit) := by
  unfold finiteF64ToI64 at h
  obtain ⟨_, hfinite, h⟩ := bind_eq_ok.mp h
  obtain ⟨⟨hlow, hhigh⟩, rfl⟩ := require_bind_pure_eq_ok.mp h
  obtain ⟨negative, m, hx⟩ := F64.isFinite_iff.mp (require_eq_ok.mp hfinite)
  rw [← Bool.not_eq_true, F64.ltInt_finite hx] at hlow
  rw [← Bool.not_eq_true, F64.geInt_finite hx] at hhigh
  have hbounds := @signed_div_bounds negative m (2 ^ 63) (2 ^ 63) (Int.not_lt.mp hlow)
    (Int.not_le.mp hhigh) (by decide)
  refine ⟨negative, m, hx, ?_⟩
  unfold F64.toI64
  rw [truncate_of_bounds hx (by omega) (by omega)]
  apply Int64.toInt_ofInt_of_le <;> omega

theorem nonNegativeF64ToU64_eq_ok {x : F64} {u : UInt64} (h : nonNegativeF64ToU64 x f = .ok u) :
    ∃ negative m, x.datum = .finite negative m ∧
      (u.toNat : Int) = F64.signed negative (m / 2 ^ binary64.unit) := by
  unfold nonNegativeF64ToU64 at h
  obtain ⟨_, hfinite, h⟩ := bind_eq_ok.mp h
  obtain ⟨_, hlow, h⟩ := bind_eq_ok.mp h
  obtain ⟨hhigh, rfl⟩ := require_bind_pure_eq_ok.mp h
  have hlow := require_eq_ok.mp hlow
  obtain ⟨negative, m, hx⟩ := F64.isFinite_iff.mp (require_eq_ok.mp hfinite)
  rw [← Bool.not_eq_true, F64.ltInt_finite hx] at hlow
  rw [← Bool.not_eq_true, F64.geInt_finite hx] at hhigh
  have hbounds := @signed_div_bounds negative m 0 (2 ^ 64) (Int.not_lt.mp hlow)
    (Int.not_le.mp hhigh) (by decide)
  refine ⟨negative, m, hx, ?_⟩
  unfold F64.toU64
  have hlow : 0 ≤ F64.signed negative (m / 2 ^ binary64.unit) := hbounds.1
  have hhigh : F64.signed negative (m / 2 ^ binary64.unit) < 2 ^ 64 := hbounds.2
  rw [truncate_of_bounds hx hlow (Int.le_sub_one_of_lt hhigh)]
  generalize F64.signed negative (m / 2 ^ binary64.unit) = n at hlow hhigh ⊢
  have hlt : n.toNat < 2 ^ 64 := by omega
  rw [UInt64.toNat_ofNat_of_lt' hlt]
  omega

theorem writeIntToBuffer_column {i : Int64} (h : writeIntToBuffer p rowPtr f i = .ok ws) :
    InRange .int f.baseItemsize i.toInt ∧ ∃ bytes, bytes.length = f.baseItemsize ∧
      ws = store (rowPtr + f.offset) bytes ∧ columnInteger p.endian .int bytes = i.toInt := by
  obtain ⟨-, hwidth, hrange, hws⟩ := writeIntToBuffer_eq_ok.mp h
  refine ⟨hrange, _, length_toBytes _ _ _, hws, ?_⟩
  show signExtend (toBytes _ _ _).length _ = _
  rw [length_toBytes, ofBytes_toBytes, signExtend_of_inRange hwidth hrange]

theorem writeUintToBuffer_column {u : UInt64} (h : writeUintToBuffer p rowPtr f u = .ok ws) :
    InRange .uint f.baseItemsize u.toNat ∧ ∃ bytes, bytes.length = f.baseItemsize ∧
      ws = store (rowPtr + f.offset) bytes ∧ columnInteger p.endian .uint bytes = u.toNat := by
  obtain ⟨-, hwidth, hrange, hws⟩ := writeUintToBuffer_eq_ok.mp h
  refine ⟨hrange, _, length_toBytes _ _ _, hws, ?_⟩
  have hlt : u.toNat < 256 ^ f.baseItemsize := by
    unfold InRange at hrange
    rcases numericWidth_uint.mp hwidth with hw | hw | hw | hw <;> rw [hw] at hrange ⊢ <;> omega
  show ((ofBytes p.endian (toBytes _ _ _) : Nat) : Int) = _
  rw [ofBytes_toBytes, Nat.mod_eq_of_lt hlt]

/-- What the column takes of the value is its truncation, which is in range; a value that
has none is refused. -/
structure Truncates (p : Platform) (rowPtr : Int) (f : FieldInfo) (v : Value) : Prop where
  exact : ∀ ws, writeValueToBuffer p rowPtr f v = .ok ws → ∃ n, truncated v = some n ∧
    InRange f.kind f.baseItemsize n ∧ ∃ bytes, bytes.length = f.baseItemsize ∧
      ws = store (rowPtr + f.offset) bytes ∧ columnInteger p.endian f.kind bytes = n
  rejects : truncated v = none → ∃ e, writeValueToBuffer p rowPtr f v = .error e

theorem truncates_of_exact {v : Value}
    (h : ∀ ws, writeValueToBuffer p rowPtr f v = .ok ws → ∃ n, truncated v = some n ∧
      InRange f.kind f.baseItemsize n ∧ ∃ bytes, bytes.length = f.baseItemsize ∧
        ws = store (rowPtr + f.offset) bytes ∧ columnInteger p.endian f.kind bytes = n) :
    Truncates p rowPtr f v := by
  refine ⟨h, fun hnone => ?_⟩
  cases hw : writeValueToBuffer p rowPtr f v with
  | error e => exact ⟨e, rfl⟩
  | ok ws =>
    obtain ⟨n, hn, -⟩ := h ws hw
    rw [hnone] at hn
    cases hn

theorem truncates_int (hkind : f.kind = .int ∨ f.kind = .uint) (i : Int64) :
    Truncates p rowPtr f (.int i) := by
  apply truncates_of_exact
  intro ws hw
  refine ⟨i.toInt, rfl, ?_⟩
  unfold writeValueToBuffer at hw
  rcases hkind with hkind | hkind <;> rw [hkind] at hw ⊢
  · exact writeIntToBuffer_column hw
  · obtain ⟨u, hu, hw⟩ := bind_eq_ok.mp hw
    obtain ⟨hpos, rfl⟩ := require_bind_pure_eq_ok.mp hu
    have hnat := toUInt64_toNat i
    have hhigh := i.toInt_lt
    have hsame : (i.toUInt64.toNat : Int) = i.toInt := by omega
    have hcolumn := writeUintToBuffer_column hw
    rwa [hsame] at hcolumn

theorem truncated_of_finite {fv : FloatValue} {negative : Bool} {m : Nat}
    (hx : (floatValueToF64 fv).datum = .finite negative m) :
    truncated (.float fv) = some (F64.signed negative (m / 2 ^ binary64.unit)) := by
  show (match (floatValueToF64 fv).datum with
    | .finite negative m => some (F64.signed negative (m / 2 ^ binary64.unit))
    | _ => none) = _
  rw [hx]

theorem truncates_float (hkind : f.kind = .int ∨ f.kind = .uint) (fv : FloatValue) :
    Truncates p rowPtr f (.float fv) := by
  apply truncates_of_exact
  intro ws hw
  unfold writeValueToBuffer at hw
  rcases hkind with hkind | hkind <;> rw [hkind] at hw ⊢
  · obtain ⟨i, hi, hw⟩ := bind_eq_ok.mp hw
    obtain ⟨negative, m, hx, hsame⟩ := finiteF64ToI64_eq_ok hi
    have htruncated := truncated_of_finite hx
    rw [← hsame] at htruncated
    exact ⟨_, htruncated, writeIntToBuffer_column hw⟩
  · obtain ⟨u, hu, hw⟩ := bind_eq_ok.mp hw
    obtain ⟨negative, m, hx, hsame⟩ := nonNegativeF64ToU64_eq_ok hu
    have htruncated := truncated_of_finite hx
    rw [← hsame] at htruncated
    exact ⟨_, htruncated, writeUintToBuffer_column hw⟩

/-- No number wraps in a column of integers, and no infinity or NaN gets there. -/
theorem writeValueToBuffer_truncates (p : Platform) (rowPtr : Int)
    (hkind : f.kind = .int ∨ f.kind = .uint) :
    (∀ i, Truncates p rowPtr f (.int i)) ∧ ∀ fv, Truncates p rowPtr f (.float fv) :=
  ⟨truncates_int hkind, truncates_float hkind⟩

/-- A column of signed integers of two bytes. -/
theorem writeValueToBuffer_truncates_short :
    (∀ i, Truncates .littleEndian 1000 ⟨"n", 0, 2, 2, .int⟩ (.int i)) ∧
      ∀ fv, Truncates .littleEndian 1000 ⟨"n", 0, 2, 2, .int⟩ (.float fv) :=
  writeValueToBuffer_truncates _ _ (by decide)

end Truncate

/-- `half::f16::from_f64` of a finite number: finite below 65520, an infinity from there on. -/
structure Platform.HalfRounds (p : Platform) : Prop where
  finite : ∀ (x : F64) negative m, x.datum = .finite negative m → m < 65520 * F64.one →
    ∃ negative' m', binary16.decode (p.halfFromF64 x).toNat = .finite negative' m'
  infinite : ∀ (x : F64) negative m, x.datum = .finite negative m →
    65520 * F64.one ≤ m →
    ∃ negative', binary16.decode (p.halfFromF64 x).toNat = .infinite negative'

theorem halfFromF64_littleEndian {x : F64} {negative : Bool} {m : Nat}
    (hx : x.datum = .finite negative m) :
    (Platform.littleEndian.halfFromF64 x).toNat = binary16.encodeFinite negative
      (binary16.roundMagnitude m (2 ^ (binary64.unit - binary16.unit))) := by
  have hlt := @Format.encodeFinite_lt binary16 negative
    (binary16.roundMagnitude m (2 ^ (binary64.unit - binary16.unit)))
  unfold Platform.littleEndian
  dsimp only
  rw [hx]
  exact UInt16.toNat_ofNat_of_lt' hlt

theorem overflowPoint_binary16 :
    binary16.overflowPoint * 2 ^ (binary64.unit - binary16.unit) =
      2 * (65520 * F64.one) := by
  decide +kernel

theorem halfRounds_littleEndian : Platform.littleEndian.HalfRounds := by
  have hpos : 0 < 2 ^ (binary64.unit - binary16.unit) := Nat.two_pow_pos _
  constructor
  · intro x negative m hx hm
    rw [halfFromF64_littleEndian hx]
    refine ⟨negative, _, Format.decode_encodeFinite ?_ (by decide) negative⟩
    apply Format.represents_roundMagnitude (by decide) hpos
    rw [overflowPoint_binary16]
    exact Nat.mul_lt_mul_of_pos_left hm (by decide)
  · intro x negative m hx hm
    rw [halfFromF64_littleEndian hx]
    refine ⟨negative, Format.decode_encodeFinite_overflow (by decide) ?_ negative⟩
    apply Format.overflow_le_roundMagnitude hpos
    rw [overflowPoint_binary16]
    exact Nat.mul_le_mul_left _ hm

section Finite

variable {p : Platform} {rowPtr : Int} {f : FieldInfo} {ws : List (Int × UInt8)} {g : Format}

/-- The exact magnitude of a finite number, in the units of `f64`. -/
def magnitudeOf : Value → Option Nat
  | .int n => some (n.toInt.natAbs * F64.one)
  | .float fv =>
    match (floatValueToF64 fv).datum with
    | .finite _ m => some m
    | _ => none
  | _ => none

/-- The bytes hold a finite datum. -/
def HoldsFinite (p : Platform) (f : FieldInfo) (g : Format) (bytes : List UInt8) : Prop :=
  bytes.length = f.baseItemsize ∧
    ∃ negative m, g.decode (ofBytes p.endian bytes) = .finite negative m

/-- `f32::MAX` is the largest finite magnitude. -/
theorem passesFloatCheck_four {x : F64} {negative : Bool} {m : Nat}
    (hx : x.datum = .finite negative m) :
    PassesFloatCheck 4 x ↔ InFiniteRange binary32 m := by
  have hfinite : x.isFinite = true := F64.isFinite_iff.mpr ⟨negative, m, hx⟩
  have hcheck : PassesFloatCheck 4 x ↔ ¬(x.gtInt f32Max = true ∨ x.ltInt (-f32Max) = true) :=
    ⟨fun h hout => h rfl ⟨hfinite, hout⟩, fun h _ hout => h hout.2⟩
  have hmax : f32Max = ((340282346638528859811704183484516925440 : Nat) : Int) := by decide +kernel
  rw [hcheck, inFiniteRange_binary32, hmax]
  exact F64.not_outside_iff hx _

/-- What a writer stores of a finite number is finite, where the number is below the point
at which `half` overflows. -/
theorem holdsFinite_of_write {x : F64} {negative : Bool} {m : Nat}
    (hp : p.HalfRounds) (hg : formatOf f.baseItemsize = some g)
    (hx : x.datum = .finite negative m)
    (hhalf : f.baseItemsize = 2 → m < 65520 * F64.one)
    (hw : writeFloatToBuffer p rowPtr f x = .ok ws) :
    ∃ bytes, HoldsFinite p f g bytes ∧ ws = store (rowPtr + f.offset) bytes := by
  obtain ⟨-, hwidth, hcheck, hws⟩ := writeFloatToBuffer_eq_ok.mp hw
  refine ⟨_, ⟨length_toBytes _ _ _, ?_⟩, hws⟩
  rw [ofBytes_toBytes]
  rcases numericWidth_float.mp hwidth with hbase | hbase | hbase
  · rw [hbase] at hg ⊢
    obtain rfl := Option.some.inj hg
    have hlt : (p.halfFromF64 x).toNat < 256 ^ 2 := (p.halfFromF64 x).toNat_lt
    show ∃ negative m, binary16.decode ((p.halfFromF64 x).toNat % 256 ^ 2) = _
    rw [Nat.mod_eq_of_lt hlt]
    exact hp.finite x negative m hx (hhalf hbase)
  · rw [hbase] at hg hcheck ⊢
    obtain rfl := Option.some.inj hg
    have hlt : x.toF32.bits.toNat < 256 ^ 4 := x.toF32.bits.toNat_lt
    show ∃ negative m, binary32.decode (x.toF32.bits.toNat % 256 ^ 4) = _
    rw [Nat.mod_eq_of_lt hlt]
    exact ⟨negative, _, F64.datum_toF32 hx ((passesFloatCheck_four hx).mp hcheck)⟩
  · rw [hbase] at hg ⊢
    obtain rfl := Option.some.inj hg
    have hlt : x.bits.toNat < 256 ^ 8 := x.bits.toNat_lt
    show ∃ negative m, binary64.decode (x.bits.toNat % 256 ^ 8) = _
    rw [Nat.mod_eq_of_lt hlt]
    exact ⟨negative, m, hx⟩

/-- The double that a number is offered as: rounded, but not within the range of `half`
nor across the range of a wider column. -/
theorem exists_offered (p : Platform) (hkind : f.kind = .float) {v : Value} {m : Nat}
    (hm : magnitudeOf v = some m) : ∃ (x : F64) (negative : Bool) (m' : Nat),
      x.datum = .finite negative m' ∧
      (∀ rowPtr, writeValueToBuffer p rowPtr f v = writeFloatToBuffer p rowPtr f x) ∧
      (m ≤ 65504 * F64.one → m' = m) ∧ (65520 * F64.one ≤ m → 65520 * F64.one ≤ m') ∧
      (InFiniteRange binary32 m' → InFiniteRange binary32 m) ∧ InFiniteRange binary64 m := by
  cases v with
  | int n =>
    obtain rfl := Option.some.inj hm
    have hlow := n.le_toInt
    have hhigh := n.toInt_lt
    have habs : n.toInt.natAbs ≤ 2 ^ 64 := by omega
    refine ⟨F64.ofInt n.toInt, _, _, F64.datum_ofInt habs, ?_, ?_, ?_, ?_, ?_⟩
    · intro rowPtr
      unfold writeValueToBuffer
      rw [hkind]
    · intro hsmall
      apply Format.roundMagnitude_of_short
      have hle := Nat.le_of_mul_le_mul_right hsmall (Nat.two_pow_pos _)
      exact Nat.lt_of_le_of_lt hle (by decide)
    · intro hbig
      apply F64.le_roundMagnitude_int (by decide)
      exact Nat.le_of_mul_le_mul_right hbig (Nat.two_pow_pos _)
    · intro _
      exact inFiniteRange_of_int habs (Or.inl rfl)
    · exact inFiniteRange_of_int habs (Or.inr rfl)
  | float fv =>
    unfold magnitudeOf at hm
    dsimp only at hm
    cases hx : (floatValueToF64 fv).datum with
    | finite negative m' =>
      rw [hx] at hm
      obtain rfl := Option.some.inj hm
      refine ⟨_, negative, m', hx, ?_, fun _ => rfl, id, id, ?_⟩
      · intro rowPtr
        unfold writeValueToBuffer
        rw [hkind]
      · exact inFiniteRange_binary64 (Format.represents_of_decode hx)
    | nan | infinite _ =>
      rw [hx] at hm
      cases hm
  | _ => cases hm

/-- A column of 2 bytes takes every number, and stores those from 65520 on as infinities. -/
theorem half_infinite {v : Value} {m : Nat} (hp : p.HalfRounds) (hkind : f.kind = .float)
    (hbase : f.baseItemsize = 2) (hm : magnitudeOf v = some m) (hbig : 65520 * F64.one ≤ m)
    (hrow : rowPtr ≠ 0) : ∃ bytes negative,
      writeValueToBuffer p rowPtr f v = .ok (store (rowPtr + f.offset) bytes) ∧
      bytes.length = 2 ∧ binary16.decode (ofBytes p.endian bytes) = .infinite negative := by
  obtain ⟨x, negative, m', hx, hwrite, -, hlarge, -⟩ := exists_offered p hkind hm
  obtain ⟨negative', hinfinite⟩ := hp.infinite x negative m' hx (hlarge hbig)
  have hlt : (p.halfFromF64 x).toNat < 256 ^ 2 := (p.halfFromF64 x).toNat_lt
  refine ⟨toBytes p.endian 2 (p.halfFromF64 x).toNat, negative', ?_, length_toBytes _ _ _, ?_⟩
  · rw [hwrite]
    refine writeFloatToBuffer_eq_ok.mpr ⟨hrow, ?_, ?_, ?_⟩
    · rw [hbase]
      decide
    · intro hfour
      omega
    · rw [hbase]
      rfl
  · rw [ofBytes_toBytes, Nat.mod_eq_of_lt hlt]
    exact hinfinite

/-- The column has the number as a finite datum, or refuses it; what is out of its finite
range it refuses. -/
structure KeepsFinite (p : Platform) (f : FieldInfo) (g : Format) (v : Value) (m : Nat) :
    Prop where
  finite : ∀ rowPtr ws, writeValueToBuffer p rowPtr f v = .ok ws →
    ∃ bytes, HoldsFinite p f g bytes ∧ ws = store (rowPtr + f.offset) bytes
  refuses : ¬ InFiniteRange g m → ∀ rowPtr, ∃ e, writeValueToBuffer p rowPtr f v = .error e

/-- A column of 2 bytes keeps to this only for the numbers up to 65504. -/
theorem keepsFinite_iff {v : Value} {m : Nat} (hp : p.HalfRounds) (hkind : f.kind = .float)
    (hg : formatOf f.baseItemsize = some g) (hm : magnitudeOf v = some m) :
    KeepsFinite p f g v m ↔ (f.baseItemsize = 2 → m ≤ 65504 * F64.one) := by
  obtain ⟨x, negative, m', hx, hwrite, hhalf, -, hsingle, hdouble⟩ := exists_offered p hkind hm
  constructor
  · intro h hbase
    by_contra hbig
    have hg' : binary16 = g := by
      rw [hbase] at hg
      exact Option.some.inj hg
    have hout : ¬ InFiniteRange g m := by
      rw [← hg', inFiniteRange_binary16]
      exact hbig
    -- the arm of 2 bytes has no check
    have hok : writeFloatToBuffer p 1 f x = .ok _ := writeFloatToBuffer_eq_ok.mpr
      ⟨by decide, by rw [hbase]; decide, fun hfour => by omega, rfl⟩
    obtain ⟨e, he⟩ := h.refuses hout 1
    rw [hwrite, hok] at he
    cases he
  · intro h
    constructor
    · intro rowPtr ws hw
      rw [hwrite] at hw
      apply holdsFinite_of_write hp hg hx _ hw
      intro hbase
      have hsmall := h hbase
      rw [hhalf hsmall]
      apply Nat.lt_of_le_of_lt hsmall
      exact Nat.mul_lt_mul_of_pos_right (by decide) (Nat.two_pow_pos _)
    · intro hout rowPtr
      rw [hwrite]
      cases hw : writeFloatToBuffer p rowPtr f x with
      | error e => exact ⟨e, rfl⟩
      | ok ws =>
        exfalso
        obtain ⟨-, hwidth, hcheck, -⟩ := writeFloatToBuffer_eq_ok.mp hw
        apply hout
        rcases numericWidth_float.mp hwidth with hbase | hbase | hbase
        · have hsmall := h hbase
          rw [hbase] at hg
          obtain rfl := Option.some.inj hg
          exact inFiniteRange_binary16.mpr hsmall
        · rw [hbase] at hg hcheck
          obtain rfl := Option.some.inj hg
          exact hsingle ((passesFloatCheck_four hx).mp hcheck)
        · rw [hbase] at hg
          obtain rfl := Option.some.inj hg
          exact hdouble

theorem keepsFinite_iff_65504 :
    KeepsFinite .littleEndian ⟨"x", 0, 2, 2, .float⟩ binary16 (.int 65504) (65504 * F64.one) ↔
      (2 = 2 → 65504 * F64.one ≤ 65504 * F64.one) :=
  keepsFinite_iff halfRounds_littleEndian rfl rfl
    (congrArg (fun k => some (k * F64.one)) (by decide : (65504 : Int64).toInt.natAbs = 65504))

end Finite

def halfColumn : Dtype where
  fields := some [⟨"x", ⟨⟨"f", "=", 2, "float16"⟩, [], "float16"⟩, 0⟩]
  itemsize := 2

/-- The integer 70000 is stored as the positive infinity. -/
theorem keepsFinite_70000 :
    let half : FieldInfo := ⟨"x", 0, 2, 2, .float⟩
    parseDtypeFields .little halfColumn = .ok ([half], 2) ∧
    writeValueToBuffer .littleEndian 1000 half (.int 70000) =
      .ok [(1000, 0x00), (1001, 0x7C)] ∧
    binary16.decode 0x7C00 = .infinite false ∧
    ¬ KeepsFinite .littleEndian half binary16 (.int 70000) (70000 * F64.one) := by
  intro half
  have hw : writeValueToBuffer .littleEndian 1000 half (.int 70000) =
      .ok [(1000, 0x00), (1001, 0x7C)] := by decide +kernel
  refine ⟨by decide +kernel, hw, by decide, fun h => ?_⟩
  have hout : ¬ InFiniteRange binary16 (70000 * F64.one) := by
    rw [inFiniteRange_binary16]
    intro hle
    have hsmall := Nat.le_of_mul_le_mul_right hle (Nat.two_pow_pos _)
    revert hsmall
    decide
  obtain ⟨e, he⟩ := h.refuses hout 1000
  rw [hw] at he
  cases he

end AerospikePy.Numpy
