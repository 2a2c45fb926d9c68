import Mathlib.Algebra.Order.Ring.Int

/-!
# Binary interchange formats

A format is given by the widths of its exponent and fraction fields. The magnitude
of a finite datum is a natural number, counted in units of the smallest subnormal,
so that every finite datum of the format is exact and rounding is integer division.
-/

namespace AerospikePy.Lib.BinaryFloat

structure Format where
  expBits : Nat
  fracBits : Nat
  deriving DecidableEq, Repr

inductive Datum where
  | nan
  | infinite (negative : Bool)
  | finite (negative : Bool) (magnitude : Nat)
  deriving DecidableEq, Repr

namespace Format

variable (f : Format)

/-- One is `2 ^ unit` smallest subnormals. -/
def unit : Nat := 2 ^ (f.expBits - 1) + f.fracBits - 2

/-- The exponent field of infinities and NaNs. -/
def topExp : Nat := 2 ^ f.expBits - 1

def signBit : Nat := 2 ^ (f.expBits + f.fracBits)

def decode (bits : Nat) : Datum :=
  let negative := decide (bits / f.signBit % 2 = 1)
  let exp := bits / 2 ^ f.fracBits % 2 ^ f.expBits
  let frac := bits % 2 ^ f.fracBits
  if exp = f.topExp then (if frac = 0 then .infinite negative else .nan)
  else if exp = 0 then .finite negative frac
  else .finite negative ((2 ^ f.fracBits + frac) * 2 ^ (exp - 1))

/-- The field bits of a magnitude that the format represents. -/
def encodeMagnitude (magnitude : Nat) : Nat :=
  if magnitude < 2 ^ f.fracBits then magnitude
  else
    let exp := magnitude.log2 - f.fracBits
    (exp + 1) * 2 ^ f.fracBits + (magnitude / 2 ^ exp - 2 ^ f.fracBits)

def encodeFinite (negative : Bool) (magnitude : Nat) : Nat :=
  (if negative then f.signBit else 0) +
    min (f.encodeMagnitude magnitude) (f.topExp * 2 ^ f.fracBits)

end Format

/-- `n / d` to the nearest integer, ties to even. -/
def divRoundEven (n d : Nat) : Nat :=
  let q := n / d
  let r := n % d
  if 2 * r < d then q else if d < 2 * r then q + 1 else q + q % 2

/-- `n / d` smallest subnormals, rounded to the precision of the format. -/
def Format.roundMagnitude (f : Format) (n d : Nat) : Nat :=
  let drop := (n / d).log2 - f.fracBits
  divRoundEven n (d * 2 ^ drop) * 2 ^ drop

def binary64 : Format := ⟨11, 52⟩
def binary32 : Format := ⟨8, 23⟩
def binary16 : Format := ⟨5, 10⟩

namespace Format
variable {f : Format}

/-- The significand fits the fraction with its hidden bit, and the exponent its field. -/
def Represents (f : Format) (magnitude : Nat) : Prop :=
  ∃ c e, c < 2 ^ (f.fracBits + 1) ∧ (e = 0 ∨ 2 ^ f.fracBits ≤ c ∧ e + 1 < f.topExp) ∧
    magnitude = c * 2 ^ e

theorem represents_of_decode {bits : Nat} {negative : Bool} {magnitude : Nat}
    (h : f.decode bits = .finite negative magnitude) : f.Represents magnitude := by
  have hfrac : bits % 2 ^ f.fracBits < 2 ^ f.fracBits := Nat.mod_lt _ (Nat.two_pow_pos _)
  have hexp : bits / 2 ^ f.fracBits % 2 ^ f.expBits < 2 ^ f.expBits :=
    Nat.mod_lt _ (Nat.two_pow_pos _)
  have hdouble : 2 ^ (f.fracBits + 1) = 2 * 2 ^ f.fracBits := by rw [Nat.pow_succ, Nat.mul_comm]
  unfold decode at h
  dsimp only at h
  split at h
  · split at h <;> cases h
  · rename_i htop
    split at h
    · obtain ⟨-, rfl⟩ := Datum.finite.inj h
      exact ⟨bits % 2 ^ f.fracBits, 0, by omega, Or.inl rfl, by rw [Nat.pow_zero, Nat.mul_one]⟩
    · obtain ⟨-, rfl⟩ := Datum.finite.inj h
      refine ⟨_, _, by omega, Or.inr ⟨by omega, ?_⟩, rfl⟩
      unfold topExp at htop ⊢
      omega

/-- A short significand can be shifted up to the full width. -/
theorem represents_shift {c e : Nat} (hc : c < 2 ^ (f.fracBits + 1)) (hlow : f.fracBits ≤ e)
    (hhigh : e + 1 < f.topExp) : f.Represents (c * 2 ^ e) := by
  by_cases hzero : c = 0
  · exact ⟨0, 0, Nat.two_pow_pos _, Or.inl rfl, by rw [hzero, Nat.zero_mul, Nat.zero_mul]⟩
  · have hlog : c.log2 ≤ f.fracBits := Nat.lt_succ_iff.mp ((Nat.log2_lt hzero).mpr hc)
    have hle : 2 ^ c.log2 ≤ c := Nat.log2_self_le hzero
    have hlt : c < 2 ^ (c.log2 + 1) := Nat.lt_log2_self
    have hpow : 2 ^ f.fracBits = 2 ^ c.log2 * 2 ^ (f.fracBits - c.log2) := by
      rw [← Nat.pow_add, Nat.add_sub_cancel' hlog]
    have hpow' : 2 ^ (f.fracBits + 1) = 2 ^ (c.log2 + 1) * 2 ^ (f.fracBits - c.log2) := by
      rw [← Nat.pow_add]
      congr 1
      omega
    refine ⟨c * 2 ^ (f.fracBits - c.log2), e - (f.fracBits - c.log2), ?_, Or.inr ⟨?_, ?_⟩, ?_⟩
    · rw [hpow']
      exact Nat.mul_lt_mul_of_pos_right hlt (Nat.two_pow_pos _)
    · rw [hpow]
      exact Nat.mul_le_mul_right _ hle
    · omega
    · rw [Nat.mul_assoc, ← Nat.pow_add]
      congr 2
      omega

theorem decode_nan {bits : Nat} (hexp : bits / 2 ^ f.fracBits % 2 ^ f.expBits = f.topExp)
    (hfrac : bits % 2 ^ f.fracBits ≠ 0) : f.decode bits = .nan := by
  unfold decode
  dsimp only
  rw [if_pos hexp, if_neg hfrac]

theorem decode_sign {negative : Bool} {x : Nat} (hx : x < f.signBit) :
    f.decode ((if negative then f.signBit else 0) + x) =
      let exp := x / 2 ^ f.fracBits
      let frac := x % 2 ^ f.fracBits
      if exp = f.topExp then (if frac = 0 then .infinite negative else .nan)
      else if exp = 0 then .finite negative frac
      else .finite negative ((2 ^ f.fracBits + frac) * 2 ^ (exp - 1)) := by
  have hsign : f.signBit = 2 ^ f.fracBits * 2 ^ f.expBits := by
    rw [signBit, Nat.add_comm, Nat.pow_add]
  have hexp : x / 2 ^ f.fracBits < 2 ^ f.expBits := by
    rw [Nat.div_lt_iff_lt_mul (Nat.two_pow_pos _), Nat.mul_comm, ← hsign]
    exact hx
  have hpos : 0 < f.signBit := Nat.two_pow_pos _
  unfold decode
  cases negative with
  | false =>
    have hneg : x / f.signBit % 2 = 0 := by rw [Nat.div_eq_of_lt hx]
    simp [hneg, Nat.mod_eq_of_lt hexp]
  | true =>
    have hneg : (f.signBit + x) / f.signBit % 2 = 1 := by
      rw [Nat.add_div_left x hpos, Nat.div_eq_of_lt hx]
    have hmod : (f.signBit + x) % 2 ^ f.fracBits = x % 2 ^ f.fracBits := by
      rw [hsign, Nat.mul_add_mod]
    have hdiv : (f.signBit + x) / 2 ^ f.fracBits % 2 ^ f.expBits = x / 2 ^ f.fracBits := by
      rw [hsign, Nat.mul_add_div (Nat.two_pow_pos _), Nat.add_mod_left, Nat.mod_eq_of_lt hexp]
    simp [hneg, hmod, hdiv]

theorem encodeMagnitude_of_represents {m : Nat} (h : f.Represents m)
    (hm : 2 ^ f.fracBits ≤ m) : ∃ c e, f.encodeMagnitude m = (e + 1) * 2 ^ f.fracBits + c ∧
      c < 2 ^ f.fracBits ∧ (e = 0 ∨ e + 1 < f.topExp) ∧ m = (2 ^ f.fracBits + c) * 2 ^ e := by
  obtain ⟨c, e, hc, hnormal, rfl⟩ := h
  have hdouble : 2 ^ (f.fracBits + 1) = 2 * 2 ^ f.fracBits := by rw [Nat.pow_succ, Nat.mul_comm]
  have hle : 2 ^ f.fracBits ≤ c := by
    rcases hnormal with rfl | hnormal
    · rwa [Nat.pow_zero, Nat.mul_one] at hm
    · exact hnormal.1
  have hlog : (c * 2 ^ e).log2 = f.fracBits + e := by
    refine (Nat.log2_eq_iff (by have := Nat.two_pow_pos f.fracBits; omega)).mpr ⟨?_, ?_⟩
    · rw [Nat.pow_add]
      exact Nat.mul_le_mul_right _ hle
    · rw [Nat.add_right_comm, Nat.pow_add]
      exact Nat.mul_lt_mul_of_pos_right hc (Nat.two_pow_pos e)
  have hexp : (c * 2 ^ e).log2 - f.fracBits = e := by omega
  refine ⟨c - 2 ^ f.fracBits, e, ?_, by omega, hnormal.imp_right (·.2), ?_⟩
  · unfold encodeMagnitude
    rw [if_neg (by omega)]
    dsimp only
    rw [hexp, Nat.mul_div_cancel _ (Nat.two_pow_pos e)]
  · rw [Nat.add_sub_cancel' hle]

/-- The sign bit is above every exponent. -/
theorem infinity_lt_signBit : f.topExp * 2 ^ f.fracBits < f.signBit := by
  rw [signBit, Nat.pow_add]
  apply Nat.mul_lt_mul_of_pos_right _ (Nat.two_pow_pos _)
  have hpos : 0 < 2 ^ f.expBits := Nat.two_pow_pos _
  unfold topExp
  omega

theorem encodeFinite_lt (negative : Bool) (m : Nat) :
    f.encodeFinite negative m < 2 * f.signBit := by
  have hmin := Nat.min_le_right (f.encodeMagnitude m) (f.topExp * 2 ^ f.fracBits)
  have hsign := @infinity_lt_signBit f
  unfold encodeFinite
  split <;> omega

/-- What a format represents is read back as it was. -/
theorem decode_encodeFinite {m : Nat} (h : f.Represents m) (htop : 1 < f.topExp)
    (negative : Bool) : f.decode (f.encodeFinite negative m) = .finite negative m := by
  have hpos : 0 < 2 ^ f.fracBits := Nat.two_pow_pos _
  have hsign := @infinity_lt_signBit f
  unfold encodeFinite
  by_cases hm : m < 2 ^ f.fracBits
  · have hone : 1 * 2 ^ f.fracBits ≤ f.topExp * 2 ^ f.fracBits := Nat.mul_le_mul_right _ (by omega)
    have hmin : min (f.encodeMagnitude m) (f.topExp * 2 ^ f.fracBits) = m := by
      unfold encodeMagnitude
      rw [if_pos hm]
      omega
    rw [hmin, decode_sign (by omega)]
    dsimp only
    rw [Nat.div_eq_of_lt hm, Nat.mod_eq_of_lt hm, if_neg (by omega), if_pos rfl]
  · obtain ⟨c, e, henc, hc, he, rfl⟩ := encodeMagnitude_of_represents h (by omega)
    have hexp : e + 1 < f.topExp := by omega
    have hstep : (e + 1 + 1) * 2 ^ f.fracBits ≤ f.topExp * 2 ^ f.fracBits :=
      Nat.mul_le_mul_right _ hexp
    have hsucc : (e + 1 + 1) * 2 ^ f.fracBits = (e + 1) * 2 ^ f.fracBits + 2 ^ f.fracBits :=
      Nat.succ_mul _ _
    rw [Nat.min_eq_left (by omega), henc, decode_sign (by omega)]
    dsimp only
    have hdiv : ((e + 1) * 2 ^ f.fracBits + c) / 2 ^ f.fracBits = e + 1 := by
      rw [Nat.mul_comm, Nat.mul_add_div hpos, Nat.div_eq_of_lt hc, Nat.add_zero]
    have hmod : ((e + 1) * 2 ^ f.fracBits + c) % 2 ^ f.fracBits = c := by
      rw [Nat.mul_comm, Nat.mul_add_mod, Nat.mod_eq_of_lt hc]
    rw [hdiv, hmod, if_neg (by omega), if_neg (by omega), Nat.add_sub_cancel]

end Format

/-- A datum of `g` in the units of a format with smaller ones. -/
def Datum.rescale (g f : Format) : Datum → Datum
  | .finite negative magnitude => .finite negative (magnitude * 2 ^ (f.unit - g.unit))
  | d => d

@[simp] theorem Datum.rescale_self (f : Format) (d : Datum) : d.rescale f f = d := by
  cases d <;> simp [rescale]

/-- A wider format represents every finite datum of a narrower one. -/
theorem represents_rescale {f g : Format} (hfrac : g.fracBits ≤ f.fracBits)
    (hunit : f.fracBits ≤ f.unit - g.unit) (hexp : g.topExp + (f.unit - g.unit) + 1 < f.topExp)
    {bits : Nat} {negative : Bool} {magnitude : Nat}
    (h : g.decode bits = .finite negative magnitude) :
    f.Represents (magnitude * 2 ^ (f.unit - g.unit)) := by
  obtain ⟨c, e, hc, he, rfl⟩ := Format.represents_of_decode h
  have hwide : 2 ^ (g.fracBits + 1) ≤ 2 ^ (f.fracBits + 1) :=
    Nat.pow_le_pow_right (by omega) (by omega)
  rw [Nat.mul_assoc, ← Nat.pow_add]
  exact Format.represents_shift (by omega) (by omega) (by omega)

end AerospikePy.Lib.BinaryFloat
