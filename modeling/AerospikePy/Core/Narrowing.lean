import AerospikePy.Core.Float
import AerospikePy.Lib.Narrowing

/-!
# An `f32` widened and narrowed

The casts of the source give an `f32` back bit by bit, but for a signalling NaN, which
the first of them makes quiet.
-/

namespace AerospikePy.Core

open AerospikePy.Lib.BinaryFloat

/-- The first bit of the fraction is set, if it is a NaN. -/
def F32.Quiet (x : F32) : Prop :=
  binary32.decode x.bits.toNat = .nan → 2 ^ 22 ≤ x.bits.toNat % 2 ^ 23

instance (x : F32) : Decidable x.Quiet := inferInstanceAs (Decidable (_ → _))

theorem exponent_of_nan {f : Format} {bits : Nat} (h : f.decode bits = .nan) :
    bits / 2 ^ f.fracBits % 2 ^ f.expBits = f.topExp := by
  unfold Format.decode at h
  dsimp only at h
  split at h
  · assumption
  · split at h <;> cases h

theorem F32.bits_toF64_of_nan {x : F32} (h : binary32.decode x.bits.toNat = .nan) :
    x.toF64.bits.toNat = x.bits.toNat / 2 ^ 31 * 2 ^ 63 + 0x7FF8000000000000 +
      x.bits.toNat % 2 ^ 22 * 2 ^ 29 := by
  have hx : x.bits.toNat < 2 ^ 32 := x.bits.toNat_lt
  unfold toF64
  rw [h]
  dsimp only
  exact UInt64.toNat_ofNat_of_lt' (show _ < 2 ^ 64 by omega)

theorem F32.toF32_toF64 {x : F32} (hquiet : x.Quiet) : x.toF64.toF32 = x := by
  have hbits : x.bits.toNat < 2 ^ 32 := x.bits.toNat_lt
  have hdatum := x.datum_toF64
  obtain ⟨bits⟩ := x
  unfold F64.toF32
  cases h : binary32.decode bits.toNat with
  | finite negative m =>
    rw [hdatum, h]
    have hround := @Format.roundMagnitude_of_represents binary32 m
      (2 ^ (binary64.unit - binary32.unit)) (Format.represents_of_decode h) (Nat.two_pow_pos _)
    have hencode := Format.encodeFinite_of_decode hbits h
    simp only [Datum.rescale, hround, hencode, UInt32.ofNat_toNat]
  | infinite negative =>
    rw [hdatum, h]
    have hinfinite := Format.bits_of_infinite hbits h
    simp only [Datum.rescale]
    congr 1
    apply UInt32.toNat_inj.mp
    rw [hinfinite]
    cases negative <;> rfl
  | nan =>
    have hnan := F32.bits_toF64_of_nan h
    have hexp : bits.toNat / 2 ^ 23 % 2 ^ 8 = 255 := exponent_of_nan h
    have hfrac := hquiet h
    rw [hdatum, h]
    simp only [Datum.rescale, hnan]
    congr 1
    apply UInt32.toNat_inj.mp
    dsimp only at hexp hfrac hbits ⊢
    generalize bits.toNat = b at *
    rw [UInt32.toNat_ofNat_of_lt' (show _ < 2 ^ 32 by omega)]
    omega

end AerospikePy.Core
