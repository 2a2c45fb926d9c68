import AerospikePy.Lib.Rounding

/-!
# Narrowing what was widened

Encoding is the inverse of decoding, and a magnitude that a format represents is not
changed by rounding: so a wider format gives back the very bits of a narrower one.
-/

namespace AerospikePy.Lib.BinaryFloat

namespace Format
variable {f : Format}

/-- The sign, the exponent and the fraction of a bit pattern. -/
theorem split_bits {bits : Nat} (hbits : bits < 2 * f.signBit) :
    bits = (if bits / f.signBit % 2 = 1 then f.signBit else 0) +
      (bits / 2 ^ f.fracBits % 2 ^ f.expBits * 2 ^ f.fracBits + bits % 2 ^ f.fracBits) := by
  have hsign : f.signBit = 2 ^ f.fracBits * 2 ^ f.expBits := by
    rw [signBit, Nat.add_comm, Nat.pow_add]
  have hpos : 0 < f.signBit := Nat.two_pow_pos _
  have hrest : bits % f.signBit =
      bits / 2 ^ f.fracBits % 2 ^ f.expBits * 2 ^ f.fracBits + bits % 2 ^ f.fracBits := by
    rw [hsign, Nat.mod_mul, Nat.mul_comm, Nat.add_comm]
  have hquot : bits / f.signBit < 2 := Nat.div_lt_of_lt_mul (by omega)
  have hsplit : f.signBit * (bits / f.signBit) + bits % f.signBit = bits := Nat.div_add_mod _ _
  rw [← hrest]
  generalize bits / f.signBit = sign at hquot hsplit ⊢
  rcases Nat.lt_succ_iff_lt_or_eq.mp hquot with hzero | rfl
  · obtain rfl : sign = 0 := by omega
    rw [Nat.mul_zero] at hsplit
    exact hsplit.symm
  · rw [Nat.mul_one] at hsplit
    exact hsplit.symm

theorem encodeMagnitude_normal {c e : Nat} (hc : c < 2 ^ f.fracBits) :
    f.encodeMagnitude ((2 ^ f.fracBits + c) * 2 ^ e) = (e + 1) * 2 ^ f.fracBits + c := by
  have hpos : 0 < 2 ^ f.fracBits := Nat.two_pow_pos _
  have hlog : ((2 ^ f.fracBits + c) * 2 ^ e).log2 = f.fracBits + e := by
    have hne : (2 ^ f.fracBits + c) * 2 ^ e ≠ 0 :=
      Nat.mul_ne_zero (by omega) (Nat.ne_of_gt (Nat.two_pow_pos e))
    refine (Nat.log2_eq_iff hne).mpr ⟨?_, ?_⟩
    · rw [Nat.pow_add]
      exact Nat.mul_le_mul_right _ (by omega)
    · have hdouble : 2 ^ (f.fracBits + 1) = 2 * 2 ^ f.fracBits := by rw [Nat.pow_succ, Nat.mul_comm]
      rw [Nat.add_right_comm, Nat.pow_add]
      exact Nat.mul_lt_mul_of_pos_right (by omega) (Nat.two_pow_pos e)
  have hle : 2 ^ f.fracBits * 1 ≤ (2 ^ f.fracBits + c) * 2 ^ e :=
    Nat.mul_le_mul (by omega) (Nat.two_pow_pos e)
  unfold encodeMagnitude
  rw [if_neg (by omega), hlog]
  dsimp only
  rw [Nat.add_sub_cancel_left, Nat.mul_div_cancel _ (Nat.two_pow_pos e), Nat.add_sub_cancel_left]

/-- What is decoded of a bit pattern is encoded as the pattern. -/
theorem encodeFinite_of_decode {bits : Nat} {negative : Bool} {m : Nat}
    (hbits : bits < 2 * f.signBit) (h : f.decode bits = .finite negative m) :
    f.encodeFinite negative m = bits := by
  have hfrac : bits % 2 ^ f.fracBits < 2 ^ f.fracBits := Nat.mod_lt _ (Nat.two_pow_pos _)
  have hexp : bits / 2 ^ f.fracBits % 2 ^ f.expBits < 2 ^ f.expBits :=
    Nat.mod_lt _ (Nat.two_pow_pos _)
  have hsplit := split_bits hbits
  unfold decode at h
  dsimp only at h
  generalize bits % 2 ^ f.fracBits = c at *
  generalize bits / 2 ^ f.fracBits % 2 ^ f.expBits = e at *
  have htop : f.topExp = 2 ^ f.expBits - 1 := rfl
  split at h
  · split at h <;> cases h
  · rename_i hne
    have hstep : (e + 1) * 2 ^ f.fracBits ≤ f.topExp * 2 ^ f.fracBits :=
      Nat.mul_le_mul_right _ (by omega)
    rw [Nat.succ_mul] at hstep
    have hmagnitude : ∀ {m : Nat}, f.encodeMagnitude m = e * 2 ^ f.fracBits + c →
        f.encodeFinite (decide (bits / f.signBit % 2 = 1)) m = bits := by
      intro m hm
      rw [encodeFinite, hm, Nat.min_eq_left (by omega)]
      simp only [decide_eq_true_eq]
      exact hsplit.symm
    split at h
    · rename_i hzero
      obtain ⟨rfl, rfl⟩ := Datum.finite.inj h
      apply hmagnitude
      rw [hzero, Nat.zero_mul, Nat.zero_add, encodeMagnitude, if_pos hfrac]
    · rename_i hpos
      obtain ⟨rfl, rfl⟩ := Datum.finite.inj h
      apply hmagnitude
      rw [encodeMagnitude_normal hfrac, Nat.sub_add_cancel (by omega)]

theorem bits_of_infinite {bits : Nat} {negative : Bool} (hbits : bits < 2 * f.signBit)
    (h : f.decode bits = .infinite negative) :
    bits = (if negative then f.signBit else 0) + f.topExp * 2 ^ f.fracBits := by
  have hsplit := split_bits hbits
  unfold decode at h
  dsimp only at h
  split at h
  · rename_i htop
    split at h
    · rename_i hzero
      obtain rfl := Datum.infinite.inj h
      rw [htop, hzero, Nat.add_zero] at hsplit
      simpa using hsplit
    · cases h
  · split at h <;> cases h

theorem divRoundEven_scaled {n d k : Nat} (hd : 0 < d) :
    divRoundEven (n * d) (k * d) = divRoundEven n k := by
  have hmod : n * d % (k * d) = n % k * d := Nat.mul_mod_mul_right d n k
  have hlt : ∀ r, 2 * (r * d) < k * d ↔ 2 * r < k := fun r => by
    rw [← Nat.mul_assoc]
    exact Nat.mul_lt_mul_right hd
  have hgt : ∀ r, k * d < 2 * (r * d) ↔ k < 2 * r := fun r => by
    rw [← Nat.mul_assoc]
    exact Nat.mul_lt_mul_right hd
  unfold divRoundEven
  dsimp only
  rw [Nat.mul_div_mul_right _ _ hd, hmod]
  simp only [hlt, hgt]

/-- A magnitude that the format represents is not rounded, in whatever units it comes. -/
theorem roundMagnitude_of_represents {m d : Nat} (h : f.Represents m) (hd : 0 < d) :
    f.roundMagnitude (m * d) d = m := by
  obtain ⟨c, e, hc, -, rfl⟩ := h
  have hshort := @roundMagnitude_of_short f c e hc
  unfold roundMagnitude at hshort ⊢
  dsimp only at hshort ⊢
  rw [Nat.div_one, Nat.one_mul] at hshort
  rw [Nat.mul_div_cancel _ hd, Nat.mul_comm d, divRoundEven_scaled hd]
  exact hshort

end Format

end AerospikePy.Lib.BinaryFloat
