import AerospikePy.Lib.BinaryFloat

/-!
# Rounding at the top of a format

The magnitudes that a format rounds to one of its finite data end at a midpoint: that of
the largest finite datum and the next power of two. From there on a magnitude is encoded
as an infinity. What needs no more bits than the significand has is not rounded at all.
-/

namespace AerospikePy.Lib.BinaryFloat

theorem div_le_divRoundEven (n d : Nat) : n / d ≤ divRoundEven n d := by
  unfold divRoundEven
  dsimp only
  split
  · omega
  · split <;> omega

/-- Below the midpoint of `k` and its successor. -/
theorem divRoundEven_le {n d k : Nat} (h : 2 * n < (2 * k + 1) * d) : divRoundEven n d ≤ k := by
  have hd : 0 < d := by
    apply Nat.pos_of_ne_zero
    intro hzero
    rw [hzero, Nat.mul_zero] at h
    omega
  have hsplit : d * (n / d) + n % d = n := Nat.div_add_mod n d
  have hq : n / d ≤ k := by
    apply Nat.lt_succ_iff.mp
    rw [Nat.div_lt_iff_lt_mul hd, Nat.succ_mul]
    rw [Nat.add_mul, Nat.mul_assoc] at h
    omega
  unfold divRoundEven
  dsimp only
  by_cases heq : n / d = k
  · -- the remainder is below the half
    have hr : 2 * (n % d) < d := by
      rw [heq, Nat.mul_comm] at hsplit
      rw [Nat.add_mul, Nat.mul_assoc] at h
      omega
    rw [if_pos hr]
    exact hq
  · split
    · exact hq
    · split <;> omega

/-- From the midpoint on, where the tie goes up. -/
theorem lt_divRoundEven {n d k : Nat} (hd : 0 < d) (hodd : k % 2 = 1)
    (h : (2 * k + 1) * d ≤ 2 * n) : k < divRoundEven n d := by
  have hsplit : d * (n / d) + n % d = n := Nat.div_add_mod n d
  have hr : n % d < d := Nat.mod_lt n hd
  have hq : k ≤ n / d := by
    rw [Nat.le_div_iff_mul_le hd]
    rw [Nat.add_mul, Nat.mul_assoc] at h
    omega
  by_cases heq : n / d = k
  · have hhalf : d ≤ 2 * (n % d) := by
      rw [heq, Nat.mul_comm] at hsplit
      rw [Nat.add_mul, Nat.mul_assoc] at h
      omega
    unfold divRoundEven
    dsimp only
    rw [if_neg (by omega)]
    split <;> omega
  · have hle := div_le_divRoundEven n d
    omega

theorem divRoundEven_mul {d : Nat} (hd : 0 < d) (q : Nat) : divRoundEven (q * d) d = q := by
  unfold divRoundEven
  dsimp only
  rw [Nat.mul_mod_left, Nat.mul_div_cancel q hd, if_pos (by omega)]

namespace Format

variable {f : Format}

/-- The largest finite magnitude. -/
def maxFinite (f : Format) : Nat := (2 ^ (f.fracBits + 1) - 1) * 2 ^ (f.topExp - 2)

theorem le_maxFinite_of_represents {m : Nat} (htop : 2 < f.topExp) (h : f.Represents m) :
    m ≤ f.maxFinite := by
  obtain ⟨c, e, hc, he, rfl⟩ := h
  unfold maxFinite
  apply Nat.mul_le_mul
  · omega
  · apply Nat.pow_le_pow_right (by decide)
    omega

/-- Twice the magnitude from which on the format has infinities only. -/
def overflowPoint (f : Format) : Nat := (2 ^ (f.fracBits + 2) - 1) * 2 ^ (f.topExp - 2)

theorem lt_overflowPoint_of_le {m d : Nat} (hd : 0 < d) (h : m ≤ f.maxFinite * d) :
    2 * m < f.overflowPoint * d := by
  have hdouble : 2 ^ (f.fracBits + 2) = 2 * 2 ^ (f.fracBits + 1) := by
    rw [Nat.pow_succ 2 (f.fracBits + 1), Nat.mul_comm]
  have hpos : 0 < 2 ^ (f.fracBits + 1) := Nat.two_pow_pos _
  have hlt : 2 * f.maxFinite < f.overflowPoint := by
    unfold maxFinite overflowPoint
    rw [← Nat.mul_assoc]
    apply Nat.mul_lt_mul_of_pos_right _ (Nat.two_pow_pos _)
    omega
  calc
    2 * m ≤ 2 * f.maxFinite * d := by
      rw [Nat.mul_assoc]
      exact Nat.mul_le_mul_left 2 h
    _ < f.overflowPoint * d := Nat.mul_lt_mul_of_pos_right hlt hd

/-- The bits that rounding drops. -/
theorem div_drop_lt (q : Nat) : q / 2 ^ (q.log2 - f.fracBits) < 2 ^ (f.fracBits + 1) := by
  rw [Nat.div_lt_iff_lt_mul (Nat.two_pow_pos _), ← Nat.pow_add]
  refine Nat.lt_of_lt_of_le (Nat.lt_log2_self (n := q)) ?_
  apply Nat.pow_le_pow_right (by omega)
  omega

theorem pow_le_roundMagnitude {n d k : Nat} (hd : 0 < d) (h : 2 ^ k * d ≤ n) :
    2 ^ k ≤ f.roundMagnitude n d := by
  have hk : 2 ^ k ≤ n / d := (Nat.le_div_iff_mul_le hd).mpr h
  have hzero : n / d ≠ 0 := by
    have hpos : 0 < 2 ^ k := Nat.two_pow_pos k
    omega
  have hlog : k ≤ (n / d).log2 := (Nat.le_log2 hzero).mpr hk
  have hdrop : (n / d).log2 - f.fracBits ≤ (n / d).log2 := Nat.sub_le _ _
  unfold roundMagnitude
  dsimp only
  generalize hL : (n / d).log2 - f.fracBits = drop at hdrop ⊢
  calc
    2 ^ k ≤ 2 ^ (n / d).log2 := Nat.pow_le_pow_right (by omega) hlog
    _ = 2 ^ ((n / d).log2 - drop) * 2 ^ drop := by rw [← Nat.pow_add, Nat.sub_add_cancel hdrop]
    _ ≤ n / d / 2 ^ drop * 2 ^ drop := by
      apply Nat.mul_le_mul_right
      rw [Nat.le_div_iff_mul_le (Nat.two_pow_pos drop), ← Nat.pow_add, Nat.sub_add_cancel hdrop]
      exact Nat.log2_self_le hzero
    _ ≤ divRoundEven n (d * 2 ^ drop) * 2 ^ drop := by
      rw [Nat.div_div_eq_div_mul]
      exact Nat.mul_le_mul_right _ (div_le_divRoundEven _ _)

theorem roundMagnitude_le_pow {n d k : Nat} (hd : 0 < d) (h : n ≤ 2 ^ k * d) :
    f.roundMagnitude n d ≤ 2 ^ k := by
  have hq : n / d ≤ 2 ^ k := by
    apply Nat.div_le_of_le_mul
    rwa [Nat.mul_comm]
  have hdrop : (n / d).log2 - f.fracBits ≤ k := by
    have hlog : (n / d).log2 ≤ k := by
      by_cases hzero : n / d = 0
      · rw [hzero, Nat.log2_zero]
        exact Nat.zero_le k
      · apply Nat.lt_succ_iff.mp
        rw [Nat.log2_lt hzero, Nat.pow_succ]
        have hpos : 0 < 2 ^ k := Nat.two_pow_pos k
        omega
    omega
  unfold roundMagnitude
  dsimp only
  generalize (n / d).log2 - f.fracBits = drop at hdrop ⊢
  have hsplit : 2 ^ k = 2 ^ (k - drop) * 2 ^ drop := by
    rw [← Nat.pow_add, Nat.sub_add_cancel hdrop]
  rw [hsplit]
  apply Nat.mul_le_mul_right
  apply divRoundEven_le
  have hpos : 0 < d * 2 ^ drop := Nat.mul_pos hd (Nat.two_pow_pos drop)
  have hmul : 2 ^ (k - drop) * (d * 2 ^ drop) = 2 ^ k * d := by
    rw [hsplit, Nat.mul_comm d, Nat.mul_assoc]
  rw [Nat.add_mul, Nat.mul_assoc, hmul]
  omega

/-- Below the overflow point a magnitude is rounded to one of the format. -/
theorem represents_roundMagnitude {n d : Nat} (htop : 2 < f.topExp) (hd : 0 < d)
    (h : 2 * n < f.overflowPoint * d) : f.Represents (f.roundMagnitude n d) := by
  have hdouble : 2 ^ (f.fracBits + 2) = 2 * 2 ^ (f.fracBits + 1) := by
    rw [Nat.pow_succ 2 (f.fracBits + 1), Nat.mul_comm]
  have hpos : 0 < 2 ^ (f.fracBits + 1) := Nat.two_pow_pos _
  have hq := div_drop_lt (f := f) (n / d)
  unfold roundMagnitude
  dsimp only
  generalize hdrop : (n / d).log2 - f.fracBits = drop at hq ⊢
  rw [Nat.div_div_eq_div_mul] at hq
  have hle : divRoundEven n (d * 2 ^ drop) ≤ 2 ^ (f.fracBits + 1) := by
    apply divRoundEven_le
    have hlt := (Nat.div_lt_iff_lt_mul (Nat.mul_pos hd (Nat.two_pow_pos drop))).mp hq
    rw [Nat.add_mul, Nat.mul_assoc]
    omega
  -- the drop is at most that of the largest magnitude
  have hexp : drop ≤ f.topExp - 2 := by
    have hlt : n / d < 2 ^ (f.fracBits + 1 + (f.topExp - 2)) := by
      rw [Nat.div_lt_iff_lt_mul hd, Nat.pow_add]
      unfold overflowPoint at h
      have hmul : (2 ^ (f.fracBits + 2) - 1) * 2 ^ (f.topExp - 2) * d ≤
          2 * (2 ^ (f.fracBits + 1) * 2 ^ (f.topExp - 2) * d) := by
        rw [← Nat.mul_assoc 2, ← Nat.mul_assoc 2]
        apply Nat.mul_le_mul_right
        apply Nat.mul_le_mul_right
        omega
      omega
    by_cases hzero : n / d = 0
    · rw [hzero, Nat.log2_zero] at hdrop
      omega
    · have hlog := (Nat.log2_lt hzero).mpr hlt
      omega
  by_cases htie : divRoundEven n (d * 2 ^ drop) = 2 ^ (f.fracBits + 1)
  · -- rounded up to the next power of two
    have hlt : drop < f.topExp - 2 := by
      apply Nat.lt_of_le_of_ne hexp
      intro heq
      have hbelow : divRoundEven n (d * 2 ^ drop) ≤ 2 ^ (f.fracBits + 1) - 1 := by
        apply divRoundEven_le
        rw [show 2 * (2 ^ (f.fracBits + 1) - 1) + 1 = 2 ^ (f.fracBits + 2) - 1 by omega, heq,
          Nat.mul_comm d, ← Nat.mul_assoc]
        exact h
      omega
    refine ⟨2 ^ f.fracBits, drop + 1, ?_, Or.inr ⟨Nat.le_refl _, by omega⟩, ?_⟩
    · exact Nat.pow_lt_pow_right (by omega) (by omega)
    · rw [htie, ← Nat.pow_add, ← Nat.pow_add]
      congr 1
      omega
  · refine ⟨_, drop, by omega, ?_, rfl⟩
    by_cases hzero : drop = 0
    · exact Or.inl hzero
    · refine Or.inr ⟨?_, by omega⟩
      have hne : n / d ≠ 0 := by
        intro h0
        rw [h0, Nat.log2_zero] at hdrop
        omega
      have hlow := Nat.log2_self_le hne
      rw [show (n / d).log2 = f.fracBits + drop by omega, Nat.pow_add] at hlow
      calc
        2 ^ f.fracBits ≤ n / d / 2 ^ drop := by
          rwa [Nat.le_div_iff_mul_le (Nat.two_pow_pos drop)]
        _ = n / (d * 2 ^ drop) := Nat.div_div_eq_div_mul _ _ _
        _ ≤ divRoundEven n (d * 2 ^ drop) := div_le_divRoundEven _ _

/-- From the overflow point on a magnitude is rounded past every exponent. -/
theorem overflow_le_roundMagnitude {n d : Nat} (hd : 0 < d)
    (h : f.overflowPoint * d ≤ 2 * n) :
    2 ^ (f.fracBits + 1 + (f.topExp - 2)) ≤ f.roundMagnitude n d := by
  have hdouble : 2 ^ (f.fracBits + 2) = 2 * 2 ^ (f.fracBits + 1) := by
    rw [Nat.pow_succ 2 (f.fracBits + 1), Nat.mul_comm]
  have hdouble' : 2 ^ (f.fracBits + 1) = 2 * 2 ^ f.fracBits := by
    rw [Nat.pow_succ 2 f.fracBits, Nat.mul_comm]
  have hpos : 0 < 2 ^ f.fracBits := Nat.two_pow_pos _
  by_cases hbig : 2 ^ (f.fracBits + 1 + (f.topExp - 2)) * d ≤ n
  · exact pow_le_roundMagnitude hd hbig
  · -- in the last binade, where the drop is known
    have hlow : 2 ^ (f.fracBits + (f.topExp - 2)) * d ≤ n := by
      have hmul : 2 * (2 ^ (f.fracBits + (f.topExp - 2)) * d) ≤ f.overflowPoint * d := by
        unfold overflowPoint
        rw [Nat.pow_add, ← Nat.mul_assoc 2, ← Nat.mul_assoc 2]
        apply Nat.mul_le_mul_right
        apply Nat.mul_le_mul_right
        omega
      omega
    have hne : n / d ≠ 0 := by
      have hle := (Nat.le_div_iff_mul_le hd).mpr hlow
      have hpos' : 0 < 2 ^ (f.fracBits + (f.topExp - 2)) := Nat.two_pow_pos _
      omega
    have hlog : (n / d).log2 = f.fracBits + (f.topExp - 2) := by
      refine (Nat.log2_eq_iff hne).mpr ⟨(Nat.le_div_iff_mul_le hd).mpr hlow, ?_⟩
      rw [Nat.div_lt_iff_lt_mul hd, Nat.add_right_comm]
      omega
    unfold roundMagnitude
    dsimp only
    rw [hlog, Nat.add_sub_cancel_left, Nat.pow_add]
    apply Nat.mul_le_mul_right
    have hlt : 2 ^ (f.fracBits + 1) - 1 < divRoundEven n (d * 2 ^ (f.topExp - 2)) := by
      apply lt_divRoundEven (Nat.mul_pos hd (Nat.two_pow_pos _)) (by omega)
      rw [show 2 * (2 ^ (f.fracBits + 1) - 1) + 1 = 2 ^ (f.fracBits + 2) - 1 by omega,
        Nat.mul_comm d, ← Nat.mul_assoc]
      exact h
    omega

/-- What is past every exponent is encoded as an infinity. -/
theorem decode_encodeFinite_overflow {m : Nat} (htop : 2 < f.topExp)
    (h : 2 ^ (f.fracBits + 1 + (f.topExp - 2)) ≤ m) (negative : Bool) :
    f.decode (f.encodeFinite negative m) = .infinite negative := by
  have hfrac : 2 ^ f.fracBits ≤ m := by
    refine Nat.le_trans ?_ h
    apply Nat.pow_le_pow_right (by omega)
    omega
  have hne : m ≠ 0 := by
    have hpos : 0 < 2 ^ f.fracBits := Nat.two_pow_pos _
    omega
  have hlog : f.fracBits + 1 + (f.topExp - 2) ≤ m.log2 := (Nat.le_log2 hne).mpr h
  have henc : f.topExp * 2 ^ f.fracBits ≤ f.encodeMagnitude m := by
    unfold encodeMagnitude
    rw [if_neg (by omega)]
    dsimp only
    have hexp : f.topExp * 2 ^ f.fracBits ≤ (m.log2 - f.fracBits + 1) * 2 ^ f.fracBits := by
      apply Nat.mul_le_mul_right
      omega
    omega
  unfold encodeFinite
  rw [Nat.min_eq_right henc, decode_sign infinity_lt_signBit]
  dsimp only
  rw [Nat.mul_div_cancel _ (Nat.two_pow_pos _), Nat.mul_mod_left, if_pos rfl, if_pos rfl]

/-- A short significand is not rounded. -/
theorem roundMagnitude_of_short {c e : Nat} (hc : c < 2 ^ (f.fracBits + 1)) :
    f.roundMagnitude (c * 2 ^ e) 1 = c * 2 ^ e := by
  unfold roundMagnitude
  dsimp only
  rw [Nat.div_one, Nat.one_mul]
  have hdrop : (c * 2 ^ e).log2 - f.fracBits ≤ e := by
    by_cases hzero : c = 0
    · rw [hzero, Nat.zero_mul, Nat.log2_zero]
      omega
    · have hne : c * 2 ^ e ≠ 0 := Nat.mul_ne_zero hzero (Nat.ne_of_gt (Nat.two_pow_pos e))
      have hlt : c * 2 ^ e < 2 ^ (f.fracBits + 1 + e) := by
        rw [Nat.pow_add]
        exact Nat.mul_lt_mul_of_pos_right hc (Nat.two_pow_pos e)
      have hlog := (Nat.log2_lt hne).mpr hlt
      omega
  generalize (c * 2 ^ e).log2 - f.fracBits = drop at hdrop ⊢
  have hsplit : c * 2 ^ e = c * 2 ^ (e - drop) * 2 ^ drop := by
    rw [Nat.mul_assoc, ← Nat.pow_add, Nat.sub_add_cancel hdrop]
  rw [hsplit, divRoundEven_mul (Nat.two_pow_pos drop)]

end Format

end AerospikePy.Lib.BinaryFloat
