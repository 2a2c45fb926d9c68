import Mathlib.Algebra.Ring.Nat
import Mathlib.Data.List.Nodup
import Mathlib.Data.List.Perm.Subperm

/-!
# Intervals of natural numbers

An interval is given by its first number and its length, which may be zero. Intervals
within the numbers below `n` cover each of them once exactly when no two of them have a
number in common and their lengths add up to `n`.
-/

namespace AerospikePy.Lib.Intervals

/-- The interval that starts at `first`, with `length` numbers. -/
structure Interval where
  first : Nat
  length : Nat

namespace Interval

def covers (s : Interval) (p : Nat) : Bool := decide (s.first ≤ p ∧ p < s.first + s.length)

/-- No number is in both. -/
def Apart (s t : Interval) : Prop := ∀ p, s.covers p = true → t.covers p = false

def numbers (s : Interval) : List Nat := List.range' s.first s.length

theorem mem_numbers {s : Interval} {p : Nat} : p ∈ s.numbers ↔ s.covers p = true := by
  rw [numbers, List.mem_range'_1, covers, decide_eq_true_eq]

theorem disjoint_numbers {s t : Interval} : List.Disjoint s.numbers t.numbers ↔ s.Apart t := by
  constructor
  · intro h p hs
    rw [← Bool.not_eq_true]
    exact fun ht => h (mem_numbers.mpr hs) (mem_numbers.mpr ht)
  · intro h p hs ht
    have hfalse := h p (mem_numbers.mp hs)
    rw [mem_numbers.mp ht] at hfalse
    cases hfalse

end Interval

theorem count_flatMap_numbers (p : Nat) (l : List Interval) :
    (l.flatMap Interval.numbers).count p = l.countP fun s => s.covers p := by
  induction l with
  | nil => rfl
  | cons s l ih =>
    have hhead : s.numbers.count p = if s.covers p = true then 1 else 0 := by
      rw [Interval.numbers, List.count_range_1', Interval.covers]
      simp only [decide_eq_true_eq]
    rw [List.flatMap_cons, List.count_append, ih, List.countP_cons, hhead, Nat.add_comm]

theorem length_flatMap_numbers (l : List Interval) :
    (l.flatMap Interval.numbers).length = (l.map Interval.length).sum := by
  induction l with
  | nil => rfl
  | cons s l ih =>
    rw [List.flatMap_cons, List.length_append, ih, List.map_cons, List.sum_cons, Interval.numbers,
      List.length_range']

theorem nodup_flatMap_numbers {l : List Interval} :
    (l.flatMap Interval.numbers).Nodup ↔ l.Pairwise Interval.Apart := by
  have hnumbers : ∀ s ∈ l, s.numbers.Nodup := fun s _ => List.nodup_range'
  rw [List.nodup_flatMap, and_iff_right hnumbers]
  exact ⟨fun h => h.imp Interval.disjoint_numbers.mp, fun h => h.imp Interval.disjoint_numbers.mpr⟩

/-- The numbers below `n` are covered once each. -/
theorem covers_once_iff {n : Nat} {l : List Interval} (hl : ∀ s ∈ l, s.first + s.length ≤ n) :
    (∀ p < n, (l.countP fun s => s.covers p) = 1) ↔
      l.Pairwise Interval.Apart ∧ (l.map Interval.length).sum = n := by
  have hbelow : ∀ p ∈ l.flatMap Interval.numbers, p < n := by
    intro p hp
    obtain ⟨s, hs, hmem⟩ := List.mem_flatMap.mp hp
    have hsn := hl s hs
    rw [Interval.numbers, List.mem_range'_1] at hmem
    omega
  rw [← nodup_flatMap_numbers, ← length_flatMap_numbers]
  simp only [← count_flatMap_numbers]
  constructor
  · intro honce
    have hperm : (l.flatMap Interval.numbers).Perm (List.range n) := by
      refine List.perm_iff_count.mpr fun p => ?_
      rw [List.count_range]
      by_cases hp : p < n
      · rw [honce p hp, if_pos hp]
      · rw [if_neg hp]
        exact List.count_eq_zero.mpr fun hmem => hp (hbelow p hmem)
    exact ⟨hperm.nodup_iff.mpr List.nodup_range, hperm.length_eq.trans List.length_range⟩
  · intro h p hp
    obtain ⟨hnodup, hlength⟩ := h
    have hsub : (l.flatMap Interval.numbers).Subperm (List.range n) :=
      hnodup.subperm fun q hq => List.mem_range.mpr (hbelow q hq)
    have hperm := hsub.perm_of_length_le (by simp [hlength])
    rw [hperm.count_eq, List.count_range, if_pos hp]

end AerospikePy.Lib.Intervals
