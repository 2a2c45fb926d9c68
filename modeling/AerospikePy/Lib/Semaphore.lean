import Mathlib.Data.List.Count
import Mathlib.Logic.Function.Basic

/-!
# Counting semaphores

A family of semaphores indexed by `R` and the owners that draw on them, numbered in the
order they enrol. An owner has room for one permit. `taken` and `returned` are history:
the owners in the order in which they took a permit and gave one back.
-/

namespace AerospikePy.Lib.Semaphore

variable {R : Type*}

structure Pool (R : Type*) where
  free : R → Nat
  holding : List (Option R)
  taken : List Nat
  returned : List Nat

def Pool.new (size : R → Nat) : Pool R := ⟨size, [], [], []⟩

/-- A new owner holds nothing. -/
def Pool.enroll (p : Pool R) : Pool R := { p with holding := p.holding ++ [none] }

def Pool.take [DecidableEq R] (p : Pool R) (i : Nat) (r : R) : Option (Pool R) :=
  if 0 < p.free r ∧ p.holding[i]? = some none then
    some { p with
      free := Function.update p.free r (p.free r - 1)
      holding := p.holding.set i (some r)
      taken := p.taken ++ [i] }
  else none

/-- The owner drops what it holds. -/
def Pool.giveBack [DecidableEq R] (p : Pool R) (i : Nat) : Pool R :=
  match p.holding[i]? with
  | some (some r) => { p with
      free := Function.update p.free r (p.free r + 1)
      holding := p.holding.set i none
      returned := p.returned ++ [i] }
  | _ => p

/-- The permits of a semaphore that are out. -/
def Pool.outstanding [DecidableEq R] (p : Pool R) (r : R) : Nat := p.holding.count (some r)

/-- What the owner holds, none before it enrols. -/
def Pool.held (p : Pool R) (i : Nat) : Option R := p.holding[i]?.join

/-- Every permit is free or out, and an owner that holds nothing has given back as many
permits as it took. -/
structure Sound [DecidableEq R] (size : R → Nat) (p : Pool R) : Prop where
  conserved : ∀ r, p.free r + p.outstanding r = size r
  balanced : ∀ i, p.returned.count i + (p.held i).toList.length = p.taken.count i

@[simp] theorem enroll_taken (p : Pool R) : p.enroll.taken = p.taken := rfl

@[simp] theorem enroll_held (p : Pool R) (i : Nat) : p.enroll.held i = p.held i := by
  unfold Pool.held Pool.enroll
  by_cases hi : i < p.holding.length
  · rw [List.getElem?_append_left hi]
  · have hle : p.holding.length ≤ i := Nat.le_of_not_lt hi
    rw [List.getElem?_append_right hle, List.getElem?_eq_none hle]
    cases i - p.holding.length <;> simp

theorem held_eq_some {p : Pool R} {i : Nat} {r : R} :
    p.held i = some r ↔ p.holding[i]? = some (some r) := by
  unfold Pool.held
  cases p.holding[i]? <;> simp

theorem held_set {p : Pool R} {i : Nat} (hi : i < p.holding.length) (v : Option R) (j : Nat) :
    (p.holding.set i v)[j]?.join = if j = i then v else p.held j := by
  by_cases hij : j = i
  · subst hij
    rw [if_pos rfl, List.getElem?_set_self hi]
    rfl
  · rw [if_neg hij, List.getElem?_set_ne (Ne.symm hij)]
    rfl

variable [DecidableEq R]

theorem take_eq_some {p q : Pool R} {i : Nat} {r : R} (h : p.take i r = some q) :
    0 < p.free r ∧ p.holding[i]? = some none ∧
      q = { p with
        free := Function.update p.free r (p.free r - 1)
        holding := p.holding.set i (some r)
        taken := p.taken ++ [i] } := by
  unfold Pool.take at h
  obtain ⟨⟨hfree, hnone⟩, hq⟩ := Option.ite_none_right_eq_some.mp h
  exact ⟨hfree, hnone, (Option.some.inj hq).symm⟩

theorem giveBack_of_held {p : Pool R} {i : Nat} {r : R} (h : p.held i = some r) :
    p.giveBack i = { p with
      free := Function.update p.free r (p.free r + 1)
      holding := p.holding.set i none
      returned := p.returned ++ [i] } := by
  unfold Pool.giveBack
  rw [held_eq_some.mp h]

theorem giveBack_of_none {p : Pool R} {i : Nat} (h : p.held i = none) : p.giveBack i = p := by
  unfold Pool.giveBack
  unfold Pool.held at h
  split
  · rename_i r hr
    rw [hr] at h
    cases h
  · rfl

theorem giveBack_taken (p : Pool R) (i : Nat) : (p.giveBack i).taken = p.taken := by
  cases h : p.held i with
  | none => rw [giveBack_of_none h]
  | some r => rw [giveBack_of_held h]

theorem take_held {p q : Pool R} {i : Nat} {r : R} (h : p.take i r = some q) (j : Nat) :
    q.held j = if j = i then some r else p.held j := by
  obtain ⟨-, hnone, rfl⟩ := take_eq_some h
  obtain ⟨hi, -⟩ := List.getElem?_eq_some_iff.mp hnone
  exact held_set hi (some r) j

theorem giveBack_held (p : Pool R) (i j : Nat) :
    (p.giveBack i).held j = if j = i then none else p.held j := by
  cases h : p.held i with
  | none =>
    rw [giveBack_of_none h]
    split
    · rename_i hij
      rw [hij, h]
    · rfl
  | some r =>
    rw [giveBack_of_held h]
    obtain ⟨hi, -⟩ := List.getElem?_eq_some_iff.mp (held_eq_some.mp h)
    exact held_set hi none j

theorem take_outstanding {p q : Pool R} {i : Nat} {r : R} (h : p.take i r = some q) (r' : R) :
    q.outstanding r' = p.outstanding r' + if r' = r then 1 else 0 := by
  obtain ⟨-, hnone, rfl⟩ := take_eq_some h
  obtain ⟨hi, hget⟩ := List.getElem?_eq_some_iff.mp hnone
  unfold Pool.outstanding
  rw [List.count_set hi, hget]
  by_cases hr : r' = r
  · subst hr
    simp
  · simp [hr, Ne.symm hr]

theorem giveBack_outstanding {p : Pool R} {i : Nat} {r : R} (h : p.held i = some r) (r' : R) :
    ((p.giveBack i).outstanding r' + if r' = r then 1 else 0) = p.outstanding r' := by
  obtain ⟨hi, hget⟩ := List.getElem?_eq_some_iff.mp (held_eq_some.mp h)
  rw [giveBack_of_held h]
  unfold Pool.outstanding
  rw [List.count_set hi, hget]
  by_cases hr : r' = r
  · subst hr
    have hpos : 0 < p.holding.count (some r') :=
      List.count_pos_iff.mpr (hget ▸ List.getElem_mem hi)
    simp
    omega
  · simp [hr, Ne.symm hr]

theorem sound_new (size : R → Nat) : Sound size (.new size) where
  conserved r := by simp [Pool.new, Pool.outstanding]
  balanced i := by simp [Pool.new, Pool.held]

theorem Sound.enroll {size : R → Nat} {p : Pool R} (h : Sound size p) : Sound size p.enroll where
  conserved r := by
    have hcount : p.enroll.outstanding r = p.outstanding r := by
      simp [Pool.enroll, Pool.outstanding]
    rw [hcount]
    exact h.conserved r
  balanced i := by
    rw [enroll_held]
    exact h.balanced i

theorem Sound.take {size : R → Nat} {p q : Pool R} (h : Sound size p) {i : Nat} {r : R}
    (htake : p.take i r = some q) : Sound size q := by
  have hout := take_outstanding htake
  have hheld := take_held htake
  obtain ⟨hfree, hnone, rfl⟩ := take_eq_some htake
  constructor
  · intro r'
    have hconserved := h.conserved r'
    rw [hout r']
    dsimp only
    by_cases hr : r' = r
    · subst hr
      rw [Function.update_self, if_pos rfl]
      omega
    · rw [Function.update_of_ne hr, if_neg hr]
      exact hconserved
  · intro j
    have hbalanced := h.balanced j
    rw [hheld j, List.count_append]
    by_cases hij : j = i
    · subst hij
      have hempty : p.held j = none := by
        rw [Pool.held, hnone]
        rfl
      rw [hempty] at hbalanced
      simp at hbalanced ⊢
      omega
    · rw [if_neg hij]
      simpa [Ne.symm hij] using hbalanced

theorem Sound.giveBack {size : R → Nat} {p : Pool R} (h : Sound size p) (i : Nat) :
    Sound size (p.giveBack i) := by
  have hheld := giveBack_held p i
  cases hmine : p.held i with
  | none =>
    rw [giveBack_of_none hmine]
    exact h
  | some r =>
    have hout := giveBack_outstanding hmine
    rw [giveBack_of_held hmine] at hheld hout ⊢
    constructor
    · intro r'
      have hconserved := h.conserved r'
      rw [← hout r'] at hconserved
      dsimp only
      by_cases hr : r' = r
      · subst hr
        rw [if_pos rfl] at hconserved
        rw [Function.update_self]
        omega
      · rw [if_neg hr] at hconserved
        rw [Function.update_of_ne hr]
        exact hconserved
    · intro j
      have hbalanced := h.balanced j
      rw [hheld j, List.count_append]
      by_cases hij : j = i
      · subst hij
        rw [hmine] at hbalanced
        simpa using hbalanced
      · rw [if_neg hij]
        simpa [Ne.symm hij] using hbalanced

theorem Sound.outstanding_le {size : R → Nat} {p : Pool R} (h : Sound size p) (r : R) :
    p.outstanding r ≤ size r := by
  have hconserved := h.conserved r
  omega

theorem Sound.returned_le {size : R → Nat} {p : Pool R} (h : Sound size p) (i : Nat) :
    p.returned.count i ≤ p.taken.count i := by
  have hbalanced := h.balanced i
  omega

theorem Sound.returned_eq {size : R → Nat} {p : Pool R} (h : Sound size p) {i : Nat}
    (hnone : p.held i = none) : p.returned.count i = p.taken.count i := by
  have hbalanced := h.balanced i
  rw [hnone] at hbalanced
  exact hbalanced

end AerospikePy.Lib.Semaphore
