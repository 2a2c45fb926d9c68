import Mathlib.Data.List.Forall2
import Mathlib.Data.List.Perm.Basic

/-!
# Tallies

Entries of a list that change one at a time, each of which yields at most one item once it
is settled: the items yielded so far, in whatever order they came, are what the list shows.
-/

namespace AerospikePy.Lib.Tally

variable {α β : Type*}

theorem filterMap_set_of_eq {f : α → Option β} {l : List α} {i : Nat} {x y : α}
    (h : l[i]? = some x) (hf : f y = f x) : (l.set i y).filterMap f = l.filterMap f := by
  induction l generalizing i with
  | nil => simp at h
  | cons a l ih =>
    cases i with
    | zero =>
      obtain rfl : a = x := by simpa using h
      rw [List.set_cons_zero, List.filterMap_cons, List.filterMap_cons, hf]
    | succ i =>
      have hrest := ih (by simpa using h)
      rw [List.set_cons_succ, List.filterMap_cons, List.filterMap_cons, hrest]

/-- An entry that had yielded nothing adds what it yields now. -/
theorem filterMap_set_perm {f : α → Option β} {l : List α} {i : Nat} {x y : α}
    (h : l[i]? = some x) (hf : f x = none) :
    ((l.set i y).filterMap f).Perm (l.filterMap f ++ (f y).toList) := by
  induction l generalizing i with
  | nil => simp at h
  | cons a l ih =>
    cases i with
    | zero =>
      obtain rfl : a = x := by simpa using h
      rw [List.set_cons_zero, List.filterMap_cons, List.filterMap_cons, hf]
      cases f y with
      | none => simp
      | some v => exact (List.perm_append_singleton v _).symm
    | succ i =>
      have hrest := ih (by simpa using h)
      rw [List.set_cons_succ, List.filterMap_cons, List.filterMap_cons]
      cases f a with
      | none => exact hrest
      | some v => exact hrest.cons v

theorem forall₂_set {R : α → β → Prop} {l : List α} {m : List β} (h : List.Forall₂ R l m)
    {x : α} {y : β} (hxy : R x y) (i : Nat) : List.Forall₂ R (l.set i x) (m.set i y) := by
  induction h generalizing i with
  | nil => exact .nil
  | cons hab hrest ih =>
    cases i with
    | zero => exact .cons hxy hrest
    | succ i => exact .cons hab (ih i)

theorem forall₂_getElem? {R : α → β → Prop} {l : List α} {m : List β} (h : List.Forall₂ R l m)
    {i : Nat} {x : α} (hx : l[i]? = some x) : ∃ y, m[i]? = some y ∧ R x y := by
  induction h generalizing i with
  | nil => simp at hx
  | cons hab hrest ih =>
    cases i with
    | zero =>
      obtain rfl := Option.some.inj hx
      exact ⟨_, rfl, hab⟩
    | succ i => exact ih hx

end AerospikePy.Lib.Tally
