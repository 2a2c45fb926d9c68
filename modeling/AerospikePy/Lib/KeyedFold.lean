import Mathlib.Logic.Function.Basic
import Mathlib.Data.List.Sort

/-!
# Folding keyed actions over a store

A store is a function of its keys, and each action changes the cell of its own key.
A cell then sees only the actions on its key, in their order, so two lists of
actions with the same order on every key leave the same store.
-/

namespace AerospikePy.Lib.KeyedFold

variable {K S A : Type*} [DecidableEq K] (key : A → K) (act : A → S → S)

/-- Perform one action on the cell of its key. -/
def stepAt (store : K → S) (a : A) : K → S :=
  Function.update store (key a) (act a (store (key a)))

theorem foldl_stepAt (as : List A) (store : K → S) (k : K) :
    as.foldl (stepAt key act) store k =
      (as.filter fun a => key a = k).foldl (fun s a => act a s) (store k) := by
  induction as generalizing store with
  | nil => rfl
  | cons a as ih =>
    rw [List.foldl_cons, ih, List.filter_cons]
    by_cases h : key a = k
    · subst h
      simp [stepAt]
    · have hframe : stepAt key act store a k = store k := by
        simp [stepAt, Function.update_of_ne (Ne.symm h)]
      simp [h, hframe]

theorem foldl_stepAt_congr {as bs : List A} (store : K → S)
    (h : ∀ k, (as.filter fun a => key a = k) = bs.filter fun a => key a = k) :
    as.foldl (stepAt key act) store = bs.foldl (stepAt key act) store := by
  funext k
  rw [foldl_stepAt, foldl_stepAt, h k]

/-- A reordering that keeps the order `lt` within each key leaves the same store. -/
theorem foldl_stepAt_of_perm {as bs : List A} (lt : A → A → Prop)
    (hanti : ∀ a b, lt a b → lt b a → a = b) (hperm : as.Perm bs)
    (has : as.Pairwise fun a b => key a = key b → lt a b)
    (hbs : bs.Pairwise fun a b => key a = key b → lt a b) (store : K → S) :
    as.foldl (stepAt key act) store = bs.foldl (stepAt key act) store := by
  refine foldl_stepAt_congr key act store fun k => ?_
  have hwithin : ∀ {cs : List A}, (cs.Pairwise fun a b => key a = key b → lt a b) →
      (cs.filter fun a => key a = k).Pairwise lt := by
    intro cs hcs
    rw [List.pairwise_filter]
    refine hcs.imp fun hab ha hb => ?_
    simp only [decide_eq_true_eq] at ha hb
    exact hab (ha.trans hb.symm)
  exact (hperm.filter _).eq_of_pairwise (fun a b _ _ => hanti a b) (hwithin has) (hwithin hbs)

end AerospikePy.Lib.KeyedFold
