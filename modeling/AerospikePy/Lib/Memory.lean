import Mathlib.Logic.Function.Basic
import Mathlib.Data.List.Basic

/-!
# Stores into a memory

A memory is a function of addresses. Stores are performed in order, and the last one at
an address stays. Of stores that come in parts, the only part that reaches an address
decides what is there.
-/

namespace AerospikePy.Lib.Memory

variable {A B : Type*} [DecidableEq A]

def stored (mem : A → B) (ws : List (A × B)) : A → B :=
  ws.foldl (fun m w => Function.update m w.1 w.2) mem

@[simp] theorem stored_nil (mem : A → B) : stored mem [] = mem := rfl

theorem stored_append (mem : A → B) (ws vs : List (A × B)) :
    stored mem (ws ++ vs) = stored (stored mem ws) vs := List.foldl_append

theorem stored_cons (mem : A → B) (w : A × B) (ws : List (A × B)) :
    stored mem (w :: ws) = stored (Function.update mem w.1 w.2) ws := rfl

theorem stored_of_outside {mem : A → B} {ws : List (A × B)} {a : A} (h : ∀ w ∈ ws, w.1 ≠ a) :
    stored mem ws a = mem a := by
  induction ws generalizing mem with
  | nil => rfl
  | cons w ws ih =>
    obtain ⟨hw, hws⟩ := List.forall_mem_cons.mp h
    rw [stored_cons, ih hws, Function.update_of_ne hw.symm]

/-- What is at an address depends on nothing that was at another one. -/
theorem stored_congr {mem mem' : A → B} {a : A} (h : mem a = mem' a) (ws : List (A × B)) :
    stored mem ws a = stored mem' ws a := by
  induction ws generalizing mem mem' with
  | nil => exact h
  | cons w ws ih =>
    rw [stored_cons, stored_cons]
    apply ih
    by_cases hw : a = w.1
    · rw [hw, Function.update_self, Function.update_self]
    · rw [Function.update_of_ne hw, Function.update_of_ne hw, h]

/-- Stores at distinct addresses all stay. -/
theorem stored_of_mem {mem : A → B} {ws : List (A × B)} (hnodup : (ws.map (·.1)).Nodup) {w : A × B}
    (hw : w ∈ ws) : stored mem ws w.1 = w.2 := by
  induction ws generalizing mem with
  | nil => cases hw
  | cons v ws ih =>
    rw [List.map_cons, List.nodup_cons] at hnodup
    rw [stored_cons]
    rcases List.mem_cons.mp hw with rfl | hw
    · rw [stored_of_outside, Function.update_self]
      intro v hv heq
      apply hnodup.1
      rw [← heq]
      exact List.mem_map_of_mem hv
    · exact ih hnodup.2 hw

/-- The same stores, at other addresses. -/
theorem stored_map {A' : Type*} [DecidableEq A'] {f : A → A'} (hf : Function.Injective f)
    {mem : A → B} {mem' : A' → B} (hmem : ∀ a, mem' (f a) = mem a) (ws : List (A × B)) (a : A) :
    stored mem' (ws.map fun w => (f w.1, w.2)) (f a) = stored mem ws a := by
  induction ws generalizing mem mem' with
  | nil => exact hmem a
  | cons w ws ih =>
    rw [List.map_cons, stored_cons, stored_cons]
    refine ih fun b => ?_
    by_cases hb : b = w.1
    · rw [hb, Function.update_self, Function.update_self]
    · rw [Function.update_of_ne hb, Function.update_of_ne fun h => hb (hf h), hmem]

theorem stored_flatten {parts : List (List (A × B))} {i : Nat} {part : List (A × B)} {a : A}
    (hpart : parts[i]? = some part)
    (hother : ∀ (j : Nat) other, parts[j]? = some other → j ≠ i → ∀ w ∈ other, w.1 ≠ a)
    (mem : A → B) : stored mem parts.flatten a = stored mem part a := by
  induction parts generalizing i mem with
  | nil => cases hpart
  | cons first parts ih =>
    rw [List.flatten_cons, stored_append]
    cases i with
    | zero =>
      obtain rfl : first = part := Option.some.inj hpart
      refine stored_of_outside fun w hw => ?_
      obtain ⟨other, hmem, hwo⟩ := List.mem_flatten.mp hw
      obtain ⟨j, hj⟩ := List.mem_iff_getElem?.mp hmem
      exact hother (j + 1) other hj (Nat.succ_ne_zero j) w hwo
    | succ i =>
      have hrest : ∀ (j : Nat) other, parts[j]? = some other → j ≠ i → ∀ w ∈ other, w.1 ≠ a :=
        fun j other hj hne => hother (j + 1) other hj fun h => hne (Nat.succ.inj h)
      have hfirst : stored mem first a = mem a :=
        stored_of_outside (hother 0 first rfl (Nat.succ_ne_zero i).symm)
      rw [ih hpart hrest, stored_congr hfirst]

theorem stored_flatten_of_outside {parts : List (List (A × B))} {a : A}
    (h : ∀ part ∈ parts, ∀ w ∈ part, w.1 ≠ a) (mem : A → B) :
    stored mem parts.flatten a = mem a := by
  refine stored_of_outside fun w hw => ?_
  obtain ⟨part, hpart, hwp⟩ := List.mem_flatten.mp hw
  exact h part hpart w hwp

end AerospikePy.Lib.Memory
