import Mathlib.Algebra.BigOperators.Group.List.Basic
import Mathlib.Algebra.Order.Ring.Int

/-!
# Texts with separators

Texts that are joined with a separator are read back if, and only if, none of them
contains it. What follows the last separator of a text is determined by the text.
-/

namespace AerospikePy.Lib.Separated

variable {α : Type} [DecidableEq α] {x : α}

theorem not_of_mem_splitOnP {β : Type} {p : β → Bool} {l w : List β} (h : w ∈ l.splitOnP p) :
    ∀ a ∈ w, p a = false := by
  induction l generalizing w with
  | nil =>
    obtain rfl : w = [] := by simpa using h
    exact fun a ha => absurd ha List.not_mem_nil
  | cons a l ih =>
    rw [List.splitOnP_cons_eq_if_modifyHead] at h
    by_cases ha : p a = true
    · rw [if_pos ha, List.mem_cons] at h
      rcases h with rfl | hrest
      · exact fun a ha => absurd ha List.not_mem_nil
      · exact ih hrest
    · rw [if_neg ha] at h
      cases hsplit : l.splitOnP p with
      | nil => simp [hsplit] at h
      | cons first rest =>
        rw [hsplit, List.modifyHead_cons, List.mem_cons] at h
        rcases h with rfl | hrest
        · intro b hb
          rcases List.mem_cons.mp hb with rfl | hb
          · exact Bool.not_eq_true _ ▸ ha
          · exact ih (hsplit ▸ List.mem_cons_self) b hb
        · exact ih (hsplit ▸ List.mem_cons_of_mem first hrest)

theorem not_mem_of_mem_splitOn {l w : List α} (h : w ∈ l.splitOn x) : x ∉ w := by
  intro hx
  rw [List.splitOn_eq_splitOnP] at h
  simpa using not_of_mem_splitOnP h x hx

/-- The parts are read back exactly when the separator is in none of them. -/
theorem splitOn_intercalate_iff {ls : List (List α)} (hls : ls ≠ []) :
    ([x].intercalate ls).splitOn x = ls ↔ ∀ l ∈ ls, x ∉ l := by
  constructor
  · intro h l hl
    rw [← h] at hl
    exact not_mem_of_mem_splitOn hl
  · intro h
    exact List.splitOn_intercalate x h hls

theorem of_mem_intercalate {β : Type} {a b : β} {ls : List (List β)}
    (h : a ∈ [b].intercalate ls) : a = b ∨ ∃ l ∈ ls, a ∈ l := by
  induction ls with
  | nil => simp at h
  | cons first rest ih =>
    by_cases hrest : rest = []
    · subst hrest
      rw [List.intercalate_singleton] at h
      exact .inr ⟨first, List.mem_singleton_self first, h⟩
    · rw [List.intercalate_cons_of_ne_nil hrest, List.mem_append, List.mem_append,
        List.mem_singleton] at h
      rcases h with (h | h) | h
      · exact .inr ⟨first, List.mem_cons_self, h⟩
      · exact .inl h
      · obtain heq | ⟨l, hl, ha⟩ := ih h
        · exact .inl heq
        · exact .inr ⟨l, List.mem_cons_of_mem first hl, ha⟩

theorem mem_intercalate {β : Type} {b : β} {ls : List (List β)} {l : List β} (hl : l ∈ ls) {a : β}
    (ha : a ∈ l) : a ∈ [b].intercalate ls := by
  induction ls with
  | nil => cases hl
  | cons first rest ih =>
    by_cases hrest : rest = []
    · subst hrest
      rw [List.mem_singleton.mp hl] at ha
      rwa [List.intercalate_singleton]
    · rw [List.intercalate_cons_of_ne_nil hrest, List.mem_append, List.mem_append]
      rcases List.mem_cons.mp hl with rfl | hl
      · exact .inl (.inl ha)
      · exact .inr (ih hl)

theorem count_intercalate {c : α} (hc : c ≠ x) (ls : List (List α)) :
    ([x].intercalate ls).count c = (ls.map (List.count c)).sum := by
  induction ls with
  | nil => rfl
  | cons first rest ih =>
    by_cases hrest : rest = []
    · subst hrest
      simp
    · have hsep : [x].count c = 0 := List.count_eq_zero.mpr (by simpa using hc)
      rw [List.intercalate_cons_of_ne_nil hrest, List.count_append, List.count_append, hsep, ih,
        List.map_cons, List.sum_cons, Nat.add_zero]

/-- What precedes and what follows the last `x`. -/
def rsplitOnce (x : α) : List α → Option (List α × List α)
  | [] => none
  | a :: l => match rsplitOnce x l with
    | some (pre, post) => some (a :: pre, post)
    | none => if a = x then some ([], l) else none

theorem rsplitOnce_eq_none {l : List α} : rsplitOnce x l = none ↔ x ∉ l := by
  induction l with
  | nil => simp [rsplitOnce]
  | cons a l ih =>
    rw [rsplitOnce, List.mem_cons, not_or, ← ih]
    cases rsplitOnce x l with
    | some r => simp
    | none => simp [eq_comm]

theorem rsplitOnce_eq_some {l pre post : List α} :
    rsplitOnce x l = some (pre, post) ↔ l = pre ++ x :: post ∧ x ∉ post := by
  constructor
  · intro h
    induction l generalizing pre with
    | nil => cases h
    | cons a l ih =>
      rw [rsplitOnce] at h
      cases hrest : rsplitOnce x l with
      | some r =>
        obtain ⟨pre', post'⟩ := r
        rw [hrest] at h
        obtain ⟨rfl, rfl⟩ := Prod.mk.inj (Option.some.inj h)
        obtain ⟨hl, hpost⟩ := ih hrest
        exact ⟨congrArg (a :: ·) hl, hpost⟩
      | none =>
        rw [hrest] at h
        obtain ⟨rfl, hsplit⟩ := Option.ite_none_right_eq_some.mp h
        obtain ⟨rfl, rfl⟩ := Prod.mk.inj (Option.some.inj hsplit)
        exact ⟨rfl, rsplitOnce_eq_none.mp hrest⟩
  · intro h
    obtain ⟨rfl, hpost⟩ := h
    induction pre with
    | nil =>
      rw [List.nil_append, rsplitOnce, rsplitOnce_eq_none.mpr hpost]
      exact if_pos rfl
    | cons a pre ih => rw [List.cons_append, rsplitOnce, ih]

end AerospikePy.Lib.Separated
