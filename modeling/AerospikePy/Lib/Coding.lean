import Mathlib.Data.List.Nodup

/-!
# Tables of codes

A finite type whose members carry codes, with the list of its members. Reading a code
back finds the one member that carries it, when all codes are different.
-/

namespace AerospikePy.Lib.Coding

variable {A C : Type*} [DecidableEq C] {code : A → C} {all : List A}

theorem find?_code_eq_some (hall : ∀ a, a ∈ all) (hcodes : (all.map code).Nodup) {c : C} {a : A} :
    all.find? (fun a => decide (code a = c)) = some a ↔ code a = c := by
  constructor
  · intro h
    simpa using List.find?_some h
  · intro h
    cases hfind : all.find? fun a => decide (code a = c) with
    | none =>
      have hno := List.find?_eq_none.mp hfind a (hall a)
      simp [h] at hno
    | some b =>
      have hcode : code b = c := by simpa using List.find?_some hfind
      rw [List.inj_on_of_nodup_map hcodes (hall b) (hall a) (hcode.trans h.symm)]

theorem find?_code_of_mem (hall : ∀ a, a ∈ all) (hcodes : (all.map code).Nodup) (a : A) :
    all.find? (fun b => decide (code b = code a)) = some a :=
  (find?_code_eq_some hall hcodes).mpr rfl

end AerospikePy.Lib.Coding
