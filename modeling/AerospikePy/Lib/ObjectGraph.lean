import Mathlib.Data.List.Basic

/-!
# Objects that point at each other

A store is the list of its objects, and the address of an object its place there, so that
new objects go to the end. `points` tells at which addresses an object points. What can be
reached from an object is unchanged by an update of one that cannot be, and objects that
were added later are reached only through an update.
-/

namespace AerospikePy.Lib.ObjectGraph

variable {O : Type*} (points : O → List Nat)

inductive Reaches (s : List O) : Nat → Nat → Prop where
  | here (a : Nat) : Reaches s a a
  | through {a b c : Nat} {o : O} (ha : s[a]? = some o) (hb : b ∈ points o)
    (hc : Reaches s b c) : Reaches s a c

/-- Every object points at objects that are there. -/
def Complete (s : List O) : Prop := ∀ o ∈ s, ∀ b ∈ points o, b < s.length

variable {points} {s t new : List O} {a b c : Nat} {o : O}

/-- A set of addresses that the objects in it do not leave is not left on the way. -/
theorem Reaches.of_closed {P : Nat → Prop}
    (hclosed : ∀ a o, P a → s[a]? = some o → ∀ b ∈ points o, P b) (ha : P a)
    (h : Reaches points s a b) : P b := by
  induction h with
  | here => exact ha
  | through hget hb _ ih => exact ih (hclosed _ _ ha hget _ hb)

theorem Reaches.lt (hs : Complete points s) (ha : a < s.length) (h : Reaches points s a b) :
    b < s.length := by
  refine h.of_closed (P := (· < s.length)) ?_ ha
  intro a o _ hget b hb
  exact hs o (List.mem_of_getElem? hget) b hb

/-- The store matters only where it can be reached. -/
theorem Reaches.of_agree (hagree : ∀ b, Reaches points s a b → t[b]? = s[b]?)
    (h : Reaches points t a b) : Reaches points s a b := by
  induction h with
  | here => exact .here _
  | @through a b c o hget hb _ ih =>
    rw [hagree a (.here a)] at hget
    exact .through hget hb (ih fun d hd => hagree d (.through hget hb hd))

theorem Reaches.of_append (hs : Complete points s) (ha : a < s.length)
    (h : Reaches points (s ++ new) a b) : Reaches points s a b := by
  apply h.of_agree
  intro b hb
  exact List.getElem?_append_left (hb.lt hs ha)

theorem Reaches.of_set (hc : ¬ Reaches points s a c) (h : Reaches points (s.set c o) a b) :
    Reaches points s a b := by
  apply h.of_agree
  intro b hb
  rw [List.getElem?_set_ne]
  rintro rfl
  exact hc hb

/-- New objects that do not point at the old ones reach none of them. -/
theorem Reaches.ge_of_append (hnew : ∀ o ∈ new, ∀ b ∈ points o, s.length ≤ b)
    (ha : s.length ≤ a) (h : Reaches points (s ++ new) a b) : s.length ≤ b := by
  refine h.of_closed (P := (s.length ≤ ·)) ?_ ha
  intro a o ha hget b hb
  rw [List.getElem?_append_right ha] at hget
  exact hnew o (List.mem_of_getElem? hget) b hb

theorem complete_append (hs : Complete points s)
    (hnew : ∀ o ∈ new, ∀ b ∈ points o, b < (s ++ new).length) : Complete points (s ++ new) := by
  intro o ho b hb
  rcases List.mem_append.mp ho with ho | ho
  · have hlt := hs o ho b hb
    rw [List.length_append]
    omega
  · exact hnew o ho b hb

theorem complete_set (hs : Complete points s) (ho : ∀ b ∈ points o, b < s.length) (a : Nat) :
    Complete points (s.set a o) := by
  intro o' ho' b hb
  rw [List.length_set]
  rcases List.mem_or_eq_of_mem_set ho' with ho' | rfl
  · exact hs o' ho' b hb
  · exact ho b hb

end AerospikePy.Lib.ObjectGraph
