import Mathlib.Data.List.Basic
import Mathlib.Data.List.Sort

/-!
# Overlaying indexed entries on a list

`overlay xs us` writes the entries of `us` at their positions, one after the
other, as a merge loop does. `lastAt i us` is the entry the list of writes ends
up giving to position `i`. The two agree wherever `xs` has a position `i`.
-/

namespace AerospikePy.Lib.Overlay

variable {α β : Type*}

/-- The last entry that the writes `us` give to position `i`. -/
def lastAt (i : Nat) (us : List (Nat × α)) : Option α :=
  (us.reverse.find? fun u => u.1 == i).map (·.2)

/-- The writes `us` performed on `xs` in order. -/
def overlay (xs : List α) (us : List (Nat × α)) : List α :=
  us.foldl (fun acc u => acc.set u.1 u.2) xs

@[simp] theorem lastAt_nil (i : Nat) : lastAt i ([] : List (Nat × α)) = none := rfl

theorem lastAt_append (i : Nat) (us vs : List (Nat × α)) :
    lastAt i (us ++ vs) = (lastAt i vs).or (lastAt i us) := by
  simp [lastAt, List.find?_append, Option.map_or]

theorem lastAt_cons (i : Nat) (u : Nat × α) (us : List (Nat × α)) :
    lastAt i (u :: us) = (lastAt i us).or (if u.1 = i then some u.2 else none) := by
  rw [show u :: us = [u] ++ us from rfl, lastAt_append]
  by_cases h : u.1 = i <;> simp [lastAt, h]

theorem mem_of_lastAt {i : Nat} {us : List (Nat × α)} {x : α} (h : lastAt i us = some x) :
    (i, x) ∈ us := by
  obtain ⟨u, hu, rfl⟩ := Option.map_eq_some_iff.mp h
  have hi : u.1 = i := by simpa using List.find?_some hu
  have hm := List.mem_reverse.mp (List.mem_of_find?_eq_some hu)
  rwa [← hi]

theorem lastAt_eq_none_iff {i : Nat} {us : List (Nat × α)} :
    lastAt i us = none ↔ ∀ x, (i, x) ∉ us := by
  constructor
  · intro h x hx
    have hf := List.find?_eq_none.mp (Option.map_eq_none_iff.mp h)
    exact hf (i, x) (List.mem_reverse.mpr hx) (by simp)
  · intro h
    cases hl : lastAt i us with
    | none => rfl
    | some x => exact absurd (mem_of_lastAt hl) (h x)

/-- Where each position is written at most once, its last entry is its only entry. -/
theorem lastAt_eq_of_mem {i : Nat} {us : List (Nat × α)} {x : α}
    (hn : (us.map (·.1)).Nodup) (h : (i, x) ∈ us) : lastAt i us = some x := by
  induction us with
  | nil => simp at h
  | cons u us ih =>
    simp only [List.map_cons, List.nodup_cons] at hn
    rw [lastAt_cons]
    rcases List.mem_cons.mp h with rfl | h
    · have hno : lastAt i us = none :=
        lastAt_eq_none_iff.mpr fun y hy => hn.1 (List.mem_map.mpr ⟨(i, y), hy, rfl⟩)
      simp [hno]
    · rw [ih hn.2 h]
      rfl

theorem keys_zip_sublist (is : List Nat) (xs : List α) :
    ((is.zip xs).map (·.1)).Sublist is := by
  induction is generalizing xs with
  | nil => simp
  | cons i is ih =>
    cases xs with
    | nil => simp
    | cons x xs => simpa using (ih xs).cons_cons i

/-- Distinct positions zipped with entries are written at most once each. -/
theorem nodup_keys_zip {is : List Nat} (h : is.Nodup) (xs : List α) :
    ((is.zip xs).map (·.1)).Nodup := h.sublist (keys_zip_sublist is xs)

@[simp] theorem length_overlay (xs : List α) (us : List (Nat × α)) :
    (overlay xs us).length = xs.length := by
  induction us generalizing xs with
  | nil => rfl
  | cons u us ih => simpa [overlay] using ih (xs.set u.1 u.2)

/-- The merge loop leaves the last written entry, or the old one where nothing was written. -/
theorem getElem?_overlay {xs : List α} {i : Nat} (hi : i < xs.length) (us : List (Nat × α)) :
    (overlay xs us)[i]? = (lastAt i us).or xs[i]? := by
  induction us generalizing xs with
  | nil => simp [overlay]
  | cons u us ih =>
    have hstep : overlay xs (u :: us) = overlay (xs.set u.1 u.2) us := rfl
    rw [hstep, ih (by simpa using hi), lastAt_cons, Option.or_assoc, List.getElem?_set]
    by_cases h : u.1 = i <;> simp [h, hi]

/-- Writing a whole list position by position gives back its own entries. -/
theorem lastAt_range_zip (xs : List α) (i : Nat) :
    lastAt i ((List.range xs.length).zip xs) = xs[i]? := by
  have hmap : (((List.range xs.length).zip xs).map (·.1)) = List.range xs.length :=
    List.map_fst_zip (by simp)
  cases hx : xs[i]? with
  | some x =>
    obtain ⟨hi, rfl⟩ := List.getElem?_eq_some_iff.mp hx
    refine lastAt_eq_of_mem (by rw [hmap]; exact List.nodup_range) ?_
    exact List.mem_iff_getElem.mpr ⟨i, by simpa using hi, by simp⟩
  | none =>
    refine lastAt_eq_none_iff.mpr fun x hmem => ?_
    have hlt : i < xs.length := List.mem_range.mp (List.of_mem_zip hmem).1
    exact absurd (List.getElem?_eq_none_iff.mp hx) (by omega)

/-- A subset of positions written with a list of entries reaches no other position. -/
theorem lastAt_zip_of_notMem {i : Nat} {is : List Nat} (h : i ∉ is) (xs : List α) :
    lastAt i (is.zip xs) = none :=
  lastAt_eq_none_iff.mpr fun _ hx => h (List.of_mem_zip hx).1

end AerospikePy.Lib.Overlay
