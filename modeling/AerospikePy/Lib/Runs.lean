import Mathlib.Logic.Basic
import Mathlib.Data.Option.Basic
import Mathlib.Data.List.Induction

/-!
# Runs of a partial step function

A system is given by its step function `S → A → Option S`, with `none` for an
action that is not enabled. Safety is proved in the usual two parts: what one
step preserves, and by the rules below what every run preserves. The guarded
rules serve properties that only hold of the runs whose steps meet a condition.
A run may also be given by the list of its events, with states read off prefixes.
-/

namespace AerospikePy.Lib.Runs

variable {S A : Type*} (step : S → A → Option S)

/-- Perform a list of actions in order; `none` if one of them is not enabled. -/
def run : S → List A → Option S
  | s, [] => some s
  | s, a :: as => (step s a).bind fun t => run t as

def Reachable (s₀ s : S) : Prop := ∃ as, run step s₀ as = some s

/-- `P` holds in every state the run passes through, its first state included. -/
def Throughout (P : S → Prop) : S → List A → Prop
  | s, [] => P s
  | s, a :: as => P s ∧ ∀ t, step s a = some t → Throughout P t as

/-- Every step the run takes meets `G`, a condition on its action and the state before it. -/
def StepsMeet (G : S → A → Prop) : S → List A → Prop
  | _, [] => True
  | s, a :: as => ∀ t, step s a = some t → G s a ∧ StepsMeet G t as

variable {step}

/-- What every step preserves, every run preserves. -/
theorem run_invariant {I : S → Prop} (hI : ∀ s a t, I s → step s a = some t → I t)
    {s t : S} {as : List A} (hs : I s) (hr : run step s as = some t) : I t := by
  induction as generalizing s with
  | nil =>
    obtain rfl := Option.some.inj hr
    exact hs
  | cons a as ih =>
    obtain ⟨u, hu, hr⟩ := Option.bind_eq_some_iff.mp hr
    exact ih (hI s a u hs hu) hr

theorem reachable_invariant {I : S → Prop} (hI : ∀ s a t, I s → step s a = some t → I t)
    {s₀ s : S} (h₀ : I s₀) (h : Reachable step s₀ s) : I s := by
  obtain ⟨as, hr⟩ := h
  exact run_invariant hI h₀ hr

/-- A run that is known by what is seen at its end. -/
theorem reachable_of_map_run {B : Type*} {f : S → B} {s : S} {b : B} (as : List A)
    (h : (run step s as).map f = some b) : ∃ t, Reachable step s t ∧ f t = b := by
  obtain ⟨t, hr, hb⟩ := Option.map_eq_some_iff.mp h
  exact ⟨t, ⟨as, hr⟩, hb⟩

theorem run_append (s : S) (as bs : List A) :
    run step s (as ++ bs) = (run step s as).bind fun t => run step t bs := by
  induction as generalizing s with
  | nil => rfl
  | cons a as ih =>
    rw [List.cons_append, run, run, Option.bind_assoc]
    simp only [ih]

theorem Reachable.trans {s t u : S} (h : Reachable step s t) (h' : Reachable step t u) :
    Reachable step s u := by
  obtain ⟨as, hr⟩ := h
  obtain ⟨bs, hr'⟩ := h'
  refine ⟨as ++ bs, ?_⟩
  rw [run_append, hr]
  exact hr'

/-- A property that the condition lets every step keep holds all along a run
whose steps meet the condition. -/
theorem throughout_of_stepsMeet {I : S → Prop} {G : S → A → Prop}
    (hI : ∀ s a t, I s → G s a → step s a = some t → I t)
    {s : S} {as : List A} (hs : I s) (hg : StepsMeet step G s as) :
    Throughout step I s as := by
  induction as generalizing s with
  | nil => exact hs
  | cons a as ih =>
    refine ⟨hs, fun t ht => ?_⟩
    obtain ⟨ha, hrest⟩ := hg t ht
    exact ih (hI s a t hs ha ht) hrest

/-- What every step preserves holds all along every run. -/
theorem throughout_of_invariant {I : S → Prop} (hI : ∀ s a t, I s → step s a = some t → I t)
    {s : S} (hs : I s) (as : List A) : Throughout step I s as := by
  induction as generalizing s with
  | nil => exact hs
  | cons a as ih => exact ⟨hs, fun t ht => ih (hI s a t hs ht)⟩

theorem Throughout.head {P : S → Prop} {s : S} {as : List A}
    (h : Throughout step P s as) : P s := by
  cases as with
  | nil => exact h
  | cons a as => exact h.1

theorem Throughout.last {P : S → Prop} {s t : S} {as : List A} (h : Throughout step P s as)
    (hr : run step s as = some t) : P t := by
  induction as generalizing s with
  | nil =>
    obtain rfl := Option.some.inj hr
    exact h
  | cons a as ih =>
    obtain ⟨u, hu, hr⟩ := Option.bind_eq_some_iff.mp hr
    exact ih (h.2 u hu) hr

theorem Throughout.imp {P Q : S → Prop} (hPQ : ∀ s, P s → Q s) {s : S} {as : List A}
    (h : Throughout step P s as) : Throughout step Q s as := by
  induction as generalizing s with
  | nil => exact hPQ s h
  | cons a as ih => exact ⟨hPQ s h.1, fun t ht => ih (h.2 t ht)⟩

theorem Throughout.and {P Q : S → Prop} {s : S} {as : List A} (hp : Throughout step P s as)
    (hq : Throughout step Q s as) : Throughout step (fun s => P s ∧ Q s) s as := by
  induction as generalizing s with
  | nil => exact ⟨hp, hq⟩
  | cons a as ih => exact ⟨⟨hp.1, hq.1⟩, fun t ht => ih (hp.2 t ht) (hq.2 t ht)⟩

theorem stepsMeet_of_forall {G : S → A → Prop} (h : ∀ s a, G s a) {s : S} {as : List A} :
    StepsMeet step G s as := by
  induction as generalizing s with
  | nil => trivial
  | cons a as ih => exact fun t _ => ⟨h s a, ih⟩

/-- When, among the states of an invariant `K`, one step keeps `P` exactly if it
meets the condition, a run keeps `P` all along exactly if all its steps do. -/
theorem throughout_iff_stepsMeet {K P : S → Prop} {G : S → A → Prop}
    (hK : ∀ s a t, K s → step s a = some t → K t)
    (hP : ∀ s a t, K s → P s → step s a = some t → (P t ↔ G s a))
    {s : S} {as : List A} (hk : K s) (hp : P s) :
    Throughout step P s as ↔ StepsMeet step G s as := by
  induction as generalizing s with
  | nil => exact ⟨fun _ => trivial, fun _ => hp⟩
  | cons a as ih =>
    constructor
    · intro h t ht
      have hpt : P t := (h.2 t ht).head
      exact ⟨(hP s a t hk hp ht).mp hpt, (ih (hK s a t hk ht) hpt).mp (h.2 t ht)⟩
    · intro h
      refine ⟨hp, fun t ht => ?_⟩
      obtain ⟨ha, hrest⟩ := h t ht
      have hpt : P t := (hP s a t hk hp ht).mpr ha
      exact (ih (hK s a t hk ht) hpt).mpr hrest

/-- A view that every step carries along shows a run of the other system. -/
theorem map_run {S' : Type*} {step' : S' → A → Option S'} {f : S → S'}
    (h : ∀ s a, (step s a).map f = step' (f s) a) (s : S) (as : List A) :
    (run step s as).map f = run step' (f s) as := by
  induction as generalizing s with
  | nil => rfl
  | cons a as ih =>
    rw [run, run, ← h]
    cases step s a with
    | none => rfl
    | some t => exact ih t

/-- Actions that never change anything may be left out of a run. -/
theorem run_filter {p : A → Bool} (h : ∀ s a, p a = false → step s a = some s) (s : S)
    (as : List A) : run step s (as.filter p) = run step s as := by
  induction as generalizing s with
  | nil => rfl
  | cons a as ih =>
    cases hp : p a with
    | false =>
      rw [List.filter_cons_of_neg (by simp [hp]), run, h s a hp]
      exact ih s
    | true =>
      rw [List.filter_cons_of_pos hp, run, run]
      cases step s a with
      | none => rfl
      | some t => exact ih t

instance decidableStepsMeet {G : S → A → Prop} [∀ s a, Decidable (G s a)] :
    ∀ (s : S) (as : List A), Decidable (StepsMeet step G s as)
  | _, [] => inferInstanceAs (Decidable True)
  | s, a :: as =>
    match h : step s a with
    | none => isTrue fun t ht => by simp [h] at ht
    | some t =>
      have : Decidable (StepsMeet step G t as) := decidableStepsMeet t as
      decidable_of_iff (G s a ∧ StepsMeet step G t as)
        ⟨fun hg u hu => by obtain rfl := Option.some.inj (h.symm.trans hu); exact hg,
          fun hg => hg t h⟩

/-- The same for a history given as a list of its events: `P` holds of every prefix
exactly when every event meets `G` after the prefix it extends. -/
theorem forall_prefix_iff {E : Type*} {P : List E → Prop} {G : List E → E → Prop} {log : List E}
    (hnil : P []) (hstep : ∀ pre ev post, log = pre ++ ev :: post → P pre →
      (P (pre ++ [ev]) ↔ G pre ev)) :
    (∀ pre post, log = pre ++ post → P pre) ↔
      ∀ pre ev post, log = pre ++ ev :: post → G pre ev := by
  constructor
  · intro h pre ev post heq
    exact (hstep pre ev post heq (h pre _ heq)).mp (h _ post (by simp [heq]))
  · intro h pre
    induction pre using List.reverseRecOn with
    | nil => exact fun _ _ => hnil
    | append_singleton pre ev ih =>
      intro post heq
      have hcons : log = pre ++ ev :: post := by simp [heq]
      exact (hstep pre ev post hcons (ih _ hcons)).mpr (h pre ev post hcons)

end AerospikePy.Lib.Runs
