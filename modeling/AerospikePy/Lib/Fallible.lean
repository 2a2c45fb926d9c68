import Mathlib.Data.List.Forall2

/-!
# Computations that fail, and computations that log

Inversion for `Except`, and a computation that may fail after it has logged events:
what it logged before the failure stays. A property of every event, and having logged
nothing, are both read off the parts of a computation.
-/

namespace AerospikePy.Lib.Fallible

variable {W E α β : Type}

theorem bind_eq_ok {x : Except E α} {f : α → Except E β} {b : β} :
    (x >>= f) = .ok b ↔ ∃ a, x = .ok a ∧ f a = .ok b := by
  cases x with
  | error e => simp [bind, Except.bind]
  | ok a => simp [bind, Except.bind]

theorem map_eq_ok {x : Except E α} {f : α → β} {b : β} :
    f <$> x = .ok b ↔ ∃ a, x = .ok a ∧ f a = b := by
  cases x with
  | error e => simp [Functor.map, Except.map]
  | ok a => simp [Functor.map, Except.map]

theorem bind_of_eq_ok {x : Except E α} {a : α} (h : x = .ok a) (f : α → Except E β) :
    x >>= f = f a := by
  rw [h]
  rfl

theorem ok_bind (a : α) (f : α → Except E β) : Except.ok a >>= f = f a := rfl

theorem pure_eq_ok (a : α) : (pure a : Except E α) = .ok a := rfl

theorem bind_congr_ok {x : Except E α} {f g : α → Except E β} (h : ∀ a, x = .ok a → f a = g a) :
    x >>= f = x >>= g := by
  cases x with
  | error e => rfl
  | ok a => exact h a rfl

def require (p : Prop) [Decidable p] (e : E) : Except E Unit := if p then .ok () else .error e

theorem require_eq_ok {p : Prop} [Decidable p] {e : E} {u : Unit} :
    require p e = .ok u ↔ p := by
  unfold require
  by_cases hp : p
  · simp [hp]
  · simp [hp]

theorem require_bind {p : Prop} [Decidable p] (hp : p) (e : E) (f : Unit → Except E β) :
    require p e >>= f = f () := by
  rw [require, if_pos hp]
  rfl

theorem mapM_eq_ok {f : α → Except E β} {as : List α} {bs : List β} :
    as.mapM f = .ok bs ↔ List.Forall₂ (fun a b => f a = .ok b) as bs := by
  induction as generalizing bs with
  | nil =>
    rw [List.mapM_nil, List.forall₂_nil_left_iff]
    exact ⟨fun h => (Except.ok.inj h).symm, fun h => by rw [h]; rfl⟩
  | cons a as ih =>
    rw [List.mapM_cons, bind_eq_ok, List.forall₂_cons_left_iff]
    constructor
    · intro h
      obtain ⟨b, hb, hrest⟩ := h
      obtain ⟨bs', hbs, heq⟩ := bind_eq_ok.mp hrest
      exact ⟨b, bs', hb, ih.mp hbs, (Except.ok.inj heq).symm⟩
    · intro h
      obtain ⟨b, bs', hb, hbs, rfl⟩ := h
      exact ⟨b, hb, bind_eq_ok.mpr ⟨bs', ih.mpr hbs, rfl⟩⟩

theorem getElem?_of_mapM {f : α → Except E β} {as : List α} {bs : List β}
    (h : as.mapM f = .ok bs) (i : Nat) : as[i]?.map f = bs[i]?.map .ok := by
  have hall := mapM_eq_ok.mp h
  clear h
  induction hall generalizing i with
  | nil => rfl
  | @cons a b as bs hab hrest ih =>
    cases i with
    | zero => exact congrArg some hab
    | succ i =>
      rw [List.getElem?_cons_succ, List.getElem?_cons_succ]
      exact ih i

theorem mapM_congr {f g : α → Except E β} {as : List α} (h : ∀ a ∈ as, f a = g a) :
    as.mapM f = as.mapM g := by
  induction as with
  | nil => rfl
  | cons a as ih =>
    obtain ⟨hhead, htail⟩ := List.forall_mem_cons.mp h
    rw [List.mapM_cons, List.mapM_cons, hhead, ih htail]

theorem forall₂_iff_forall_mem {R S : α → β → Prop} {Q : α → Prop} {as : List α} {bs : List β}
    (h : List.Forall₂ S as bs) (hiff : ∀ a b, S a b → (R a b ↔ Q a)) :
    List.Forall₂ R as bs ↔ ∀ a ∈ as, Q a := by
  induction h with
  | nil => exact iff_of_true .nil (List.forall_mem_nil _)
  | @cons a b as bs hab hrest ih =>
    rw [List.forall₂_cons, List.forall_mem_cons, hiff a b hab, ih]

theorem exists_forall₂_of_forall {R : α → β → Prop} {as : List α} (h : ∀ a ∈ as, ∃ b, R a b) :
    ∃ bs, List.Forall₂ R as bs := by
  induction as with
  | nil => exact ⟨[], .nil⟩
  | cons a as ih =>
    obtain ⟨hhead, htail⟩ := List.forall_mem_cons.mp h
    obtain ⟨b, hb⟩ := hhead
    obtain ⟨bs, hbs⟩ := ih htail
    exact ⟨b :: bs, .cons hb hbs⟩

theorem exists_mem_of_forall₂ {R : α → β → Prop} {as : List α} {bs : List β}
    (h : List.Forall₂ R as bs) {a : α} (ha : a ∈ as) : ∃ b ∈ bs, R a b := by
  induction h with
  | nil => cases ha
  | @cons a' b as bs hab hrest ih =>
    rcases List.mem_cons.mp ha with rfl | ha
    · exact ⟨b, List.mem_cons_self, hab⟩
    · obtain ⟨c, hc, hac⟩ := ih ha
      exact ⟨c, List.mem_cons_of_mem b hc, hac⟩

/-- What holds of the pairs of a list and what holds of the pairs of a related one. -/
theorem pairwise_iff_of_forall₂ {R : α → β → Prop} {P S : α → α → Prop} {Q : β → β → Prop}
    {as : List α} {bs : List β} (h : List.Forall₂ R as bs) (hS : as.Pairwise S)
    (hiff : ∀ a ∈ as, ∀ a' ∈ as, ∀ b b', R a b → R a' b' → S a a' → (P a a' ↔ Q b b')) :
    as.Pairwise P ↔ bs.Pairwise Q := by
  induction h with
  | nil => exact iff_of_true .nil .nil
  | @cons a b as bs hab hrest ih =>
    obtain ⟨hS₁, hS₂⟩ := List.pairwise_cons.mp hS
    have htail := ih hS₂ fun c hc c' hc' =>
      hiff c (List.mem_cons_of_mem a hc) c' (List.mem_cons_of_mem a hc')
    rw [List.pairwise_cons, List.pairwise_cons, htail]
    refine and_congr_left fun _ => ⟨fun hP b' hb' => ?_, fun hQ a' ha' => ?_⟩
    · obtain ⟨a', ha', hab'⟩ := exists_mem_of_forall₂ hrest.flip hb'
      exact (hiff a List.mem_cons_self a' (List.mem_cons_of_mem a ha') b b' hab hab'
        (hS₁ a' ha')).mp (hP a' ha')
    · obtain ⟨b', hb', hab'⟩ := exists_mem_of_forall₂ hrest ha'
      exact (hiff a List.mem_cons_self a' (List.mem_cons_of_mem a ha') b b' hab hab'
        (hS₁ a' ha')).mpr (hQ b' hb')

/-- Related elements are answered one by one. -/
theorem forall₂_answer {γ : Type} {R : α → β → Prop} {U : β → γ → Prop} {W : α → γ → Prop}
    {as : List α} {bs : List β} (h : List.Forall₂ R as bs)
    (hans : ∀ a ∈ as, ∀ b, R a b → ∃ c, U b c ∧ W a c) :
    ∃ cs, List.Forall₂ U bs cs ∧ List.Forall₂ W as cs := by
  induction h with
  | nil => exact ⟨[], .nil, .nil⟩
  | cons hab _ ih =>
    obtain ⟨hhead, htail⟩ := List.forall_mem_cons.mp hans
    obtain ⟨c, hu, hw⟩ := hhead _ hab
    obtain ⟨cs, hus, hws⟩ := ih htail
    exact ⟨c :: cs, .cons hu hus, .cons hw hws⟩

theorem forall₂_comp {γ : Type} {R : α → β → Prop} {S : β → γ → Prop} {as : List α} {bs : List β}
    {cs : List γ} (hr : List.Forall₂ R as bs) (hs : List.Forall₂ S bs cs) :
    List.Forall₂ (fun a c => ∃ b, R a b ∧ S b c) as cs := by
  induction hr generalizing cs with
  | nil =>
    rw [List.forall₂_nil_left_iff.mp hs]
    exact .nil
  | cons hab _ ih =>
    cases hs with
    | cons hbc hs => exact .cons ⟨_, hab, hbc⟩ (ih hs)

/-- Of three lists that are related two by two, the elements in one place are. -/
theorem exists_answer_of_forall₂ {γ : Type} {R : α → β → Prop} {U : β → γ → Prop}
    {W : α → γ → Prop} {as : List α} {bs : List β} {cs : List γ} (h : List.Forall₂ R as bs)
    (hu : List.Forall₂ U bs cs) (hw : List.Forall₂ W as cs) :
    ∀ a ∈ as, ∃ b c, R a b ∧ U b c ∧ W a c := by
  induction h generalizing cs with
  | nil => exact List.forall_mem_nil _
  | cons hab _ ih =>
    cases hu with
    | cons hbc hu =>
      cases hw with
      | cons hac hw => exact List.forall_mem_cons.mpr ⟨⟨_, _, hab, hbc, hac⟩, ih hu hw⟩

theorem forall_of_forall₂ {R : α → β → Prop} {as : List α} {bs : List β}
    (h : List.Forall₂ R as bs) {p : α → Prop} (hp : ∀ a b, R a b → p a) : ∀ a ∈ as, p a := by
  intro a ha
  obtain ⟨b, -, hab⟩ := exists_mem_of_forall₂ h ha
  exact hp a b hab

theorem rel_of_forall₂ {R : α → β → Prop} {as : List α} {bs : List β} (h : List.Forall₂ R as bs)
    {i : Nat} {a : α} {b : β} (ha : as[i]? = some a) (hb : bs[i]? = some b) : R a b := by
  obtain ⟨hi, rfl⟩ := List.getElem?_eq_some_iff.mp ha
  obtain ⟨hj, rfl⟩ := List.getElem?_eq_some_iff.mp hb
  exact h.get hi hj

theorem forall₂_zipIdx {R : α → β → Prop} {as : List α} {bs : List β} (h : List.Forall₂ R as bs)
    (n : Nat) : List.Forall₂ (fun a b => R a.1 b.1 ∧ a.2 = b.2) (as.zipIdx n) (bs.zipIdx n) := by
  induction h generalizing n with
  | nil => exact .nil
  | cons hab _ ih => exact .cons ⟨hab, rfl⟩ (ih (n + 1))

theorem foldlM_congr {γ : Type} {f : γ → α → Except E γ} {g : γ → β → Except E γ} {as : List α}
    {bs : List β} (h : List.Forall₂ (fun a b => ∀ c, f c a = g c b) as bs) (c : γ) :
    as.foldlM f c = bs.foldlM g c := by
  induction h generalizing c with
  | nil => rfl
  | cons hab _ ih =>
    rw [List.foldlM_cons, List.foldlM_cons, hab c]
    exact bind_congr_ok fun c' _ => ih c'

/-- A traversal fails at the first element that fails. -/
theorem forM_eq_error {f : α → Except E Unit} {as : List α} {e : E} :
    forM as f = .error e ↔
      ∃ pre a post, as = pre ++ a :: post ∧ (∀ b ∈ pre, f b = .ok ()) ∧ f a = .error e := by
  induction as with
  | nil =>
    refine iff_of_false (by simp [pure_eq_ok]) fun h => ?_
    obtain ⟨pre, a, post, has, -⟩ := h
    cases pre <;> cases has
  | cons a as ih =>
    rw [List.forM_cons]
    cases ha : f a with
    | error e' =>
      constructor
      · intro h
        cases h
        exact ⟨[], a, as, rfl, List.forall_mem_nil _, ha⟩
      · intro h
        obtain ⟨pre, b, post, has, hpre, hb⟩ := h
        cases pre with
        | nil =>
          obtain ⟨rfl, -⟩ := List.cons.inj has
          rw [ha] at hb
          exact hb
        | cons c pre =>
          obtain ⟨rfl, -⟩ := List.cons.inj has
          rw [hpre a List.mem_cons_self] at ha
          cases ha
    | ok =>
      rw [ok_bind, ih]
      constructor
      · intro h
        obtain ⟨pre, b, post, rfl, hpre, hb⟩ := h
        exact ⟨a :: pre, b, post, rfl, List.forall_mem_cons.mpr ⟨ha, hpre⟩, hb⟩
      · intro h
        obtain ⟨pre, b, post, has, hpre, hb⟩ := h
        cases pre with
        | nil =>
          obtain ⟨rfl, -⟩ := List.cons.inj has
          rw [ha] at hb
          cases hb
        | cons c pre =>
          obtain ⟨rfl, rfl⟩ := List.cons.inj has
          exact ⟨pre, b, post, rfl, (List.forall_mem_cons.mp hpre).2, hb⟩

theorem forM_eq_ok {f : α → Except E Unit} {as : List α} :
    forM as f = .ok () ↔ ∀ a ∈ as, f a = .ok () := by
  induction as with
  | nil => exact iff_of_true rfl (List.forall_mem_nil _)
  | cons a as ih =>
    rw [List.forM_cons, bind_eq_ok, List.forall_mem_cons, ← ih]
    constructor
    · intro h
      obtain ⟨_, ha, has⟩ := h
      exact ⟨ha, has⟩
    · intro h
      exact ⟨(), h.1, h.2⟩

theorem error_of_bind_pure {x : Except E α} {f : α → β} {e : E}
    (h : (x >>= fun a => pure (f a)) = .error e) : x = .error e := by
  cases x with
  | error e' => exact congrArg Except.error (Except.error.inj h)
  | ok a => cases h

/-- A traversal fails as another one that agrees with it up to its first failure. -/
theorem mapM_eq_error_of {E' : Type} {f : α → Except E β} {g : α → Except E' β} {e : E} {e' : E'}
    (hok : ∀ a b, f a = .ok b → g a = .ok b) (herror : ∀ a, f a = .error e → g a = .error e')
    {as : List α} (h : as.mapM f = .error e) : as.mapM g = .error e' := by
  induction as with
  | nil => cases h
  | cons a as ih =>
    rw [List.mapM_cons] at h ⊢
    cases ha : f a with
    | error e₁ =>
      rw [ha] at h
      obtain rfl := Except.error.inj h
      rw [herror a ha]
      rfl
    | ok b =>
      rw [hok a b ha]
      rw [ha, ok_bind] at h
      rw [ok_bind, ih (error_of_bind_pure h)]
      rfl

/-- How a computation ends, without what it returns. -/
def ending (x : Except E α) : Except E Unit := x >>= fun _ => .ok ()

theorem ending_bind {x : Except E α} {f : α → Except E β} {y : Except E Unit}
    (h : ∀ a, x = .ok a → ending (f a) = y) : ending (x >>= f) = ending x >>= fun _ => y := by
  cases hx : x with
  | error e => rfl
  | ok a => exact h a hx

theorem ending_eq_error {x : Except E α} {e : E} : ending x = .error e ↔ x = .error e := by
  cases x with
  | error e' => simp [ending, bind, Except.bind]
  | ok a => simp [ending, bind, Except.bind]

theorem ending_eq_ok {x : Except E α} : ending x = .ok () ↔ ∃ a, x = .ok a := by
  cases x with
  | error e => simp [ending, bind, Except.bind]
  | ok a => simp [ending, bind, Except.bind]

/-- A traversal succeeds exactly when it succeeds on every element. -/
theorem exists_mapM_eq_ok {f : α → Except E β} {as : List α} :
    (∃ bs, as.mapM f = .ok bs) ↔ ∀ a ∈ as, ∃ b, f a = .ok b := by
  constructor
  · intro h
    obtain ⟨bs, hbs⟩ := h
    exact forall_of_forall₂ (mapM_eq_ok.mp hbs) fun a b hab => ⟨b, hab⟩
  · intro h
    obtain ⟨bs, hbs⟩ := exists_forall₂_of_forall h
    exact ⟨bs, mapM_eq_ok.mpr hbs⟩

def Succeeds (x : Except E α) : Prop := ∃ a, x = .ok a

section Succeeds

variable {x : Except E α}

@[simp] theorem succeeds_ok (a : α) : Succeeds (.ok a : Except E α) := ⟨a, rfl⟩

@[simp] theorem succeeds_pure (a : α) : Succeeds (pure a : Except E α) := ⟨a, rfl⟩

@[simp] theorem not_succeeds_error (e : E) : ¬ Succeeds (.error e : Except E α) := by
  intro h
  obtain ⟨a, ha⟩ := h
  cases ha

theorem succeeds_bind {f : α → Except E β} :
    Succeeds (x >>= f) ↔ ∃ a, x = .ok a ∧ Succeeds (f a) := by
  cases x with
  | error e => exact iff_of_false (not_succeeds_error e) (by simp)
  | ok a =>
    show Succeeds (f a) ↔ _
    simp

/-- Whether the rest succeeds does not depend on what the first computation returned. -/
theorem succeeds_bind_iff {f : α → Except E β} {p : Prop}
    (h : ∀ a, x = .ok a → (Succeeds (f a) ↔ p)) : Succeeds (x >>= f) ↔ Succeeds x ∧ p := by
  rw [succeeds_bind]
  constructor
  · intro hbind
    obtain ⟨a, ha, hf⟩ := hbind
    exact ⟨⟨a, ha⟩, (h a ha).mp hf⟩
  · intro hboth
    obtain ⟨⟨a, ha⟩, hp⟩ := hboth
    exact ⟨a, ha, (h a ha).mpr hp⟩

theorem succeeds_bind_ok {f : α → Except E β} (h : ∀ a, x = .ok a → Succeeds (f a)) :
    Succeeds (x >>= f) ↔ Succeeds x := by
  rw [succeeds_bind_iff fun a ha => iff_true_intro (h a ha), and_true]

@[simp] theorem succeeds_bind_pure {f : α → β} :
    Succeeds (x >>= fun a => pure (f a)) ↔ Succeeds x :=
  succeeds_bind_ok fun _ _ => succeeds_pure _

@[simp] theorem succeeds_map {f : α → β} : Succeeds (f <$> x) ↔ Succeeds x := by
  cases x <;> simp [Succeeds, Functor.map, Except.map]

@[simp] theorem succeeds_require {p : Prop} [Decidable p] (e : E) : Succeeds (require p e) ↔ p := by
  unfold require
  by_cases hp : p
  · simp [hp]
  · simp [hp]

theorem succeeds_mapM {f : α → Except E β} {as : List α} :
    Succeeds (as.mapM f) ↔ ∀ a ∈ as, Succeeds (f a) := exists_mapM_eq_ok

/-- One element apart from the others. -/
theorem succeeds_mapM_middle {f : α → Except E β} {pre post : List α} {a : α} :
    Succeeds ((pre ++ a :: post).mapM f) ↔ (∀ b ∈ pre ++ post, Succeeds (f b)) ∧ Succeeds (f a) := by
  rw [succeeds_mapM]
  simp only [List.perm_middle.mem_iff, List.forall_mem_cons]
  exact and_comm

end Succeeds

/-- Whatever is returned satisfies `P`. -/
def Ensures (P : α → Prop) (x : Except E α) : Prop := ∀ a, x = .ok a → P a

section Ensures

variable {P : β → Prop}

theorem ensures_ok {b : β} (h : P b) : Ensures P (.ok b : Except E β) := by
  intro c hc
  obtain rfl := Except.ok.inj hc
  exact h

theorem ensures_error (e : E) : Ensures P (.error e : Except E β) := by
  intro c hc
  cases hc

/-- The continuation may use what the first computation returned. -/
theorem ensures_bind {x : Except E α} {f : α → Except E β}
    (h : ∀ a, x = .ok a → Ensures P (f a)) : Ensures P (x >>= f) := by
  intro b hb
  obtain ⟨a, ha, hf⟩ := bind_eq_ok.mp hb
  exact h a ha b hf

end Ensures

/-- Both fail, or both succeed and their results are related. -/
def SameOutcome {E' : Type} (R : α → β → Prop) : Except E α → Except E' β → Prop
  | .ok a, .ok b => R a b
  | .error _, .error _ => True
  | _, _ => False

section SameOutcome

variable {γ δ : Type} {R : γ → δ → Prop}

theorem sameOutcome_iff {x : Except E γ} {y : Except E δ} :
    SameOutcome R x y ↔ ((∃ c, x = .ok c) ↔ ∃ d, y = .ok d) ∧
      ∀ c d, x = .ok c → y = .ok d → R c d := by
  cases x with
  | error e => cases y <;> simp [SameOutcome]
  | ok c => cases y <;> simp [SameOutcome]

theorem sameOutcome_refl {x : Except E γ} {R : γ → γ → Prop} (h : ∀ c, x = .ok c → R c c) :
    SameOutcome R x x := by
  cases x with
  | error e => exact True.intro
  | ok c => exact h c rfl

theorem sameOutcome_bind {S : α → β → Prop} {x : Except E α} {y : Except E β}
    {f : α → Except E γ} {g : β → Except E δ} (h : SameOutcome S x y)
    (hfg : ∀ a b, S a b → SameOutcome R (f a) (g b)) : SameOutcome R (x >>= f) (y >>= g) := by
  cases x with
  | error e =>
    cases y with
    | error e' => exact True.intro
    | ok b => exact h.elim
  | ok a =>
    cases y with
    | error e' => exact h.elim
    | ok b => exact hfg a b h

end SameOutcome

structure Logged (W E α : Type) where
  log : List W
  result : Except E α

namespace Logged

instance : Monad (Logged W E) where
  pure a := ⟨[], .ok a⟩
  bind x f := match x.result with
    | .ok a => ⟨x.log ++ (f a).log, (f a).result⟩
    | .error e => ⟨x.log, .error e⟩

def fail (e : E) : Logged W E α := ⟨[], .error e⟩

def ofExcept (x : Except E α) : Logged W E α := ⟨[], x⟩

theorem bind_of_ok {x : Logged W E α} {a : α} (h : x.result = .ok a) (f : α → Logged W E β) :
    x >>= f = ⟨x.log ++ (f a).log, (f a).result⟩ := by
  obtain ⟨log, result⟩ := x
  subst h
  rfl

theorem bind_of_error {x : Logged W E α} {e : E} (h : x.result = .error e)
    (f : α → Logged W E β) : x >>= f = ⟨x.log, .error e⟩ := by
  obtain ⟨log, result⟩ := x
  subst h
  rfl

theorem id_map (x : Logged W E α) : id <$> x = x := by
  cases h : x.result with
  | error e =>
    change x >>= _ = x
    rw [bind_of_error h, ← h]
  | ok a =>
    change x >>= _ = x
    rw [bind_of_ok h]
    change Logged.mk (x.log ++ []) (.ok a) = x
    rw [List.append_nil, ← h]

theorem bind_assoc {γ : Type} (x : Logged W E α) (f : α → Logged W E β) (g : β → Logged W E γ) :
    x >>= f >>= g = x >>= fun a => f a >>= g := by
  cases h : x.result with
  | error e => rw [bind_of_error h, bind_of_error h, bind_of_error rfl]
  | ok a =>
    rw [bind_of_ok h, bind_of_ok h]
    cases hf : (f a).result with
    | error e => rw [bind_of_error hf, bind_of_error rfl]
    | ok b => rw [bind_of_ok hf, bind_of_ok rfl, List.append_assoc]

instance : LawfulMonad (Logged W E) :=
  LawfulMonad.mk' _ id_map (fun _ _ => rfl) bind_assoc

theorem result_bind (x : Logged W E α) (f : α → Logged W E β) :
    (x >>= f).result = x.result >>= fun a => (f a).result := by
  cases h : x.result with
  | error e =>
    rw [bind_of_error h]
    rfl
  | ok a =>
    rw [bind_of_ok h]
    rfl

theorem result_mapM (f : α → Logged W E β) (as : List α) :
    (as.mapM f).result = as.mapM fun a => (f a).result := by
  induction as with
  | nil =>
    rw [List.mapM_nil, List.mapM_nil]
    rfl
  | cons a as ih =>
    rw [List.mapM_cons, List.mapM_cons, result_bind, ← ih]
    refine bind_congr_ok fun b _ => ?_
    rw [result_bind]
    rfl

def Logs (P : W → Prop) (x : Logged W E α) : Prop := ∀ w ∈ x.log, P w

theorem logs_pure {P : W → Prop} (a : α) : Logs P (pure a : Logged W E α) := by
  intro w hw
  cases hw

theorem logs_ofExcept {P : W → Prop} (x : Except E α) : Logs P (ofExcept x : Logged W E α) := by
  intro w hw
  cases hw

theorem logs_bind {P : W → Prop} {x : Logged W E α} {f : α → Logged W E β} (hx : Logs P x)
    (hf : ∀ a, Logs P (f a)) : Logs P (x >>= f) := by
  cases h : x.result with
  | error e =>
    rw [bind_of_error h]
    exact hx
  | ok a =>
    rw [bind_of_ok h]
    intro w hw
    rcases List.mem_append.mp hw with hold | hnew
    · exact hx w hold
    · exact hf a w hnew

theorem logs_mapM {P : W → Prop} {f : α → Logged W E β} {as : List α}
    (hf : ∀ a ∈ as, Logs P (f a)) : Logs P (as.mapM f) := by
  induction as with
  | nil =>
    rw [List.mapM_nil]
    exact logs_pure _
  | cons a as ih =>
    rw [List.mapM_cons]
    have hrest := ih fun b hb => hf b (List.mem_cons_of_mem a hb)
    exact logs_bind (hf a List.mem_cons_self) fun _ => logs_bind hrest fun _ => logs_pure _

theorem log_bind_eq_nil {x : Logged W E α} {f : α → Logged W E β} :
    (x >>= f).log = [] ↔ x.log = [] ∧ ∀ a, x.result = .ok a → (f a).log = [] := by
  cases h : x.result with
  | error e =>
    rw [bind_of_error h]
    simp
  | ok a =>
    rw [bind_of_ok h]
    simp

end Logged

end AerospikePy.Lib.Fallible
