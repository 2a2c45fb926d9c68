import AerospikePy.Observability.TracingReturns

/-!
# Calls that keep apart

A condition on the start of `init_tracing` and of `shutdown_tracing` under which no thread
ever gets stuck.
-/

namespace AerospikePy.Observability.Tracing

open AerospikePy.Lib.Runs

/-- A call starts while no thread has the lock, builds `RUNTIME` or is about to. -/
def Apart (p : Process) : Nat × Act → Prop
  | (_, .initTracing _) | (_, .shutdownTracing) =>
    p.lock = none ∧ (p.runtime = .ready ∨ p.runtime = .empty ∧ ∀ u, p.pc u ≠ .detached)
  | _ => True

structure Clear (p : Process) : Prop where
  lock : ∀ t, Attached (p.pc t) ∨ p.pc t = .log .exporter → p.lock = none
  one : ∀ t, Attached (p.pc t) → ∀ u, p.pc u ≠ .log .exporter
  runtime : ∀ t, p.pc t = .enterRuntime →
    p.runtime = .ready ∨ p.runtime = .empty ∧ ∀ u, p.pc u ≠ .detached

theorem clear_initial : Clear .initial where
  lock _ _ := rfl
  one _ := nofun
  runtime _ := nofun

/-- Where nobody is attached, only the lock remains to be seen to. -/
theorem clear_of_not_attached {p : Process} (hnone : ∀ t, ¬ Attached (p.pc t))
    (hlock : ∀ t, p.pc t = .log .exporter → p.lock = none) : Clear p where
  lock t h := hlock t (h.resolve_left (hnone t))
  one t h := absurd h (hnone t)
  runtime t h := absurd (by rw [h]; trivial) (hnone t)

theorem not_attached_goto {p : Process} {t : Nat} {c : Pc} (hl : Locks p) (hgil : p.gil = some t)
    (hto : ¬ Attached c) : ∀ u, ¬ Attached ((p.goto t c).pc u) :=
  nobody_goto hto fun _ hne hu => hne (hl.attached_unique hgil hu)

/-- A move that neither starts to build `RUNTIME` nor an operation. -/
theorem clear_move {p : Process} {t : Nat} {c : Pc} (hp : Clear p) (hexporter : c ≠ .log .exporter)
    (hdetached : c ≠ .detached) (hlock : Attached c → p.lock = none)
    (hone : Attached c → ∀ u, u ≠ t → p.pc u ≠ .log .exporter)
    (hruntime : c = .enterRuntime →
      p.runtime = .ready ∨ p.runtime = .empty ∧ ∀ u, p.pc u ≠ .detached) :
    Clear (p.goto t c) where
  lock := imp_goto (P := fun c => Attached c ∨ c = .log .exporter)
    (fun h => hlock (h.resolve_right hexporter)) fun u _ => hp.lock u
  one := imp_goto (fun h => nobody_goto (P := (· = .log .exporter)) hexporter (hone h))
    fun s _ hs => nobody_goto (P := (· = .log .exporter)) hexporter fun u _ => hp.one s hs u
  runtime := by
    have hstill : (∀ u, p.pc u ≠ .detached) → ∀ u, (p.goto t c).pc u ≠ .detached :=
      fun h => nobody_goto (P := (· = .detached)) hdetached fun u _ => h u
    exact imp_goto (P := (· = .enterRuntime))
      (fun h => (hruntime h).imp_right fun h => ⟨h.1, hstill h.2⟩)
      fun s _ hs => (hp.runtime s hs).imp_right fun h => ⟨h.1, hstill h.2⟩

/-- A move out of the steps that are taken attached. -/
theorem clear_leave {p : Process} {t : Nat} {c : Pc} (hp : Clear p) (hto : ¬ Attached c)
    (hexporter : c ≠ .log .exporter) (hdetached : c ≠ .detached) : Clear (p.goto t c) := by
  refine clear_move hp hexporter hdetached (fun h => absurd h hto) (fun h => absurd h hto) ?_
  rintro rfl
  exact absurd trivial hto

theorem clear_resume {p : Process} {t : Nat} {after : After} (hl : Locks p) (hp : Clear p)
    (hpc : p.pc t = .log after) : Clear (p.resume t after) := by
  cases after with
  | back => exact clear_leave hp id (by simp) (by simp)
  | unlock =>
    have hfreed : Clear { p with lock := none } := ⟨fun _ _ => rfl, hp.one, hp.runtime⟩
    exact clear_leave hfreed id (by simp) (by simp)
  | exporter =>
    have hready : Clear { p with runtime := .ready } := ⟨hp.lock, hp.one, fun _ _ => .inl rfl⟩
    refine clear_move hready (by simp) (by simp) (fun _ => hp.lock t (.inr hpc)) ?_ (by simp)
    exact fun _ u hne hu => hne (hl.lazy_unique (.inl hpc) (.inl hu))
  | operation =>
    have hready : Clear { p with runtime := .ready, gil := none } :=
      ⟨hp.lock, hp.one, fun _ _ => .inl rfl⟩
    exact clear_leave hready id (by simp) (by simp)

theorem clear_enterRuntime {p q : Process} {t : Nat} (hl : Locks p) (hp : Clear p)
    (hpc : p.pc t = .enterRuntime) (h : p.useRuntime t .exporter .buildExporter = some q) :
    Clear q := by
  have hat : Attached (p.pc t) := by rw [hpc]; trivial
  have hfree : p.lock = none := hp.lock t (.inl hat)
  unfold Process.useRuntime at h
  split at h
  case h_1 =>
    obtain rfl := Option.some.inj h
    exact clear_move hp (by simp) (by simp) (fun _ => hfree) (fun _ u _ => hp.one t hat u)
      (by simp)
  case h_2 =>
    obtain rfl := Option.some.inj h
    have hnone : ∀ u, ¬ Attached ((p.goto t (.log .exporter)).pc u) :=
      not_attached_goto hl (hl.attached t hat) id
    exact clear_of_not_attached hnone fun _ _ => hfree
  case h_3 => cases h

theorem clear_detached {p q : Process} {t : Nat} (hp : Clear p)
    (hpc : p.pc t = .detached) (h : p.useRuntime t .operation .operating = some q) : Clear q := by
  unfold Process.useRuntime at h
  split at h
  case h_1 =>
    obtain rfl := Option.some.inj h
    exact clear_leave hp id (by simp) (by simp)
  case h_2 hempty =>
    obtain rfl := Option.some.inj h
    -- with this thread detached and no runtime, nobody is about to enter the runtime
    have hinit : Clear { p with runtime := .initializing t } := by
      refine ⟨hp.lock, hp.one, fun s hs => ?_⟩
      rcases hp.runtime s hs with hready | ⟨-, hnone⟩
      · rw [hempty] at hready
        cases hready
      · exact absurd hpc (hnone t)
    exact clear_leave hinit id (by simp) (by simp)
  case h_3 => cases h

/-- The thread that takes the lock is the one that is attached. -/
theorem clear_takeLock {p : Process} {t : Nat} {lock : Option Nat} (hl : Locks p) (hp : Clear p)
    (hat : Attached (p.pc t)) : Clear ({ p with lock := lock }.goto t (.log .unlock)) := by
  have hnone : ∀ u, ¬ Attached ((p.goto t (.log .unlock)).pc u) :=
    not_attached_goto hl (hl.attached t hat) id
  have hexporter : ∀ u, (p.goto t (.log .unlock)).pc u ≠ .log .exporter :=
    nobody_goto (P := (· = .log .exporter)) (by simp) fun u _ => hp.one t hat u
  exact clear_of_not_attached hnone fun u hu => absurd hu (hexporter u)

theorem clear_store {p : Process} {t i : Nat} (hl : Locks p) (hp : Clear p)
    (hpc : p.pc t = .lockToStore i) : Clear (p.store t i) := by
  have hat : Attached (p.pc t) := by rw [hpc]; trivial
  have htaken : Clear ({ p with lock := some t }.goto t (.log .unlock)) := clear_takeLock hl hp hat
  exact ⟨htaken.lock, htaken.one, htaken.runtime⟩

theorem clear_take {p : Process} {t : Nat} (hl : Locks p) (hp : Clear p)
    (hpc : p.pc t = .lockToTake) : Clear (p.take t) := by
  have hat : Attached (p.pc t) := by rw [hpc]; trivial
  unfold Process.take
  split
  case h_1 => exact clear_leave hp id (by simp) (by simp)
  case h_2 =>
    have htaken : Clear ({ p with lock := some t }.goto t (.log .unlock)) :=
      clear_takeLock hl hp hat
    exact ⟨htaken.lock, htaken.one, htaken.runtime⟩

theorem clear_buildExporter {p q : Process} {t : Nat} {builds : Bool} (hp : Clear p)
    (hpc : p.pc t = .buildExporter) (h : p.go t builds = some q) : Clear q := by
  have hat : Attached (p.pc t) := by rw [hpc]; trivial
  rw [Process.go, hpc] at h
  cases builds with
  | true =>
    obtain rfl := Option.some.inj h
    have hmoved : Clear (p.goto t (.lockToStore p.built)) :=
      clear_move hp (by simp) (by simp) (fun _ => hp.lock t (.inl hat))
        (fun _ u _ => hp.one t hat u) (by simp)
    exact ⟨hmoved.lock, hmoved.one, hmoved.runtime⟩
  | false =>
    obtain rfl := Option.some.inj h
    exact clear_leave hp id (by simp) (by simp)

theorem clear_go {p q : Process} {t : Nat} {builds : Bool} (hl : Locks p) (hp : Clear p)
    (h : p.go t builds = some q) : Clear q := by
  have hgo := h
  unfold Process.go at h
  split at h
  case h_1 => cases h
  case h_2 after hpc =>
    obtain ⟨-, h⟩ := Option.ite_none_right_eq_some.mp h
    obtain rfl := Option.some.inj h
    exact clear_resume hl hp hpc
  case h_3 hpc => exact clear_enterRuntime hl hp hpc h
  case h_4 hpc => exact clear_buildExporter hp hpc hgo
  case h_5 i hpc =>
    obtain ⟨-, h⟩ := Option.ite_none_right_eq_some.mp h
    obtain rfl := Option.some.inj h
    exact clear_store hl hp hpc
  case h_6 hpc =>
    obtain ⟨-, h⟩ := Option.ite_none_right_eq_some.mp h
    obtain rfl := Option.some.inj h
    exact clear_take hl hp hpc
  case h_7 hpc => exact clear_detached hp hpc h
  case h_8 hpc =>
    obtain ⟨-, h⟩ := Option.ite_none_right_eq_some.mp h
    obtain rfl := Option.some.inj h
    have hattached : Clear { p with gil := some t } := ⟨hp.lock, hp.one, hp.runtime⟩
    exact clear_leave hattached id (by simp) (by simp)

/-- Nobody builds `RUNTIME` when a call starts that keeps apart. -/
theorem not_exporter {p : Process} (hl : Locks p)
    (h : p.runtime = .ready ∨ p.runtime = .empty ∧ ∀ u, p.pc u ≠ .detached) (u : Nat) :
    p.pc u ≠ .log .exporter := by
  intro hu
  have howner : p.runtime = .initializing u := (hl.lazyOwner u).mpr (.inl hu)
  rcases h with h | ⟨h, -⟩
  · rw [howner] at h
    cases h
  · rw [howner] at h
    cases h

theorem clear_step {p q : Process} {a : Nat × Act} (hl : Locks p) (hp : Clear p)
    (ha : Apart p a) (h : step p a = some q) : Clear q := by
  obtain ⟨t, act⟩ := a
  cases act with
  | go builds => exact clear_go hl hp h
  | attach | switch =>
    obtain ⟨-, h⟩ := Option.ite_none_right_eq_some.mp h
    obtain rfl := Option.some.inj h
    exact ⟨hp.lock, hp.one, hp.runtime⟩
  | initTracing disabled =>
    obtain ⟨-, h⟩ := Option.ite_none_right_eq_some.mp h
    obtain rfl := Option.some.inj h
    cases disabled with
    | true => exact clear_leave hp id (by simp) (by simp)
    | false =>
      exact clear_move hp (by simp) (by simp) (fun _ => ha.1)
        (fun _ u _ => not_exporter hl ha.2 u) fun _ => ha.2
  | shutdownTracing =>
    obtain ⟨-, h⟩ := Option.ite_none_right_eq_some.mp h
    obtain rfl := Option.some.inj h
    have hmoved : Clear (p.goto t .lockToTake) :=
      clear_move hp (by simp) (by simp) (fun _ => ha.1) (fun _ u _ => not_exporter hl ha.2 u)
        (by simp)
    exact ⟨hmoved.lock, hmoved.one, hmoved.runtime⟩
  | operate =>
    obtain ⟨⟨hgil, -⟩, h⟩ := Option.ite_none_right_eq_some.mp h
    obtain rfl := Option.some.inj h
    have hnone : ∀ u, ¬ Attached ((p.goto t .detached).pc u) := not_attached_goto hl hgil id
    have hlock : ∀ u, (p.goto t .detached).pc u = .log .exporter → p.lock = none :=
      imp_goto (P := (· = .log .exporter)) (by simp) fun u _ hu => hp.lock u (.inr hu)
    exact clear_of_not_attached hnone hlock

theorem not_stuck_of_clear {p : Process} (hl : Locks p) (hp : Clear p) (t : Nat) :
    ¬ Stuck p t := by
  rintro ⟨hgil, u, hne, ⟨hu, hwait⟩ | ⟨hu, hwait⟩⟩
  · have hown : p.lock = some u := (hl.lockOwner u).mpr hu
    have hfree : p.lock = none := by
      refine hp.lock t (.inl ?_)
      obtain hwait | ⟨i, hwait⟩ := hwait <;> simp [hwait, Attached]
    rw [hown] at hfree
    cases hfree
  · have hown : p.runtime = .initializing u := (hl.lazyOwner u).mpr hu
    obtain hready | ⟨hempty, -⟩ := hp.runtime t hwait
    · rw [hown] at hready
      cases hready
    · rw [hown] at hempty
      cases hempty

/-- In a run whose calls keep apart, every call can return from every state. -/
theorem returns_when_apart {as : List (Nat × Act)} (h : StepsMeet step Apart .initial as) :
    Throughout step (fun p => ∀ t, ∃ q, Reachable step p q ∧ q.pc t = .python) .initial as := by
  have hclear : Throughout step (fun p => Locks p ∧ Clear p) .initial as :=
    throughout_of_stepsMeet
      (fun _ _ _ hp ha hq => ⟨locks_step hp.1 hq, clear_step hp.1 hp.2 ha hq⟩)
      ⟨locks_initial, clear_initial⟩ h
  exact hclear.imp fun p hp => returns_of_not_stuck hp.1 (not_stuck_of_clear hp.1 hp.2)

theorem returns_when_apart_afterwards :
    Throughout step (fun p => ∀ t, ∃ q, Reachable step p q ∧ q.pc t = .python) .initial
      [(0, .attach), (0, .initTracing false), (0, .go true), (0, .go true), (0, .go true),
        (0, .go true), (0, .go true), (0, .switch), (1, .attach), (1, .shutdownTracing)] := by
  refine returns_when_apart ?_
  simp [StepsMeet, step, Apart, Process.go, Process.useRuntime, Process.resume, Process.store,
    Process.inPython, Process.initial]

end AerospikePy.Observability.Tracing
