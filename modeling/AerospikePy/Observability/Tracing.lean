import AerospikePy.Lib.Runs

/-!
# Starting and stopping the tracer

`init_tracing` and `shutdown_tracing` of `tracing.rs`, next to operations of the sync client,
on a Python with an interpreter lock. Both calls hold that lock throughout, but for the log
messages, which `PyLogger` hands to Python code. They wait with it for the lock of
`TRACER_PROVIDER` and for the `LazyLock` of `RUNTIME`, whose initialiser logs as well.
-/

namespace AerospikePy.Observability.Tracing

open AerospikePy.Lib.Runs

/-- Where a call goes on after its log message. -/
inductive After where
  | back
  | unlock
  | exporter
  | operation
  deriving DecidableEq, Repr

/-- Where a thread is: in Python code outside of the calls, or at a step of a call. -/
inductive Pc where
  | python
  | log (after : After)
  | enterRuntime
  | buildExporter
  | lockToStore (provider : Nat)
  | lockToTake
  | detached
  | operating
  deriving DecidableEq, Repr

/-- The `LazyLock` of `RUNTIME`, which one thread initialises. -/
inductive Lazy where
  | empty
  | initializing (t : Nat)
  | ready
  deriving DecidableEq, Repr

/-- The locks by their owners, the provider that is stored, `OTEL_ACTIVE`, and the provider
of the global tracer. Providers are numbered as they are built. -/
structure Process where
  gil : Option Nat
  lock : Option Nat
  runtime : Lazy
  provider : Option Nat
  active : Bool
  tracer : Option Nat
  built : Nat
  shutDown : List Nat
  pc : Nat → Pc

def Process.initial : Process := ⟨none, none, .empty, none, false, none, 0, [], fun _ => .python⟩

namespace Process

def goto (p : Process) (t : Nat) (c : Pc) : Process :=
  { p with pc := fun u => if u = t then c else p.pc u }

section goto

variable (p : Process) (t u : Nat) (c : Pc)

@[simp] theorem pc_goto : (p.goto t c).pc u = if u = t then c else p.pc u := rfl

@[simp] theorem gil_goto : (p.goto t c).gil = p.gil := rfl

@[simp] theorem lock_goto : (p.goto t c).lock = p.lock := rfl

@[simp] theorem runtime_goto : (p.goto t c).runtime = p.runtime := rfl

@[simp] theorem provider_goto : (p.goto t c).provider = p.provider := rfl

@[simp] theorem active_goto : (p.goto t c).active = p.active := rfl

@[simp] theorem tracer_goto : (p.goto t c).tracer = p.tracer := rfl

@[simp] theorem built_goto : (p.goto t c).built = p.built := rfl

@[simp] theorem shutDown_goto : (p.goto t c).shutDown = p.shutDown := rfl

end goto

/-- The thread runs Python code, so that the interpreter may switch to another one. -/
def inPython (p : Process) (t : Nat) : Prop := p.pc t = .python ∨ ∃ after, p.pc t = .log after

instance (p : Process) (t : Nat) : Decidable (p.inPython t) :=
  match h : p.pc t with
  | .python => isTrue (.inl h)
  | .log after => isTrue (.inr ⟨after, h⟩)
  | .enterRuntime | .buildExporter | .lockToStore _ | .lockToTake | .detached | .operating =>
    isFalse (by simp [inPython, h])

/-- After the log message. -/
def resume (p : Process) (t : Nat) : After → Process
  | .back => p.goto t .python
  | .unlock => { p with lock := none }.goto t .python
  | .exporter => { p with runtime := .ready }.goto t .buildExporter
  | .operation => { p with runtime := .ready, gil := none }.goto t .operating

/-- The first use of `RUNTIME` builds it, within a message about its workers. -/
def useRuntime (p : Process) (t : Nat) (after : After) (next : Pc) : Option Process :=
  match p.runtime with
  | .ready => some (p.goto t next)
  | .empty => some ({ p with runtime := .initializing t }.goto t (.log after))
  | .initializing _ => none

/-- `*guard = Some(provider)`; the guard lives until after the message. -/
def store (p : Process) (t i : Nat) : Process :=
  { p with lock := some t, provider := some i, active := true }.goto t (.log .unlock)

/-- `guard.take()`, and the shutdown of what was there. `RUNTIME`, in which that was built,
is ready then (`Locks.ready`). -/
def take (p : Process) (t : Nat) : Process :=
  match p.provider with
  | none => p.goto t .python
  | some i =>
    { p with lock := some t, provider := none, shutDown := i :: p.shutDown }.goto t (.log .unlock)

/-- The next step of the call that a thread is in. -/
def go (p : Process) (t : Nat) (exporterBuilds : Bool) : Option Process :=
  match p.pc t with
  | .python => none
  | .log after => if p.gil = some t then some (p.resume t after) else none
  | .enterRuntime => p.useRuntime t .exporter .buildExporter
  | .buildExporter =>
    if exporterBuilds then
      some ({ p with tracer := some p.built, built := p.built + 1 }.goto t (.lockToStore p.built))
    else some (p.goto t (.log .back))
  | .lockToStore i => if p.lock = none then some (p.store t i) else none
  | .lockToTake => if p.lock = none then some (p.take t) else none
  | .detached => p.useRuntime t .operation .operating
  | .operating => if p.gil = none then some ({ p with gil := some t }.goto t .python) else none

end Process

/-- What a thread does: take or give up the interpreter lock in Python code, call, or go on
with a call. A kill switch of the environment makes `init_tracing` return with a message. -/
inductive Act where
  | attach
  | switch
  | initTracing (disabled : Bool)
  | shutdownTracing
  | operate
  | go (exporterBuilds : Bool)
  deriving DecidableEq, Repr

def step (p : Process) : Nat × Act → Option Process
  | (t, .attach) => if p.gil = none ∧ p.inPython t then some { p with gil := some t } else none
  | (t, .switch) => if p.gil = some t ∧ p.inPython t then some { p with gil := none } else none
  | (t, .initTracing disabled) =>
    if p.gil = some t ∧ p.pc t = .python then
      some (p.goto t (if disabled then .log .back else .enterRuntime))
    else none
  | (t, .shutdownTracing) =>
    if p.gil = some t ∧ p.pc t = .python then some ({ p with active := false }.goto t .lockToTake)
    else none
  | (t, .operate) =>
    if p.gil = some t ∧ p.pc t = .python then some ({ p with gil := none }.goto t .detached)
    else none
  | (t, .go exporterBuilds) => p.go t exporterBuilds

/-- The steps that are taken with the interpreter lock held, and without Python code. -/
def Attached : Pc → Prop
  | .enterRuntime | .buildExporter | .lockToStore _ | .lockToTake => True
  | _ => False

/-- Within the initialiser of `RUNTIME`. -/
def BuildsRuntime (c : Pc) : Prop := c = .log .exporter ∨ c = .log .operation

/-- Within an operation, which is run without the interpreter lock. -/
def Released (c : Pc) : Prop := c = .detached ∨ c = .operating

/-- Within `init_tracing`, after it has entered `RUNTIME`. -/
def PastRuntime (c : Pc) : Prop := c = .buildExporter ∨ ∃ i, c = .lockToStore i

/-- The locks are held by the threads that are where they are held, and what is built in
`RUNTIME` is there only after `RUNTIME`. -/
structure Locks (p : Process) : Prop where
  lockOwner : ∀ t, p.lock = some t ↔ p.pc t = .log .unlock
  lazyOwner : ∀ t, p.runtime = .initializing t ↔ BuildsRuntime (p.pc t)
  attached : ∀ t, Attached (p.pc t) → p.gil = some t
  released : ∀ t, Released (p.pc t) → p.gil ≠ some t
  entered : ∀ t, PastRuntime (p.pc t) → p.runtime = .ready
  ready : p.provider.isSome = true → p.runtime = .ready

section Move

variable {p : Process} {t : Nat} {c : Pc}

/-- What holds of the places of all threads holds after a move of one. -/
theorem imp_goto {A : Nat → Prop} {P : Pc → Prop} (hto : P c → A t)
    (h : ∀ u, u ≠ t → P (p.pc u) → A u) : ∀ u, P ((p.goto t c).pc u) → A u := by
  intro u hu
  rw [Process.pc_goto] at hu
  by_cases hut : u = t
  · rw [if_pos hut] at hu
    rw [hut]
    exact hto hu
  · rw [if_neg hut] at hu
    exact h u hut hu

theorem iff_goto {A : Nat → Prop} {P : Pc → Prop} (h : ∀ u, A u ↔ P (p.pc u))
    (hmove : P (p.pc t) ↔ P c) : ∀ u, A u ↔ P ((p.goto t c).pc u) := by
  intro u
  rw [h u, Process.pc_goto]
  by_cases hut : u = t
  · rw [if_pos hut, hut]
    exact hmove
  · rw [if_neg hut]

theorem nobody_goto {P : Pc → Prop} (hto : ¬ P c) (h : ∀ u, u ≠ t → ¬ P (p.pc u)) :
    ∀ u, ¬ P ((p.goto t c).pc u) :=
  imp_goto hto h

/-- A thread gets to a place where no other one is. -/
theorem only_goto {P : Pc → Prop} (hto : P c) (h : ∀ u, ¬ P (p.pc u)) :
    ∀ u, t = u ↔ P ((p.goto t c).pc u) := by
  intro u
  constructor
  · rintro rfl
    simpa using hto
  · exact imp_goto (fun _ => rfl) (fun u _ hu => absurd hu (h u)) u

end Move

namespace Locks

variable {p : Process} {t u : Nat}

theorem not_unlock (hp : Locks p) (hfree : p.lock = none) (u : Nat) : p.pc u ≠ .log .unlock := by
  intro hu
  have howner : p.lock = some u := (hp.lockOwner u).mpr hu
  rw [hfree] at howner
  cases howner

/-- Nobody initialises `RUNTIME`. -/
theorem not_lazy (hp : Locks p) (hidle : ∀ u, p.runtime ≠ .initializing u) (u : Nat) :
    ¬ BuildsRuntime (p.pc u) :=
  fun hu => hidle u ((hp.lazyOwner u).mpr hu)

theorem unlock_unique (hp : Locks p) (ht : p.pc t = .log .unlock) (hu : p.pc u = .log .unlock) :
    u = t :=
  Option.some.inj (((hp.lockOwner u).mpr hu).symm.trans ((hp.lockOwner t).mpr ht))

theorem lazy_unique (hp : Locks p) (ht : BuildsRuntime (p.pc t)) (hu : BuildsRuntime (p.pc u)) :
    u = t :=
  Lazy.initializing.inj (((hp.lazyOwner u).mpr hu).symm.trans ((hp.lazyOwner t).mpr ht))

theorem attached_unique (hp : Locks p) (hgil : p.gil = some t) (hu : Attached (p.pc u)) :
    u = t :=
  Option.some.inj ((hp.attached u hu).symm.trans hgil)

theorem not_attached (hp : Locks p) (hgil : p.gil = none) (u : Nat) : ¬ Attached (p.pc u) := by
  intro hu
  have howner : p.gil = some u := hp.attached u hu
  rw [hgil] at howner
  cases howner

end Locks

theorem locks_initial : Locks .initial where
  lockOwner _ := iff_of_false nofun nofun
  lazyOwner _ := iff_of_false nofun (by simp [Process.initial, BuildsRuntime])
  attached _ := nofun
  released _ _ := nofun
  entered _ := by simp [Process.initial, PastRuntime]
  ready := nofun

/-- The places that a thread holds neither lock in. -/
def LocksNone (c : Pc) : Prop := c ≠ .log .unlock ∧ ¬ BuildsRuntime c

/-- A move between such places, as far as the locks allow the thread to be there. -/
theorem locks_move {p : Process} {t : Nat} {c : Pc} (hp : Locks p) (hfrom : LocksNone (p.pc t))
    (hto : LocksNone c) (hattached : Attached c → p.gil = some t)
    (hreleased : Released c → p.gil ≠ some t)
    (hentered : PastRuntime c → p.runtime = .ready) :
    Locks (p.goto t c) where
  lockOwner := iff_goto (P := (· = .log .unlock)) hp.lockOwner (iff_of_false hfrom.1 hto.1)
  lazyOwner := iff_goto hp.lazyOwner
    (iff_of_false hfrom.2 hto.2)
  attached := imp_goto hattached fun u _ => hp.attached u
  released := imp_goto hreleased
    fun u _ => hp.released u
  entered := imp_goto hentered
    fun u _ => hp.entered u
  ready := hp.ready

/-- A thread takes the lock of `TRACER_PROVIDER`, which is free. -/
theorem locks_takeLock {p : Process} {t : Nat} {provider : Option Nat} (hp : Locks p)
    (hfrom : LocksNone (p.pc t)) (hfree : p.lock = none)
    (hready : provider.isSome = true → p.runtime = .ready) :
    Locks ({ p with lock := some t, provider := provider }.goto t (.log .unlock)) where
  lockOwner u := by
    have honly := only_goto (P := (· = .log .unlock)) (t := t) rfl (hp.not_unlock hfree) u
    rw [← Option.some.injEq] at honly
    exact honly
  lazyOwner := iff_goto hp.lazyOwner
    (iff_of_false hfrom.2 (by simp [BuildsRuntime]))
  attached := imp_goto nofun fun u _ => hp.attached u
  released := imp_goto (by simp [Released])
    fun u _ => hp.released u
  entered := imp_goto (by simp [PastRuntime])
    fun u _ => hp.entered u
  ready := hready

/-- A thread starts to initialise `RUNTIME`. -/
theorem locks_initialize {p : Process} {t : Nat} {after : After} (hp : Locks p)
    (hempty : p.runtime = .empty) (hfrom : LocksNone (p.pc t))
    (hto : after = .exporter ∨ after = .operation) :
    Locks ({ p with runtime := .initializing t }.goto t (.log after)) := by
  have hidle : ∀ u, p.runtime ≠ .initializing u := fun u => by rw [hempty]; exact nofun
  have hnotReady : p.runtime ≠ .ready := by rw [hempty]; exact nofun
  have hlazy : BuildsRuntime (.log after) := by
    rcases hto with rfl | rfl <;> simp [BuildsRuntime]
  have hunlock : Pc.log after ≠ .log .unlock := by
    rcases hto with rfl | rfl <;> simp
  constructor
  · exact iff_goto (P := (· = .log .unlock)) hp.lockOwner (iff_of_false hfrom.1 hunlock)
  · intro u
    have honly := only_goto (t := t)
      hlazy (hp.not_lazy hidle) u
    rw [← Lazy.initializing.injEq] at honly
    exact honly
  · exact imp_goto nofun fun u _ => hp.attached u
  · exact imp_goto (by simp [Released])
      fun u _ => hp.released u
  · exact imp_goto (by simp [PastRuntime])
      fun u _ hu => absurd (hp.entered u hu) hnotReady
  · exact fun hprovider => absurd (hp.ready hprovider) hnotReady

theorem locks_resume {p : Process} {t : Nat} {after : After} (hp : Locks p)
    (hgil : p.gil = some t) (hpc : p.pc t = .log after) : Locks (p.resume t after) := by
  cases after with
  | back =>
    have hnone : LocksNone (p.pc t) := by simp [LocksNone, BuildsRuntime, hpc]
    exact locks_move hp hnone (by simp [LocksNone, BuildsRuntime]) nofun (by simp [Released])
      (by simp [PastRuntime])
  | unlock =>
    constructor
    · have hgone : ∀ u, (p.goto t .python).pc u ≠ .log .unlock :=
        nobody_goto (P := (· = .log .unlock)) nofun fun u hne hu => hne (hp.unlock_unique hpc hu)
      exact fun u => iff_of_false nofun (hgone u)
    · exact iff_goto hp.lazyOwner (by simp [BuildsRuntime, hpc])
    · exact imp_goto nofun fun u _ => hp.attached u
    · exact imp_goto (by simp [Released])
        fun u _ => hp.released u
    · exact imp_goto (by simp [PastRuntime])
        fun u _ => hp.entered u
    · exact hp.ready
  | exporter =>
    constructor
    · exact iff_goto (P := (· = .log .unlock)) hp.lockOwner (by simp [hpc])
    · have hgone : ∀ u, ¬ BuildsRuntime ((p.goto t .buildExporter).pc u) :=
        nobody_goto (by simp [BuildsRuntime]) fun u hne hu => hne (hp.lazy_unique (.inl hpc) hu)
      exact fun u => iff_of_false nofun (hgone u)
    · exact imp_goto (fun _ => hgil) fun u _ => hp.attached u
    · exact imp_goto (by simp [Released])
        fun u _ => hp.released u
    · exact fun _ _ => rfl
    · exact fun _ => rfl
  | operation =>
    constructor
    · exact iff_goto (P := (· = .log .unlock)) hp.lockOwner (by simp [hpc])
    · have hgone : ∀ u, ¬ BuildsRuntime ((p.goto t .operating).pc u) :=
        nobody_goto (by simp [BuildsRuntime]) fun u hne hu => hne (hp.lazy_unique (.inr hpc) hu)
      exact fun u => iff_of_false nofun (hgone u)
    · exact imp_goto nofun fun u hne hu => absurd (hp.attached_unique hgil hu) hne
    · exact fun _ _ => nofun
    · exact fun _ _ => rfl
    · exact fun _ => rfl

theorem locksNone_of_attached {c : Pc} (h : Attached c) : LocksNone c := by
  cases c with
  | enterRuntime | buildExporter | lockToStore i | lockToTake => simp [LocksNone, BuildsRuntime]
  | python | log after | detached | operating => exact h.elim

theorem locks_enterRuntime {p q : Process} {t : Nat} (hp : Locks p)
    (hpc : p.pc t = .enterRuntime) (h : p.useRuntime t .exporter .buildExporter = some q) :
    Locks q := by
  have hat : Attached (p.pc t) := by rw [hpc]; trivial
  have hnone : LocksNone (p.pc t) := locksNone_of_attached hat
  unfold Process.useRuntime at h
  split at h
  case h_1 hready =>
    obtain rfl := Option.some.inj h
    exact locks_move hp hnone (locksNone_of_attached trivial) (fun _ => hp.attached t hat)
      (by simp [Released]) fun _ => hready
  case h_2 hempty =>
    obtain rfl := Option.some.inj h
    exact locks_initialize hp hempty hnone (.inl rfl)
  case h_3 => cases h

theorem locks_detached {p q : Process} {t : Nat} (hp : Locks p)
    (hpc : p.pc t = .detached) (h : p.useRuntime t .operation .operating = some q) : Locks q := by
  have hnone : LocksNone (p.pc t) := by simp [LocksNone, BuildsRuntime, hpc]
  unfold Process.useRuntime at h
  split at h
  case h_1 =>
    obtain rfl := Option.some.inj h
    exact locks_move hp hnone (by simp [LocksNone, BuildsRuntime]) nofun
      (fun _ => hp.released t (.inl hpc)) (by simp [PastRuntime])
  case h_2 hempty =>
    obtain rfl := Option.some.inj h
    exact locks_initialize hp hempty hnone (.inr rfl)
  case h_3 => cases h

theorem locks_store {p : Process} {t i : Nat} (hp : Locks p)
    (hpc : p.pc t = .lockToStore i) (hfree : p.lock = none) : Locks (p.store t i) := by
  have hat : Attached (p.pc t) := by rw [hpc]; trivial
  have hready : p.runtime = .ready := hp.entered t (.inr ⟨i, hpc⟩)
  have htaken : Locks ({ p with lock := some t, provider := some i }.goto t (.log .unlock)) :=
    locks_takeLock hp (locksNone_of_attached hat) hfree fun _ => hready
  exact ⟨htaken.1, htaken.2, htaken.3, htaken.4, htaken.5, htaken.6⟩

theorem locks_take {p : Process} {t : Nat} (hp : Locks p) (hpc : p.pc t = .lockToTake)
    (hfree : p.lock = none) : Locks (p.take t) := by
  have hat : Attached (p.pc t) := by rw [hpc]; trivial
  have hnone : LocksNone (p.pc t) := locksNone_of_attached hat
  unfold Process.take
  split
  case h_1 =>
    exact locks_move hp hnone (by simp [LocksNone, BuildsRuntime]) nofun (by simp [Released])
      (by simp [PastRuntime])
  case h_2 =>
    have htaken : Locks ({ p with lock := some t, provider := none }.goto t (.log .unlock)) :=
      locks_takeLock hp hnone hfree nofun
    exact ⟨htaken.1, htaken.2, htaken.3, htaken.4, htaken.5, htaken.6⟩

theorem locks_buildExporter {p : Process} {t : Nat} {builds : Bool} {q : Process} (hp : Locks p)
    (hpc : p.pc t = .buildExporter) (h : p.go t builds = some q) : Locks q := by
  have hat : Attached (p.pc t) := by rw [hpc]; trivial
  have hnone : LocksNone (p.pc t) := locksNone_of_attached hat
  rw [Process.go, hpc] at h
  cases builds with
  | true =>
    obtain rfl := Option.some.inj h
    have hmoved : Locks (p.goto t (.lockToStore p.built)) :=
      locks_move hp hnone (locksNone_of_attached trivial) (fun _ => hp.attached t hat)
        (by simp [Released]) fun _ => hp.entered t (.inl hpc)
    exact ⟨hmoved.1, hmoved.2, hmoved.3, hmoved.4, hmoved.5, hmoved.6⟩
  | false =>
    obtain rfl := Option.some.inj h
    exact locks_move hp hnone (by simp [LocksNone, BuildsRuntime]) nofun (by simp [Released])
      (by simp [PastRuntime])

/-- A thread comes back from an operation, with the interpreter lock. -/
theorem locks_operating {p : Process} {t : Nat} (hp : Locks p) (hpc : p.pc t = .operating)
    (hgil : p.gil = none) : Locks ({ p with gil := some t }.goto t .python) where
  lockOwner := iff_goto (P := (· = .log .unlock)) hp.lockOwner (by simp [hpc])
  lazyOwner := iff_goto hp.lazyOwner (by simp [BuildsRuntime, hpc])
  attached := imp_goto nofun fun u _ hu => absurd hu (hp.not_attached hgil u)
  released := imp_goto (by simp [Released]) fun u hne _ heq => hne (Option.some.inj heq).symm
  entered := imp_goto (by simp [PastRuntime]) fun u _ => hp.entered u
  ready := hp.ready

/-- A thread gives up the interpreter lock for an operation. -/
theorem locks_operate {p : Process} {t : Nat} (hp : Locks p) (hpc : p.pc t = .python)
    (hgil : p.gil = some t) : Locks ({ p with gil := none }.goto t .detached) where
  lockOwner := iff_goto (P := (· = .log .unlock)) hp.lockOwner (by simp [hpc])
  lazyOwner := iff_goto hp.lazyOwner (by simp [BuildsRuntime, hpc])
  attached := imp_goto nofun fun u hne hu => absurd (hp.attached_unique hgil hu) hne
  released _ _ := nofun
  entered := imp_goto (by simp [PastRuntime]) fun u _ => hp.entered u
  ready := hp.ready

theorem locks_go {p q : Process} {t : Nat} {builds : Bool} (hp : Locks p)
    (h : p.go t builds = some q) : Locks q := by
  have hgo := h
  unfold Process.go at h
  split at h
  case h_1 => cases h
  case h_2 after hpc =>
    obtain ⟨hgil, h⟩ := Option.ite_none_right_eq_some.mp h
    obtain rfl := Option.some.inj h
    exact locks_resume hp hgil hpc
  case h_3 hpc => exact locks_enterRuntime hp hpc h
  case h_4 hpc => exact locks_buildExporter hp hpc hgo
  case h_5 i hpc =>
    obtain ⟨hfree, h⟩ := Option.ite_none_right_eq_some.mp h
    obtain rfl := Option.some.inj h
    exact locks_store hp hpc hfree
  case h_6 hpc =>
    obtain ⟨hfree, h⟩ := Option.ite_none_right_eq_some.mp h
    obtain rfl := Option.some.inj h
    exact locks_take hp hpc hfree
  case h_7 hpc => exact locks_detached hp hpc h
  case h_8 hpc =>
    obtain ⟨hgil, h⟩ := Option.ite_none_right_eq_some.mp h
    obtain rfl := Option.some.inj h
    exact locks_operating hp hpc hgil

/-- A thread in Python code has none of the duties of a call. -/
theorem inPython_not {p : Process} {t : Nat} (h : p.inPython t) :
    ¬ Attached (p.pc t) ∧ ¬ Released (p.pc t) := by
  rcases h with h | ⟨after, h⟩ <;> rw [h] <;> exact ⟨id, by simp [Released]⟩

theorem locks_step {p q : Process} {a : Nat × Act} (hp : Locks p) (h : step p a = some q) :
    Locks q := by
  obtain ⟨t, act⟩ := a
  cases act with
  | go builds => exact locks_go hp h
  | attach =>
    obtain ⟨⟨hgil, hpython⟩, h⟩ := Option.ite_none_right_eq_some.mp h
    obtain rfl := Option.some.inj h
    refine ⟨hp.lockOwner, hp.lazyOwner, fun u hu => absurd hu (hp.not_attached hgil u), ?_,
      hp.entered, hp.ready⟩
    intro u hu heq
    obtain rfl := Option.some.inj heq
    exact (inPython_not hpython).2 hu
  | switch =>
    obtain ⟨⟨hgil, hpython⟩, h⟩ := Option.ite_none_right_eq_some.mp h
    obtain rfl := Option.some.inj h
    refine ⟨hp.lockOwner, hp.lazyOwner, ?_, fun _ _ => nofun, hp.entered, hp.ready⟩
    intro u hu
    obtain rfl := hp.attached_unique hgil hu
    exact absurd hu (inPython_not hpython).1
  | initTracing disabled =>
    obtain ⟨⟨hgil, hpc⟩, h⟩ := Option.ite_none_right_eq_some.mp h
    obtain rfl := Option.some.inj h
    have hnone : LocksNone (p.pc t) := by simp [LocksNone, BuildsRuntime, hpc]
    cases disabled with
    | true =>
      exact locks_move hp hnone (by simp [LocksNone, BuildsRuntime]) nofun (by simp [Released])
        (by simp [PastRuntime])
    | false =>
      exact locks_move hp hnone (locksNone_of_attached trivial) (fun _ => hgil)
        (by simp [Released]) (by simp [PastRuntime])
  | shutdownTracing =>
    obtain ⟨⟨hgil, hpc⟩, h⟩ := Option.ite_none_right_eq_some.mp h
    obtain rfl := Option.some.inj h
    have hnone : LocksNone (p.pc t) := by simp [LocksNone, BuildsRuntime, hpc]
    have hmoved : Locks (p.goto t .lockToTake) :=
      locks_move hp hnone (locksNone_of_attached trivial) (fun _ => hgil) (by simp [Released])
        (by simp [PastRuntime])
    exact ⟨hmoved.1, hmoved.2, hmoved.3, hmoved.4, hmoved.5, hmoved.6⟩
  | operate =>
    obtain ⟨⟨hgil, hpc⟩, h⟩ := Option.ite_none_right_eq_some.mp h
    obtain rfl := Option.some.inj h
    exact locks_operate hp hpc hgil

end AerospikePy.Observability.Tracing
