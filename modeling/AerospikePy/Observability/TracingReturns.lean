import AerospikePy.Observability.Tracing

/-!
# The stored provider, and the calls that return

Between the calls, tracing is active exactly while a provider is stored, which is then the one
of the global tracer. A thread that waits for a lock with the interpreter lock in its hands
waits for ever when the owner has a message to hand to Python code; no other call is stuck.
-/

namespace AerospikePy.Observability.Tracing

open AerospikePy.Lib.Runs

/-- Where the owner of the interpreter lock is. -/
def Process.place (p : Process) : Option Pc := p.gil.map p.pc

theorem place_goto {p : Process} {t : Nat} (h : p.gil = some t) (c : Pc) :
    (p.goto t c).place = some c := by
  simp [Process.place, h]

theorem place_goto_of_ne {p : Process} {t : Nat} (h : p.gil ≠ some t) (c : Pc) :
    (p.goto t c).place = p.place := by
  unfold Process.place
  cases hgil : p.gil with
  | none => simp [hgil]
  | some u =>
    have hne : u ≠ t := fun hu => h (hu ▸ hgil)
    simp [hgil, hne]

/-- The provider that is stored is the one of the tracer, and tracing is active exactly while
there is one, but for the steps of a call that change it. -/
structure Kept (p : Process) : Prop where
  fresh : ∀ i ∈ p.shutDown, i < p.built
  storing : ∀ i, p.place = some (.lockToStore i) →
    p.tracer = some i ∧ i < p.built ∧ i ∉ p.shutDown
  stored : ∀ i, p.provider = some i → i < p.built ∧ i ∉ p.shutDown ∧
    (p.tracer = some i ∨ ∃ j, p.place = some (.lockToStore j))
  active : p.active = true ↔ p.provider.isSome = true ∧ p.place ≠ some .lockToTake

theorem kept_initial : Kept .initial := by
  constructor <;> simp [Process.initial, Process.place]

def Process.providers (p : Process) : Option Nat × Bool × Option Nat × Nat × List Nat :=
  (p.provider, p.active, p.tracer, p.built, p.shutDown)

/-- A place outside of the two steps that change what is stored. -/
def Idle (place : Option Pc) : Prop := place ≠ some .lockToTake ∧ ∀ i, place ≠ some (.lockToStore i)

theorem kept_congr {p q : Process} (hp : Kept p) (hsame : q.providers = p.providers)
    (hplace : q.place = p.place) : Kept q := by
  simp only [Process.providers, Prod.mk.injEq] at hsame
  obtain ⟨hprovider, hactive, htracer, hbuilt, hshut⟩ := hsame
  obtain ⟨hfresh, hstoring, hstored, hiff⟩ := hp
  constructor
  · rw [hbuilt, hshut]
    exact hfresh
  · rw [hplace, htracer, hbuilt, hshut]
    exact hstoring
  · rw [hprovider, hplace, htracer, hbuilt, hshut]
    exact hstored
  · rw [hactive, hprovider, hplace]
    exact hiff

/-- A step that leaves the providers alone. -/
theorem kept_of_idle {p q : Process} (hp : Kept p) (hsame : q.providers = p.providers)
    (hidle : Idle p.place) (hidle' : Idle q.place) : Kept q := by
  simp only [Process.providers, Prod.mk.injEq] at hsame
  obtain ⟨hprovider, hactive, htracer, hbuilt, hshut⟩ := hsame
  obtain ⟨htake, hstore⟩ := hidle
  obtain ⟨htake', hstore'⟩ := hidle'
  obtain ⟨hfresh, hstoring, hstored, hiff⟩ := hp
  constructor
  · rw [hbuilt, hshut]
    exact hfresh
  · exact fun i hi => absurd hi (hstore' i)
  · intro i hi
    rw [hprovider] at hi
    obtain ⟨hlt, hnot, htr⟩ := hstored i hi
    rw [hbuilt, hshut, htracer]
    refine ⟨hlt, hnot, .inl (htr.resolve_right ?_)⟩
    rintro ⟨j, hj⟩
    exact hstore j hj
  · rw [hactive, hprovider, hiff]
    exact and_congr_right fun _ => iff_of_true htake htake'

theorem idle_none : Idle none := ⟨nofun, nofun⟩

theorem idle_python : Idle (some .python) := ⟨nofun, nofun⟩

theorem idle_log (after : After) : Idle (some (.log after)) := ⟨nofun, nofun⟩

theorem idle_exporter : Idle (some .buildExporter) := ⟨nofun, nofun⟩

theorem idle_enter : Idle (some .enterRuntime) := ⟨nofun, nofun⟩

theorem idle_of_inPython {p : Process} {t : Nat} (h : p.inPython t) : Idle (some (p.pc t)) := by
  obtain hpc | ⟨after, hpc⟩ := h
  · exact hpc ▸ idle_python
  · exact hpc ▸ idle_log after

theorem place_of_gil {p : Process} {t : Nat} (h : p.gil = some t) : p.place = some (p.pc t) := by
  rw [Process.place, h]
  rfl

theorem kept_resume {p : Process} {t : Nat} {after : After} (hp : Kept p) (hgil : p.gil = some t)
    (hpc : p.pc t = .log after) : Kept (p.resume t after) := by
  have hidle : Idle p.place := by
    rw [place_of_gil hgil, hpc]
    exact idle_log after
  cases after with
  | back => exact kept_of_idle hp rfl hidle (place_goto hgil _ ▸ idle_python)
  | unlock =>
    refine kept_of_idle hp rfl hidle ?_
    have hplace : (p.resume t .unlock).place = some .python := place_goto hgil _
    rw [hplace]
    exact idle_python
  | exporter =>
    refine kept_of_idle hp rfl hidle ?_
    have hplace : (p.resume t .exporter).place = some .buildExporter := place_goto hgil _
    rw [hplace]
    exact idle_exporter
  | operation => exact kept_of_idle hp rfl hidle idle_none

/-- The provider that has just been built is the one of the tracer. -/
theorem kept_built {p : Process} {t : Nat} (hp : Kept p) (hgil : p.gil = some t)
    (hplace : p.place = some .buildExporter) :
    Kept ({ p with tracer := some p.built, built := p.built + 1 }.goto t (.lockToStore p.built)) := by
  have hafter := place_goto (p := { p with tracer := some p.built, built := p.built + 1 }) hgil
    (.lockToStore p.built)
  constructor
  · exact fun i hi => Nat.lt_succ_of_lt (hp.fresh i hi)
  · intro i hi
    rw [hafter] at hi
    obtain rfl := Pc.lockToStore.inj (Option.some.inj hi)
    exact ⟨rfl, Nat.lt_succ_self _, fun hin => Nat.lt_irrefl _ (hp.fresh _ hin)⟩
  · intro i hi
    obtain ⟨hlt, hnot, -⟩ := hp.stored i hi
    exact ⟨Nat.lt_succ_of_lt hlt, hnot, .inr ⟨p.built, hafter⟩⟩
  · rw [hafter]
    have hactive := hp.active
    rw [hplace] at hactive
    exact hactive.trans (and_congr_right fun _ => iff_of_true nofun nofun)

theorem kept_store {p : Process} {t i : Nat} (hp : Kept p) (hgil : p.gil = some t)
    (hplace : p.place = some (.lockToStore i)) : Kept (p.store t i) := by
  have hafter : (p.store t i).place = some (.log .unlock) := place_goto hgil _
  obtain ⟨htracer, hlt, hnot⟩ := hp.storing i hplace
  constructor
  · exact hp.fresh
  · intro j hj
    rw [hafter] at hj
    cases hj
  · intro j hj
    obtain rfl := Option.some.inj hj
    exact ⟨hlt, hnot, .inl htracer⟩
  · rw [hafter]
    exact iff_of_true rfl ⟨rfl, nofun⟩

theorem kept_take {p : Process} {t : Nat} (hp : Kept p) (hgil : p.gil = some t)
    (hplace : p.place = some .lockToTake) : Kept (p.take t) := by
  have hinactive : p.active ≠ true := fun h => (hp.active.mp h).2 hplace
  unfold Process.take
  split
  case h_1 hnone =>
    have hafter : (p.goto t .python).place = some .python := place_goto hgil _
    constructor
    · exact hp.fresh
    · intro j hj
      rw [hafter] at hj
      cases hj
    · intro j hj
      rw [Process.provider_goto, hnone] at hj
      cases hj
    · refine iff_of_false hinactive fun h => ?_
      rw [Process.provider_goto, hnone] at h
      cases h.1
  case h_2 i hsome =>
    have hafter := place_goto
      (p := { p with lock := some t, provider := none, shutDown := i :: p.shutDown }) hgil
      (.log .unlock)
    constructor
    · intro j hj
      rcases List.mem_cons.mp hj with rfl | hj
      · exact (hp.stored j hsome).1
      · exact hp.fresh j hj
    · intro j hj
      rw [hafter] at hj
      cases hj
    · exact nofun
    · exact iff_of_false hinactive fun h => Bool.false_ne_true h.1

theorem kept_shutdown {p : Process} {t : Nat} (hp : Kept p) (hgil : p.gil = some t)
    (hplace : p.place = some .python) : Kept ({ p with active := false }.goto t .lockToTake) := by
  have hafter := place_goto (p := { p with active := false }) hgil .lockToTake
  constructor
  · exact hp.fresh
  · intro j hj
    rw [hafter] at hj
    cases hj
  · intro i hi
    obtain ⟨hlt, hnot, htracer⟩ := hp.stored i hi
    refine ⟨hlt, hnot, .inl (htracer.resolve_right ?_)⟩
    rintro ⟨j, hj⟩
    rw [hplace] at hj
    cases hj
  · exact iff_of_false Bool.false_ne_true fun h => h.2 hafter

theorem kept_go {p q : Process} {t : Nat} {builds : Bool} (hl : Locks p) (hp : Kept p)
    (h : p.go t builds = some q) : Kept q := by
  unfold Process.go at h
  split at h
  case h_1 => cases h
  case h_2 after hpc =>
    obtain ⟨hgil, h⟩ := Option.ite_none_right_eq_some.mp h
    obtain rfl := Option.some.inj h
    exact kept_resume hp hgil hpc
  case h_3 hpc =>
    have hgil : p.gil = some t := hl.attached t (by simp [hpc, Attached])
    have hidle : Idle p.place := place_of_gil hgil ▸ hpc ▸ idle_enter
    unfold Process.useRuntime at h
    split at h
    case h_1 =>
      obtain rfl := Option.some.inj h
      exact kept_of_idle hp rfl hidle (place_goto hgil _ ▸ idle_exporter)
    case h_2 =>
      obtain rfl := Option.some.inj h
      refine kept_of_idle hp rfl hidle ?_
      rw [place_goto (p := { p with runtime := .initializing t }) hgil]
      exact idle_log .exporter
    case h_3 => cases h
  case h_4 hpc =>
    have hgil : p.gil = some t := hl.attached t (by simp [hpc, Attached])
    have hplace : p.place = some .buildExporter := hpc ▸ place_of_gil hgil
    have hidle : Idle p.place := hplace ▸ idle_exporter
    split at h
    case isTrue =>
      obtain rfl := Option.some.inj h
      exact kept_built hp hgil hplace
    case isFalse =>
      obtain rfl := Option.some.inj h
      exact kept_of_idle hp rfl hidle (place_goto hgil _ ▸ idle_log .back)
  case h_5 i hpc =>
    have hgil : p.gil = some t := hl.attached t (by simp [hpc, Attached])
    have hplace : p.place = some (.lockToStore i) := hpc ▸ place_of_gil hgil
    obtain ⟨hfree, h⟩ := Option.ite_none_right_eq_some.mp h
    obtain rfl := Option.some.inj h
    exact kept_store hp hgil hplace
  case h_6 hpc =>
    have hgil : p.gil = some t := hl.attached t (by simp [hpc, Attached])
    have hplace : p.place = some .lockToTake := hpc ▸ place_of_gil hgil
    obtain ⟨hfree, h⟩ := Option.ite_none_right_eq_some.mp h
    obtain rfl := Option.some.inj h
    exact kept_take hp hgil hplace
  case h_7 hpc =>
    have hgil : p.gil ≠ some t := hl.released t (.inl hpc)
    unfold Process.useRuntime at h
    split at h
    case h_1 =>
      obtain rfl := Option.some.inj h
      exact kept_congr hp rfl (place_goto_of_ne hgil _)
    case h_2 =>
      obtain rfl := Option.some.inj h
      exact kept_congr hp rfl (place_goto_of_ne (p := { p with runtime := .initializing t }) hgil _)
    case h_3 => cases h
  case h_8 hpc =>
    obtain ⟨hgil, h⟩ := Option.ite_none_right_eq_some.mp h
    obtain rfl := Option.some.inj h
    have hidle : Idle p.place := by
      rw [Process.place, hgil]
      exact idle_none
    refine kept_of_idle hp rfl hidle ?_
    rw [place_goto (p := { p with gil := some t }) rfl]
    exact idle_python

theorem kept_step {p q : Process} {a : Nat × Act} (hl : Locks p) (hp : Kept p)
    (h : step p a = some q) : Kept q := by
  obtain ⟨t, act⟩ := a
  cases act with
  | go builds => exact kept_go hl hp h
  | attach =>
    obtain ⟨⟨hgil, hpython⟩, h⟩ := Option.ite_none_right_eq_some.mp h
    obtain rfl := Option.some.inj h
    have hidle : Idle p.place := by
      rw [Process.place, hgil]
      exact idle_none
    refine kept_of_idle hp rfl hidle ?_
    rw [place_of_gil (p := { p with gil := some t }) rfl]
    exact idle_of_inPython hpython
  | switch =>
    obtain ⟨⟨hgil, hpython⟩, h⟩ := Option.ite_none_right_eq_some.mp h
    obtain rfl := Option.some.inj h
    refine kept_of_idle hp rfl ?_ idle_none
    rw [place_of_gil hgil]
    exact idle_of_inPython hpython
  | initTracing disabled =>
    obtain ⟨⟨hgil, hpc⟩, h⟩ := Option.ite_none_right_eq_some.mp h
    obtain rfl := Option.some.inj h
    refine kept_of_idle hp rfl (place_of_gil hgil ▸ hpc ▸ idle_python) ?_
    rw [place_goto hgil]
    cases disabled with
    | true => exact idle_log .back
    | false => exact idle_enter
  | shutdownTracing =>
    obtain ⟨⟨hgil, hpc⟩, h⟩ := Option.ite_none_right_eq_some.mp h
    obtain rfl := Option.some.inj h
    exact kept_shutdown hp hgil (hpc ▸ place_of_gil hgil)
  | operate =>
    obtain ⟨⟨hgil, hpc⟩, h⟩ := Option.ite_none_right_eq_some.mp h
    obtain rfl := Option.some.inj h
    exact kept_of_idle hp rfl (place_of_gil hgil ▸ hpc ▸ idle_python) idle_none

/-- The thread holds the interpreter lock and waits for a lock whose owner needs that one,
to hand a message to Python code. -/
def Stuck (p : Process) (t : Nat) : Prop :=
  p.gil = some t ∧ ∃ u ≠ t,
    (p.pc u = .log .unlock ∧ (p.pc t = .lockToTake ∨ ∃ i, p.pc t = .lockToStore i)) ∨
    ((p.pc u = .log .exporter ∨ p.pc u = .log .operation) ∧ p.pc t = .enterRuntime)

theorem Stuck.attached {p : Process} {t : Nat} (h : Stuck p t) : Attached (p.pc t) := by
  obtain ⟨-, u, -, ⟨-, h | ⟨i, h⟩⟩ | ⟨-, h⟩⟩ := h
  · rw [h]
    trivial
  · rw [h]
    trivial
  · rw [h]
    trivial

/-- A thread stays stuck while it and the owner of the lock stay where they are. -/
theorem Stuck.congr {p q : Process} {t : Nat} (h : Stuck p t) (hgil : q.gil = p.gil)
    (hpc : ∀ u, u = t ∨ (∃ after, p.pc u = .log after) → q.pc u = p.pc u) : Stuck q t := by
  obtain ⟨howner, u, hne, hwait⟩ := h
  refine ⟨hgil.trans howner, u, hne, ?_⟩
  have hu : ∃ after, p.pc u = .log after := by
    rcases hwait with ⟨hu, -⟩ | ⟨hu | hu, -⟩ <;> exact ⟨_, hu⟩
  rw [hpc t (.inl rfl), hpc u (.inr hu)]
  exact hwait

/-- What waits so waits forever: whatever another thread does, it does not go on. -/
theorem stuck_go {p q : Process} {s t : Nat} {builds : Bool} (hl : Locks p) (hs : Stuck p t)
    (h : p.go s builds = some q) : Stuck q t := by
  have hat : Attached (p.pc t) := hs.attached
  obtain ⟨hgil, u, hne, hwait⟩ := id hs
  have hother : ∀ {v}, Attached (p.pc v) → v = t := hl.attached_unique hgil
  unfold Process.go at h
  split at h
  case h_1 => cases h
  case h_2 after hpc =>
    obtain ⟨howner, -⟩ := Option.ite_none_right_eq_some.mp h
    obtain rfl := Option.some.inj (hgil.symm.trans howner)
    rw [hpc] at hat
    exact hat.elim
  case h_3 hpc =>
    obtain rfl := hother (by rw [hpc]; trivial)
    rcases hwait with ⟨-, hwait⟩ | ⟨hu, -⟩
    · rw [hpc] at hwait
      obtain hwait | ⟨i, hwait⟩ := hwait <;> cases hwait
    · have howner : p.runtime = .initializing u := (hl.lazyOwner u).mpr hu
      rw [Process.useRuntime, howner] at h
      cases h
  case h_4 hpc =>
    obtain rfl := hother (by rw [hpc]; trivial)
    rw [hpc] at hwait
    obtain ⟨-, hwait | ⟨i, hwait⟩⟩ | ⟨-, hwait⟩ := hwait <;> cases hwait
  case h_5 | h_6 =>
    rename_i hpc
    obtain rfl := hother (by rw [hpc]; trivial)
    obtain ⟨hfree, -⟩ := Option.ite_none_right_eq_some.mp h
    rcases hwait with ⟨hu, -⟩ | ⟨-, hwait⟩
    · exact absurd hu (hl.not_unlock hfree u)
    · rw [hpc] at hwait
      cases hwait
  case h_7 hpc =>
    have hstays : ∀ c v, v = t ∨ (∃ after, p.pc v = .log after) → (p.goto s c).pc v = p.pc v := by
      intro c v hv
      rw [Process.pc_goto, if_neg]
      rintro rfl
      rcases hv with rfl | ⟨after, hv⟩
      · rw [hpc] at hat
        exact hat
      · rw [hpc] at hv
        cases hv
    unfold Process.useRuntime at h
    split at h
    case h_1 =>
      obtain rfl := Option.some.inj h
      exact hs.congr rfl (hstays _)
    case h_2 =>
      obtain rfl := Option.some.inj h
      exact hs.congr rfl (hstays _)
    case h_3 => cases h
  case h_8 =>
    obtain ⟨hfree, -⟩ := Option.ite_none_right_eq_some.mp h
    rw [hgil] at hfree
    cases hfree

theorem stuck_step {p q : Process} {a : Nat × Act} {t : Nat} (hl : Locks p) (hs : Stuck p t)
    (h : step p a = some q) : Stuck q t := by
  have hgil : p.gil = some t := hs.1
  obtain ⟨s, act⟩ := a
  have hpython : ¬ p.inPython t := fun hin => (inPython_not hin).1 hs.attached
  cases act with
  | attach =>
    obtain ⟨⟨hfree, -⟩, h⟩ := Option.ite_none_right_eq_some.mp h
    rw [hgil] at hfree
    cases hfree
  | switch =>
    obtain ⟨⟨howner, hin⟩, h⟩ := Option.ite_none_right_eq_some.mp h
    obtain rfl := Option.some.inj (hgil.symm.trans howner)
    exact absurd hin hpython
  | initTracing disabled =>
    obtain ⟨⟨howner, hpc⟩, h⟩ := Option.ite_none_right_eq_some.mp h
    obtain rfl := Option.some.inj (hgil.symm.trans howner)
    exact absurd (.inl hpc) hpython
  | shutdownTracing | operate =>
    obtain ⟨⟨howner, hpc⟩, h⟩ := Option.ite_none_right_eq_some.mp h
    obtain rfl := Option.some.inj (hgil.symm.trans howner)
    exact absurd (.inl hpc) hpython
  | go builds => exact stuck_go hl hs h

theorem stuck_of_lock {p : Process} {t u : Nat} (hl : Locks p) (hgil : p.gil = some t)
    (hpc : p.pc t = .lockToTake ∨ ∃ i, p.pc t = .lockToStore i) (hlock : p.lock = some u) :
    Stuck p t := by
  have hu : p.pc u = .log .unlock := (hl.lockOwner u).mp hlock
  refine ⟨hgil, u, ?_, .inl ⟨hu, hpc⟩⟩
  rintro rfl
  rw [hu] at hpc
  obtain hpc | ⟨i, hpc⟩ := hpc <;> cases hpc

theorem stuck_of_lazy {p : Process} {t u : Nat} (hl : Locks p) (hgil : p.gil = some t)
    (hpc : p.pc t = .enterRuntime) (hlazy : p.runtime = .initializing u) : Stuck p t := by
  have hu := (hl.lazyOwner u).mp hlazy
  refine ⟨hgil, u, ?_, .inr ⟨hu, hpc⟩⟩
  rintro rfl
  rw [hpc] at hu
  obtain hu | hu := hu <;> cases hu

theorem frees_of_run {p : Process} (as : List (Nat × Act))
    (h : (run step p as).map Process.gil = some none) : ∃ q, Reachable step p q ∧ q.gil = none :=
  reachable_of_map_run as h

theorem returns_of_run {p : Process} {t : Nat} (as : List (Nat × Act))
    (h : (run step p as).map (fun q => q.pc t) = some .python) :
    ∃ q, Reachable step p q ∧ q.pc t = .python :=
  reachable_of_map_run as h

/-- Unless the owner of the interpreter lock is stuck, it comes to a place to give it up. -/
theorem free_gil {p : Process} (hl : Locks p) (hs : ∀ t, ¬ Stuck p t) :
    ∃ q, Reachable step p q ∧ q.gil = none := by
  cases hgil : p.gil with
  | none => exact ⟨p, ⟨[], rfl⟩, hgil⟩
  | some t =>
    cases hpc : p.pc t with
    | python | log after =>
      exact frees_of_run [(t, .switch)] (by simp [run, step, Process.inPython, hgil, hpc])
    | enterRuntime =>
      cases hlazy : p.runtime with
      | ready =>
        refine frees_of_run [(t, .go false), (t, .go false), (t, .switch)] ?_
        simp [run, step, Process.go, Process.useRuntime, Process.inPython, hgil, hpc, hlazy]
      | empty =>
        refine frees_of_run [(t, .go false), (t, .switch)] ?_
        simp [run, step, Process.go, Process.useRuntime, Process.inPython, hgil, hpc, hlazy]
      | initializing u => exact absurd (stuck_of_lazy hl hgil hpc hlazy) (hs t)
    | buildExporter =>
      refine frees_of_run [(t, .go false), (t, .switch)] ?_
      simp [run, step, Process.go, Process.inPython, hgil, hpc]
    | lockToStore i =>
      cases hlock : p.lock with
      | none =>
        refine frees_of_run [(t, .go false), (t, .switch)] ?_
        simp [run, step, Process.go, Process.store, Process.inPython, hgil, hpc, hlock]
      | some u => exact absurd (stuck_of_lock hl hgil (.inr ⟨i, hpc⟩) hlock) (hs t)
    | lockToTake =>
      cases hlock : p.lock with
      | none =>
        refine frees_of_run [(t, .go false), (t, .switch)] ?_
        cases hprovider : p.provider <;>
          simp [run, step, Process.go, Process.take, Process.inPython, hgil, hpc, hlock, hprovider]
      | some u => exact absurd (stuck_of_lock hl hgil (.inl hpc) hlock) (hs t)
    | detached => exact absurd hgil (hl.released t (.inl hpc))
    | operating => exact absurd hgil (hl.released t (.inr hpc))

/-- With the interpreter lock free, every call can come to its end. -/
theorem returns_of_free {p : Process} (hl : Locks p) (hgil : p.gil = none) (t : Nat) :
    ∃ q, Reachable step p q ∧ q.pc t = .python := by
  cases hpc : p.pc t with
  | python => exact ⟨p, ⟨[], rfl⟩, hpc⟩
  | log after =>
    cases after with
    | back | unlock =>
      refine returns_of_run [(t, .attach), (t, .go false)] ?_
      simp [run, step, Process.go, Process.resume, Process.inPython, hgil, hpc]
    | exporter =>
      refine returns_of_run
        [(t, .attach), (t, .go false), (t, .go false), (t, .go false)] ?_
      simp [run, step, Process.go, Process.resume, Process.inPython, hgil, hpc]
    | operation =>
      refine returns_of_run
        [(t, .attach), (t, .go false), (t, .go false)] ?_
      simp [run, step, Process.go, Process.resume, Process.inPython, hgil, hpc]
  | operating =>
    refine returns_of_run [(t, .go false)] ?_
    simp [run, step, Process.go, hgil, hpc]
  | detached =>
    cases hlazy : p.runtime with
    | ready =>
      refine returns_of_run [(t, .go false), (t, .go false)] ?_
      simp [run, step, Process.go, Process.useRuntime, hgil, hpc, hlazy]
    | empty =>
      refine returns_of_run
        [(t, .go false), (t, .attach), (t, .go false), (t, .go false)] ?_
      simp [run, step, Process.go, Process.useRuntime, Process.resume, Process.inPython, hgil, hpc,
        hlazy]
    | initializing u =>
      -- The thread that builds the runtime has to get its message out first.
      have hu := (hl.lazyOwner u).mp hlazy
      have hne : t ≠ u := by
        rintro rfl
        rw [hpc] at hu
        obtain hu | hu := hu <;> cases hu
      obtain hu | hu := hu
      · refine returns_of_run [(u, .attach), (u, .go false), (u, .go false), (u, .switch),
          (t, .go false), (t, .go false)] ?_
        simp [run, step, Process.go, Process.useRuntime, Process.resume, Process.inPython, hgil,
          hpc, hu, hne]
      · refine returns_of_run [(u, .attach), (u, .go false), (t, .go false), (t, .go false)] ?_
        simp [run, step, Process.go, Process.useRuntime, Process.resume, Process.inPython, hgil,
          hpc, hu, hne]
  | enterRuntime | buildExporter | lockToStore i | lockToTake =>
    have howner : p.gil = some t := hl.attached t (by simp [hpc, Attached])
    rw [hgil] at howner
    cases howner

theorem locks_reachable {p : Process} (h : Reachable step .initial p) : Locks p :=
  reachable_invariant (fun _ _ _ hp hq => locks_step hp hq) locks_initial h

theorem kept_reachable {p : Process} (h : Reachable step .initial p) : Kept p := by
  have hboth : Locks p ∧ Kept p :=
    reachable_invariant (I := fun p => Locks p ∧ Kept p)
      (fun _ _ _ hp hq => ⟨locks_step hp.1 hq, kept_step hp.1 hp.2 hq⟩)
      ⟨locks_initial, kept_initial⟩ h
  exact hboth.2

theorem stuck_forever {p q : Process} {t : Nat} (hl : Locks p) (hs : Stuck p t)
    (h : Reachable step p q) : Stuck q t := by
  have hboth : Locks q ∧ Stuck q t :=
    reachable_invariant (I := fun p => Locks p ∧ Stuck p t)
      (fun _ _ _ hp hq => ⟨locks_step hp.1 hq, stuck_step hp.1 hp.2 hq⟩) ⟨hl, hs⟩ h
  exact hboth.2

theorem Stuck.ne_python {p : Process} {t : Nat} (h : Stuck p t) : p.pc t ≠ .python := by
  intro hpc
  have hat : Attached (p.pc t) := h.attached
  rw [hpc] at hat
  exact hat

theorem returns_of_not_stuck {p : Process} (hl : Locks p) (hs : ∀ t, ¬ Stuck p t) (t : Nat) :
    ∃ q, Reachable step p q ∧ q.pc t = .python := by
  obtain ⟨r, hr, hgil⟩ := free_gil hl hs
  have hlr : Locks r := reachable_invariant (fun _ _ _ hp hq => locks_step hp hq) hl hr
  obtain ⟨q, hq, hpc⟩ := returns_of_free hlr hgil t
  exact ⟨q, hr.trans hq, hpc⟩

/-- However threads interleave: outside of the calls' own steps, tracing is active exactly
while a provider is stored, and that is the one of the global tracer and has not been shut
down. Every call can still return exactly if no thread is stuck, and one that is stays so,
with the interpreter lock. -/
theorem tracing_consistent {p : Process} (h : Reachable step .initial p) :
    ((∀ t, p.gil = some t → ¬ Attached (p.pc t)) →
      p.active = p.provider.isSome ∧
        ∀ i, p.provider = some i → p.tracer = some i ∧ i ∉ p.shutDown) ∧
    ((∀ t, ∃ q, Reachable step p q ∧ q.pc t = .python) ↔ ∀ t, ¬ Stuck p t) ∧
    ∀ t, Stuck p t → ∀ q, Reachable step p q → Stuck q t := by
  have hl : Locks p := locks_reachable h
  refine ⟨fun hout => ?_, ⟨fun hreturns t hs => ?_, returns_of_not_stuck hl⟩,
    fun t hs q => stuck_forever hl hs⟩
  · have hp : Kept p := kept_reachable h
    have hplace : ∀ c, Attached c → p.place ≠ some c := by
      intro c hc hat
      obtain ⟨t, hgil, hpc⟩ := Option.map_eq_some_iff.mp hat
      exact hout t hgil (hpc ▸ hc)
    constructor
    · rw [Bool.eq_iff_iff, hp.active]
      exact and_iff_left (hplace .lockToTake trivial)
    · intro i hi
      obtain ⟨-, hnot, htracer⟩ := hp.stored i hi
      refine ⟨htracer.resolve_right ?_, hnot⟩
      rintro ⟨j, hj⟩
      exact hplace (.lockToStore j) trivial hj
  · obtain ⟨q, hq, hpc⟩ := hreturns t
    exact (stuck_forever hl hs hq).ne_python hpc

/-- One thread sets up tracing, and the other one takes it down while the first one is told
that it is set up. -/
theorem tracing_consistent_stuck : ∃ p, Reachable step .initial p ∧ Stuck p 1 ∧
    (∀ q, Reachable step p q → Stuck q 1) := by
  obtain ⟨p, ⟨as, hr⟩, hp⟩ : ∃ p, Reachable step .initial p ∧
      (p.gil, p.pc 0, p.pc 1) = (some 1, .log .unlock, .lockToTake) :=
    reachable_of_map_run [(0, .attach), (0, .initTracing false), (0, .go true), (0, .go true),
      (0, .go true), (0, .go true), (0, .switch), (1, .attach), (1, .shutdownTracing)] rfl
  simp only [Prod.mk.injEq] at hp
  obtain ⟨hgil, h0, h1⟩ := hp
  have hs : Stuck p 1 := ⟨hgil, 0, by decide, .inl ⟨h0, .inl h1⟩⟩
  exact ⟨p, ⟨as, hr⟩, hs, (tracing_consistent ⟨as, hr⟩).2.2 1 hs⟩

end AerospikePy.Observability.Tracing
