import AerospikePy.Lib.Runs

/-!
# The metrics server

`start_metrics_server` and `stop_metrics_server` of `_observability.py` run under one lock,
so that a process makes these calls one after the other, from whatever threads. What binding
a port, starting a thread, shutting a server down and closing its socket come to is not up
to them.
-/

namespace AerospikePy.Observability.MetricsServer

open AerospikePy.Lib.Runs

/-- An `HTTPServer` that was bound: its socket, and whether a thread is in
`serve_forever`. -/
structure HttpServer where
  port : Nat
  isOpen : Bool
  serving : Bool
  deriving DecidableEq, Repr

/-- The servers that were ever bound, and the two globals, which name a server and its
thread by the place of the server in the list. -/
structure Process where
  servers : List HttpServer
  server : Option Nat
  thread : Option Nat
  deriving DecidableEq, Repr

def Process.initial : Process := ⟨[], none, none⟩

/-- What is outside of a call: the port that was bound, if any, and the exceptions. -/
structure World where
  bound : Option Nat
  threadStarts : Bool
  shutdownRaises : Bool
  closeRaises : Bool

/-- Where a call of `start_metrics_server` raises. -/
inductive Failure where
  | bind
  | thread
  | teardown
  deriving DecidableEq, Repr

namespace Process

/-- The socket is bound and listens. -/
def bind (p : Process) (port : Nat) : Process :=
  { p with servers := p.servers ++ [⟨port, true, false⟩] }

/-- A thread enters `serve_forever()`. -/
def serve (p : Process) (i : Nat) : Process :=
  { p with servers := p.servers.modify i fun srv => { srv with serving := true } }

/-- `shutdown()`, which waits for the loop of the thread to end. -/
def shutdown (p : Process) (i : Nat) : Process :=
  { p with servers := p.servers.modify i fun srv => { srv with serving := false } }

/-- `server_close()`. -/
def close (p : Process) (i : Nat) : Process :=
  { p with servers := p.servers.modify i fun srv => { srv with isOpen := false } }

/-- The assignments to `_metrics_server` and `_metrics_server_thread`. -/
def publish (p : Process) (i : Option Nat) : Process := { p with server := i, thread := i }

def isServing (p : Process) (i : Nat) : Bool := (p.servers[i]?).any (·.serving)

def isOpen (p : Process) (i : Nat) : Bool := (p.servers[i]?).any (·.isOpen)

/-- `server_address[1]`. -/
def portOf (p : Process) (i : Nat) : Option Nat := (p.servers[i]?).map (·.port)

/-- Port 0 stands for any port, and an open socket keeps its port from being bound. -/
def canBind (p : Process) (port actual : Nat) : Bool :=
  decide (port = 0 ∨ actual = port) && decide (actual ≠ 0) &&
    p.servers.all fun srv => !(srv.isOpen && decide (srv.port = actual))

/-- `old_server.server_address[1] == port`. -/
def samePort (p : Process) (port : Nat) : Bool :=
  p.server.any fun i => decide (p.portOf i = some port)

/-- The restart on the same port: an exception is logged, and the globals are cleared. -/
def teardown (p : Process) (w : World) : Process :=
  match p.server with
  | none => p
  | some i =>
    if w.shutdownRaises then p.publish none
    else if w.closeRaises then (p.shutdown i).publish none
    else ((p.shutdown i).close i).publish none

/-- A new server on the port, served by a thread of its own. -/
def running (p : Process) (port : Nat) : Process := (p.bind port).serve p.servers.length

/-- From the bind on; `old` is the server that is still to be taken down. -/
def replace (p : Process) (old : Option Nat) (w : World) (actual : Nat) :
    Except Failure Unit × Process :=
  let new := p.servers.length
  if w.threadStarts then
    match old with
    | none => (.ok (), (p.running actual).publish (some new))
    | some i =>
      if w.shutdownRaises then (.error .teardown, p.running actual)
      else if w.closeRaises then (.error .teardown, (p.running actual).shutdown i)
      else (.ok (), (((p.running actual).shutdown i).close i).publish (some new))
  else (.error .thread, p.bind actual)

/-- `start_metrics_server`; `none` where no port could have been bound so. -/
def startMetricsServer (p : Process) (port : Nat) (w : World) :
    Option (Except Failure Unit × Process) :=
  let old := if p.samePort port then none else p.server
  let p := if p.samePort port then p.teardown w else p
  match w.bound with
  | none => some (.error .bind, p)
  | some actual => if p.canBind port actual then some (p.replace old w actual) else none

/-- `stop_metrics_server`: both exceptions are logged, and the globals are cleared. -/
def stopMetricsServer (p : Process) (w : World) : Process :=
  match p.server with
  | none => p
  | some i =>
    let p := if w.shutdownRaises then p else p.shutdown i
    let p := if w.closeRaises then p else p.close i
    p.publish none

end Process

/-- A call, or the collection of a server that nothing refers to, which closes its socket. -/
inductive Act where
  | start (port : Nat) (w : World)
  | stop (w : World)
  | collect (i : Nat)

def step (p : Process) : Act → Option Process
  | .start port w => (p.startMetricsServer port w).map (·.2)
  | .stop w => some (p.stopMetricsServer w)
  | .collect i => if p.server = some i ∨ p.isServing i = true then none else some (p.close i)

section Operations

variable (p : Process) (i j port : Nat) (s : Option Nat)

theorem getElem?_modify_any (f : HttpServer → HttpServer) (q : HttpServer → Bool) :
    ((p.servers.modify i f)[j]?).any q =
      if i = j then (p.servers[j]?).any (fun srv => q (f srv)) else (p.servers[j]?).any q := by
  rw [List.getElem?_modify]
  by_cases h : i = j
  · cases p.servers[j]? <;> simp [h]
  · simp [h]

@[simp] theorem isServing_publish : (p.publish s).isServing j = p.isServing j := rfl
@[simp] theorem isOpen_publish : (p.publish s).isOpen j = p.isOpen j := rfl
@[simp] theorem portOf_publish : (p.publish s).portOf j = p.portOf j := rfl
@[simp] theorem server_publish : (p.publish s).server = s := rfl
@[simp] theorem thread_publish : (p.publish s).thread = s := rfl

@[simp] theorem isServing_shutdown :
    (p.shutdown i).isServing j = (decide (i ≠ j) && p.isServing j) := by
  have h := getElem?_modify_any p i j (fun srv => { srv with serving := false }) (·.serving)
  by_cases hij : i = j
  · cases hj : p.servers[j]? <;> simp_all [Process.isServing, Process.shutdown]
  · simp [Process.isServing, Process.shutdown, hij]

@[simp] theorem isServing_close : (p.close i).isServing j = p.isServing j := by
  have h := getElem?_modify_any p i j (fun srv => { srv with isOpen := false }) (·.serving)
  exact h.trans (ite_self _)

@[simp] theorem isOpen_shutdown : (p.shutdown i).isOpen j = p.isOpen j := by
  have h := getElem?_modify_any p i j (fun srv => { srv with serving := false }) (·.isOpen)
  exact h.trans (ite_self _)

@[simp] theorem isOpen_close : (p.close i).isOpen j = (decide (i ≠ j) && p.isOpen j) := by
  have h := getElem?_modify_any p i j (fun srv => { srv with isOpen := false }) (·.isOpen)
  by_cases hij : i = j
  · cases hj : p.servers[j]? <;> simp_all [Process.isOpen, Process.close]
  · simp [Process.isOpen, Process.close, hij]

theorem portOf_modify {f : HttpServer → HttpServer} (hf : ∀ srv, (f srv).port = srv.port) :
    ((p.servers.modify i f)[j]?).map (·.port) = p.portOf j := by
  rw [List.getElem?_modify, Process.portOf]
  by_cases h : i = j
  · cases p.servers[j]? <;> simp [h, hf]
  · simp [h]

@[simp] theorem portOf_shutdown : (p.shutdown i).portOf j = p.portOf j :=
  portOf_modify p i j fun _ => rfl

@[simp] theorem portOf_close : (p.close i).portOf j = p.portOf j :=
  portOf_modify p i j fun _ => rfl

@[simp] theorem server_shutdown : (p.shutdown i).server = p.server := rfl
@[simp] theorem server_close : (p.close i).server = p.server := rfl
@[simp] theorem thread_shutdown : (p.shutdown i).thread = p.thread := rfl
@[simp] theorem thread_close : (p.close i).thread = p.thread := rfl

/-- A new server whose socket is bound, and what the others are. -/
theorem getElem?_bind :
    (p.bind port).servers[j]? =
      if j = p.servers.length then some ⟨port, true, false⟩ else p.servers[j]? := by
  rw [Process.bind, List.getElem?_append]
  by_cases hlt : j < p.servers.length
  · simp [hlt, Nat.ne_of_lt hlt]
  · by_cases heq : j = p.servers.length
    · simp [heq]
    · have hpos : j - p.servers.length ≠ 0 := by omega
      simp [hlt, heq, hpos]

@[simp] theorem isServing_bind : (p.bind port).isServing j = p.isServing j := by
  rw [Process.isServing, getElem?_bind, Process.isServing]
  by_cases h : j = p.servers.length
  · simp [h]
  · simp [h]

@[simp] theorem isOpen_bind :
    (p.bind port).isOpen j = (decide (j = p.servers.length) || p.isOpen j) := by
  rw [Process.isOpen, getElem?_bind, Process.isOpen]
  by_cases h : j = p.servers.length
  · simp [h]
  · simp [h]

@[simp] theorem isServing_running :
    (p.running port).isServing j = (decide (j = p.servers.length) || p.isServing j) := by
  have h := getElem?_modify_any (p.bind port) p.servers.length j
    (fun srv => { srv with serving := true }) (·.serving)
  refine h.trans ?_
  by_cases hj : j = p.servers.length
  · simp [hj, getElem?_bind]
  · have hne : p.servers.length ≠ j := fun heq => hj heq.symm
    simp [hj, hne, getElem?_bind, Process.isServing]

@[simp] theorem isOpen_running :
    (p.running port).isOpen j = (decide (j = p.servers.length) || p.isOpen j) := by
  have h := getElem?_modify_any (p.bind port) p.servers.length j
    (fun srv => { srv with serving := true }) (·.isOpen)
  exact (h.trans (ite_self _)).trans (isOpen_bind p j port)

@[simp] theorem portOf_running :
    (p.running port).portOf j = if j = p.servers.length then some port else p.portOf j := by
  have h := portOf_modify (p.bind port) p.servers.length j
    (f := fun srv => { srv with serving := true }) fun _ => rfl
  refine h.trans ?_
  rw [Process.portOf, getElem?_bind]
  by_cases hj : j = p.servers.length
  · simp [hj]
  · simp [hj, Process.portOf]

@[simp] theorem portOf_bind :
    (p.bind port).portOf j = if j = p.servers.length then some port else p.portOf j := by
  rw [Process.portOf, getElem?_bind]
  by_cases hj : j = p.servers.length
  · simp [hj]
  · simp [hj, Process.portOf]

@[simp] theorem server_running : (p.running port).server = p.server := rfl
@[simp] theorem thread_running : (p.running port).thread = p.thread := rfl
@[simp] theorem server_bind : (p.bind port).server = p.server := rfl
@[simp] theorem thread_bind : (p.bind port).thread = p.thread := rfl

end Operations

/-- What one would want of the process: the server that is served is the one the globals
name, and its socket is open. -/
structure Sound (p : Process) : Prop where
  thread : p.thread = p.server
  serving : ∀ i, p.isServing i = true ↔ p.server = some i
  isOpen : ∀ i, p.isServing i = true → p.isOpen i = true

/-- No exception comes between the steps that take a server down, as far as the call is not
prepared for it. -/
def Clean (p : Process) : Act → Prop
  | .start port w =>
    if p.samePort port then w.shutdownRaises = false
    else w.bound.isSome = true → w.threadStarts = true → p.server.isSome = true →
      w.shutdownRaises = false ∧ w.closeRaises = false
  | .stop w => p.server.isSome = true → w.shutdownRaises = false
  | .collect _ => True

theorem lt_length_of_isServing {p : Process} {i : Nat} (h : p.isServing i = true) :
    i < p.servers.length := by
  by_contra hlt
  have hnone : p.servers[i]? = none := List.getElem?_eq_none (Nat.le_of_not_lt hlt)
  simp [Process.isServing, hnone] at h

theorem not_sound_of_isServing {p : Process} {i : Nat} (h : p.isServing i = true)
    (hne : p.server ≠ some i) : ¬ Sound p :=
  fun hp => hne ((hp.serving i).mp h)

theorem initial_sound : Sound .initial where
  thread := rfl
  serving := fun i => by simp [Process.isServing, Process.initial]
  isOpen := fun i h => by simp [Process.isServing, Process.initial] at h

namespace Sound

variable {p : Process} (hp : Sound p)
include hp

theorem server_ne_length : p.server ≠ some p.servers.length := by
  intro h
  have hserving : p.isServing p.servers.length = true := (hp.serving _).mpr h
  exact Nat.lt_irrefl _ (lt_length_of_isServing hserving)

theorem bind (port : Nat) : Sound (p.bind port) where
  thread := hp.thread
  serving := fun j => by simpa using hp.serving j
  isOpen := fun j h => by simp [hp.isOpen j (by simpa using h)]

theorem close {i : Nat} (hi : p.server ≠ some i) : Sound (p.close i) where
  thread := hp.thread
  serving := fun j => by simpa using hp.serving j
  isOpen := fun j h => by
    have hserving : p.isServing j = true := by simpa using h
    have hne : i ≠ j := fun heq => hi (heq ▸ (hp.serving j).mp hserving)
    simp [hne, hp.isOpen j hserving]

/-- The server was shut down, and the globals were cleared. -/
theorem shutdown {i : Nat} (hi : p.server = some i) : Sound ((p.shutdown i).publish none) where
  thread := rfl
  serving := fun j => by
    have hserving := hp.serving j
    rw [hi] at hserving
    by_cases hij : i = j
    · simp [hij]
    · simp [hij, hserving]
  isOpen := fun j h => by
    have hserving : p.isServing j = true := by
      simp only [isServing_publish, isServing_shutdown, Bool.and_eq_true] at h
      exact h.2
    simpa using hp.isOpen j hserving

theorem running (hnone : p.server = none) (port : Nat) :
    Sound ((p.running port).publish (some p.servers.length)) where
  thread := rfl
  serving := fun j => by
    have hserving := hp.serving j
    rw [hnone] at hserving
    by_cases hj : j = p.servers.length
    · simp [hj]
    · have hne : p.servers.length ≠ j := fun heq => hj heq.symm
      simpa [hj, hne] using hserving
  isOpen := fun j h => by
    by_cases hj : j = p.servers.length
    · simp [hj]
    · have hserving : p.isServing j = true := by simpa [hj] using h
      simpa [hj] using hp.isOpen j hserving

/-- The new server was started first, and the old one was then taken down. -/
theorem replaced {i : Nat} (hi : p.server = some i) (port : Nat) :
    Sound ((((p.running port).shutdown i).close i).publish (some p.servers.length)) where
  thread := rfl
  serving := fun j => by
    have hserving := hp.serving j
    rw [hi] at hserving
    by_cases hij : i = j
    · have hne : p.servers.length ≠ j := fun heq => hp.server_ne_length (by rw [hi, hij, heq])
      simp [hij, hne]
    · by_cases hj : j = p.servers.length
      · simp [hj, hj ▸ hij]
      · have hne : p.servers.length ≠ j := fun heq => hj heq.symm
        simpa [hij, hj, hne] using hserving
  isOpen := fun j h => by
    by_cases hij : i = j
    · simp [hij] at h
    · by_cases hj : j = p.servers.length
      · simp [hj, hj ▸ hij]
      · have hserving : p.isServing j = true := by simpa [hij, hj] using h
        simpa [hij, hj] using hp.isOpen j hserving

end Sound

/-- Without a server to take down, what is bound takes its place. -/
theorem sound_replace_none {p : Process} (hp : Sound p) (hnone : p.server = none) (w : World)
    (actual : Nat) : Sound (p.replace none w actual).2 := by
  unfold Process.replace
  cases w.threadStarts with
  | false => exact hp.bind actual
  | true => exact hp.running hnone actual

theorem sound_replace_some {p : Process} {i : Nat} (hp : Sound p) (hi : p.server = some i)
    (w : World) (actual : Nat) :
    Sound (p.replace (some i) w actual).2 ↔
      (w.threadStarts = true → w.shutdownRaises = false ∧ w.closeRaises = false) := by
  have hlost : ∀ q : Process, q.isServing p.servers.length = true → q.server = some i →
      ¬ Sound q := by
    intro q hserving hq
    have hne : p.servers.length ≠ i := fun heq => hp.server_ne_length (by rw [hi, heq])
    refine not_sound_of_isServing hserving fun h => ?_
    rw [hq] at h
    exact hne (Option.some.inj h).symm
  have hne : i ≠ p.servers.length := fun heq => hp.server_ne_length (by rw [hi, heq])
  unfold Process.replace
  cases w.threadStarts with
  | false => simpa using hp.bind actual
  | true =>
    cases w.shutdownRaises with
    | true => simpa using hlost (p.running actual) (by simp) hi
    | false =>
      cases w.closeRaises with
      | true => simpa using hlost ((p.running actual).shutdown i) (by simp [hne]) hi
      | false => simpa using hp.replaced hi actual

/-- A server that is served after its shutdown failed is never named again. -/
theorem not_sound_replace_none {p : Process} {i : Nat} (hserving : p.isServing i = true)
    (hnone : p.server = none) (w : World) (actual : Nat) :
    ¬ Sound (p.replace none w actual).2 := by
  have hlt : i < p.servers.length := lt_length_of_isServing hserving
  unfold Process.replace
  cases w.threadStarts with
  | false =>
    exact not_sound_of_isServing (i := i) (by simpa using hserving) (by simp [hnone])
  | true =>
    have hne : p.servers.length ≠ i := Nat.ne_of_gt hlt
    exact not_sound_of_isServing (i := i) (by simp [hserving]) (by simp [hne])

/-- What a restart on the same port comes to before the bind. -/
theorem teardown_spec {p : Process} {i : Nat} (hp : Sound p) (hi : p.server = some i)
    (w : World) :
    (p.teardown w).server = none ∧
      (w.shutdownRaises = false → Sound (p.teardown w)) ∧
      (w.shutdownRaises = true → (p.teardown w).isServing i = true) := by
  have hserving : p.isServing i = true := (hp.serving i).mpr hi
  have hdown : Sound ((p.shutdown i).publish none) := hp.shutdown hi
  have hclosed : Sound (((p.shutdown i).close i).publish none) := hdown.close (by simp)
  unfold Process.teardown
  rw [hi]
  cases w.shutdownRaises with
  | true => simpa using hserving
  | false =>
    cases w.closeRaises with
    | true => simpa using hdown
    | false => simpa using hclosed

theorem server_of_samePort {p : Process} {port : Nat} (h : p.samePort port = true) :
    ∃ i, p.server = some i := by
  cases hserver : p.server with
  | none => simp [Process.samePort, hserver] at h
  | some i => exact ⟨i, rfl⟩

theorem sound_start_iff {p q : Process} {port : Nat} {w : World} {r : Except Failure Unit}
    (hp : Sound p) (h : p.startMetricsServer port w = some (r, q)) :
    Sound q ↔ Clean p (.start port w) := by
  unfold Process.startMetricsServer at h
  cases hsame : p.samePort port with
  | true =>
    obtain ⟨i, hi⟩ := server_of_samePort hsame
    obtain ⟨hnone, hsound, hserving⟩ := teardown_spec hp hi w
    simp only [hsame, if_true, Clean] at h ⊢
    cases hbound : w.bound with
    | none =>
      simp only [hbound, Option.some.injEq, Prod.mk.injEq] at h
      rw [← h.2]
      cases hraises : w.shutdownRaises with
      | true => simpa using not_sound_of_isServing (hserving hraises) (by simp [hnone])
      | false => simpa using hsound hraises
    | some actual =>
      simp only [hbound, Option.ite_none_right_eq_some, Option.some.injEq] at h
      rw [show q = ((p.teardown w).replace none w actual).2 by rw [h.2]]
      cases hraises : w.shutdownRaises with
      | true => simpa using not_sound_replace_none (hserving hraises) hnone w actual
      | false => simpa using sound_replace_none (hsound hraises) hnone w actual
  | false =>
    simp only [hsame, Bool.false_eq_true, if_false, Clean] at h ⊢
    cases hbound : w.bound with
    | none =>
      simp only [hbound, Option.some.injEq, Prod.mk.injEq] at h
      rw [← h.2]
      simpa using hp
    | some actual =>
      simp only [hbound, Option.ite_none_right_eq_some, Option.some.injEq] at h
      rw [show q = (p.replace p.server w actual).2 by rw [h.2]]
      cases hserver : p.server with
      | none => simpa using sound_replace_none hp hserver w actual
      | some i => simpa using sound_replace_some hp hserver w actual

theorem sound_stop_iff {p : Process} (hp : Sound p) (w : World) :
    Sound (p.stopMetricsServer w) ↔ Clean p (.stop w) := by
  unfold Process.stopMetricsServer
  simp only [Clean]
  cases hi : p.server with
  | none => simpa using hp
  | some i =>
    have hserving : p.isServing i = true := (hp.serving i).mpr hi
    have hdown : Sound ((p.shutdown i).publish none) := hp.shutdown hi
    have hclosed : Sound (((p.shutdown i).close i).publish none) := hdown.close (by simp)
    cases w.shutdownRaises with
    | true =>
      have hlost : ∀ q : Process, q.isServing i = true → ¬ Sound (q.publish none) :=
        fun q hq => not_sound_of_isServing (i := i) hq (by simp)
      cases w.closeRaises with
      | true => simpa using hlost p hserving
      | false => simpa using hlost (p.close i) (by simpa using hserving)
    | false =>
      cases w.closeRaises with
      | true => simpa using hdown
      | false => simpa using hclosed

theorem sound_step_iff {p q : Process} {act : Act} (hp : Sound p) (h : step p act = some q) :
    Sound q ↔ Clean p act := by
  cases act with
  | start port w =>
    obtain ⟨⟨r, q'⟩, hstart, rfl⟩ := Option.map_eq_some_iff.mp h
    exact sound_start_iff hp hstart
  | stop w =>
    obtain rfl := Option.some.inj h
    exact sound_stop_iff hp w
  | collect i =>
    simp only [step, Option.ite_none_left_eq_some, not_or, Option.some.injEq] at h
    obtain ⟨⟨hne, -⟩, rfl⟩ := h
    simpa [Clean] using hp.close hne

/-- The port of the server that the globals name, whether or not it is served. -/
def Process.namedPort (p : Process) : Option Nat := p.server.bind p.portOf

/-- Some server is served on the port. -/
def Process.Serves (p : Process) (port : Nat) : Prop :=
  ∃ i, p.isServing i = true ∧ p.portOf i = some port

/-- In a sound state the port that is served is the one of the globals. -/
theorem serves_iff {p : Process} (hp : Sound p) (port : Nat) :
    p.Serves port ↔ p.namedPort = some port := by
  rw [Process.namedPort, Option.bind_eq_some_iff]
  constructor
  · intro h
    obtain ⟨i, hserving, hport⟩ := h
    exact ⟨i, (hp.serving i).mp hserving, hport⟩
  · intro h
    obtain ⟨i, hserver, hport⟩ := h
    exact ⟨i, (hp.serving i).mpr hserver, hport⟩

/-- The globals name a server that was bound. -/
def Linked (p : Process) : Prop := ∀ i, p.server = some i → i < p.servers.length

theorem length_running (p : Process) (port : Nat) :
    (p.running port).servers.length = p.servers.length + 1 := by
  simp [Process.running, Process.serve, Process.bind]

theorem length_shutdown (p : Process) (i : Nat) :
    (p.shutdown i).servers.length = p.servers.length :=
  List.length_modify ..

theorem length_close (p : Process) (i : Nat) : (p.close i).servers.length = p.servers.length :=
  List.length_modify ..

theorem linked_of_none {p : Process} (h : p.server = none) : Linked p := by
  intro i hi
  rw [h] at hi
  exact absurd hi (by simp)

theorem linked_bind {p : Process} (hp : Linked p) (port : Nat) : Linked (p.bind port) := by
  intro i hi
  have hlt := hp i hi
  simp [Process.bind]
  omega

theorem linked_running {p : Process} (hp : Linked p) (port : Nat) : Linked (p.running port) := by
  intro i hi
  have hlt := hp i hi
  rw [length_running]
  omega

theorem linked_replace {p : Process} (hp : Linked p) (old : Option Nat) (w : World)
    (actual : Nat) : Linked (p.replace old w actual).2 := by
  have hrunning : Linked (p.running actual) := linked_running hp actual
  unfold Process.replace
  cases w.threadStarts with
  | false => exact linked_bind hp actual
  | true =>
    cases old with
    | none =>
      intro i hi
      obtain rfl := Option.some.inj hi
      exact lt_of_lt_of_eq (Nat.lt_succ_self _) (length_running p actual).symm
    | some j =>
      cases w.shutdownRaises with
      | true => exact hrunning
      | false =>
        cases w.closeRaises with
        | true =>
          intro i hi
          exact lt_of_lt_of_eq (hrunning i hi) (length_shutdown _ j).symm
        | false =>
          intro i hi
          obtain rfl := Option.some.inj hi
          simp [Process.publish, length_close, length_shutdown, length_running]

theorem server_teardown {p : Process} {i : Nat} (hi : p.server = some i) (w : World) :
    (p.teardown w).server = none := by
  unfold Process.teardown
  rw [hi]
  cases w.shutdownRaises <;> cases w.closeRaises <;> rfl

theorem server_stopMetricsServer (p : Process) (w : World) :
    (p.stopMetricsServer w).server = none := by
  unfold Process.stopMetricsServer
  cases hi : p.server with
  | none => exact hi
  | some i => rfl

/-- All that a call of `start_metrics_server` does, by the state in which it binds. -/
theorem startMetricsServer_cases {p q : Process} {port : Nat} {w : World}
    {r : Except Failure Unit} (h : p.startMetricsServer port w = some (r, q)) :
    ∃ base old, (p.samePort port = true ∧ base.server = none ∧ old = none ∨
        p.samePort port = false ∧ base = p ∧ old = p.server) ∧
      (w.bound = none ∧ r = .error .bind ∧ q = base ∨
        ∃ actual, w.bound = some actual ∧ (r, q) = base.replace old w actual) := by
  unfold Process.startMetricsServer at h
  cases hsame : p.samePort port with
  | true =>
    obtain ⟨i, hi⟩ := server_of_samePort hsame
    refine ⟨p.teardown w, none, .inl ⟨rfl, server_teardown hi w, rfl⟩, ?_⟩
    simp only [hsame, if_true] at h
    cases hbound : w.bound with
    | none =>
      simp only [hbound, Option.some.injEq, Prod.mk.injEq] at h
      exact .inl ⟨rfl, h.1.symm, h.2.symm⟩
    | some actual =>
      simp only [hbound, Option.ite_none_right_eq_some, Option.some.injEq] at h
      exact .inr ⟨actual, rfl, h.2.symm⟩
  | false =>
    refine ⟨p, p.server, .inr ⟨rfl, rfl, rfl⟩, ?_⟩
    simp only [hsame, Bool.false_eq_true, if_false] at h
    cases hbound : w.bound with
    | none =>
      simp only [hbound, Option.some.injEq, Prod.mk.injEq] at h
      exact .inl ⟨rfl, h.1.symm, h.2.symm⟩
    | some actual =>
      simp only [hbound, Option.ite_none_right_eq_some, Option.some.injEq] at h
      exact .inr ⟨actual, rfl, h.2.symm⟩

theorem linked_step {p q : Process} {act : Act} (hp : Linked p) (h : step p act = some q) :
    Linked q := by
  cases act with
  | start port w =>
    obtain ⟨⟨r, q'⟩, hstart, rfl⟩ := Option.map_eq_some_iff.mp h
    obtain ⟨base, old, hbase, hcase⟩ := startMetricsServer_cases hstart
    have hlinked : Linked base := by
      obtain ⟨-, hnone, -⟩ | ⟨-, rfl, -⟩ := hbase
      · exact linked_of_none hnone
      · exact hp
    obtain ⟨-, -, rfl⟩ | ⟨actual, -, heq⟩ := hcase
    · exact hlinked
    · have hreplace := linked_replace hlinked old w actual
      rwa [← heq] at hreplace
  | stop w =>
    obtain rfl := Option.some.inj h
    exact linked_of_none (server_stopMetricsServer p w)
  | collect i =>
    simp only [step, Option.ite_none_left_eq_some, Option.some.injEq] at h
    obtain ⟨-, rfl⟩ := h
    intro j hj
    exact lt_of_lt_of_eq (hp j hj) (length_close p i).symm

/-- The port of the globals after a call of `start_metrics_server`. -/
def portAfter (kept bound : Option Nat) : Except Failure Unit → Option Nat
  | .ok () => bound
  | .error _ => kept

/-- A start that fails after the bind leaves the globals as they are. -/
theorem namedPort_replace {p q : Process} {w : World} {actual : Nat} {r : Except Failure Unit}
    (hp : Linked p) {old : Option Nat} (h : (r, q) = p.replace old w actual) :
    q.namedPort = portAfter p.namedPort (some actual) r := by
  have hkept : ∀ q : Process, q.server = p.server →
      (∀ i, i < p.servers.length → q.portOf i = p.portOf i) → q.namedPort = p.namedPort := by
    intro q hserver hport
    unfold Process.namedPort
    rw [hserver]
    cases hi : p.server with
    | none => rfl
    | some i => exact hport i (hp i hi)
  have hnew : ∀ i, i < p.servers.length → i ≠ p.servers.length := fun i => Nat.ne_of_lt
  unfold Process.replace at h
  cases hthread : w.threadStarts with
  | false =>
    simp only [hthread, Bool.false_eq_true, if_false, Prod.mk.injEq] at h
    obtain ⟨rfl, rfl⟩ := h
    exact hkept _ rfl fun i hi => by simp [hnew i hi]
  | true =>
    cases old with
    | none =>
      simp only [hthread, if_true, Prod.mk.injEq] at h
      obtain ⟨rfl, rfl⟩ := h
      simp [Process.namedPort, portAfter]
    | some j =>
      cases hshutdown : w.shutdownRaises with
      | true =>
        simp only [hthread, hshutdown, if_true, Prod.mk.injEq] at h
        obtain ⟨rfl, rfl⟩ := h
        exact hkept _ rfl fun i hi => by simp [hnew i hi]
      | false =>
        cases hclose : w.closeRaises with
        | true =>
          simp only [hthread, hshutdown, hclose, Bool.false_eq_true, if_true, if_false,
            Prod.mk.injEq] at h
          obtain ⟨rfl, rfl⟩ := h
          exact hkept _ rfl fun i hi => by simp [hnew i hi]
        | false =>
          simp only [hthread, hshutdown, hclose, Bool.false_eq_true, if_true, if_false,
            Prod.mk.injEq] at h
          obtain ⟨rfl, rfl⟩ := h
          simp [Process.namedPort, portAfter]

theorem namedPort_start {p q : Process} {port : Nat} {w : World} {r : Except Failure Unit}
    (hp : Linked p) (h : p.startMetricsServer port w = some (r, q)) :
    q.namedPort = portAfter (if p.samePort port then none else p.namedPort) w.bound r := by
  obtain ⟨base, old, hbase, hcase⟩ := startMetricsServer_cases h
  have hlinked : Linked base := by
    obtain ⟨-, hnone, -⟩ | ⟨-, rfl, -⟩ := hbase
    · exact linked_of_none hnone
    · exact hp
  have hport : base.namedPort = (if p.samePort port then none else p.namedPort) := by
    obtain ⟨hsame, hnone, -⟩ | ⟨hsame, rfl, -⟩ := hbase
    · simp [Process.namedPort, hnone, hsame]
    · simp [hsame]
  obtain ⟨-, rfl, rfl⟩ | ⟨actual, hbound, heq⟩ := hcase
  · exact hport
  · have hreplace := namedPort_replace hlinked heq
    rw [hreplace, hbound, hport]

/-- Calls of `start_metrics_server` and `stop_metrics_server`, in any order and number, keep
one server at most, the one that the globals name, exactly as long as no exception comes
between the steps that take a server down. A start that returns names the port it bound; one
that fails leaves the port that was named, unless the restart was on that port, and then
names none. In the runs above that is the port that is served. -/
theorem one_metrics_server (acts : List Act) :
    (Throughout step Sound .initial acts ↔ StepsMeet step Clean .initial acts) ∧
      ∀ p port w r q, run step .initial acts = some p →
        p.startMetricsServer port w = some (r, q) →
        q.namedPort = portAfter (if p.samePort port then none else p.namedPort) w.bound r ∧
          (StepsMeet step Clean .initial (acts ++ [.start port w]) →
            ∀ n, q.Serves n ↔ q.namedPort = some n) := by
  have hiff : ∀ acts, Throughout step Sound .initial acts ↔ StepsMeet step Clean .initial acts :=
    fun _ => throughout_iff_stepsMeet (K := fun _ => True) (fun _ _ _ _ _ => trivial)
      (fun _ _ _ _ hp h => sound_step_iff hp h) trivial initial_sound
  refine ⟨hiff acts, fun p port w r q hrun hstart => ⟨?_, fun hclean n => ?_⟩⟩
  · have hinitial : Linked .initial := linked_of_none rfl
    have hp : Linked p := run_invariant (fun _ _ _ => linked_step) hinitial hrun
    exact namedPort_start hp hstart
  · have hlast : run step .initial (acts ++ [.start port w]) = some q := by
      rw [run_append, hrun]
      simp [run, step, hstart]
    exact serves_iff (((hiff _).mpr hclean).last hlast) n

/-- A shutdown that fails leaves a server that nothing names, beside the next one. -/
example :
    let raises : World := ⟨none, true, true, false⟩
    let fine (port : Nat) : World := ⟨some port, true, false, false⟩
    (run step .initial [.start 1 (fine 1), .stop raises, .start 2 (fine 2)]).map
      (fun p => (p.isServing 0, p.isServing 1, p.namedPort)) = some (true, true, some 2) := by
  decide

end AerospikePy.Observability.MetricsServer
