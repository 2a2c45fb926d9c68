import AerospikePy.Lifecycle.AsyncClient
import AerospikePy.Lifecycle.Client

/-!
# What a failed connect leaves behind

A call of `connect` that gets past its config overwrites the connection info, and in the
async client the limiter, before it asks the cluster. When the attempt then fails only
the state goes back, and not always. An attempt of the async client has failed when the
call raises, or when its future ends without a connection, whatever ran in between.
-/

namespace AerospikePy.Lifecycle.FailedConnect

open AerospikePy.Core
open AerospikePy.Lib.Runs
open AerospikePy.Lifecycle
open AerospikePy.Lifecycle.Client (PyClient)
open AerospikePy.Lifecycle.AsyncClient (PyAsyncClient Act Inv Move Progress ConnectFuture step)

/-- The four cells of a client; a limiter is what it permits. -/
structure Cells where
  state : ClientState
  inner : Option Nat
  connectionInfo : ConnectionInfo
  maxConcurrent : Nat
  timeoutMs : UInt64
  deriving DecidableEq, Repr

def syncCells (c : PyClient) : Cells where
  state := c.state
  inner := c.inner
  connectionInfo := c.connectionInfo
  maxConcurrent := c.limiter.maxConcurrent
  timeoutMs := c.limiter.timeoutMs

/-- Refused, stopped by its config, or failed with an error of the cluster at the very
endpoint and cluster name that the info holds already. -/
def SyncHarmless (c : PyClient) (config : Except PyErr ConnectConfig) (created : Driven) : Prop :=
  c.state = .disconnected → ∀ cfg, config = .ok cfg →
    cfg.info = c.connectionInfo ∧ ∃ e, created = .returned (.error e)

theorem sync_unchanged_iff (c : PyClient) (config : Except PyErr ConnectConfig) (created : Driven)
    (hfailed : (Client.connect c config created).1 ≠ .returned (.ok ())) :
    syncCells (Client.connect c config created).2 = syncCells c ↔
      SyncHarmless c config created := by
  unfold Client.connect at hfailed ⊢
  by_cases hstate : c.state = .disconnected
  · rw [if_neg (by simp [hstate])] at hfailed ⊢
    cases config with
    | error e => exact iff_of_true rfl nofun
    | ok cfg =>
      match created with
      | .returned (.ok ()) =>
        dsimp only at hfailed ⊢
        by_cases hfits : cfg.Fits
        · rw [OperationLimiter.new_of_fits hfits] at hfailed
          exact absurd rfl hfailed
        · rw [OperationLimiter.new_of_not_fits hfits]
          refine iff_of_false ?_ ?_
          · simp [syncCells, hstate]
          · simp [SyncHarmless, hstate]
      | .returned (.error e) => simp [syncCells, SyncHarmless, hstate]
      | .panicked => simp [syncCells, SyncHarmless, hstate]
  · rw [if_pos hstate]
    exact iff_of_true rfl fun h => absurd h hstate

def asyncCells (c : PyAsyncClient) : Cells where
  state := c.state
  inner := c.inner
  connectionInfo := c.connectionInfo
  maxConcurrent := c.limiter.maxConcurrent
  timeoutMs := c.limiter.timeoutMs

/-- The steps that end the attempt of this call without a connection. -/
def EndsAttempt (call : Nat) (a : Act) : Prop :=
  a = .connectErr call ∨ a = .connectPanic call ∨ a = .dropConnect call

/-- A call of `connect` that fails in the end, with the state before its future ended,
if there was one, and the state that it leaves. -/
inductive FailedAttempt (c : PyAsyncClient) (config : Except PyErr ConnectConfig)
    (awaitable : Except PyErr Unit) : Option PyAsyncClient → PyAsyncClient → Prop where
  | raised (h : (AsyncClient.connect c config awaitable).1 ≠ .returned (.ok ())) :
      FailedAttempt c config awaitable none (AsyncClient.connect c config awaitable).2
  | ended {acts : List Act} {a : Act} {last c' : PyAsyncClient}
      (h : (AsyncClient.connect c config awaitable).1 = .returned (.ok ()))
      (hrun : run step (AsyncClient.connect c config awaitable).2 acts = some last)
      (ha : EndsAttempt (c.calls + 1) a) (hstep : step last a = some c') :
      FailedAttempt c config awaitable (some last) c'

/-- Refused, stopped by its config, or failed once its future had been polled, with the
info and the limits that the client holds already. -/
def AsyncHarmless (c : PyAsyncClient) (config : Except PyErr ConnectConfig)
    (last : Option PyAsyncClient) : Prop :=
  c.state = .disconnected → ∀ cfg, config = .ok cfg →
    (cfg.info = c.connectionInfo ∧ cfg.maxOps = c.limiter.maxConcurrent ∧
      cfg.timeoutMs = c.limiter.timeoutMs) ∧
    ∃ s, last = some s ∧ (⟨c.calls + 1, .awaiting⟩ : ConnectFuture) ∈ s.connects

/-- The future of the call is live and nothing has touched the cells since, or it is gone. -/
inductive Pending (cells : Cells) (call : Nat) (c : PyAsyncClient) : Prop where
  | live {p : Progress} (hconnects : c.connects = [⟨call, p⟩]) (hcalls : c.calls = call)
      (hcells : asyncCells c = cells)
  | gone (hle : call ≤ c.calls) (h : ∀ f ∈ c.connects, f.call ≠ call)

/-- Only the ends of its future touch the cells of a connecting client. -/
theorem move_pending {cells : Cells} {call : Nat} (hcells : cells.state = .connecting)
    {c c' : PyAsyncClient} {a : Act} (h : Pending cells call c) (hmove : Move c a c') :
    Pending cells call c' := by
  cases h with
  | @live p hconnects hcalls hkept =>
    have hstate : c.state = .connecting := by rw [← hcells, ← hkept]; rfl
    cases hmove with
    | connectRefused | closeRefused => exact .live hconnects hcalls hkept
    | pollConnect hone => exact .live (by rw [hcalls]) hcalls hkept
    | connectOk | connectEnd | dropUnstarted => exact .gone (Nat.le_of_eq hcalls.symm) nofun
    | connect _ h | connectPanicked _ h | close h | pollClose _ h | closeDone _ h
    | closeLost _ _ h => rw [hstate] at h; cases h
  | gone hle hgone =>
    cases hmove with
    | connectRefused | closeRefused | pollClose | closeDone | closeLost => exact .gone hle hgone
    | connect cfg hstate hfits hfut =>
      refine .gone (Nat.le_succ_of_le hle) fun f hf => ?_
      rcases hfut with ⟨-, rfl⟩ | ⟨-, rfl⟩
      · -- a new call has a larger number
        rw [List.mem_singleton.mp hf]
        dsimp only
        omega
      · cases hf
    | connectPanicked | close => exact .gone (Nat.le_succ_of_le hle) hgone
    | pollConnect hone =>
      refine .gone hle fun f hf => ?_
      rw [List.mem_singleton.mp hf]
      exact hgone ⟨c.calls, .unstarted⟩ (by rw [hone]; exact List.mem_cons_self)
    | connectOk | connectEnd | dropUnstarted => exact .gone hle nofun

theorem run_pending {cells : Cells} {call : Nat} (hcells : cells.state = .connecting)
    {c c' : PyAsyncClient} {acts : List Act} (hinv : Inv c) (h : Pending cells call c)
    (hrun : run step c acts = some c') : Inv c' ∧ Pending cells call c' := by
  refine run_invariant (I := fun s => Inv s ∧ Pending cells call s) ?_ ⟨hinv, h⟩ hrun
  intro s a t hs hstep
  have hmove := AsyncClient.step_move hs.1 hstep
  exact ⟨AsyncClient.move_inv hs.1 hmove, move_pending hcells hs.2 hmove⟩

/-- The end of an attempt takes the state back if its future had been polled, and leaves
the other cells as they are. -/
theorem cells_of_end {cells : Cells} {call : Nat} {last c' : PyAsyncClient} {a : Act}
    (hinv : Inv last) (h : Pending cells call last) (ha : EndsAttempt call a)
    (hstep : step last a = some c') :
    ((⟨call, .awaiting⟩ : ConnectFuture) ∈ last.connects ∧
        asyncCells c' = { cells with state := .disconnected }) ∨
      ((⟨call, .awaiting⟩ : ConnectFuture) ∉ last.connects ∧ asyncCells c' = cells) := by
  have hlive : ∀ p, last.connects = [⟨call, p⟩] → asyncCells last = cells := by
    intro p hone
    cases h with
    | live _ _ hcells => exact hcells
    | gone _ hgone => exact absurd rfl (hgone ⟨call, p⟩ (by rw [hone]; exact List.mem_cons_self))
  unfold EndsAttempt at ha
  cases AsyncClient.step_move hinv hstep with
  | connectEnd hend hone hstate =>
    obtain rfl : call = last.calls := by
      rcases ha with rfl | rfl | rfl <;> simpa using hend
    left
    refine ⟨by rw [hone]; exact List.mem_cons_self, ?_⟩
    rw [← hlive _ hone]
    rfl
  | dropUnstarted hone hstate =>
    obtain rfl : last.calls = call := by simpa using ha.symm
    right
    refine ⟨by rw [hone]; simp, ?_⟩
    exact hlive _ hone
  | closeLost hend => rcases ha with rfl | rfl | rfl <;> simp at hend
  | _ => simp at ha

/-- What the call itself leaves when it succeeds: a connecting client with a future that
has not been polled. -/
theorem pending_of_connect {c : PyAsyncClient} {config : Except PyErr ConnectConfig}
    {awaitable : Except PyErr Unit} (hinv : Inv c)
    (h : (AsyncClient.connect c config awaitable).1 = .returned (.ok ())) :
    ∃ cfg, config = .ok cfg ∧ c.state = .disconnected ∧
      Pending ⟨.connecting, c.inner, cfg.info, cfg.maxOps, cfg.timeoutMs⟩ (c.calls + 1)
        (AsyncClient.connect c config awaitable).2 := by
  unfold AsyncClient.connect at h ⊢
  cases config with
  | error e => cases h
  | ok cfg =>
    dsimp only at h ⊢
    by_cases hstate : c.state = .disconnected
    · rw [if_pos hstate] at h ⊢
      by_cases hfits : cfg.Fits
      · rw [OperationLimiter.new_of_fits hfits] at h ⊢
        cases awaitable with
        | error e => cases h
        | ok u =>
          have hnil := hinv.connects_nil (by simp [hstate])
          have hone : c.connects ++ [⟨c.calls + 1, .unstarted⟩] = [⟨c.calls + 1, .unstarted⟩] := by
            rw [hnil, List.nil_append]
          exact ⟨cfg, rfl, hstate, .live hone rfl rfl⟩
      · rw [OperationLimiter.new_of_not_fits hfits] at h
        cases h
    · rw [if_neg hstate] at h
      cases h

/-- A call that raises after it got past its config leaves the client connecting. -/
theorem state_of_raised {c : PyAsyncClient} {cfg : ConnectConfig} {awaitable : Except PyErr Unit}
    (hstate : c.state = .disconnected)
    (h : (AsyncClient.connect c (.ok cfg) awaitable).1 ≠ .returned (.ok ())) :
    (AsyncClient.connect c (.ok cfg) awaitable).2.state = .connecting := by
  unfold AsyncClient.connect at h ⊢
  dsimp only at h ⊢
  rw [if_pos hstate] at h ⊢
  by_cases hfits : cfg.Fits
  · rw [OperationLimiter.new_of_fits hfits] at h ⊢
    cases awaitable with
    | error e => rfl
    | ok u => exact absurd rfl h
  · rw [OperationLimiter.new_of_not_fits hfits]

theorem raised_unchanged_iff {c : PyAsyncClient} {config : Except PyErr ConnectConfig}
    {awaitable : Except PyErr Unit}
    (h : (AsyncClient.connect c config awaitable).1 ≠ .returned (.ok ())) :
    asyncCells (AsyncClient.connect c config awaitable).2 = asyncCells c ↔
      AsyncHarmless c config none := by
  cases config with
  | error e => exact iff_of_true rfl nofun
  | ok cfg =>
    by_cases hstate : c.state = .disconnected
    · refine iff_of_false (fun heq => ?_) (fun hharmless => ?_)
      · have hsame : (AsyncClient.connect c (.ok cfg) awaitable).2.state = c.state :=
          congrArg Cells.state heq
        rw [state_of_raised hstate h, hstate] at hsame
        cases hsame
      · obtain ⟨-, s, hs, -⟩ := hharmless hstate cfg rfl
        cases hs
    · refine iff_of_true ?_ fun hdisconnected => absurd hdisconnected hstate
      unfold AsyncClient.connect
      dsimp only
      rw [if_neg hstate]

theorem ended_unchanged_iff {c last c' : PyAsyncClient} {config : Except PyErr ConnectConfig}
    {awaitable : Except PyErr Unit} {acts : List Act} {a : Act} (hinv : Inv c)
    (h : (AsyncClient.connect c config awaitable).1 = .returned (.ok ()))
    (hrun : run step (AsyncClient.connect c config awaitable).2 acts = some last)
    (ha : EndsAttempt (c.calls + 1) a) (hstep : step last a = some c') :
    asyncCells c' = asyncCells c ↔ AsyncHarmless c config (some last) := by
  obtain ⟨cfg, rfl, hstate, hpending⟩ := pending_of_connect hinv h
  have hinv₁ : Inv (AsyncClient.connect c (.ok cfg) awaitable).2 :=
    AsyncClient.step_inv hinv (a := .connect (.ok cfg) awaitable) rfl
  obtain ⟨hinv₂, hpending⟩ := run_pending rfl hinv₁ hpending hrun
  have hcells : asyncCells c = ⟨.disconnected, c.inner, c.connectionInfo, c.limiter.maxConcurrent,
      c.limiter.timeoutMs⟩ := by rw [← hstate]; rfl
  rcases cells_of_end hinv₂ hpending ha hstep with ⟨hpolled, hend⟩ | ⟨hpolled, hend⟩
  · rw [hend, hcells]
    simp [AsyncHarmless, hstate, hpolled]
  · rw [hend, hcells]
    simp [AsyncHarmless, hstate, hpolled]

/-- A failed attempt leaves all four cells as they were exactly when it is harmless: in the
sync client, and in the async client in every reachable state. -/
theorem failed_connect_unchanged_iff (config : Except PyErr ConnectConfig) :
    (∀ c created, (Client.connect c config created).1 ≠ .returned (.ok ()) →
      (syncCells (Client.connect c config created).2 = syncCells c ↔
        SyncHarmless c config created)) ∧
    ∀ c awaitable last c', Reachable step .new c → FailedAttempt c config awaitable last c' →
      (asyncCells c' = asyncCells c ↔ AsyncHarmless c config last) := by
  refine ⟨fun c => sync_unchanged_iff c config, fun c awaitable last c' hreach h => ?_⟩
  have hinv := AsyncClient.reachable_inv hreach
  cases h with
  | raised h => exact raised_unchanged_iff h
  | ended h hrun ha hstep => exact ended_unchanged_iff hinv h hrun ha hstep

/-- `{'hosts': [('127.0.0.1', 3999)], 'max_concurrent_operations': 5}`. -/
def unreachable : ConnectConfig := ⟨⟨"127.0.0.1", 3999, ""⟩, 5, 0⟩

def noHosts : PyErr := ⟨.clusterError, "Failed to connect to host(s)"⟩

/-- A second failed attempt with one config changes nothing more. -/
theorem failed_connect_unchanged_iff_again :
    let c := (Client.connect .new (.ok unreachable) (.returned (.error noHosts))).2
    let attempt := [Act.connect (.ok unreachable) (.ok ()), .pollConnect 1, .connectErr 1]
    (syncCells (Client.connect c (.ok unreachable) (.returned (.error noHosts))).2 = syncCells c ↔
      SyncHarmless c (.ok unreachable) (.returned (.error noHosts))) ∧
    ∃ d last d', run step .new attempt = some d ∧ (asyncCells d' = asyncCells d ↔
      AsyncHarmless d (.ok unreachable) (some last)) := by
  intro c attempt
  have hagain : ∃ d, run step .new attempt = some d ∧ d.calls = 1 ∧
      ∃ last, run step (AsyncClient.connect d (.ok unreachable) (.ok ())).2 [.pollConnect 2] =
        some last ∧
      (AsyncClient.connect d (.ok unreachable) (.ok ())).1 = .returned (.ok ()) ∧
      ∃ d', step last (.connectErr 2) = some d' :=
    ⟨_, rfl, rfl, _, rfl, rfl, _, rfl⟩
  obtain ⟨d, hd, hcalls, last, hrun, hok, d', hstep⟩ := hagain
  have hend : EndsAttempt (d.calls + 1) (.connectErr 2) := by
    rw [hcalls]
    exact .inl rfl
  have hexact := failed_connect_unchanged_iff (.ok unreachable)
  exact ⟨hexact.1 c _ (by simp [c, Client.connect, PyClient.new]),
    d, last, d', hd, hexact.2 d _ _ d' ⟨attempt, hd⟩ (.ended hok hrun hend hstep)⟩

/-- The first failed attempt leaves the address of the unreachable host in both clients, and
its limits in the async one. A future that is dropped before its first poll, which takes a
runtime that does not poll it at once, leaves the client connecting. -/
theorem failed_connect_leaves_traces :
    let c := (Client.connect .new (.ok unreachable) (.returned (.error noHosts))).2
    syncCells .new = ⟨.disconnected, none, .default, 0, 0⟩ ∧
      syncCells c = ⟨.disconnected, none, ⟨"127.0.0.1", 3999, ""⟩, 0, 0⟩ ∧
    asyncCells .new = ⟨.disconnected, none, .default, 0, 0⟩ ∧
      (run step .new [.connect (.ok unreachable) (.ok ()), .pollConnect 1, .connectErr 1]).map
        asyncCells = some ⟨.disconnected, none, ⟨"127.0.0.1", 3999, ""⟩, 5, 0⟩ ∧
      (run step .new [.connect (.ok unreachable) (.ok ()), .dropConnect 1]).map
        asyncCells = some ⟨.connecting, none, ⟨"127.0.0.1", 3999, ""⟩, 5, 0⟩ :=
  ⟨rfl, rfl, rfl, rfl, rfl⟩

end AerospikePy.Lifecycle.FailedConnect
