import PnetManager.Manager
import PnetManager.MockStack
import PnetManager.RecoverySchedule
import PnetManager.WatchdogGap

/-!
# The loop in `main`

A tick fails without a handle or in the ERROR state, and a device that has started has
a handle and never comes to that state: the state callback sets other states only. So
no tick of the loop fails, and the recovery is never tried.
-/

namespace PnetManager.SteadyLoop
open CText SystemCalls IoDeviceApp DeviceLifecycle ConfigFile ProductionLoop RecoverySchedule
  WatchdogGap StackLedger MockStack Runs Manager

set_option maxRecDepth 2000

variable {F W : Type} {build : Build} (os : Platform F) (stack : PnetStack build W)
  (cfg : IoDeviceCfg)

structure Ticked (net : PnetHandle) (k : ℕ) (p : Process W) : Prop where
  handle : p.device.pnetHandle = some net
  live : IsLive p.device
  cycles : p.device.cycleCount = UInt64.ofNat k
  errors : p.device.errorCount = 0
  opened : p.opened = [net]

theorem started_ticked {p : Process W} (hopen : p.opened = [])
    (hstart : (deviceInitAndStart stack cfg p).1 = 0) :
    ∃ net, (stack.pnetInit (pnetCfgOf build cfg) p.world).1 = some net ∧
      Ticked net 0 (deviceInitAndStart stack cfg p).2 := by
  rcases hinit : stack.pnetInit (pnetCfgOf build cfg) p.world with ⟨_ | net, w⟩
  · simp [deviceInitAndStart, ioDeviceInit, ioDeviceStart, ledgered, hinit] at hstart
  · refine ⟨net, rfl, ?_⟩
    have hmodules : plugAllModules (ledgered stack) net (w, [net]) =
        ((plugAllModules stack net w).1, (plugAllModules stack net w).2, [net]) :=
      plugAll_ledgered stack net plugCalls w [net]
    have hcall : (ledgered stack).pnetInit (pnetCfgOf build cfg) (p.world, p.opened) =
        (some net, w, [net]) := by
      simp [ledgered, hinit, hopen]
    by_cases hplug : (plugAllModules stack net w).1 = 0
    · simp only [deviceInitAndStart, ioDeviceInit, ioDeviceStart, hcall, hmodules, hplug]
      exact ⟨rfl, Or.inl rfl, rfl, rfl, rfl⟩
    · simp [deviceInitAndStart, ioDeviceInit, ioDeviceStart, hcall, hmodules, hplug] at hstart

variable {stack} {net : PnetHandle} {k : ℕ} {p : Process W}

theorem Ticked.consistent (h : Ticked net k p) : Consistent p.device :=
  consistent_of_live h.live (by rw [h.handle]; simp)

theorem Ticked.tick_ret (h : Ticked net k p) : (deviceTick stack p).1 = 0 := by
  have hret := (ioDeviceTick_ret (ledgered stack) h.consistent (p.world, p.opened)).mpr h.live
  rw [deviceTick]
  dsimp only
  rw [if_pos hret]
  exact hret

theorem Ticked.tick (h : Ticked net k p) : Ticked net (k + 1) (deviceTick stack p).2 := by
  obtain ⟨hopen, hnet⟩ := deviceTick_ledger stack p
  have hret := (ioDeviceTick_ret (ledgered stack) h.consistent (p.world, p.opened)).mpr h.live
  have hdev : (deviceTick stack p).2.device =
      (ioDeviceTick (ledgered stack) p.device (p.world, p.opened)).2.1 := by
    rw [deviceTick]
    dsimp only
    rw [if_pos hret]
  rcases ioDeviceTick_cases (ledgered stack) p.device (p.world, p.opened) with
    ⟨-, hfail, -⟩ | ⟨-, -, -, es, hticked⟩
  · exact absurd (hret.symm.trans hfail) (by decide)
  · obtain ⟨st, arep, hdeliver, -⟩ := deliver_cases p.device es
    have hlive := deliver_live h.live es
    refine ⟨hnet.trans h.handle, ?_, ?_, ?_, hopen.trans h.opened⟩
    · rw [hdev, hticked]
      exact hlive
    · rw [hdev, hticked]
      simp [h.cycles, UInt64.ofNat_add]
    · rw [hdev, hticked, hdeliver]
      exact h.errors

def succeeded : Iteration := ⟨0, 0⟩

theorem recovers_succeeded (s : LoopState) (rc : ℤ) : recovers s ⟨0, rc⟩ = false := by
  simp [recovers]

theorem iterationMessages_succeeded (tickUs : UInt32) (s : LoopState) :
    ∃ j, iterationMessages s succeeded = List.replicate j watchdogMessage ∧
      (iterate tickUs s succeeded).pings.length = s.pings.length + j := by
  obtain ⟨-, -, hpings⟩ := afterTick_clock s succeeded
  have hcalm : recovers s succeeded = false := recovers_succeeded s 0
  rw [iterationMessages, iterate_pings, watchdogPing, hcalm, if_neg Bool.false_ne_true]
  split_ifs
  · exact ⟨1, rfl, by rw [← hpings]; rfl⟩
  · exact ⟨0, rfl, by rw [hpings]; rfl⟩

variable {os cfg}

theorem loopBody_ticked {r : Production W} (h : Ticked net k r.process) :
    loopBody os stack cfg r =
      { vars := iterate cfg.tickUs r.vars succeeded
        process := (deviceTick stack r.process).2
        notified := os.notify (iterationMessages r.vars succeeded) r.notified } := by
  have hret : (deviceTick stack r.process).1 = 0 := h.tick_ret
  rw [loopBody]
  simp only [hret, recovers_succeeded, Bool.false_eq_true, if_false]
  rfl

theorem notify_replicate (i j : ℕ) (log : List Text) :
    os.notify (List.replicate j watchdogMessage)
        (os.notify (List.replicate i watchdogMessage) log) =
      os.notify (List.replicate (i + j) watchdogMessage) log := by
  rw [Platform.notify, Platform.notify, Platform.notify]
  split_ifs
  · rw [List.append_assoc, List.replicate_append_replicate]
  · rfl

variable (os cfg) in
theorem production_ticked (h : Ticked net 0 p) (nowUs n : ℕ) (log : List Text) :
    let r := production os stack cfg n ⟨loopEntry nowUs, p, log⟩
    Ticked net n r.process ∧
      r.vars = loopAfter cfg.tickUs nowUs (List.replicate n succeeded) ∧
      r.notified = os.notify (List.replicate r.vars.pings.length watchdogMessage) log := by
  induction n with
  | zero =>
    refine ⟨h, rfl, ?_⟩
    simp [production, loopEntry, Platform.notify]
  | succ n ih =>
    obtain ⟨hticked, hvars, hnotified⟩ := ih
    rw [production] at hticked hvars hnotified
    obtain ⟨j, hmessages, hpings⟩ := iterationMessages_succeeded cfg.tickUs
      ((loopBody os stack cfg)^[n] ⟨loopEntry nowUs, p, log⟩).vars
    dsimp only
    rw [production, Function.iterate_succ_apply', loopBody_ticked hticked]
    refine ⟨hticked.tick, ?_, ?_⟩
    · rw [List.replicate_succ', loopAfter_snoc, hvars]
    · dsimp only
      rw [hmessages, hpings, hnotified, notify_replicate]

theorem afterTick_succeeded (s : LoopState) :
    afterTick s succeeded =
      { s with consecutiveErrors := 0, recoveryAttempts := 0, backoffUs := recoveryBackoffBase } :=
  if_pos rfl

theorem iterate_succeeded_nowUs (tickUs : UInt32) (s : LoopState) :
    (iterate tickUs s succeeded).nowUs = s.nowUs + tickUs.toNat := by
  have hcalm : recovers s succeeded = false := recovers_succeeded s 0
  rw [iterate_nowUs, recoverySleep, hcalm]
  rfl

theorem calm_loop (tickUs : UInt32) (nowUs n : ℕ) :
    let s := loopAfter tickUs nowUs (List.replicate n succeeded)
    s.consecutiveErrors = 0 ∧ s.recoveryAttempts = 0 ∧ s.backoffUs = recoveryBackoffBase ∧
      s.nowUs = nowUs + n * tickUs.toNat := by
  induction n with
  | zero => simp [loopAfter, loopEntry]
  | succ n ih =>
    obtain ⟨-, -, -, hnow⟩ := ih
    obtain ⟨herrors, hattempts, hbackoff⟩ := iterate_counters tickUs
      (loopAfter tickUs nowUs (List.replicate n succeeded)) succeeded
    rw [List.replicate_succ', loopAfter_snoc]
    refine ⟨herrors, hattempts, hbackoff, ?_⟩
    rw [iterate_succeeded_nowUs, hnow, add_mul, one_mul, add_assoc]

variable (stack cfg) in
def enterLoop (w : W) (nowUs : ℕ) (log : List Text) : Production W :=
  ⟨loopEntry nowUs, (deviceInitAndStart stack cfg (bootProcess w)).2, log⟩

variable (os) in
/-- Whatever the stack does, no tick of the loop of `main` fails and no recovery is
tried: the counters of the loop stay at their first values, the device keeps the handle
of its only start, and its cycles are those of the run. -/
theorem loop_never_recovers (w : W) (nowUs n : ℕ) (log : List Text)
    (hstart : (deviceInitAndStart stack cfg (bootProcess w)).1 = 0) :
    let r := production os stack cfg n (enterLoop stack cfg w nowUs log)
    (deviceTick stack r.process).1 = 0 ∧
      (∀ rc, recovers r.vars ⟨(deviceTick stack r.process).1, rc⟩ = false) ∧
      (r.vars.consecutiveErrors = 0 ∧ r.vars.recoveryAttempts = 0 ∧
        r.vars.backoffUs = recoveryBackoffBase ∧ r.vars.nowUs = nowUs + n * cfg.tickUs.toNat) ∧
      IsLive r.process.device ∧ r.process.device.errorCount = 0 ∧
      r.process.device.cycleCount = UInt64.ofNat n ∧
      r.process.device.pnetHandle = (stack.pnetInit (pnetCfgOf build cfg) w).1 ∧
      r.process.opened = r.process.device.pnetHandle.toList := by
  obtain ⟨net, hinit, hticked⟩ := started_ticked stack cfg (p := bootProcess w) rfl hstart
  obtain ⟨hend, hvars, -⟩ := production_ticked os cfg hticked nowUs n log
  obtain ⟨herrors, hattempts, hbackoff, hnow⟩ := calm_loop cfg.tickUs nowUs n
  have hret : (deviceTick stack (production os stack cfg n
      (enterLoop stack cfg w nowUs log)).process).1 = 0 := hend.tick_ret
  rw [← enterLoop] at hend hvars
  dsimp only
  rw [hret, hvars, hend.opened, hend.handle]
  exact ⟨rfl, recovers_succeeded _, ⟨herrors, hattempts, hbackoff, hnow⟩, hend.live, hend.errors,
    hend.cycles, hinit.symm, rfl⟩

theorem mock_starts :
    (deviceInitAndStart mockStack appConfigDefault.device (bootProcess .fresh)).1 = 0 := by
  decide

def quiet : Platform Unit := ⟨fun _ w => (0, w), fun _ => none, true, true⟩

theorem loop_never_recovers_mock :
    let r := production quiet mockStack appConfigDefault.device 7
      (enterLoop mockStack appConfigDefault.device MockWorld.fresh 0 [])
    (deviceTick mockStack r.process).1 = 0 ∧ r.process.device.cycleCount = 7 := by
  obtain ⟨hret, -, -, -, -, hcycles, -⟩ :=
    loop_never_recovers quiet MockWorld.fresh 0 7 [] mock_starts
  exact ⟨hret, hcycles⟩

structure Steady (tickUs : UInt32) (s : LoopState) : Prop where
  recent : Recent tickUs s
  every : 15000000 ≤ tickUs.toNat → ∀ t ∈ s.pings.head?, s.nowUs = t + tickUs.toNat

theorem recoverySleep_succeeded (s : LoopState) : recoverySleep s succeeded = 0 := by
  have hcalm : recovers s succeeded = false := recovers_succeeded s 0
  rw [recoverySleep, hcalm]
  rfl

theorem Steady.iterate {tickUs : UInt32} {s : LoopState} (h : Steady tickUs s) :
    Steady tickUs (iterate tickUs s succeeded) := by
  refine ⟨iterate_recent h.recent succeeded, ?_⟩
  intro hlong t ht
  obtain ⟨hnow, hping⟩ := iterate_cases h.recent succeeded
  rw [recoverySleep_succeeded, Nat.add_zero] at hnow hping
  rcases hping with ⟨hpings, -⟩ | ⟨hpings, -, hsince⟩
  · rw [hpings] at ht
    obtain rfl : s.nowUs = t := by simpa using ht
    exact hnow
  · rw [hpings] at ht
    have hevery := h.every hlong t ht
    have hlate := hsince t ht
    omega

theorem loopAfter_steady (tickUs : UInt32) (nowUs n : ℕ) :
    Steady tickUs (loopAfter tickUs nowUs (List.replicate n succeeded)) := by
  induction n with
  | zero =>
    refine ⟨loopEntry_recent tickUs nowUs, fun _ t ht => ?_⟩
    simp [loopAfter, loopEntry] at ht
  | succ n ih =>
    rw [List.replicate_succ', loopAfter_snoc]
    exact ih.iterate

theorem Steady.inTime {tickUs : UInt32} {s : LoopState} (h : Steady tickUs s)
    (htick : tickUs.toNat ≤ 30000000) : InTime s succeeded := by
  intro t ht
  have hrecent := h.recent.recent t ht
  rw [recoverySleep_succeeded, watchdogUs]
  by_cases hlong : 15000000 ≤ tickUs.toNat
  · have hevery := h.every hlong t ht
    omega
  · omega

theorem calm_pingsClose {tickUs : UInt32} (htick : tickUs.toNat ≤ 30000000) (nowUs n : ℕ) :
    PingsClose (loopAfter tickUs nowUs (List.replicate n succeeded)) := by
  induction n with
  | zero => exact List.IsChain.nil
  | succ n ih =>
    have hsteady := loopAfter_steady tickUs nowUs n
    rw [List.replicate_succ', loopAfter_snoc]
    exact (iterate_pingsClose_iff hsteady.recent ih succeeded).mpr (hsteady.inTime htick)

theorem first_ping (tickUs : UInt32) {s : LoopState} (hlast : s.lastWatchdogMs = 0) :
    (iterate tickUs s succeeded).pings.head? = some s.nowUs ∨
      (iterate tickUs s succeeded).lastWatchdogMs = 0 ∧ s.nowUs / 1000 % 2 ^ 64 < 15000 := by
  rw [iterate_pings, iterate_lastWatchdogMs, watchdogPing, afterTick_succeeded]
  dsimp only
  split_ifs with hdue
  · exact Or.inl rfl
  · refine Or.inr ⟨hlast, ?_⟩
    rw [hlast, UInt64.le_iff_toNat_le] at hdue
    simpa [nowMs, watchdogPingMs] using hdue

theorem ping_within_two {tickUs : UInt32} (hslow : 30000000 < tickUs.toNat) (nowUs : ℕ) :
    ∃ n t, (loopAfter tickUs nowUs (List.replicate n succeeded)).pings.head? = some t := by
  have htick := tickUs.toNat_lt
  rcases first_ping tickUs (s := loopEntry nowUs) rfl with hping | ⟨hlast, hearly⟩
  · exact ⟨1, _, hping⟩
  · rcases first_ping tickUs hlast with hping | ⟨-, hearly'⟩
    · exact ⟨2, _, hping⟩
    · rw [iterate_succeeded_nowUs] at hearly'
      simp only [loopEntry] at hearly hearly'
      omega

theorem late_ping {tickUs : UInt32} (hslow : 30000000 < tickUs.toNat) (nowUs : ℕ) :
    ∃ n, ¬ PingsClose (loopAfter tickUs nowUs (List.replicate n succeeded)) := by
  obtain ⟨n, t, ht⟩ := ping_within_two hslow nowUs
  have hsteady := loopAfter_steady tickUs nowUs n
  have hnow := hsteady.every (by omega) t ht
  refine ⟨n + 1, fun hclose => ?_⟩
  rw [List.replicate_succ', loopAfter_snoc] at hclose
  obtain ⟨-, hping⟩ := iterate_cases hsteady.recent succeeded
  rw [recoverySleep_succeeded, Nat.add_zero] at hping
  rcases hping with ⟨hpings, -⟩ | ⟨-, -, hsince⟩
  · rw [PingsClose, hpings, List.isChain_cons] at hclose
    have hle := hclose.1 t ht
    rw [watchdogUs] at hle
    omega
  · have hlate := hsince t ht
    omega

variable (os stack cfg) in
/-- No two pings of a run are further apart than the service manager allows. -/
def KeepsInterval (w : W) (nowUs : ℕ) (log : List Text) : Prop :=
  ∀ n, PingsClose (production os stack cfg n (enterLoop stack cfg w nowUs log)).vars

/-- Once the device has started, `main` keeps the interval of the service manager in
every run exactly when its tick is no longer than that interval. -/
theorem keeps_interval_iff (w : W) (nowUs : ℕ) (log : List Text)
    (hstart : (deviceInitAndStart stack cfg (bootProcess w)).1 = 0) :
    KeepsInterval os stack cfg w nowUs log ↔ cfg.tickUs.toNat ≤ watchdogUs := by
  obtain ⟨net, -, hticked⟩ := started_ticked stack cfg (p := bootProcess w) rfl hstart
  have hvars (n : ℕ) : (production os stack cfg n (enterLoop stack cfg w nowUs log)).vars =
      loopAfter cfg.tickUs nowUs (List.replicate n succeeded) :=
    (production_ticked os cfg hticked nowUs n log).2.1
  simp only [KeepsInterval, hvars]
  constructor
  · intro hclose
    by_contra hslow
    obtain ⟨n, hlate⟩ := late_ping (not_le.mp hslow) nowUs
    exact hlate (hclose n)
  · intro htick n
    exact calm_pingsClose htick nowUs n

theorem keeps_interval_default :
    KeepsInterval quiet mockStack appConfigDefault.device MockWorld.fresh 0 [] := by
  have htick : appConfigDefault.device.tickUs = 1000 := rfl
  refine (keeps_interval_iff MockWorld.fresh 0 [] mock_starts).mpr ?_
  rw [htick]
  decide

end PnetManager.SteadyLoop
