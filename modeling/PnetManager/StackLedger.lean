import PnetManager.DeviceLifecycle
import PnetManager.ProductionLoop

/-!
# Which stacks are open

`main` starts a device, ticks it, restarts it in a recovery and stops it in the
end. A ledger keeps the handles that `pnet_init` has returned and
`pnet_factory_reset` has not got. A start that fails behind `pnet_init` is
cleaned up without a reset: its handle stays in the ledger and is lost.
-/

namespace PnetManager.StackLedger
open IoDeviceApp DeviceLifecycle ProductionLoop Runs

variable {build : Build} {W : Type} (stack : PnetStack build W) (cfg : IoDeviceCfg)

def ledgered : PnetStack build (W × List PnetHandle) where
  pnetInit cfg s :=
    let (net, w) := stack.pnetInit cfg s.1
    (net, w, net.toList ++ s.2)
  pnetPlug net c s :=
    let (ret, w) := stack.pnetPlug net c s.1
    (ret, w, s.2)
  pnetHandlePeriodic net s :=
    let (es, w) := stack.pnetHandlePeriodic net s.1
    (es, w, s.2)
  pnetFactoryReset net s :=
    let (ret, es, w) := stack.pnetFactoryReset net s.1
    (ret, es, w, s.2.erase net)
  pnetInputSetDataAndIops net api slot subslot data len iops s :=
    let (ret, w) := stack.pnetInputSetDataAndIops net api slot subslot data len iops s.1
    (ret, w, s.2)
  pnetOutputGetDataAndIops net api slot subslot data len s :=
    let (answer, w) := stack.pnetOutputGetDataAndIops net api slot subslot data len s.1
    (answer, w, s.2)

structure Process (W : Type) where
  device : IoDevice
  world : W
  opened : List PnetHandle

/-- Every open handle is the one that the device holds. -/
def NoneLost (p : Process W) : Prop := p.opened = p.device.pnetHandle.toList

def deviceInitAndStart (p : Process W) : ℤ × Process W :=
  let (ret, dev) := ioDeviceInit .zeroed (some cfg)
  if ret < 0 then (-1, { p with device := dev })
  else
    let (ret, dev, w, opened) := ioDeviceStart (ledgered stack) dev (p.world, p.opened)
    if ret < 0 then (-1, ⟨ioDeviceCleanup dev, w, opened⟩) else (0, ⟨dev, w, opened⟩)

def deviceStopAndCleanup (p : Process W) : Process W :=
  let (_, dev, w, opened) := ioDeviceStop (ledgered stack) p.device (p.world, p.opened)
  ⟨ioDeviceCleanup dev, w, opened⟩

def deviceTick (p : Process W) : ℤ × Process W :=
  let (ret, dev, w, opened) := ioDeviceTick (ledgered stack) p.device (p.world, p.opened)
  if ret = 0 then (ret, ⟨dev, w, opened⟩)
  else (ret, ⟨{ dev with errorCount := dev.errorCount + 1 }, w, opened⟩)

def deviceRecover (p : Process W) : ℤ × Process W :=
  deviceInitAndStart stack cfg (deviceStopAndCleanup stack p)

inductive LoopStep
  | tick
  | recover
deriving DecidableEq

def LoopStep.exec (p : Process W) : LoopStep → Process W
  | .tick => (deviceTick stack p).2
  | .recover => (deviceRecover stack cfg p).2

def bootProcess (w : W) : Process W := ⟨.zeroed, w, []⟩

def afterSteps (w : W) (steps : List LoopStep) : Process W :=
  run (LoopStep.exec stack cfg) (deviceInitAndStart stack cfg (bootProcess w)).2 steps

/-- The states of a run of `main`: a failing initial start ends it. -/
def visited (w : W) (steps : List LoopStep) : List (Process W) :=
  if (deviceInitAndStart stack cfg (bootProcess w)).1 < 0 then
    [(deviceInitAndStart stack cfg (bootProcess w)).2]
  else
    steps.inits.map (afterSteps stack cfg w) ++
      [deviceStopAndCleanup stack (afterSteps stack cfg w steps)]

def PlugsSucceed (w : W) : Prop :=
  ∀ net, (stack.pnetInit (pnetCfgOf build cfg) w).1 = some net →
    (plugAllModules stack net (stack.pnetInit (pnetCfgOf build cfg) w).2).1 = 0

theorem plugAll_ledgered (net : PnetHandle) (cs : List PlugCall) (w : W)
    (opened : List PnetHandle) :
    plugAll (ledgered stack) net cs (w, opened) =
      ((plugAll stack net cs w).1, (plugAll stack net cs w).2, opened) := by
  induction cs generalizing w with
  | nil => rfl
  | cons c cs ih =>
    have hplug : (ledgered stack).pnetPlug net c (w, opened) =
        ((stack.pnetPlug net c w).1, (stack.pnetPlug net c w).2, opened) := rfl
    simp only [plugAll, hplug]
    split_ifs
    · rfl
    · exact ih _

theorem deviceInitAndStart_cases (p : Process W) :
    let r := deviceInitAndStart stack cfg p
    (stack.pnetInit (pnetCfgOf build cfg) p.world).1 = none ∧ r.1 = -1 ∧
      r.2.device = .zeroed ∧ r.2.opened = p.opened ∨
    (∃ net, (stack.pnetInit (pnetCfgOf build cfg) p.world).1 = some net ∧
      (plugAllModules stack net (stack.pnetInit (pnetCfgOf build cfg) p.world).2).1 ≠ 0 ∧
      r.1 = -1 ∧ r.2.device = .zeroed ∧ r.2.opened = net :: p.opened) ∨
    ∃ net, (stack.pnetInit (pnetCfgOf build cfg) p.world).1 = some net ∧
      (plugAllModules stack net (stack.pnetInit (pnetCfgOf build cfg) p.world).2).1 = 0 ∧
      r.1 = 0 ∧ r.2.device.pnetHandle = some net ∧ r.2.opened = net :: p.opened := by
  have hinit : (ledgered stack).pnetInit (pnetCfgOf build cfg) (p.world, p.opened) =
      ((stack.pnetInit (pnetCfgOf build cfg) p.world).1,
        (stack.pnetInit (pnetCfgOf build cfg) p.world).2,
        (stack.pnetInit (pnetCfgOf build cfg) p.world).1.toList ++ p.opened) := rfl
  generalize stack.pnetInit (pnetCfgOf build cfg) p.world = answer at hinit ⊢
  obtain ⟨net, w⟩ := answer
  cases net with
  | none =>
    left
    simp [deviceInitAndStart, ioDeviceInit, ioDeviceStart, hinit, ioDeviceCleanup]
  | some net =>
    right
    have hmodules : plugAllModules (ledgered stack) net (w, net :: p.opened) =
        ((plugAllModules stack net w).1, (plugAllModules stack net w).2, net :: p.opened) :=
      plugAll_ledgered stack net plugCalls w (net :: p.opened)
    by_cases hplug : (plugAllModules stack net w).1 = 0
    · right
      simp [deviceInitAndStart, ioDeviceInit, ioDeviceStart, hinit, hmodules, hplug]
    · left
      simp [deviceInitAndStart, ioDeviceInit, ioDeviceStart, hinit, hmodules, hplug,
        ioDeviceCleanup]

theorem deviceInitAndStart_noneLost_iff {p : Process W} (h : p.opened = []) :
    NoneLost (deviceInitAndStart stack cfg p).2 ↔ PlugsSucceed stack cfg p.world := by
  rw [NoneLost, PlugsSucceed]
  rcases deviceInitAndStart_cases stack cfg p with ⟨hinit, -, hdev, hopen⟩ |
    ⟨net, hinit, hplug, -, hdev, hopen⟩ | ⟨net, hinit, hplug, -, hdev, hopen⟩
  · simp [hinit, hdev, hopen, h, IoDevice.zeroed]
  · simp [hinit, hplug, hdev, hopen, IoDevice.zeroed]
  · simp [hinit, hplug, hdev, hopen, h]

theorem deviceStopAndCleanup_spec {p : Process W} (h : NoneLost p) :
    (deviceStopAndCleanup stack p).device = .zeroed ∧
      (deviceStopAndCleanup stack p).opened = [] := by
  refine ⟨rfl, ?_⟩
  rw [NoneLost] at h
  rw [deviceStopAndCleanup, ioDeviceStop]
  cases hnet : p.device.pnetHandle with
  | none => simpa [hnet] using h
  | some net => simp [hnet, ledgered, h]

theorem deviceTick_ledger (p : Process W) :
    (deviceTick stack p).2.opened = p.opened ∧
      (deviceTick stack p).2.device.pnetHandle = p.device.pnetHandle := by
  rw [deviceTick, ioDeviceTick]
  cases hnet : p.device.pnetHandle with
  | none => simp [hnet]
  | some net =>
    by_cases hs : p.device.state = .error
    · simp [hs, hnet]
    · simp [hs, ledgered, deliver_pnetHandle, hnet]

def StartsSucceed (p : Process W) : LoopStep → Prop
  | .tick => True
  | .recover => PlugsSucceed stack cfg (deviceStopAndCleanup stack p).world

theorem exec_noneLost_iff {p : Process W} (h : NoneLost p) (c : LoopStep) :
    NoneLost (c.exec stack cfg p) ↔ StartsSucceed stack cfg p c := by
  cases c with
  | tick =>
    obtain ⟨hopen, hnet⟩ := deviceTick_ledger stack p
    refine iff_of_true ?_ trivial
    rw [LoopStep.exec, NoneLost, hopen, hnet, h]
  | recover =>
    exact deviceInitAndStart_noneLost_iff stack cfg (deviceStopAndCleanup_spec stack h).2

theorem afterSteps_noneLost_iff {w : W} {steps : List LoopStep}
    (h : NoneLost (deviceInitAndStart stack cfg (bootProcess w)).2) :
    (∀ pre, pre <+: steps → NoneLost (afterSteps stack cfg w pre)) ↔
      ∀ pre c, pre ++ [c] <+: steps → StartsSucceed stack cfg (afterSteps stack cfg w pre) c := by
  refine always_iff_steps (P := fun pre => NoneLost (afterSteps stack cfg w pre)) h ?_
  intro pre c _ hpre
  rw [afterSteps, run_snoc]
  exact exec_noneLost_iff stack cfg hpre c

def EveryStartPlugs (w : W) (steps : List LoopStep) : Prop :=
  PlugsSucceed stack cfg w ∧ ((deviceInitAndStart stack cfg (bootProcess w)).1 = 0 →
    ∀ pre c, pre ++ [c] <+: steps → StartsSucceed stack cfg (afterSteps stack cfg w pre) c)

theorem deviceInitAndStart_ret (p : Process W) :
    (deviceInitAndStart stack cfg p).1 = 0 ∨
      (deviceInitAndStart stack cfg p).1 = -1 ∧
        (deviceInitAndStart stack cfg p).2.device = .zeroed := by
  rcases deviceInitAndStart_cases stack cfg p with ⟨-, hret, hdev, -⟩ |
    ⟨_, -, -, hret, hdev, -⟩ | ⟨_, -, -, hret, -, -⟩
  · exact Or.inr ⟨hret, hdev⟩
  · exact Or.inr ⟨hret, hdev⟩
  · exact Or.inl hret

theorem noneLost_of_zeroed {p : Process W} (h : p.device = .zeroed) :
    NoneLost p ↔ p.opened = [] := by
  rw [NoneLost, h]
  rfl

/-- No run of `main` loses a stack, or returns with an open one, exactly when in each
of its starts that gets a handle the seven plug calls succeed. -/
theorem no_stack_lost_iff (w : W) (steps : List LoopStep) :
    (∀ p ∈ visited stack cfg w steps, NoneLost p) ∧
        (∀ p ∈ (visited stack cfg w steps).getLast?, p.opened = []) ↔
      EveryStartPlugs stack cfg w steps := by
  have hstart : NoneLost (deviceInitAndStart stack cfg (bootProcess w)).2 ↔
      PlugsSucceed stack cfg w := deviceInitAndStart_noneLost_iff stack cfg rfl
  rw [visited, EveryStartPlugs, ← hstart]
  rcases deviceInitAndStart_ret stack cfg (bootProcess w) with hret | ⟨hret, hdev⟩
  · simp only [hret, lt_irrefl, if_false, forall_const, List.forall_mem_append,
      List.forall_mem_map, List.mem_inits, List.forall_mem_singleton, List.getLast?_concat,
      Option.mem_def, Option.some.injEq, forall_eq']
    constructor
    · intro h
      obtain ⟨⟨hall, -⟩, -⟩ := h
      have hfirst := hall [] List.nil_prefix
      exact ⟨hfirst, (afterSteps_noneLost_iff stack cfg hfirst).mp hall⟩
    · intro h
      obtain ⟨hfirst, hsteps⟩ := h
      have hall := (afterSteps_noneLost_iff stack cfg hfirst).mpr hsteps
      obtain ⟨hdev, hopen⟩ := deviceStopAndCleanup_spec stack (hall steps List.prefix_rfl)
      exact ⟨⟨hall, (noneLost_of_zeroed hdev).mpr hopen⟩, hopen⟩
  · have hlast := noneLost_of_zeroed hdev
    simp [hret, hlast]

def mainIterate (s : LoopState × Process W) : LoopState × Process W :=
  let (rc, p) := deviceTick stack s.2
  if recovers s.1 ⟨rc, 0⟩ then
    let (restartRc, p) := deviceRecover stack cfg p
    (iterate cfg.tickUs s.1 ⟨rc, restartRc⟩, p)
  else (iterate cfg.tickUs s.1 ⟨rc, 0⟩, p)

def mainLoop (nowUs : ℕ) (w : W) (n : ℕ) : LoopState × Process W :=
  (mainIterate stack cfg)^[n] (loopEntry nowUs, (deviceInitAndStart stack cfg (bootProcess w)).2)

theorem mainIterate_steps (s : LoopState × Process W) :
    ∃ steps, (mainIterate stack cfg s).2 = run (LoopStep.exec stack cfg) s.2 steps := by
  rw [mainIterate]
  dsimp only
  split_ifs
  · exact ⟨[.tick, .recover], rfl⟩
  · exact ⟨[.tick], rfl⟩

theorem mainLoop_steps (nowUs : ℕ) (w : W) (n : ℕ) :
    ∃ steps, (mainLoop stack cfg nowUs w n).2 = afterSteps stack cfg w steps := by
  induction n with
  | zero => exact ⟨[], rfl⟩
  | succ n ih =>
    obtain ⟨steps, hsteps⟩ := ih
    obtain ⟨more, hmore⟩ := mainIterate_steps stack cfg (mainLoop stack cfg nowUs w n)
    refine ⟨steps ++ more, ?_⟩
    rw [mainLoop, Function.iterate_succ_apply', ← mainLoop, hmore, hsteps, afterSteps, afterSteps,
      run_append]

def unpluggable : PnetStack .mock Unit where
  pnetInit _ w := (some 1, w)
  pnetPlug _ _ w := (-1, w)
  pnetHandlePeriodic _ w := ([], w)
  pnetFactoryReset _ w := (0, [], w)
  pnetInputSetDataAndIops _ _ _ _ _ _ _ w := (0, w)
  pnetOutputGetDataAndIops _ _ _ _ buf len w := (⟨0, buf, len, .good⟩, w)

/-- The initial start gets a handle, fails to plug and forgets the handle; a
recovery would open a second stack. -/
theorem failed_plug_loses_stack :
    let r := deviceInitAndStart unpluggable .zeroed (bootProcess ())
    visited unpluggable .zeroed () [] = [r.2] ∧ r.1 = -1 ∧ r.2.device.pnetHandle = none ∧
      r.2.opened = [1] ∧ ¬ NoneLost r.2 ∧
      (deviceRecover unpluggable .zeroed r.2).2.opened = [1, 1] := by
  intro r
  have hret : r.1 = -1 := by decide
  have hopen : r.2.opened = [1] := by decide
  have hnet : r.2.device.pnetHandle = none := by decide
  refine ⟨?_, hret, hnet, hopen, ?_, by decide⟩
  · rw [visited, if_pos (by rw [hret]; decide)]
  · rw [NoneLost, hopen, hnet]
    decide

end PnetManager.StackLedger
