import PnetManager.IoDeviceApp
import PnetManager.Runs

/-!
# The lifecycle of one device

State, handle, AREP and cycle counter hang together after every sequence of
calls, whatever the stack answers and whichever state events it delivers. An
inversion lemma for each call says all it can do to these four; the invariants
are read off from it.
-/

namespace PnetManager.DeviceLifecycle
open IoDeviceApp Runs

variable {build : Build} {W : Type} (stack : PnetStack build W)

def after (s : IoDevice × W) (calls : List Call) : IoDevice × W :=
  run (fun s c => (c.exec stack s).2) s calls

def returns (s : IoDevice × W) : List Call → List (Call × ℤ)
  | [] => []
  | c :: cs => (c, (c.exec stack s).1) :: returns (c.exec stack s).2 cs

/-- Successful ticks since the last init or cleanup; a successful stop has
cleaned up, a refused init or stop has not. -/
def countTick (n : ℕ) : Call × ℤ → ℕ
  | (.tick, ret) => if ret = 0 then n + 1 else n
  | (.init _, ret) => if ret = 0 then 0 else n
  | (.stop, ret) => if ret = 0 then 0 else n
  | (.cleanup, _) => 0
  | _ => n

def ticksSinceReset (h : List (Call × ℤ)) : ℕ := h.foldl countTick 0

def IsLive (dev : IoDevice) : Prop := dev.state = .connected ∨ dev.state = .running

structure Consistent (dev : IoDevice) : Prop where
  live : IsLive dev → dev.pnetHandle ≠ none
  rest : dev.state = .idle ∨ dev.state = .initialized →
    dev.pnetHandle = none ∧ dev.activeArep = 0

def resets : Call → Bool
  | .init _ | .stop | .cleanup => true
  | _ => false

theorem ioDeviceStart_cases (dev : IoDevice) (w : W) :
    let r := ioDeviceStart stack dev w
    dev.state ≠ .initialized ∧ r.1 = -1 ∧ r.2.1 = dev ∨
    dev.state = .initialized ∧ r.1 = -1 ∧
      (∃ h, r.2.1 = { dev with pnetHandle := h, state := .error }) ∨
    dev.state = .initialized ∧ r.1 = 0 ∧
      ∃ net, r.2.1 = { dev with pnetHandle := some net, state := .connected } := by
  rw [ioDeviceStart]
  by_cases hs : dev.state = .initialized
  · rcases hi : stack.pnetInit (pnetCfgOf build dev.config) w with ⟨_ | net, w'⟩
    · exact Or.inr (Or.inl ⟨hs, by simp [hs], none, by simp [hs]⟩)
    · by_cases hp : (plugAllModules stack net w').1 = 0
      · exact Or.inr (Or.inr ⟨hs, by simp [hs, hp], net, by simp [hs, hp]⟩)
      · exact Or.inr (Or.inl ⟨hs, by simp [hs, hp], some net, by simp [hs, hp]⟩)
  · exact Or.inl ⟨hs, by simp [hs], by simp [hs]⟩

theorem ioDeviceTick_cases (dev : IoDevice) (w : W) :
    let r := ioDeviceTick stack dev w
    (dev.pnetHandle = none ∨ dev.state = .error) ∧ r.1 = -1 ∧ r.2.1 = dev ∨
    dev.pnetHandle ≠ none ∧ dev.state ≠ .error ∧ r.1 = 0 ∧
      ∃ es, r.2.1 = { deliver dev es with cycleCount := dev.cycleCount + 1 } := by
  rw [ioDeviceTick]
  cases hh : dev.pnetHandle with
  | none => exact Or.inl ⟨Or.inl rfl, rfl, rfl⟩
  | some net =>
    by_cases hs : dev.state = .error
    · exact Or.inl ⟨Or.inr hs, by simp [hs], by simp [hs]⟩
    · refine Or.inr ⟨by simp, hs, by simp [hs], (stack.pnetHandlePeriodic net w).1, ?_⟩
      obtain ⟨st, arep, hd, -⟩ := deliver_cases dev (stack.pnetHandlePeriodic net w).1
      simp [hs, hd]

theorem ioDeviceStop_cases (dev : IoDevice) (w : W) :
    let r := ioDeviceStop stack dev w
    dev.pnetHandle = none ∧ r.1 = -1 ∧ r.2.1 = dev ∨
    dev.pnetHandle ≠ none ∧ r.1 = 0 ∧ r.2.1 = IoDevice.zeroed := by
  rw [ioDeviceStop]
  cases hh : dev.pnetHandle with
  | none => exact Or.inl ⟨rfl, rfl, rfl⟩
  | some net => exact Or.inr ⟨by simp, rfl, rfl⟩

theorem ioDeviceUpdateInput_cases (dev : IoDevice) (data : Option CText.Text) (len : UInt16)
    (w : W) : ∃ buf size, (ioDeviceUpdateInput stack dev data len w).2.1 =
      { dev with inputData := buf, inputSize := size } := by
  simp only [ioDeviceUpdateInput]
  split
  · split_ifs
    · exact ⟨dev.inputData, dev.inputSize, rfl⟩
    · exact ⟨_, _, rfl⟩
  · exact ⟨dev.inputData, dev.inputSize, rfl⟩

theorem ioDeviceReadOutput_cases (dev : IoDevice) (data : Option CText.Text)
    (len : Option UInt16) (w : W) : ∃ buf size, (ioDeviceReadOutput stack dev data len w).2.1 =
      { dev with outputData := buf, outputSize := size } := by
  unfold ioDeviceReadOutput
  split
  · dsimp only
    split_ifs
    · exact ⟨_, _, rfl⟩
    · exact ⟨dev.outputData, dev.outputSize, rfl⟩
  · exact ⟨dev.outputData, dev.outputSize, rfl⟩

theorem zeroed_consistent : Consistent IoDevice.zeroed :=
  ⟨by simp [IsLive, IoDevice.zeroed], by simp [IoDevice.zeroed]⟩

theorem Consistent.live_iff {dev : IoDevice} (h : Consistent dev) :
    IsLive dev ↔ dev.pnetHandle ≠ none ∧ dev.state ≠ .error := by
  constructor
  · intro hl
    refine ⟨h.live hl, fun he => ?_⟩
    rcases hl with hc | hc <;> simp [hc] at he
  · intro hready
    obtain ⟨hh, he⟩ := hready
    cases hs : dev.state with
    | idle => exact absurd (h.rest (Or.inl hs)).1 hh
    | initialized => exact absurd (h.rest (Or.inr hs)).1 hh
    | connected => exact Or.inl hs
    | running => exact Or.inr hs
    | error => exact absurd hs he

theorem deliver_live {dev : IoDevice} (h : IsLive dev) (es : List StateEvent) :
    IsLive (deliver dev es) := by
  obtain ⟨st, arep, hd, hst⟩ := deliver_cases dev es
  rw [hd]
  rcases hst with rfl | rfl | rfl
  · exact h
  · exact Or.inl rfl
  · exact Or.inr rfl

theorem deliver_pnetHandle (dev : IoDevice) (es : List StateEvent) :
    (deliver dev es).pnetHandle = dev.pnetHandle := by
  obtain ⟨st, arep, hd, -⟩ := deliver_cases dev es
  rw [hd]

theorem consistent_of_live {dev : IoDevice} (hl : IsLive dev) (hh : dev.pnetHandle ≠ none) :
    Consistent dev := by
  refine ⟨fun _ => hh, fun hr => ?_⟩
  rcases hl with hl | hl <;> simp [hl] at hr

theorem Consistent.congr {dev dev' : IoDevice} (h : Consistent dev)
    (hs : dev'.state = dev.state) (hh : dev'.pnetHandle = dev.pnetHandle)
    (ha : dev'.activeArep = dev.activeArep) : Consistent dev' := by
  refine ⟨fun hl => ?_, fun hr => ?_⟩
  · rw [hh]
    exact h.live (by simpa [IsLive, hs] using hl)
  · rw [hh, ha]
    exact h.rest (by simpa [hs] using hr)

theorem ioDeviceTick_ret {dev : IoDevice} (h : Consistent dev) (w : W) :
    (ioDeviceTick stack dev w).1 = 0 ↔ IsLive dev := by
  rw [h.live_iff]
  rcases ioDeviceTick_cases stack dev w with ⟨hno, hret, -⟩ | ⟨hh, hs, hret, -⟩
  · rw [hret]
    rcases hno with hno | hno <;> simp [hno]
  · simp [hret, hh, hs]

theorem exec_consistent {s : IoDevice × W} (h : Consistent s.1) (c : Call) :
    Consistent (c.exec stack s).2.1 := by
  obtain ⟨dev, w⟩ := s
  cases c with
  | init cfg =>
    cases cfg with
    | none => exact h
    | some cfg =>
      exact ⟨by simp [IsLive, Call.exec, ioDeviceInit], fun _ => ⟨rfl, rfl⟩⟩
  | start =>
    rcases ioDeviceStart_cases stack dev w with ⟨-, -, hd⟩ | ⟨-, -, p, hd⟩ | ⟨-, -, net, hd⟩ <;>
      simp only [Call.exec, hd]
    · exact h
    · exact ⟨by simp [IsLive], by simp⟩
    · exact ⟨by simp, by simp⟩
  | tick =>
    rcases ioDeviceTick_cases stack dev w with ⟨-, -, hd⟩ | ⟨hh, hs, -, es, hd⟩ <;>
      simp only [Call.exec, hd]
    · exact h
    · have hl := deliver_live (h.live_iff.mpr ⟨hh, hs⟩) es
      exact consistent_of_live hl (by simpa [deliver_pnetHandle] using hh)
  | stop =>
    rcases ioDeviceStop_cases stack dev w with ⟨-, -, hd⟩ | ⟨-, -, hd⟩ <;>
      simp only [Call.exec, hd]
    · exact h
    · exact zeroed_consistent
  | cleanup => exact zeroed_consistent
  | updateInput data len =>
    obtain ⟨buf, size, hd⟩ := ioDeviceUpdateInput_cases stack dev data len w
    simp only [Call.exec, hd]
    exact h.congr rfl rfl rfl
  | readOutput data len =>
    obtain ⟨buf, size, hd⟩ := ioDeviceReadOutput_cases stack dev data len w
    simp only [Call.exec, hd]
    exact h.congr rfl rfl rfl

theorem after_consistent {s : IoDevice × W} (h : Consistent s.1) (calls : List Call) :
    Consistent (after stack s calls).1 :=
  run_invariant (P := fun s : IoDevice × W => Consistent s.1)
    (fun _ c hs => exec_consistent stack hs c) h calls

theorem exec_leaves_error {s : IoDevice × W} (hs : s.1.state = .error) {c : Call}
    (hne : (c.exec stack s).2.1.state ≠ .error) :
    (∃ cfg, c = .init cfg) ∨ c = .cleanup ∨ c = .stop ∧ s.1.pnetHandle ≠ none := by
  obtain ⟨dev, w⟩ := s
  replace hs : dev.state = .error := hs
  cases c with
  | init cfg => exact Or.inl ⟨cfg, rfl⟩
  | cleanup => exact Or.inr (Or.inl rfl)
  | stop =>
    rcases ioDeviceStop_cases stack dev w with ⟨-, -, hd⟩ | ⟨hh, -, -⟩
    · simp [Call.exec, hd, hs] at hne
    · exact Or.inr (Or.inr ⟨rfl, hh⟩)
  | start =>
    rcases ioDeviceStart_cases stack dev w with ⟨-, -, hd⟩ | ⟨hi, -⟩ | ⟨hi, -⟩
    · simp [Call.exec, hd, hs] at hne
    · simp [hs] at hi
    · simp [hs] at hi
  | tick =>
    rcases ioDeviceTick_cases stack dev w with ⟨-, -, hd⟩ | ⟨-, hn, -⟩
    · simp [Call.exec, hd, hs] at hne
    · exact absurd hs hn
  | updateInput data len =>
    obtain ⟨buf, size, hd⟩ := ioDeviceUpdateInput_cases stack dev data len w
    simp [Call.exec, hd, hs] at hne
  | readOutput data len =>
    obtain ⟨buf, size, hd⟩ := ioDeviceReadOutput_cases stack dev data len w
    simp [Call.exec, hd, hs] at hne

theorem exec_cycleCount {s : IoDevice × W} {n : ℕ} (hn : s.1.cycleCount = UInt64.ofNat n)
    (c : Call) : (c.exec stack s).2.1.cycleCount =
      UInt64.ofNat (countTick n (c, (c.exec stack s).1)) := by
  obtain ⟨dev, w⟩ := s
  replace hn : dev.cycleCount = UInt64.ofNat n := hn
  cases c with
  | init cfg => cases cfg <;> simp [Call.exec, ioDeviceInit, countTick, hn]
  | start =>
    rcases ioDeviceStart_cases stack dev w with ⟨-, -, hd⟩ | ⟨-, -, p, hd⟩ | ⟨-, -, net, hd⟩ <;>
      simp [Call.exec, hd, countTick, hn]
  | tick =>
    rcases ioDeviceTick_cases stack dev w with ⟨-, hret, hd⟩ | ⟨-, -, hret, es, hd⟩
    · simp [Call.exec, hret, hd, countTick, hn]
    · simp [Call.exec, hret, hd, countTick, hn, UInt64.ofNat_add]
  | stop =>
    rcases ioDeviceStop_cases stack dev w with ⟨-, hret, hd⟩ | ⟨-, hret, hd⟩ <;>
      simp [Call.exec, hret, hd, countTick, hn, IoDevice.zeroed]
  | cleanup => simp [Call.exec, ioDeviceCleanup, countTick, IoDevice.zeroed]
  | updateInput data len =>
    obtain ⟨buf, size, hd⟩ := ioDeviceUpdateInput_cases stack dev data len w
    simp [Call.exec, hd, countTick, hn]
  | readOutput data len =>
    obtain ⟨buf, size, hd⟩ := ioDeviceReadOutput_cases stack dev data len w
    simp [Call.exec, hd, countTick, hn]

theorem after_cycleCount {s : IoDevice × W} {n : ℕ} (hn : s.1.cycleCount = UInt64.ofNat n)
    (calls : List Call) : (after stack s calls).1.cycleCount =
      UInt64.ofNat ((returns stack s calls).foldl countTick n) := by
  induction calls generalizing s n with
  | nil => exact hn
  | cons c cs ih => exact ih (exec_cycleCount stack hn c)

theorem exec_keeps_live {s : IoDevice × W} (h : Consistent s.1 ∧ IsLive s.1) {c : Call}
    (hc : resets c = false) : Consistent (c.exec stack s).2.1 ∧ IsLive (c.exec stack s).2.1 := by
  refine ⟨exec_consistent stack h.1 c, ?_⟩
  obtain ⟨dev, w⟩ := s
  obtain ⟨-, hl⟩ := h
  cases c with
  | init cfg => simp [resets] at hc
  | stop => simp [resets] at hc
  | cleanup => simp [resets] at hc
  | start =>
    rcases ioDeviceStart_cases stack dev w with ⟨-, -, hd⟩ | ⟨hi, -⟩ | ⟨hi, -⟩
    · simpa [Call.exec, hd] using hl
    · rcases hl with hl | hl <;> simp [hi] at hl
    · rcases hl with hl | hl <;> simp [hi] at hl
  | tick =>
    rcases ioDeviceTick_cases stack dev w with ⟨-, -, hd⟩ | ⟨-, -, -, es, hd⟩
    · simpa [Call.exec, hd] using hl
    · simpa [Call.exec, hd, IsLive] using deliver_live hl es
  | updateInput data len =>
    obtain ⟨buf, size, hd⟩ := ioDeviceUpdateInput_cases stack dev data len w
    simpa [Call.exec, hd, IsLive] using hl
  | readOutput data len =>
    obtain ⟨buf, size, hd⟩ := ioDeviceReadOutput_cases stack dev data len w
    simpa [Call.exec, hd, IsLive] using hl

theorem tick_after_start {s : IoDevice × W} (h : Consistent s.1)
    (hstart : (Call.start.exec stack s).1 = 0) {ops : List Call}
    (hops : ∀ c ∈ ops, resets c = false) :
    (Call.tick.exec stack (after stack (Call.start.exec stack s).2 ops)).1 = 0 := by
  have hlive : IsLive (Call.start.exec stack s).2.1 := by
    obtain ⟨dev, w⟩ := s
    rcases ioDeviceStart_cases stack dev w with ⟨-, hr, -⟩ | ⟨-, hr, -⟩ | ⟨-, -, net, hd⟩
    · simp [Call.exec, hr] at hstart
    · simp [Call.exec, hr] at hstart
    · simp [Call.exec, hd, IsLive]
  have hend : Consistent (after stack (Call.start.exec stack s).2 ops).1 ∧
      IsLive (after stack (Call.start.exec stack s).2 ops).1 :=
    run_invariant_of_mem (P := fun s : IoDevice × W => Consistent s.1 ∧ IsLive s.1)
      (fun _ c hc hs => exec_keeps_live stack hs (hops c hc))
      ⟨exec_consistent stack h .start, hlive⟩
  exact (ioDeviceTick_ret stack hend.1 _).mpr hend.2

/-- The lifecycle of a device that starts zeroed, over every sequence of calls. -/
theorem lifecycle (w : W) (calls : List Call) :
    let s := after stack (IoDevice.zeroed, w) calls
    (s.1.state = .connected ∨ s.1.state = .running → s.1.pnetHandle ≠ none) ∧
    (s.1.state = .idle ∨ s.1.state = .initialized →
      s.1.pnetHandle = none ∧ s.1.activeArep = 0) ∧
    ((Call.tick.exec stack s).1 = 0 ↔ s.1.state = .connected ∨ s.1.state = .running) ∧
    (∀ c : Call, s.1.state = .error → (c.exec stack s).2.1.state ≠ .error →
      (∃ cfg, c = .init cfg) ∨ c = .cleanup ∨ c = .stop ∧ s.1.pnetHandle ≠ none) ∧
    s.1.cycleCount =
      UInt64.ofNat (ticksSinceReset (returns stack (IoDevice.zeroed, w) calls)) ∧
    (∀ ops : List Call, (Call.start.exec stack s).1 = 0 → (∀ c ∈ ops, resets c = false) →
      (Call.tick.exec stack (after stack (Call.start.exec stack s).2 ops)).1 = 0) := by
  have h : Consistent (after stack (IoDevice.zeroed, w) calls).1 :=
    after_consistent stack zeroed_consistent calls
  refine ⟨h.live, h.rest, ioDeviceTick_ret stack h _, ?_, ?_, ?_⟩
  · exact fun c hs hne => exec_leaves_error stack hs hne
  · exact after_cycleCount stack (s := (IoDevice.zeroed, w)) (n := 0) rfl calls
  · exact fun ops hstart hops => tick_after_start stack h hstart hops

end PnetManager.DeviceLifecycle
