import PnetManager.ByteOrder
import PnetManager.InterfaceNames
import PnetManager.ManagerEffects
import PnetManager.StackConfig

/-!
# How the stack is called

The calls that reach the p-net stack, in their order. Whatever the callers of a device
do, a stack is plugged right after it was opened, ticked only when all its modules are
in, and not called any more once it was reset. The calls of `main` are known one by one.
-/

namespace PnetManager.StackProtocol
open CText Word32 SystemCalls IoDeviceApp NetworkConfig NetworkSteps InterfaceNames StackConfig
  DeviceLifecycle StackLedger CommandLine Runs MockStack Manager SteadyLoop ManagerRun
  ManagerEffects ConfigFile ByteOrder

set_option maxRecDepth 2000

variable {build : Build} {W : Type}

inductive StackCall (build : Build)
  | init (cfg : PnetCfg build) (answer : Option PnetHandle)
  | plug (net : PnetHandle) (c : PlugCall) (ret : ℤ)
  | handlePeriodic (net : PnetHandle)
  | factoryReset (net : PnetHandle)
  | inputSetData (net : PnetHandle)
  | outputGetData (net : PnetHandle)

def traced (stack : PnetStack build W) : PnetStack build (W × List (StackCall build)) where
  pnetInit cfg s :=
    let (net, w) := stack.pnetInit cfg s.1
    (net, w, s.2 ++ [.init cfg net])
  pnetPlug net c s :=
    let (ret, w) := stack.pnetPlug net c s.1
    (ret, w, s.2 ++ [.plug net c ret])
  pnetHandlePeriodic net s :=
    let (es, w) := stack.pnetHandlePeriodic net s.1
    (es, w, s.2 ++ [.handlePeriodic net])
  pnetFactoryReset net s :=
    let (ret, es, w) := stack.pnetFactoryReset net s.1
    (ret, es, w, s.2 ++ [.factoryReset net])
  pnetInputSetDataAndIops net api slot subslot data len iops s :=
    let (ret, w) := stack.pnetInputSetDataAndIops net api slot subslot data len iops s.1
    (ret, w, s.2 ++ [.inputSetData net])
  pnetOutputGetDataAndIops net api slot subslot data len s :=
    let (answer, w) := stack.pnetOutputGetDataAndIops net api slot subslot data len s.1
    (answer, w, s.2 ++ [.outputGetData net])

def plugged (net : PnetHandle) (cs : List PlugCall) : List (StackCall build) :=
  cs.map fun c => .plug net c 0

def PluggedUpTo (net : PnetHandle) (cs : List PlugCall) (calls : List (StackCall build)) : Prop :=
  ∃ before c behind ret, cs = before ++ c :: behind ∧ ret ≠ 0 ∧
    calls = plugged net before ++ [.plug net c ret]

theorem plugAll_traced (stack : PnetStack build W) (net : PnetHandle) (cs : List PlugCall)
    (w : W) (trace : List (StackCall build)) :
    let r := plugAll (traced stack) net cs (w, trace)
    r.1 = 0 ∧ r.2.2 = trace ++ plugged net cs ∨
      r.1 ≠ 0 ∧ ∃ calls, PluggedUpTo net cs calls ∧ r.2.2 = trace ++ calls := by
  induction cs generalizing w trace with
  | nil => exact Or.inl ⟨rfl, (List.append_nil trace).symm⟩
  | cons c cs ih =>
    have hplug : (traced stack).pnetPlug net c (w, trace) =
        ((stack.pnetPlug net c w).1, (stack.pnetPlug net c w).2,
          trace ++ [.plug net c (stack.pnetPlug net c w).1]) := rfl
    rcases hanswer : stack.pnetPlug net c w with ⟨ret, w'⟩
    rw [hanswer] at hplug
    by_cases hret : ret = 0
    · subst hret
      have hnext : plugAll (traced stack) net (c :: cs) (w, trace) =
          plugAll (traced stack) net cs (w', trace ++ [.plug net c 0]) := by
        simp [plugAll, hplug]
      rw [hnext]
      rcases ih w' (trace ++ [.plug net c 0]) with ⟨hzero, htrace⟩ | ⟨hne, calls, hupTo, htrace⟩
      · left
        exact ⟨hzero, by rw [htrace, List.append_assoc]; rfl⟩
      · right
        obtain ⟨before, d, behind, ret, rfl, hret, rfl⟩ := hupTo
        refine ⟨hne, _, ⟨c :: before, d, behind, ret, rfl, hret, rfl⟩, ?_⟩
        rw [htrace, List.append_assoc]
        rfl
    · right
      have hends : plugAll (traced stack) net (c :: cs) (w, trace) =
          (ret, w', trace ++ [.plug net c ret]) := by
        simp [plugAll, hplug, hret]
      rw [hends]
      exact ⟨hret, _, ⟨[], c, cs, ret, rfl, hret, rfl⟩, rfl⟩

theorem ioDeviceStart_traced (stack : PnetStack build W) {dev : IoDevice}
    (hstate : dev.state = .initialized) (w : W) (trace : List (StackCall build)) :
    let cfg := pnetCfgOf build dev.config
    let r := ioDeviceStart (traced stack) dev (w, trace)
    r.1 = -1 ∧ r.2.1 = { dev with pnetHandle := none, state := .error } ∧
        r.2.2.2 = trace ++ [.init cfg none] ∨
      ∃ net, (r.1 = -1 ∧ r.2.1 = { dev with pnetHandle := some net, state := .error } ∧
          ∃ calls, PluggedUpTo net plugCalls calls ∧
            r.2.2.2 = trace ++ .init cfg (some net) :: calls) ∨
        r.1 = 0 ∧ r.2.1 = { dev with pnetHandle := some net, state := .connected } ∧
          r.2.2.2 = trace ++ .init cfg (some net) :: plugged net plugCalls := by
  intro cfg r
  have hinit : (traced stack).pnetInit cfg (w, trace) = ((stack.pnetInit cfg w).1,
      (stack.pnetInit cfg w).2, trace ++ [.init cfg (stack.pnetInit cfg w).1]) := rfl
  rcases hanswer : stack.pnetInit cfg w with ⟨_ | net, w'⟩
  · rw [hanswer] at hinit
    have hr : r = (-1, { dev with pnetHandle := none, state := .error }, w',
        trace ++ [.init cfg none]) := by
      simp [r, cfg, ioDeviceStart, hstate, hinit]
    rw [hr]
    exact Or.inl ⟨rfl, rfl, rfl⟩
  · rw [hanswer] at hinit
    right
    refine ⟨net, ?_⟩
    rcases hplug : plugAll (traced stack) net plugCalls (w', trace ++ [.init cfg (some net)])
      with ⟨ret, w'', trace'⟩
    have hcalls := plugAll_traced stack net plugCalls w' (trace ++ [.init cfg (some net)])
    rw [hplug] at hcalls
    rcases hcalls with ⟨hzero, htrace⟩ | ⟨hne, calls, hupTo, htrace⟩
    · right
      have hr : r = (0, { dev with pnetHandle := some net, state := .connected }, w'', trace') := by
        simp [r, cfg, ioDeviceStart, hstate, hinit, plugAllModules, hplug, show ret = 0 from hzero]
      rw [hr]
      exact ⟨rfl, rfl, htrace.trans (List.append_assoc ..)⟩
    · left
      have hr : r = (-1, { dev with pnetHandle := some net, state := .error }, w'', trace') := by
        simp [r, cfg, ioDeviceStart, hstate, hinit, plugAllModules, hplug, show ret ≠ 0 from hne]
      rw [hr]
      exact ⟨rfl, rfl, calls, hupTo, htrace.trans (List.append_assoc ..)⟩

/-- What the calls so far have made of the stack. -/
inductive Session
  | closed
  | opened (net : PnetHandle) (missing : List PlugCall)
  | broken (net : PnetHandle)

def Session.settled : Session → Option PnetHandle
  | .opened net [] => some net
  | .broken net => some net
  | _ => none

def Session.accept : Session → StackCall build → Option Session
  | .opened _ (_ :: _), .init _ _ => none
  | _, .init _ none => some .closed
  | _, .init _ (some net) => some (.opened net plugCalls)
  | .opened net (c :: missing), .plug net' c' ret =>
    if net' = net ∧ c' = c then some (if ret = 0 then .opened net missing else .broken net)
    else none
  | .opened net [], .handlePeriodic net' => if net' = net then some (.opened net []) else none
  | s, .factoryReset net => if s.settled = some net then some .closed else none
  | s, .inputSetData net => if s.settled = some net then some s else none
  | s, .outputGetData net => if s.settled = some net then some s else none
  | _, _ => none

def follow (s : Session) (calls : List (StackCall build)) : Option Session :=
  calls.foldlM Session.accept s

theorem follow_append (s : Session) (calls more : List (StackCall build)) :
    follow s (calls ++ more) = (follow s calls).bind fun t => follow t more :=
  List.foldlM_append ..

theorem follow_plugged (net : PnetHandle) (cs missing : List PlugCall) :
    follow (.opened net (cs ++ missing)) (plugged net cs : List (StackCall build)) =
      some (.opened net missing) := by
  induction cs with
  | nil => rfl
  | cons c cs ih =>
    have haccept : Session.accept (.opened net (c :: (cs ++ missing)))
        (.plug net c 0 : StackCall build) = some (.opened net (cs ++ missing)) := by
      simp [Session.accept]
    rw [plugged, List.map_cons, follow, List.cons_append, List.foldlM_cons, haccept]
    exact ih

theorem follow_pluggedUpTo {net : PnetHandle} {cs : List PlugCall}
    {calls : List (StackCall build)} (h : PluggedUpTo net cs calls) :
    follow (.opened net cs) calls = some (.broken net) := by
  obtain ⟨before, c, behind, ret, rfl, hret, rfl⟩ := h
  rw [follow_append, follow_plugged, Option.bind_some, follow, List.foldlM_cons]
  simp [Session.accept, hret]

/-- How the device and the stack stand to each other between two calls. -/
structure Fits (dev : IoDevice) (s : Session) : Prop where
  between : ∀ net c missing, s ≠ .opened net (c :: missing)
  handle : ∀ net, dev.pnetHandle = some net →
    s = if dev.state = .error then .broken net else .opened net []

def Keeps (s : IoDevice × W × List (StackCall build)) : Prop :=
  ∃ session, follow .closed s.2.2 = some session ∧ Fits s.1 session

theorem Fits.settled {dev : IoDevice} {s : Session} (h : Fits dev s) {net : PnetHandle}
    (hnet : dev.pnetHandle = some net) : s.settled = some net := by
  rw [h.handle net hnet]
  split_ifs <;> rfl

theorem Fits.of_none {dev dev' : IoDevice} {s : Session} (h : Fits dev s)
    (hnone : dev'.pnetHandle = none) : Fits dev' s where
  between := h.between
  handle := by simp [hnone]

theorem Fits.of_same {dev dev' : IoDevice} {s : Session} (h : Fits dev s)
    (hsame : dev'.pnetHandle = dev.pnetHandle ∧ dev'.state = dev.state) : Fits dev' s where
  between := h.between
  handle := by
    rw [hsame.1, hsame.2]
    exact h.handle

theorem fits_closed {dev : IoDevice} (hnone : dev.pnetHandle = none) : Fits dev .closed where
  between := by simp
  handle := by simp [hnone]

theorem accept_of_settled {s : Session} {net : PnetHandle} (h : s.settled = some net) :
    s.accept (.inputSetData net : StackCall build) = some s ∧
      s.accept (.outputGetData net : StackCall build) = some s ∧
      s.accept (.factoryReset net : StackCall build) = some .closed := by
  cases s with
  | closed => simp [Session.settled] at h
  | opened net' missing =>
    cases missing with
    | nil => simp [Session.accept, h]
    | cons c missing => simp [Session.settled] at h
  | broken net' => simp [Session.accept, h]

theorem Keeps.call {dev dev' : IoDevice} {w w' : W} {trace : List (StackCall build)}
    (h : Keeps (dev, w, trace)) {call : StackCall build}
    (hcall : ∀ s, Fits dev s → ∃ s', s.accept call = some s' ∧ Fits dev' s') :
    Keeps (dev', w', trace ++ [call]) := by
  obtain ⟨s, hfollow, hfits⟩ := h
  obtain ⟨s', haccept, hfits'⟩ := hcall s hfits
  refine ⟨s', ?_, hfits'⟩
  rw [follow_append, hfollow, Option.bind_some, follow, List.foldlM_cons, haccept]
  rfl

theorem Keeps.of_none {dev dev' : IoDevice} {w w' : W} {trace : List (StackCall build)}
    (h : Keeps (dev, w, trace)) (hnone : dev'.pnetHandle = none) : Keeps (dev', w', trace) := by
  obtain ⟨s, hfollow, hfits⟩ := h
  exact ⟨s, hfollow, hfits.of_none hnone⟩

theorem Fits.accept_init {dev : IoDevice} {s : Session} (h : Fits dev s) (cfg : PnetCfg build)
    (answer : Option PnetHandle) :
    s.accept (.init cfg answer) =
      some (match answer with
        | none => .closed
        | some net => .opened net plugCalls) := by
  cases s with
  | opened net missing =>
    cases missing with
    | nil => cases answer <;> rfl
    | cons c missing => exact absurd rfl (h.between net c missing)
  | closed => cases answer <;> rfl
  | broken net => cases answer <;> rfl

theorem Keeps.start (stack : PnetStack build W) {dev : IoDevice} {w : W}
    {trace : List (StackCall build)} (h : Keeps (dev, w, trace)) :
    Keeps (ioDeviceStart (traced stack) dev (w, trace)).2 := by
  by_cases hstate : dev.state = .initialized
  · obtain ⟨s, hfollow, hfits⟩ := h
    have hinit (answer : Option PnetHandle) (calls : List (StackCall build)) :
        follow .closed (trace ++ .init (pnetCfgOf build dev.config) answer :: calls) =
          follow (match answer with
            | none => .closed
            | some net => .opened net plugCalls) calls := by
      rw [follow_append, hfollow, Option.bind_some, follow, List.foldlM_cons, hfits.accept_init]
      rfl
    rcases ioDeviceStart_traced stack hstate w trace with ⟨-, hdev, htrace⟩ |
      ⟨net, ⟨-, hdev, calls, hupTo, htrace⟩ | ⟨-, hdev, htrace⟩⟩
    · refine ⟨.closed, ?_, ?_⟩
      · rw [htrace, hinit]
        rfl
      · rw [hdev]
        exact fits_closed rfl
    · refine ⟨.broken net, ?_, ?_⟩
      · rw [htrace, hinit]
        exact follow_pluggedUpTo hupTo
      · rw [hdev]
        exact ⟨by simp, by simp⟩
    · refine ⟨.opened net [], ?_, ?_⟩
      · rw [htrace, hinit]
        exact follow_plugged net plugCalls []
      · rw [hdev]
        exact ⟨by simp, by simp⟩
  · have hsame : (ioDeviceStart (traced stack) dev (w, trace)).2 = (dev, w, trace) := by
      rw [ioDeviceStart, if_pos hstate]
    rw [hsame]
    exact h

theorem Keeps.tick (stack : PnetStack build W) {dev : IoDevice} {w : W}
    {trace : List (StackCall build)} (h : Keeps (dev, w, trace)) :
    Keeps (ioDeviceTick (traced stack) dev (w, trace)).2 := by
  rw [ioDeviceTick]
  cases hnet : dev.pnetHandle with
  | none => exact h
  | some net =>
    by_cases hstate : dev.state = .error
    · dsimp only
      rw [if_pos hstate]
      exact h
    · dsimp only
      rw [if_neg hstate]
      refine h.call fun s hfits => ?_
      have hs := hfits.handle net hnet
      rw [if_neg hstate] at hs
      obtain ⟨st, arep, hdeliver, hst⟩ := deliver_cases dev (stack.pnetHandlePeriodic net w).1
      have hready : st ≠ .error := by
        rcases hst with rfl | rfl | rfl
        · exact hstate
        · decide
        · decide
      refine ⟨.opened net [], ?_, by simp, ?_⟩
      · rw [hs]
        simp [Session.accept]
      · have hpoll : (traced stack).pnetHandlePeriodic net (w, trace) =
            ((stack.pnetHandlePeriodic net w).1, (stack.pnetHandlePeriodic net w).2,
              trace ++ [.handlePeriodic net]) := rfl
        simp [hpoll, hdeliver, hnet, hready]

theorem Keeps.stop (stack : PnetStack build W) {dev : IoDevice} {w : W}
    {trace : List (StackCall build)} (h : Keeps (dev, w, trace)) :
    Keeps (ioDeviceStop (traced stack) dev (w, trace)).2 := by
  rw [ioDeviceStop]
  cases hnet : dev.pnetHandle with
  | none => exact h
  | some net =>
    exact h.call fun s hfits =>
      ⟨.closed, (accept_of_settled (hfits.settled hnet)).2.2, fits_closed rfl⟩

theorem Keeps.updateInput (stack : PnetStack build W) {dev : IoDevice} {w : W}
    {trace : List (StackCall build)} (h : Keeps (dev, w, trace)) (data : Option Text)
    (len : UInt16) : Keeps (ioDeviceUpdateInput (traced stack) dev data len (w, trace)).2 := by
  cases hnet : dev.pnetHandle with
  | none => simpa only [ioDeviceUpdateInput, hnet] using h
  | some net =>
    cases data with
    | none => simpa only [ioDeviceUpdateInput, hnet] using h
    | some data =>
      simp only [ioDeviceUpdateInput, hnet]
      split_ifs
      · exact h
      · refine h.call fun s hfits => ⟨s, (accept_of_settled (hfits.settled hnet)).1, ?_⟩
        exact hfits.of_same ⟨hnet.symm, rfl⟩

theorem Keeps.readOutput (stack : PnetStack build W) {dev : IoDevice} {w : W}
    {trace : List (StackCall build)} (h : Keeps (dev, w, trace)) (data : Option Text)
    (len : Option UInt16) :
    Keeps ((ioDeviceReadOutput (traced stack) dev data len (w, trace)).2.1,
      (ioDeviceReadOutput (traced stack) dev data len (w, trace)).2.2.2.2) := by
  cases hnet : dev.pnetHandle with
  | none => simpa only [ioDeviceReadOutput, hnet] using h
  | some net =>
    cases data with
    | none => simpa only [ioDeviceReadOutput, hnet] using h
    | some data =>
      cases len with
      | none => simpa only [ioDeviceReadOutput, hnet] using h
      | some len =>
        simp only [ioDeviceReadOutput, hnet]
        split_ifs
        · refine h.call fun s hfits => ⟨s, (accept_of_settled (hfits.settled hnet)).2.1, ?_⟩
          exact hfits.of_same ⟨hnet.symm, rfl⟩
        · refine h.call fun s hfits => ⟨s, (accept_of_settled (hfits.settled hnet)).2.1, ?_⟩
          exact hfits

theorem Keeps.exec (stack : PnetStack build W) {s : IoDevice × W × List (StackCall build)}
    (h : Keeps s) (c : Call) : Keeps (c.exec (traced stack) s).2 := by
  obtain ⟨dev, w, trace⟩ := s
  cases c with
  | init cfg =>
    cases cfg with
    | none => exact h
    | some cfg => exact h.of_none rfl
  | start => exact h.start stack
  | tick => exact h.tick stack
  | stop => exact h.stop stack
  | cleanup => exact h.of_none rfl
  | updateInput data len => exact h.updateInput stack data len
  | readOutput data len => exact h.readOutput stack data len

/-- Whatever is called on a device, in any order, and whatever the stack answers: every
stack is plugged at once and in the order of the modules, the first refused plug ends
the plugging, no stack is ticked that lacks a module, and none is called that was reset
or was given up for another one. -/
theorem calls_follow_protocol (stack : PnetStack build W) (w : W) (calls : List Call) :
    let s := after (traced stack) (IoDevice.zeroed, w, []) calls
    ∃ session, follow .closed s.2.2 = some session ∧ Fits s.1 session := by
  have hboot : Keeps (IoDevice.zeroed, w, ([] : List (StackCall build))) :=
    ⟨.closed, rfl, fits_closed rfl⟩
  exact run_invariant (P := Keeps) (fun s c h => h.exec stack c) hboot calls

theorem plugAllModules_ledgered (stack : PnetStack build W) (net : PnetHandle) (w : W)
    (opened : List PnetHandle) :
    plugAllModules (ledgered stack) net (w, opened) =
      ((plugAllModules stack net w).1, (plugAllModules stack net w).2, opened) :=
  plugAll_ledgered stack net plugCalls w opened

theorem ioDeviceStart_ledgered (stack : PnetStack build W) (dev : IoDevice) (w : W)
    (opened : List PnetHandle) :
    ∃ opened', ioDeviceStart (ledgered stack) dev (w, opened) =
      ((ioDeviceStart stack dev w).1, (ioDeviceStart stack dev w).2.1,
        (ioDeviceStart stack dev w).2.2, opened') := by
  by_cases hstate : dev.state = .initialized
  · have hinit : (ledgered stack).pnetInit (pnetCfgOf build dev.config) (w, opened) =
        ((stack.pnetInit (pnetCfgOf build dev.config) w).1,
          (stack.pnetInit (pnetCfgOf build dev.config) w).2,
          (stack.pnetInit (pnetCfgOf build dev.config) w).1.toList ++ opened) := rfl
    rcases hanswer : stack.pnetInit (pnetCfgOf build dev.config) w with ⟨_ | net, w'⟩
    · exact ⟨opened, by simp [ioDeviceStart, hstate, hinit, hanswer]⟩
    · refine ⟨net :: opened, ?_⟩
      simp only [ioDeviceStart, hstate, hinit, hanswer, plugAllModules_ledgered, ne_eq,
        not_true_eq_false, if_false]
      split_ifs <;> rfl
  · exact ⟨opened, by simp [ioDeviceStart, hstate]⟩

def StartCalls (cfg : PnetCfg build) (ret : ℤ) (net : Option PnetHandle)
    (calls : List (StackCall build)) : Prop :=
  ret = -1 ∧ net = none ∧ (calls = [.init cfg none] ∨
      ∃ net more, PluggedUpTo net plugCalls more ∧ calls = .init cfg (some net) :: more) ∨
    ret = 0 ∧ ∃ open', net = some open' ∧
      calls = .init cfg (some open') :: plugged open' plugCalls

theorem deviceInitAndStart_calls (stack : PnetStack build W) (cfg : IoDeviceCfg) (w : W) :
    let r := deviceInitAndStart (traced stack) cfg (bootProcess (w, []))
    StartCalls (pnetCfgOf build cfg) r.1 r.2.device.pnetHandle r.2.world.2 := by
  intro r
  have hstate : (ioDeviceInit .zeroed (some cfg)).2.state = .initialized := rfl
  have hcalls := ioDeviceStart_traced stack hstate w []
  obtain ⟨opened, hstart⟩ := ioDeviceStart_ledgered (traced stack)
    (ioDeviceInit .zeroed (some cfg)).2 (w, []) []
  rcases hstarted : ioDeviceStart (traced stack) (ioDeviceInit .zeroed (some cfg)).2 (w, [])
    with ⟨ret, dev, w', trace⟩
  rw [hstarted] at hcalls hstart
  have hr : r = if ret < 0 then (-1, ⟨.zeroed, (w', trace), opened⟩)
      else (0, ⟨dev, (w', trace), opened⟩) := by
    have hzero : ¬ (ioDeviceInit .zeroed (some cfg)).1 < 0 := lt_irrefl 0
    rw [show r = deviceInitAndStart (traced stack) cfg (bootProcess (w, [])) from rfl,
      deviceInitAndStart]
    dsimp only [bootProcess]
    rw [if_neg hzero, hstart]
    rfl
  rcases hcalls with ⟨hret, -, htrace⟩ |
    ⟨net, ⟨hret, -, more, hupTo, htrace⟩ | ⟨hret, hdev, htrace⟩⟩
  · rw [hr, if_pos (by rw [show ret = -1 from hret]; decide)]
    exact Or.inl ⟨rfl, rfl, Or.inl htrace⟩
  · rw [hr, if_pos (by rw [show ret = -1 from hret]; decide)]
    exact Or.inl ⟨rfl, rfl, Or.inr ⟨net, more, hupTo, htrace⟩⟩
  · rw [hr, if_neg (by rw [show ret = 0 from hret]; decide)]
    refine Or.inr ⟨rfl, net, ?_, htrace⟩
    exact congrArg IoDevice.pnetHandle hdev

theorem deviceTick_calls (stack : PnetStack build W) {net : PnetHandle} {k : ℕ}
    {p : Process (W × List (StackCall build))} (h : Ticked net k p) :
    (deviceTick (traced stack) p).2.world.2 = p.world.2 ++ [.handlePeriodic net] := by
  have hready : p.device.state ≠ .error := (h.consistent.live_iff.mp h.live).2
  simp only [deviceTick, ioDeviceTick, h.handle, hready, if_false]
  rfl

theorem production_calls {F : Type} (os : Platform F) (stack : PnetStack build W)
    (cfg : IoDeviceCfg) {net : PnetHandle} {p : Process (W × List (StackCall build))}
    (h : Ticked net 0 p) (nowUs n : ℕ) (log : List Text) :
    (production os (traced stack) cfg n ⟨ProductionLoop.loopEntry nowUs, p, log⟩).process.world.2 =
      p.world.2 ++ List.replicate n (.handlePeriodic net) := by
  induction n with
  | zero => exact (List.append_nil _).symm
  | succ n ih =>
    obtain ⟨hticked, -, -⟩ := production_ticked os cfg h nowUs n log
    rw [production] at hticked ih
    rw [production, Function.iterate_succ_apply', loopBody_ticked hticked]
    dsimp only
    rw [deviceTick_calls stack hticked, ih, List.append_assoc, List.replicate_succ']

theorem deviceStopAndCleanup_calls (stack : PnetStack build W) {net : PnetHandle}
    {p : Process (W × List (StackCall build))} (h : p.device.pnetHandle = some net) :
    (deviceStopAndCleanup (traced stack) p).world.2 = p.world.2 ++ [.factoryReset net] := by
  simp only [deviceStopAndCleanup, ioDeviceStop, h]
  rfl

theorem serve_trace {F : Type} (os : Platform F) (stack : PnetStack build W) (config : AppConfig)
    (nowUs n : ℕ) (w : W) (m : Machine F (W × List (StackCall build))) :
    let p := deviceInitAndStart (traced stack) config.device (bootProcess (w, []))
    let calls := (serve os (traced stack) config nowUs n (bootMachine (w, []) m)).2.process.world.2
    p.1 = -1 ∧ calls = p.2.world.2 ∨
      p.1 = 0 ∧ ∃ net, p.2.device.pnetHandle = some net ∧
        calls = p.2.world.2 ++ (List.replicate n (.handlePeriodic net) ++ [.factoryReset net]) := by
  rcases deviceInitAndStart_ret (traced stack) config.device (bootProcess (w, []))
    with hstart | ⟨hstart, -⟩
  · obtain ⟨net, -, hticked⟩ :=
      started_ticked (traced stack) config.device (p := bootProcess (w, [])) rfl hstart
    have hrun := production_calls os stack config.device hticked nowUs n
      (os.notify [readyMessage] m.notified)
    obtain ⟨hend, -, -⟩ := production_ticked os config.device hticked nowUs n
      (os.notify [readyMessage] m.notified)
    rw [← enterLoop] at hend hrun
    refine Or.inr ⟨hstart, net, hticked.handle, ?_⟩
    rw [serve_of_started (traced stack) nowUs n (w, []) hstart]
    dsimp only [cleanupRt]
    rw [deviceStopAndCleanup_calls stack hend.handle, hrun, List.append_assoc]
  · refine Or.inl ⟨hstart, ?_⟩
    rw [serve_of_failed (traced stack) nowUs n (w, []) hstart]
    rfl

def ServedCalls (cfg : PnetCfg build) (n : ℕ) (calls : List (StackCall build)) : Prop :=
  calls = [.init cfg none] ∨ ∃ net,
    (∃ more, PluggedUpTo net plugCalls more ∧ calls = .init cfg (some net) :: more) ∨
    calls = .init cfg (some net) :: (plugged net plugCalls ++
      (List.replicate n (.handlePeriodic net) ++ [.factoryReset net]))

theorem serve_calls {F : Type} (os : Platform F) (stack : PnetStack build W) (config : AppConfig)
    (nowUs n : ℕ) (w : W) (m : Machine F (W × List (StackCall build))) :
    ServedCalls (pnetCfgOf build config.device) n
      (serve os (traced stack) config nowUs n (bootMachine (w, []) m)).2.process.world.2 := by
  have hcalls := deviceInitAndStart_calls stack config.device w
  dsimp only at hcalls
  rcases serve_trace os stack config nowUs n w m with ⟨hret, htrace⟩ | ⟨hret, net, hnet, htrace⟩
  · rw [hret] at hcalls
    rw [htrace]
    rcases hcalls with ⟨-, -, hnone | ⟨net, more, hupTo, hmore⟩⟩ | ⟨hzero, -⟩
    · exact Or.inl hnone
    · exact Or.inr ⟨net, Or.inl ⟨more, hupTo, hmore⟩⟩
    · exact absurd hzero (by decide)
  · rw [hret, hnet] at hcalls
    rcases hcalls with ⟨hfailed, -⟩ | ⟨-, net', hsame, hopened⟩
    · exact absurd hfailed (by decide)
    · obtain rfl := Option.some.inj hsame
      refine Or.inr ⟨net, Or.inr ?_⟩
      rw [htrace, hopened]
      rfl

/-- All that a run of `main` asks of the stack, whatever the stack does: nothing before
the device; one start with the configuration of the run, which may fail at once or at
one of the modules, and is then not taken back; otherwise one tick an iteration and one
reset. The data of the device are never exchanged. -/
theorem main_stack_calls {F : Type} (os : Platform F) (stack : PnetStack build W)
    (script : CharArray 4096) (args : List Text) (nowUs n : ℕ) (w : W)
    (m : Machine F (W × List (StackCall build))) :
    let calls := (main os (traced stack) script args nowUs n
      (bootMachine (w, []) m)).2.process.world.2
    (∀ config, ¬ ReachesDevice os script args config m) ∧ calls = [] ∨
      ∃ config, ReachesDevice os script args config m ∧
        ServedCalls (pnetCfgOf build config.device) n calls := by
  rcases reaches_or_refused os (traced stack) script nowUs n args (bootMachine (w, []) m)
    with ⟨config, hreaches⟩ | hrefused
  · right
    refine ⟨config, reachesDevice_boot_iff.mp hreaches, ?_⟩
    rw [hreaches.run (traced stack) nowUs n]
    exact serve_calls os stack config nowUs n w (startedUp os script config m)
  · left
    refine ⟨fun config hreaches =>
      hrefused.reaches config (reachesDevice_boot_iff.mpr hreaches), ?_⟩
    rw [hrefused.process]
    rfl

theorem plugged_no_init (net : PnetHandle) (cs : List PlugCall) (pc : PnetCfg build)
    (answer : Option PnetHandle) : StackCall.init pc answer ∉ plugged net cs := by
  intro hmem
  obtain ⟨c, -, hc⟩ := List.mem_map.mp hmem
  cases hc

theorem ServedCalls.init_eq {cfg pc : PnetCfg build} {n : ℕ} {calls : List (StackCall build)}
    (h : ServedCalls cfg n calls) {answer : Option PnetHandle}
    (hmem : StackCall.init pc answer ∈ calls) : pc = cfg := by
  rcases h with rfl | ⟨net, ⟨more, ⟨before, c, behind, ret, -, -, rfl⟩, rfl⟩ | rfl⟩
  · have hsame : pc = cfg ∧ answer = none := by simpa using hmem
    exact hsame.1
  · have hsame : pc = cfg ∧ answer = some net := by simpa [plugged_no_init] using hmem
    exact hsame.1
  · have hsame : pc = cfg ∧ answer = some net := by
      simpa [plugged_no_init, List.mem_replicate] using hmem
    exact hsame.1

theorem pnalCfg_ifName (cfg : AppConfig) :
    (pnetCfgOf build cfg.device).pnalCfg.ifName.text = addressName cfg := by
  have hnul := cfg.device.interfaceName.nul_not_mem_text
  rw [addressName, ifrName_text hnul]
  exact safeStrncpy_text (by norm_num) _ hnul

theorem started_stack_interface {F : Type} (os : Platform F) (stack : PnetStack build W)
    (script : CharArray 4096) (args : List Text) (nowUs n : ℕ) (w : W)
    (m : Machine F (W × List (StackCall build))) {pc : PnetCfg build}
    {answer : Option PnetHandle}
    (hmem : StackCall.init pc answer ∈
      (main os (traced stack) script args nowUs n (bootMachine (w, []) m)).2.process.world.2) :
    ∃ config : AppConfig, pc = pnetCfgOf build config.device ∧
      ∃ i, m.net.env.interfaces pc.pnalCfg.ifName.text = some i ∧
        (main os (traced stack) script args nowUs n
          (bootMachine (w, []) m)).2.net.env.interfaces pc.pnalCfg.ifName.text =
          some ⟨config.device.ipAddr, config.device.netmask, i.flags ||| iffUp⟩ := by
  rcases reaches_or_refused os (traced stack) script nowUs n args (bootMachine (w, []) m)
    with ⟨config, hreaches⟩ | hrefused
  · have hserved := serve_calls os stack config nowUs n w (startedUp os script config m)
    have hrun : main os (traced stack) script args nowUs n (bootMachine (w, []) m) =
        serve os (traced stack) config nowUs n
          (bootMachine (w, []) (startedUp os script config m)) :=
      hreaches.run (traced stack) nowUs n
    rw [hrun] at hmem
    obtain rfl := hserved.init_eq hmem
    obtain ⟨path, verbose, hargs, rfl, hstarts⟩ := reachesDevice_boot_iff.mp hreaches
    refine ⟨_, rfl, ?_⟩
    rw [pnalCfg_ifName]
    exact started_interface os (traced stack) script nowUs n hargs (w, []) m hstarts
  · rw [hrefused.process] at hmem
    exact absurd hmem List.not_mem_nil

theorem leBytes_ipOctets (v : UInt32) : leBytes v = (octetList (ipOctets v)).reverse := rfl

theorem reverse_eq_iff (o : IpOctets) :
    (octetList o).reverse = octetList o ↔ o.a = o.d ∧ o.b = o.c := by
  rw [← reversed_iff, leBytes_ofOctets]
  rfl

/-- A stack of the real build is only ever started on an interface that is there. At the
end the interface is up, and the address and the mask of the stack lie in it with their
octets the other way round. -/
theorem stack_and_interface_reversed {F : Type} (os : Platform F) (stack : PnetStack .real W)
    (script : CharArray 4096) (args : List Text) (nowUs n : ℕ) (w : W)
    (m : Machine F (W × List (StackCall .real))) :
    let r := main os (traced stack) script args nowUs n (bootMachine (w, []) m)
    ∀ pc answer name ip mask gateway dhcp, StackCall.init pc answer ∈ r.2.process.world.2 →
      pc.ifCfg = .real name ip mask gateway dhcp →
      ∃ i i', m.net.env.interfaces pc.pnalCfg.ifName.text = some i ∧
        r.2.net.env.interfaces pc.pnalCfg.ifName.text = some i' ∧
        i'.flags = i.flags ||| iffUp ∧
        leBytes i'.address = (octetList ip).reverse ∧
        leBytes i'.netmask = (octetList mask).reverse ∧
        (leBytes i'.address = octetList ip ∧ leBytes i'.netmask = octetList mask ↔
          (ip.a = ip.d ∧ ip.b = ip.c) ∧ mask.a = mask.d ∧ mask.b = mask.c) := by
  intro r pc answer name ip mask gateway dhcp hmem hif
  obtain ⟨config, rfl, i, hi, hi'⟩ :=
    started_stack_interface os stack script args nowUs n w m hmem
  obtain ⟨-, rfl, rfl, -, -⟩ := IfCfg.real.inj hif
  refine ⟨i, _, hi, hi', rfl, leBytes_ipOctets _, leBytes_ipOctets _, ?_⟩
  rw [leBytes_ipOctets, leBytes_ipOctets, reverse_eq_iff, reverse_eq_iff]

def willingStack : PnetStack .real Unit where
  pnetInit _ w := (some 0, w)
  pnetPlug _ _ w := (0, w)
  pnetHandlePeriodic _ w := ([], w)
  pnetFactoryReset _ w := (0, [], w)
  pnetInputSetDataAndIops _ _ _ _ _ _ _ w := (0, w)
  pnetOutputGetDataAndIops _ _ _ _ data len w := (⟨0, data, len, .good⟩, w)

def tracedIdle : Machine Unit (Unit × List (StackCall .real)) where
  net := idle.net
  firewall := ()
  rt := idle.rt
  process := bootProcess ((), [])
  notified := []

theorem tracedIdle_reaches : ReachesDevice quiet (.zeroed 4096) []
    (loadConfig none defaultConfigFile false) tracedIdle := by
  obtain ⟨hvalid, hhandlers, hnetwork, hsecurity⟩ := idle_starts
  exact ⟨defaultConfigFile, false, by decide, rfl, hvalid, hhandlers, hnetwork, hsecurity⟩

theorem started_mem {F : Type} (os : Platform F) (stack : PnetStack build W)
    (script : CharArray 4096) (args : List Text) {config : AppConfig} (nowUs n : ℕ) (w : W)
    (m : Machine F (W × List (StackCall build)))
    (hreaches : ReachesDevice os script args config m) {call : StackCall build}
    (hcall : call ∈ (deviceInitAndStart (traced stack) config.device
      (bootProcess (w, []))).2.world.2) :
    call ∈ (main os (traced stack) script args nowUs n
      (bootMachine (w, []) m)).2.process.world.2 := by
  have hboot : ReachesDevice os script args config (bootMachine (w, []) m) :=
    reachesDevice_boot_iff.mpr hreaches
  rw [hboot.run (traced stack) nowUs n]
  rcases serve_trace os stack config nowUs n w (startedUp os script config m)
    with ⟨-, htrace⟩ | ⟨-, net, -, htrace⟩
  · exact htrace ▸ hcall
  · exact htrace ▸ List.mem_append_left _ hcall

theorem stack_and_interface_reversed_eth0 :
    ∃ i', (main quiet (traced willingStack) (.zeroed 4096) [] 0 3
        (bootMachine ((), []) tracedIdle)).2.net.env.interfaces (ascii "eth0") = some i' ∧
      leBytes i'.address = [100, 0, 168, 192] ∧ leBytes i'.netmask = [0, 255, 255, 255] := by
  have hcall : StackCall.init (pnetCfgOf .real appConfigDefault.device) (some 0) ∈
      (deviceInitAndStart (traced willingStack) (loadConfig none defaultConfigFile false).device
        (bootProcess ((), []))).2.world.2 := List.mem_of_mem_head? rfl
  have hstarted : StackCall.init (pnetCfgOf .real appConfigDefault.device) (some 0) ∈
      (main quiet (traced willingStack) (.zeroed 4096) [] 0 3
        (bootMachine ((), []) tracedIdle)).2.process.world.2 :=
    started_mem quiet willingStack (.zeroed 4096) [] 0 3 () tracedIdle tracedIdle_reaches hcall
  obtain ⟨-, i', -, hi', -, hip, hmask, -⟩ := stack_and_interface_reversed quiet willingStack
    (.zeroed 4096) [] 0 3 () tracedIdle _ _ _ _ _ _ _ hstarted rfl
  have hname : (pnetCfgOf .real appConfigDefault.device).pnalCfg.ifName.text = ascii "eth0" := by
    decide
  rw [hname] at hi'
  exact ⟨i', hi', hip.trans (by decide), hmask.trans (by decide)⟩

end PnetManager.StackProtocol
