import PnetManager.DeviceLifecycle
import PnetManager.MockStack

/-!
# The input data and the image in the stack

`io_device_update_input` keeps a copy of the data and hands the data to the
stack, the copy first. What a stack does with them is a law: an accepted write is
the new image of the submodule, a rejected one changes nothing. The real stack is
told the length, the mock stack goes by the length that was plugged.
-/

namespace PnetManager.ProcessImage
open CText IoDeviceApp DeviceLifecycle Runs

/-- The input submodule of slot 1 in the stack: the bytes it was plugged with, once
it is, and its image. -/
structure InputView (W : Type) where
  plugged : PnetHandle → W → Option ℕ
  image : PnetHandle → W → Text

def pluggedLength : PlugCall → Option ℕ
  | .module _ _ _ => none
  | .submodule api slot subslot _ _ _ lengthInput _ =>
    if api = exampleApi ∧ slot = exampleSlot ∧ subslot = exampleSubslotInput then
      some lengthInput.toNat
    else none

def taken : Build → UInt16 → ℕ → ℕ
  | .mock, _, n => n
  | .real, len, _ => len.toNat

variable {build : Build} {W : Type}

def setInput (stack : PnetStack build W) (net : PnetHandle) (data : Text) (len : UInt16) (w : W) :
    ℤ × W :=
  stack.pnetInputSetDataAndIops net exampleApi exampleSlot exampleSubslotInput data
    (inputLength build len) .good w

structure InputView.Lawful (view : InputView W) (stack : PnetStack build W) : Prop where
  init : ∀ cfg w net w', stack.pnetInit cfg w = (some net, w') → view.plugged net w' = none
  plug : ∀ net, ∀ c ∈ plugCalls, ∀ w, (stack.pnetPlug net c w).1 = 0 →
    view.plugged net w = none ∨ pluggedLength c = none →
    view.plugged net (stack.pnetPlug net c w).2 = (view.plugged net w).or (pluggedLength c)
  periodic : ∀ net w, view.plugged net (stack.pnetHandlePeriodic net w).2 = view.plugged net w
  output : ∀ net data len w, view.plugged net (stack.pnetOutputGetDataAndIops net exampleApi
    exampleSlot exampleSubslotOutput data len w).2 = view.plugged net w
  input : ∀ net data len w,
    view.plugged net (setInput stack net data len w).2 = view.plugged net w
  accepted : ∀ net data len w n, view.plugged net w = some n →
    (setInput stack net data len w).1 = 0 → taken build len n ≤ data.length →
    view.image net (setInput stack net data len w).2 = data.take (taken build len n)
  rejected : ∀ net data len w, (setInput stack net data len w).1 ≠ 0 →
    view.image net (setInput stack net data len w).2 = view.image net w

variable {stack : PnetStack build W} {view : InputView W}

theorem plugAll_cons {net : PnetHandle} {c : PlugCall} {cs : List PlugCall} {w : W}
    (h : (plugAll stack net (c :: cs) w).1 = 0) :
    (stack.pnetPlug net c w).1 = 0 ∧
      plugAll stack net (c :: cs) w = plugAll stack net cs (stack.pnetPlug net c w).2 := by
  rw [plugAll] at h ⊢
  dsimp only at h ⊢
  split_ifs at h ⊢ with hret
  · exact absurd h hret
  · exact ⟨not_not.mp hret, rfl⟩

theorem plugged_plugAll (law : view.Lawful stack) {net : PnetHandle} {cs : List PlugCall}
    (hcs : ∀ c ∈ cs, c ∈ plugCalls ∧ pluggedLength c = none) {w : W}
    (h : (plugAll stack net cs w).1 = 0) :
    view.plugged net (plugAll stack net cs w).2 = view.plugged net w := by
  induction cs generalizing w with
  | nil => rfl
  | cons c cs ih =>
    obtain ⟨hret, hrest⟩ := plugAll_cons h
    obtain ⟨hmem, hnone⟩ := hcs c List.mem_cons_self
    rw [hrest] at h ⊢
    rw [ih (fun d hd => hcs d (List.mem_cons_of_mem _ hd)) h, law.plug net c hmem w hret
      (Or.inr hnone), hnone, Option.or_none]

theorem plugAll_append {net : PnetHandle} {cs ds : List PlugCall} {w : W}
    (h : (plugAll stack net (cs ++ ds) w).1 = 0) :
    (plugAll stack net cs w).1 = 0 ∧
      plugAll stack net (cs ++ ds) w = plugAll stack net ds (plugAll stack net cs w).2 := by
  induction cs generalizing w with
  | nil => exact ⟨rfl, rfl⟩
  | cons c cs ih =>
    rw [List.cons_append] at h ⊢
    obtain ⟨hret, hrest⟩ := plugAll_cons h
    have hcons : plugAll stack net (c :: cs) w =
        plugAll stack net cs (stack.pnetPlug net c w).2 := by
      rw [plugAll]
      dsimp only
      rw [if_neg (not_not.mpr hret)]
    rw [hrest] at h ⊢
    rw [hcons]
    exact ih h

def inputPlug : PlugCall :=
  .submodule exampleApi exampleSlot exampleSubslotInput exampleModuleIdent exampleSubmodInput
    .input exampleInputSize 0

theorem plugged_plugAllModules (law : view.Lawful stack) {net : PnetHandle} {w : W}
    (hfresh : view.plugged net w = none) (h : (plugAllModules stack net w).1 = 0) :
    view.plugged net (plugAllModules stack net w).2 = some exampleInputSize.toNat := by
  have hsplit : plugCalls = plugCalls.take 5 ++ inputPlug :: plugCalls.drop 6 := rfl
  rw [plugAllModules, hsplit] at h ⊢
  obtain ⟨hpre, hpost⟩ := plugAll_append h
  have hnone := plugged_plugAll law (by decide) hpre
  rw [hfresh] at hnone
  rw [hpost] at h ⊢
  generalize (plugAll stack net (plugCalls.take 5) w).2 = w' at h hnone ⊢
  obtain ⟨hret, hrest⟩ := plugAll_cons h
  have hinput := law.plug net inputPlug (by decide) w' hret (Or.inl hnone)
  rw [hrest] at h ⊢
  rw [plugged_plugAll law (by decide) h, hinput, hnone]
  rfl

structure Ready (view : InputView W) (s : IoDevice × W) : Prop where
  consistent : Consistent s.1
  plugged : ∀ net, s.1.pnetHandle = some net → IsLive s.1 →
    view.plugged net s.2 = some exampleInputSize.toNat

theorem ready_of_no_handle {s : IoDevice × W} (hc : Consistent s.1) (h : s.1.pnetHandle = none) :
    Ready view s :=
  ⟨hc, fun net hnet => by simp [h] at hnet⟩

theorem Ready.start (law : view.Lawful stack) {dev : IoDevice} {w : W} (h : Ready view (dev, w)) :
    Ready view (ioDeviceStart stack dev w).2 := by
  refine ⟨exec_consistent stack h.consistent .start, ?_⟩
  rw [ioDeviceStart]
  by_cases hs : dev.state = .initialized
  · rw [if_neg (not_not.mpr hs)]
    rcases hinit : stack.pnetInit (pnetCfgOf build dev.config) w with ⟨_ | net, w'⟩
    · intro net hnet
      simp at hnet
    · have hfresh := law.init _ _ _ _ hinit
      dsimp only
      split_ifs with hret
      · intro net' _ hlive
        rcases hlive with hlive | hlive <;> simp at hlive
      · intro net' hnet _
        obtain rfl : net = net' := by simpa using hnet
        exact plugged_plugAllModules law hfresh (not_not.mp hret)
  · rw [if_pos hs]
    exact h.plugged

theorem Ready.tick (law : view.Lawful stack) {dev : IoDevice} {w : W} (h : Ready view (dev, w)) :
    Ready view (ioDeviceTick stack dev w).2 := by
  refine ⟨exec_consistent stack h.consistent .tick, ?_⟩
  rw [ioDeviceTick]
  cases hh : dev.pnetHandle with
  | none =>
    intro net hnet
    simp [hh] at hnet
  | some net =>
    by_cases hs : dev.state = .error
    · dsimp only
      rw [if_pos hs]
      exact h.plugged
    · have hlive : IsLive dev :=
        h.consistent.live_iff.mpr ⟨by rw [hh]; exact Option.some_ne_none net, hs⟩
      dsimp only
      rw [if_neg hs]
      intro net' hnet _
      have hsame : some net = some net' := by
        rw [← hh, ← hnet]
        exact (deliver_pnetHandle dev _).symm
      obtain rfl := Option.some.inj hsame
      exact (law.periodic net w).trans (h.plugged net hh hlive)

theorem updateInput_eq (stack : PnetStack build W) {dev : IoDevice} {net : PnetHandle}
    (h : dev.pnetHandle = some net) (data : Text) (len : UInt16) (w : W) :
    ioDeviceUpdateInput stack dev (some data) len w =
      if 256 < len then (-1, dev, w)
      else ((setInput stack net data len w).1,
        { dev with inputData := dev.inputData.memcpy (data.take len.toNat), inputSize := len },
        (setInput stack net data len w).2) := by
  simp only [ioDeviceUpdateInput, h]
  rfl

theorem Ready.updateInput (law : view.Lawful stack) {dev : IoDevice} {w : W}
    (h : Ready view (dev, w)) (data : Option Text) (len : UInt16) :
    Ready view (ioDeviceUpdateInput stack dev data len w).2 := by
  refine ⟨exec_consistent stack h.consistent (.updateInput data len), ?_⟩
  cases hh : dev.pnetHandle with
  | none =>
    obtain ⟨buf, size, hdev⟩ := ioDeviceUpdateInput_cases stack dev data len w
    intro net hnet
    simp [hdev, hh] at hnet
  | some net =>
    cases data with
    | none =>
      have hrefused : ioDeviceUpdateInput stack dev none len w = (-1, dev, w) := by
        simp [ioDeviceUpdateInput]
      rw [hrefused]
      exact h.plugged
    | some data =>
      rw [updateInput_eq stack hh]
      split_ifs
      · exact h.plugged
      · intro net' hnet hlive
        obtain rfl : net = net' := Option.some.inj (hh.symm.trans hnet)
        exact (law.input net data len w).trans (h.plugged net hh hlive)

theorem Ready.readOutput (law : view.Lawful stack) {dev : IoDevice} {w : W}
    (h : Ready view (dev, w)) (data : Option Text) (len : Option UInt16) :
    Ready view (Call.exec stack (.readOutput data len) (dev, w)).2 := by
  refine ⟨exec_consistent stack h.consistent (.readOutput data len), ?_⟩
  intro net hnet hlive
  obtain ⟨buf, size, hdev⟩ := ioDeviceReadOutput_cases stack dev data len w
  simp only [Call.exec, hdev] at hnet hlive ⊢
  have hplugged := h.plugged net hnet hlive
  cases data with
  | none => simpa [ioDeviceReadOutput, hnet] using hplugged
  | some buf =>
    cases len with
    | none => simpa [ioDeviceReadOutput, hnet] using hplugged
    | some len =>
      have houtput := law.output net buf len w
      simp only [ioDeviceReadOutput, hnet]
      split_ifs <;> exact houtput.trans hplugged

theorem exec_ready (law : view.Lawful stack) {s : IoDevice × W} (h : Ready view s) (c : Call) :
    Ready view (c.exec stack s).2 := by
  obtain ⟨dev, w⟩ := s
  have hconsistent := exec_consistent stack h.consistent c
  cases c with
  | init cfg =>
    cases cfg with
    | none => exact h
    | some cfg => exact ready_of_no_handle hconsistent rfl
  | start => exact h.start law
  | tick => exact h.tick law
  | stop =>
    rcases ioDeviceStop_cases stack dev w with ⟨hno, -, hdev⟩ | ⟨-, -, hdev⟩
    · exact ready_of_no_handle hconsistent (by simp only [Call.exec, hdev, hno])
    · exact ready_of_no_handle hconsistent (by simp only [Call.exec, hdev, IoDevice.zeroed])
  | cleanup => exact ready_of_no_handle hconsistent rfl
  | updateInput data len => exact h.updateInput law data len
  | readOutput data len => exact h.readOutput law data len

theorem after_ready (law : view.Lawful stack) (w : W) (calls : List Call) :
    Ready view (after stack (IoDevice.zeroed, w) calls) :=
  run_invariant (P := fun s : IoDevice × W => Ready view s) (fun _ c hs => exec_ready law hs c)
    (ready_of_no_handle zeroed_consistent rfl) calls

def bytesRead (view : InputView W) (build : Build) (net : PnetHandle) (ret : ℤ) (len : UInt16)
    (w : W) : ℕ :=
  if ret = 0 then taken build len ((view.plugged net w).getD 0) else 0

structure Cached (dev : IoDevice) (data : Text) : Prop where
  size : dev.inputSize.toNat = data.length
  bytes : dev.inputData.bytes.take data.length = data

def updated (stack : PnetStack build W) (dev : IoDevice) (data beyond : Text) (w : W) :
    ℤ × IoDevice × W :=
  ioDeviceUpdateInput stack dev (some (data ++ beyond)) (UInt16.ofNat data.length) w

/-- What an update owes its caller. -/
structure ImageAgrees (view : InputView W) (stack : PnetStack build W) (dev : IoDevice)
    (net : PnetHandle) (data beyond : Text) (w : W) : Prop where
  accepted : (updated stack dev data beyond w).1 = 0 →
    view.image net (updated stack dev data beyond w).2.2 = data ∧
      Cached (updated stack dev data beyond w).2.1 data
  refused : (updated stack dev data beyond w).1 ≠ 0 →
    (updated stack dev data beyond w).2.1.inputData = dev.inputData ∧
      (updated stack dev data beyond w).2.1.inputSize = dev.inputSize ∧
      view.image net (updated stack dev data beyond w).2.2 = view.image net w
  reads : bytesRead view build net (updated stack dev data beyond w).1
    (UInt16.ofNat data.length) w ≤ data.length

def Accepts (stack : PnetStack build W) (net : PnetHandle) (data beyond : Text) (w : W) : Prop :=
  (setInput stack net (data ++ beyond) (UInt16.ofNat data.length) w).1 = 0

section Update

variable {dev : IoDevice} {net : PnetHandle} {data : Text} (beyond : Text) {w : W}

theorem agrees_of_long (h : dev.pnetHandle = some net) (hlen : data.length < 2 ^ 16)
    (hlong : 256 < data.length) : ImageAgrees view stack dev net data beyond w := by
  have hbig : 256 < UInt16.ofNat data.length := by
    rw [UInt16.lt_iff_toNat_lt, UInt16.toNat_ofNat_of_lt' hlen]
    exact hlong
  have hrefused : updated stack dev data beyond w = (-1, dev, w) := by
    rw [updated, updateInput_eq stack h, if_pos hbig]
  have hminus : (-1 : ℤ) ≠ 0 := by decide
  constructor <;> rw [hrefused]
  · exact fun hret => absurd hret hminus
  · exact fun _ => ⟨rfl, rfl, rfl⟩
  · exact Nat.zero_le _

theorem toNat_length (h : data.length ≤ 256) :
    (UInt16.ofNat data.length).toNat = data.length :=
  UInt16.toNat_ofNat_of_lt' (h.trans_lt (by decide))

theorem updated_short (stack : PnetStack build W) (h : dev.pnetHandle = some net)
    (hlen : data.length ≤ 256) :
    updated stack dev data beyond w =
      ((setInput stack net (data ++ beyond) (UInt16.ofNat data.length) w).1,
        { dev with
          inputData := dev.inputData.memcpy data, inputSize := UInt16.ofNat data.length },
        (setInput stack net (data ++ beyond) (UInt16.ofNat data.length) w).2) := by
  have hnat := toNat_length hlen
  have hsmall : ¬ 256 < UInt16.ofNat data.length := by
    rw [UInt16.lt_iff_toNat_lt, hnat]
    exact Nat.not_lt.mpr hlen
  rw [updated, updateInput_eq stack h, if_neg hsmall, hnat, List.take_left]

theorem agrees_of_rejected_iff (law : view.Lawful stack) (h : dev.pnetHandle = some net)
    (hlen : data.length ≤ 256) (hrejected : ¬ Accepts stack net data beyond w) :
    ImageAgrees view stack dev net data beyond w ↔ Cached dev data := by
  have hshort := updated_short (w := w) beyond stack h hlen
  have hnat := toNat_length hlen
  constructor
  · intro hagrees
    obtain ⟨hdata, hsize, -⟩ := hagrees.refused (by rw [hshort]; exact hrejected)
    rw [hshort] at hdata hsize
    exact ⟨by rw [← hsize]; exact hnat, (CharArray.memcpy_eq_self_iff hlen).mp hdata⟩
  · intro hcached
    have hsize : UInt16.ofNat data.length = dev.inputSize :=
      UInt16.toNat_inj.mp (hnat.trans hcached.size.symm)
    have hdata := (CharArray.memcpy_eq_self_iff hlen).mpr hcached.bytes
    constructor <;> rw [hshort]
    · exact fun hret => absurd hret hrejected
    · exact fun _ => ⟨hdata, hsize, law.rejected net _ _ w hrejected⟩
    · rw [bytesRead, if_neg]
      · exact Nat.zero_le _
      · exact hrejected

theorem length_of_take_one {data beyond : Text} (h : (data ++ beyond).take 1 = data)
    (hpos : 1 ≤ data.length) : data.length = 1 := by
  have hlength := congrArg List.length h
  rw [List.length_take, List.length_append] at hlength
  omega

theorem agrees_of_accepted_iff (law : view.Lawful stack) (h : dev.pnetHandle = some net)
    (hplugged : view.plugged net w = some exampleInputSize.toNat)
    (hlen : data.length ≤ 256) (haccepted : Accepts stack net data beyond w) :
    ImageAgrees view stack dev net data beyond w ↔ build = .real ∨ data.length = 1 := by
  have hshort := updated_short (w := w) beyond stack h hlen
  have hnat := toNat_length hlen
  have hone : exampleInputSize.toNat = 1 := by decide
  rw [hone] at hplugged
  have himage := law.accepted net (data ++ beyond) (UInt16.ofNat data.length) w 1 hplugged haccepted
  have hret : (updated stack dev data beyond w).1 = 0 := by
    rw [hshort]
    exact haccepted
  have hreads : bytesRead view build net (updated stack dev data beyond w).1
      (UInt16.ofNat data.length) w = taken build (UInt16.ofNat data.length) 1 := by
    rw [bytesRead, if_pos hret, hplugged]
    rfl
  -- an accepted write agrees when the stack takes the whole text and no more
  have hwhole (htaken : taken build (UInt16.ofNat data.length) 1 = data.length) :
      ImageAgrees view stack dev net data beyond w := by
    rw [htaken] at himage
    refine ⟨fun _ => ?_, fun hne => absurd hret hne, hreads.trans htaken |>.le⟩
    rw [hshort]
    exact ⟨(himage (by simp)).trans List.take_left, hnat, CharArray.memcpy_take _ hlen⟩
  cases build with
  | real => exact iff_of_true (hwhole hnat) (Or.inl rfl)
  | mock =>
    constructor
    · intro hagrees
      have hpos : 1 ≤ data.length := by
        have hread := hagrees.reads
        rwa [hreads] at hread
      have hdata := (hagrees.accepted hret).1
      rw [hshort, himage (by rw [List.length_append]; exact Nat.le_add_right_of_le hpos)] at hdata
      exact Or.inr (length_of_take_one hdata hpos)
    · intro hlength
      exact hwhole (hlength.resolve_left (by decide)).symm

end Update

open MockStack

def mockView : InputView MockWorld where
  plugged net w :=
    (submoduleAt net exampleApi exampleSlot exampleSubslotInput w).map MockSubmodule.inputBytes
  image net w :=
    ((submoduleAt net exampleApi exampleSlot exampleSubslotInput w).map
      fun sm => sm.inputData.bytes.take sm.inputBytes).getD []

theorem mockView_plugged (net : PnetHandle) (w : MockWorld) :
    mockView.plugged net w = (submoduleAt net exampleApi exampleSlot exampleSubslotInput w).map
      MockSubmodule.inputBytes := rfl

theorem mockView_image (net : PnetHandle) (w : MockWorld) :
    mockView.image net w = ((submoduleAt net exampleApi exampleSlot exampleSubslotInput w).map
      fun sm => sm.inputData.bytes.take sm.inputBytes).getD [] := rfl

theorem setInput_mock (net : PnetHandle) (data : Text) (len : UInt16) (w : MockWorld) :
    ((setInput mockStack net data len w).1 ≠ 0 ∧
      submoduleAt net exampleApi exampleSlot exampleSubslotInput
        (setInput mockStack net data len w).2 =
          submoduleAt net exampleApi exampleSlot exampleSubslotInput w) ∨
    ∃ sm, submoduleAt net exampleApi exampleSlot exampleSubslotInput w = some sm ∧
      (setInput mockStack net data len w).1 = 0 ∧
      submoduleAt net exampleApi exampleSlot exampleSubslotInput
        (setInput mockStack net data len w).2 = some (sm.written data .good) := by
  have hminus : (-1 : ℤ) ≠ 0 := by decide
  simp only [setInput, mockStack, pnetInputSetDataAndIops]
  cases hn : w.nets[net]? with
  | none =>
    rw [onNet_of_none hn]
    exact Or.inl ⟨hminus, rfl⟩
  | some n =>
    rw [onNet_of_net hn, submoduleAt_set hn, submoduleAt_of_net hn]
    rcases setInputOf_cases exampleApi exampleSlot exampleSubslotInput data .good n.submodules
      with ⟨-, hset⟩ | ⟨sm, sms, hfound, hset, hnew⟩
    · rw [hset]
      exact Or.inl ⟨hminus, rfl⟩
    · rw [hset]
      exact Or.inr ⟨sm, hfound, rfl, hnew⟩

theorem find_append_plug (sms : List MockSubmodule) (sm : MockSubmodule) :
    ((sms ++ [sm]).find? (·.isAt exampleApi exampleSlot exampleSubslotInput)).map
        MockSubmodule.inputBytes =
      ((sms.find? (·.isAt exampleApi exampleSlot exampleSubslotInput)).map
        MockSubmodule.inputBytes).or
          (if sm.isAt exampleApi exampleSlot exampleSubslotInput then some sm.inputBytes
            else none) := by
  rw [List.find?_append, Option.map_or, List.find?_singleton]
  split_ifs <;> rfl

theorem pluggedLength_le : ∀ c ∈ plugCalls, ∀ k ∈ pluggedLength c, k ≤ 256 := by decide

theorem plugIn_plugged {n : MockNet} {c : PlugCall} (hc : c ∈ plugCalls)
    (hret : (plugIn n c).1 = 0) :
    ((plugIn n c).2.submodules.find? (·.isAt exampleApi exampleSlot exampleSubslotInput)).map
        MockSubmodule.inputBytes =
      ((n.submodules.find? (·.isAt exampleApi exampleSlot exampleSubslotInput)).map
        MockSubmodule.inputBytes).or (pluggedLength c) := by
  have hle := pluggedLength_le c hc
  have hminus : (-1 : ℤ) ≠ 0 := by decide
  cases c with
  | module api slot moduleIdent =>
    rw [plugIn, pluggedLength, Option.or_none]
    split_ifs <;> rfl
  | submodule api slot subslot moduleIdent submoduleIdent direction lengthInput lengthOutput =>
    rw [plugIn] at hret ⊢
    split_ifs at hret ⊢ with hfull
    · exact absurd hret hminus
    · rw [find_append_plug]
      congr 1
      rw [pluggedLength] at hle ⊢
      by_cases hat : api = exampleApi ∧ slot = exampleSlot ∧ subslot = exampleSubslotInput
      · rw [if_pos hat] at hle ⊢
        rw [if_pos (by simpa [MockSubmodule.isAt] using hat), MockSubmodule.inputBytes,
          min_eq_left (hle _ rfl)]
      · rw [if_neg hat, if_neg (by simpa [MockSubmodule.isAt] using hat)]

theorem plugged_pnetPlug {net : PnetHandle} {c : PlugCall} (hc : c ∈ plugCalls) {w : MockWorld}
    (hret : (mockStack.pnetPlug net c w).1 = 0) :
    mockView.plugged net (mockStack.pnetPlug net c w).2 =
      (mockView.plugged net w).or (pluggedLength c) := by
  have hminus : (-1 : ℤ) ≠ 0 := by decide
  simp only [mockStack, MockStack.pnetPlug, mockView_plugged] at hret ⊢
  cases hn : w.nets[net]? with
  | none =>
    rw [onNet_of_none hn] at hret
    exact absurd hret hminus
  | some n =>
    rw [onNet_of_net hn] at hret
    rw [onNet_of_net hn, submoduleAt_set hn, submoduleAt_of_net hn]
    exact plugIn_plugged hc hret

theorem plugged_pnetHandlePeriodic (net : PnetHandle) (w : MockWorld) :
    mockView.plugged net (mockStack.pnetHandlePeriodic net w).2 = mockView.plugged net w := by
  simp only [mockStack, MockStack.pnetHandlePeriodic, mockView_plugged]
  cases hn : w.nets[net]? with
  | none => rw [onNet_of_none hn]
  | some n =>
    rw [onNet_of_net hn, submoduleAt_set hn, submoduleAt_of_net hn]
    dsimp only
    split_ifs <;> rfl

theorem image_written (sm : MockSubmodule) {data : Text} (iops : Ioxs)
    (h : sm.inputBytes ≤ data.length) :
    (sm.written data iops).inputData.bytes.take sm.inputBytes = data.take sm.inputBytes := by
  have hsize : (data.take sm.inputBytes).length = sm.inputBytes := by
    rw [List.length_take]
    exact min_eq_left h
  have hfits : (data.take sm.inputBytes).length ≤ 256 := by
    rw [hsize]
    exact min_le_right _ _
  have hcopy := CharArray.memcpy_take sm.inputData hfits
  rwa [hsize] at hcopy

theorem mockView_lawful : mockView.Lawful mockStack where
  init := by
    intro cfg w net w' h
    simp only [mockStack, MockStack.pnetInit] at h
    split_ifs at h with hfails
    · simp at h
    · obtain ⟨rfl, rfl⟩ : w.nets.length = net ∧ _ = w' := by simpa using h
      simp [mockView, submoduleAt]
  plug := fun _ _ hc _ hret _ => plugged_pnetPlug hc hret
  periodic := plugged_pnetHandlePeriodic
  output := by
    intro net data len w
    simp only [mockStack, MockStack.pnetOutputGetDataAndIops]
    split <;> rfl
  input := by
    intro net data len w
    rcases setInput_mock net data len w with ⟨-, hat⟩ | ⟨sm, hfound, -, hat⟩
    · rw [mockView_plugged, hat, mockView_plugged]
    · rw [mockView_plugged, hat, mockView_plugged, hfound]
      rfl
  accepted := by
    intro net data len w n hplugged hret hlen
    rcases setInput_mock net data len w with ⟨hne, -⟩ | ⟨sm, hfound, -, hat⟩
    · exact absurd hret hne
    · rw [mockView_plugged, hfound, Option.map_some, Option.some.injEq] at hplugged
      subst hplugged
      rw [mockView_image, hat]
      exact image_written sm .good hlen
  rejected := by
    intro net data len w hret
    rcases setInput_mock net data len w with ⟨-, hat⟩ | ⟨sm, -, hzero, -⟩
    · rw [mockView_image, hat, mockView_image]
    · exact absurd hzero hret

/-- For a started device the image, the copy and the caller agree exactly when the
text is refused for its length, or the stack takes it and is told its length or it is
one byte, or the stack rejects it and the copy holds it already. -/
theorem input_agrees_iff (view : InputView W) (law : view.Lawful stack) (w₀ : W)
    (calls : List Call) (net : PnetHandle) (data beyond : Text) (hlen : data.length < 2 ^ 16) :
    let s := after stack (IoDevice.zeroed, w₀) calls
    s.1.pnetHandle = some net → IsLive s.1 →
    (ImageAgrees view stack s.1 net data beyond s.2 ↔
      256 < data.length ∨
      Accepts stack net data beyond s.2 ∧ (build = .real ∨ data.length = 1) ∨
      ¬ Accepts stack net data beyond s.2 ∧ Cached s.1 data) := by
  intro s hnet hlive
  have hplugged := (after_ready law w₀ calls).plugged net hnet hlive
  by_cases hlong : 256 < data.length
  · exact iff_of_true (agrees_of_long beyond hnet hlen hlong) (Or.inl hlong)
  have hshort := Nat.le_of_not_lt hlong
  by_cases haccepted : Accepts stack net data beyond s.2
  · rw [agrees_of_accepted_iff beyond law hnet hplugged hshort haccepted]
    simp [hlong, haccepted]
  · rw [agrees_of_rejected_iff beyond law hnet hshort haccepted]
    simp [hlong, haccepted]

def startCalls : List Call := [.init (some .zeroed), .start]

theorem input_agrees_one_byte :
    let s := after mockStack (IoDevice.zeroed, .fresh) startCalls
    ImageAgrees mockView mockStack s.1 0 [0x42] [] s.2 :=
  (input_agrees_iff mockView mockView_lawful .fresh startCalls 0 [0x42] [] (by decide) rfl
    (Or.inl rfl)).mpr (Or.inr (Or.inl ⟨rfl, Or.inr rfl⟩))

theorem three_bytes_are_cut :
    let s := after mockStack (IoDevice.zeroed, .fresh) startCalls
    let r := updated mockStack s.1 [0x42, 0xAB, 0xCD] [] s.2
    s.1.state = .connected ∧ r.1 = 0 ∧ r.2.1.inputSize = 3 ∧ mockView.image 0 r.2.2 = [0x42] ∧
      ¬ ImageAgrees mockView mockStack s.1 0 [0x42, 0xAB, 0xCD] [] s.2 := by
  intro s r
  have hret : r.1 = 0 := rfl
  have himage : mockView.image 0 r.2.2 = [0x42] := rfl
  refine ⟨rfl, hret, rfl, himage, fun hagrees => ?_⟩
  have hdata := (hagrees.accepted hret).1
  rw [himage] at hdata
  exact absurd hdata (by decide)

end PnetManager.ProcessImage
