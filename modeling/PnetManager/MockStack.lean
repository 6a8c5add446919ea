import PnetManager.EntryTable
import PnetManager.IoDeviceApp

/-!
# The mock stack

`pnet_api_mock.c`, which the tests and the mock build link. A handle is the place
of a net in the list of those that were allocated; whether `calloc` fails is part of
the world. The configuration of a net and its primary flag are only printed.
-/

namespace PnetManager.MockStack
open CText EntryTable IoDeviceApp

def mockMaxSubmodules : ℕ := 32

structure MockSubmodule where
  api : UInt32
  slot : UInt16
  subslot : UInt16
  moduleIdent : UInt32
  submoduleIdent : UInt32
  direction : SubmoduleDir
  inputLen : UInt16
  outputLen : UInt16
  inputData : CharArray 256
  outputData : CharArray 256
  inputIops : Ioxs
  outputIops : Ioxs
  plugged : Bool

/-- `struct pnet`; the list is `submodules[0]` to `submodules[submodule_count - 1]`. -/
structure MockNet where
  initialized : Bool
  tickCount : UInt32
  submodules : List MockSubmodule

structure MockWorld where
  nets : List MockNet
  callocFails : List Bool

def MockWorld.fresh : MockWorld := ⟨[], []⟩

def pnetInit (_ : PnetCfg .mock) (w : MockWorld) : Option PnetHandle × MockWorld :=
  if w.callocFails.head? = some true then (none, { w with callocFails := w.callocFails.tail })
  else
    (some w.nets.length,
      { nets := w.nets ++ [⟨true, 0, []⟩], callocFails := w.callocFails.tail })

def onNet {α : Type} (net : PnetHandle) (w : MockWorld) (missing : α)
    (f : MockNet → α × MockNet) : α × MockWorld :=
  match w.nets[net]? with
  | none => (missing, w)
  | some n => ((f n).1, { w with nets := w.nets.set net (f n).2 })

def pnetHandlePeriodic (net : PnetHandle) (w : MockWorld) : List StateEvent × MockWorld :=
  onNet net w [] fun n =>
    ([], if n.initialized then { n with tickCount := n.tickCount + 1 } else n)

def plugIn (n : MockNet) : PlugCall → ℤ × MockNet
  | .module _ _ _ => if n.initialized then (0, n) else (-1, n)
  | .submodule api slot subslot moduleIdent submoduleIdent direction lengthInput lengthOutput =>
    if n.initialized = false ∨ mockMaxSubmodules ≤ n.submodules.length then (-1, n)
    else
      (0, { n with submodules := n.submodules ++ [
        { api := api
          slot := slot
          subslot := subslot
          moduleIdent := moduleIdent
          submoduleIdent := submoduleIdent
          direction := direction
          inputLen := lengthInput
          outputLen := lengthOutput
          inputData := .zeroed _
          outputData := .zeroed _
          inputIops := .good
          outputIops := .good
          plugged := true }] })

def pnetPlug (net : PnetHandle) (c : PlugCall) (w : MockWorld) : ℤ × MockWorld :=
  onNet net w (-1) fun n => plugIn n c

def pnetFactoryReset (net : PnetHandle) (w : MockWorld) : ℤ × List StateEvent × MockWorld :=
  (if w.nets[net]?.isSome then 0 else -1, [], w)

def MockSubmodule.hasKey (api : UInt32) (slot subslot : UInt16) (sm : MockSubmodule) : Bool :=
  sm.api = api ∧ sm.slot = slot ∧ sm.subslot = subslot

def MockSubmodule.pulled (sm : MockSubmodule) : MockSubmodule := { sm with plugged := false }

/-- The loop of `pnet_pull_submodule`, which does not look at `plugged`. -/
def pullOf (api : UInt32) (slot subslot : UInt16) : List MockSubmodule → Option (List MockSubmodule)
  | [] => none
  | sm :: sms =>
    if sm.hasKey api slot subslot then some (sm.pulled :: sms)
    else (pullOf api slot subslot sms).map (sm :: ·)

def pnetPullSubmodule (net : PnetHandle) (api : UInt32) (slot subslot : UInt16)
    (w : MockWorld) : ℤ × MockWorld :=
  onNet net w (-1) fun n =>
    match pullOf api slot subslot n.submodules with
    | none => (-1, n)
    | some sms => (0, { n with submodules := sms })

def MockSubmodule.isAt (api : UInt32) (slot subslot : UInt16) (sm : MockSubmodule) : Bool :=
  sm.api = api ∧ sm.slot = slot ∧ sm.subslot = subslot ∧ sm.plugged

def MockSubmodule.inputBytes (sm : MockSubmodule) : ℕ := min sm.inputLen.toNat 256

def MockSubmodule.written (data : Text) (iops : Ioxs) (sm : MockSubmodule) : MockSubmodule :=
  { sm with inputData := sm.inputData.memcpy (data.take sm.inputBytes), inputIops := iops }

def setInputOf (api : UInt32) (slot subslot : UInt16) (data : Text) (iops : Ioxs) :
    List MockSubmodule → Option (List MockSubmodule)
  | [] => none
  | sm :: sms =>
    if sm.isAt api slot subslot then some (sm.written data iops :: sms)
    else (setInputOf api slot subslot data iops sms).map (sm :: ·)

def pnetInputSetDataAndIops (net : PnetHandle) (api : UInt32) (slot subslot : UInt16)
    (data : Text) (_ : Option UInt16) (iops : Ioxs) (w : MockWorld) : ℤ × MockWorld :=
  onNet net w (-1) fun n =>
    match setInputOf api slot subslot data iops n.submodules with
    | none => (-1, n)
    | some sms => (0, { n with submodules := sms })

/-- `pnet_output_get_data_and_iops`; the caller's status is BAD before the call. -/
def pnetOutputGetDataAndIops (net : PnetHandle) (api : UInt32) (slot subslot : UInt16)
    (data : Text) (dataLen : UInt16) (w : MockWorld) : OutputAnswer × MockWorld :=
  match (w.nets[net]?.bind fun n => n.submodules.find? (·.isAt api slot subslot)) with
  | none => (⟨-1, data, dataLen, .bad⟩, w)
  | some sm =>
    let len := if sm.outputLen < dataLen then sm.outputLen else dataLen
    (⟨0, sm.outputData.bytes.take len.toNat ++ data.drop len.toNat, len, sm.outputIops⟩, w)

def mockStack : PnetStack .mock MockWorld where
  pnetInit := pnetInit
  pnetPlug := pnetPlug
  pnetHandlePeriodic := pnetHandlePeriodic
  pnetFactoryReset := pnetFactoryReset
  pnetInputSetDataAndIops := pnetInputSetDataAndIops
  pnetOutputGetDataAndIops := pnetOutputGetDataAndIops

def submoduleAt (net : PnetHandle) (api : UInt32) (slot subslot : UInt16) (w : MockWorld) :
    Option MockSubmodule :=
  w.nets[net]?.bind fun n => n.submodules.find? (·.isAt api slot subslot)

theorem submoduleAt_of_net {net : PnetHandle} {w : MockWorld} {n : MockNet}
    (h : w.nets[net]? = some n) (api : UInt32) (slot subslot : UInt16) :
    submoduleAt net api slot subslot w = n.submodules.find? (·.isAt api slot subslot) := by
  rw [submoduleAt, h]
  rfl

theorem submoduleAt_set {net : PnetHandle} {w : MockWorld} {n : MockNet}
    (h : w.nets[net]? = some n) (n' : MockNet) (api : UInt32) (slot subslot : UInt16) :
    submoduleAt net api slot subslot { w with nets := w.nets.set net n' } =
      n'.submodules.find? (·.isAt api slot subslot) := by
  have hlt : net < w.nets.length := (List.getElem?_eq_some_iff.mp h).1
  apply submoduleAt_of_net
  simp [hlt]

theorem onNet_of_net {α : Type} {net : PnetHandle} {w : MockWorld} {n : MockNet}
    (h : w.nets[net]? = some n) (missing : α) (f : MockNet → α × MockNet) :
    onNet net w missing f = ((f n).1, { w with nets := w.nets.set net (f n).2 }) := by
  rw [onNet, h]

theorem onNet_of_none {α : Type} {net : PnetHandle} {w : MockWorld} (h : w.nets[net]? = none)
    (missing : α) (f : MockNet → α × MockNet) : onNet net w missing f = (missing, w) := by
  rw [onNet, h]

theorem pullOf_eq (api : UInt32) (slot subslot : UInt16) (sms : List MockSubmodule) :
    pullOf api slot subslot sms = modifyFirst (·.hasKey api slot subslot) (·.pulled) sms := by
  induction sms with
  | nil => rfl
  | cons sm sms ih => rw [pullOf, modifyFirst, ih]

theorem setInputOf_eq (api : UInt32) (slot subslot : UInt16) (data : Text) (iops : Ioxs)
    (sms : List MockSubmodule) : setInputOf api slot subslot data iops sms =
      modifyFirst (·.isAt api slot subslot) (·.written data iops) sms := by
  induction sms with
  | nil => rfl
  | cons sm sms ih => rw [setInputOf, modifyFirst, ih]

theorem setInputOf_cases (api : UInt32) (slot subslot : UInt16) (data : Text) (iops : Ioxs)
    (sms : List MockSubmodule) :
    (sms.find? (·.isAt api slot subslot) = none ∧
      setInputOf api slot subslot data iops sms = none) ∨
    ∃ sm sms', sms.find? (·.isAt api slot subslot) = some sm ∧
      setInputOf api slot subslot data iops sms = some sms' ∧
      sms'.find? (·.isAt api slot subslot) = some (sm.written data iops) := by
  rw [setInputOf_eq]
  rcases modifyFirst_cases (·.isAt api slot subslot) (·.written data iops) sms with hnone | hsome
  · exact Or.inl hnone
  · obtain ⟨pre, sm, post, -, hfound, hpre, hset⟩ := hsome
    have hat : sm.isAt api slot subslot = true := by simpa using List.find?_some hfound
    have hwritten : (sm.written data iops).isAt api slot subslot = true := hat
    have hnot : pre.find? (·.isAt api slot subslot) = none := by
      rw [List.find?_eq_none]
      intro x hx
      rw [hpre x hx]
      exact Bool.false_ne_true
    exact Or.inr ⟨sm, _, hfound, hset, by
      rw [List.find?_append, hnot, Option.none_or, List.find?_cons_of_pos hwritten]⟩

end PnetManager.MockStack
