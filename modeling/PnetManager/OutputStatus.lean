import PnetManager.ProcessImage

/-!
# The provider status of the output data

`io_device_read_output` fetches the status of the provider with the data and does
not look at it.
-/

namespace PnetManager.OutputStatus
open CText IoDeviceApp DeviceLifecycle MockStack ProcessImage

variable {build : Build} {W : Type}

def answer (stack : PnetStack build W) (net : PnetHandle) (buf : Text) (len : UInt16) (w : W) :
    OutputAnswer :=
  (stack.pnetOutputGetDataAndIops net exampleApi exampleSlot exampleSubslotOutput buf len w).1

def OutputAnswer.Valid (a : OutputAnswer) : Prop := a.ret = 0 ∧ a.iops = .good

structure OutputAnswer.Bounded (a : OutputAnswer) (len : UInt16) : Prop where
  caller : a.dataLen ≤ len
  plugged : a.dataLen ≤ exampleOutputSize
  data : a.dataLen.toNat ≤ a.data.length

/-- Valid data are passed on, and others change nothing that the caller could take
for data. -/
structure StatusRespected (stack : PnetStack build W) (dev : IoDevice) (net : PnetHandle)
    (buf : Text) (len : UInt16) (w : W) : Prop where
  valid : OutputAnswer.Valid (answer stack net buf len w) →
    ∃ dev' w', ioDeviceReadOutput stack dev (some buf) (some len) w =
        (0, dev', some (answer stack net buf len w).data,
          some (answer stack net buf len w).dataLen, w') ∧
      dev'.outputSize = (answer stack net buf len w).dataLen ∧
      dev'.outputData.bytes.take (answer stack net buf len w).dataLen.toNat =
        (answer stack net buf len w).data.take (answer stack net buf len w).dataLen.toNat
  invalid : ¬ OutputAnswer.Valid (answer stack net buf len w) →
    ∃ ret dev' data w', ioDeviceReadOutput stack dev (some buf) (some len) w =
        (ret, dev', data, some len, w') ∧
      ret ≠ 0 ∧ dev'.outputData = dev.outputData ∧ dev'.outputSize = dev.outputSize

variable {stack : PnetStack build W} {dev : IoDevice} {net : PnetHandle} {buf : Text}
  {len : UInt16} {w : W}

theorem readOutput_accepted (h : dev.pnetHandle = some net)
    (hret : (answer stack net buf len w).ret = 0) :
    ∃ w', ioDeviceReadOutput stack dev (some buf) (some len) w =
      (0, { dev with
        outputData := dev.outputData.memcpy ((answer stack net buf len w).data.take
          (answer stack net buf len w).dataLen.toNat)
        outputSize := (answer stack net buf len w).dataLen },
        some (answer stack net buf len w).data,
        some (answer stack net buf len w).dataLen, w') := by
  refine ⟨(stack.pnetOutputGetDataAndIops net exampleApi exampleSlot exampleSubslotOutput buf len
    w).2, ?_⟩
  rw [answer] at hret ⊢
  simp only [ioDeviceReadOutput, h]
  rw [if_pos hret, hret]

theorem readOutput_rejected (h : dev.pnetHandle = some net)
    (hret : (answer stack net buf len w).ret ≠ 0) :
    ∃ w', ioDeviceReadOutput stack dev (some buf) (some len) w =
      ((answer stack net buf len w).ret, dev, some (answer stack net buf len w).data, some len,
        w') := by
  refine ⟨(stack.pnetOutputGetDataAndIops net exampleApi exampleSlot exampleSubslotOutput buf len
    w).2, ?_⟩
  rw [answer] at hret ⊢
  simp only [ioDeviceReadOutput, h]
  rw [if_neg hret]

theorem copy_of_bounded {a : OutputAnswer} (h : OutputAnswer.Bounded a len)
    (copy : CharArray 256) :
    (copy.memcpy (a.data.take a.dataLen.toNat)).bytes.take a.dataLen.toNat =
      a.data.take a.dataLen.toNat := by
  have hsize : (a.data.take a.dataLen.toNat).length = a.dataLen.toNat := by
    rw [List.length_take]
    exact min_eq_left h.data
  have hfits : (a.data.take a.dataLen.toNat).length ≤ 256 := by
    have hplugged : a.dataLen.toNat ≤ exampleOutputSize.toNat := h.plugged
    rw [hsize]
    exact hplugged.trans (by decide)
  have hcopy := CharArray.memcpy_take copy hfits
  rwa [hsize] at hcopy

/-- The status is respected exactly where an accepted read has good status. -/
theorem status_respected_iff (h : dev.pnetHandle = some net)
    (hbounded : (answer stack net buf len w).ret = 0 →
      OutputAnswer.Bounded (answer stack net buf len w) len) :
    StatusRespected stack dev net buf len w ↔
      ((answer stack net buf len w).ret = 0 → (answer stack net buf len w).iops = .good) := by
  constructor
  · intro hrespected hret
    by_contra hbad
    obtain ⟨ret, dev', data, w', hread, hne, -⟩ :=
      hrespected.invalid (fun hvalid => hbad hvalid.2)
    obtain ⟨w'', haccepted⟩ := readOutput_accepted h hret
    rw [haccepted] at hread
    exact hne (congrArg Prod.fst hread).symm
  · intro hgood
    constructor
    · intro hvalid
      obtain ⟨w', haccepted⟩ := readOutput_accepted h hvalid.1
      exact ⟨_, w', haccepted, rfl, copy_of_bounded (hbounded hvalid.1) dev.outputData⟩
    · intro hinvalid
      have hret : (answer stack net buf len w).ret ≠ 0 :=
        fun hret => hinvalid ⟨hret, hgood hret⟩
      obtain ⟨w', hrejected⟩ := readOutput_rejected h hret
      exact ⟨_, dev, _, w', hrejected, hret, rfl, rfl⟩

def started (stack : PnetStack .mock MockWorld) : IoDevice × MockWorld :=
  after stack (IoDevice.zeroed, .fresh) startCalls

theorem status_respected_one_byte :
    StatusRespected mockStack (started mockStack).1 0 [0x00, 0xFF] 2 (started mockStack).2 :=
  (status_respected_iff rfl (fun _ => ⟨by decide, by decide, by decide⟩)).mpr (fun _ => rfl)

def stoppedController : PnetStack .mock MockWorld :=
  { mockStack with
    pnetOutputGetDataAndIops := fun _ _ _ _ data _ w => (⟨0, 0x07 :: data.tail, 1, .bad⟩, w) }

theorem bad_output_is_passed_on :
    let s := started stoppedController
    let r := ioDeviceReadOutput stoppedController s.1 (some [0x00, 0xFF]) (some 2) s.2
    s.1.state = .connected ∧ (answer stoppedController 0 [0x00, 0xFF] 2 s.2).iops = .bad ∧
      r.1 = 0 ∧ r.2.1.outputSize = 1 ∧ r.2.2.1 = some [0x07, 0xFF] ∧ r.2.2.2.1 = some 1 ∧
      ¬ StatusRespected stoppedController s.1 0 [0x00, 0xFF] 2 s.2 := by
  intro s r
  have hbad : (answer stoppedController 0 [0x00, 0xFF] 2 s.2).iops = .bad := rfl
  refine ⟨rfl, hbad, rfl, rfl, rfl, rfl, fun hrespected => ?_⟩
  obtain ⟨ret, dev, data, w, hread, hne, -⟩ :=
    hrespected.invalid (fun hvalid => absurd hvalid.2 (by rw [hbad]; decide))
  exact hne (congrArg Prod.fst hread).symm

end PnetManager.OutputStatus
