import PnetManager.IoDeviceApp

/-!
# The configuration that the stack is given

What `io_device_start` copies and splits comes together again in the configuration
of the stack. Only the directory has less room there, in the build with the real
stack.
-/

namespace PnetManager.StackConfig
open CText Word32 IoDeviceApp

set_option maxRecDepth 2000

variable {build : Build} {W : Type}

def spied (stack : PnetStack build W) : PnetStack build (W × List (PnetCfg build)) where
  pnetInit cfg w :=
    let (net, w') := stack.pnetInit cfg w.1
    (net, w', w.2 ++ [cfg])
  pnetPlug net c w :=
    let (ret, w') := stack.pnetPlug net c w.1
    (ret, w', w.2)
  pnetHandlePeriodic net w :=
    let (es, w') := stack.pnetHandlePeriodic net w.1
    (es, w', w.2)
  pnetFactoryReset net w :=
    let (ret, es, w') := stack.pnetFactoryReset net w.1
    (ret, es, w', w.2)
  pnetInputSetDataAndIops net api slot subslot data len iops w :=
    let (ret, w') := stack.pnetInputSetDataAndIops net api slot subslot data len iops w.1
    (ret, w', w.2)
  pnetOutputGetDataAndIops net api slot subslot data len w :=
    let (answer, w') := stack.pnetOutputGetDataAndIops net api slot subslot data len w.1
    (answer, w', w.2)

theorem plugAll_spied (stack : PnetStack build W) (net : PnetHandle) (cs : List PlugCall)
    (w : W × List (PnetCfg build)) : (plugAll (spied stack) net cs w).2.2 = w.2 := by
  induction cs generalizing w with
  | nil => rfl
  | cons c cs ih =>
    rcases hplug : (spied stack).pnetPlug net c w with ⟨ret, w'⟩
    have hseen : w'.2 = w.2 := (congrArg (fun r => r.2.2) hplug).symm
    simp only [plugAll, hplug]
    split_ifs
    · exact hseen
    · exact (ih w').trans hseen

theorem started_with (stack : PnetStack build W) (dev : IoDevice) (w : W) :
    (ioDeviceStart (spied stack) dev (w, [])).2.2.2 =
      if dev.state = .initialized then [pnetCfgOf build dev.config] else [] := by
  by_cases hstate : dev.state = .initialized
  · have hinit : (spied stack).pnetInit (pnetCfgOf build dev.config) (w, []) =
        ((stack.pnetInit (pnetCfgOf build dev.config) w).1,
          (stack.pnetInit (pnetCfgOf build dev.config) w).2, [pnetCfgOf build dev.config]) := rfl
    rw [ioDeviceStart, if_neg (not_not.mpr hstate), if_pos hstate, hinit]
    cases (stack.pnetInit (pnetCfgOf build dev.config) w).1 with
    | none => rfl
    | some net =>
      rcases hplug : plugAllModules (spied stack) net
        ((stack.pnetInit (pnetCfgOf build dev.config) w).2, [pnetCfgOf build dev.config])
        with ⟨ret, w'⟩
      have hseen := plugAll_spied stack net plugCalls
        ((stack.pnetInit (pnetCfgOf build dev.config) w).2, [pnetCfgOf build dev.config])
      rw [← plugAllModules, hplug] at hseen
      simp only [hplug]
      split_ifs <;> exact hseen
  · rw [ioDeviceStart, if_pos hstate, if_neg hstate]

def IpOctets.value (o : IpOctets) : ℕ :=
  o.a.toNat * 2 ^ 24 + o.b.toNat * 2 ^ 16 + o.c.toNat * 2 ^ 8 + o.d.toNat

def Identifies (vendorId deviceId : UInt16) (id : DeviceId) : Prop :=
  id.vendorIdHigh.toNat * 256 + id.vendorIdLow.toNat = vendorId.toNat ∧
    id.deviceIdHigh.toNat * 256 + id.deviceIdLow.toNat = deviceId.toNat

def IfCfg.Carries (cfg : IoDeviceCfg) : {build : Build} → IfCfg build → Prop
  | _, .mock netifName _ => netifName.text = cfg.interfaceName.text
  | _, .real mainNetifName ipAddr ipMask ipGateway _ =>
    mainNetifName = cfg.interfaceName.text ∧ IpOctets.value ipAddr = cfg.ipAddr.toNat ∧
      IpOctets.value ipMask = cfg.netmask.toNat ∧ IpOctets.value ipGateway = cfg.gateway.toNat

structure Lossless (cfg : IoDeviceCfg) (pc : PnetCfg build) : Prop where
  productName : pc.productName.text = cfg.productName.text
  stationName : pc.stationName.text = cfg.stationName.text
  ifName : pc.pnalCfg.ifName.text = cfg.interfaceName.text
  fileDirectory : pc.fileDirectory.text = cfg.fileDirectory.text
  deviceId : Identifies cfg.vendorId cfg.deviceId pc.deviceId
  oemDeviceId : Identifies cfg.vendorId cfg.deviceId pc.oemDeviceId
  im0Vendor : pc.im0Data.imVendorIdHi.toNat * 256 + pc.im0Data.imVendorIdLo.toNat =
    cfg.vendorId.toNat
  addresses : pc.pnalCfg.ipAddr = cfg.ipAddr ∧ pc.pnalCfg.netmask = cfg.netmask ∧
    pc.pnalCfg.gateway = cfg.gateway
  ifCfg : IfCfg.Carries cfg pc.ifCfg

theorem idHigh_idLow (id : UInt16) : (idHigh id).toNat * 256 + (idLow id).toNat = id.toNat := by
  have hlt := id.toNat_lt
  have hlow := Nat.and_two_pow_sub_one_eq_mod id.toNat 8
  simp only [idHigh, idLow, UInt16.toNat_toUInt8, UInt16.toNat_shiftRight, UInt16.toNat_and,
    UInt16.reduceToNat, Nat.reduceMod, Nat.shiftRight_eq_div_pow]
  norm_num at hlow ⊢
  omega

theorem value_ipOctets (ip : UInt32) : IpOctets.value (ipOctets ip) = ip.toNat := by
  have hword : ofOctets (ipOctets ip).a (ipOctets ip).b (ipOctets ip).c (ipOctets ip).d = ip := by
    simp only [ipOctets, ofOctets, field_toUInt8_toUInt32, quad_fields]
  rw [IpOctets.value, ← toNat_ofOctets, hword]

theorem safeStrncpy_text {n : ℕ} (hn : 0 < n) (dst : CharArray n) {src : Text} (h : nul ∉ src) :
    (safeStrncpy dst src).text = src.take (n - 1) := by
  have hnul : nul ∉ src.take (n - 1) := fun hm => h (List.mem_of_mem_take hm)
  have hlen : (src.take (n - 1)).length ≤ n - 1 := List.length_take_le ..
  have hroom : n - (src.take (n - 1)).length = n - 1 - (src.take (n - 1)).length + 1 := by omega
  have hbytes (rest : Text) : cstr ((src.take (n - 1) ++ [nul] ++ rest).take n) =
      src.take (n - 1) := by
    rw [List.append_assoc, List.singleton_append, List.take_append,
      List.take_of_length_le (by omega), hroom, List.take_succ_cons]
    exact cstr_append_nul hnul _
  exact hbytes _

theorem safeStrncpy_text_eq_iff {n : ℕ} (hn : 0 < n) (dst : CharArray n) {src : Text}
    (h : nul ∉ src) : (safeStrncpy dst src).text = src ↔ src.length ≤ n - 1 := by
  rw [safeStrncpy_text hn dst h, List.take_eq_self_iff]

theorem safeStrncpy_text_of_terminated {n : ℕ} (dst : CharArray n) {src : CharArray n}
    (h : src.Terminated) : (safeStrncpy dst src.text).text = src.text := by
  have hlt := h.length_lt
  rw [safeStrncpy_text_eq_iff (by omega) dst src.nul_not_mem_text]
  omega

structure StringsTerminated (cfg : IoDeviceCfg) : Prop where
  productName : cfg.productName.Terminated
  stationName : cfg.stationName.Terminated
  interfaceName : cfg.interfaceName.Terminated
  fileDirectory : cfg.fileDirectory.Terminated

theorem carries_ifCfgOf {cfg : IoDeviceCfg} (h : cfg.interfaceName.Terminated) (build : Build) :
    IfCfg.Carries cfg (ifCfgOf cfg build) := by
  cases build with
  | mock => exact safeStrncpy_text_of_terminated _ h
  | real => exact ⟨rfl, value_ipOctets _, value_ipOctets _, value_ipOctets _⟩

theorem fileDirectory_iff {cfg : IoDeviceCfg} (h : cfg.fileDirectory.Terminated)
    (build : Build) :
    (pnetCfgOf build cfg).fileDirectory.text = cfg.fileDirectory.text ↔
      build = .mock ∨ cfg.fileDirectory.text.length ≤ 127 := by
  have hlt := h.length_lt
  have hpos : 0 < build.directoryPathSize := by cases build <;> decide
  change (safeStrncpy (CharArray.zeroed build.directoryPathSize) cfg.fileDirectory.text).text = _ ↔
    _
  rw [safeStrncpy_text_eq_iff hpos _ cfg.fileDirectory.nul_not_mem_text]
  cases build with
  | mock =>
    simp only [Build.directoryPathSize, true_or, iff_true]
    omega
  | real => simp [Build.directoryPathSize]

theorem lossless_iff {cfg : IoDeviceCfg} (h : StringsTerminated cfg) (build : Build) :
    Lossless cfg (pnetCfgOf build cfg) ↔
      build = .mock ∨ cfg.fileDirectory.text.length ≤ 127 := by
  rw [← fileDirectory_iff h.fileDirectory build]
  constructor
  · exact Lossless.fileDirectory
  · intro hdirectory
    exact
      { productName := safeStrncpy_text_of_terminated _ h.productName
        stationName := safeStrncpy_text_of_terminated _ h.stationName
        ifName := safeStrncpy_text_of_terminated _ h.interfaceName
        fileDirectory := hdirectory
        deviceId := ⟨idHigh_idLow _, idHigh_idLow _⟩
        oemDeviceId := ⟨idHigh_idLow _, idHigh_idLow _⟩
        im0Vendor := idHigh_idLow _
        addresses := ⟨rfl, rfl, rfl⟩
        ifCfg := carries_ifCfgOf h.interfaceName build }

/-- What the stack is started with is the whole configuration, except where the
directory is longer than the array of the real stack. -/
theorem start_lossless_iff (stack : PnetStack build W) (dev : IoDevice) (w : W)
    (hstate : dev.state = .initialized) (h : StringsTerminated dev.config) :
    (∃ pc, (ioDeviceStart (spied stack) dev (w, [])).2.2.2 = [pc] ∧ Lossless dev.config pc) ↔
      build = .mock ∨ dev.config.fileDirectory.text.length ≤ 127 := by
  rw [started_with, if_pos hstate, ← lossless_iff h build]
  constructor
  · intro hex
    obtain ⟨pc, hpc, hlossless⟩ := hex
    rw [(List.singleton_inj.mp hpc)]
    exact hlossless
  · intro hlossless
    exact ⟨_, rfl, hlossless⟩

def refusing (build : Build) : PnetStack build Unit where
  pnetInit _ w := (none, w)
  pnetPlug _ _ w := (0, w)
  pnetHandlePeriodic _ w := ([], w)
  pnetFactoryReset _ w := (0, [], w)
  pnetInputSetDataAndIops _ _ _ _ _ _ _ w := (0, w)
  pnetOutputGetDataAndIops _ _ _ _ data len w := (⟨-1, data, len, .bad⟩, w)

def longDirectory : Text := 47 :: List.replicate 127 97

def deviceIn (directory : Text) : IoDevice :=
  { IoDevice.zeroed with
    state := .initialized
    config := { IoDeviceCfg.zeroed with fileDirectory := .ofText 240 directory } }

theorem start_lossless_iff_short :
    ∃ pc, (ioDeviceStart (spied (refusing .real)) (deviceIn (ascii "/tmp/pnet")) ((), [])).2.2.2 =
        [pc] ∧ Lossless (deviceIn (ascii "/tmp/pnet")).config pc :=
  (start_lossless_iff (refusing .real) (deviceIn (ascii "/tmp/pnet")) () rfl
    ⟨by decide, by decide, by decide, by decide⟩).mpr (Or.inr (by decide))

theorem directory_is_cut :
    let dev := deviceIn longDirectory
    StringsTerminated dev.config ∧ dev.config.fileDirectory.text = longDirectory ∧
      (pnetCfgOf .real dev.config).fileDirectory.text = longDirectory.dropLast ∧
      ¬ ∃ pc, (ioDeviceStart (spied (refusing .real)) dev ((), [])).2.2.2 = [pc] ∧
        Lossless dev.config pc := by
  intro dev
  have hnul : nul ∉ longDirectory := by decide
  have htext : dev.config.fileDirectory.text = longDirectory :=
    CharArray.ofText_text_of_fits hnul (by decide)
  have hcut : (pnetCfgOf .real dev.config).fileDirectory.text = longDirectory.dropLast := by
    change (safeStrncpy (CharArray.zeroed 128) dev.config.fileDirectory.text).text = _
    rw [htext, safeStrncpy_text (by norm_num) _ hnul]
    decide
  refine ⟨⟨by decide, by decide, by decide, by decide⟩, htext, hcut, fun hex => ?_⟩
  obtain ⟨pc, hpc, hlossless⟩ := hex
  have hstate : dev.state = .initialized := rfl
  rw [started_with, if_pos hstate] at hpc
  have hdirectory := hlossless.fileDirectory
  rw [← List.singleton_inj.mp hpc, hcut, htext] at hdirectory
  exact absurd hdirectory (by decide)

end PnetManager.StackConfig
