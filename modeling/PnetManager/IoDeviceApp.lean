import PnetManager.CText
import PnetManager.Word32

/-!
# The IO device application

The device record, the stack configuration that `io_device_start` derives from
it, the state callback and the lifecycle and data exchange functions of
`io_device.c`. The p-net stack is a parameter: a state `W` of everything the
stack keeps, and functions on it for the calls that the application makes. The
state events it delivers inside a call are part of that call's answer; the
callback runs on each of them in order.
-/

namespace PnetManager.IoDeviceApp
open CText Word32

/-- `USE_REAL_PNET` off or on -/
inductive Build
  | mock
  | real
deriving DecidableEq

def Build.directoryPathSize : Build → ℕ
  | .mock => 240
  | .real => 128

structure IoDeviceCfg where
  productName : CharArray 26
  stationName : CharArray 241
  interfaceName : CharArray 16
  macAddr : CharArray 6
  ipAddr : UInt32
  netmask : UInt32
  gateway : UInt32
  vendorId : UInt16
  deviceId : UInt16
  tickUs : UInt32
  sendHello : Bool
  fileDirectory : CharArray 240
deriving DecidableEq

def IoDeviceCfg.zeroed : IoDeviceCfg where
  productName := .zeroed _
  stationName := .zeroed _
  interfaceName := .zeroed _
  macAddr := .zeroed _
  ipAddr := 0
  netmask := 0
  gateway := 0
  vendorId := 0
  deviceId := 0
  tickUs := 0
  sendHello := false
  fileDirectory := .zeroed _

inductive IoDeviceState
  | idle
  | initialized
  | connected
  | running
  | error
deriving DecidableEq

abbrev PnetHandle := ℕ

/-- `io_device_t`; `none` is the NULL handle. -/
structure IoDevice where
  config : IoDeviceCfg
  state : IoDeviceState
  pnetHandle : Option PnetHandle
  activeArep : UInt32
  cycleCount : UInt64
  errorCount : UInt64
  inputData : CharArray 256
  outputData : CharArray 256
  inputSize : UInt16
  outputSize : UInt16
deriving DecidableEq

def IoDevice.zeroed : IoDevice where
  config := .zeroed
  state := .idle
  pnetHandle := none
  activeArep := 0
  cycleCount := 0
  errorCount := 0
  inputData := .zeroed _
  outputData := .zeroed _
  inputSize := 0
  outputSize := 0

inductive PnetEvent
  | abort
  | startup
  | prmend
  | applrdy
  | data
deriving DecidableEq

abbrev StateEvent := UInt32 × PnetEvent

structure DeviceId where
  vendorIdHigh : Byte
  vendorIdLow : Byte
  deviceIdHigh : Byte
  deviceIdLow : Byte
deriving DecidableEq

structure Im0 where
  imVendorIdHi : Byte
  imVendorIdLo : Byte
  imOrderId : CharArray 21
  imSerialNumber : CharArray 17
  imHardwareRevision : UInt16
  imSwRevisionPrefix : Byte
  imSwRevisionFunctionalEnhancement : Byte
  imSwRevisionBugFix : Byte
  imSwRevisionInternalChange : Byte
  imRevisionCounter : UInt16
  imProfileId : UInt16
  imProfileSpecificType : UInt16
  imVersionMajor : UInt16
  imVersionMinor : UInt16
  imSupported : UInt16
deriving DecidableEq

structure PnalCfg where
  ifName : CharArray 16
  ipAddr : UInt32
  netmask : UInt32
  gateway : UInt32
  useDhcp : Bool
deriving DecidableEq

structure IpOctets where
  a : Byte
  b : Byte
  c : Byte
  d : Byte
deriving DecidableEq

inductive IfCfg : Build → Type
  | mock (netifName : CharArray 16) (ethAddr : CharArray 6) : IfCfg .mock
  | real (mainNetifName : Text) (ipAddr ipMask ipGateway : IpOctets) (dhcpEnable : Bool) :
      IfCfg .real

/-- The fields of `pnet_cfg_t` that `io_device_start` fills, callbacks left out. -/
structure PnetCfg (build : Build) where
  tickUs : UInt32
  productName : CharArray 26
  stationName : CharArray 241
  deviceId : DeviceId
  oemDeviceId : DeviceId
  im0Data : Im0
  minDeviceInterval : UInt16
  pnalCfg : PnalCfg
  ifCfg : IfCfg build
  numPhysicalPorts : Byte
  sendHello : Bool
  useQualifiedDiagnosis : Bool
  fileDirectory : CharArray build.directoryPathSize

inductive SubmoduleDir
  | noIo
  | input
  | output
  | io
deriving DecidableEq

inductive Ioxs
  | bad
  | good
deriving DecidableEq

inductive PlugCall
  | module (api : UInt32) (slot : UInt16) (moduleIdent : UInt32)
  | submodule (api : UInt32) (slot subslot : UInt16) (moduleIdent submoduleIdent : UInt32)
      (direction : SubmoduleDir) (lengthInput lengthOutput : UInt16)
deriving DecidableEq

/-- The answer of `pnet_output_get_data_and_iops`: the return value and what it
stored through its pointers. -/
structure OutputAnswer where
  ret : ℤ
  data : Text
  dataLen : UInt16
  iops : Ioxs

/-- The calls into the stack. The real build hands the length of the input data
over, the mock build does not. -/
structure PnetStack (build : Build) (W : Type) where
  pnetInit : PnetCfg build → W → Option PnetHandle × W
  pnetPlug : PnetHandle → PlugCall → W → ℤ × W
  pnetHandlePeriodic : PnetHandle → W → List StateEvent × W
  pnetFactoryReset : PnetHandle → W → ℤ × List StateEvent × W
  pnetInputSetDataAndIops : PnetHandle → UInt32 → UInt16 → UInt16 → Text → Option UInt16 →
    Ioxs → W → ℤ × W
  pnetOutputGetDataAndIops : PnetHandle → UInt32 → UInt16 → UInt16 → Text → UInt16 → W →
    OutputAnswer × W

def exampleApi : UInt32 := 0
def exampleSlot : UInt16 := 1
def exampleModuleIdent : UInt32 := 0x30
def exampleSubslotInput : UInt16 := 1
def exampleSubmodInput : UInt32 := 0x31
def exampleInputSize : UInt16 := 1
def exampleSubslotOutput : UInt16 := 2
def exampleSubmodOutput : UInt32 := 0x32
def exampleOutputSize : UInt16 := 1

def pnetApiNoApplicationProfile : UInt32 := 0
def pnetSlotDapIdent : UInt16 := 0
def pnetSubslotDapWholeModule : UInt16 := 0
def pnetSubslotDapInterface1Ident : UInt16 := 0x8000
def pnetSubslotDapInterface1Port1Ident : UInt16 := 0x8001
def pnetModDapIdent : UInt32 := 1
def pnetSubmodDapIdent : UInt32 := 1
def pnetSubmodDapInterface1Ident : UInt32 := 0x8000
def pnetSubmodDapInterface1Port1Ident : UInt32 := 0x8001
def pnetSupportedIm1 : UInt16 := 2

def safeStrncpy {n : ℕ} (dst : CharArray n) (src : Text) : CharArray n :=
  dst.memcpy (src.take (n - 1) ++ [nul])

def idHigh (id : UInt16) : Byte := (id >>> 8).toUInt8
def idLow (id : UInt16) : Byte := (id &&& 0xFF).toUInt8

def deviceIdOf (cfg : IoDeviceCfg) : DeviceId where
  vendorIdHigh := idHigh cfg.vendorId
  vendorIdLow := idLow cfg.vendorId
  deviceIdHigh := idHigh cfg.deviceId
  deviceIdLow := idLow cfg.deviceId

def ipOctets (ip : UInt32) : IpOctets :=
  ⟨(field ip 24).toUInt8, (field ip 16).toUInt8, (field ip 8).toUInt8, (field ip 0).toUInt8⟩

def ifCfgOf (cfg : IoDeviceCfg) : (build : Build) → IfCfg build
  | .mock => .mock (safeStrncpy (.zeroed _) cfg.interfaceName.text) cfg.macAddr
  | .real => .real cfg.interfaceName.text (ipOctets cfg.ipAddr) (ipOctets cfg.netmask)
      (ipOctets cfg.gateway) false

def im0Of (cfg : IoDeviceCfg) : Im0 where
  imVendorIdHi := (deviceIdOf cfg).vendorIdHigh
  imVendorIdLo := (deviceIdOf cfg).vendorIdLow
  imOrderId := safeStrncpy (.zeroed _) (ascii "PNET-IO-DEVICE")
  imSerialNumber := safeStrncpy (.zeroed _) (ascii "00001")
  imHardwareRevision := 1
  imSwRevisionPrefix := 86
  imSwRevisionFunctionalEnhancement := 0
  imSwRevisionBugFix := 1
  imSwRevisionInternalChange := 0
  imRevisionCounter := 0
  imProfileId := 0
  imProfileSpecificType := 0
  imVersionMajor := 1
  imVersionMinor := 0
  imSupported := pnetSupportedIm1

def pnetCfgOf (build : Build) (cfg : IoDeviceCfg) : PnetCfg build where
  tickUs := cfg.tickUs
  productName := safeStrncpy (.zeroed _) cfg.productName.text
  stationName := safeStrncpy (.zeroed _) cfg.stationName.text
  deviceId := deviceIdOf cfg
  oemDeviceId := deviceIdOf cfg
  im0Data := im0Of cfg
  minDeviceInterval := 32
  pnalCfg :=
    { ifName := safeStrncpy (.zeroed _) cfg.interfaceName.text
      ipAddr := cfg.ipAddr
      netmask := cfg.netmask
      gateway := cfg.gateway
      useDhcp := false }
  ifCfg := ifCfgOf cfg build
  numPhysicalPorts := 1
  sendHello := cfg.sendHello
  useQualifiedDiagnosis := false
  fileDirectory := safeStrncpy (.zeroed _) cfg.fileDirectory.text

def appStateIndCb (dev : IoDevice) (e : StateEvent) : IoDevice :=
  let dev := if e.2 = .startup then { dev with activeArep := e.1 } else dev
  if e.2 = .data then { dev with state := .running }
  else if e.2 = .abort then { dev with state := .connected, activeArep := 0 }
  else dev

def deliver (dev : IoDevice) (es : List StateEvent) : IoDevice := es.foldl appStateIndCb dev

theorem deliver_snoc (dev : IoDevice) (es : List StateEvent) (e : StateEvent) :
    deliver dev (es ++ [e]) = appStateIndCb (deliver dev es) e := by
  simp [deliver]

theorem deliver_cases (dev : IoDevice) (es : List StateEvent) :
    ∃ st arep, deliver dev es = { dev with state := st, activeArep := arep } ∧
      (st = dev.state ∨ st = .connected ∨ st = .running) := by
  induction es using List.reverseRecOn with
  | nil => exact ⟨dev.state, dev.activeArep, rfl, Or.inl rfl⟩
  | append_singleton es e ih =>
    obtain ⟨st, arep, hd, hst⟩ := ih
    obtain ⟨a, ev⟩ := e
    rw [deliver_snoc, hd]
    cases ev with
    | abort => exact ⟨.connected, 0, rfl, by simp⟩
    | data => exact ⟨.running, arep, rfl, by simp⟩
    | startup => exact ⟨st, a, rfl, hst⟩
    | prmend => exact ⟨st, arep, rfl, hst⟩
    | applrdy => exact ⟨st, arep, rfl, hst⟩

def plugCalls : List PlugCall :=
  [.module pnetApiNoApplicationProfile pnetSlotDapIdent pnetModDapIdent,
   .submodule pnetApiNoApplicationProfile pnetSlotDapIdent pnetSubslotDapWholeModule
     pnetModDapIdent pnetSubmodDapIdent .noIo 0 0,
   .submodule pnetApiNoApplicationProfile pnetSlotDapIdent pnetSubslotDapInterface1Ident
     pnetModDapIdent pnetSubmodDapInterface1Ident .noIo 0 0,
   .submodule pnetApiNoApplicationProfile pnetSlotDapIdent pnetSubslotDapInterface1Port1Ident
     pnetModDapIdent pnetSubmodDapInterface1Port1Ident .noIo 0 0,
   .module exampleApi exampleSlot exampleModuleIdent,
   .submodule exampleApi exampleSlot exampleSubslotInput exampleModuleIdent exampleSubmodInput
     .input exampleInputSize 0,
   .submodule exampleApi exampleSlot exampleSubslotOutput exampleModuleIdent exampleSubmodOutput
     .output 0 exampleOutputSize]

variable {build : Build} {W : Type} (stack : PnetStack build W)

def plugAll (net : PnetHandle) : List PlugCall → W → ℤ × W
  | [], w => (0, w)
  | c :: cs, w =>
    let (ret, w) := stack.pnetPlug net c w
    if ret ≠ 0 then (ret, w) else plugAll net cs w

def plugAllModules (net : PnetHandle) (w : W) : ℤ × W := plugAll stack net plugCalls w

def ioDeviceInit (dev : IoDevice) : Option IoDeviceCfg → ℤ × IoDevice
  | none => (-1, dev)
  | some cfg =>
    (0, { config := cfg
          state := .initialized
          pnetHandle := none
          activeArep := 0
          cycleCount := 0
          errorCount := 0
          inputSize := exampleInputSize
          outputSize := exampleOutputSize
          inputData := .zeroed _
          outputData := .zeroed _ })

def ioDeviceStart (dev : IoDevice) (w : W) : ℤ × IoDevice × W :=
  if dev.state ≠ .initialized then (-1, dev, w)
  else
    match stack.pnetInit (pnetCfgOf build dev.config) w with
    | (none, w) => (-1, { dev with pnetHandle := none, state := .error }, w)
    | (some net, w) =>
      let dev := { dev with pnetHandle := some net }
      let (ret, w) := plugAllModules stack net w
      if ret ≠ 0 then (-1, { dev with state := .error }, w)
      else (0, { dev with state := .connected }, w)

def ioDeviceTick (dev : IoDevice) (w : W) : ℤ × IoDevice × W :=
  match dev.pnetHandle with
  | none => (-1, dev, w)
  | some net =>
    if dev.state = .error then (-1, dev, w)
    else
      let (es, w) := stack.pnetHandlePeriodic net w
      let dev := deliver dev es
      (0, { dev with cycleCount := dev.cycleCount + 1 }, w)

def ioDeviceCleanup (_ : IoDevice) : IoDevice := .zeroed

/-- `io_device_stop`; a failing reset is only reported. -/
def ioDeviceStop (dev : IoDevice) (w : W) : ℤ × IoDevice × W :=
  match dev.pnetHandle with
  | none => (-1, dev, w)
  | some net =>
    let (_, es, w) := stack.pnetFactoryReset net w
    (0, ioDeviceCleanup (deliver dev es), w)

def inputLength : Build → UInt16 → Option UInt16
  | .mock, _ => none
  | .real, len => some len

def ioDeviceUpdateInput (dev : IoDevice) (data : Option Text) (len : UInt16) (w : W) :
    ℤ × IoDevice × W :=
  match dev.pnetHandle, data with
  | some net, some data =>
    if 256 < len then (-1, dev, w)
    else
      let dev := { dev with
        inputData := dev.inputData.memcpy (data.take len.toNat), inputSize := len }
      let (ret, w) := stack.pnetInputSetDataAndIops net exampleApi exampleSlot
        exampleSubslotInput data (inputLength build len) .good w
      (ret, dev, w)
  | _, _ => (-1, dev, w)

def ioDeviceReadOutput (dev : IoDevice) (data : Option Text) (len : Option UInt16) (w : W) :
    ℤ × IoDevice × Option Text × Option UInt16 × W :=
  match dev.pnetHandle, data, len with
  | some net, some buf, some dataLen =>
    let (r, w) := stack.pnetOutputGetDataAndIops net exampleApi exampleSlot
      exampleSubslotOutput buf dataLen w
    if r.ret = 0 then
      let dev := { dev with
        outputData := dev.outputData.memcpy (r.data.take r.dataLen.toNat)
        outputSize := r.dataLen }
      (r.ret, dev, some r.data, some r.dataLen, w)
    else (r.ret, dev, some r.data, some dataLen, w)
  | _, _, _ => (-1, dev, data, len, w)

inductive Call
  | init (cfg : Option IoDeviceCfg)
  | start
  | tick
  | stop
  | cleanup
  | updateInput (data : Option Text) (len : UInt16)
  | readOutput (data : Option Text) (len : Option UInt16)

def Call.exec : Call → IoDevice × W → ℤ × IoDevice × W
  | .init cfg, (dev, w) =>
    let (ret, dev) := ioDeviceInit dev cfg
    (ret, dev, w)
  | .start, (dev, w) => ioDeviceStart stack dev w
  | .tick, (dev, w) => ioDeviceTick stack dev w
  | .stop, (dev, w) => ioDeviceStop stack dev w
  | .cleanup, (dev, w) => (0, ioDeviceCleanup dev, w)
  | .updateInput data len, (dev, w) => ioDeviceUpdateInput stack dev data len w
  | .readOutput data len, (dev, w) =>
    let (ret, dev, _, _, w) := ioDeviceReadOutput stack dev data len w
    (ret, dev, w)

end PnetManager.IoDeviceApp
