import PnetManager.CNumber
import PnetManager.CStdio
import PnetManager.IoDeviceApp
import PnetManager.NetworkConfig
import PnetManager.RtSetup
import PnetManager.SecurityPolicy

/-!
# The application configuration

Defaults, loading, saving and validation of `app_config.c`. A file is its
bytes, `none` where `fopen` fails; pointer arguments are not NULL.
-/

namespace PnetManager.ConfigFile
open CText CNumber CStdio Word32 IoDeviceApp NetworkConfig SecurityPolicy RtSetup

structure AppConfig where
  device : IoDeviceCfg
  network : NetIfConfig
  tcpTuning : TcpTuningConfig
  security : SecPolicy
  securityEnabled : Bool
  realtime : RtConfig
  realtimeEnabled : Bool
  logLevel : Int32
  logFile : CharArray 256
  configFile : CharArray 256
deriving DecidableEq

/-- `strip`; the second loop stops in front of the first character that is left. -/
def strip (s : Text) : Text :=
  match s.dropWhile isspace with
  | [] => []
  | c :: rest => c :: rest.rdropWhile isspace

/-- `sscanf(str, "%u.%u.%u.%u", …)`; `none` unless it returns 4. -/
def scanQuad (str : Text) : Option (UInt32 × UInt32 × UInt32 × UInt32) := do
  let (a, s) ← scanU str
  let (b, s) ← scanU (← scanChar 46 s)
  let (c, s) ← scanU (← scanChar 46 s)
  let (d, _) ← scanU (← scanChar 46 s)
  return (a, b, c, d)

def parseIp (str : Text) : UInt32 :=
  match scanQuad str with
  | none => 0
  | some (a, b, c, d) =>
    if 255 < a ∨ 255 < b ∨ 255 < c ∨ 255 < d then 0 else quad a b c d

def formatIp (ip : UInt32) : Text :=
  (fmtQuad (field ip 24).toNat (field ip 16).toNat (field ip 8).toNat (field ip 0).toNat).take 15

def parseBool (val : Text) : Bool := val = ascii "true" ∨ val = ascii "1"

def formatBool (b : Bool) : Text := if b then ascii "true" else ascii "false"

inductive Key
  | productName
  | stationName
  | interface
  | ipAddr
  | netmask
  | gateway
  | vendorId
  | deviceId
  | tickUs
  | sendHello
  | fileDirectory
  | logLevel
  | logFile
  | securityEnabled
  | realtimeEnabled
  | rtPriority
  | rtScheduling
  | lockMemory
  | isolateCpu
deriving DecidableEq

def Key.all : List Key :=
  [.productName, .stationName, .interface, .ipAddr, .netmask, .gateway, .vendorId, .deviceId,
   .tickUs, .sendHello, .fileDirectory, .logLevel, .logFile, .securityEnabled, .realtimeEnabled,
   .rtPriority, .rtScheduling, .lockMemory, .isolateCpu]

def Key.name : Key → Text
  | .productName => ascii "product_name"
  | .stationName => ascii "station_name"
  | .interface => ascii "interface"
  | .ipAddr => ascii "ip_addr"
  | .netmask => ascii "netmask"
  | .gateway => ascii "gateway"
  | .vendorId => ascii "vendor_id"
  | .deviceId => ascii "device_id"
  | .tickUs => ascii "tick_us"
  | .sendHello => ascii "send_hello"
  | .fileDirectory => ascii "file_directory"
  | .logLevel => ascii "log_level"
  | .logFile => ascii "log_file"
  | .securityEnabled => ascii "security_enabled"
  | .realtimeEnabled => ascii "realtime_enabled"
  | .rtPriority => ascii "rt_priority"
  | .rtScheduling => ascii "rt_scheduling"
  | .lockMemory => ascii "lock_memory"
  | .isolateCpu => ascii "isolate_cpu"

def Key.ofText (key : Text) : Option Key := Key.all.find? fun k => k.name = key

def Key.apply (cfg : AppConfig) (val : Text) : Key → AppConfig
  | .productName => { cfg with device.productName := cfg.device.productName.strncpy val 25 }
  | .stationName => { cfg with device.stationName := cfg.device.stationName.strncpy val 240 }
  | .interface =>
    { cfg with
      device.interfaceName := cfg.device.interfaceName.strncpy val 15
      network.ifName := cfg.network.ifName.strncpy val 15 }
  | .ipAddr =>
    let ip := parseIp val
    { cfg with device.ipAddr := ip, network.ipAddr := ip }
  | .netmask =>
    let mask := parseIp val
    { cfg with device.netmask := mask, network.netmask := mask }
  | .gateway =>
    let gw := parseIp val
    { cfg with device.gateway := gw, network.gateway := gw }
  | .vendorId => { cfg with device.vendorId := UInt16.ofNat (strtoul val) }
  | .deviceId => { cfg with device.deviceId := UInt16.ofNat (strtoul val) }
  | .tickUs => { cfg with device.tickUs := UInt32.ofNat (strtoul val) }
  | .sendHello => { cfg with device.sendHello := parseBool val }
  | .fileDirectory =>
    { cfg with device.fileDirectory := cfg.device.fileDirectory.strncpy val 239 }
  | .logLevel => { cfg with logLevel := atoi val }
  | .logFile => { cfg with logFile := cfg.logFile.strncpy val 255 }
  | .securityEnabled => { cfg with securityEnabled := parseBool val }
  | .realtimeEnabled => { cfg with realtimeEnabled := parseBool val }
  | .rtPriority => { cfg with realtime.rtPriority := atoi val }
  | .rtScheduling => { cfg with realtime.useRtScheduling := parseBool val }
  | .lockMemory => { cfg with realtime.lockMemory := parseBool val }
  | .isolateCpu => { cfg with realtime.isolateCpu := atoi val }

/-- `apply_kv`; an unknown key is ignored. -/
def applyKv (cfg : AppConfig) (key val : Text) : AppConfig :=
  match Key.ofText key with
  | some k => k.apply cfg val
  | none => cfg

def appConfigDefault : AppConfig where
  device :=
    { IoDeviceCfg.zeroed with
      productName := (CharArray.zeroed _).strncpy (ascii "p-net IO Device") 25
      stationName := (CharArray.zeroed _).strncpy (ascii "iodevice1") 240
      interfaceName := (CharArray.zeroed _).strncpy (ascii "eth0") 15
      ipAddr := parseIp (ascii "192.168.0.100")
      netmask := parseIp (ascii "255.255.255.0")
      gateway := parseIp (ascii "192.168.0.1")
      vendorId := 0x0001
      deviceId := 0x0001
      tickUs := 1000
      sendHello := true
      fileDirectory := (CharArray.zeroed _).strncpy (ascii "/tmp/pnet") 239 }
  network :=
    { NetIfConfig.zeroed with
      ifName := (CharArray.zeroed _).strncpy (ascii "eth0") 15
      ipAddr := parseIp (ascii "192.168.0.100")
      netmask := parseIp (ascii "255.255.255.0")
      gateway := parseIp (ascii "192.168.0.1")
      configured := true }
  tcpTuning := .zeroed
  security := (secPolicyInit .zeroed).2
  securityEnabled := true
  realtime := rtConfigDefault
  realtimeEnabled := true
  logLevel := 2
  logFile := (CharArray.zeroed _).strncpy (ascii "/var/log/pnet-manager.log") 255
  configFile := (CharArray.zeroed _).strncpy (ascii "/etc/pnet-manager/config.conf") 255

def cutLine (line : Text) : Text := (cstr line).takeWhile fun b => b ≠ cr ∧ b ≠ lf

/-- The key and the value of a line, `none` where the loop continues or has
nothing to apply. -/
def splitLine (line : Text) : Option (Text × Text) :=
  let trimmed := strip (cutLine line)
  match trimmed.head? with
  | none => none
  | some c =>
    if c = 35 ∨ c = 59 then none
    else
      match trimmed.dropWhile (· ≠ 61) with
      | [] => none
      | _ :: rest =>
        let key := strip (trimmed.takeWhile (· ≠ 61))
        let val := strip rest
        if key ≠ [] ∧ val ≠ [] then some (key, val) else none

def loadLine (cfg : AppConfig) (line : Text) : AppConfig :=
  match splitLine line with
  | some (key, val) => applyKv cfg key val
  | none => cfg

def appConfigLoad (cfg : AppConfig) (path : Text) : Option Text → ℤ × AppConfig
  | none => (-1, cfg)
  | some file =>
    let cfg := { appConfigDefault with
      configFile := appConfigDefault.configFile.strncpy path 255 }
    (0, (fgetsAll 512 file).foldl loadLine cfg)

def assignments (file : Text) : List (Text × Text) := (fgetsAll 512 file).filterMap splitLine

theorem foldl_loadLine (cfg : AppConfig) (lines : List Text) :
    lines.foldl loadLine cfg =
      (lines.filterMap splitLine).foldl (fun c p => applyKv c p.1 p.2) cfg := by
  induction lines generalizing cfg with
  | nil => rfl
  | cons line lines ih =>
    rw [List.foldl_cons, ih, List.filterMap_cons, loadLine]
    cases splitLine line <;> rfl

theorem appConfigLoad_assignments (cfg : AppConfig) (path file : Text) :
    appConfigLoad cfg path (some file) =
      (0, (assignments file).foldl (fun c p => applyKv c p.1 p.2)
        { appConfigDefault with
          configFile := appConfigDefault.configFile.strncpy path 255 }) := by
  rw [appConfigLoad, foldl_loadLine]
  rfl

def Key.print (cfg : AppConfig) : Key → Text
  | .productName => cfg.device.productName.text
  | .stationName => cfg.device.stationName.text
  | .interface => cfg.device.interfaceName.text
  | .ipAddr => formatIp cfg.device.ipAddr
  | .netmask => formatIp cfg.device.netmask
  | .gateway => formatIp cfg.device.gateway
  | .vendorId => 48 :: 120 :: fmtX4 cfg.device.vendorId.toNat
  | .deviceId => 48 :: 120 :: fmtX4 cfg.device.deviceId.toNat
  | .tickUs => fmtU cfg.device.tickUs.toNat
  | .sendHello => formatBool cfg.device.sendHello
  | .fileDirectory => cfg.device.fileDirectory.text
  | .logLevel => fmtD cfg.logLevel.toInt
  | .logFile => cfg.logFile.text
  | .securityEnabled => formatBool cfg.securityEnabled
  | .realtimeEnabled => formatBool cfg.realtimeEnabled
  | .rtPriority => fmtD cfg.realtime.rtPriority.toInt
  | .rtScheduling => formatBool cfg.realtime.useRtScheduling
  | .lockMemory => formatBool cfg.realtime.lockMemory
  | .isolateCpu => fmtD cfg.realtime.isolateCpu.toInt

def Key.line (cfg : AppConfig) (k : Key) : Text := k.name ++ 61 :: k.print cfg

def saveLines (cfg : AppConfig) : List Text :=
  [ascii "# p-net IO Device Manager Configuration",
   ascii "# Auto-generated - edit with care",
   [],
   ascii "# IO Device",
   Key.productName.line cfg,
   Key.stationName.line cfg,
   Key.interface.line cfg,
   Key.ipAddr.line cfg,
   Key.netmask.line cfg,
   Key.gateway.line cfg,
   Key.vendorId.line cfg,
   Key.deviceId.line cfg,
   Key.tickUs.line cfg,
   Key.sendHello.line cfg,
   Key.fileDirectory.line cfg,
   [],
   ascii "# Logging",
   Key.logLevel.line cfg,
   Key.logFile.line cfg,
   [],
   ascii "# Security",
   Key.securityEnabled.line cfg,
   [],
   ascii "# Real-time",
   Key.realtimeEnabled.line cfg,
   Key.rtPriority.line cfg,
   Key.rtScheduling.line cfg,
   Key.lockMemory.line cfg,
   Key.isolateCpu.line cfg]

/-- `app_config_save`: the return value and the file, which stays as it is where
`fopen` fails. -/
def appConfigSave (cfg : AppConfig) (opened : Bool) (file : Option Text) : ℤ × Option Text :=
  if opened then (0, some ((saveLines cfg).flatMap fun l => l ++ [lf])) else (-1, file)

def validateError (cfg : AppConfig) : Option Text :=
  if cfg.device.interfaceName.text = [] then
    some (ascii "config: interface name is empty\n")
  else if cfg.device.ipAddr = 0 then
    some (ascii "config: ip_addr is not set or invalid\n")
  else if cfg.device.ipAddr = 0 ∨ cfg.device.ipAddr = 0xFFFFFFFF then
    some (ascii "config: ip_addr is reserved (0.0.0.0 or 255.255.255.255)\n")
  else if cfg.device.tickUs = 0 then
    some (ascii "config: tick_us must be > 0\n")
  else if cfg.device.vendorId = 0 then
    some (ascii "config: vendor_id is not set\n")
  else if cfg.device.deviceId = 0 then
    some (ascii "config: device_id is not set\n")
  else if cfg.logLevel < 0 ∨ 3 < cfg.logLevel then
    some (ascii "config: log_level must be 0-3\n")
  else if cfg.realtimeEnabled ∧ (cfg.realtime.rtPriority < 1 ∨ 99 < cfg.realtime.rtPriority) then
    some (ascii "config: rt_priority must be 1-99 when realtime is enabled\n")
  else none

def appConfigValidate (cfg : AppConfig) : ℤ := if validateError cfg = none then 0 else -1

end PnetManager.ConfigFile
