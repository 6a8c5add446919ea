import PnetManager.ConfigKeys

/-!
# What a file makes of each key

A loaded configuration is given by one reading for each key: that of the last
value of the key, or the default. Two files load to the same configuration
exactly when they give every key the same reading.
-/

namespace PnetManager.ConfigReadings
open CText CNumber IoDeviceApp NetworkConfig RtSetup ConfigFile ConfigRoundTrip ConfigKeys

set_option maxRecDepth 2000

inductive Reading
  | bytes (t : Text)
  | half (n : UInt16)
  | word (n : UInt32)
  | int (n : Int32)
  | bool (b : Bool)
deriving DecidableEq

def reading (val : Text) : Key → Reading
  | .productName => .bytes (CharArray.ofText 26 val).bytes
  | .stationName => .bytes (CharArray.ofText 241 val).bytes
  | .interface => .bytes (CharArray.ofText 16 val).bytes
  | .ipAddr => .word (parseIp val)
  | .netmask => .word (parseIp val)
  | .gateway => .word (parseIp val)
  | .vendorId => .half (UInt16.ofNat (strtoul val))
  | .deviceId => .half (UInt16.ofNat (strtoul val))
  | .tickUs => .word (UInt32.ofNat (strtoul val))
  | .sendHello => .bool (parseBool val)
  | .fileDirectory => .bytes (CharArray.ofText 240 val).bytes
  | .logLevel => .int (atoi val)
  | .logFile => .bytes (CharArray.ofText 256 val).bytes
  | .securityEnabled => .bool (parseBool val)
  | .realtimeEnabled => .bool (parseBool val)
  | .rtPriority => .int (atoi val)
  | .rtScheduling => .bool (parseBool val)
  | .lockMemory => .bool (parseBool val)
  | .isolateCpu => .int (atoi val)

def setting (cfg : AppConfig) : Key → Reading
  | .productName => .bytes cfg.device.productName.bytes
  | .stationName => .bytes cfg.device.stationName.bytes
  | .interface => .bytes cfg.device.interfaceName.bytes
  | .ipAddr => .word cfg.device.ipAddr
  | .netmask => .word cfg.device.netmask
  | .gateway => .word cfg.device.gateway
  | .vendorId => .half cfg.device.vendorId
  | .deviceId => .half cfg.device.deviceId
  | .tickUs => .word cfg.device.tickUs
  | .sendHello => .bool cfg.device.sendHello
  | .fileDirectory => .bytes cfg.device.fileDirectory.bytes
  | .logLevel => .int cfg.logLevel
  | .logFile => .bytes cfg.logFile.bytes
  | .securityEnabled => .bool cfg.securityEnabled
  | .realtimeEnabled => .bool cfg.realtimeEnabled
  | .rtPriority => .int cfg.realtime.rtPriority
  | .rtScheduling => .bool cfg.realtime.useRtScheduling
  | .lockMemory => .bool cfg.realtime.lockMemory
  | .isolateCpu => .int cfg.realtime.isolateCpu

attribute [ext] AppConfig IoDeviceCfg RtConfig

def freshConfig (path : Text) : AppConfig :=
  { appConfigDefault with configFile := appConfigDefault.configFile.strncpy path 255 }

structure Loaded (base cfg : AppConfig) : Prop where
  productName : cfg.device.productName.Capped
  stationName : cfg.device.stationName.Capped
  interfaceName : cfg.device.interfaceName.Capped
  fileDirectory : cfg.device.fileDirectory.Capped
  logFile : cfg.logFile.Capped
  network : cfg.network =
    { base.network with
      ifName := cfg.device.interfaceName
      ipAddr := cfg.device.ipAddr
      netmask := cfg.device.netmask
      gateway := cfg.device.gateway }
  macAddr : cfg.device.macAddr = base.device.macAddr
  tcpTuning : cfg.tcpTuning = base.tcpTuning
  security : cfg.security = base.security
  disableCpuFreq : cfg.realtime.disableCpuFreq = base.realtime.disableCpuFreq
  disableIrqBalance : cfg.realtime.disableIrqBalance = base.realtime.disableIrqBalance
  configFile : cfg.configFile = base.configFile

theorem capped_strncpy {n : ℕ} (hn : 0 < n) {dst : CharArray n} (h : dst.Capped) (val : Text) :
    (dst.strncpy val (n - 1)).Capped := by
  rw [CharArray.strncpy_capped h]
  exact CharArray.ofText_capped hn val

theorem loaded_freshConfig (path : Text) : Loaded (freshConfig path) (freshConfig path) where
  productName := zeroed_strncpy_capped (by norm_num) _
  stationName := zeroed_strncpy_capped (by norm_num) _
  interfaceName := zeroed_strncpy_capped (by norm_num) _
  fileDirectory := zeroed_strncpy_capped (by norm_num) _
  logFile := zeroed_strncpy_capped (by norm_num) _
  network := rfl
  macAddr := rfl
  tcpTuning := rfl
  security := rfl
  disableCpuFreq := rfl
  disableIrqBalance := rfl
  configFile := rfl

theorem Loaded.apply {base cfg : AppConfig} (h : Loaded base cfg) (k : Key) (val : Text) :
    Loaded base (k.apply cfg val) := by
  have hnet := h.network
  cases k with
  | productName => exact { h with productName := capped_strncpy (by norm_num) h.productName val }
  | stationName => exact { h with stationName := capped_strncpy (by norm_num) h.stationName val }
  | interface =>
    refine { h with
      interfaceName := capped_strncpy (by norm_num) h.interfaceName val
      network := ?_ }
    simp only [Key.apply, hnet]
  | fileDirectory =>
    exact { h with fileDirectory := capped_strncpy (by norm_num) h.fileDirectory val }
  | logFile => exact { h with logFile := capped_strncpy (by norm_num) h.logFile val }
  | ipAddr => exact { h with network := by simp only [Key.apply, hnet] }
  | netmask => exact { h with network := by simp only [Key.apply, hnet] }
  | gateway => exact { h with network := by simp only [Key.apply, hnet] }
  | _ => exact { h with }

theorem Loaded.foldl {base cfg : AppConfig} (h : Loaded base cfg) (ps : List (Text × Text)) :
    Loaded base (ps.foldl (fun c p => applyKv c p.1 p.2) cfg) := by
  induction ps generalizing cfg with
  | nil => exact h
  | cons p ps ih =>
    rw [List.foldl_cons]
    refine ih ?_
    rw [applyKv]
    cases Key.ofText p.1 with
    | none => exact h
    | some k => exact h.apply k p.2

theorem Loaded.ext {base a b : AppConfig} (ha : Loaded base a) (hb : Loaded base b)
    (h : ∀ k, setting a k = setting b k) : a = b := by
  have hbytes {n : ℕ} {x y : CharArray n} (hxy : Reading.bytes x.bytes = .bytes y.bytes) : x = y :=
    CharArray.ext (Reading.bytes.inj hxy)
  have hname := hbytes (h .interface)
  have hip := Reading.word.inj (h .ipAddr)
  have hmask := Reading.word.inj (h .netmask)
  have hgateway := Reading.word.inj (h .gateway)
  have hnetwork : a.network = b.network := by
    rw [ha.network, hb.network, hname, hip, hmask, hgateway]
  have hdevice : a.device = b.device :=
    IoDeviceCfg.ext (hbytes (h .productName)) (hbytes (h .stationName)) hname
      (ha.macAddr.trans hb.macAddr.symm) hip hmask hgateway (Reading.half.inj (h .vendorId))
      (Reading.half.inj (h .deviceId)) (Reading.word.inj (h .tickUs))
      (Reading.bool.inj (h .sendHello)) (hbytes (h .fileDirectory))
  have hrealtime : a.realtime = b.realtime :=
    RtConfig.ext (Reading.bool.inj (h .rtScheduling)) (Reading.int.inj (h .rtPriority))
      (Reading.bool.inj (h .lockMemory)) (ha.disableCpuFreq.trans hb.disableCpuFreq.symm)
      (Reading.int.inj (h .isolateCpu)) (ha.disableIrqBalance.trans hb.disableIrqBalance.symm)
  exact AppConfig.ext hdevice hnetwork (ha.tcpTuning.trans hb.tcpTuning.symm)
    (ha.security.trans hb.security.symm) (Reading.bool.inj (h .securityEnabled)) hrealtime
    (Reading.bool.inj (h .realtimeEnabled)) (Reading.int.inj (h .logLevel))
    (hbytes (h .logFile)) (ha.configFile.trans hb.configFile.symm)

theorem Loaded.mirrors {base cfg : AppConfig} (h : Loaded base cfg) :
    cfg.network.ipAddr = cfg.device.ipAddr ∧ cfg.network.netmask = cfg.device.netmask ∧
      cfg.network.gateway = cfg.device.gateway := by
  rw [h.network]
  exact ⟨rfl, rfl, rfl⟩

theorem setting_apply {base cfg : AppConfig} (h : Loaded base cfg) (k : Key) (val : Text) :
    setting (k.apply cfg val) k = reading val k := by
  have hbytes {n : ℕ} {x y : CharArray n} (hxy : x = y) : Reading.bytes x.bytes = .bytes y.bytes :=
    congrArg (fun a => Reading.bytes a.bytes) hxy
  cases k with
  | productName => exact hbytes (CharArray.strncpy_capped h.productName val)
  | stationName => exact hbytes (CharArray.strncpy_capped h.stationName val)
  | interface => exact hbytes (CharArray.strncpy_capped h.interfaceName val)
  | fileDirectory => exact hbytes (CharArray.strncpy_capped h.fileDirectory val)
  | logFile => exact hbytes (CharArray.strncpy_capped h.logFile val)
  | _ => rfl

theorem setting_apply_of_ne {k k' : Key} (h : k' ≠ k) (cfg : AppConfig) (val : Text) :
    setting (k'.apply cfg val) k = setting cfg k := by
  cases k <;> cases k' <;> first | rfl | exact absurd rfl h

def settled (k : Key) (ps : List (Text × Text)) : Reading :=
  ((lastValue k ps).map fun v => reading v k).getD (setting appConfigDefault k)

theorem setting_foldl {base cfg : AppConfig} (h : Loaded base cfg) (k : Key)
    (ps : List (Text × Text)) :
    setting (ps.foldl (fun c p => applyKv c p.1 p.2) cfg) k =
      ((lastValue k ps).map fun v => reading v k).getD (setting cfg k) := by
  induction ps using List.reverseRecOn with
  | nil => rfl
  | append_singleton ps p ih =>
    rw [List.foldl_append, lastValue_snoc]
    simp only [List.foldl_cons, List.foldl_nil, applyKv]
    by_cases hp : p.1 = k.name
    · rw [if_pos hp, hp, ofText_name]
      exact setting_apply (h.foldl ps) k p.2
    · rw [if_neg hp, ← ih]
      cases hk : Key.ofText p.1 with
      | none => rfl
      | some k' => exact setting_apply_of_ne (fun he => hp (by rw [ofText_eq_some hk, he])) _ _

theorem setting_freshConfig (path : Text) (k : Key) :
    setting (freshConfig path) k = setting appConfigDefault k := by
  cases k <;> rfl

def assigned (path : Text) (ps : List (Text × Text)) : AppConfig :=
  ps.foldl (fun c p => applyKv c p.1 p.2) (freshConfig path)

theorem appConfigLoad_eq (cfg : AppConfig) (path file : Text) :
    appConfigLoad cfg path (some file) = (0, assigned path (assignments file)) :=
  appConfigLoad_assignments cfg path file

theorem assigned_loaded (path : Text) (ps : List (Text × Text)) :
    Loaded (freshConfig path) (assigned path ps) := (loaded_freshConfig path).foldl ps

theorem setting_assigned (path : Text) (ps : List (Text × Text)) (k : Key) :
    setting (assigned path ps) k = settled k ps := by
  rw [assigned, setting_foldl (loaded_freshConfig path), setting_freshConfig, settled]

theorem setting_of_lastValue (path : Text) (ps : List (Text × Text)) {k : Key} {v : Text}
    (h : lastValue k ps = some v) : setting (assigned path ps) k = reading v k := by
  rw [setting_assigned, settled, h]
  rfl

/-- Two lists of assignments give the same configuration exactly when they settle
every key in the same way. -/
theorem assigned_eq_iff (path : Text) (ps qs : List (Text × Text)) :
    assigned path ps = assigned path qs ↔ ∀ k, settled k ps = settled k qs := by
  simp only [← setting_assigned path]
  constructor
  · intro h k
    rw [h]
  · exact (assigned_loaded path ps).ext (assigned_loaded path qs)

theorem settled_congr {k : Key} {u v : Text} (h : reading u k = reading v k)
    (ps qs : List (Text × Text)) (k' : Key) :
    settled k' (ps ++ [(k.name, u)] ++ qs) = settled k' (ps ++ [(k.name, v)] ++ qs) := by
  simp only [settled, lastValue_append]
  cases lastValue k' qs with
  | some w => rfl
  | none =>
    by_cases hk : k.name = k'.name
    · obtain rfl := name_injective hk
      simp [lastValue, h]
    · simp [lastValue, hk]

theorem settled_last (k : Key) (ps : List (Text × Text)) (v : Text) :
    settled k (ps ++ [(k.name, v)]) = reading v k := by
  rw [settled, lastValue_snoc, if_pos rfl]
  rfl

end PnetManager.ConfigReadings
