import PnetManager.ConfigReadings

/-!
# The last assignment decides

`apply_kv` over any list of keys and values, from the defaults. The order of the
pairs counts only between pairs of one key, and of these the last one is left.
-/

namespace PnetManager.LastAssignment
open CText IoDeviceApp NetworkConfig ConfigFile ConfigRoundTrip ConfigKeys ConfigReadings

set_option maxRecDepth 2000

def applied (ps : List (Text × Text)) : AppConfig :=
  ps.foldl (fun c p => applyKv c p.1 p.2) appConfigDefault

theorem lastValue_cons (k : Key) (p : Text × Text) (ps : List (Text × Text)) :
    lastValue k (p :: ps) = (lastValue k ps).or (if p.1 = k.name then some p.2 else none) := by
  rw [← List.singleton_append, lastValue_append, ← List.nil_append [p], lastValue_snoc]
  rfl

theorem lastValue_swap {p q : Text × Text} (h : p.1 ≠ q.1) (pre post : List (Text × Text))
    (k : Key) : lastValue k (pre ++ q :: p :: post) = lastValue k (pre ++ p :: q :: post) := by
  rw [lastValue_append, lastValue_append, lastValue_cons, lastValue_cons, lastValue_cons,
    lastValue_cons, Option.or_assoc, Option.or_assoc]
  by_cases hp : p.1 = k.name
  · have hq : q.1 ≠ k.name := fun hq => h (hp.trans hq.symm)
    simp [hp, hq]
  · simp [hp, Option.or_assoc]

theorem lastValue_drop_earlier {p q : Text × Text} (h : p.1 = q.1)
    (pre mid post : List (Text × Text)) (k : Key) :
    lastValue k (pre ++ (mid ++ q :: post)) = lastValue k (pre ++ p :: (mid ++ q :: post)) := by
  rw [lastValue_append, lastValue_append k pre, lastValue_cons k p, lastValue_append k mid,
    lastValue_cons, h]
  by_cases hq : q.1 = k.name
  · cases lastValue k post <;> simp [hq]
  · simp [hq]

theorem lastValue_drop_unknown {p : Text × Text} (h : ∀ k : Key, p.1 ≠ k.name)
    (pre post : List (Text × Text)) (k : Key) :
    lastValue k (pre ++ post) = lastValue k (pre ++ p :: post) := by
  rw [lastValue_append, lastValue_append, lastValue_cons, if_neg (h k), Option.or_none]

theorem loaded_default : Loaded appConfigDefault appConfigDefault where
  productName := zeroed_strncpy_capped (by norm_num) _
  stationName := zeroed_strncpy_capped (by norm_num) _
  interfaceName := zeroed_strncpy_capped (by norm_num) _
  fileDirectory := zeroed_strncpy_capped (by norm_num) _
  logFile := zeroed_strncpy_capped (by norm_num) _
  network := rfl
  macAddr := rfl
  tcpTuning := rfl
  security := rfl
  disableCpuFreq := rfl
  disableIrqBalance := rfl
  configFile := rfl

theorem applied_loaded (ps : List (Text × Text)) : Loaded appConfigDefault (applied ps) :=
  loaded_default.foldl ps

theorem setting_applied (ps : List (Text × Text)) (k : Key) :
    setting (applied ps) k = settled k ps := setting_foldl loaded_default k ps

theorem applied_congr {ps qs : List (Text × Text)}
    (h : ∀ k, lastValue k ps = lastValue k qs) : applied ps = applied qs :=
  (applied_loaded ps).ext (applied_loaded qs) fun k => by
    rw [setting_applied, setting_applied, settled, settled, h]

def Clean {n : ℕ} (a : CharArray n) : Prop :=
  a.text.length < n ∧ a.bytes = a.text ++ List.replicate (n - a.text.length) nul

theorem clean_ofText {n : ℕ} (hn : 0 < n) {src : Text} (h : nul ∉ src) :
    Clean (CharArray.ofText n src) := by
  rw [Clean, CharArray.ofText_text h]
  refine ⟨?_, rfl⟩
  rw [List.length_take]
  omega

theorem clean_zeroed {n : ℕ} (hn : 0 < n) : Clean (CharArray.zeroed n) := by
  have h : CharArray.zeroed n = CharArray.ofText n [] := by
    simp [CharArray.zeroed, CharArray.ofText]
  rw [h]
  exact clean_ofText hn List.not_mem_nil

theorem clean_strncpy {n : ℕ} (hn : 0 < n) {src : Text} (h : nul ∉ src) :
    Clean ((CharArray.zeroed n).strncpy src (n - 1)) := by
  rw [CharArray.strncpy_capped (CharArray.zeroed_capped hn)]
  exact clean_ofText hn h

structure CleanArrays (cfg : AppConfig) : Prop where
  productName : Clean cfg.device.productName
  stationName : Clean cfg.device.stationName
  interfaceName : Clean cfg.device.interfaceName
  fileDirectory : Clean cfg.device.fileDirectory
  ifName : Clean cfg.network.ifName
  logFile : Clean cfg.logFile
  configFile : Clean cfg.configFile
  comments : ∀ rule ∈ cfg.security.rules, Clean rule.comment

theorem exists_text_value {ps : List (Text × Text)} (h : ∀ p ∈ ps, nul ∉ p.2) {k : Key}
    (hk : kindOf k = .text) : ∃ v, nul ∉ v ∧ setting (applied ps) k = reading v k := by
  rw [setting_applied, settled]
  cases hv : lastValue k ps with
  | none =>
    have hdefault : setting appConfigDefault k = reading (k.print appConfigDefault) k := by
      revert hk
      cases k <;> decide
    have hnul : nul ∉ k.print appConfigDefault := by
      revert hk
      cases k <;> decide
    exact ⟨_, hnul, hdefault⟩
  | some v =>
    obtain ⟨p, hp, rfl⟩ := Option.map_eq_some_iff.mp hv
    exact ⟨p.2, h p (List.mem_reverse.mp (List.mem_of_find?_eq_some hp)), rfl⟩

theorem clean_of_reading {n : ℕ} (hn : 0 < n) {a : CharArray n} {v : Text} (hv : nul ∉ v)
    (h : Reading.bytes a.bytes = .bytes (CharArray.ofText n v).bytes) : Clean a := by
  rw [CharArray.ext (Reading.bytes.inj h)]
  exact clean_ofText hn hv

theorem applied_clean {ps : List (Text × Text)} (h : ∀ p ∈ ps, nul ∉ p.2) :
    CleanArrays (applied ps) := by
  have hloaded := applied_loaded ps
  have hname : Clean (applied ps).device.interfaceName := by
    obtain ⟨v, hv, hr⟩ := exists_text_value h (k := .interface) rfl
    exact clean_of_reading (by norm_num) hv hr
  constructor
  case productName =>
    obtain ⟨v, hv, hr⟩ := exists_text_value h (k := .productName) rfl
    exact clean_of_reading (by norm_num) hv hr
  case stationName =>
    obtain ⟨v, hv, hr⟩ := exists_text_value h (k := .stationName) rfl
    exact clean_of_reading (by norm_num) hv hr
  case interfaceName => exact hname
  case fileDirectory =>
    obtain ⟨v, hv, hr⟩ := exists_text_value h (k := .fileDirectory) rfl
    exact clean_of_reading (by norm_num) hv hr
  case ifName =>
    rw [hloaded.network]
    exact hname
  case logFile =>
    obtain ⟨v, hv, hr⟩ := exists_text_value h (k := .logFile) rfl
    exact clean_of_reading (by norm_num) hv hr
  case configFile =>
    rw [hloaded.configFile]
    have hpath : nul ∉ ascii "/etc/pnet-manager/config.conf" := by decide
    exact clean_strncpy (by norm_num) hpath
  case comments =>
    rw [hloaded.security]
    intro rule hrule
    have hrule : rule = .zeroed := (Vector.mem_replicate.mp hrule).2
    rw [hrule]
    exact clean_zeroed (by norm_num)

structure Keyless (base cfg : AppConfig) : Prop where
  macAddr : cfg.device.macAddr = base.device.macAddr
  networkMac : cfg.network.macAddr = base.network.macAddr
  configured : cfg.network.configured = base.network.configured
  tcpTuning : cfg.tcpTuning = base.tcpTuning
  security : cfg.security = base.security
  disableCpuFreq : cfg.realtime.disableCpuFreq = base.realtime.disableCpuFreq
  disableIrqBalance : cfg.realtime.disableIrqBalance = base.realtime.disableIrqBalance
  configFile : cfg.configFile = base.configFile

theorem applied_keyless (ps : List (Text × Text)) : Keyless appConfigDefault (applied ps) := by
  have h := applied_loaded ps
  exact
    { h with
      networkMac := by rw [h.network]
      configured := by rw [h.network] }

/-- The last values decide, so that adjacent pairs of different keys commute, and
earlier pairs of a key and pairs of unknown keys can go. -/
theorem applied_last_decides (ps : List (Text × Text)) (hps : ∀ p ∈ ps, nul ∉ p.2) :
    (∀ k, setting (applied ps) k = settled k ps) ∧
    (∀ qs, (∀ k, lastValue k ps = lastValue k qs) → applied ps = applied qs) ∧
    (∀ pre p q post, ps = pre ++ p :: q :: post → p.1 ≠ q.1 →
      applied (pre ++ q :: p :: post) = applied ps) ∧
    (∀ pre p mid q post, ps = pre ++ p :: (mid ++ q :: post) → p.1 = q.1 →
      applied (pre ++ (mid ++ q :: post)) = applied ps) ∧
    (∀ pre p post, ps = pre ++ p :: post → (∀ k : Key, p.1 ≠ k.name) →
      applied (pre ++ post) = applied ps) ∧
    CleanArrays (applied ps) ∧
    ((applied ps).device.interfaceName = (applied ps).network.ifName ∧
      (applied ps).device.ipAddr = (applied ps).network.ipAddr ∧
      (applied ps).device.netmask = (applied ps).network.netmask ∧
      (applied ps).device.gateway = (applied ps).network.gateway) ∧
    Keyless appConfigDefault (applied ps) := by
  refine ⟨setting_applied ps, fun qs => applied_congr, ?_, ?_, ?_, applied_clean hps, ?_,
    applied_keyless ps⟩
  · intro pre p q post hlist hkey
    rw [hlist]
    exact applied_congr (lastValue_swap hkey pre post)
  · intro pre p mid q post hlist hkey
    rw [hlist]
    exact applied_congr (lastValue_drop_earlier hkey pre mid post)
  · intro pre p post hlist hkey
    rw [hlist]
    exact applied_congr (lastValue_drop_unknown hkey pre post)
  · rw [(applied_loaded ps).network]
    exact ⟨rfl, rfl, rfl, rfl⟩

theorem applied_last_decides_station :
    let ps : List (Text × Text) :=
      [(ascii "station_name", ascii "controller-17"), (ascii "tick_us", ascii "500"),
        (ascii "station_name", ascii "io")]
    applied [(ascii "tick_us", ascii "500"), (ascii "station_name", ascii "io")] = applied ps ∧
      Clean (applied ps).device.stationName := by
  have h := applied_last_decides
    [(ascii "station_name", ascii "controller-17"), (ascii "tick_us", ascii "500"),
      (ascii "station_name", ascii "io")] (by decide)
  obtain ⟨-, -, -, hearlier, -, hclean, -⟩ := h
  exact ⟨hearlier [] _ [_] _ [] rfl rfl, hclean.stationName⟩

end PnetManager.LastAssignment
