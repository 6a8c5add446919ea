import PnetManager.ConfigReadings
import PnetManager.FailedApply
import PnetManager.ManagerRun
import PnetManager.NetworkSteps
import PnetManager.RtRestore

/-!
# What a run does to the host

No key of the file reaches the rules of the policy, so a run hands the shell two fixed
texts at most. The real-time set-up is undone by the end of every run. Of the file a run
sees the readings of its keys, and not all of them.
-/

namespace PnetManager.ManagerEffects
open CText CNumber CStdio SystemCalls IoDeviceApp NetworkConfig NetworkSteps MainStartup
  SecurityPolicy FirewallScript ScriptLines Iptables RuleMeaning ChainTables FirewallShell
  PolicyApply FailedApply RtSetup RtRestore ConfigFile ConfigKeys ConfigReadings StackLedger
  MockStack CommandLine Manager SteadyLoop ManagerRun

set_option maxRecDepth 2000

def fileAssignments (file : Option Text) : List (Text × Text) := (file.map assignments).getD []

def forgetful (cfg : AppConfig) : AppConfig :=
  { cfg with logFile := .zeroed _, configFile := .zeroed _ }

def verboseLevel (verbose : Bool) (cfg : AppConfig) : AppConfig :=
  if verbose then { cfg with logLevel := 3 } else cfg

theorem loadConfig_eq (file : Option Text) (path : Text) (verbose : Bool) :
    ∃ configFile, loadConfig file path verbose =
      verboseLevel verbose
        { assigned path (fileAssignments file) with configFile := configFile } := by
  cases file with
  | none =>
    refine ⟨appConfigDefault.configFile.memcpy (path.take 255 ++ [nul]), ?_⟩
    rfl
  | some file =>
    refine ⟨(assigned path (assignments file)).configFile, ?_⟩
    rw [loadConfig, appConfigLoad_eq]
    rfl

/-- What no file and no option can set. -/
structure OutOfReach (cfg : AppConfig) : Prop where
  macAddr : cfg.device.macAddr = .zeroed _
  tcpTuning : cfg.tcpTuning = .zeroed
  security : cfg.security = (secPolicyInit .zeroed).2
  disableCpuFreq : cfg.realtime.disableCpuFreq = true
  disableIrqBalance : cfg.realtime.disableIrqBalance = true
  network : cfg.network.ipAddr = cfg.device.ipAddr ∧ cfg.network.netmask = cfg.device.netmask ∧
    cfg.network.gateway = cfg.device.gateway ∧ cfg.network.ifName = cfg.device.interfaceName

theorem Loaded.outOfReach {path : Text} {cfg : AppConfig} (h : Loaded (freshConfig path) cfg) :
    OutOfReach cfg where
  macAddr := h.macAddr
  tcpTuning := h.tcpTuning
  security := h.security
  disableCpuFreq := h.disableCpuFreq
  disableIrqBalance := h.disableIrqBalance
  network := by
    rw [h.network]
    exact ⟨rfl, rfl, rfl, rfl⟩

theorem loadConfig_outOfReach (file : Option Text) (path : Text) (verbose : Bool) :
    OutOfReach (loadConfig file path verbose) := by
  obtain ⟨configFile, hload⟩ := loadConfig_eq file path verbose
  have h := Loaded.outOfReach (assigned_loaded path (fileAssignments file))
  rw [hload, verboseLevel]
  split_ifs
  · exact ⟨h.macAddr, h.tcpTuning, h.security, h.disableCpuFreq, h.disableIrqBalance, h.network⟩
  · exact ⟨h.macAddr, h.tcpTuning, h.security, h.disableCpuFreq, h.disableIrqBalance, h.network⟩

variable {F W : Type} {build : Build} (os : Platform F) (stack : PnetStack build W)
  (script : CharArray 4096) (args : List Text) (nowUs n : ℕ)

theorem manage_forgetful (config : AppConfig) (m : Machine F W) :
    manage os stack script config nowUs n m = manage os stack script (forgetful config) nowUs n m :=
  rfl

/-- The two files give every key that counts the same reading: the log file never
does, the log level not with `-v`. -/
def AlikeTo (verbose : Bool) (f g : Option Text) : Prop :=
  ∀ k, k ≠ .logFile → (verbose = true → k ≠ .logLevel) →
    settled k (fileAssignments f) = settled k (fileAssignments g)

theorem setting_overwritten (cfg : AppConfig) (level : Int32) (file : CharArray 256) (k : Key) :
    setting { cfg with logLevel := level, logFile := file } k =
      if k = .logLevel then .int level else if k = .logFile then .bytes file.bytes
      else setting cfg k := by
  cases k <;> rfl

theorem forgetful_congr {verbose : Bool} {f g : Option Text} (h : AlikeTo verbose f g)
    (path : Text) :
    forgetful (loadConfig f path verbose) = forgetful (loadConfig g path verbose) := by
  obtain ⟨fileF, hf⟩ := loadConfig_eq f path verbose
  obtain ⟨fileG, hg⟩ := loadConfig_eq g path verbose
  have hloadedF := assigned_loaded path (fileAssignments f)
  have hloadedG := assigned_loaded path (fileAssignments g)
  have hset (k : Key) := setting_assigned path (fileAssignments f) k
  have hset' (k : Key) := setting_assigned path (fileAssignments g) k
  generalize assigned path (fileAssignments f) = a at hf hloadedF hset
  generalize assigned path (fileAssignments g) = b at hg hloadedG hset'
  have hcapped : (CharArray.zeroed 256).Capped := CharArray.zeroed_capped (by norm_num)
  -- both sides with the same level, and with no log file
  have hsame : ({ a with
        logLevel := if verbose then 3 else a.logLevel, logFile := .zeroed _ } : AppConfig) =
      { b with logLevel := if verbose then 3 else b.logLevel, logFile := .zeroed _ } := by
    have hextF : Loaded (freshConfig path)
        { a with logLevel := if verbose then 3 else a.logLevel, logFile := .zeroed _ } :=
      { hloadedF with logFile := hcapped }
    refine hextF.ext { hloadedG with logFile := hcapped } fun k => ?_
    rw [setting_overwritten a, setting_overwritten b]
    split_ifs with hlevel hverbose hfile
    · rfl
    · have hk := h .logLevel (by decide) fun hv => absurd hv hverbose
      rw [← hset, ← hset'] at hk
      exact hk
    · rfl
    · rw [hset, hset']
      exact h k hfile fun _ => hlevel
  have hforget (cfg : AppConfig) (file : CharArray 256) :
      forgetful (verboseLevel verbose { cfg with configFile := file }) =
        { ({ cfg with
          logLevel := if verbose then 3 else cfg.logLevel, logFile := .zeroed _ } : AppConfig) with
          configFile := .zeroed _ } := by
    cases verbose <;> rfl
  rw [hf, hg, hforget, hforget, hsame]

/-- A run depends on its file through the readings of the keys alone, a file that
cannot be opened being an empty one. The log file is never used, and `-v` overrides the
log level before it is validated. -/
theorem runs_alike (files : Text → Option Text) (m : Machine F W)
    (h : ∀ path verbose, parseArguments args = .run path verbose →
      AlikeTo verbose (os.files path) (files path)) :
    main os stack script args nowUs n m =
      main { os with files := files } stack script args nowUs n m := by
  rw [main, main]
  cases hargs : parseArguments args with
  | usage status => rfl
  | run path verbose =>
    dsimp only
    rw [manage_forgetful, forgetful_congr (h path verbose hargs) path, ← manage_forgetful]
    rfl

def idle : Machine Unit MockWorld where
  net := ⟨⟨fun _ => some ⟨0, 0, 0⟩, []⟩, []⟩
  firewall := ()
  rt := ⟨⟨rtConfigDefault, false, ⟨0, 0⟩, []⟩,
    ⟨⟨⟨schedOther, 0⟩, false, [performance, performance], {0, 1}, true⟩, []⟩⟩
  process := bootProcess .fresh
  notified := []

def octalTick : Text :=
  ascii "# press\ntick_us = 0500ms\nvendor_id = 7\nvendor_id = 0x10\nlog_level = 1\n"

def decimalTick : Text := ascii "vendor_id=16\r\n tick_us= 320 \nlog_file=/tmp/log\nspeed = 3"

theorem octalTick_alike : AlikeTo true (some octalTick) (some decimalTick) := by
  intro k hfile hlevel
  have hlevel := hlevel rfl
  revert hfile hlevel
  cases k <;> decide

theorem runs_alike_ticks :
    main { quiet with files := fun _ => some octalTick } mockStack (.zeroed 4096)
        [ascii "-v"] 0 3 idle =
      main { quiet with files := fun _ => some decimalTick } mockStack (.zeroed 4096)
        [ascii "-v"] 0 3 idle := by
  have hargs : parseArguments [ascii "-v"] = .run defaultConfigFile true := by decide
  refine runs_alike { quiet with files := fun _ => some octalTick } mockStack (.zeroed 4096)
    [ascii "-v"] 0 3 (fun _ => some decimalTick) idle fun path verbose h => ?_
  rw [hargs] at h
  obtain ⟨rfl, rfl⟩ := Parsed.run.inj h
  exact octalTick_alike

def emptyScript : Text := scriptText (secPolicyInit .zeroed).2

theorem applySecurity_eq {cfg : AppConfig} (h : cfg.security = (secPolicyInit .zeroed).2)
    (firewall : F) :
    applySecurity os.system script cfg firewall =
      if cfg.securityEnabled = false then (0, firewall)
      else
        let r := os.system emptyScript (os.system flushLine firewall).2
        (if r.1 = 0 then 0 else -1, r.2) := by
  have hrules : ∀ r ∈ usedRules (secPolicyInit .zeroed).2, r.comment.Terminated := by decide
  have hfits : (scriptText (secPolicyInit .zeroed).2).length < 4096 := by decide
  have happly := secPolicyApply_of_fits os.system script hrules hfits firewall
  rw [← emptyScript] at happly
  have heio : -eio < 0 := by decide
  rw [applySecurity, h]
  simp only [happly]
  split_ifs <;> first | rfl | omega

variable {args} in
theorem main_net {path : Text} {verbose : Bool} (hargs : parseArguments args = .run path verbose)
    (w : W) (m : Machine F W) :
    let cfg := loadConfig (os.files path) path verbose
    let r := main os stack script args nowUs n (bootMachine w m)
    (r.2.net = m.net ∨ r.2.net = (applyNetwork cfg m.net).2) ∧
      (Starts os script cfg m →
        (applyNetwork cfg m.net).1 = 0 ∧ r.2.net = (applyNetwork cfg m.net).2) := by
  have hrun : main os stack script args nowUs n (bootMachine w m) =
      manage os stack script (loadConfig (os.files path) path verbose) nowUs n
        (bootMachine w m) := by
    rw [main, hargs]
  dsimp only
  rw [hrun]
  by_cases hstarts : Starts os script (loadConfig (os.files path) path verbose) m
  · have hboot : Starts os script (loadConfig (os.files path) path verbose) (bootMachine w m) :=
      ⟨hstarts.valid, hstarts.handlers, hstarts.network, hstarts.security⟩
    obtain ⟨⟨-, hnet, -, -⟩, -⟩ := serve_cases os stack (loadConfig (os.files path) path verbose)
      (startedUp os script (loadConfig (os.files path) path verbose) m) nowUs n w
    rw [manage_of_starts stack nowUs n hboot]
    exact ⟨Or.inr hnet, fun _ => ⟨hstarts.network, hnet⟩⟩
  · have hboot : ¬ Starts os script (loadConfig (os.files path) path verbose) (bootMachine w m) :=
      fun h => hstarts ⟨h.valid, h.handlers, h.network, h.security⟩
    obtain ⟨-, -, -, -, hnet, -⟩ := manage_of_not_starts stack nowUs n hboot
    exact ⟨hnet.imp_right And.left, fun h => absurd h hstarts⟩

variable {args} in
theorem started_interface {path : Text} {verbose : Bool}
    (hargs : parseArguments args = .run path verbose) (w : W) (m : Machine F W)
    (hstarts : Starts os script (loadConfig (os.files path) path verbose) m) :
    let cfg := loadConfig (os.files path) path verbose
    let r := main os stack script args nowUs n (bootMachine w m)
    ∃ i, m.net.env.interfaces (addressName cfg) = some i ∧
      r.2.net.env.interfaces (addressName cfg) =
        some ⟨cfg.device.ipAddr, cfg.device.netmask, i.flags ||| iffUp⟩ := by
  intro cfg r
  obtain ⟨-, hstarted⟩ := main_net os stack script nowUs n hargs w m
  obtain ⟨hret, hsome, hmaps⟩ := applyNetwork_steps cfg m.net
  have hmirrors := (loadConfig_outOfReach (os.files path) path verbose).network
  obtain ⟨hzero, happlied⟩ := hstarted hstarts
  have hall : stepsDone cfg m.net = 3 := by
    by_contra hne
    rw [if_neg hne] at hret
    exact absurd (hzero.symm.trans hret) (by decide)
  obtain ⟨i, hi⟩ := Option.isSome_iff_exists.mp (hsome (by omega))
  refine ⟨i, hi, ?_⟩
  have hconfigured := hmaps.at_name
  rw [hall, hi] at hconfigured
  refine (congrArg (fun net => net.env.interfaces (addressName cfg)) happlied).trans ?_
  have hthree : configured cfg 3 i =
      ⟨cfg.network.ipAddr, cfg.network.netmask, i.flags ||| iffUp⟩ := rfl
  rw [hconfigured, Option.map_some, hthree, hmirrors.1, hmirrors.2.1]

/-- A run touches one interface, and leaves it as the first steps of its configuration
have made it: as all three of them where it comes to its device. Nothing is taken back
when the device stops. -/
theorem main_configures_one_interface (w : W) (m : Machine F W) :
    let r := main os stack script args nowUs n (bootMachine w m)
    ∀ path verbose, parseArguments args = .run path verbose →
      let cfg := loadConfig (os.files path) path verbose
      (∀ q, q ≠ addressName cfg → r.2.net.env.interfaces q = m.net.env.interfaces q) ∧
      (∃ k ≤ 3, r.2.net.env.interfaces (addressName cfg) =
        (m.net.env.interfaces (addressName cfg)).map (configured cfg k)) ∧
      (Starts os script cfg m → ∃ i, m.net.env.interfaces (addressName cfg) = some i ∧
        r.2.net.env.interfaces (addressName cfg) =
          some ⟨cfg.device.ipAddr, cfg.device.netmask, i.flags ||| iffUp⟩) := by
  intro r path verbose hargs cfg
  obtain ⟨hnet, -⟩ := main_net os stack script nowUs n hargs w m
  obtain ⟨-, -, hmaps⟩ := applyNetwork_steps cfg m.net
  refine ⟨?_, ?_, started_interface os stack script nowUs n hargs w m⟩
  · intro q hq
    rcases hnet with hsame | happlied
    · exact congrArg (fun net => net.env.interfaces q) hsame
    · exact (congrArg (fun net => net.env.interfaces q) happlied).trans (hmaps.elsewhere hq)
  · rcases hnet with hsame | happlied
    · refine ⟨0, Nat.zero_le 3, ?_⟩
      have hid : configured cfg 0 = id := rfl
      rw [hid, Option.map_id]
      exact congrArg (fun net => net.env.interfaces (addressName cfg)) hsame
    · refine ⟨stepsDone cfg m.net, stepsDone_le cfg m.net, ?_⟩
      exact (congrArg (fun net => net.env.interfaces (addressName cfg)) happlied).trans
        hmaps.at_name

theorem idle_starts :
    Starts quiet (.zeroed 4096) (loadConfig none defaultConfigFile false) idle := by
  refine ⟨by decide, rfl, by decide, ?_⟩
  have hsecurity := (loadConfig_outOfReach none defaultConfigFile false).security
  rw [applySecurity_eq quiet (.zeroed 4096) hsecurity]
  split_ifs <;> rfl

theorem main_configures_one_interface_quiet :
    let r := main quiet mockStack (.zeroed 4096) [] 0 3 (bootMachine .fresh idle)
    r.2.net.env.interfaces (ascii "eth0") = some ⟨0xC0A80064, 0xFFFFFF00, 1⟩ ∧
      r.2.net.env.interfaces (ascii "eth7") = some ⟨0, 0, 0⟩ := by
  have hargs : parseArguments [] = .run defaultConfigFile false := by decide
  have hname : addressName (loadConfig none defaultConfigFile false) = ascii "eth0" := by decide
  have hip : (loadConfig none defaultConfigFile false).device.ipAddr = 0xC0A80064 := by decide
  have hmask : (loadConfig none defaultConfigFile false).device.netmask = 0xFFFFFF00 := by decide
  dsimp only
  have hrun := main_configures_one_interface quiet mockStack (.zeroed 4096) [] 0 3 .fresh idle
    defaultConfigFile false hargs
  have hfile : quiet.files defaultConfigFile = none := rfl
  rw [hfile] at hrun
  dsimp only at hrun
  rw [hname, hip, hmask] at hrun
  obtain ⟨hothers, -, hstarted⟩ := hrun
  obtain ⟨i, hi, hi'⟩ := hstarted idle_starts
  obtain rfl : (⟨0, 0, 0⟩ : Interface) = i := Option.some.inj hi
  have hup : (0 : UInt16) ||| iffUp = 1 := by decide
  rw [hup] at hi'
  exact ⟨hi', hothers (ascii "eth7") (by decide)⟩

theorem main_shell_texts (w : W) (m : Machine F W) :
    let r := main os stack script args nowUs n (bootMachine w m)
    r.2.firewall = m.firewall ∨
      r.2.firewall = (os.system emptyScript (os.system flushLine m.firewall).2).2 := by
  have hsecurity (config : AppConfig) (h : OutOfReach config) :
      (applySecurity os.system script config m.firewall).2 = m.firewall ∨
        (applySecurity os.system script config m.firewall).2 =
          (os.system emptyScript (os.system flushLine m.firewall).2).2 := by
    rw [applySecurity_eq os script h.security]
    split_ifs
    · exact Or.inl rfl
    · exact Or.inr rfl
  rcases reaches_or_refused os stack script nowUs n args (bootMachine w m)
    with ⟨config, hreaches⟩ | hrefused
  · obtain ⟨⟨-, -, hfirewall, -⟩, -⟩ := serve_cases os stack config
      (startedUp os script config m) nowUs n w
    have hrun := hreaches.run stack nowUs n
    obtain ⟨path, verbose, -, rfl, -⟩ := hreaches
    dsimp only
    rw [hrun]
    exact hfirewall ▸ hsecurity _ (loadConfig_outOfReach _ path verbose)
  · rcases hrefused.firewall with hsame | ⟨path, verbose, -, -, happlied⟩
    · exact Or.inl hsame
    · dsimp only
      rw [happlied]
      exact hsecurity _ (loadConfig_outOfReach _ path verbose)

variable (portOk : ℕ → Bool) (other : Text → Bool)

theorem hostShell_emptyScript (host : Host Firewall) :
    hostShell portOk other emptyScript host = (0, host) := by
  have hset : hostLine portOk other (ascii "set -e") host = (true, host) :=
    hostLine_of_none portOk other host (by decide) (by rfl)
  have hecho : hostLine portOk other (echoLine (secPolicyInit .zeroed).2) host = (true, host) :=
    hostLine_of_none portOk other host (by decide) (lineOps_echoLine portOk other _)
  have hlines : executedLines emptyScript =
      [ascii "set -e", echoLine (secPolicyInit .zeroed).2] := by
    rw [emptyScript, executedLines_scriptText]
    rfl
  rw [hostShell, hlines]
  simp [hostLines, hset, hecho]

/-- No run adds a rule to a chain, whichever commands of iptables the host refuses: it
flushes `PNET_CHAIN` at most. With the shell of the model its script never fails, so
this step never ends a run. -/
theorem main_adds_no_rule (os : Platform (Host Firewall)) (w : W) (m : Machine (Host Firewall) W) :
    let shell := hostShell portOk other
    let r := main { os with system := shell } stack script args nowUs n (bootMachine w m)
    (r.2.firewall.env = m.firewall.env ∨
      r.2.firewall.env = applyOps [.flush pnetChain] m.firewall.env) ∧
    ∀ file path verbose,
      (applySecurity shell script (loadConfig file path verbose) m.firewall).1 = 0 := by
  dsimp only
  constructor
  · have htexts := main_shell_texts { os with system := hostShell portOk other } stack script args
      nowUs n w m
    dsimp only at htexts
    rw [hostShell_emptyScript, hostShell_flush] at htexts
    rcases htexts with hsame | hflushed
    · exact Or.inl (by rw [hsame])
    · rw [hflushed, afterFlush]
      dsimp only
      split_ifs
      · exact Or.inr rfl
      · exact Or.inl rfl
  · intro file path verbose
    have hsecurity := (loadConfig_outOfReach file path verbose).security
    have happly := applySecurity_eq { os with system := hostShell portOk other } script hsecurity
      m.firewall
    dsimp only at happly
    rw [happly, hostShell_emptyScript]
    split_ifs with _ hzero
    · rfl
    · rfl
    · exact absurd rfl hzero

theorem rtSetupInit_of_valid {cfg : AppConfig} (hvalid : appConfigValidate cfg = 0)
    (henabled : cfg.realtimeEnabled = true) (s : RtState) :
    rtSetupInit cfg.realtime s = (0, { s with
      globals := { s.globals with rtConfig := cfg.realtime, rtInitialized := true } }) := by
  have hpriority : ¬ (cfg.realtime.rtPriority < 1 ∨ 99 < cfg.realtime.rtPriority) := by
    intro hbad
    rw [appConfigValidate, validateError] at hvalid
    split_ifs at hvalid <;> simp_all
  rw [rtSetupInit, if_neg hpriority]

theorem applyRealtime_enabled {cfg : AppConfig} (hvalid : appConfigValidate cfg = 0)
    (henabled : cfg.realtimeEnabled = true) (s : RtState) :
    (applyRealtime cfg s).2 = (rtSetupApply { s with
      globals := { s.globals with rtConfig := cfg.realtime, rtInitialized := true } }).2 := by
  rw [applyRealtime, if_neg (by simp [henabled])]
  simp only [rtSetupInit_of_valid hvalid henabled, lt_irrefl, if_false]
  split_ifs <;> rfl

theorem apply_restore_iff {cfg : RtConfig} {s : RtState} (hgrant : s.host.Granting) :
    (rtSetupRestore (rtSetupApply { s with
      globals := { s.globals with rtConfig := cfg, rtInitialized := true } }).2).host.env =
        s.host.env ↔ Undoable cfg 1 s.host.env := by
  have h : Holds { s with globals := { s.globals with rtConfig := cfg, rtInitialized := true } }
      { s.globals with rtConfig := cfg, rtInitialized := true } s.host.env := ⟨hgrant, rfl, rfl⟩
  have happlied := (h.apply rfl).2
  have hsaved := savedFrom_spec { s.globals with rtConfig := cfg, rtInitialized := true } s.host.env
  have hgovernor : cfg.disableCpuFreq = true → (appliedEnv cfg s.host.env).governors ≠ [] →
      (savedFrom { s.globals with rtConfig := cfg, rtInitialized := true }
        s.host.env).savedGovernor = (restoredGovernor cfg 1 s.host.env).name := by
    intro hb hne
    exact hsaved.governor hb (lastSaved_ne_nil 1 hne)
  rw [happlied.restore rfl hsaved.sched hgovernor]
  exact restoredEnv_appliedEnv_iff cfg 1 s.host.env

theorem serve_rt (config : AppConfig) (w : W) (m : Machine F W) :
    (serve os stack config nowUs n (bootMachine w m)).2.rt =
      if config.realtimeEnabled then rtSetupRestore m.rt else m.rt :=
  (serve_cases os stack config m nowUs n w).1.2.2.2

/-- On a host that grants every call a run leaves the real-time environment as it has
found it, unless it comes to its device with a real-time set-up that one restore does
not undo. -/
theorem main_restores_env_iff (w : W) (m : Machine F W) (hgrant : m.rt.host.Granting) :
    (main os stack script args nowUs n (bootMachine w m)).2.rt.host.env = m.rt.host.env ↔
      ∀ config, ReachesDevice os script args config m → config.realtimeEnabled = true →
        Undoable config.realtime 1 m.rt.host.env := by
  rcases reaches_or_refused os stack script nowUs n args (bootMachine w m)
    with ⟨config, hreaches⟩ | hrefused
  · have hdevice := reachesDevice_boot_iff.mp hreaches
    have honly : (∀ config, ReachesDevice os script args config m →
        config.realtimeEnabled = true → Undoable config.realtime 1 m.rt.host.env) ↔
        (config.realtimeEnabled = true → Undoable config.realtime 1 m.rt.host.env) := by
      constructor
      · exact fun hall => hall config hdevice
      · intro hundo config' hdevice'
        exact hdevice.unique hdevice' ▸ hundo
    have hvalid : appConfigValidate config = 0 := by
      obtain ⟨path, verbose, -, rfl, hstarts⟩ := hdevice
      exact hstarts.valid
    have hrt := serve_rt os stack nowUs n config w (startedUp os script config m)
    rw [honly, hreaches.run stack nowUs n]
    change (serve os stack config nowUs n
      (bootMachine w (startedUp os script config m))).2.rt.host.env = _ ↔ _
    rw [hrt, startedUp]
    cases henabled : config.realtimeEnabled with
    | false =>
      rw [applyRealtime, if_pos henabled]
      simp
    | true =>
      dsimp only
      rw [if_pos rfl, applyRealtime_enabled hvalid henabled, apply_restore_iff hgrant]
      simp
  · refine iff_of_true ?_ fun config hreaches =>
      absurd (reachesDevice_boot_iff.mpr hreaches) (hrefused.reaches config)
    rw [hrefused.rt]
    rfl

theorem main_restores_env_default :
    (main quiet mockStack (.zeroed 4096) [] 0 3 (bootMachine .fresh idle)).2.rt.host.env =
      idle.rt.host.env := by
  have hgrant : idle.rt.host.Granting := by
    simp [idle, Host.Granting]
  refine (main_restores_env_iff quiet mockStack (.zeroed 4096) [] 0 3 .fresh idle hgrant).mpr ?_
  intro config hreaches _
  obtain ⟨path, verbose, -, rfl, -⟩ := hreaches
  have hconfig : (loadConfig (quiet.files path) path verbose).realtime = rtConfigDefault := by
    cases verbose <;> rfl
  rw [hconfig]
  exact ⟨by decide, by decide, by decide, by decide, by decide⟩

end PnetManager.ManagerEffects
