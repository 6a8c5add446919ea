import PnetManager.CommandLine
import PnetManager.FirewallScript
import PnetManager.MainStartup
import PnetManager.StackLedger

/-!
# The manager

`main` from its command line to its exit status, over everything it can reach: the
interfaces, the firewall behind `system`, the real-time environment, the p-net stack
and the messages to the service manager. A signal ends the loop after any number of
iterations.
-/

namespace PnetManager.Manager
open CText CNumber CStdio SystemCalls IoDeviceApp NetworkConfig SecurityPolicy FirewallScript
  RtSetup ConfigFile MainStartup ProductionLoop StackLedger CommandLine

/-- What a run finds: `system`, the files by path, whether `sigaction` succeeds, and
whether `HAVE_SYSTEMD` was defined. -/
structure Platform (F : Type) where
  system : Text → F → ℤ × F
  files : Text → Option Text
  handlersInstalled : Bool
  haveSystemd : Bool

structure Machine (F W : Type) where
  net : Host Net
  firewall : F
  rt : RtState
  process : Process W
  notified : List Text

variable {F W : Type} {build : Build}

def watchdogMessage : Text := ascii "WATCHDOG=1"
def stoppingMessage : Text := ascii "STOPPING=1"
def readyMessage : Text := ascii "READY=1"

def statusMessage (text : Text) : Text := ascii "STATUS=" ++ text.take 255

def recoveringMessage (attempt : ℤ) : Text :=
  statusMessage (ascii "recovering attempt " ++ fmtD attempt)

def runningMessage : Text := statusMessage (ascii "running")
def stoppedMessage : Text := statusMessage (ascii "stopped")

def Platform.notify (os : Platform F) (messages log : List Text) : List Text :=
  if os.haveSystemd then log ++ messages else log

def zeroedConfig : AppConfig where
  device := .zeroed
  network := .zeroed
  tcpTuning := .zeroed
  security := .zeroed
  securityEnabled := false
  realtime := ⟨false, 0, false, false, 0, false⟩
  realtimeEnabled := false
  logLevel := 0
  logFile := .zeroed _
  configFile := .zeroed _

def loadConfig (file : Option Text) (configPath : Text) (verbose : Bool) : AppConfig :=
  let (loaded, config) := appConfigLoad zeroedConfig configPath file
  let config :=
    if loaded < 0 then
      { appConfigDefault with
        configFile := appConfigDefault.configFile.memcpy (configPath.take 255 ++ [nul]) }
    else config
  if verbose then { config with logLevel := 3 } else config

def applySecurity (system : Text → F → ℤ × F) (script : CharArray 4096) (cfg : AppConfig)
    (firewall : F) : ℤ × F :=
  if cfg.securityEnabled = false then (0, firewall)
  else
    let (ret, firewall) := secPolicyApply system script cfg.security firewall
    if ret < 0 then (-1, firewall) else (0, firewall)

def applyRealtime (cfg : AppConfig) (rt : RtState) : ℤ × RtState :=
  if cfg.realtimeEnabled = false then (0, rt)
  else
    let (ret, rt) := rtSetupInit cfg.realtime rt
    if ret < 0 then (-1, rt)
    else
      let (ret, rt) := rtSetupApply rt
      if ret < 0 then (-1, rt) else (0, rt)

structure Production (W : Type) where
  vars : LoopState
  process : Process W
  notified : List Text

/-- What one iteration tells the service manager. -/
def iterationMessages (s : LoopState) (i : Iteration) : List Text :=
  (if recovers s i then
    recoveringMessage (s.recoveryAttempts + 1) ::
      if i.restartRc = 0 then [runningMessage] else []
  else []) ++
    if watchdogPingMs ≤ nowMs (afterTick s i).nowUs - (afterTick s i).lastWatchdogMs then
      [watchdogMessage]
    else []

variable (os : Platform F) (stack : PnetStack build W)

def loopBody (cfg : IoDeviceCfg) (r : Production W) : Production W :=
  let (rc, p) := deviceTick stack r.process
  let (restartRc, p) :=
    if recovers r.vars ⟨rc, 0⟩ then deviceRecover stack cfg p else (0, p)
  { vars := iterate cfg.tickUs r.vars ⟨rc, restartRc⟩
    process := p
    notified := os.notify (iterationMessages r.vars ⟨rc, restartRc⟩) r.notified }

def production (cfg : IoDeviceCfg) (n : ℕ) (r : Production W) : Production W :=
  (loopBody os stack cfg)^[n] r

def cleanupRt (config : AppConfig) (m : Machine F W) : ℤ × Machine F W :=
  (exitSuccess, { m with
    rt := if config.realtimeEnabled then rtSetupRestore m.rt else m.rt
    notified := os.notify [stoppedMessage] m.notified })

def serve (config : AppConfig) (nowUs n : ℕ) (m : Machine F W) : ℤ × Machine F W :=
  let (started, process) :=
    deviceInitAndStart stack config.device { m.process with device := .zeroed }
  if started < 0 then cleanupRt os config { m with process := process }
  else
    let r := production os stack config.device n
      ⟨loopEntry nowUs, process, os.notify [readyMessage] m.notified⟩
    cleanupRt os config { m with
      process := deviceStopAndCleanup stack r.process
      notified := os.notify [stoppingMessage] r.notified }

def manage (script : CharArray 4096) (config : AppConfig) (nowUs n : ℕ) (m : Machine F W) :
    ℤ × Machine F W :=
  if appConfigValidate config < 0 then (exitFailure, m)
  else if os.handlersInstalled = false then (exitFailure, m)
  else
    let (ret, net) := applyNetwork config m.net
    let m := { m with net := net }
    if ret < 0 then (exitFailure, m)
    else
      let (ret, firewall) := applySecurity os.system script config m.firewall
      let m := { m with firewall := firewall }
      if ret < 0 then (exitFailure, m)
      else
        let (_, rt) := applyRealtime config m.rt
        serve os stack config nowUs n { m with rt := rt }

def main (script : CharArray 4096) (args : List Text) (nowUs n : ℕ) (m : Machine F W) :
    ℤ × Machine F W :=
  match parseArguments args with
  | .usage status => (status, m)
  | .run configPath verbose =>
    manage os stack script (loadConfig (os.files configPath) configPath verbose) nowUs n m

end PnetManager.Manager
