import PnetManager.CStdio
import PnetManager.Runs
import PnetManager.SystemCalls

/-!
# The real-time environment

`rt_setup_init`, `rt_setup_apply` and `rt_setup_restore` of a Linux build, over
the parts of the host they touch: the scheduling of the process, its memory
lock and CPU affinity, one governor file per online CPU and the irqbalance
service. Messages are left out.
-/

namespace PnetManager.RtSetup
open CText CStdio Runs SystemCalls

structure RtConfig where
  useRtScheduling : Bool
  rtPriority : Int32
  lockMemory : Bool
  disableCpuFreq : Bool
  isolateCpu : Int32
  disableIrqBalance : Bool
deriving DecidableEq

def rtConfigDefault : RtConfig where
  useRtScheduling := true
  rtPriority := 80
  lockMemory := true
  disableCpuFreq := true
  isolateCpu := -1
  disableIrqBalance := true

structure Sched where
  policy : ℕ
  priority : Int32
deriving DecidableEq

def schedOther : ℕ := 0
def schedFifo : ℕ := 1

def IsGovernorName (t : Text) : Prop := t ≠ [] ∧ t.length < 16 ∧ nul ∉ t ∧ lf ∉ t

instance (t : Text) : Decidable (IsGovernorName t) :=
  inferInstanceAs (Decidable (t ≠ [] ∧ t.length < 16 ∧ nul ∉ t ∧ lf ∉ t))

structure Governor where
  name : Text
  isName : IsGovernorName name
deriving DecidableEq

/-- Writing to a governor file; a text that names no governor is refused. -/
def Governor.write (g : Governor) (t : Text) : Governor :=
  if h : IsGovernorName t then ⟨t, h⟩ else g

def Governor.read (g : Governor) : Text := g.name ++ [lf]

def performance : Governor := ⟨ascii "performance", by decide⟩

@[ext]
structure RtEnv where
  sched : Sched
  memoryLocked : Bool
  governors : List Governor
  affinity : Finset ℕ
  irqbalance : Bool
deriving DecidableEq

def RtEnv.ncpus (env : RtEnv) : ℕ := env.governors.length

def cpuSetSize : ℕ := 1024

/-- `CPU_SET`, which drops a CPU that the set has no bit for. -/
def cpuSet (cpu : ℕ) (set : Finset ℕ) : Finset ℕ :=
  if cpu < cpuSetSize then insert cpu set else set

structure RtGlobals where
  rtConfig : RtConfig
  rtInitialized : Bool
  saved : Sched
  savedGovernor : Text
deriving DecidableEq

structure RtState where
  globals : RtGlobals
  host : Host RtEnv

/-- A system call that cannot fail for a reason of its own. -/
def RtState.call (s : RtState) (effect : RtEnv → RtEnv) : Bool × RtState :=
  let (ok, host) := s.host.call fun env => some (effect env)
  (ok, { s with host := host })

def rtSetupInit (cfg : RtConfig) (s : RtState) : ℤ × RtState :=
  if cfg.rtPriority < 1 ∨ 99 < cfg.rtPriority then (-einval, s)
  else (0, { s with globals := { s.globals with rtConfig := cfg, rtInitialized := true } })

def saveSched (s : RtState) : RtState :=
  let policy := s.host.env.sched.policy
  let priority := s.host.env.sched.priority
  let (okPolicy, s) := s.call id
  let (okParam, s) := s.call id
  { s with globals := { s.globals with
      saved := ⟨if okPolicy then policy else schedOther, if okParam then priority else 0⟩ } }

/-- Step 1; `false` ends `rt_setup_apply`. -/
def applySched (s : RtState) : Bool × RtState :=
  if s.globals.rtConfig.useRtScheduling then
    let s := saveSched s
    s.call fun env => { env with sched := ⟨schedFifo, s.globals.rtConfig.rtPriority⟩ }
  else (true, s)

def applyMemory (s : RtState) : RtState :=
  if s.globals.rtConfig.lockMemory then (s.call fun env => { env with memoryLocked := true }).2
  else s

def chomp (t : Text) : Text := if t.getLast? = some lf then t.dropLast else t

def saveGovernor (s : RtState) : RtState :=
  let (ok, s) := s.call id
  match ok, (s.host.env.governors.head?).bind fun g => fgets 64 g.read with
  | true, some (line, _) =>
    { s with globals := { s.globals with savedGovernor := chomp (cstr line) } }
  | _, _ => s

def writeGovernor (cpu : ℕ) (t : Text) (s : RtState) : RtState :=
  (s.call fun env => { env with governors := env.governors.modify cpu fun g => g.write t }).2

def applyGovernor (s : RtState) (cpu : ℕ) : RtState :=
  let s := if cpu = 0 then saveGovernor s else s
  writeGovernor cpu performance.name s

def applyGovernors (s : RtState) : RtState :=
  if s.globals.rtConfig.disableCpuFreq then
    run applyGovernor s (List.range s.host.env.ncpus)
  else s

def applyAffinity (s : RtState) : RtState :=
  if 0 ≤ s.globals.rtConfig.isolateCpu then
    (s.call fun env =>
      { env with affinity := cpuSet s.globals.rtConfig.isolateCpu.toInt.toNat ∅ }).2
  else s

def applyIrqBalance (s : RtState) : RtState :=
  if s.globals.rtConfig.disableIrqBalance then
    (s.call fun env => { env with irqbalance := false }).2
  else s

/-- `rt_setup_apply`; only the scheduling step makes it fail. -/
def rtSetupApply (s : RtState) : ℤ × RtState :=
  if s.globals.rtInitialized = false then (-eperm, s)
  else
    match applySched s with
    | (false, s) => (-eperm, s)
    | (true, s) => (0, applyIrqBalance (applyAffinity (applyGovernors (applyMemory s))))

def restoreSched (s : RtState) : RtState :=
  if s.globals.rtConfig.useRtScheduling then
    (s.call fun env => { env with sched := s.globals.saved }).2
  else s

def restoreMemory (s : RtState) : RtState :=
  if s.globals.rtConfig.lockMemory then (s.call fun env => { env with memoryLocked := false }).2
  else s

def restoreGovernor (s : RtState) (cpu : ℕ) : RtState :=
  writeGovernor cpu s.globals.savedGovernor s

def restoreGovernors (s : RtState) : RtState :=
  if s.globals.rtConfig.disableCpuFreq ∧ s.globals.savedGovernor ≠ [] then
    run restoreGovernor s (List.range s.host.env.ncpus)
  else s

def allCpus (ncpus : ℕ) : Finset ℕ :=
  (List.range ncpus).foldl (fun set cpu => cpuSet cpu set) ∅

def restoreAffinity (s : RtState) : RtState :=
  if 0 ≤ s.globals.rtConfig.isolateCpu then
    (s.call fun env => { env with affinity := allCpus env.ncpus }).2
  else s

def restoreIrqBalance (s : RtState) : RtState :=
  if s.globals.rtConfig.disableIrqBalance then
    (s.call fun env => { env with irqbalance := true }).2
  else s

def rtSetupRestore (s : RtState) : RtState :=
  if s.globals.rtInitialized = false then s
  else
    let s := restoreIrqBalance (restoreAffinity (restoreGovernors (restoreMemory (restoreSched s))))
    { s with globals := { s.globals with rtInitialized := false } }

end PnetManager.RtSetup
