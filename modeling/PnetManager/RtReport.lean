import PnetManager.ByteMemory
import PnetManager.CNumber
import PnetManager.RtSetup

/-!
# The real-time report

`rt_setup_check` of a Linux build. Each line is printed behind the length that the
lines before it would have had, and nothing looks whether they were cut. The four
lines in front of the latency are too short for that, whatever their numbers are;
the latency is last and may have any length.
-/

namespace PnetManager.RtReport
open CText CNumber CStdio ByteMemory Runs RtSetup

set_option maxRecDepth 2000

variable {D : Type}

def schedRr : ℕ := 2

/-- What the host answers: `sched_getscheduler`, the priority that `sched_getparam`
leaves, `/proc/self/status` where it can be opened, the set of `sched_getaffinity`
where it succeeds, `sysconf`, `system` for irqbalance, and the latency where its
measurement returns 0. `D` is `double`. -/
structure Probe (D : Type) where
  policy : Int32
  priority : Int32
  status : Option Text
  affinity : Option (Finset ℕ)
  ncpus : ℤ
  irqbalance : Int32
  latency : Option D

def rlen : UInt64 := 512

theorem rlen_toNat : rlen.toNat = 512 := rfl

structure RtCheckResult (D : Type) where
  rtSchedulingOk : Bool
  memoryLocked : Bool
  cpuIsolated : Bool
  irqBalanceDisabled : Bool
  maxLatencyUs : D
  report : Report

def scanLu (s : Text) : Option ℕ :=
  let (neg, s) := splitSign (s.dropWhile isspace)
  match digitRun 10 s with
  | [] => none
  | d :: ds => some (toUlong neg (valueOf 10 (d :: ds)))

/-- `sscanf(line, "VmLck: %lu kB", …)`, which has its one conversion before `kB`. -/
def scanVmLck (line : Text) : Option ℕ :=
  if ascii "VmLck:" <+: line then scanLu (line.drop (ascii "VmLck:").length) else none

def isScheduled (policy : Int32) : Bool :=
  policy.toInt = schedFifo ∨ policy.toInt = schedRr

def isLocked (status : Option Text) : Bool :=
  match status.bind fun file => (fgetsAll 256 file).findSome? fun line => scanVmLck (cstr line) with
  | none => false
  | some lockedKb => 0 < lockedKb

def isIsolated (globals : RtGlobals) (probe : Probe D) : Bool :=
  if globals.rtInitialized ∧ 0 ≤ globals.rtConfig.isolateCpu then
    match probe.affinity with
    | none => false
    | some cpuset =>
      (List.range probe.ncpus.toNat).countP (fun cpu => cpu < cpuSetSize ∧ cpu ∈ cpuset) = 1
  else false

def schedulingLine (policy priority : Int32) : Text :=
  if isScheduled policy then
    ascii "[OK] RT scheduling active: policy=" ++ fmtD policy.toInt ++ ascii ", priority=" ++
      fmtD priority.toInt ++ [lf]
  else
    ascii "[FAIL] RT scheduling not active (current policy=" ++ fmtD policy.toInt ++
      ascii ")\n"

def findingLine (name : String) (ok : Bool) (tags states : String × String) : Text :=
  ascii "[" ++ ascii (if ok then tags.1 else tags.2) ++ ascii "] " ++ ascii name ++ ascii ": " ++
    ascii (if ok then states.1 else states.2) ++ [lf]

def memoryLine (ok : Bool) : Text :=
  findingLine "Memory lock" ok ("OK", "FAIL") ("locked", "not locked")

def isolationLine (ok : Bool) : Text :=
  findingLine "CPU isolation" ok ("OK", "INFO") ("isolated", "not configured")

def irqbalanceLine (ok : Bool) : Text :=
  findingLine "irqbalance" ok ("OK", "WARN") ("disabled", "still running")

def latencyLine (fmtF2 : D → Text) : Option D → Text
  | some maxLat => ascii "[INFO] Max loop latency (1000 samples): " ++ fmtF2 maxLat ++ ascii " us\n"
  | none => ascii "[WARN] Latency measurement failed\n"

def written (text : Text) : ℤ := if text.length < 2 ^ 31 then text.length else -1

/-- One `snprintf` of the check, and the step of `offset` after it. -/
def append (r : Report) (text : Text) : Report :=
  { r.print rlen text with
    offset := if 0 < written text then r.offset + (written text).toNat else r.offset }

def cleared (mem : Mem) : Report := ⟨store mem 0 (List.replicate rlen.toNat nul), 0, []⟩

def rtSetupCheck [Zero D] (fmtF2 : D → Text) (globals : RtGlobals) (probe : Probe D) :
    Option Mem → ℤ × Option (RtCheckResult D)
  | none => (-einval, none)
  | some mem =>
    let r := cleared mem
    let rtSchedulingOk := isScheduled probe.policy
    let r := append r (schedulingLine probe.policy probe.priority)
    let memoryLocked := isLocked probe.status
    let r := append r (memoryLine memoryLocked)
    let cpuIsolated := isIsolated globals probe
    let r := append r (isolationLine cpuIsolated)
    let irqBalanceDisabled : Bool := probe.irqbalance ≠ 0
    let r := append r (irqbalanceLine irqBalanceDisabled)
    let r := append r (latencyLine fmtF2 probe.latency)
    (0, some
      { rtSchedulingOk := rtSchedulingOk
        memoryLocked := memoryLocked
        cpuIsolated := cpuIsolated
        irqBalanceDisabled := irqBalanceDisabled
        maxLatencyUs := probe.latency.getD 0
        report := r })

theorem schedulingLine_length (policy priority : Int32) :
    (schedulingLine policy priority).length ≤ 100 := by
  have hpolicy := fmtD_length policy
  have hpriority := fmtD_length priority
  have h1 : (ascii "[OK] RT scheduling active: policy=").length = 34 := by decide
  have h2 : (ascii ", priority=").length = 11 := by decide
  have h3 : (ascii "[FAIL] RT scheduling not active (current policy=").length = 48 := by decide
  have h4 : (ascii ")\n").length = 2 := by decide
  rw [schedulingLine]
  split_ifs
  · simp only [List.length_append, List.length_singleton, h1, h2]
    omega
  · simp only [List.length_append, h3, h4]
    omega

theorem memoryLine_length : ∀ ok, (memoryLine ok).length ≤ 100 := by decide

theorem isolationLine_length : ∀ ok, (isolationLine ok).length ≤ 100 := by decide

theorem irqbalanceLine_length : ∀ ok, (irqbalanceLine ok).length ≤ 100 := by decide

def findings (globals : RtGlobals) (probe : Probe D) : List Text :=
  [schedulingLine probe.policy probe.priority, memoryLine (isLocked probe.status),
    isolationLine (isIsolated globals probe), irqbalanceLine (probe.irqbalance ≠ 0)]

def lines (fmtF2 : D → Text) (globals : RtGlobals) (probe : Probe D) : List Text :=
  findings globals probe ++ [latencyLine fmtF2 probe.latency]

theorem findings_length (globals : RtGlobals) (probe : Probe D) :
    ∀ line ∈ findings globals probe, line.length ≤ 100 := by
  simp only [findings, List.forall_mem_cons, schedulingLine_length, memoryLine_length,
    isolationLine_length, irqbalanceLine_length, List.not_mem_nil, false_implies, implies_true,
    and_self]

structure Bounded (mem : Mem) (r : Report) : Prop where
  outside : ∀ a, rlen.toNat ≤ a → r.mem a = mem a
  terminated : nul ∈ window r.mem rlen.toNat

variable {mem : Mem} {r : Report}

theorem written_toNat_le (text : Text) : (written text).toNat ≤ text.length := by
  rw [written]
  split_ifs
  · exact (Int.toNat_natCast _).le
  · exact Nat.zero_le _

theorem append_offset_le (r : Report) (text : Text) :
    (append r text).offset ≤ r.offset + text.length := by
  have hle := written_toNat_le text
  rw [append]
  dsimp only
  split_ifs <;> omega

theorem cleared_bounded (mem : Mem) : Bounded mem (cleared mem) where
  outside a ha := by
    simp only [cleared]
    apply store_outside
    rw [List.length_replicate, Nat.zero_add]
    exact Or.inr ha
  terminated := by
    have hpos : 0 < (List.replicate rlen.toNat nul).length := by
      rw [List.length_replicate]
      decide
    have hfirst : store mem 0 (List.replicate rlen.toNat nul) (0 + 0) = nul := by
      rw [store_inside hpos, List.getElem_replicate]
    exact List.mem_map.mpr ⟨0, List.mem_range.mpr (by decide), hfirst⟩

theorem Bounded.append (h : Bounded mem r) (hoffset : r.offset < rlen.toNat) (text : Text) :
    Bounded mem (append r text) where
  outside a ha := (print_outside hoffset.le text ha).trans (h.outside a ha)
  terminated := by
    have hroom := room_of_le hoffset.le
    show nul ∈ window (snprintfAt r.mem r.offset (room rlen r.offset) text) rlen.toNat
    rw [hroom]
    exact snprintfAt_terminated hoffset text

theorem run_offset_le (mem : Mem) (lines : List Text) (h : ∀ line ∈ lines, line.length ≤ 100) :
    (run append (cleared mem) lines).offset ≤ 100 * lines.length := by
  induction lines using List.reverseRecOn with
  | nil => exact Nat.le_refl 0
  | append_singleton lines line ih =>
    have hbefore := ih fun l hl => h l (List.mem_append_left _ hl)
    have hstep := append_offset_le (run append (cleared mem) lines) line
    have hline := h line (by simp)
    rw [run_snoc, List.length_append, List.length_singleton]
    omega

theorem run_bounded {lines : List Text} (h : ∀ line ∈ lines, line.length ≤ 100)
    (hfew : lines.length ≤ 5) : Bounded mem (run append (cleared mem) lines) := by
  induction lines using List.reverseRecOn with
  | nil => exact cleared_bounded mem
  | append_singleton lines line ih =>
    have hshort : ∀ l ∈ lines, l.length ≤ 100 := fun l hl => h l (List.mem_append_left _ hl)
    rw [List.length_append, List.length_singleton] at hfew
    have hoffset := run_offset_le mem lines hshort
    rw [run_snoc]
    exact (ih hshort (by omega)).append (by rw [rlen_toNat]; omega) line

theorem rtSetupCheck_report [Zero D] (fmtF2 : D → Text) (globals : RtGlobals) (probe : Probe D)
    (mem : Mem) : ∃ result, rtSetupCheck fmtF2 globals probe (some mem) = (0, some result) ∧
      result.report = run append (cleared mem) (lines fmtF2 globals probe) := ⟨_, rfl, rfl⟩

theorem findings_bounded {globals : RtGlobals} {probe : Probe D} {before : List Text}
    (h : before <+: findings globals probe) (mem : Mem) :
    Bounded mem (run append (cleared mem) before) ∧
      (run append (cleared mem) before).offset < rlen.toNat := by
  have hshort : ∀ line ∈ before, line.length ≤ 100 :=
    fun line hline => findings_length globals probe line (h.subset hline)
  have hfew : before.length ≤ 4 := h.length_le
  have hoffset := run_offset_le mem before hshort
  exact ⟨run_bounded hshort (by omega), by rw [rlen_toNat]; omega⟩

/-- Each of the five lines is printed inside the report, with the room that is left of it,
and up to each of them the report is terminated and nothing behind it is written. -/
theorem report_within_bounds [Zero D] (fmtF2 : D → Text) (globals : RtGlobals) (probe : Probe D)
    (mem : Mem) :
    (∃ result, rtSetupCheck fmtF2 globals probe (some mem) = (0, some result) ∧
      result.report = run append (cleared mem) (lines fmtF2 globals probe)) ∧
    (lines fmtF2 globals probe).length = 5 ∧
    (∀ before line, before ++ [line] <+: lines fmtF2 globals probe →
      (run append (cleared mem) before).offset < rlen.toNat ∧
      room rlen (run append (cleared mem) before).offset =
        rlen.toNat - (run append (cleared mem) before).offset) ∧
    ∀ printed, printed <+: lines fmtF2 globals probe →
      Bounded mem (run append (cleared mem) printed) := by
  refine ⟨rtSetupCheck_report fmtF2 globals probe mem, rfl, ?_, ?_⟩
  · intro before line h
    have hbefore : before <+: findings globals probe := by
      rcases List.prefix_concat_iff.mp h with hall | hpart
      · exact (List.append_inj' hall rfl).1 ▸ List.prefix_rfl
      · exact (List.prefix_append before [line]).trans hpart
    have hoffset := (findings_bounded hbefore mem).2
    exact ⟨hoffset, room_of_le hoffset.le⟩
  · intro printed h
    rcases List.prefix_concat_iff.mp h with hall | hpart
    · obtain ⟨hbounded, hoffset⟩ :=
        findings_bounded (List.prefix_refl (findings globals probe)) mem
      rw [hall, run_snoc]
      exact hbounded.append hoffset _
    · exact (findings_bounded hpart mem).1

end PnetManager.RtReport
