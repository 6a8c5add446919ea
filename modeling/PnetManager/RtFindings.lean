import PnetManager.Iptables
import PnetManager.RtReport
import PnetManager.RtRestore

/-!
# What the check finds

`rt_setup_check` reads the environment that `rt_setup_apply` and `rt_setup_restore`
write, on a host that grants every call and answers as its environment is.
-/

namespace PnetManager.RtFindings
open CText CNumber CStdio ByteMemory SystemCalls RtSetup RtRestore RtReport

set_option maxRecDepth 2000

variable {D : Type}

def vmLckLine (kb : ℕ) : Text :=
  ascii "VmLck:\t" ++ List.replicate (8 - (fmtU kb).length) 32 ++ fmtU kb ++ ascii " kB"

def statusFile (before : List Text) (kb : ℕ) (behind : List Text) : Text :=
  (before ++ vmLckLine kb :: behind).flatMap (· ++ [lf])

structure OtherLine (l : Text) : Prop where
  no_lf : lf ∉ l
  short : l.length + 2 ≤ 256
  other : scanVmLck (cstr (l ++ [lf])) = none

/-- The answers of a host in the environment `env`. -/
structure Answers (env : RtEnv) (probe : Probe D) : Prop where
  policy : probe.policy.toInt = env.sched.policy
  priority : probe.priority = env.sched.priority
  status : ∃ before kb behind, probe.status = some (statusFile before kb behind) ∧
    (∀ l ∈ before, OtherLine l) ∧ (∀ l ∈ behind, lf ∉ l ∧ l.length + 2 ≤ 256) ∧
    kb < 2 ^ 40 ∧ (0 < kb ↔ env.memoryLocked = true)
  affinity : probe.affinity = some env.affinity
  ncpus : probe.ncpus = env.ncpus
  irqbalance : probe.irqbalance = 0 ↔ env.irqbalance = true

theorem not_mem_vmLckLine {b : Byte} (hb : b = nul ∨ b = lf) (kb : ℕ) : b ∉ vmLckLine kb := by
  have hdigits : b ∉ fmtU kb := Iptables.not_mem_fmtU (by rcases hb with rfl | rfl <;> decide) kb
  have hwords : b ∉ ascii "VmLck:\t" ∧ b ∉ ascii " kB" ∧ b ≠ 32 := by
    rcases hb with rfl | rfl <;> decide
  simp [vmLckLine, hdigits, hwords, List.mem_replicate]

theorem vmLckLine_length {kb : ℕ} (h : kb < 2 ^ 40) : (vmLckLine kb).length + 2 ≤ 256 := by
  have hlength : (fmtU kb).length ≤ 13 := fmtU_length_le (by norm_num) (by omega)
  have hhead : (ascii "VmLck:\t").length = 7 := by decide
  have htail : (ascii " kB").length = 3 := by decide
  simp only [vmLckLine, List.length_append, List.length_replicate, hhead, htail]
  omega

theorem scanLu_padded (pad kb : ℕ) (h : kb < 2 ^ 40) (rest : Text)
    (hrest : ∀ b ∈ rest.head?, isDigitOf 10 b = false) :
    scanLu (9 :: (List.replicate pad 32 ++ (fmtU kb ++ rest))) = some kb := by
  obtain ⟨hstart, hsign⟩ := digits_start (t := rest) (fmtU_ne_nil kb) (fmtU_digits kb)
  have hblank : (9 :: (List.replicate pad 32 ++ (fmtU kb ++ rest)) : Text).dropWhile isspace =
      fmtU kb ++ rest := by
    have hall : ∀ b ∈ (9 :: List.replicate pad 32 : Text), isspace b = true := by
      intro b hb
      rcases List.mem_cons.mp hb with rfl | hb
      · decide
      · rw [List.eq_of_mem_replicate hb]
        decide
    rw [← List.cons_append, List.dropWhile_append_of_pos hall, hstart]
  obtain ⟨d, ds, hdigits⟩ := List.exists_cons_of_ne_nil (fmtU_ne_nil kb)
  have hrun := digitRun_append (fmtU_digits kb) hrest
  have hvalue := valueOf_fmtU kb
  have hulong : toUlong false kb = kb := toUlong_of_le (by rw [ulongMax]; omega)
  rw [hdigits] at hrun hvalue hblank hsign
  rw [scanLu, hdigits, hblank, hsign]
  dsimp only
  rw [hrun]
  dsimp only
  rw [hvalue, hulong]

theorem scanVmLck_line {kb : ℕ} (h : kb < 2 ^ 40) :
    scanVmLck (cstr (vmLckLine kb ++ [lf])) = some kb := by
  have hno : nul ∉ vmLckLine kb ++ [lf] := by
    simpa [not_mem_vmLckLine] using show nul ≠ lf by decide
  have htext : vmLckLine kb ++ [lf] =
      ascii "VmLck:" ++ 9 :: (List.replicate (8 - (fmtU kb).length) 32 ++
        (fmtU kb ++ (ascii " kB" ++ [lf]))) := by
    simp only [vmLckLine, show ascii "VmLck:\t" = ascii "VmLck:" ++ [9] by decide,
      List.append_assoc, List.cons_append, List.nil_append]
  rw [cstr_of_nul_not_mem hno, htext, scanVmLck, if_pos (List.prefix_append _ _),
    List.drop_left]
  exact scanLu_padded _ kb h _ (by decide)

theorem isLocked_statusFile {before behind : List Text} {kb : ℕ} (h : kb < 2 ^ 40)
    (hbefore : ∀ l ∈ before, OtherLine l)
    (hbehind : ∀ l ∈ behind, lf ∉ l ∧ l.length + 2 ≤ 256) :
    isLocked (some (statusFile before kb behind)) = decide (0 < kb) := by
  have hlines : ∀ l ∈ before ++ vmLckLine kb :: behind, lf ∉ l ∧ l.length + 2 ≤ 256 := by
    intro l hl
    rcases List.mem_append.mp hl with hl | hl
    · exact ⟨(hbefore l hl).no_lf, (hbefore l hl).short⟩
    · rcases List.mem_cons.mp hl with rfl | hl
      · exact ⟨not_mem_vmLckLine (Or.inr rfl) kb, vmLckLine_length h⟩
      · exact hbehind l hl
  have hnone : (before.map (· ++ [lf])).findSome? (fun line => scanVmLck (cstr line)) = none := by
    rw [List.findSome?_eq_none_iff]
    intro line hline
    obtain ⟨l, hl, rfl⟩ := List.mem_map.mp hline
    exact (hbefore l hl).other
  rw [isLocked, Option.bind_some, statusFile, fgetsAll_lines _ hlines, List.map_append,
    List.findSome?_append, hnone, Option.none_or, List.map_cons,
    List.findSome?_cons_of_isSome (by rw [scanVmLck_line h]; rfl), scanVmLck_line h]

theorem countP_cpuSet (cpu n : ℕ) :
    (List.range n).countP (fun i => i < cpuSetSize ∧ i ∈ cpuSet cpu ∅) =
      if cpu < cpuSetSize ∧ cpu < n then 1 else 0 := by
  by_cases hcpu : cpu < cpuSetSize
  · have hone : ∀ i, (decide (i < cpuSetSize ∧ i ∈ cpuSet cpu ∅)) = (i == cpu) := by
      intro i
      by_cases hi : i = cpu <;> simp [cpuSet, hi, hcpu]
    simp only [hone, hcpu, true_and]
    change (List.range n).count cpu = _
    rw [List.nodup_range.count]
    simp only [List.mem_range]
  · simp [cpuSet, hcpu]

def IsRt (sched : Sched) : Prop := sched.policy = schedFifo ∨ sched.policy = schedRr

def Finds [Zero D] (fmtF2 : D → Text) (s : RtState) (scheduled locked isolated stopped : Prop) :
    Prop :=
  ∀ (probe : Probe D) (mem : Mem), Answers s.host.env probe →
    ∃ result, rtSetupCheck fmtF2 s.globals probe (some mem) = (0, some result) ∧
      (result.rtSchedulingOk = true ↔ scheduled) ∧ (result.memoryLocked = true ↔ locked) ∧
      (result.cpuIsolated = true ↔ isolated) ∧ (result.irqBalanceDisabled = true ↔ stopped)

theorem finds_env [Zero D] (fmtF2 : D → Text) (s : RtState) :
    Finds fmtF2 s (IsRt s.host.env.sched) (s.host.env.memoryLocked = true)
      (s.globals.rtInitialized = true ∧ 0 ≤ s.globals.rtConfig.isolateCpu ∧
        (List.range s.host.env.ncpus).countP
          (fun cpu => cpu < cpuSetSize ∧ cpu ∈ s.host.env.affinity) = 1)
      (s.host.env.irqbalance = false) := by
  intro probe mem hanswers
  obtain ⟨before, kb, behind, hstatus, hbefore, hbehind, hkb, hlocked⟩ := hanswers.status
  refine ⟨_, rfl, ?_, ?_, ?_, ?_⟩
  · have hpolicy := hanswers.policy
    simp [isScheduled, IsRt, hpolicy]
  · simp only [hstatus, isLocked_statusFile hkb hbefore hbehind, decide_eq_true_eq, hlocked]
  · simp only [isIsolated, hanswers.affinity, hanswers.ncpus, Int.toNat_natCast]
    split_ifs with hset
    · simp [hset]
    · simp only [false_iff]
      exact fun h => hset ⟨h.1, h.2.1⟩
  · have hstopped := hanswers.irqbalance
    rw [← Bool.not_eq_true, ← hstopped]
    simp

theorem applied_schedule (cfg : RtConfig) (env : RtEnv) :
    IsRt (appliedEnv cfg env).sched ↔ cfg.useRtScheduling = true ∨ IsRt env.sched := by
  cases hb : cfg.useRtScheduling <;> simp [appliedEnv, IsRt, hb]

theorem applied_isolation (cfg : RtConfig) (env : RtEnv) :
    (0 ≤ cfg.isolateCpu ∧ (List.range env.ncpus).countP
      (fun cpu => cpu < cpuSetSize ∧ cpu ∈ (appliedEnv cfg env).affinity) = 1) ↔
    0 ≤ cfg.isolateCpu ∧ cfg.isolateCpu.toInt < cpuSetSize ∧ cfg.isolateCpu.toInt < env.ncpus := by
  refine and_congr_right fun h0 => ?_
  have hnonneg : 0 ≤ cfg.isolateCpu.toInt := by
    simpa [Int32.le_iff_toInt_le] using h0
  rw [appliedEnv, if_pos h0, countP_cpuSet]
  split_ifs with hset
  · simp only [true_iff]
    omega
  · simp only [false_iff]
    omega

theorem restored_uninitialized (s : RtState) :
    (rtSetupRestore s).globals.rtInitialized = false := by
  rw [rtSetupRestore]
  split_ifs with h
  · exact h
  · rfl

theorem applied_locked (cfg : RtConfig) (env : RtEnv) :
    (appliedEnv cfg env).memoryLocked = true ↔
      cfg.lockMemory = true ∨ env.memoryLocked = true := by
  cases hb : cfg.lockMemory <;> simp [appliedEnv, hb]

theorem applied_stopped (cfg : RtConfig) (env : RtEnv) :
    (appliedEnv cfg env).irqbalance = false ↔
      cfg.disableIrqBalance = true ∨ env.irqbalance = false := by
  cases hb : cfg.disableIrqBalance <;> simp [appliedEnv, hb]

variable {s : RtState} {globals : RtGlobals} {env : RtEnv}

theorem finds_applied [Zero D] (fmtF2 : D → Text)
    (h : Holds s globals (appliedEnv globals.rtConfig env)) (hi : globals.rtInitialized = true) :
    Finds fmtF2 s (globals.rtConfig.useRtScheduling = true ∨ IsRt env.sched)
      (globals.rtConfig.lockMemory = true ∨ env.memoryLocked = true)
      (0 ≤ globals.rtConfig.isolateCpu ∧ globals.rtConfig.isolateCpu.toInt < cpuSetSize ∧
        globals.rtConfig.isolateCpu.toInt < env.ncpus)
      (globals.rtConfig.disableIrqBalance = true ∨ env.irqbalance = false) := by
  have hfinds := finds_env fmtF2 s
  have hcpus : (appliedEnv globals.rtConfig env).ncpus = env.ncpus := appliedEnv_ncpus _ env
  rw [h.env_eq, h.globals_eq, hi, hcpus] at hfinds
  rwa [applied_schedule, applied_locked, eq_self_iff_true, true_and, applied_isolation,
    applied_stopped] at hfinds

def restored (globals : RtGlobals) (env : RtEnv) : RtEnv :=
  rewrittenEnv globals.rtConfig globals.saved globals.savedGovernor
    (appliedEnv globals.rtConfig env)

theorem restored_schedule {n : ℕ}
    (hsaved : SavedFrom globals (lastSaved globals.rtConfig n env)) :
    IsRt (restored globals env).sched ↔
      (globals.rtConfig.useRtScheduling = true ∧ n ≠ 1) ∨ IsRt env.sched := by
  cases hb : globals.rtConfig.useRtScheduling with
  | false => simp [restored, rewrittenEnv, appliedEnv, hb]
  | true =>
    have hlast := hsaved.sched hb
    by_cases hn : n = 1
    · simp [restored, rewrittenEnv, hb, hlast, lastSaved, hn]
    · simp [restored, rewrittenEnv, hb, hlast, lastSaved, hn, appliedEnv, IsRt]

theorem restored_locked (globals : RtGlobals) (env : RtEnv) :
    (restored globals env).memoryLocked = true ↔
      globals.rtConfig.lockMemory = false ∧ env.memoryLocked = true := by
  cases hb : globals.rtConfig.lockMemory <;> simp [restored, rewrittenEnv, appliedEnv, hb]

theorem restored_stopped (globals : RtGlobals) (env : RtEnv) :
    (restored globals env).irqbalance = false ↔
      globals.rtConfig.disableIrqBalance = false ∧ env.irqbalance = false := by
  cases hb : globals.rtConfig.disableIrqBalance <;> simp [restored, rewrittenEnv, appliedEnv, hb]

theorem finds_restored [Zero D] (fmtF2 : D → Text) {n : ℕ}
    (h : Holds s globals (appliedEnv globals.rtConfig env)) (hi : globals.rtInitialized = true)
    (hsaved : SavedFrom globals (lastSaved globals.rtConfig n env)) :
    Finds fmtF2 (rtSetupRestore s)
      ((globals.rtConfig.useRtScheduling = true ∧ n ≠ 1) ∨ IsRt env.sched)
      (globals.rtConfig.lockMemory = false ∧ env.memoryLocked = true) False
      (globals.rtConfig.disableIrqBalance = false ∧ env.irqbalance = false) := by
  have hfinds := finds_env fmtF2 (rtSetupRestore s)
  rw [h.restore_rewrites hi, ← restored, restored_uninitialized] at hfinds
  rwa [restored_schedule hsaved, restored_locked, restored_stopped, Bool.false_eq_true,
    false_and] at hfinds

theorem init_holds {cfg : RtConfig} (hs : s.host.Granting) (hinit : (rtSetupInit cfg s).1 = 0) :
    Holds (rtSetupInit cfg s).2 { s.globals with rtConfig := cfg, rtInitialized := true }
      s.host.env := by
  have hok : ¬ (cfg.rtPriority < 1 ∨ 99 < cfg.rtPriority) := by
    intro hbad
    simp [rtSetupInit, hbad, einval] at hinit
  rw [rtSetupInit, if_neg hok]
  exact ⟨hs, rfl, rfl⟩

/-- A check behind any number of applies, and one behind the restore after them. The
process keeps its real-time scheduling through the restore when the last apply saved
what the one before it had set. -/
theorem check_follows_setup [Zero D] (fmtF2 : D → Text) (cfg : RtConfig) (n : ℕ) (hn : 1 ≤ n)
    (s : RtState) (hs : s.host.Granting) (hinit : (rtSetupInit cfg s).1 = 0) :
    let env := s.host.env
    let applied := applies n (rtSetupInit cfg s).2
    Finds fmtF2 applied (cfg.useRtScheduling = true ∨ IsRt env.sched)
      (cfg.lockMemory = true ∨ env.memoryLocked = true)
      (0 ≤ cfg.isolateCpu ∧ cfg.isolateCpu.toInt < cpuSetSize ∧ cfg.isolateCpu.toInt < env.ncpus)
      (cfg.disableIrqBalance = true ∨ env.irqbalance = false) ∧
    Finds fmtF2 (rtSetupRestore applied)
      ((cfg.useRtScheduling = true ∧ n ≠ 1) ∨ IsRt env.sched)
      (cfg.lockMemory = false ∧ env.memoryLocked = true) False
      (cfg.disableIrqBalance = false ∧ env.irqbalance = false) := by
  intro env applied
  obtain ⟨m, rfl⟩ := Nat.exists_eq_add_of_le' hn
  obtain ⟨globals', ha, hcfg, hi, hsaved, -⟩ := (init_holds hs hinit).applies rfl m
  dsimp only at ha hcfg hsaved
  subst hcfg
  exact ⟨finds_applied fmtF2 ha hi, finds_restored fmtF2 ha hi hsaved⟩

theorem check_follows_setup_twice :
    let s : RtState := ⟨⟨rtConfigDefault, false, ⟨0, 0⟩, []⟩,
      ⟨⟨⟨schedOther, 0⟩, false, [performance, performance], {0, 1}, true⟩, []⟩⟩
    let restored := rtSetupRestore (applies 2 (rtSetupInit rtConfigDefault s).2)
    let probe : Probe ℕ := ⟨1, 80, some (statusFile [ascii "Name:\tpnet-manager"] 0 []),
      some {0, 1}, 2, 0, none⟩
    ∃ result, rtSetupCheck fmtU restored.globals probe (some fun _ => 0) = (0, some result) ∧
      result.rtSchedulingOk = true ∧ result.memoryLocked ≠ true := by
  intro s restored probe
  obtain ⟨-, hfinds⟩ := check_follows_setup fmtU rtConfigDefault 2 (by norm_num) s
    (by simp [s, Host.Granting]) (by decide)
  have hstatus : ∀ l ∈ [ascii "Name:\tpnet-manager"], OtherLine l := by
    intro l hl
    rw [List.mem_singleton.mp hl]
    exact ⟨by decide, by decide, by decide⟩
  obtain ⟨result, hresult, hscheduled, hlocked, -, -⟩ := hfinds probe (fun _ => 0)
    ⟨by decide, by decide, ⟨_, 0, [], rfl, hstatus, by simp, by norm_num, by decide⟩,
      by decide, by decide, by decide⟩
  exact ⟨result, hresult, hscheduled.mpr (Or.inl (by decide)), fun h => by
    simpa [rtConfigDefault] using hlocked.mp h⟩

end PnetManager.RtFindings
