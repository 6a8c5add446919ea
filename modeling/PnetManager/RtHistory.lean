import PnetManager.RestoreUnapplied

/-!
# Histories of the real-time setup

`rt_setup_init`, `rt_setup_apply` and `rt_setup_restore` in any order, on a host that may
refuse any of their calls. What no accepted configuration has asked for is never touched,
and what is written was on the host before or stands in a configuration.
-/

namespace PnetManager.RtHistory
open CText CStdio Runs SystemCalls RtSetup RtRestore RestoreUnapplied

inductive SetupCall
  | init (cfg : RtConfig)
  | apply
  | restore

def SetupCall.exec (s : RtState) : SetupCall → RtState
  | .init cfg => (rtSetupInit cfg s).2
  | .apply => (rtSetupApply s).2
  | .restore => rtSetupRestore s

def zeroedGlobals : RtGlobals := ⟨⟨false, 0, false, false, 0, false⟩, false, ⟨schedOther, 0⟩, []⟩

def history (host : Host RtEnv) (calls : List SetupCall) : RtState :=
  run SetupCall.exec ⟨zeroedGlobals, host⟩ calls

def Asked (calls : List SetupCall) (cfg : RtConfig) : Prop :=
  .init cfg ∈ calls ∧ 1 ≤ cfg.rtPriority ∧ cfg.rtPriority ≤ 99

section Within

variable (asked : RtConfig → Prop) (start : RtEnv)

def Known (g : Governor) : Prop := g = performance ∨ g ∈ start.governors

def KnownText (t : Text) : Prop := t = [] ∨ ∃ g, Known start g ∧ g.name = t

structure KnownSched (sched : Sched) : Prop where
  policy : sched.policy ∈ [start.sched.policy, schedOther, schedFifo]
  priority : sched.priority = start.sched.priority ∨ sched.priority = 0 ∨
    ∃ cfg, asked cfg ∧ cfg.useRtScheduling = true ∧ sched.priority = cfg.rtPriority

def KnownAffinity (affinity : Finset ℕ) : Prop :=
  ∃ cfg, asked cfg ∧ 0 ≤ cfg.isolateCpu ∧
    (affinity = cpuSet cfg.isolateCpu.toInt.toNat ∅ ∨ affinity = allCpus start.ncpus)

structure Within (env : RtEnv) : Prop where
  sched : env.sched ≠ start.sched → ∃ cfg, asked cfg ∧ cfg.useRtScheduling = true
  knownSched : KnownSched asked start env.sched
  memory : env.memoryLocked ≠ start.memoryLocked → ∃ cfg, asked cfg ∧ cfg.lockMemory = true
  governors : env.governors ≠ start.governors → ∃ cfg, asked cfg ∧ cfg.disableCpuFreq = true
  knownGovernors : ∀ g ∈ env.governors, Known start g
  ncpus : env.ncpus = start.ncpus
  affinity : env.affinity ≠ start.affinity → KnownAffinity asked start env.affinity
  irqBalance : env.irqbalance ≠ start.irqbalance → ∃ cfg, asked cfg ∧ cfg.disableIrqBalance = true

/-- The invariant of a process with the configuration `cfg`: what it has saved may be
written back at any time. -/
structure Inside (cfg : RtConfig) (s : RtState) : Prop where
  env : Within asked start s.host.env
  rtConfig : s.globals.rtConfig = cfg
  saved : KnownSched asked start s.globals.saved
  savedGovernor : KnownText start s.globals.savedGovernor

end Within

variable {asked : RtConfig → Prop} {start : RtEnv} {cfg : RtConfig} {s : RtState}

theorem within_start : Within asked start start where
  sched h := absurd rfl h
  knownSched := ⟨by simp, Or.inl rfl⟩
  memory h := absurd rfl h
  governors h := absurd rfl h
  knownGovernors _ hg := Or.inr hg
  ncpus := rfl
  affinity h := absurd rfl h
  irqBalance h := absurd rfl h

theorem Inside.call (h : Inside asked start cfg s) {effect : RtEnv → RtEnv}
    (heffect : Within asked start (effect s.host.env)) :
    Inside asked start cfg (s.call effect).2 := by
  refine ⟨?_, h.rtConfig, h.saved, h.savedGovernor⟩
  rcases Host.call_env s.host fun env => some (effect env) with henv | henv
  · change Within asked start (s.host.call fun env => some (effect env)).2.env
    rw [henv]
    exact h.env
  · exact Option.some.inj henv ▸ heffect

theorem Inside.ite {P : Prop} [Decidable P] {s' : RtState} (h : Inside asked start cfg s)
    (hs : P → Inside asked start cfg s') : Inside asked start cfg (if P then s' else s) := by
  split_ifs with hp
  · exact hs hp
  · exact h

theorem Inside.callWhen {P : Prop} [Decidable P] (h : Inside asked start cfg s)
    {effect : RtEnv → RtEnv} (heffect : P → Within asked start (effect s.host.env)) :
    Inside asked start cfg (if P then (s.call effect).2 else s) :=
  h.ite fun hp => h.call (heffect hp)

theorem known_modify {l : List Governor} (hl : ∀ g ∈ l, Known start g) {f : Governor → Governor}
    (hf : ∀ g, Known start g → Known start (f g)) (k : ℕ) :
    ∀ g ∈ l.modify k f, Known start g := by
  intro g hg
  obtain ⟨i, hi⟩ := List.mem_iff_getElem?.mp hg
  rw [List.getElem?_modify] at hi
  cases hli : l[i]? with
  | none => simp [hli] at hi
  | some x =>
    have hx := hl x (List.mem_of_getElem? hli)
    rw [hli, Option.map_eq_map, Option.map_some, Option.some_inj] at hi
    subst hi
    split_ifs
    · exact hf x hx
    · exact hx

theorem KnownText.write {t : Text} (ht : KnownText start t) {g : Governor} (hg : Known start g) :
    Known start (g.write t) := by
  rcases ht with rfl | ⟨g', hg', rfl⟩
  · rwa [write_nil]
  · rwa [write_name]

theorem Inside.writeGovernor (h : Inside asked start cfg s) (hcfg : asked cfg)
    (hfreq : cfg.disableCpuFreq = true) {t : Text} (ht : KnownText start t) (cpu : ℕ) :
    Inside asked start cfg (writeGovernor cpu t s) := by
  refine h.call { h.env with governors := ?_, knownGovernors := ?_, ncpus := ?_ }
  · exact fun _ => ⟨cfg, hcfg, hfreq⟩
  · exact known_modify h.env.knownGovernors (fun _ => ht.write) cpu
  · rw [← h.env.ncpus, RtEnv.ncpus, List.length_modify, RtEnv.ncpus]

theorem Inside.saveGovernor (h : Inside asked start cfg s) :
    Inside asked start cfg (saveGovernor s) := by
  have hread : Inside asked start cfg (s.call id).2 := h.call h.env
  rw [RtSetup.saveGovernor]
  dsimp only
  split
  · rename_i line rest _ hline
    obtain ⟨g, hg, hfgets⟩ := Option.bind_eq_some_iff.mp hline
    rw [fgets_read, Option.some_inj] at hfgets
    obtain ⟨rfl, -⟩ := Prod.mk.inj hfgets
    have hknown := hread.env.knownGovernors g (List.mem_of_mem_head? hg)
    exact ⟨hread.env, hread.rtConfig, hread.saved, Or.inr ⟨g, hknown, (chomp_read g).symm⟩⟩
  · exact hread

theorem Inside.applyGovernors (h : Inside asked start cfg s) (hcfg : asked cfg) :
    Inside asked start cfg (applyGovernors s) := by
  rw [RtSetup.applyGovernors, h.rtConfig]
  refine h.ite fun hfreq => run_invariant (fun s cpu hs => ?_) h _
  have hperformance : KnownText start performance.name := Or.inr ⟨performance, Or.inl rfl, rfl⟩
  rw [applyGovernor]
  exact (hs.ite fun _ => hs.saveGovernor).writeGovernor hcfg hfreq hperformance cpu

theorem Inside.restoreGovernors (h : Inside asked start cfg s) (hcfg : asked cfg) :
    Inside asked start cfg (restoreGovernors s) := by
  rw [RtSetup.restoreGovernors, h.rtConfig]
  refine h.ite fun hfreq => run_invariant (fun s cpu hs => ?_) h _
  exact hs.writeGovernor hcfg hfreq.1 hs.savedGovernor cpu

theorem Inside.saveSched (h : Inside asked start cfg s) : Inside asked start cfg (saveSched s) := by
  have hsaved : KnownSched asked start (savedBefore true s) := by
    rw [savedBefore, if_pos rfl]
    constructor
    · dsimp only
      split_ifs
      · exact h.env.knownSched.policy
      · simp
    · dsimp only
      split_ifs
      · exact h.env.knownSched.priority
      · exact Or.inr (Or.inl rfl)
  rw [saveSched_eq]
  exact ⟨h.env, h.rtConfig, hsaved, h.savedGovernor⟩

theorem Inside.applySched (h : Inside asked start cfg s) (hcfg : asked cfg) :
    Inside asked start cfg (applySched s).2 := by
  rw [RtSetup.applySched]
  split_ifs with hsched
  · have hsaved := h.saveSched
    rw [h.rtConfig] at hsched
    refine hsaved.call { hsaved.env with sched := ?_, knownSched := ?_ }
    · exact fun _ => ⟨cfg, hcfg, hsched⟩
    · rw [hsaved.rtConfig]
      exact ⟨by simp, Or.inr (Or.inr ⟨cfg, hcfg, hsched, rfl⟩)⟩
  · exact h

theorem Inside.restoreSched (h : Inside asked start cfg s) (hcfg : asked cfg) :
    Inside asked start cfg (restoreSched s) := by
  rw [RtSetup.restoreSched, h.rtConfig]
  refine h.callWhen fun hsched => { h.env with sched := ?_, knownSched := h.saved }
  exact fun _ => ⟨cfg, hcfg, hsched⟩

theorem Inside.applyMemory (h : Inside asked start cfg s) (hcfg : asked cfg) :
    Inside asked start cfg (applyMemory s) := by
  rw [RtSetup.applyMemory, h.rtConfig]
  exact h.callWhen fun hlock => { h.env with memory := fun _ => ⟨cfg, hcfg, hlock⟩ }

theorem Inside.restoreMemory (h : Inside asked start cfg s) (hcfg : asked cfg) :
    Inside asked start cfg (restoreMemory s) := by
  rw [RtSetup.restoreMemory, h.rtConfig]
  exact h.callWhen fun hlock => { h.env with memory := fun _ => ⟨cfg, hcfg, hlock⟩ }

theorem Inside.applyAffinity (h : Inside asked start cfg s) (hcfg : asked cfg) :
    Inside asked start cfg (applyAffinity s) := by
  rw [RtSetup.applyAffinity, h.rtConfig]
  refine h.callWhen fun hcpu => { h.env with affinity := fun _ => ?_ }
  exact ⟨cfg, hcfg, hcpu, Or.inl rfl⟩

theorem Inside.restoreAffinity (h : Inside asked start cfg s) (hcfg : asked cfg) :
    Inside asked start cfg (restoreAffinity s) := by
  rw [RtSetup.restoreAffinity, h.rtConfig]
  refine h.callWhen fun hcpu => { h.env with affinity := fun _ => ?_ }
  exact ⟨cfg, hcfg, hcpu, Or.inr (congrArg allCpus h.env.ncpus)⟩

theorem Inside.applyIrqBalance (h : Inside asked start cfg s) (hcfg : asked cfg) :
    Inside asked start cfg (applyIrqBalance s) := by
  rw [RtSetup.applyIrqBalance, h.rtConfig]
  exact h.callWhen fun hirq => { h.env with irqBalance := fun _ => ⟨cfg, hcfg, hirq⟩ }

theorem Inside.restoreIrqBalance (h : Inside asked start cfg s) (hcfg : asked cfg) :
    Inside asked start cfg (restoreIrqBalance s) := by
  rw [RtSetup.restoreIrqBalance, h.rtConfig]
  exact h.callWhen fun hirq => { h.env with irqBalance := fun _ => ⟨cfg, hcfg, hirq⟩ }

theorem Inside.apply (h : Inside asked start cfg s) (hcfg : asked cfg) :
    Inside asked start cfg (rtSetupApply s).2 := by
  have hsched := h.applySched hcfg
  rw [rtSetupApply]
  split_ifs
  · exact h
  · split
    · rename_i t hfailed
      rw [hfailed] at hsched
      exact hsched
    · rename_i t hdone
      rw [hdone] at hsched
      have hgovernors := (Inside.applyMemory hsched hcfg).applyGovernors hcfg
      exact (hgovernors.applyAffinity hcfg).applyIrqBalance hcfg

theorem Inside.restore (h : Inside asked start cfg s) (hcfg : asked cfg) :
    Inside asked start cfg (rtSetupRestore s) := by
  have hgovernors := ((h.restoreSched hcfg).restoreMemory hcfg).restoreGovernors hcfg
  have hall := (hgovernors.restoreAffinity hcfg).restoreIrqBalance hcfg
  rw [rtSetupRestore]
  split_ifs
  · exact h
  · exact ⟨hall.env, hall.rtConfig, hall.saved, hall.savedGovernor⟩

/-- What every call keeps. Before the first `rt_setup_init` that succeeds, nobody has
asked for the configuration, and no call goes by it. -/
def Invariant (asked : RtConfig → Prop) (start : RtEnv) (s : RtState) : Prop :=
  Inside asked start s.globals.rtConfig s ∧
    (s.globals.rtInitialized = true → asked s.globals.rtConfig)

theorem invariant_of_inside (h : Inside asked start cfg s) (hcfg : asked cfg) :
    Invariant asked start s := by
  obtain rfl := h.rtConfig
  exact ⟨h, fun _ => hcfg⟩

theorem Invariant.init (h : Invariant asked start s)
    (hcfg : 1 ≤ cfg.rtPriority → cfg.rtPriority ≤ 99 → asked cfg) :
    Invariant asked start (rtSetupInit cfg s).2 := by
  rw [rtSetupInit]
  split_ifs with hbad
  · exact h
  · rw [not_or, Int32.not_lt, Int32.not_lt] at hbad
    have hinside := h.1
    exact ⟨⟨hinside.env, rfl, hinside.saved, hinside.savedGovernor⟩,
      fun _ => hcfg hbad.1 hbad.2⟩

theorem Invariant.apply (h : Invariant asked start s) :
    Invariant asked start (rtSetupApply s).2 := by
  cases hinit : s.globals.rtInitialized with
  | false => rwa [rtSetupApply, if_pos hinit]
  | true => exact invariant_of_inside (h.1.apply (h.2 hinit)) (h.2 hinit)

theorem Invariant.restore (h : Invariant asked start s) :
    Invariant asked start (rtSetupRestore s) := by
  cases hinit : s.globals.rtInitialized with
  | false => rwa [rtSetupRestore, if_pos hinit]
  | true => exact invariant_of_inside (h.1.restore (h.2 hinit)) (h.2 hinit)

theorem invariant_start (asked : RtConfig → Prop) (host : Host RtEnv) :
    Invariant asked host.env ⟨zeroedGlobals, host⟩ := by
  refine ⟨⟨within_start, rfl, ⟨by simp [zeroedGlobals], Or.inr (Or.inl rfl)⟩, Or.inl rfl⟩, ?_⟩
  intro hinit
  simp [zeroedGlobals] at hinit

theorem history_invariant (host : Host RtEnv) (calls : List SetupCall) :
    Invariant (Asked calls) host.env (history host calls) := by
  refine run_invariant_of_mem (fun s call hcall h => ?_) (invariant_start (Asked calls) host)
  cases call with
  | init cfg => exact h.init fun hlow hhigh => ⟨hcall, hlow, hhigh⟩
  | apply => exact h.apply
  | restore => exact h.restore

/-- Any calls of the setup, in any order and with any of their system calls refused: a
part of the host that no accepted configuration asks for is as it was, no CPU gets a
governor that none had but performance, and the process never runs with a policy or a
priority that nobody chose. -/
theorem history_within (host : Host RtEnv) (calls : List SetupCall) :
    Within (Asked calls) host.env (history host calls).host.env :=
  (history_invariant host calls).1.env

end PnetManager.RtHistory
