import PnetManager.RtSetup

/-!
# What restore brings back

On a host that grants every call, an apply is a function of the environment
that does nothing the second time, and a restore is a function of the
environment and of what the last apply saved. The environment comes back when
what was saved, or what is restored without having been saved, is what was
there before.
-/

namespace PnetManager.RtRestore
open CText CStdio Runs SystemCalls RtSetup

theorem chomp_line {t : Text} (h : lf ∉ t) : chomp (t ++ [lf]) = t ∧ chomp t = t := by
  refine ⟨by simp [chomp], ?_⟩
  have hl : t.getLast? ≠ some lf := fun he => h (List.mem_of_getLast? he)
  simp [chomp, hl]

theorem fgets_read (g : Governor) : fgets 64 g.read = some (g.name ++ [lf], []) := by
  obtain ⟨-, hlen, -, hlf⟩ := g.isName
  have hline := takeLine_line hlf (show g.name.length < 63 by omega) []
  simp [fgets, Governor.read, hline]

theorem chomp_read (g : Governor) : chomp (cstr (g.name ++ [lf])) = g.name := by
  obtain ⟨-, -, hnul, hlf⟩ := g.isName
  have hno : nul ∉ g.name ++ [lf] := by
    simpa [hnul] using show nul ≠ lf by decide
  rw [cstr_of_nul_not_mem hno, (chomp_line hlf).1]

theorem write_name (g h : Governor) : g.write h.name = h := by
  simp [Governor.write, h.isName]

theorem modify_append_cons {α : Type*} (f : α → α) (a b : List α) (x : α) :
    (a ++ x :: b).modify a.length f = a ++ f x :: b := by
  rw [List.modify_eq_set_getElem?]
  simp

structure Holds (s : RtState) (globals : RtGlobals) (env : RtEnv) : Prop where
  granting : s.host.Granting
  globals_eq : s.globals = globals
  env_eq : s.host.env = env

variable {s : RtState} {globals : RtGlobals} {env : RtEnv}

theorem Holds.call (h : Holds s globals env) (effect : RtEnv → RtEnv) :
    (s.call effect).1 = true ∧ Holds (s.call effect).2 globals (effect env) := by
  have hc := h.granting.call (fun e => some (effect e)) rfl
  simp only [RtState.call, hc]
  exact ⟨trivial, h.granting.tail _, h.globals_eq, congrArg effect h.env_eq⟩

theorem Holds.save (h : Holds s globals env) (globals' : RtGlobals) :
    Holds { s with globals := globals' } globals' env :=
  ⟨h.granting, rfl, h.env_eq⟩

theorem Holds.saveSched (h : Holds s globals env) :
    Holds (saveSched s) { globals with saved := env.sched } env := by
  obtain ⟨hok, h1⟩ := h.call id
  obtain ⟨hok', h2⟩ := h1.call id
  have hs := h2.save { globals with saved := env.sched }
  simpa only [RtSetup.saveSched, hok, hok', if_true, h.env_eq, h2.globals_eq, id_eq] using hs

theorem Holds.saveGovernor (h : Holds s globals env) :
    Holds (saveGovernor s)
      { globals with
        savedGovernor := (env.governors.head?.map Governor.name).getD globals.savedGovernor }
      env := by
  obtain ⟨hok, h1⟩ := h.call id
  rw [id_eq] at h1
  rw [RtSetup.saveGovernor]
  rw [show s.call id = (true, (s.call id).2) from Prod.ext hok rfl]
  dsimp only
  cases hg : env.governors with
  | nil =>
    simpa [h1.env_eq, hg] using h1
  | cons g gs =>
    simpa [h1.env_eq, hg, fgets_read, chomp_read, h1.globals_eq] using h1.save _

theorem Holds.writeGovernor (h : Holds s globals env) (cpu : ℕ) (t : Text) :
    Holds (writeGovernor cpu t s) globals
      { env with governors := env.governors.modify cpu fun g => g.write t } :=
  (h.call _).2

def governorsUpTo (env : RtEnv) (g : Governor) (k : ℕ) : RtEnv :=
  { env with governors := List.replicate k g ++ env.governors.drop k }

theorem governorsUpTo_zero (env : RtEnv) (g : Governor) : governorsUpTo env g 0 = env := by
  simp [governorsUpTo]

theorem governorsUpTo_all (env : RtEnv) (g : Governor) :
    governorsUpTo env g env.ncpus =
      { env with governors := List.replicate env.governors.length g } := by
  simp [governorsUpTo, RtEnv.ncpus]

theorem governorsUpTo_succ {k : ℕ} (hk : k < env.ncpus) (g : Governor) :
    { governorsUpTo env g k with
      governors := (governorsUpTo env g k).governors.modify k fun x => x.write g.name } =
      governorsUpTo env g (k + 1) := by
  have hm := modify_append_cons (fun x : Governor => x.write g.name) (List.replicate k g)
    (env.governors.drop (k + 1)) env.governors[k]
  rw [List.length_replicate] at hm
  simp only [governorsUpTo]
  rw [List.drop_eq_getElem_cons hk, hm, write_name, List.replicate_succ', List.append_assoc]
  rfl

theorem Holds.applyGovernor_run (h : Holds s globals env) {k : ℕ} (hk : k ≤ env.ncpus) :
    Holds (run applyGovernor s (List.range k))
      (if k = 0 then globals else
        { globals with
          savedGovernor := (env.governors.head?.map Governor.name).getD globals.savedGovernor })
      (governorsUpTo env performance k) := by
  induction k with
  | zero => simpa [governorsUpTo_zero] using h
  | succ k ih =>
    have hi := ih (by omega)
    rw [List.range_succ, run_snoc, ← governorsUpTo_succ (by omega)]
    by_cases h0 : k = 0
    · subst h0
      rw [governorsUpTo_zero] at hi ⊢
      simpa [applyGovernor] using hi.saveGovernor.writeGovernor 0 performance.name
    · simpa [applyGovernor, h0] using hi.writeGovernor k performance.name

theorem modify_map_take {α : Type*} (f : α → α) (l : List α) {k : ℕ} (hk : k < l.length) :
    ((l.take k).map f ++ l.drop k).modify k f = (l.take (k + 1)).map f ++ l.drop (k + 1) := by
  have hm := modify_append_cons f ((l.take k).map f) (l.drop (k + 1)) l[k]
  rw [List.length_map, List.length_take, min_eq_left hk.le] at hm
  rw [List.drop_eq_getElem_cons hk, hm, List.take_add_one, List.getElem?_eq_getElem hk]
  simp only [Option.toList_some, List.map_append, List.map_cons, List.map_nil, List.append_assoc,
    List.singleton_append]

theorem Holds.restoreGovernor_run (h : Holds s globals env) {k : ℕ} (hk : k ≤ env.ncpus) :
    Holds (run restoreGovernor s (List.range k)) globals
      { env with
        governors := (env.governors.take k).map (·.write globals.savedGovernor) ++
          env.governors.drop k } := by
  induction k with
  | zero => simpa using h
  | succ k ih =>
    have hi := (ih (by omega)).writeGovernor k globals.savedGovernor
    rw [List.range_succ, run_snoc, ← modify_map_take _ _ (by exact hk)]
    simpa only [restoreGovernor, (ih (by omega)).globals_eq] using hi

def appliedEnv (cfg : RtConfig) (env : RtEnv) : RtEnv where
  sched := if cfg.useRtScheduling then ⟨schedFifo, cfg.rtPriority⟩ else env.sched
  memoryLocked := if cfg.lockMemory then true else env.memoryLocked
  governors :=
    if cfg.disableCpuFreq then List.replicate env.governors.length performance else env.governors
  affinity := if 0 ≤ cfg.isolateCpu then cpuSet cfg.isolateCpu.toInt.toNat ∅ else env.affinity
  irqbalance := if cfg.disableIrqBalance then false else env.irqbalance

def savedFrom (globals : RtGlobals) (env : RtEnv) : RtGlobals :=
  { globals with
    saved := if globals.rtConfig.useRtScheduling then env.sched else globals.saved
    savedGovernor :=
      if globals.rtConfig.disableCpuFreq then
        (env.governors.head?.map Governor.name).getD globals.savedGovernor
      else globals.savedGovernor }

def restoredEnv (cfg : RtConfig) (saved : Sched) (g : Governor) (env : RtEnv) : RtEnv where
  sched := if cfg.useRtScheduling then saved else env.sched
  memoryLocked := if cfg.lockMemory then false else env.memoryLocked
  governors :=
    if cfg.disableCpuFreq then List.replicate env.governors.length g else env.governors
  affinity := if 0 ≤ cfg.isolateCpu then allCpus env.ncpus else env.affinity
  irqbalance := if cfg.disableIrqBalance then true else env.irqbalance

theorem appliedEnv_ncpus (cfg : RtConfig) (env : RtEnv) :
    (appliedEnv cfg env).governors.length = env.governors.length := by
  rw [appliedEnv]
  split_ifs <;> simp

theorem appliedEnv_appliedEnv (cfg : RtConfig) (env : RtEnv) :
    appliedEnv cfg (appliedEnv cfg env) = appliedEnv cfg env := by
  have hn := appliedEnv_ncpus cfg env
  rw [appliedEnv, hn]
  simp only [appliedEnv]
  congr 1 <;> split_ifs <;> rfl

theorem Holds.applySched (h : Holds s globals env) :
    (applySched s).1 = true ∧ Holds (applySched s).2
      { globals with
        saved := if globals.rtConfig.useRtScheduling then env.sched else globals.saved }
      { env with
        sched := if globals.rtConfig.useRtScheduling then ⟨schedFifo, globals.rtConfig.rtPriority⟩
          else env.sched } := by
  rw [RtSetup.applySched]
  rw [h.globals_eq]
  cases hb : globals.rtConfig.useRtScheduling with
  | false => simpa [hb] using h
  | true =>
    have hs := h.saveSched
    simpa only [if_true, hs.globals_eq] using
      hs.call fun env => { env with sched := ⟨schedFifo, globals.rtConfig.rtPriority⟩ }

theorem Holds.applyMemory (h : Holds s globals env) :
    Holds (applyMemory s) globals
      { env with
        memoryLocked := if globals.rtConfig.lockMemory then true else env.memoryLocked } := by
  rw [RtSetup.applyMemory]
  rw [h.globals_eq]
  split_ifs
  · exact (h.call _).2
  · exact h

theorem Holds.applyGovernors (h : Holds s globals env) :
    Holds (applyGovernors s)
      { globals with
        savedGovernor :=
          if globals.rtConfig.disableCpuFreq then
            (env.governors.head?.map Governor.name).getD globals.savedGovernor
          else globals.savedGovernor }
      { env with
        governors :=
          if globals.rtConfig.disableCpuFreq then
            List.replicate env.governors.length performance
          else env.governors } := by
  rw [RtSetup.applyGovernors]
  rw [h.globals_eq, h.env_eq]
  split_ifs
  · have hr := h.applyGovernor_run le_rfl
    rw [governorsUpTo_all] at hr
    -- without a CPU nothing is read, and there is nothing to save
    cases hg : env.governors with
    | nil => simpa [RtEnv.ncpus, hg] using hr
    | cons g gs => simpa [RtEnv.ncpus, hg] using hr
  · exact h

theorem Holds.applyAffinity (h : Holds s globals env) :
    Holds (applyAffinity s) globals
      { env with
        affinity :=
          if 0 ≤ globals.rtConfig.isolateCpu then
            cpuSet globals.rtConfig.isolateCpu.toInt.toNat ∅
          else env.affinity } := by
  rw [RtSetup.applyAffinity]
  rw [h.globals_eq]
  split_ifs
  · exact (h.call _).2
  · exact h

theorem Holds.applyIrqBalance (h : Holds s globals env) :
    Holds (applyIrqBalance s) globals
      { env with
        irqbalance := if globals.rtConfig.disableIrqBalance then false else env.irqbalance } := by
  rw [RtSetup.applyIrqBalance]
  rw [h.globals_eq]
  split_ifs
  · exact (h.call _).2
  · exact h

theorem Holds.apply (h : Holds s globals env) (hinit : globals.rtInitialized = true) :
    (rtSetupApply s).1 = 0 ∧
      Holds (rtSetupApply s).2 (savedFrom globals env) (appliedEnv globals.rtConfig env) := by
  obtain ⟨hok, h1⟩ := h.applySched
  have h5 := h1.applyMemory.applyGovernors.applyAffinity.applyIrqBalance
  have hi : s.globals.rtInitialized ≠ false := by simp [h.globals_eq, hinit]
  rw [rtSetupApply]
  rw [if_neg hi, show RtSetup.applySched s = (true, (RtSetup.applySched s).2) from
    Prod.ext hok rfl]
  exact ⟨rfl, h5⟩

theorem Holds.restoreSched (h : Holds s globals env) :
    Holds (restoreSched s) globals
      { env with
        sched := if globals.rtConfig.useRtScheduling then globals.saved else env.sched } := by
  rw [RtSetup.restoreSched]
  rw [h.globals_eq]
  split_ifs
  · exact (h.call _).2
  · exact h

theorem Holds.restoreMemory (h : Holds s globals env) :
    Holds (restoreMemory s) globals
      { env with
        memoryLocked := if globals.rtConfig.lockMemory then false else env.memoryLocked } := by
  rw [RtSetup.restoreMemory]
  rw [h.globals_eq]
  split_ifs
  · exact (h.call _).2
  · exact h

theorem write_nil (g : Governor) : g.write [] = g := by
  simp [Governor.write, IsGovernorName]

theorem Holds.restoreGovernors (h : Holds s globals env) :
    Holds (restoreGovernors s) globals
      { env with
        governors :=
          if globals.rtConfig.disableCpuFreq then
            env.governors.map (·.write globals.savedGovernor)
          else env.governors } := by
  rw [RtSetup.restoreGovernors]
  rw [h.globals_eq, h.env_eq]
  cases hb : globals.rtConfig.disableCpuFreq with
  | false => simpa [hb] using h
  | true =>
    by_cases hsaved : globals.savedGovernor = []
    · simpa [hsaved, write_nil] using h
    · simpa [RtEnv.ncpus, hsaved] using h.restoreGovernor_run le_rfl

theorem Holds.restoreAffinity (h : Holds s globals env) :
    Holds (restoreAffinity s) globals
      { env with
        affinity := if 0 ≤ globals.rtConfig.isolateCpu then allCpus env.ncpus
          else env.affinity } := by
  rw [RtSetup.restoreAffinity]
  rw [h.globals_eq]
  split_ifs
  · exact (h.call _).2
  · exact h

theorem Holds.restoreIrqBalance (h : Holds s globals env) :
    Holds (restoreIrqBalance s) globals
      { env with
        irqbalance := if globals.rtConfig.disableIrqBalance then true else env.irqbalance } := by
  rw [RtSetup.restoreIrqBalance]
  rw [h.globals_eq]
  split_ifs
  · exact (h.call _).2
  · exact h

def rewrittenEnv (cfg : RtConfig) (saved : Sched) (savedGovernor : Text) (env : RtEnv) :
    RtEnv where
  sched := if cfg.useRtScheduling then saved else env.sched
  memoryLocked := if cfg.lockMemory then false else env.memoryLocked
  governors :=
    if cfg.disableCpuFreq then env.governors.map (·.write savedGovernor) else env.governors
  affinity := if 0 ≤ cfg.isolateCpu then allCpus env.ncpus else env.affinity
  irqbalance := if cfg.disableIrqBalance then true else env.irqbalance

theorem Holds.restore_rewrites (h : Holds s globals env) (hinit : globals.rtInitialized = true) :
    (rtSetupRestore s).host.env =
      rewrittenEnv globals.rtConfig globals.saved globals.savedGovernor env := by
  have h3 := h.restoreSched.restoreMemory.restoreGovernors.restoreAffinity.restoreIrqBalance
  have hi : s.globals.rtInitialized ≠ false := by simp [h.globals_eq, hinit]
  have hlen : (if globals.rtConfig.disableCpuFreq then
      env.governors.map (·.write globals.savedGovernor) else env.governors).length =
      env.governors.length := by
    split_ifs <;> simp
  rw [rtSetupRestore]
  rw [if_neg hi]
  simpa only [rewrittenEnv, RtEnv.ncpus, hlen] using h3.env_eq

theorem Holds.restore (h : Holds s globals env) (hinit : globals.rtInitialized = true)
    {sched : Sched} (hs : globals.rtConfig.useRtScheduling = true → globals.saved = sched)
    {g : Governor} (hg : globals.rtConfig.disableCpuFreq = true → env.governors ≠ [] →
      globals.savedGovernor = g.name) :
    (rtSetupRestore s).host.env = restoredEnv globals.rtConfig sched g env := by
  have hsched : (if globals.rtConfig.useRtScheduling then globals.saved else env.sched) =
      if globals.rtConfig.useRtScheduling then sched else env.sched := by
    split_ifs with hb
    · exact hs hb
    · rfl
  have hgov : (if globals.rtConfig.disableCpuFreq then
        env.governors.map (·.write globals.savedGovernor) else env.governors) =
      if globals.rtConfig.disableCpuFreq then List.replicate env.governors.length g
      else env.governors := by
    split_ifs with hb
    · by_cases hne : env.governors = []
      · simp [hne]
      · simp only [hg hb hne, write_name, List.map_const']
    · rfl
  rw [h.restore_rewrites hinit, rewrittenEnv, hsched, hgov]
  rfl

structure SavedFrom (globals : RtGlobals) (env : RtEnv) : Prop where
  sched : globals.rtConfig.useRtScheduling = true → globals.saved = env.sched
  governor : globals.rtConfig.disableCpuFreq = true → env.governors ≠ [] →
    globals.savedGovernor = (env.governors.headD performance).name

theorem savedFrom_spec (globals : RtGlobals) (env : RtEnv) :
    SavedFrom (savedFrom globals env) env := by
  constructor
  · intro hb
    exact if_pos hb
  · intro hb hne
    obtain ⟨g, gs, hg⟩ := List.exists_cons_of_ne_nil hne
    change globals.rtConfig.disableCpuFreq = true at hb
    simp [savedFrom, hb, hg]

def applies (n : ℕ) (s : RtState) : RtState := (fun s => (rtSetupApply s).2)^[n] s

theorem applies_succ (n : ℕ) (s : RtState) :
    applies (n + 1) s = (rtSetupApply (applies n s)).2 := Function.iterate_succ_apply' _ n s

def lastSaved (cfg : RtConfig) (n : ℕ) (env : RtEnv) : RtEnv :=
  if n = 1 then env else appliedEnv cfg env

theorem lastSaved_ne_nil {cfg : RtConfig} {env : RtEnv} (n : ℕ)
    (h : (appliedEnv cfg env).governors ≠ []) : (lastSaved cfg n env).governors ≠ [] := by
  rw [lastSaved]
  split_ifs
  · rw [← List.length_pos_iff] at h ⊢
    rwa [appliedEnv_ncpus] at h
  · exact h

theorem Holds.applies (h : Holds s globals env) (hinit : globals.rtInitialized = true) (n : ℕ) :
    ∃ globals', Holds (applies (n + 1) s) globals' (appliedEnv globals.rtConfig env) ∧
      globals'.rtConfig = globals.rtConfig ∧ globals'.rtInitialized = true ∧
      SavedFrom globals' (lastSaved globals.rtConfig (n + 1) env) ∧
      (rtSetupApply (RtRestore.applies n s)).1 = 0 := by
  induction n with
  | zero =>
    obtain ⟨hret, ha⟩ := h.apply hinit
    exact ⟨_, ha, rfl, hinit, savedFrom_spec globals env, hret⟩
  | succ n ih =>
    obtain ⟨globals', hn, hcfg, hi, -, -⟩ := ih
    obtain ⟨hret, ha⟩ := hn.apply hi
    rw [hcfg, appliedEnv_appliedEnv] at ha
    refine ⟨savedFrom globals' (appliedEnv globals.rtConfig env), ?_, hcfg, hi, ?_, hret⟩
    · rw [applies_succ]
      exact ha
    · simpa [lastSaved] using savedFrom_spec globals' (appliedEnv globals.rtConfig env)

/-- The initial environments that one to any number of applies and a restore
bring back. -/
structure Undoable (cfg : RtConfig) (n : ℕ) (env : RtEnv) : Prop where
  sched : cfg.useRtScheduling = true → n = 1 ∨ env.sched = ⟨schedFifo, cfg.rtPriority⟩
  memory : cfg.lockMemory = true → env.memoryLocked = false
  governors : cfg.disableCpuFreq = true →
    ∀ g ∈ env.governors, if n = 1 then env.governors.head? = some g else g = performance
  affinity : 0 ≤ cfg.isolateCpu → env.affinity = allCpus env.ncpus
  irqBalance : cfg.disableIrqBalance = true → env.irqbalance = true

def restoredGovernor (cfg : RtConfig) (n : ℕ) (env : RtEnv) : Governor :=
  (lastSaved cfg n env).governors.headD performance

theorem restoredGovernor_eq_iff {cfg : RtConfig} {n : ℕ} {env : RtEnv}
    (hb : cfg.disableCpuFreq = true) {g : Governor} (hg : g ∈ env.governors) :
    g = restoredGovernor cfg n env ↔
      if n = 1 then env.governors.head? = some g else g = performance := by
  obtain ⟨x, xs, hx⟩ := List.exists_cons_of_ne_nil (List.ne_nil_of_mem hg)
  rw [restoredGovernor, lastSaved]
  split_ifs
  · simp [hx, eq_comm]
  · simp [appliedEnv, hb, hx, List.replicate_succ]

theorem restoredEnv_appliedEnv_iff (cfg : RtConfig) (n : ℕ) (env : RtEnv) :
    restoredEnv cfg (lastSaved cfg n env).sched (restoredGovernor cfg n env)
      (appliedEnv cfg env) = env ↔ Undoable cfg n env := by
  have hn := appliedEnv_ncpus cfg env
  have hsched : (env.sched = if cfg.useRtScheduling then (lastSaved cfg n env).sched
      else (appliedEnv cfg env).sched) ↔
      (cfg.useRtScheduling = true → n = 1 ∨ env.sched = ⟨schedFifo, cfg.rtPriority⟩) := by
    cases hb : cfg.useRtScheduling with
    | false => simp [appliedEnv, hb]
    | true => by_cases h1 : n = 1 <;> simp [lastSaved, appliedEnv, hb, h1]
  have hmem : (env.memoryLocked = if cfg.lockMemory then false
      else (appliedEnv cfg env).memoryLocked) ↔
      (cfg.lockMemory = true → env.memoryLocked = false) := by
    cases hb : cfg.lockMemory <;> simp [appliedEnv, hb]
  have hgov : (env.governors = if cfg.disableCpuFreq then
        List.replicate env.governors.length (restoredGovernor cfg n env)
      else (appliedEnv cfg env).governors) ↔
      (cfg.disableCpuFreq = true → ∀ g ∈ env.governors,
        if n = 1 then env.governors.head? = some g else g = performance) := by
    cases hb : cfg.disableCpuFreq with
    | false => simp [appliedEnv, hb]
    | true =>
      rw [if_pos rfl, List.eq_replicate_iff]
      simp only [true_and, forall_const]
      exact forall₂_congr fun g hg => restoredGovernor_eq_iff hb hg
  have haff : (env.affinity = if 0 ≤ cfg.isolateCpu then allCpus env.governors.length
      else (appliedEnv cfg env).affinity) ↔
      (0 ≤ cfg.isolateCpu → env.affinity = allCpus env.ncpus) := by
    by_cases hb : 0 ≤ cfg.isolateCpu <;> simp [appliedEnv, RtEnv.ncpus, hb]
  have hirq : (env.irqbalance = if cfg.disableIrqBalance then true
      else (appliedEnv cfg env).irqbalance) ↔
      (cfg.disableIrqBalance = true → env.irqbalance = true) := by
    cases hb : cfg.disableIrqBalance <;> simp [appliedEnv, hb]
  rw [eq_comm, RtEnv.ext_iff]
  simp only [restoredEnv, RtEnv.ncpus, hn]
  rw [hsched, hmem, hgov, haff, hirq]
  exact ⟨fun ⟨h1, h2, h3, h4, h5⟩ => ⟨h1, h2, h3, h4, h5⟩,
    fun ⟨h1, h2, h3, h4, h5⟩ => ⟨h1, h2, h3, h4, h5⟩⟩

/-- Where the host grants every call, all of `n` applies succeed, and the restore
after them brings the environment back exactly for the undoable ones. -/
theorem restore_undoes_applies_iff (cfg : RtConfig) (n : ℕ) (hn : 1 ≤ n) (s : RtState)
    (hs : s.host.Granting) (hinit : (rtSetupInit cfg s).1 = 0) :
    (∀ k < n, (rtSetupApply (applies k (rtSetupInit cfg s).2)).1 = 0) ∧
    ((rtSetupRestore (applies n (rtSetupInit cfg s).2)).host.env = s.host.env ↔
      Undoable cfg n s.host.env) := by
  have hok : ¬ (cfg.rtPriority < 1 ∨ 99 < cfg.rtPriority) := by
    intro hbad
    simp [rtSetupInit, hbad, einval] at hinit
  have h : Holds (rtSetupInit cfg s).2
      { s.globals with rtConfig := cfg, rtInitialized := true } s.host.env := by
    rw [rtSetupInit, if_neg hok]
    exact ⟨hs, rfl, rfl⟩
  refine ⟨fun k _ => (h.applies rfl k).choose_spec.2.2.2.2, ?_⟩
  obtain ⟨m, rfl⟩ := Nat.exists_eq_add_of_le' hn
  obtain ⟨globals', ha, hcfg, hi, hsaved, -⟩ := h.applies rfl m
  have hg : globals'.rtConfig.disableCpuFreq = true →
      (appliedEnv cfg s.host.env).governors ≠ [] →
      globals'.savedGovernor = (restoredGovernor cfg (m + 1) s.host.env).name := by
    intro hb hne
    exact hsaved.governor hb (lastSaved_ne_nil _ hne)
  rw [ha.restore hi hsaved.sched hg, hcfg]
  exact restoredEnv_appliedEnv_iff cfg (m + 1) s.host.env

theorem restore_undoes_applies_iff_once :
    let s : RtState := ⟨⟨rtConfigDefault, false, ⟨0, 0⟩, []⟩,
      ⟨⟨⟨schedOther, 0⟩, false, [performance, performance], {0, 1}, true⟩, []⟩⟩
    (rtSetupRestore (applies 1 (rtSetupInit rtConfigDefault s).2)).host.env = s.host.env := by
  intro s
  refine ((restore_undoes_applies_iff rtConfigDefault 1 le_rfl s (by simp [s, Host.Granting])
    (by decide)).2).mpr ⟨?_, ?_, ?_, ?_, ?_⟩ <;> decide

def powersave : Governor := ⟨ascii "powersave", by decide⟩
def schedutil : Governor := ⟨ascii "schedutil", by decide⟩

theorem restore_forgets_second_governor :
    let s : RtState := ⟨⟨rtConfigDefault, false, ⟨0, 0⟩, []⟩,
      ⟨⟨⟨schedOther, 0⟩, false, [powersave, schedutil], {0, 1}, true⟩, []⟩⟩
    let t := rtSetupRestore (applies 1 (rtSetupInit rtConfigDefault s).2)
    s.host.Granting ∧ (rtSetupInit rtConfigDefault s).1 = 0 ∧
      (rtSetupApply (rtSetupInit rtConfigDefault s).2).1 = 0 ∧
      t.host.env.governors = [powersave, powersave] ∧ t.host.env ≠ s.host.env := by
  intro s t
  exact ⟨by simp [s, Host.Granting], by decide, by decide, by decide, by decide⟩

end PnetManager.RtRestore
