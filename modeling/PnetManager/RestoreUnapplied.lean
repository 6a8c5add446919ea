import PnetManager.RtRestore

/-!
# A restore of what was not applied

`rt_setup_restore` goes by the configuration that was requested. After an apply
that failed at its scheduling step, or without any apply, it still sets every
enabled part of the host, whatever that part was before.
-/

namespace PnetManager.RestoreUnapplied
open CText CStdio Runs SystemCalls RtSetup RtRestore

theorem call_id (s : RtState) :
    s.call id = (s.host.outcomes.headD true,
      { s with host := ⟨s.host.env, s.host.outcomes.tail⟩ }) := by
  rw [RtState.call, Host.call]
  cases s.host.outcomes.headD true <;> rfl

/-- The scheduling that is saved when a restore starts. An apply has read it, with
defaults for what it could not read. -/
def savedBefore (called : Bool) (s : RtState) : Sched :=
  if called then
    ⟨if s.host.outcomes.getD 0 true then s.host.env.sched.policy else schedOther,
      if s.host.outcomes.getD 1 true then s.host.env.sched.priority else 0⟩
  else s.globals.saved

theorem saveSched_eq (s : RtState) :
    saveSched s = ⟨{ s.globals with saved := savedBefore true s },
      ⟨s.host.env, s.host.outcomes.tail.tail⟩⟩ := by
  obtain ⟨globals, env, outcomes⟩ := s
  simp only [saveSched, call_id]
  cases outcomes with
  | nil => rfl
  | cons b bs => cases bs <;> rfl

def beforeRestore (cfg : RtConfig) (called : Bool) (s : RtState) : RtState :=
  if called then (rtSetupApply (rtSetupInit cfg s).2).2 else (rtSetupInit cfg s).2

theorem rtSetupInit_of_ok {cfg : RtConfig} {s : RtState} (h : (rtSetupInit cfg s).1 = 0) :
    (rtSetupInit cfg s).2 =
      { s with globals := { s.globals with rtConfig := cfg, rtInitialized := true } } := by
  have hok : ¬ (cfg.rtPriority < 1 ∨ 99 < cfg.rtPriority) := by
    intro hbad
    simp [rtSetupInit, hbad, einval] at h
  rw [rtSetupInit, if_neg hok]

theorem call_refused {s : RtState} {effect : RtEnv → RtEnv} (h : (s.call effect).1 = false) :
    (s.call effect).2.globals = s.globals ∧ (s.call effect).2.host.env = s.host.env :=
  ⟨rfl, Host.call_refused (show s.host.call (fun env => some (effect env)) =
    (false, (s.call effect).2.host) from Prod.ext h rfl)⟩

theorem applySched_failed {s : RtState} (h : (applySched s).1 = false) :
    (applySched s).2.globals = { s.globals with saved := savedBefore true s } ∧
      (applySched s).2.host.env = s.host.env := by
  rw [applySched] at h ⊢
  split_ifs at h ⊢
  have hrefused := call_refused h
  simpa only [saveSched_eq] using hrefused

theorem rtSetupApply_failed {s : RtState} (hinit : s.globals.rtInitialized = true)
    (hret : (rtSetupApply s).1 ≠ 0) :
    (rtSetupApply s).2.globals = { s.globals with saved := savedBefore true s } ∧
      (rtSetupApply s).2.host.env = s.host.env := by
  have hi : s.globals.rtInitialized ≠ false := by simp [hinit]
  cases hok : (applySched s).1 with
  | true =>
    have hs : applySched s = (true, (applySched s).2) := Prod.ext hok rfl
    rw [rtSetupApply, if_neg hi, hs] at hret
    exact absurd rfl hret
  | false =>
    have hs : applySched s = (false, (applySched s).2) := Prod.ext hok rfl
    rw [rtSetupApply, if_neg hi, hs]
    exact applySched_failed hok

theorem beforeRestore_spec {cfg : RtConfig} {called : Bool} {s : RtState}
    (hinit : (rtSetupInit cfg s).1 = 0)
    (hfail : called = true → (rtSetupApply (rtSetupInit cfg s).2).1 ≠ 0) :
    (beforeRestore cfg called s).globals =
      { s.globals with
        rtConfig := cfg, rtInitialized := true, saved := savedBefore called s } ∧
      (beforeRestore cfg called s).host.env = s.host.env := by
  cases called with
  | false =>
    rw [beforeRestore, rtSetupInit_of_ok hinit]
    exact ⟨rfl, rfl⟩
  | true =>
    have hf := hfail rfl
    rw [beforeRestore, rtSetupInit_of_ok hinit] at *
    exact rtSetupApply_failed rfl hf

structure RestoreKeeps (cfg : RtConfig) (saved : Sched) (savedGovernor : Text) (env : RtEnv) :
    Prop where
  sched : cfg.useRtScheduling = true → env.sched = saved
  memory : cfg.lockMemory = true → env.memoryLocked = false
  governors : cfg.disableCpuFreq = true → IsGovernorName savedGovernor →
    ∀ g ∈ env.governors, g.name = savedGovernor
  affinity : 0 ≤ cfg.isolateCpu → env.affinity = allCpus env.ncpus
  irqBalance : cfg.disableIrqBalance = true → env.irqbalance = true

theorem write_eq_self_iff (g : Governor) (t : Text) :
    g.write t = g ↔ (IsGovernorName t → g.name = t) := by
  obtain ⟨name, hname⟩ := g
  rw [Governor.write]
  split_ifs with ht
  · simp [ht, eq_comm]
  · simp [ht]

theorem map_write_eq_iff (governors : List Governor) (t : Text) :
    governors = governors.map (·.write t) ↔
      (IsGovernorName t → ∀ g ∈ governors, g.name = t) := by
  have hmap := List.map_inj_left (l := governors) (f := (·.write t)) (g := id)
  rw [List.map_id] at hmap
  rw [eq_comm, hmap]
  simp only [id_eq, write_eq_self_iff]
  tauto

theorem rewrittenEnv_eq_iff (cfg : RtConfig) (saved : Sched) (savedGovernor : Text) (env : RtEnv) :
    rewrittenEnv cfg saved savedGovernor env = env ↔
      RestoreKeeps cfg saved savedGovernor env := by
  have hkeeps {P : Prop} [Decidable P] {α : Type} (old new : α) :
      (old = if P then new else old) ↔ (P → old = new) := by
    split_ifs with hp <;> simp [hp]
  rw [eq_comm, RtEnv.ext_iff]
  simp only [rewrittenEnv, hkeeps, map_write_eq_iff]
  constructor
  · intro h
    obtain ⟨h1, h2, h3, h4, h5⟩ := h
    exact ⟨h1, h2, h3, h4, h5⟩
  · intro h
    exact ⟨h.sched, h.memory, h.governors, h.affinity, h.irqBalance⟩

def Unchanged (s s' : RtState) : Prop := s'.globals = s.globals ∧ s'.host.env = s.host.env

theorem call_unchanged {s : RtState} {effect : RtEnv → RtEnv}
    (h : effect s.host.env = s.host.env) : Unchanged s (s.call effect).2 := by
  refine ⟨rfl, ?_⟩
  rcases Host.call_env s.host fun env => some (effect env) with henv | henv
  · exact henv
  · rw [h] at henv
    exact (Option.some.inj henv).symm

theorem modify_eq_self {α : Type*} {f : α → α} {l : List α} (h : ∀ x ∈ l, f x = x) (k : ℕ) :
    l.modify k f = l := by
  refine List.ext_getElem? fun i => ?_
  rw [List.getElem?_modify]
  cases hi : l[i]? with
  | none => rfl
  | some x =>
    have hx := h x (List.mem_of_getElem? hi)
    simp [hx]

variable {cfg : RtConfig} {saved : Sched} {savedGovernor : Text} {env : RtEnv}

structure Keeping (cfg : RtConfig) (saved : Sched) (savedGovernor : Text) (env : RtEnv)
    (s : RtState) : Prop where
  rtConfig : s.globals.rtConfig = cfg
  saved : s.globals.saved = saved
  savedGovernor : s.globals.savedGovernor = savedGovernor
  env : s.host.env = env

theorem Keeping.of_unchanged {s s' : RtState} (h : Keeping cfg saved savedGovernor env s)
    (hs : Unchanged s s') : Keeping cfg saved savedGovernor env s' := by
  obtain ⟨hglobals, henv⟩ := hs
  exact ⟨hglobals ▸ h.rtConfig, hglobals ▸ h.saved, hglobals ▸ h.savedGovernor, henv ▸ h.env⟩

theorem Keeping.call {s : RtState} (h : Keeping cfg saved savedGovernor env s)
    {effect : RtEnv → RtEnv} (heffect : effect env = env) :
    Keeping cfg saved savedGovernor env (s.call effect).2 :=
  h.of_unchanged (call_unchanged (by rw [h.env, heffect]))

theorem Keeping.restoreGovernor_run {s : RtState} (h : Keeping cfg saved savedGovernor env s)
    (hg : ∀ g ∈ env.governors, g.write savedGovernor = g) (cpus : List ℕ) :
    Keeping cfg saved savedGovernor env (run restoreGovernor s cpus) := by
  refine run_invariant (fun s cpu hs => ?_) h cpus
  have hsame : { env with
      governors := env.governors.modify cpu fun g => g.write s.globals.savedGovernor } = env := by
    rw [hs.savedGovernor, modify_eq_self hg]
  exact hs.call hsame

theorem Keeping.ite {P : Prop} [Decidable P] {s s' : RtState}
    (h : Keeping cfg saved savedGovernor env s)
    (hs : P → Keeping cfg saved savedGovernor env s') :
    Keeping cfg saved savedGovernor env (if P then s' else s) := by
  split_ifs with hp
  · exact hs hp
  · exact h

theorem Keeping.restore {s : RtState} (h : Keeping cfg saved savedGovernor env s)
    (hkeeps : RestoreKeeps cfg saved savedGovernor env) :
    (rtSetupRestore s).host.env = env := by
  have hgov (hb : cfg.disableCpuFreq = true) (g : Governor) (hg : g ∈ env.governors) :
      g.write savedGovernor = g :=
    (write_eq_self_iff g savedGovernor).mpr fun hname => hkeeps.governors hb hname g hg
  have h1 : Keeping cfg saved savedGovernor env (restoreSched s) := by
    rw [restoreSched, h.rtConfig]
    refine h.ite fun hb => h.call ?_
    rw [h.saved, ← hkeeps.sched hb]
  have h2 : Keeping cfg saved savedGovernor env (restoreMemory (restoreSched s)) := by
    rw [restoreMemory, h1.rtConfig]
    refine h1.ite fun hb => h1.call ?_
    rw [← hkeeps.memory hb]
  have h3 : Keeping cfg saved savedGovernor env
      (restoreGovernors (restoreMemory (restoreSched s))) := by
    rw [restoreGovernors, h2.rtConfig]
    exact h2.ite fun hb => h2.restoreGovernor_run (hgov hb.1) _
  have h4 : Keeping cfg saved savedGovernor env
      (restoreAffinity (restoreGovernors (restoreMemory (restoreSched s)))) := by
    rw [restoreAffinity, h3.rtConfig]
    refine h3.ite fun hb => h3.call ?_
    rw [← hkeeps.affinity hb]
  have h5 : Keeping cfg saved savedGovernor env
      (restoreIrqBalance
        (restoreAffinity (restoreGovernors (restoreMemory (restoreSched s))))) := by
    rw [restoreIrqBalance, h4.rtConfig]
    refine h4.ite fun hb => h4.call ?_
    rw [← hkeeps.irqBalance hb]
  rw [rtSetupRestore]
  split_ifs
  · exact h.env
  · exact h5.env

def withOutcomes (s : RtState) (outcomes : List Bool) : RtState :=
  { s with host := ⟨s.host.env, outcomes⟩ }

/-- A restore whose apply was not called, or failed, leaves the host alone, whatever
its own calls return, exactly when all it writes is there already. -/
theorem restore_keeps_iff (cfg : RtConfig) (s : RtState) (hinit : (rtSetupInit cfg s).1 = 0)
    (called : Bool) (hfail : called = true → (rtSetupApply (rtSetupInit cfg s).2).1 ≠ 0) :
    (∀ outcomes, (rtSetupRestore (withOutcomes (beforeRestore cfg called s) outcomes)).host.env =
        s.host.env) ↔
      RestoreKeeps cfg (savedBefore called s) s.globals.savedGovernor s.host.env := by
  obtain ⟨hglobals, henv⟩ := beforeRestore_spec hinit hfail
  constructor
  · intro h
    have hgranting := h []
    have hholds : Holds (withOutcomes (beforeRestore cfg called s) [])
        { s.globals with
          rtConfig := cfg, rtInitialized := true, saved := savedBefore called s } s.host.env :=
      ⟨by simp [withOutcomes, Host.Granting], hglobals, henv⟩
    rw [hholds.restore_rewrites rfl] at hgranting
    exact (rewrittenEnv_eq_iff _ _ _ _).mp hgranting
  · intro hkeeps outcomes
    have hkeeping : Keeping cfg (savedBefore called s) s.globals.savedGovernor s.host.env
        (withOutcomes (beforeRestore cfg called s) outcomes) := by
      refine ⟨?_, ?_, ?_, henv⟩ <;> rw [withOutcomes, hglobals]
    exact hkeeping.restore hkeeps

def lockedHost : RtEnv := ⟨⟨schedOther, 0⟩, true, [performance], {0}, false⟩

def freshProcess (outcomes : List Bool) : RtState :=
  ⟨⟨rtConfigDefault, false, ⟨schedOther, 0⟩, []⟩, ⟨lockedHost, outcomes⟩⟩

def schedulingOnly : RtConfig :=
  { rtConfigDefault with lockMemory := false, disableCpuFreq := false, disableIrqBalance := false }

theorem restore_keeps_iff_scheduling_only :
    (rtSetupRestore (withOutcomes
      (beforeRestore schedulingOnly true (freshProcess [true, true, false])) [])).host.env =
        lockedHost :=
  (restore_keeps_iff schedulingOnly (freshProcess [true, true, false]) (by decide) true
    (by decide)).mpr ⟨by decide, by decide, by decide, by decide, by decide⟩ []

/-- An apply that may not change the scheduling fails and does nothing more; the
restore unlocks the memory and starts irqbalance. -/
theorem restore_after_failed_apply :
    let s := freshProcess [true, true, false]
    let t := rtSetupRestore (withOutcomes (beforeRestore rtConfigDefault true s) [])
    (rtSetupInit rtConfigDefault s).1 = 0 ∧
      (rtSetupApply (rtSetupInit rtConfigDefault s).2).1 = -eperm ∧
      t.host.env = { lockedHost with memoryLocked := false, irqbalance := true } ∧
      t.host.env ≠ s.host.env := by
  decide

end PnetManager.RestoreUnapplied
