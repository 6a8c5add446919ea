import PnetManager.ProductionLoop

/-!
# The schedule of the recoveries

A successful tick resets all three counters of the loop, a successful restart
only that of the errors. What the loop does with a failing tick, and how long it
sleeps, is a function of what has happened so far.
-/

namespace PnetManager.RecoverySchedule
open Runs ProductionLoop

inductive Outcome
  | success
  | failure
  | restarted
  | restartFailed
deriving DecidableEq

def outcome (s : LoopState) (i : Iteration) : Outcome :=
  if i.tickRc = 0 then .success
  else if recovers s i then if i.restartRc = 0 then .restarted else .restartFailed
  else .failure

def observe (tickUs : UInt32) (h : LoopState × List Outcome) (i : Iteration) :
    LoopState × List Outcome :=
  (iterate tickUs h.1 i, h.2 ++ [outcome h.1 i])

def outcomes (tickUs : UInt32) (nowUs : ℕ) (is : List Iteration) : List Outcome :=
  (run (observe tickUs) (loopEntry nowUs, []) is).2

def Outcome.isRunning : Outcome → Bool
  | .success | .restarted => true
  | .failure | .restartFailed => false

def Outcome.isRecovery : Outcome → Bool
  | .restarted | .restartFailed => true
  | .success | .failure => false

/-- The ticks that have failed since loop entry, the last successful tick and the
last successful restart. -/
def failedSince (os : List Outcome) : ℕ := (os.rtakeWhile fun o => !o.isRunning).length

def recoveriesSince (os : List Outcome) : ℕ :=
  (os.rtakeWhile (· ≠ .success)).countP Outcome.isRecovery

def failingTicks (is : List Iteration) : ℕ := is.countP (·.tickRc ≠ 0)

variable (tickUs : UInt32) (nowUs : ℕ)

theorem run_observe (is : List Iteration) :
    (run (observe tickUs) (loopEntry nowUs, []) is).1 = loopAfter tickUs nowUs is :=
  run_simulation (R := fun (h : LoopState × List Outcome) s => h.1 = s)
    (fun _ _ i h => congrArg (iterate tickUs · i) h) rfl is

theorem outcomes_snoc (is : List Iteration) (i : Iteration) :
    outcomes tickUs nowUs (is ++ [i]) =
      outcomes tickUs nowUs is ++ [outcome (loopAfter tickUs nowUs is) i] := by
  rw [outcomes, run_snoc, observe, run_observe]
  rfl

theorem failedSince_snoc (os : List Outcome) (o : Outcome) :
    failedSince (os ++ [o]) = if o.isRunning then 0 else failedSince os + 1 := by
  rw [failedSince, List.rtakeWhile_concat]
  cases o.isRunning <;> simp [failedSince]

theorem recoveriesSince_snoc (os : List Outcome) (o : Outcome) :
    recoveriesSince (os ++ [o]) =
      if o = .success then 0 else recoveriesSince os + if o.isRecovery then 1 else 0 := by
  rw [recoveriesSince, List.rtakeWhile_concat]
  by_cases ho : o = .success
  · simp [ho]
  · simp [ho, recoveriesSince, List.countP_append, List.countP_singleton]

def backoffAfter (n : ℕ) : ℕ := min (2 ^ n * 1000000) 30000000

theorem backoffAfter_bounds (n : ℕ) : 1000000 ≤ backoffAfter n ∧ backoffAfter n ≤ 30000000 := by
  have hpow : 1 ≤ 2 ^ n := Nat.one_le_two_pow
  rw [backoffAfter]
  omega

theorem backoffAfter_succ (n : ℕ) : backoffAfter (n + 1) = min (2 * backoffAfter n) 30000000 := by
  rw [backoffAfter, backoffAfter, pow_succ]
  omega

structure Counts (s : LoopState) (os : List Outcome) : Prop where
  errors : s.consecutiveErrors = failedSince os
  attempts : s.recoveryAttempts = recoveriesSince os
  backoff : s.backoffUs.toNat = backoffAfter (recoveriesSince os)

variable {tickUs nowUs}

theorem backoff_base : recoveryBackoffBase.toNat = backoffAfter 0 := by decide

theorem counts_loopEntry : Counts (loopEntry nowUs) [] := ⟨rfl, rfl, backoff_base⟩

theorem Counts.recovers_iff {s : LoopState} {os : List Outcome} (h : Counts s os)
    (i : Iteration) : recovers s i = true ↔ i.tickRc ≠ 0 ∧ 5 ≤ failedSince os + 1 := by
  simp only [recovers, h.errors, maxConsecutiveErrors, decide_eq_true_eq]
  omega

theorem Counts.double {s : LoopState} {os : List Outcome} (h : Counts s os) :
    (s.backoffUs * 2).toNat = 2 * s.backoffUs.toNat := by
  have hle := (backoffAfter_bounds (recoveriesSince os)).2
  rw [← h.backoff] at hle
  rw [UInt32.toNat_mul, show (2 : UInt32).toNat = 2 from rfl]
  omega

theorem Counts.capped {s : LoopState} {os : List Outcome} (h : Counts s os) :
    (if recoveryBackoffMax < s.backoffUs * 2 then recoveryBackoffMax
      else s.backoffUs * 2).toNat = backoffAfter (recoveriesSince os + 1) := by
  have hmax : recoveryBackoffMax.toNat = 30000000 := rfl
  rw [backoffAfter_succ, ← h.backoff, ← h.double]
  split_ifs with hgt
  · rw [UInt32.lt_iff_toNat_lt, hmax] at hgt
    omega
  · rw [UInt32.lt_iff_toNat_lt, hmax] at hgt
    omega

theorem afterTick_cases (s : LoopState) (i : Iteration) :
    let failed := { s with consecutiveErrors := s.consecutiveErrors + 1 }
    (outcome s i = .success ∧ afterTick s i = { s with
      consecutiveErrors := 0, recoveryAttempts := 0, backoffUs := recoveryBackoffBase }) ∨
    (outcome s i = .failure ∧ afterTick s i = failed) ∨
    (outcome s i = .restarted ∧ i.restartRc = 0 ∧ afterTick s i = recover i.restartRc failed) ∨
    (outcome s i = .restartFailed ∧ i.restartRc ≠ 0 ∧
      afterTick s i = recover i.restartRc failed) := by
  by_cases hok : i.tickRc = 0
  · exact Or.inl ⟨if_pos hok, if_pos hok⟩
  by_cases hmax : maxConsecutiveErrors ≤ s.consecutiveErrors + 1
  · have hrec : recovers s i = true := by simp [recovers, hok, hmax]
    have hs : afterTick s i =
        recover i.restartRc { s with consecutiveErrors := s.consecutiveErrors + 1 } := by
      rw [afterTick, if_neg hok]
      exact if_pos hmax
    rw [hs, outcome, if_neg hok, if_pos hrec]
    by_cases hrestart : i.restartRc = 0
    · exact Or.inr (Or.inr (Or.inl ⟨if_pos hrestart, hrestart, rfl⟩))
    · exact Or.inr (Or.inr (Or.inr ⟨if_neg hrestart, hrestart, rfl⟩))
  · have hrec : ¬ recovers s i = true := by simp [recovers, hok, hmax]
    refine Or.inr (Or.inl ⟨?_, ?_⟩)
    · rw [outcome, if_neg hok, if_neg hrec]
    · rw [afterTick, if_neg hok]
      exact if_neg hmax

theorem Counts.afterTick {s : LoopState} {os : List Outcome} (h : Counts s os) (i : Iteration) :
    Counts (afterTick s i) (os ++ [outcome s i]) := by
  have hcapped := h.capped
  rcases afterTick_cases s i with ⟨ho, hs⟩ | ⟨ho, hs⟩ | ⟨ho, hrestart, hs⟩ | ⟨ho, hrestart, hs⟩
  · rw [ho, hs]
    constructor <;> simp [failedSince_snoc, recoveriesSince_snoc, Outcome.isRunning, backoff_base]
  · rw [ho, hs]
    constructor <;> simp [failedSince_snoc, recoveriesSince_snoc, Outcome.isRunning,
      Outcome.isRecovery, h.errors, h.attempts, h.backoff]
  · rw [ho, hs]
    constructor <;> simp [failedSince_snoc, recoveriesSince_snoc, Outcome.isRunning,
      Outcome.isRecovery, recover, hrestart, h.attempts, hcapped]
  · rw [ho, hs]
    constructor <;> simp [failedSince_snoc, recoveriesSince_snoc, Outcome.isRunning,
      Outcome.isRecovery, recover, hrestart, h.errors, h.attempts, hcapped]

theorem iterate_counters (tickUs : UInt32) (s : LoopState) (i : Iteration) :
    (iterate tickUs s i).consecutiveErrors = (afterTick s i).consecutiveErrors ∧
      (iterate tickUs s i).recoveryAttempts = (afterTick s i).recoveryAttempts ∧
      (iterate tickUs s i).backoffUs = (afterTick s i).backoffUs := by
  rw [iterate, watchdogPing]
  split_ifs <;> exact ⟨rfl, rfl, rfl⟩

variable (tickUs nowUs)

theorem counts_loopAfter (is : List Iteration) :
    Counts (loopAfter tickUs nowUs is) (outcomes tickUs nowUs is) := by
  induction is using List.reverseRecOn with
  | nil => exact counts_loopEntry
  | append_singleton is i ih =>
    have hnext := ih.afterTick i
    obtain ⟨herrors, hattempts, hbackoff⟩ :=
      iterate_counters tickUs (loopAfter tickUs nowUs is) i
    rw [loopAfter_snoc, outcomes_snoc]
    exact ⟨herrors.trans hnext.errors, hattempts.trans hnext.attempts,
      (congrArg UInt32.toNat hbackoff).trans hnext.backoff⟩

theorem counters_le_failing (is : List Iteration) :
    failedSince (outcomes tickUs nowUs is) ≤ failingTicks is ∧
      recoveriesSince (outcomes tickUs nowUs is) ≤ failingTicks is := by
  induction is using List.reverseRecOn with
  | nil => exact ⟨Nat.le_refl _, Nat.le_refl _⟩
  | append_singleton is i ih =>
    have hfailing : failingTicks (is ++ [i]) =
        failingTicks is + if i.tickRc ≠ 0 then 1 else 0 := by
      simp [failingTicks, List.countP_append, List.countP_singleton]
    rw [outcomes_snoc, failedSince_snoc, recoveriesSince_snoc, hfailing]
    by_cases hok : i.tickRc = 0
    · rw [outcome, if_pos hok]
      simp [Outcome.isRunning]
    · rw [if_pos hok]
      split_ifs <;> omega

theorem recovers_of_restartFailed {s : LoopState} {i : Iteration}
    (h : outcome s i = .restartFailed) : recovers s i = true := by
  rw [outcome] at h
  split_ifs at h with _ hrec
  exact hrec

/-- A recovery is due on every failing tick from the fifth in a row on, with a
sleep that the recoveries since the last successful tick determine. After a failed
restart every failing tick is due. -/
theorem recovery_schedule (pre : List Iteration) (i : Iteration) :
    let s := loopAfter tickUs nowUs pre
    let os := outcomes tickUs nowUs pre
    (recovers s i = true ↔ i.tickRc ≠ 0 ∧ 5 ≤ failedSince os + 1) ∧
      (os.getLast? = some .restartFailed → i.tickRc ≠ 0 → recovers s i = true) ∧
      (recovers s i = true →
        recoverySleep s i = min (2 ^ recoveriesSince os * 1000000) 30000000) ∧
      (afterTick s i).nowUs = s.nowUs + recoverySleep s i ∧
      (1000000 ≤ s.backoffUs.toNat ∧ s.backoffUs.toNat ≤ 30000000) ∧
      (s.backoffUs * 2).toNat = 2 * s.backoffUs.toNat ∧
      (0 ≤ s.consecutiveErrors ∧ s.consecutiveErrors ≤ failingTicks pre) ∧
      (0 ≤ s.recoveryAttempts ∧ s.recoveryAttempts ≤ failingTicks pre) := by
  have hcounts := counts_loopAfter tickUs nowUs pre
  have hrecovers := hcounts.recovers_iff i
  obtain ⟨herrors, hattempts⟩ := counters_le_failing tickUs nowUs pre
  dsimp only
  rw [hcounts.errors, hcounts.attempts, hcounts.double]
  refine ⟨hrecovers, ?_, ?_, (afterTick_clock _ i).1, hcounts.backoff ▸ backoffAfter_bounds _,
    rfl, by omega, by omega⟩
  · intro hlast hfails
    refine hrecovers.mpr ⟨hfails, ?_⟩
    -- the failed restart was itself due, and counts as one more failed tick
    induction pre using List.reverseRecOn with
    | nil => simp [outcomes] at hlast
    | append_singleton pre j _ =>
      rw [outcomes_snoc, List.getLast?_concat, Option.some.injEq] at hlast
      have hdue := (counts_loopAfter tickUs nowUs pre).recovers_iff j
      have hprior := (hdue.mp (recovers_of_restartFailed hlast)).2
      rw [outcomes_snoc, failedSince_snoc, hlast]
      exact Nat.le_succ_of_le hprior
  · intro hrec
    rw [recoverySleep, if_pos hrec, hcounts.backoff, backoffAfter]

end PnetManager.RecoverySchedule
