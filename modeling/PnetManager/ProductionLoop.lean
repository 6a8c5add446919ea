import PnetManager.Runs

/-!
# The production loop

The loop of `main` over what its calls return: the result of `io_device_tick`
and, where a recovery is tried, that of `device_init_and_start`. Only `usleep`
lets time pass. A run is a sequence of iterations; a signal ends it after any of
them. `MAX_RECOVERY_ATTEMPTS` is 0, so no count of attempts ends it.
-/

namespace PnetManager.ProductionLoop
open Runs

def maxConsecutiveErrors : ℤ := 5
def recoveryBackoffBase : UInt32 := 1000000
def recoveryBackoffMax : UInt32 := 30000000
def watchdogPingMs : UInt64 := 15000

/-- The variables of the loop, the monotonic clock in microseconds and the times
of the pings, the last one first. -/
structure LoopState where
  consecutiveErrors : ℤ
  recoveryAttempts : ℤ
  backoffUs : UInt32
  lastWatchdogMs : UInt64
  nowUs : ℕ
  pings : List ℕ
deriving DecidableEq

def loopEntry (nowUs : ℕ) : LoopState where
  consecutiveErrors := 0
  recoveryAttempts := 0
  backoffUs := recoveryBackoffBase
  lastWatchdogMs := 0
  nowUs := nowUs
  pings := []

structure Iteration where
  tickRc : ℤ
  restartRc : ℤ
deriving DecidableEq

def recovers (s : LoopState) (i : Iteration) : Bool :=
  i.tickRc ≠ 0 ∧ maxConsecutiveErrors ≤ s.consecutiveErrors + 1

def recover (restartRc : ℤ) (s : LoopState) : LoopState :=
  let backoffUs := s.backoffUs * 2
  { s with
    recoveryAttempts := s.recoveryAttempts + 1
    nowUs := s.nowUs + s.backoffUs.toNat
    backoffUs := if recoveryBackoffMax < backoffUs then recoveryBackoffMax else backoffUs
    consecutiveErrors := if restartRc = 0 then 0 else s.consecutiveErrors }

def afterTick (s : LoopState) (i : Iteration) : LoopState :=
  if i.tickRc = 0 then
    { s with consecutiveErrors := 0, recoveryAttempts := 0, backoffUs := recoveryBackoffBase }
  else
    let s := { s with consecutiveErrors := s.consecutiveErrors + 1 }
    if maxConsecutiveErrors ≤ s.consecutiveErrors then recover i.restartRc s else s

def nowMs (nowUs : ℕ) : UInt64 := UInt64.ofNat (nowUs / 1000)

def watchdogPing (s : LoopState) : LoopState :=
  if watchdogPingMs ≤ nowMs s.nowUs - s.lastWatchdogMs then
    { s with lastWatchdogMs := nowMs s.nowUs, pings := s.nowUs :: s.pings }
  else s

def iterate (tickUs : UInt32) (s : LoopState) (i : Iteration) : LoopState :=
  let s := watchdogPing (afterTick s i)
  { s with nowUs := s.nowUs + tickUs.toNat }

def loopAfter (tickUs : UInt32) (nowUs : ℕ) (is : List Iteration) : LoopState :=
  run (iterate tickUs) (loopEntry nowUs) is

def recoverySleep (s : LoopState) (i : Iteration) : ℕ :=
  if recovers s i then s.backoffUs.toNat else 0

theorem afterTick_clock (s : LoopState) (i : Iteration) :
    (afterTick s i).nowUs = s.nowUs + recoverySleep s i ∧
      (afterTick s i).lastWatchdogMs = s.lastWatchdogMs ∧ (afterTick s i).pings = s.pings := by
  by_cases hok : i.tickRc = 0
  · simp [afterTick, recoverySleep, recovers, hok]
  by_cases hmax : maxConsecutiveErrors ≤ s.consecutiveErrors + 1
  · simp [afterTick, recoverySleep, recovers, recover, hok, hmax]
  · simp [afterTick, recoverySleep, recovers, hok, hmax]

theorem recoverySleep_lt (s : LoopState) (i : Iteration) : recoverySleep s i < 2 ^ 32 := by
  have hb := s.backoffUs.toNat_lt
  rw [recoverySleep]
  split_ifs <;> omega

theorem watchdogPing_nowUs (s : LoopState) : (watchdogPing s).nowUs = s.nowUs := by
  rw [watchdogPing]
  split_ifs <;> rfl

variable (tickUs : UInt32) (s : LoopState) (i : Iteration)

theorem iterate_nowUs :
    (iterate tickUs s i).nowUs = s.nowUs + recoverySleep s i + tickUs.toNat := by
  rw [iterate, watchdogPing_nowUs, (afterTick_clock s i).1]

theorem iterate_pings : (iterate tickUs s i).pings = (watchdogPing (afterTick s i)).pings := rfl

theorem iterate_lastWatchdogMs :
    (iterate tickUs s i).lastWatchdogMs = (watchdogPing (afterTick s i)).lastWatchdogMs := rfl

theorem loopAfter_snoc (nowUs : ℕ) (is : List Iteration) :
    loopAfter tickUs nowUs (is ++ [i]) = iterate tickUs (loopAfter tickUs nowUs is) i :=
  run_snoc _ _ _ _

end PnetManager.ProductionLoop
