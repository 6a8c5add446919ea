import PnetManager.ConfigFile
import PnetManager.ProductionLoop

/-!
# The time between two pings

The service manager expects a ping every 30 seconds. The loop pings in the first
check that finds 15 seconds gone, so the ping is late exactly when the time
since the last one, with what the recovery of that iteration sleeps, has grown
past 30 seconds.
-/

namespace PnetManager.WatchdogGap
open Runs ConfigFile ProductionLoop

set_option maxRecDepth 2000

def watchdogUs : ℕ := 30000000

/-- No two consecutive pings are further apart than the service allows. -/
def PingsClose (s : LoopState) : Prop :=
  s.pings.IsChain fun later earlier => later ≤ earlier + watchdogUs

def InTime (s : LoopState) (i : Iteration) : Prop :=
  ∀ t ∈ s.pings.head?, s.nowUs + recoverySleep s i ≤ t + watchdogUs

/-- At the top of the loop the last ping is at most a ping interval and one tick
ago, and `last_watchdog_ms` is its time. -/
structure Recent (tickUs : UInt32) (s : LoopState) : Prop where
  past : ∀ t ∈ s.pings.head?, t ≤ s.nowUs
  recent : ∀ t ∈ s.pings.head?, s.nowUs ≤ t + 15000000 + tickUs.toNat
  stamp : ∀ t ∈ s.pings.head?, s.lastWatchdogMs = nowMs t

variable {tickUs : UInt32} {s : LoopState}

theorem nowMs_sub {t now : ℕ} (hle : t ≤ now) (hlt : now < t + 2 ^ 63) :
    (nowMs now - nowMs t).toNat = now / 1000 - t / 1000 := by
  have hmono : t / 1000 ≤ now / 1000 := Nat.div_le_div_right hle
  have hsmall : now / 1000 - t / 1000 < 2 ^ 64 := by omega
  simp only [nowMs, UInt64.toNat_sub, UInt64.toNat_ofNat']
  omega

theorem watchdogPing_cases
    (h : ∀ t ∈ s.pings.head?, s.lastWatchdogMs = nowMs t ∧ t ≤ s.nowUs ∧ s.nowUs < t + 2 ^ 63) :
    (watchdogPing s).pings = s.nowUs :: s.pings ∧
      (watchdogPing s).lastWatchdogMs = nowMs s.nowUs ∨
    watchdogPing s = s ∧ ∀ t ∈ s.pings.head?, s.nowUs < t + 15000000 := by
  rw [watchdogPing]
  split_ifs with hdue
  · exact Or.inl ⟨rfl, rfl⟩
  · refine Or.inr ⟨rfl, fun t ht => ?_⟩
    obtain ⟨hlast, hle, hlt⟩ := h t ht
    rw [hlast, UInt64.le_iff_toNat_le, nowMs_sub hle hlt] at hdue
    simp only [watchdogPingMs, UInt64.reduceToNat] at hdue
    omega

theorem iterate_cases (h : Recent tickUs s) (i : Iteration) :
    let s' := iterate tickUs s i
    let now := s.nowUs + recoverySleep s i
    s'.nowUs = now + tickUs.toNat ∧
      (s'.pings = now :: s.pings ∧ s'.lastWatchdogMs = nowMs now ∨
        s'.pings = s.pings ∧ s'.lastWatchdogMs = s.lastWatchdogMs ∧
          ∀ t ∈ s.pings.head?, now < t + 15000000) := by
  obtain ⟨hnow, hlast, hpings⟩ := afterTick_clock s i
  have hsleep := recoverySleep_lt s i
  have htick := tickUs.toNat_lt
  have hcheck : ∀ t ∈ (afterTick s i).pings.head?,
      (afterTick s i).lastWatchdogMs = nowMs t ∧ t ≤ (afterTick s i).nowUs ∧
        (afterTick s i).nowUs < t + 2 ^ 63 := by
    intro t ht
    rw [hpings] at ht
    have hpast := h.past t ht
    have hrec := h.recent t ht
    rw [hlast, hnow]
    exact ⟨h.stamp t ht, by omega, by omega⟩
  have hcases := watchdogPing_cases hcheck
  simp only [iterate_nowUs, iterate_pings, iterate_lastWatchdogMs]
  rw [hnow, hpings] at hcases
  refine ⟨trivial, hcases.imp_right fun ⟨hsame, hsince⟩ => ?_⟩
  rw [hsame]
  exact ⟨hpings, hlast, hsince⟩

theorem iterate_recent (h : Recent tickUs s) (i : Iteration) :
    Recent tickUs (iterate tickUs s i) := by
  obtain ⟨hclock, hcase⟩ := iterate_cases h i
  rcases hcase with ⟨hp, hlast⟩ | ⟨hp, hlast, hnow⟩
  · constructor <;> intro t ht
    · obtain rfl : _ = t := by simpa [hp] using ht
      omega
    · obtain rfl : _ = t := by simpa [hp] using ht
      omega
    · obtain rfl : _ = t := by simpa [hp] using ht
      exact hlast
  · constructor <;> intro t ht <;> rw [hp] at ht
    · have hpast := h.past t ht
      omega
    · have hsince := hnow t ht
      omega
    · exact hlast.trans (h.stamp t ht)

theorem iterate_pingsClose_iff (h : Recent tickUs s) (hclose : PingsClose s) (i : Iteration) :
    PingsClose (iterate tickUs s i) ↔ InTime s i := by
  obtain ⟨-, hcase⟩ := iterate_cases h i
  rcases hcase with ⟨hp, -⟩ | ⟨hp, -, hnow⟩
  · rw [PingsClose, hp, List.isChain_cons]
    exact and_iff_left hclose
  · rw [PingsClose, hp]
    refine iff_of_true hclose fun t ht => ?_
    have hsince := hnow t ht
    rw [watchdogUs]
    omega

theorem loopEntry_recent (tickUs : UInt32) (nowUs : ℕ) : Recent tickUs (loopEntry nowUs) := by
  constructor <;> intro t ht <;> simp [loopEntry] at ht

theorem loopAfter_recent (tickUs : UInt32) (nowUs : ℕ) (is : List Iteration) :
    Recent tickUs (loopAfter tickUs nowUs is) :=
  run_invariant (P := Recent tickUs) (fun _ i hs => iterate_recent hs i)
    (loopEntry_recent tickUs nowUs) is

/-- In a run of the loop the pings are never too far apart exactly when in each
iteration the time since the last ping, with the backoff where the iteration
recovers, is at most `WatchdogSec`. -/
theorem pings_close_iff_in_time (tickUs : UInt32) (nowUs : ℕ) (is : List Iteration) :
    (∀ pre, pre <+: is → PingsClose (loopAfter tickUs nowUs pre)) ↔
      ∀ pre i, pre ++ [i] <+: is → InTime (loopAfter tickUs nowUs pre) i := by
  refine always_iff_steps List.IsChain.nil fun pre i _ hclose => ?_
  rw [loopAfter_snoc]
  exact iterate_pingsClose_iff (loopAfter_recent tickUs nowUs pre) hclose i

theorem inTime_of_calm (h : Recent tickUs s) (i : Iteration)
    (hcalm : recoverySleep s i + tickUs.toNat ≤ 15000000) : InTime s i := by
  intro t ht
  have hrec := h.recent t ht
  rw [watchdogUs]
  omega

theorem slow_tick_is_late :
    let cfg := { appConfigDefault with device.tickUs := 31000000 }
    let ok : Iteration := ⟨0, 0⟩
    appConfigValidate cfg = 0 ∧
      (loopAfter cfg.device.tickUs 60000000 [ok, ok]).pings = [91000000, 60000000] ∧
      ¬ ∀ pre, pre <+: [ok, ok] → PingsClose (loopAfter cfg.device.tickUs 60000000 pre) := by
  refine ⟨by decide, by decide, fun h => ?_⟩
  have hclose := h _ (List.prefix_refl _)
  revert hclose
  rw [PingsClose]
  decide

end PnetManager.WatchdogGap
