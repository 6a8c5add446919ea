import PnetManager.BoundedTable
import PnetManager.CNumber
import PnetManager.CStdio
import PnetManager.Runs
import PnetManager.Word32

/-!
# The firewall rule table

The rules and the policy of `security_policy.c`, with the functions that change
the table. Pointer arguments are not NULL. After every sequence of calls the
table represents a list of at most 64 active rules.
-/

namespace PnetManager.SecurityPolicy
open CText CStdio BoundedTable Runs

def maxFwRules : ℕ := 64

inductive SecAction
  | accept
  | drop
  | reject
  | other (n : ℕ)
deriving DecidableEq

inductive SecChain
  | input
  | output
  | forward
  | other (n : ℕ)
deriving DecidableEq

structure SecRule where
  chain : SecChain
  srcIp : UInt32
  srcMask : UInt32
  dstPort : UInt32
  protocol : UInt8
  action : SecAction
  priority : Int32
  active : Bool
  comment : CharArray 64
deriving DecidableEq

def SecRule.zeroed : SecRule where
  chain := .input
  srcIp := 0
  srcMask := 0
  dstPort := 0
  protocol := 0
  action := .accept
  priority := 0
  active := false
  comment := .zeroed _

structure SecPolicy where
  rules : Vector SecRule maxFwRules
  ruleCount : ℤ
  enabled : Bool
deriving DecidableEq

def SecPolicy.zeroed : SecPolicy := ⟨Vector.replicate maxFwRules .zeroed, 0, false⟩

def secPolicyInit (_ : SecPolicy) : ℤ × SecPolicy :=
  (0, { SecPolicy.zeroed with enabled := false, ruleCount := 0 })

def secPolicyAddRule (policy : SecPolicy) (rule : SecRule) : ℤ × SecPolicy :=
  if (maxFwRules : ℤ) ≤ policy.ruleCount then (-enospc, policy)
  else
    (0, { policy with
      rules := policy.rules.setIfInBounds policy.ruleCount.toNat { rule with active := true }
      ruleCount := policy.ruleCount + 1 })

/-- `sec_policy_remove_rule`; the loop runs from `index` to `rule_count - 2`. -/
def secPolicyRemoveRule (policy : SecPolicy) (index : ℤ) : ℤ × SecPolicy :=
  if index < 0 ∨ policy.ruleCount ≤ index then (-erange, policy)
  else
    let rules := shiftDown (policy.ruleCount - 1 - index).toNat index.toNat policy.rules
    (0, { policy with
      rules := rules.setIfInBounds (policy.ruleCount - 1).toNat .zeroed
      ruleCount := policy.ruleCount - 1 })

def secPolicyFlush (policy : SecPolicy) : ℤ × SecPolicy :=
  (0, { policy with rules := Vector.replicate maxFwRules .zeroed, ruleCount := 0 })

inductive TableCall
  | addRule (rule : SecRule)
  | removeRule (index : ℤ)
  | flush

def TableCall.exec : TableCall → SecPolicy → ℤ × SecPolicy
  | .addRule rule, policy => secPolicyAddRule policy rule
  | .removeRule index, policy => secPolicyRemoveRule policy index
  | .flush, policy => secPolicyFlush policy

/-- What the table is for: a list of active rules with room for 64. -/
def TableCall.spec : TableCall → List SecRule → ℤ × List SecRule
  | .addRule rule, L =>
    if L.length < maxFwRules then (0, L ++ [{ rule with active := true }]) else (-enospc, L)
  | .removeRule index, L =>
    if 0 ≤ index ∧ index < L.length then (0, L.eraseIdx index.toNat) else (-erange, L)
  | .flush, _ => (0, [])

def tableAfter (calls : List TableCall) : SecPolicy :=
  run (fun p c => (c.exec p).2) (secPolicyInit .zeroed).2 calls

def listAfter (calls : List TableCall) : List SecRule := run (fun L c => (c.spec L).2) [] calls

structure RepresentsRules (policy : SecPolicy) (L : List SecRule) : Prop where
  table : Represents SecRule.zeroed policy.rules policy.ruleCount L
  active : ∀ r ∈ L, r.active = true

theorem representsRules_init : RepresentsRules (secPolicyInit .zeroed).2 [] :=
  ⟨represents_nil _, by simp⟩

variable {policy : SecPolicy} {L : List SecRule}

/-- Each call does to the table what its specification does to the list, returns
what the specification returns, keeps `enabled`, and changes nothing on an error. -/
theorem exec_spec (h : RepresentsRules policy L) (c : TableCall) :
    (c.exec policy).1 = (c.spec L).1 ∧ RepresentsRules (c.exec policy).2 (c.spec L).2 ∧
      (c.exec policy).2.enabled = policy.enabled ∧
      ((c.exec policy).1 ≠ 0 → (c.exec policy).2 = policy) := by
  have hcount := h.table.count_eq
  have hfits := h.table.fits
  cases c with
  | addRule rule =>
    by_cases hroom : L.length < maxFwRules
    · have hn : ¬ (maxFwRules : ℤ) ≤ policy.ruleCount := by omega
      simp only [TableCall.exec, TableCall.spec, secPolicyAddRule, hn, hroom, if_false, if_true]
      refine ⟨trivial, ⟨h.table.push hroom _, ?_⟩, trivial, fun hne => absurd rfl hne⟩
      intro r hr
      rcases List.mem_append.mp hr with hr | hr
      · exact h.active r hr
      · rw [List.mem_singleton.mp hr]
    · have hn : (maxFwRules : ℤ) ≤ policy.ruleCount := by omega
      simpa [TableCall.exec, TableCall.spec, secPolicyAddRule, hn, hroom] using h
  | removeRule index =>
    by_cases hin : 0 ≤ index ∧ index < L.length
    · have hn : ¬ (index < 0 ∨ policy.ruleCount ≤ index) := by omega
      obtain ⟨i, rfl⟩ := Int.eq_ofNat_of_zero_le hin.1
      simp only [TableCall.exec, TableCall.spec, secPolicyRemoveRule, hn, hin, if_false, and_self,
        if_true, Int.toNat_natCast]
      refine ⟨trivial, ⟨h.table.remove (by omega), ?_⟩, trivial, fun hne => absurd rfl hne⟩
      exact fun r hr => h.active r (List.mem_of_mem_eraseIdx hr)
    · have hn : index < 0 ∨ policy.ruleCount ≤ index := by omega
      simpa [TableCall.exec, TableCall.spec, secPolicyRemoveRule, hn, hin] using h
  | flush =>
    exact ⟨rfl, ⟨represents_nil _, by simp [TableCall.spec]⟩, rfl, fun hne => absurd rfl hne⟩

theorem tableAfter_snoc (calls : List TableCall) (c : TableCall) :
    tableAfter (calls ++ [c]) = (c.exec (tableAfter calls)).2 := run_snoc _ _ _ _

theorem listAfter_snoc (calls : List TableCall) (c : TableCall) :
    listAfter (calls ++ [c]) = (c.spec (listAfter calls)).2 := run_snoc _ _ _ _

theorem tableAfter_represents (calls : List TableCall) :
    RepresentsRules (tableAfter calls) (listAfter calls) ∧ (tableAfter calls).enabled = false :=
  run_simulation (R := fun p L => RepresentsRules p L ∧ p.enabled = false)
    (fun _ _ c h => ⟨(exec_spec h.1 c).2.1, (exec_spec h.1 c).2.2.1.trans h.2⟩)
    ⟨representsRules_init, rfl⟩ calls

end PnetManager.SecurityPolicy
