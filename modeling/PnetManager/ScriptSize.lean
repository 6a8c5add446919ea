import PnetManager.ScriptLines

/-!
# How long a script is

The length of a script is a sum over the rules: the digits of their indices,
their comments and their commands. The buffer of `sec_policy_apply` is not large
enough for every table of 64 rules.
-/

namespace PnetManager.ScriptSize
open CText CNumber CStdio BoundedTable Runs SecurityPolicy FirewallScript ScriptLines

set_option maxRecDepth 2000

def sourceSize (rule : SecRule) : ℕ :=
  if rule.srcIp ≠ 0 then
    4 + (ipToStr rule.srcIp).length +
      if rule.srcMask ≠ 0 then 1 + (ipToStr rule.srcMask).length else 0
  else 0

def commandSize (rule : SecRule) : ℕ :=
  29 + (chainToStr rule.chain).length + sourceSize rule + (protoToStr rule.protocol).length +
    (fmtU rule.dstPort.toNat).length + (actionToStr rule.action).length

def blockSize (rule : SecRule) (i : ℕ) : ℕ :=
  12 + (fmtU i).length + rule.comment.text.length +
    if rule.active then commandSize rule else 20 + rule.comment.text.length

def scriptSize (policy : SecPolicy) : ℕ :=
  126 + 2 * (fmtD policy.ruleCount).length +
    ((usedRules policy).zipIdx.map fun r => blockSize r.1 r.2).sum

theorem ruleCommand_size (rule : SecRule) : (ruleCommand rule).length = commandSize rule := by
  have h1 : (ascii "iptables -A ").length = 12 := by decide
  have h2 : (ascii " -s ").length = 4 := by decide
  have h3 : (ascii "/").length = 1 := by decide
  have h4 : (ascii " -p ").length = 4 := by decide
  have h5 : (ascii " --dport ").length = 9 := by decide
  have h6 : (ascii " -j ").length = 4 := by decide
  rw [ruleCommand, commandSize, sourceSize]
  split_ifs <;> simp only [List.length_append] <;> omega

theorem ruleBlock_size (rule : SecRule) (i : ℕ) :
    (ruleBlock i rule (ruleLine rule)).length = blockSize rule i := by
  have h1 : (ascii "# Rule ").length = 7 := by decide
  have h2 : (ascii ": ").length = 2 := by decide
  have h3 : (ascii "\n").length = 1 := by decide
  have h4 : (ascii "\n\n").length = 2 := by decide
  have h5 : (ascii "# [inactive] rule: ").length = 19 := by decide
  have hi : fmtD (i : ℤ) = fmtU i := by simp [fmtD]
  rw [ruleBlock, blockSize, ruleLine, hi]
  cases rule.active with
  | false =>
    simp only [inactiveLine, if_true, Bool.false_eq_true, if_false, List.length_append,
      List.length_singleton]
    omega
  | true =>
    simp only [Bool.true_eq_false, if_true, if_false, List.length_append, ruleCommand_size]
    omega

theorem scriptHeader_size (policy : SecPolicy) :
    (scriptHeader policy).length = 78 + (fmtD policy.ruleCount).length := by
  have h1 : (ascii
      "#!/bin/bash\n# Auto-generated PROFINET security policy\n# Rule count: ").length = 68 := by
    decide
  have h2 : (ascii "\n\nset -e\n\n").length = 10 := by decide
  simp only [scriptHeader, List.length_append]
  omega

theorem scriptFooter_size (policy : SecPolicy) :
    (scriptFooter policy).length = 48 + (fmtD policy.ruleCount).length := by
  have h1 : (ascii "echo \"PROFINET security policy applied: ").length = 40 := by decide
  have h2 : (ascii " rules\"\n").length = 8 := by decide
  simp only [scriptFooter, List.length_append]
  omega

theorem scriptText_length (policy : SecPolicy) :
    (scriptText policy).length = scriptSize policy := by
  have hblocks (rules : List (SecRule × ℕ)) :
      ((rules.map fun r => ruleBlock r.2 r.1 (ruleLine r.1)).flatten).length =
        (rules.map fun r => blockSize r.1 r.2).sum := by
    induction rules with
    | nil => rfl
    | cons r rules ih =>
      simp only [List.map_cons, List.flatten_cons, List.length_append, List.sum_cons, ih,
        ruleBlock_size]
  have hheader := scriptHeader_size policy
  have hfooter := scriptFooter_size policy
  simp only [scriptText, scriptTexts, List.cons_append, List.flatten_cons, List.flatten_append,
    List.length_append, List.flatten_nil, List.length_nil, hblocks, hheader, hfooter, scriptSize]
  omega

theorem usedRules_of_represents {policy : SecPolicy} {L : List SecRule}
    (h : RepresentsRules policy L) : usedRules policy = L := by
  have hcount := h.table.count_eq
  have hslots : policy.rules.toList = L ++ _ := h.table.slots
  rw [usedRules, hslots, hcount, Int.toNat_natCast, List.take_left]

theorem listAfter_terminated {calls : List TableCall}
    (h : ∀ rule, .addRule rule ∈ calls → rule.comment.Terminated) :
    ∀ r ∈ listAfter calls, r.comment.Terminated := by
  refine run_invariant_of_mem (P := fun L : List SecRule => ∀ r ∈ L, r.comment.Terminated) ?_
    (by simp)
  intro L c hc hL
  cases c with
  | addRule rule =>
    rw [TableCall.spec]
    split_ifs
    · intro r hr
      rcases List.mem_append.mp hr with hr | hr
      · exact hL r hr
      · rw [List.mem_singleton.mp hr]
        exact h rule hc
    · exact hL
  | removeRule index =>
    rw [TableCall.spec]
    split_ifs
    · exact fun r hr => hL r (List.mem_of_mem_eraseIdx hr)
    · exact hL
  | flush => simp [TableCall.spec]

theorem tableAfter_terminated {calls : List TableCall}
    (h : ∀ rule, .addRule rule ∈ calls → rule.comment.Terminated) :
    ∀ r ∈ usedRules (tableAfter calls), r.comment.Terminated := by
  rw [usedRules_of_represents (tableAfter_represents calls).1]
  exact listAfter_terminated h

theorem secPolicyApply_enospc_iff {policy : SecPolicy}
    (h : ∀ r ∈ usedRules policy, r.comment.Terminated) {W : Type} (system : Text → W → ℤ × W)
    (script : CharArray 4096) (w : W) :
    (secPolicyApply system script policy w).1 = -enospc ↔ ¬ scriptSize policy < 4096 := by
  have heio : -eio ≠ -enospc := by decide
  have hzero : (0 : ℤ) ≠ -enospc := by decide
  rw [← scriptText_length]
  by_cases hfits : (scriptText policy).length < 4096
  · rw [secPolicyApply_of_fits system script h hfits]
    split_ifs <;> simp [hfits, heio, hzero]
  · simp [secPolicyApply_of_not_fits system script h hfits, hfits]

/-- A table built by the functions of the table is applied, and not refused for
lack of space, exactly when the sum of its sizes is below the size of the
buffer. -/
theorem table_applied_iff_fits (calls : List TableCall)
    (h : ∀ rule, .addRule rule ∈ calls → rule.comment.Terminated) {W : Type}
    (system : Text → W → ℤ × W) (script : CharArray 4096) (w : W) :
    (secPolicyGenerateScript (tableAfter calls) script.bytes).1 = 0 ∧
      (secPolicyApply system script (tableAfter calls) w).1 ≠ -enospc ↔
    scriptSize (tableAfter calls) < 4096 := by
  have hcomments := tableAfter_terminated h
  obtain ⟨hfits, -⟩ := generateScript_spec hcomments script.bytes
  rw [scriptText_length, script.size_eq] at hfits
  rw [ne_eq, secPolicyApply_enospc_iff hcomments, not_not, hfits, and_self]

theorem table_applied_iff_fits_one_rule :
    let rule := { SecRule.zeroed with protocol := 6, dstPort := 102 }
    (secPolicyGenerateScript (tableAfter [.addRule rule]) (CharArray.zeroed 4096).bytes).1 = 0 := by
  intro rule
  have hcomment : ∀ r, .addRule r ∈ [TableCall.addRule rule] → r.comment.Terminated := by
    intro r hr
    obtain rfl := TableCall.addRule.inj (List.mem_singleton.mp hr)
    decide
  exact ((table_applied_iff_fits [.addRule rule] hcomment (fun _ (w : Unit) => (0, w))
    (.zeroed 4096) ()).mpr (by decide)).1

def longComments : List TableCall :=
  List.replicate 40 (.addRule { SecRule.zeroed with
    protocol := 6, dstPort := 102, comment := .ofText 64 (List.replicate 63 97) })

theorem long_comments_do_not_fit :
    (tableAfter longComments).ruleCount = 40 ∧
      (secPolicyApply (fun _ (w : Unit) => (0, w)) (.zeroed 4096) (tableAfter longComments) ()).1 =
        -enospc := by
  have hrep := (tableAfter_represents longComments).1
  have hlen : (listAfter longComments).length = 40 := by decide
  have hcount : (tableAfter longComments).ruleCount = 40 := by
    rw [hrep.table.count_eq, hlen]
    rfl
  have hsize : 4096 ≤ scriptSize (tableAfter longComments) := by
    rw [scriptSize, usedRules_of_represents hrep, hcount]
    decide
  have hcomment : ∀ rule, .addRule rule ∈ longComments → rule.comment.Terminated := by
    intro rule hrule
    obtain rfl := TableCall.addRule.inj (List.eq_of_mem_replicate hrule)
    decide
  refine ⟨hcount, ?_⟩
  rw [secPolicyApply_enospc_iff (tableAfter_terminated hcomment)]
  omega

end PnetManager.ScriptSize
