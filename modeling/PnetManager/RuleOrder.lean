import PnetManager.AppliedCommands

/-!
# The order of the rules

`priority` is stored with a rule and never compared: a rule goes behind the last
one, and the script prints the rules in the order of the table.
-/

namespace PnetManager.RuleOrder
open CText CStdio BoundedTable Runs SecurityPolicy FirewallScript ScriptLines ScriptSize
open AppliedCommands

set_option maxRecDepth 2000

def stored (rule : SecRule) : SecRule := { rule with active := true }

def TableCall.added : TableCall → List SecRule
  | .addRule rule => [stored rule]
  | .removeRule _ => []
  | .flush => []

def addedRules (calls : List TableCall) : List SecRule := calls.flatMap TableCall.added

def adding (rules : List SecRule) : List TableCall := rules.map .addRule

theorem addedRules_snoc (calls : List TableCall) (c : TableCall) :
    addedRules (calls ++ [c]) = addedRules calls ++ TableCall.added c := by
  simp [addedRules]

theorem spec_sublist (c : TableCall) {L added : List SecRule} (h : L.Sublist added) :
    (c.spec L).2.Sublist (added ++ TableCall.added c) := by
  cases c with
  | addRule rule =>
    simp only [TableCall.spec, TableCall.added]
    split_ifs
    · exact h.append (List.Sublist.refl _)
    · exact h.trans (List.sublist_append_left _ _)
  | removeRule index =>
    simp only [TableCall.spec, TableCall.added, List.append_nil]
    split_ifs
    · exact (List.eraseIdx_sublist L _).trans h
    · exact h
  | flush => exact List.nil_sublist _

theorem listAfter_sublist (calls : List TableCall) :
    (listAfter calls).Sublist (addedRules calls) := by
  induction calls using List.reverseRecOn with
  | nil => exact List.Sublist.refl _
  | append_singleton calls c ih =>
    rw [listAfter_snoc, addedRules_snoc]
    exact spec_sublist c ih

theorem listAfter_adding {rules : List SecRule} (h : rules.length ≤ maxFwRules) :
    listAfter (adding rules) = rules.map stored := by
  induction rules using List.reverseRecOn with
  | nil => rfl
  | append_singleton rules rule ih =>
    rw [List.length_append, List.length_singleton] at h
    have hroom : (rules.map stored).length < maxFwRules := by
      rw [List.length_map]
      omega
    have hsnoc : adding (rules ++ [rule]) = adding rules ++ [.addRule rule] := by simp [adding]
    rw [hsnoc, listAfter_snoc, ih (by omega), TableCall.spec, if_pos hroom]
    simp [stored]

def iptablesCommands (script : Text) : List Text := (executedLines script).filter isAppend

/-- What a rule contributes: its command, behind what its comment smuggles in. -/
def ruleCommands (rule : SecRule) : List Text :=
  (smuggled rule.comment.text).filter isAppend ++ [ruleCommand rule]

theorem ruleLines_commands {rule : SecRule} (h : rule.active = true) :
    (ruleLines rule).filter isAppend = ruleCommands rule := by
  rw [ruleLines, if_pos h, List.filter_append, ruleCommands]
  simp [isAppend_ruleCommand]

theorem iptablesCommands_scriptText {policy : SecPolicy}
    (h : ∀ r ∈ usedRules policy, r.active = true) :
    iptablesCommands (scriptText policy) = (usedRules policy).flatMap ruleCommands := by
  have hset : isAppend (ascii "set -e") = false := by decide
  rw [iptablesCommands, executedLines_scriptText, List.cons_append, List.filter_cons, hset,
    if_neg Bool.false_ne_true, List.filter_append, List.filter_flatMap,
    List.flatMap_congr fun r hr => ruleLines_commands (h r hr)]
  simp [isAppend_echoLine]

theorem iptablesCommands_tableAfter (calls : List TableCall) {buf : Text}
    (h : ∀ r ∈ listAfter calls, r.comment.Terminated)
    (hret : (secPolicyGenerateScript (tableAfter calls) buf).1 = 0) :
    iptablesCommands (cstr (secPolicyGenerateScript (tableAfter calls) buf).2) =
      (listAfter calls).flatMap ruleCommands := by
  have hrep := (tableAfter_represents calls).1
  have hused := usedRules_of_represents hrep
  rw [cstr_generateScript (by rwa [hused]) hret,
    iptablesCommands_scriptText (by rw [hused]; exact hrep.active), hused]

def ByPriority (rules : List SecRule) : Prop := rules.Pairwise (·.priority < ·.priority)

instance (rules : List SecRule) : Decidable (ByPriority rules) :=
  inferInstanceAs (Decidable (rules.Pairwise _))

theorem byPriority_stored (rules : List SecRule) :
    ByPriority (rules.map stored) ↔ ByPriority rules := List.pairwise_map

theorem eq_of_byPriority {rules rules' : List SecRule} (hperm : rules.Perm rules')
    (h : ByPriority rules) (h' : ByPriority rules') : rules = rules' := by
  apply hperm.eq_of_pairwise _ h h'
  intro r s _ _ hrs hsr
  rw [Int32.lt_iff_toInt_lt] at hrs hsr
  exact absurd hrs (by omega)

theorem flatMap_stored (rules : List SecRule) :
    (rules.map stored).flatMap ruleCommands = rules.flatMap ruleCommands := by
  rw [List.flatMap_map]
  rfl

/-- The commands follow the order in which the rules were added, whatever their
priorities; they follow the priorities exactly when the rules were added so. -/
theorem commands_follow_adding (calls : List TableCall) (buf : Text)
    (h : ∀ rule, .addRule rule ∈ calls → rule.comment.Terminated)
    (hret : (secPolicyGenerateScript (tableAfter calls) buf).1 = 0) :
    let commands := iptablesCommands (cstr (secPolicyGenerateScript (tableAfter calls) buf).2)
    (commands = (listAfter calls).flatMap ruleCommands ∧
      (listAfter calls).Sublist (addedRules calls) ∧
      (ByPriority (addedRules calls) → ByPriority (listAfter calls))) ∧
    ∀ rules, calls = adding rules → rules.length ≤ maxFwRules →
      commands = rules.flatMap ruleCommands ∧
      (ByPriority (listAfter calls) ↔ ByPriority rules) ∧
      ∀ rules', rules.Perm rules' → ByPriority rules → ByPriority rules' →
        listAfter (adding rules') = listAfter calls := by
  have hcommands := iptablesCommands_tableAfter calls (listAfter_terminated h) hret
  have hsublist := listAfter_sublist calls
  refine ⟨⟨hcommands, hsublist, fun hsorted => hsorted.sublist hsublist⟩, ?_⟩
  intro rules hcalls hlen
  subst hcalls
  rw [listAfter_adding hlen] at hcommands ⊢
  refine ⟨hcommands.trans (flatMap_stored rules), byPriority_stored rules, ?_⟩
  intro rules' hperm hsorted hsorted'
  rw [← eq_of_byPriority hperm hsorted hsorted', listAfter_adding hlen]

def allowProfinet : SecRule :=
  { SecRule.zeroed with
    dstPort := 102, protocol := 6, action := .accept, priority := 1
    comment := .ofText 64 (ascii "Allow Profinet") }

def defaultDeny : SecRule :=
  { allowProfinet with
    action := .drop, priority := 99, comment := .ofText 64 (ascii "Default deny") }

def scriptBuffer : Text := List.replicate 600 nul

theorem generateScript_in_scriptBuffer {rules : List SecRule}
    (h : ∀ rule, .addRule rule ∈ adding rules → rule.comment.Terminated)
    (hsize : scriptSize (tableAfter (adding rules)) < 600) :
    (secPolicyGenerateScript (tableAfter (adding rules)) scriptBuffer).1 = 0 := by
  rw [(generateScript_spec (tableAfter_terminated h) _).1, scriptText_length]
  simpa [scriptBuffer] using hsize

theorem terminated_of_adding {rules : List SecRule} (h : ∀ r ∈ rules, r.comment.Terminated)
    (rule : SecRule) (hrule : .addRule rule ∈ adding rules) : rule.comment.Terminated := by
  obtain ⟨r, hr, he⟩ := List.mem_map.mp hrule
  rw [TableCall.addRule.injEq] at he
  exact he ▸ h r hr

theorem commands_follow_adding_two :
    let calls := adding [allowProfinet, defaultDeny]
    iptablesCommands (cstr (secPolicyGenerateScript (tableAfter calls) scriptBuffer).2) =
      [allowProfinet, defaultDeny].flatMap ruleCommands := by
  have h : ∀ rule, .addRule rule ∈ adding [allowProfinet, defaultDeny] →
      rule.comment.Terminated := terminated_of_adding (by decide)
  have hret := generateScript_in_scriptBuffer h (by decide)
  exact ((commands_follow_adding _ scriptBuffer h hret).2 _ rfl (by decide)).1

theorem later_priority_comes_first :
    let commands (rules : List SecRule) :=
      iptablesCommands (cstr (secPolicyGenerateScript (tableAfter (adding rules)) scriptBuffer).2)
    ByPriority [allowProfinet, defaultDeny] ∧
      commands [defaultDeny, allowProfinet] =
        [ascii "iptables -A INPUT -p tcp --dport 102 -j DROP",
          ascii "iptables -A INPUT -p tcp --dport 102 -j ACCEPT"] ∧
      commands [defaultDeny, allowProfinet] ≠ commands [allowProfinet, defaultDeny] := by
  have hcommands (rules : List SecRule) (hlen : rules.length ≤ maxFwRules)
      (hterm : ∀ r ∈ rules, r.comment.Terminated)
      (hsize : scriptSize (tableAfter (adding rules)) < 600) :
      iptablesCommands (cstr (secPolicyGenerateScript (tableAfter (adding rules))
        scriptBuffer).2) = rules.flatMap ruleCommands := by
    have h := terminated_of_adding hterm
    rw [iptablesCommands_tableAfter _ (listAfter_terminated h)
      (generateScript_in_scriptBuffer h hsize), listAfter_adding hlen, flatMap_stored]
  dsimp only
  rw [hcommands [defaultDeny, allowProfinet] (by decide) (by decide) (by decide),
    hcommands [allowProfinet, defaultDeny] (by decide) (by decide) (by decide)]
  decide

end PnetManager.RuleOrder
