import PnetManager.ScriptLines
import PnetManager.ScriptSize

/-!
# Which commands an apply executes

The commands for the active rules, in the order of the table. `enabled` is not
looked at, although the audit calls a policy without it not enforced.
-/

namespace PnetManager.AppliedCommands
open CText CNumber CStdio SecurityPolicy FirewallScript ScriptLines ScriptSize

set_option maxRecDepth 2000

def isAppend (line : Text) : Bool := (ascii "iptables -A ").isPrefixOf line

theorem isAppend_ruleCommand (rule : SecRule) : isAppend (ruleCommand rule) = true := by
  rw [isAppend, List.isPrefixOf_iff_prefix, ruleCommand]
  split_ifs <;> simp only [List.append_assoc] <;> exact List.prefix_append _ _

theorem isAppend_echoLine (policy : SecPolicy) : isAppend (echoLine policy) = false := by
  rw [echoLine, List.append_assoc]
  rfl

end PnetManager.AppliedCommands
