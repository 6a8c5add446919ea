import PnetManager.FirewallScript

/-!
# The lines of the generated script

A comment is printed behind the text that opens its line, so its first line is
harmless; every further line of it is a line of the script.
-/

namespace PnetManager.ScriptLines
open CText CNumber CStdio SecurityPolicy FirewallScript

set_option maxRecDepth 2000

def isExecuted (l : Text) : Bool := l ≠ [] ∧ l.head? ≠ some 35

def executedLines (t : Text) : List Text := (t.splitOn lf).filter isExecuted

theorem executedLines_append_lf (s t : Text) :
    executedLines (s ++ lf :: t) = executedLines s ++ executedLines t := by
  rw [executedLines, List.splitOn_append_cons_self, List.filter_append]
  rfl

theorem executedLines_nil : executedLines [] = [] := by decide

theorem executedLines_line {t : Text} (h : lf ∉ t) : executedLines t = [t].filter isExecuted := by
  rw [executedLines, List.splitOn_eq_singleton h]

theorem executedLines_lf (s : Text) : executedLines (s ++ [lf]) = executedLines s := by
  rw [executedLines_append_lf, executedLines_nil, List.append_nil]

def smuggled (t : Text) : List Text := (t.splitOn lf).tail.filter isExecuted

theorem splitOn_append_of_not_mem {p : Text} (h : lf ∉ p) (t : Text) :
    (p ++ t).splitOn lf = (t.splitOn lf).modifyHead (p ++ ·) := by
  induction p with
  | nil =>
    obtain ⟨l, ls, hl⟩ := List.exists_cons_of_ne_nil (List.splitOn_ne_nil lf t)
    simp [hl]
  | cons c p ih =>
    have hc : c ≠ lf := fun he => h (he ▸ List.mem_cons_self)
    have hi := ih fun hm => h (List.mem_cons_of_mem _ hm)
    obtain ⟨l, ls, hl⟩ := List.exists_cons_of_ne_nil (List.splitOn_ne_nil lf t)
    rw [List.cons_append, List.splitOn_cons_eq_if_modifyHead, hi, hl]
    simp [hc]

theorem executedLines_comment {p : Text} (h : lf ∉ p) (hp : p.head? = some 35) (t : Text) :
    executedLines (p ++ t) = smuggled t := by
  obtain ⟨l, ls, hl⟩ := List.exists_cons_of_ne_nil (List.splitOn_ne_nil lf t)
  obtain ⟨c, cs, rfl⟩ : ∃ c cs, p = c :: cs := by
    cases p with
    | nil => simp at hp
    | cons c cs => exact ⟨c, cs, rfl⟩
  obtain rfl : c = 35 := by simpa using hp
  rw [executedLines, splitOn_append_of_not_mem h, hl, smuggled, hl]
  simp [isExecuted]

def echoLine (policy : SecPolicy) : Text :=
  ascii "echo \"PROFINET security policy applied: " ++ fmtD policy.ruleCount ++ ascii " rules\""

theorem oneLine_echoLine (policy : SecPolicy) : OneLine (echoLine policy) :=
  (OneLine.append (by decide) (oneLine_fmtD _)).append (by decide)

theorem executedLines_header (policy : SecPolicy) (t : Text) :
    executedLines (scriptHeader policy ++ t) = ascii "set -e" :: executedLines t := by
  have hcount : lf ∉ ascii "# Rule count: " ++ fmtD policy.ruleCount :=
    (OneLine.append (by decide) (oneLine_fmtD _)).no_lf
  have hsplit : scriptHeader policy ++ t =
      ascii "#!/bin/bash" ++ lf :: (ascii "# Auto-generated PROFINET security policy" ++ lf ::
        ((ascii "# Rule count: " ++ fmtD policy.ruleCount) ++ lf :: ([] ++ lf ::
          (ascii "set -e" ++ lf :: ([] ++ lf :: t))))) := by
    simp only [scriptHeader, List.append_assoc]
    rfl
  rw [hsplit]
  iterate 6 rw [executedLines_append_lf]
  rw [executedLines_line hcount]
  rfl

theorem executedLines_footer (policy : SecPolicy) :
    executedLines (scriptFooter policy) = [echoLine policy] := by
  have hsplit : scriptFooter policy = echoLine policy ++ [lf] := by
    simp only [scriptFooter, echoLine, List.append_assoc]
    rfl
  rw [hsplit, executedLines_lf, executedLines_line (oneLine_echoLine policy).no_lf]
  rfl

def commandOf (rule : SecRule) : List Text := if rule.active then [ruleCommand rule] else []

/-- The executed lines of a rule: those of its comment come with the header of the
rule, and once more with the line of an inactive rule. -/
def ruleLines (rule : SecRule) : List Text :=
  smuggled rule.comment.text ++
    if rule.active then [ruleCommand rule] else smuggled rule.comment.text

theorem ruleCommand_executed (rule : SecRule) :
    executedLines (ruleCommand rule) = [ruleCommand rule] := by
  have hhead : (ruleCommand rule).head? = some 105 := by
    rw [ruleCommand]
    split_ifs <;> simp only [List.append_assoc] <;> rfl
  have hne : ruleCommand rule ≠ [] := fun h => by simp [h] at hhead
  rw [executedLines_line (oneLine_ruleCommand rule).no_lf]
  simp [isExecuted, hhead, hne]

theorem executedLines_ruleLine (rule : SecRule) :
    executedLines (ruleLine rule) =
      if rule.active then [ruleCommand rule] else smuggled rule.comment.text := by
  rw [ruleLine]
  cases rule.active with
  | true => simpa using ruleCommand_executed rule
  | false =>
    have hp : lf ∉ ascii "# [inactive] rule: " := by decide
    simp only [inactiveLine, if_true, Bool.false_eq_true, if_false]
    rw [executedLines_lf, executedLines_comment hp rfl]

theorem executedLines_block (i : ℕ) (rule : SecRule) (t : Text) :
    executedLines (ruleBlock i rule (ruleLine rule) ++ t) = ruleLines rule ++ executedLines t := by
  have hp : lf ∉ ascii "# Rule " ++ fmtD i ++ ascii ": " :=
    ((OneLine.append (by decide) (oneLine_fmtD _)).append (by decide)).no_lf
  have hsplit : ruleBlock i rule (ruleLine rule) ++ t =
      ((ascii "# Rule " ++ fmtD i ++ ascii ": ") ++ rule.comment.text) ++ lf ::
        (ruleLine rule ++ lf :: ([] ++ lf :: t)) := by
    simp only [ruleBlock, List.append_assoc]
    rfl
  rw [hsplit]
  iterate 3 rw [executedLines_append_lf]
  rw [executedLines_comment hp rfl, executedLines_ruleLine, executedLines_nil, ruleLines,
    List.nil_append, List.append_assoc]

theorem executedLines_blocks (rules : List (SecRule × ℕ)) (t : Text) :
    executedLines ((rules.map fun r => ruleBlock r.2 r.1 (ruleLine r.1)).flatten ++ t) =
      (rules.map Prod.fst).flatMap ruleLines ++ executedLines t := by
  induction rules with
  | nil => rfl
  | cons r rules ih =>
    simp only [List.map_cons, List.flatten_cons, List.flatMap_cons, List.append_assoc]
    rw [executedLines_block, ih]

theorem executedLines_scriptText (policy : SecPolicy) :
    executedLines (scriptText policy) =
      ascii "set -e" :: (usedRules policy).flatMap ruleLines ++ [echoLine policy] := by
  have htext : scriptText policy = scriptHeader policy ++
      (((usedRules policy).zipIdx.map fun r => ruleBlock r.2 r.1 (ruleLine r.1)).flatten ++
        scriptFooter policy) := by
    simp [scriptText, scriptTexts]
  rw [htext, executedLines_header, executedLines_blocks, executedLines_footer,
    List.zipIdx_map_fst]
  rfl

theorem nul_not_mem_scriptText (policy : SecPolicy) : nul ∉ scriptText policy := by
  have hheader : nul ∉ scriptHeader policy := by
    have hd := (oneLine_fmtD policy.ruleCount).no_nul
    have h1 : nul ∉
        ascii "#!/bin/bash\n# Auto-generated PROFINET security policy\n# Rule count: " := by
      decide
    have h2 : nul ∉ ascii "\n\nset -e\n\n" := by decide
    simp [scriptHeader, h1, h2, hd]
  have hline (rule : SecRule) : nul ∉ ruleLine rule := by
    have hp : nul ∉ ascii "# [inactive] rule: " := by decide
    rw [ruleLine]
    split_ifs
    · simpa [inactiveLine, hp, rule.comment.nul_not_mem_text] using show nul ≠ lf by decide
    · exact (oneLine_ruleCommand rule).no_nul
  have hblock (i : ℕ) (rule : SecRule) : nul ∉ ruleBlock i rule (ruleLine rule) := by
    have hd := (oneLine_fmtD (i : ℤ)).no_nul
    have h1 : nul ∉ ascii "# Rule " := by decide
    have h2 : nul ∉ ascii ": " := by decide
    have h3 : nul ∉ ascii "\n" := by decide
    have h4 : nul ∉ ascii "\n\n" := by decide
    simp [ruleBlock, h1, h2, h3, h4, hd, hline rule, rule.comment.nul_not_mem_text]
  have hfooter : nul ∉ scriptFooter policy := by
    have hd := (oneLine_fmtD policy.ruleCount).no_nul
    have h1 : nul ∉ ascii "echo \"PROFINET security policy applied: " := by decide
    have h2 : nul ∉ ascii " rules\"\n" := by decide
    simp [scriptFooter, h1, h2, hd]
  intro h
  obtain ⟨t, ht, hm⟩ := List.mem_flatten.mp h
  simp only [scriptTexts, List.cons_append, List.mem_cons, List.mem_append, List.mem_map,
    List.not_mem_nil, or_false] at ht
  rcases ht with rfl | ⟨r, -, rfl⟩ | rfl
  · exact hheader hm
  · exact hblock _ _ hm
  · exact hfooter hm

theorem cstr_generateScript {policy : SecPolicy}
    (h : ∀ r ∈ usedRules policy, r.comment.Terminated) {buf : Text}
    (hret : (secPolicyGenerateScript policy buf).1 = 0) :
    cstr (secPolicyGenerateScript policy buf).2 = scriptText policy := by
  obtain ⟨rest, hrest⟩ := (generateScript_spec h buf).2 hret
  rw [← hrest, List.append_assoc]
  exact cstr_append_nul (nul_not_mem_scriptText policy) rest

section Apply

theorem generateScript_enospc_iff {policy : SecPolicy} {buf : Text} (hbuf : buf ≠ []) :
    (secPolicyGenerateScript policy buf).1 = -enospc ↔
      (secPolicyGenerateScript policy buf).1 ≠ 0 := by
  have hzero : (0 : ℤ) ≠ -enospc := by decide
  rw [secPolicyGenerateScript, if_neg hbuf]
  dsimp only
  split_ifs <;> simp [enospc]

def flushLine : Text := ascii "iptables -F PNET_CHAIN 2>/dev/null"

variable {policy : SecPolicy} {W : Type} (system : Text → W → ℤ × W) (script : CharArray 4096)

theorem secPolicyApply_of_fits (h : ∀ r ∈ usedRules policy, r.comment.Terminated)
    (hfits : (scriptText policy).length < 4096) (w : W) :
    secPolicyApply system script policy w =
      (if (system (scriptText policy) (system flushLine w).2).1 = 0 then 0 else -eio,
        (system (scriptText policy) (system flushLine w).2).2) := by
  obtain ⟨hiff, -⟩ := generateScript_spec h script.bytes
  rw [script.size_eq] at hiff
  have hzero := hiff.mpr hfits
  rw [secPolicyApply]
  dsimp only
  rw [if_neg (by omega), cstr_generateScript h hzero, ← flushLine]
  by_cases hret : (system (scriptText policy) (system flushLine w).2).1 = 0
  · rw [if_neg (not_not.mpr hret), if_pos hret]
  · rw [if_pos hret, if_neg hret]

theorem secPolicyApply_of_not_fits (h : ∀ r ∈ usedRules policy, r.comment.Terminated)
    (hfits : ¬ (scriptText policy).length < 4096) (w : W) :
    secPolicyApply system script policy w = (-enospc, w) := by
  obtain ⟨hiff, -⟩ := generateScript_spec h script.bytes
  rw [script.size_eq] at hiff
  have hret := (generateScript_enospc_iff script.bytes_ne_nil).mpr (mt hiff.mp hfits)
  rw [secPolicyApply]
  dsimp only
  rw [hret, if_pos (by decide)]

end Apply

/-- Every line of `c` after the first is empty or opens a comment of its own. -/
def Harmless (c : Text) : Prop := ∀ l ∈ (c.splitOn lf).tail, l = [] ∨ l.head? = some 35

instance (c : Text) : Decidable (Harmless c) :=
  inferInstanceAs (Decidable (∀ l ∈ (c.splitOn lf).tail, l = [] ∨ l.head? = some 35))

theorem harmless_iff (c : Text) : Harmless c ↔ smuggled c = [] := by
  rw [smuggled, List.filter_eq_nil_iff]
  refine forall₂_congr fun l _ => ?_
  simp only [isExecuted, decide_eq_true_eq, ne_eq]
  tauto

def expectedLines (policy : SecPolicy) : List Text :=
  ascii "set -e" :: (((usedRules policy).filter (·.active)).map ruleCommand) ++ [echoLine policy]

theorem flatMap_commandOf (rules : List SecRule) :
    rules.flatMap commandOf = (rules.filter (·.active)).map ruleCommand := by
  induction rules with
  | nil => rfl
  | cons r rules ih =>
    rw [List.flatMap_cons, ih, commandOf, List.filter_cons]
    split_ifs <;> rfl

theorem ruleLines_length (rule : SecRule) :
    (commandOf rule).length + (smuggled rule.comment.text).length ≤ (ruleLines rule).length := by
  rw [ruleLines, commandOf]
  split_ifs <;> simp only [List.length_append, List.length_singleton, List.length_nil] <;> omega

theorem ruleLines_of_harmless {rule : SecRule} (h : smuggled rule.comment.text = []) :
    ruleLines rule = commandOf rule := by
  simp [ruleLines, commandOf, h]

theorem flatMap_ruleLines_iff (rules : List SecRule) :
    rules.flatMap ruleLines = rules.flatMap commandOf ↔
      ∀ r ∈ rules, smuggled r.comment.text = [] := by
  have hlen (rules : List SecRule) :
      (rules.flatMap commandOf).length + (rules.flatMap fun r => smuggled r.comment.text).length ≤
        (rules.flatMap ruleLines).length := by
    induction rules with
    | nil => simp
    | cons r rules ih =>
      have hr := ruleLines_length r
      simp only [List.flatMap_cons, List.length_append]
      omega
  constructor
  · intro h
    have hl := hlen rules
    rw [h] at hl
    have hnil : rules.flatMap (fun r => smuggled r.comment.text) = [] :=
      List.length_eq_zero_iff.mp (by omega)
    exact List.flatMap_eq_nil_iff.mp hnil
  · intro h
    exact List.flatMap_congr fun r hr => ruleLines_of_harmless (h r hr)

theorem executedLines_eq_expected_iff (policy : SecPolicy) :
    executedLines (scriptText policy) = expectedLines policy ↔
      ∀ r ∈ usedRules policy, Harmless r.comment.text := by
  rw [executedLines_scriptText, expectedLines, ← flatMap_commandOf, List.append_cancel_right_eq,
    List.cons.injEq, flatMap_ruleLines_iff]
  simp only [true_and, harmless_iff]

def uncommented (rule : SecRule) : SecRule := { rule with comment := .zeroed _ }

theorem executedLines_of_uncommented {p q : SecPolicy} (hcount : p.ruleCount = q.ruleCount)
    (hrules : (usedRules p).map uncommented = (usedRules q).map uncommented)
    (hp : ∀ r ∈ usedRules p, Harmless r.comment.text)
    (hq : ∀ r ∈ usedRules q, Harmless r.comment.text) :
    executedLines (scriptText p) = executedLines (scriptText q) := by
  have hcommands (rules : List SecRule) :
      rules.flatMap commandOf = (rules.map uncommented).flatMap commandOf := by
    rw [List.flatMap_map]
    rfl
  rw [(executedLines_eq_expected_iff p).mpr hp, (executedLines_eq_expected_iff q).mpr hq,
    expectedLines, expectedLines, ← flatMap_commandOf, ← flatMap_commandOf, hcommands, hrules,
    ← hcommands, echoLine, echoLine, hcount]

/-- A generated script executes the commands of the active rules and nothing else
exactly when no comment opens a line of its own; and then other comments of this kind
make no difference. -/
theorem script_executes_rules_iff (policy : SecPolicy)
    (h : ∀ r ∈ usedRules policy, r.comment.Terminated) (buf : Text)
    (hret : (secPolicyGenerateScript policy buf).1 = 0) :
    (executedLines (cstr (secPolicyGenerateScript policy buf).2) = expectedLines policy ↔
      ∀ r ∈ usedRules policy, Harmless r.comment.text) ∧
    ∀ policy' buf', (∀ r ∈ usedRules policy', r.comment.Terminated) →
      (secPolicyGenerateScript policy' buf').1 = 0 → policy.ruleCount = policy'.ruleCount →
      (usedRules policy).map uncommented = (usedRules policy').map uncommented →
      (∀ r ∈ usedRules policy, Harmless r.comment.text) →
      (∀ r ∈ usedRules policy', Harmless r.comment.text) →
      executedLines (cstr (secPolicyGenerateScript policy buf).2) =
        executedLines (cstr (secPolicyGenerateScript policy' buf').2) := by
  rw [cstr_generateScript h hret]
  refine ⟨executedLines_eq_expected_iff policy, ?_⟩
  intro policy' buf' h' hret' hcount hrules hharm hharm'
  rw [cstr_generateScript h' hret']
  exact executedLines_of_uncommented hcount hrules hharm hharm'

def onePort (comment : Text) : SecPolicy :=
  (secPolicyAddRule (secPolicyInit .zeroed).2
    { SecRule.zeroed with protocol := 6, dstPort := 102, comment := .ofText 64 comment }).2

theorem script_executes_rules_iff_one_line :
    let lines (comment : Text) :=
      executedLines (cstr (secPolicyGenerateScript (onePort comment) (List.replicate 400 nul)).2)
    lines (ascii "S7 ; reboot") = expectedLines (onePort (ascii "S7 ; reboot")) ∧
      lines (ascii "S7 ; reboot") = lines (ascii "S7\n# plant") := by
  have hlines := script_executes_rules_iff (onePort (ascii "S7 ; reboot")) (by decide)
    (List.replicate 400 nul) (by decide)
  exact ⟨hlines.1.mpr (by decide), hlines.2 (onePort (ascii "S7\n# plant")) _ (by decide)
    (by decide) rfl (by decide) (by decide) (by decide)⟩

theorem comment_is_executed :
    let policy := onePort (ascii "S7\nreboot")
    let r := secPolicyGenerateScript policy (List.replicate 400 nul)
    r.1 = 0 ∧ ascii "reboot" ∈ executedLines (cstr r.2) ∧
      executedLines (cstr r.2) ≠ expectedLines policy := by
  decide

end PnetManager.ScriptLines
