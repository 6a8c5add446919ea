import PnetManager.FirewallScript

/-!
# The audit of a policy

`sec_policy_audit` searches the table for a rule that denies everything else on
INPUT and for a rule that lets IPSec in. It takes inactive rules for rules.
-/

namespace PnetManager.SecurityAudit
open CText CNumber CStdio SecurityPolicy FirewallScript

set_option maxRecDepth 2000

def isDefaultDeny (r : SecRule) : Bool :=
  r.chain = .input ∧ r.protocol = 0 ∧ r.dstPort = 0 ∧ r.srcIp = 0 ∧
    (r.action = .drop ∨ r.action = .reject)

def isIpsec (r : SecRule) : Bool := r.protocol = 17 ∧ (r.dstPort = 500 ∨ r.dstPort = 4500)

def hasDefaultDeny (policy : SecPolicy) : Bool := (usedRules policy).any isDefaultDeny

def hasIpsecRules (policy : SecPolicy) : Bool := (usedRules policy).any isIpsec

def inactiveCount (policy : SecPolicy) : ℕ := (usedRules policy).countP (!·.active)

def auditHeader (policy : SecPolicy) : Text :=
  ascii "=== PROFINET Security Policy Audit Report ===\nTotal rules: " ++ fmtD policy.ruleCount ++
    ascii " / " ++ fmtD maxFwRules ++ ascii "\nPolicy enabled: " ++
    (if policy.enabled then ascii "yes" else ascii "no") ++ ascii "\n\n"

def disabledWarning : Text := ascii "[WARN] Policy is disabled - no rules are enforced"
def noRulesWarning : Text := ascii "[WARN] No firewall rules defined"
def noDefaultDenyWarning : Text := ascii "[WARN] No default-deny rule on INPUT chain"
def noIpsecWarning : Text :=
  ascii "[WARN] No IPSec (UDP 500/4500) rules found - consider enabling IPSec for encrypted traffic"

def inactiveNote (policy : SecPolicy) : Text :=
  ascii "[INFO] " ++ fmtD (inactiveCount policy) ++ ascii " inactive rule(s) present"

def fullWarning (policy : SecPolicy) : Text :=
  ascii "[WARN] Rule table is " ++ fmtD (policy.ruleCount * 100 / maxFwRules) ++ ascii "% full (" ++
    fmtD policy.ruleCount ++ ascii "/" ++ fmtD maxFwRules ++
    ascii ") - consider consolidating rules"

/-- The checks in their order: whether a check has something to say, what it says,
and whether that counts as a warning. -/
def auditChecks (policy : SecPolicy) : List (Bool × Text × Bool) :=
  [(!policy.enabled, disabledWarning, true),
   (policy.ruleCount = 0, noRulesWarning, true),
   (!hasDefaultDeny policy, noDefaultDenyWarning, true),
   (!hasIpsecRules policy, noIpsecWarning, true),
   (0 < inactiveCount policy, inactiveNote policy, false),
   ((maxFwRules * 3 / 4 : ℤ) < policy.ruleCount, fullWarning policy, true)]

def auditCheck (a : Out × ℤ) (check : Bool × Text × Bool) : Out × ℤ :=
  if check.1 then
    (a.1.print (check.2.1 ++ [lf]), if check.2.2 then a.2 + 1 else a.2)
  else a

def auditSummary (warnings : ℤ) : Text :=
  ascii "\nAudit complete: " ++ fmtD warnings ++ ascii " warning(s)\n"

/-- `sec_policy_audit`: the return value and the report. -/
def secPolicyAudit (policy : SecPolicy) (report : Text) : ℤ × Text :=
  if report = [] then (-einval, report)
  else
    let out := (Out.start report).printf (auditHeader policy)
    if out.failed then (-enospc, out.buf)
    else
      let (out, warnings) := (auditChecks policy).foldl auditCheck (out, 0)
      let out := out.printf (auditSummary warnings)
      (if out.failed then -enospc else warnings, out.buf)

def notes (checks : List (Bool × Text × Bool)) : List Text :=
  (checks.filter (·.1)).map (·.2.1)

def warningCount (checks : List (Bool × Text × Bool)) : ℤ :=
  (checks.filter fun c => c.1 && c.2.2).length

def auditTexts (policy : SecPolicy) : List Text :=
  auditHeader policy :: ((notes (auditChecks policy)).map (· ++ [lf])) ++
    [auditSummary (warningCount (auditChecks policy))]

def auditText (policy : SecPolicy) : Text := (auditTexts policy).flatten

theorem foldl_auditCheck {out : Out} {t : Text} (h : out.Holds t) (n : ℤ)
    (checks : List (Bool × Text × Bool))
    (hfits : t.length + ((notes checks).map (· ++ [lf])).flatten.length < out.buf.length) :
    checks.foldl auditCheck (out, n) =
      (((notes checks).map (· ++ [lf])).foldl Out.printf out, n + warningCount checks) := by
  induction checks generalizing out t n with
  | nil => simp [notes, warningCount]
  | cons c checks ih =>
    obtain ⟨given, text, counted⟩ := c
    rw [List.foldl_cons, auditCheck]
    cases given with
    | false => simpa [notes, warningCount] using ih h n (by simpa [notes] using hfits)
    | true =>
      have hnotes : notes ((true, text, counted) :: checks) = text :: notes checks := by
        simp [notes]
      rw [hnotes, List.map_cons, List.flatten_cons, List.length_append] at hfits
      obtain ⟨hlen, hcase⟩ := h.printf (text ++ [lf])
      obtain ⟨-, hholds, -⟩ := hcase.resolve_left fun hfull => by omega
      have hi := ih hholds (if counted then n + 1 else n) (by
        rw [hlen, List.length_append]
        omega)
      dsimp only
      rw [if_pos rfl, h.print (text ++ [lf]) (by omega), hi, hnotes, List.map_cons,
        List.foldl_cons]
      cases counted with
      | false => simp [warningCount]
      | true =>
        simp only [if_true, warningCount, List.filter_cons, Bool.and_self, List.length_cons]
        refine Prod.ext rfl ?_
        push_cast
        ring

theorem secPolicyAudit_spec {policy : SecPolicy} {report : Text}
    (hlarge : (auditText policy).length < report.length) :
    (secPolicyAudit policy report).1 = warningCount (auditChecks policy) ∧
      auditText policy ++ [nul] <+: (secPolicyAudit policy report).2 := by
  have hne : report ≠ [] := fun hnil => by simp [hnil] at hlarge
  have hall := (Out.start_holds report).foldl_printf (auditTexts policy) (by simp [auditTexts])
  obtain ⟨hfits, hbuf⟩ := hall
  simp only [List.length_nil, Nat.zero_add, List.nil_append] at hfits hbuf
  have hlen : (auditText policy).length = (auditHeader policy).length +
      (((notes (auditChecks policy)).map (· ++ [lf])).flatten.length +
        (auditSummary (warningCount (auditChecks policy))).length) := by
    simp [auditText, auditTexts]
  obtain ⟨hkept, hcase⟩ := (Out.start_holds report).printf (auditHeader policy)
  simp only [List.length_nil, Nat.zero_add, List.nil_append] at hkept hcase
  obtain ⟨-, hheader, -⟩ := hcase.resolve_left fun hfull => by
    change report.length ≤ _ ∧ _ at hfull
    omega
  have hchecks := foldl_auditCheck hheader 0 (auditChecks policy) (by
    rw [hkept]
    change _ < report.length
    omega)
  have hout : (((notes (auditChecks policy)).map (· ++ [lf])).foldl Out.printf
      ((Out.start report).printf (auditHeader policy))).printf
        (auditSummary (warningCount (auditChecks policy))) =
      (auditTexts policy).foldl Out.printf (Out.start report) := by
    rw [auditTexts, List.cons_append, List.foldl_cons, List.foldl_append]
    rfl
  have hok := hfits.mpr hlarge
  rw [secPolicyAudit, if_neg hne]
  dsimp only
  rw [if_neg (by simp [hheader.failed_eq]), hchecks]
  dsimp only
  rw [zero_add, hout, if_neg (by simp [hok])]
  exact ⟨rfl, hbuf hok⟩

def reportLines (policy : SecPolicy) (report : Text) : List Text :=
  (cstr (secPolicyAudit policy report).2).splitOn lf

theorem mem_lines_append (l s t : Text) :
    l ∈ (s ++ lf :: t).splitOn lf ↔ l ∈ s.splitOn lf ∨ l ∈ t.splitOn lf := by
  rw [List.splitOn_append_cons_self, List.mem_append]

theorem mem_lines_line {l s : Text} (h : lf ∉ s) : l ∈ s.splitOn lf ↔ l = s := by
  rw [List.splitOn_eq_singleton h, List.mem_singleton]

theorem mem_lines_notes {l : Text} {ts : List Text} (h : ∀ t ∈ ts, lf ∉ t) (rest : Text) :
    l ∈ ((ts.map (· ++ [lf])).flatten ++ rest).splitOn lf ↔ l ∈ ts ∨ l ∈ rest.splitOn lf := by
  induction ts with
  | nil => simp
  | cons t ts ih =>
    have hi := ih fun u hu => h u (List.mem_cons_of_mem _ hu)
    simp only [List.map_cons, List.flatten_cons, List.append_assoc, List.cons_append,
      List.nil_append]
    rw [mem_lines_append, mem_lines_line (h t (by simp)), hi, List.mem_cons, or_assoc]

theorem oneLine_notes (policy : SecPolicy) : ∀ t ∈ notes (auditChecks policy), OneLine t := by
  have h1 : OneLine disabledWarning := by decide
  have h2 : OneLine noRulesWarning := by decide
  have h3 : OneLine noDefaultDenyWarning := by decide
  have h4 : OneLine noIpsecWarning := by decide
  have h5 : OneLine (inactiveNote policy) :=
    (OneLine.append (by decide) (oneLine_fmtD _)).append (by decide)
  have h6 : OneLine (fullWarning policy) :=
    ((((((OneLine.append (by decide) (oneLine_fmtD _)).append (by decide)).append
      (oneLine_fmtD _)).append (by decide)).append (oneLine_fmtD _)).append (by decide))
  intro t ht
  obtain ⟨c, hc, rfl⟩ := List.mem_map.mp ht
  have hmem := List.mem_of_mem_filter hc
  simp only [auditChecks, List.mem_cons, List.not_mem_nil, or_false] at hmem
  rcases hmem with rfl | rfl | rfl | rfl | rfl | rfl
  · exact h1
  · exact h2
  · exact h3
  · exact h4
  · exact h5
  · exact h6

def titleLine : Text := ascii "=== PROFINET Security Policy Audit Report ==="

def totalLine (policy : SecPolicy) : Text :=
  ascii "Total rules: " ++ fmtD policy.ruleCount ++ ascii " / " ++ fmtD maxFwRules

def enabledLine (policy : SecPolicy) : Text :=
  ascii "Policy enabled: " ++ if policy.enabled then ascii "yes" else ascii "no"

def completeLine (warnings : ℤ) : Text :=
  ascii "Audit complete: " ++ fmtD warnings ++ ascii " warning(s)"

theorem auditText_lines (policy : SecPolicy) :
    auditText policy =
      titleLine ++ lf :: (totalLine policy ++ lf :: (enabledLine policy ++ lf :: ([] ++ lf ::
        (((notes (auditChecks policy)).map (· ++ [lf])).flatten ++ ([] ++ lf ::
          (completeLine (warningCount (auditChecks policy)) ++ lf :: [])))))) := by
  have e1 : ascii "=== PROFINET Security Policy Audit Report ===\nTotal rules: " =
      titleLine ++ lf :: ascii "Total rules: " := by
    decide
  have e2 : ascii "\nPolicy enabled: " = lf :: ascii "Policy enabled: " := by decide
  have e3 : ascii "\n\n" = [lf, lf] := by decide
  have e4 : ascii "\nAudit complete: " = lf :: ascii "Audit complete: " := by decide
  have e5 : ascii " warning(s)\n" = ascii " warning(s)" ++ [lf] := by decide
  simp only [auditText, auditTexts, auditHeader, auditSummary, totalLine, enabledLine, completeLine,
    e1, e2, e3, e4, e5, List.append_assoc, List.flatten_append, List.cons_append, List.nil_append,
    List.flatten_cons, List.flatten_nil, List.append_nil]

structure FrameLine (t : Text) : Prop where
  oneLine : OneLine t
  no_bracket : t.head? ≠ some 91

theorem frameLine_append {s t : Text} (hs : FrameLine s) (hne : s ≠ []) (ht : OneLine t) :
    FrameLine (s ++ t) where
  oneLine := hs.oneLine.append ht
  no_bracket := by
    rw [List.head?_append_of_ne_nil _ hne]
    exact hs.no_bracket

theorem frameLine_titleLine : FrameLine titleLine := ⟨by decide, by decide⟩

theorem frameLine_totalLine (policy : SecPolicy) : FrameLine (totalLine policy) := by
  rw [totalLine, List.append_assoc, List.append_assoc]
  exact frameLine_append ⟨by decide, by decide⟩ (by decide)
    ((oneLine_fmtD _).append (OneLine.append (by decide) (oneLine_fmtD _)))

theorem frameLine_enabledLine (policy : SecPolicy) : FrameLine (enabledLine policy) := by
  have henabled : OneLine (if policy.enabled then ascii "yes" else ascii "no") := by
    split_ifs <;> decide
  exact frameLine_append ⟨by decide, by decide⟩ (by decide) henabled

theorem frameLine_completeLine (warnings : ℤ) : FrameLine (completeLine warnings) := by
  rw [completeLine, List.append_assoc]
  exact frameLine_append ⟨by decide, by decide⟩ (by decide)
    ((oneLine_fmtD _).append (by decide))

theorem frameLine_nil : FrameLine [] := ⟨by decide, by simp⟩

theorem mem_auditText_iff {policy : SecPolicy} {l : Text} (hl : l.head? = some 91) :
    l ∈ (auditText policy).splitOn lf ↔ l ∈ notes (auditChecks policy) := by
  have hne {t : Text} (ht : FrameLine t) : l ≠ t := fun he => ht.no_bracket (he ▸ hl)
  have hline {t : Text} (ht : FrameLine t) (rest : Text) :
      l ∈ (t ++ lf :: rest).splitOn lf ↔ l ∈ rest.splitOn lf := by
    rw [mem_lines_append, mem_lines_line ht.oneLine.no_lf]
    exact or_iff_right (hne ht)
  rw [auditText_lines, hline frameLine_titleLine, hline (frameLine_totalLine policy),
    hline (frameLine_enabledLine policy), hline frameLine_nil,
    mem_lines_notes fun t ht => (oneLine_notes policy t ht).no_lf, hline frameLine_nil,
    hline (frameLine_completeLine _), mem_lines_line (by simp)]
  exact or_iff_left (hne frameLine_nil)

theorem nul_not_mem_auditText (policy : SecPolicy) : nul ∉ auditText policy := by
  have hlf : nul ≠ lf := by decide
  have hnotes : nul ∉ ((notes (auditChecks policy)).map (· ++ [lf])).flatten := by
    intro hmem
    obtain ⟨t, ht, hm⟩ := List.mem_flatten.mp hmem
    obtain ⟨note, hnote, rfl⟩ := List.mem_map.mp ht
    simp [(oneLine_notes policy note hnote).no_nul, hlf] at hm
  rw [auditText_lines]
  simp only [List.mem_append, List.mem_cons, List.not_mem_nil, hlf, hnotes,
    frameLine_titleLine.oneLine.no_nul, (frameLine_totalLine policy).oneLine.no_nul,
    (frameLine_enabledLine policy).oneLine.no_nul, (frameLine_completeLine _).oneLine.no_nul,
    or_self, not_false_iff]

theorem inactiveNote_ne {l : Text} (policy : SecPolicy) (hl : l[1]? = some 87) :
    l ≠ inactiveNote policy := by
  intro he
  rw [he, inactiveNote, List.append_assoc] at hl
  exact absurd hl (by rw [List.getElem?_append_left (by decide)]; decide)

theorem fullWarning_ne {l : Text} (policy : SecPolicy) (hl : l[7]? = some 78) :
    l ≠ fullWarning policy := by
  intro he
  simp only [he, fullWarning, List.append_assoc] at hl
  exact absurd hl (by rw [List.getElem?_append_left (by decide)]; decide)

variable {policy : SecPolicy} {report : Text}

theorem mem_reportLines_iff (hlarge : (auditText policy).length < report.length) {l : Text}
    (hl : l.head? = some 91) :
    l ∈ reportLines policy report ↔ l ∈ notes (auditChecks policy) := by
  obtain ⟨rest, hrest⟩ := (secPolicyAudit_spec hlarge).2
  rw [reportLines, ← hrest, List.append_assoc, List.singleton_append,
    cstr_append_nul (nul_not_mem_auditText policy), mem_auditText_iff hl]

theorem mem_notes_iff {checks : List (Bool × Text × Bool)} {l : Text} :
    l ∈ notes checks ↔ ∃ c ∈ checks, c.1 = true ∧ c.2.1 = l := by
  simp [notes, and_assoc]

theorem noDefaultDeny_reported_iff (hlarge : (auditText policy).length < report.length) :
    noDefaultDenyWarning ∈ reportLines policy report ↔
      ¬ ∃ r ∈ usedRules policy, isDefaultDeny r = true := by
  have h1 : disabledWarning ≠ noDefaultDenyWarning := by decide
  have h2 : noRulesWarning ≠ noDefaultDenyWarning := by decide
  have h4 : noIpsecWarning ≠ noDefaultDenyWarning := by decide
  have h5 := (inactiveNote_ne (l := noDefaultDenyWarning) policy (by decide)).symm
  have h6 := (fullWarning_ne (l := noDefaultDenyWarning) policy (by decide)).symm
  rw [mem_reportLines_iff hlarge (by decide), mem_notes_iff]
  simp [auditChecks, h1, h2, h4, h5, h6, hasDefaultDeny]

theorem noIpsec_reported_iff (hlarge : (auditText policy).length < report.length) :
    noIpsecWarning ∈ reportLines policy report ↔
      ¬ ∃ r ∈ usedRules policy, isIpsec r = true := by
  have h1 : disabledWarning ≠ noIpsecWarning := by decide
  have h2 : noRulesWarning ≠ noIpsecWarning := by decide
  have h3 : noDefaultDenyWarning ≠ noIpsecWarning := by decide
  have h5 := (inactiveNote_ne (l := noIpsecWarning) policy (by decide)).symm
  have h6 := (fullWarning_ne (l := noIpsecWarning) policy (by decide)).symm
  rw [mem_reportLines_iff hlarge (by decide), mem_notes_iff]
  simp [auditChecks, h1, h2, h3, h5, h6, hasIpsecRules]

theorem search_agrees_iff (rules : List SecRule) (p : SecRule → Bool) :
    ((¬ ∃ r ∈ rules, p r = true) ↔ ¬ ∃ r ∈ rules, r.active = true ∧ p r = true) ↔
      ((∃ r ∈ rules, p r = true) → ∃ r ∈ rules, r.active = true ∧ p r = true) := by
  have hactive : (∃ r ∈ rules, r.active = true ∧ p r = true) → ∃ r ∈ rules, p r = true :=
    fun ⟨r, hr, _, hp⟩ => ⟨r, hr, hp⟩
  rw [not_iff_not]
  exact ⟨Iff.mp, fun h => ⟨h, hactive⟩⟩

/-- The two verdicts are about enforced rules exactly when no inactive rule passes
for one that denies everything else, or lets IPSec in, in the place of an active
one. -/
theorem audit_judges_enforced_iff (policy : SecPolicy) (report : Text)
    (hlarge : (auditText policy).length < report.length) :
    ((noDefaultDenyWarning ∈ reportLines policy report ↔
        ¬ ∃ r ∈ usedRules policy, r.active = true ∧ isDefaultDeny r = true) ∧
      (noIpsecWarning ∈ reportLines policy report ↔
        ¬ ∃ r ∈ usedRules policy, r.active = true ∧ isIpsec r = true)) ↔
    ((∃ r ∈ usedRules policy, isDefaultDeny r = true) →
        ∃ r ∈ usedRules policy, r.active = true ∧ isDefaultDeny r = true) ∧
      ((∃ r ∈ usedRules policy, isIpsec r = true) →
        ∃ r ∈ usedRules policy, r.active = true ∧ isIpsec r = true) := by
  rw [noDefaultDeny_reported_iff hlarge, noIpsec_reported_iff hlarge, search_agrees_iff,
    search_agrees_iff]

theorem audit_judges_enforced_iff_active :
    let deny := { SecRule.zeroed with action := .drop, active := true }
    let policy : SecPolicy := ⟨Vector.replicate 64 deny, 1, true⟩
    noDefaultDenyWarning ∈ reportLines policy (List.replicate 1024 nul) ↔
      ¬ ∃ r ∈ usedRules policy, r.active = true ∧ isDefaultDeny r = true := by
  intro deny policy
  have hlarge : (auditText policy).length < (List.replicate 1024 nul).length := by
    rw [List.length_replicate]
    decide
  exact ((audit_judges_enforced_iff policy (List.replicate 1024 nul) hlarge).mpr (by decide)).1

theorem inactive_deny_silences_warning :
    let deny := { SecRule.zeroed with action := .drop, active := false }
    let policy : SecPolicy := ⟨Vector.replicate 64 deny, 1, true⟩
    noDefaultDenyWarning ∉ reportLines policy (List.replicate 1024 nul) ∧
      ¬ ∃ r ∈ usedRules policy, r.active = true ∧ isDefaultDeny r = true := by
  intro deny policy
  have hlarge : (auditText policy).length < (List.replicate 1024 nul).length := by
    rw [List.length_replicate]
    decide
  refine ⟨?_, by decide⟩
  rw [noDefaultDeny_reported_iff hlarge]
  decide

end PnetManager.SecurityAudit
