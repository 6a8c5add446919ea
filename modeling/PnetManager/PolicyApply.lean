import PnetManager.FirewallShell

/-!
# Applying policies one after another

`sec_policy_apply` flushes `PNET_CHAIN` and runs a script that appends to the
chains of the rules. What an earlier policy has put into one of these chains
stays, unless the last script flushes it.
-/

namespace PnetManager.PolicyApply
open CText CNumber CStdio SecurityPolicy FirewallScript ScriptLines Iptables RuleMeaning
  ChainTables FirewallShell

set_option maxRecDepth 2000

def pnetChain : Text := ascii "PNET_CHAIN"

variable (portOk : ℕ → Bool) (other : Text → Bool)

def scriptOps (policy : SecPolicy) : Option (List (Op Text Rule)) :=
  linesOps portOk other ((usedRules policy).flatMap ruleLines)

def opsOf (policy : SecPolicy) : List (Op Text Rule) := (scriptOps portOk other policy).getD []

/-- The script fits into the buffer and none of its lines is refused. -/
def Acceptable (policy : SecPolicy) : Prop :=
  (scriptText policy).length < 4096 ∧ (scriptOps portOk other policy).isSome

def applyPolicies (script : CharArray 4096) : List SecPolicy → Firewall → Option Firewall
  | [], t => some t
  | policy :: policies, t =>
    let (ret, t) := secPolicyApply (shell portOk other) script policy t
    if ret = 0 then applyPolicies script policies t else none

theorem lineOps_echoLine (policy : SecPolicy) :
    lineOps portOk other (echoLine policy) = some [] := by
  have hhead : (lineWords (echoLine policy)).head? = some (ascii "echo") := by
    rw [echoLine]
    rw [List.append_assoc]
    exact lineWords_head (show 32 ∉ ascii "echo" by decide)
      (ascii "\"PROFINET security policy applied: " ++ (fmtD policy.ruleCount ++ ascii " rules\""))
  have hne : ascii "echo" ≠ ascii "iptables" := by decide
  simp [lineOps, hhead, hne]

theorem lineOps_flushLine : lineOps portOk other flushLine = some [.flush pnetChain] := by
  have hwords : lineWords flushLine = [ascii "iptables", ascii "-F", pnetChain] := by decide
  rw [lineOps, hwords]
  rfl

theorem shell_flush (t : Firewall) :
    (shell portOk other flushLine t).2 = applyOps [.flush pnetChain] t := by
  have hlines : executedLines flushLine = [flushLine] := by decide
  have hrun : (runLine portOk other flushLine t).2 = applyOps [.flush pnetChain] t := by
    rw [runLine_of_some portOk other (lineOps_flushLine portOk other)]
    split_ifs with hpres
    · rfl
    · refine (applyOps_flush_of_absent ?_).symm
      simpa [Present, Op.chain] using hpres
  rw [shell, hlines, runLines]
  simpa [runLines_nil] using hrun

theorem shell_scriptText (policy : SecPolicy) (t : Firewall) :
    let r := shell portOk other (scriptText policy) t
    (r.1 = 0 ↔ (scriptOps portOk other policy).isSome ∧ Present (opsOf portOk other policy) t) ∧
      (r.1 = 0 → r.2 = applyOps (opsOf portOk other policy) t) := by
  have hset : runLines portOk other false true (executedLines (scriptText policy)) t =
      runLines portOk other true true
        ((usedRules policy).flatMap ruleLines ++ [echoLine policy]) t := by
    rw [executedLines_scriptText, List.cons_append]
    have hline : runLine portOk other (ascii "set -e") t = (true, t) := by
      have hops : lineOps portOk other (ascii "set -e") = some [] := rfl
      rw [runLine_of_some portOk other hops, if_pos (by simp [Present]), applyOps_nil]
    rw [runLines, hline]
    rfl
  obtain ⟨hiff, heff⟩ := runLines_errexit portOk other
    ((usedRules policy).flatMap ruleLines ++ [echoLine policy]) t
  rw [linesOps_snoc portOk other (lineOps_echoLine portOk other policy)] at hiff heff
  change _ ↔ ∃ ops, scriptOps portOk other policy = some ops ∧ _ at hiff
  change ∀ ops, scriptOps portOk other policy = some ops → _ at heff
  simp only [shell, hset, opsOf]
  generalize runLines portOk other true true
    ((usedRules policy).flatMap ruleLines ++ [echoLine policy]) t = r at hiff heff ⊢
  obtain ⟨ok, t'⟩ := r
  cases hops : scriptOps portOk other policy with
  | none =>
    have hok : ok = false := by simpa [hops] using hiff
    simp [hok]
  | some ops =>
    simp only [hops, Option.some.injEq, exists_eq_left'] at hiff heff
    cases ok with
    | false => simpa using hiff
    | true =>
      have hpres := hiff.mp rfl
      simpa [hpres] using heff ops rfl hpres

def allOps (policy : SecPolicy) : List (Op Text Rule) :=
  .flush pnetChain :: opsOf portOk other policy

variable {policy : SecPolicy} (script : CharArray 4096)

/-- An apply succeeds exactly when the policy is acceptable and the chains of its
lines exist, and then it has done what it asks. -/
theorem secPolicyApply_spec (h : ∀ r ∈ usedRules policy, r.comment.Terminated) (t : Firewall) :
    let r := secPolicyApply (shell portOk other) script policy t
    (r.1 = 0 ↔ Acceptable portOk other policy ∧ Present (opsOf portOk other policy) t) ∧
      (r.1 = 0 → r.2 = applyOps (allOps portOk other policy) t) := by
  obtain ⟨hiff, heff⟩ := shell_scriptText portOk other policy (applyOps [.flush pnetChain] t)
  rw [present_applyOps_iff] at hiff
  by_cases hfits : (scriptText policy).length < 4096
  · rw [secPolicyApply_of_fits _ script h hfits, shell_flush, Acceptable, and_iff_right hfits,
      ← hiff]
    split_ifs with hok
    · refine ⟨iff_of_true rfl hok, fun _ => ?_⟩
      rw [heff hok, ← applyOps_append]
      rfl
    · have heio : ¬ -eio = 0 := by decide
      exact ⟨iff_of_false heio hok, fun he => absurd he heio⟩
  · rw [secPolicyApply_of_not_fits _ script h hfits]
    have henospc : ¬ -enospc = 0 := by decide
    exact ⟨iff_of_false henospc fun hacc => hfits hacc.1.1, fun he => absurd he henospc⟩

def Commented (policies : List SecPolicy) : Prop :=
  ∀ p ∈ policies, ∀ r ∈ usedRules p, r.comment.Terminated

theorem applyPolicies_eq_some_iff {policies : List SecPolicy} (h : Commented policies)
    (t t' : Firewall) :
    applyPolicies portOk other script policies t = some t' ↔
      (∀ p ∈ policies, Acceptable portOk other p ∧ Present (opsOf portOk other p) t) ∧
        t' = applyOps (policies.flatMap (allOps portOk other)) t := by
  induction policies generalizing t with
  | nil =>
    rw [applyPolicies, List.flatMap_nil, applyOps_nil]
    simp [eq_comm]
  | cons p policies ih =>
    obtain ⟨hiff, heff⟩ := secPolicyApply_spec portOk other script (h p (by simp)) t
    have hrest := ih (fun q hq => h q (List.mem_cons_of_mem _ hq))
    rw [applyPolicies]
    dsimp only
    split_ifs with hret
    · rw [heff hret, hrest, List.flatMap_cons, applyOps_append, List.forall_mem_cons]
      simp only [present_applyOps_iff, hiff.mp hret, and_self, true_and]
    · rw [List.forall_mem_cons, ← hiff]
      simp [hret]

theorem applyPolicies_of_acceptable {policies : List SecPolicy} (h : Commented policies)
    {t : Firewall}
    (hacc : ∀ p ∈ policies, Acceptable portOk other p ∧ Present (opsOf portOk other p) t) :
    applyPolicies portOk other script policies t =
      some (applyOps (policies.flatMap (allOps portOk other)) t) :=
  (applyPolicies_eq_some_iff portOk other script h t _).mpr ⟨hacc, rfl⟩

theorem flushes_or_untouched_iff (earlier : List SecPolicy) (last : SecPolicy) :
    (∀ c, Flushes (allOps portOk other last) c ∨
      ¬ Touches (earlier.flatMap (allOps portOk other)) c) ↔
    ∀ c, c ≠ pnetChain → Flushes (opsOf portOk other last) c ∨
      ∀ p ∈ earlier, ¬ Touches (opsOf portOk other p) c := by
  refine forall_congr' fun c => ?_
  by_cases hc : c = pnetChain
  · subst hc
    exact iff_of_true (Or.inl (by simp [Flushes, allOps])) fun hne => absurd rfl hne
  · have hne : pnetChain ≠ c := fun he => hc he.symm
    rw [imp_iff_right hc]
    refine or_congr (by simp [Flushes, allOps, hc]) ?_
    constructor
    · intro hnot p hp htouch
      obtain ⟨op, hop, hchain⟩ := htouch
      exact hnot ⟨op, List.mem_flatMap.mpr ⟨p, hp, List.mem_cons_of_mem _ hop⟩, hchain⟩
    · intro hnot htouch
      obtain ⟨op, hop, hchain⟩ := htouch
      obtain ⟨p, hp, hop⟩ := List.mem_flatMap.mp hop
      rcases List.mem_cons.mp hop with rfl | hop
      · exact hne hchain
      · exact hnot p hp ⟨op, hop, hchain⟩

theorem replaces_iff_forgets (earlier : List SecPolicy) (last : SecPolicy)
    (h : Commented (earlier ++ [last]))
    (hok : ∃ t t', applyPolicies portOk other script (earlier ++ [last]) t = some t') :
    (∀ t t', applyPolicies portOk other script (earlier ++ [last]) t = some t' →
      applyPolicies portOk other script [last] t = some t') ↔
    ∀ c, Flushes (allOps portOk other last) c ∨
      ¬ Touches (earlier.flatMap (allOps portOk other)) c := by
  have hlast : Commented [last] := fun p hp => h p (List.mem_append_right _ hp)
  obtain ⟨s, s', hs⟩ := hok
  have hacc := ((applyPolicies_eq_some_iff portOk other script h s s').mp hs).1
  have hmem : last ∈ earlier ++ [last] := by simp
  rw [← replaces_iff
    (P := fun t => ∀ p ∈ earlier ++ [last], Present (opsOf portOk other p) t)
    fun t ht p _ op _ => ht op.chain]
  simp only [applyPolicies_eq_some_iff portOk other script h,
    applyPolicies_eq_some_iff portOk other script hlast, List.flatMap_append,
    List.flatMap_singleton, List.forall_mem_singleton]
  constructor
  · intro hrun t ht
    exact (hrun t _ ⟨fun p hp => ⟨(hacc p hp).1, ht p hp⟩, rfl⟩).2
  · intro hrun t t' happly
    obtain ⟨ht, rfl⟩ := happly
    exact ⟨ht last hmem, hrun t fun p hp => (ht p hp).2⟩

def ruleOp (rule : SecRule) : Op Text Rule :=
  .append (chainMeant rule.chain) ⟨matchOf rule, some (actionMeant rule.action)⟩

theorem lineWords_ruleCommand (rule : SecRule) :
    lineWords (ruleCommand rule) = commandWords rule := by
  have hlast : (commandWords rule).getLast? = some (actionToStr rule.action) := by
    rw [commandWords, optionWords, ← List.append_assoc, List.getLast?_append]
    rfl
  have hne : actionToStr rule.action ≠ ascii "2>/dev/null" :=
    (by decide : ∀ t ∈ actionNames, t ≠ ascii "2>/dev/null") _ (actionToStr_mem _)
  rw [lineWords, ruleCommand_eq_unwords, unwords,
    List.splitOn_intercalate 32 (space_not_mem_commandWords rule) (by simp [commandWords]),
    if_neg (by simpa [hlast] using hne)]

theorem lineOps_ruleCommand (rule : SecRule) :
    lineOps portOk other (ruleCommand rule) =
      if (rule.protocol = 6 ∨ rule.protocol = 17) ∧ portOk rule.dstPort.toNat then
        some [ruleOp rule]
      else none := by
  have hparse : parseWords portOk (commandWords rule) = parseCommand portOk (ruleCommand rule) := by
    rw [ruleCommand_eq_unwords,
      parseCommand_unwords portOk (space_not_mem_commandWords rule) (by simp [commandWords])]
  rw [lineOps, lineWords_ruleCommand, if_pos (by rfl), hparse, parseCommand_rule]
  split_ifs <;> rfl

theorem linesOps_commands {rules : List SecRule}
    (h : (linesOps portOk other (rules.flatMap commandOf)).isSome) :
    linesOps portOk other (rules.flatMap commandOf) =
      some ((rules.filter (·.active)).map ruleOp) := by
  induction rules with
  | nil => rfl
  | cons r rules ih =>
    cases hact : r.active with
    | false =>
      have hcons : (r :: rules).flatMap commandOf = rules.flatMap commandOf := by
        simp [commandOf, hact]
      rw [hcons] at h ⊢
      simpa [hact] using ih h
    | true =>
      have hcons : (r :: rules).flatMap commandOf =
          ruleCommand r :: rules.flatMap commandOf := by
        simp [commandOf, hact]
      rw [hcons, linesOps, lineOps_ruleCommand] at h ⊢
      split_ifs at h ⊢
      · cases hrest : linesOps portOk other (rules.flatMap commandOf) with
        | none => simp [hrest] at h
        | some ops =>
          have hi := ih (by simp [hrest])
          rw [hrest, Option.some.injEq] at hi
          simp [hact, hi]
      · simp at h

theorem opsOf_of_harmless (hacc : Acceptable portOk other policy)
    (h : ∀ r ∈ usedRules policy, Harmless r.comment.text) :
    opsOf portOk other policy = ((usedRules policy).filter (·.active)).map ruleOp := by
  have hlines : (usedRules policy).flatMap ruleLines = (usedRules policy).flatMap commandOf :=
    (flatMap_ruleLines_iff _).mpr fun r hr => (harmless_iff _).mp (h r hr)
  have hsome := hacc.2
  rw [scriptOps, hlines] at hsome
  rw [opsOf, scriptOps, hlines, linesOps_commands portOk other hsome, Option.getD_some]

theorem chainMeant_ne_pnetChain (c : SecChain) : chainMeant c ≠ pnetChain := by
  rw [← chainToStr_eq]
  exact (by decide : ∀ t ∈ chainNames, t ≠ pnetChain) _ (chainToStr_mem c)

theorem replaces_iff_no_active (earlier : List SecPolicy) (last : SecPolicy)
    (h : Commented (earlier ++ [last]))
    (hharm : ∀ p ∈ earlier ++ [last], ∀ r ∈ usedRules p, Harmless r.comment.text)
    (hok : ∃ t t', applyPolicies portOk other script (earlier ++ [last]) t = some t') :
    (∀ t t', applyPolicies portOk other script (earlier ++ [last]) t = some t' →
      applyPolicies portOk other script [last] t = some t') ↔
    ∀ p ∈ earlier, ∀ r ∈ usedRules p, r.active = false := by
  rw [replaces_iff_forgets portOk other script earlier last h hok,
    flushes_or_untouched_iff portOk other earlier last]
  obtain ⟨s, s', hs⟩ := hok
  have hacc := ((applyPolicies_eq_some_iff portOk other script h s s').mp hs).1
  have hops (p : SecPolicy) (hp : p ∈ earlier ++ [last]) :
      opsOf portOk other p = ((usedRules p).filter (·.active)).map ruleOp :=
    opsOf_of_harmless portOk other (hacc p hp).1 (hharm p hp)
  constructor
  · intro hcond p hp r hr
    by_contra hact
    have hmem : ruleOp r ∈ opsOf portOk other p := by
      rw [hops p (List.mem_append_left _ hp)]
      exact List.mem_map_of_mem (List.mem_filter.mpr ⟨hr, by simpa using hact⟩)
    rcases hcond (chainMeant r.chain) (chainMeant_ne_pnetChain _) with hflush | hnot
    · rw [Flushes, hops last (by simp)] at hflush
      obtain ⟨q, -, hq⟩ := List.mem_map.mp hflush
      exact absurd hq (by simp [ruleOp])
    · exact hnot p hp ⟨ruleOp r, hmem, rfl⟩
  · intro hinactive c _
    refine Or.inr fun p hp htouch => ?_
    obtain ⟨op, hop, -⟩ := htouch
    rw [hops p (List.mem_append_left _ hp)] at hop
    obtain ⟨r, hr, -⟩ := List.mem_map.mp hop
    obtain ⟨hr, hact⟩ := List.mem_filter.mp hr
    simp [hinactive p hp r hr] at hact

/-- Of policies that are applied one after another the last one replaces the others,
on every firewall, exactly when its script flushes every chain but `PNET_CHAIN` that
the script of another one touches. With comments of one line each that is when no other
policy has an active rule. -/
theorem apply_replaces_iff (earlier : List SecPolicy) (last : SecPolicy)
    (h : Commented (earlier ++ [last]))
    (hok : ∃ t t', applyPolicies portOk other script (earlier ++ [last]) t = some t') :
    ((∀ t t', applyPolicies portOk other script (earlier ++ [last]) t = some t' →
        applyPolicies portOk other script [last] t = some t') ↔
      ∀ c, c ≠ pnetChain → Flushes (opsOf portOk other last) c ∨
        ∀ p ∈ earlier, ¬ Touches (opsOf portOk other p) c) ∧
    ((∀ p ∈ earlier ++ [last], ∀ r ∈ usedRules p, Harmless r.comment.text) →
      ((∀ t t', applyPolicies portOk other script (earlier ++ [last]) t = some t' →
          applyPolicies portOk other script [last] t = some t') ↔
        ∀ p ∈ earlier, ∀ r ∈ usedRules p, r.active = false)) :=
  ⟨(replaces_iff_forgets portOk other script earlier last h hok).trans
    (flushes_or_untouched_iff portOk other earlier last),
    fun hharm => replaces_iff_no_active portOk other script earlier last h hharm hok⟩

def builtinChains : Firewall := fun c =>
  if c ∈ [ascii "INPUT", ascii "OUTPUT", ascii "FORWARD"] then some [] else none

def switchedOff : SecPolicy :=
  let policy := onePort (ascii "S7")
  { policy with rules := policy.rules.set 0 { policy.rules[0] with active := false } }

theorem apply_replaces_iff_switched_off :
    (usedRules switchedOff).length = 1 ∧
      applyPolicies isPort (fun _ => false) (.zeroed 4096) ([switchedOff] ++ [onePort (ascii "S7")])
          builtinChains =
        applyPolicies isPort (fun _ => false) (.zeroed 4096) [onePort (ascii "S7")]
          builtinChains := by
  have hcomment : Commented ([switchedOff] ++ [onePort (ascii "S7")]) := by
    rw [Commented]
    decide
  have hacc : ∀ p ∈ [switchedOff] ++ [onePort (ascii "S7")],
      Acceptable isPort (fun _ => false) p ∧
        Present (opsOf isPort (fun _ => false) p) builtinChains := by
    simp only [Acceptable]
    decide
  have hops : opsOf isPort (fun _ => false) switchedOff = [] := by decide
  have hboth := applyPolicies_of_acceptable isPort (fun _ => false) (.zeroed 4096) hcomment hacc
  have hrun := (apply_replaces_iff isPort (fun _ => false) (.zeroed 4096) [switchedOff]
    (onePort (ascii "S7")) hcomment ⟨_, _, hboth⟩).1.mpr (by simp [hops, Touches])
  refine ⟨by decide, ?_⟩
  rw [hboth, hrun _ _ hboth]

theorem apply_twice_accumulates :
    let policy := onePort (ascii "S7")
    let rule : Rule := ⟨⟨none, some 6, some 102⟩, some (ascii "ACCEPT")⟩
    let apply := fun ps => applyPolicies isPort (fun _ => false) (.zeroed 4096) ps builtinChains
    (apply [policy]).map (· (ascii "INPUT")) = some (some [rule]) ∧
      (apply [policy, policy]).map (· (ascii "INPUT")) = some (some [rule, rule]) ∧
      ¬ ∀ t', apply [policy, policy] = some t' → apply [policy] = some t' := by
  intro policy rule apply
  have hacc (ps : List SecPolicy) (hps : ∀ p ∈ ps, p = policy) :
      ∀ p ∈ ps, Acceptable isPort (fun _ => false) p ∧
        Present (opsOf isPort (fun _ => false) p) builtinChains := by
    intro p hp
    rw [hps p hp, Acceptable]
    decide
  have hcomment (ps : List SecPolicy) (hps : ∀ p ∈ ps, p = policy) : Commented ps := by
    intro p hp
    rw [hps p hp]
    decide
  have hrun (ps : List SecPolicy) (hps : ∀ p ∈ ps, p = policy) :
      apply ps =
        some (applyOps (ps.flatMap (allOps isPort fun _ => false)) builtinChains) :=
    applyPolicies_of_acceptable isPort (fun _ => false) (.zeroed 4096) (hcomment ps hps)
      (hacc ps hps)
  have honce : (apply [policy]).map (· (ascii "INPUT")) = some (some [rule]) := by
    rw [hrun [policy] (by simp)]
    decide
  have htwice : (apply [policy, policy]).map (· (ascii "INPUT")) = some (some [rule, rule]) := by
    rw [hrun [policy, policy] (by simp)]
    decide
  refine ⟨honce, htwice, fun hreplaces => ?_⟩
  obtain ⟨t', ht', hinput⟩ := Option.map_eq_some_iff.mp htwice
  rw [hreplaces t' ht', Option.map_some, hinput] at honce
  simp at honce

end PnetManager.PolicyApply
