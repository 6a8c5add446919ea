import PnetManager.FirstMatch
import PnetManager.PolicyApply
import PnetManager.SecurityAudit

/-!
# What becomes of a packet

The chains of the firewall as the packet filter reads them, from the top. A policy puts
its rules at the bottom of INPUT, OUTPUT and FORWARD, so it never has a say in a packet
that something there decides already, be it a policy of the day before.
-/

namespace PnetManager.PacketVerdicts
open CText CStdio SecurityPolicy FirewallScript ScriptLines SecurityAudit Iptables RuleMeaning
  ChainTables FirewallShell PolicyApply FirstMatch

set_option maxRecDepth 2000

instance (m : Match) (p : Packet) : Decidable (m.Accepts p) :=
  inferInstanceAs (Decidable ((∀ s ∈ m.source, p.src &&& s.2 = s.1 &&& s.2) ∧
    (∀ q ∈ m.protocol, p.protocol = q) ∧ ∀ n ∈ m.dport, p.dport.map UInt16.toNat = some n))

instance (rule : SecRule) (p : Packet) : Decidable (RuleMatches rule p) :=
  inferInstanceAs (Decidable (_ ∧ _ ∧ _))

def ruleOutcome (jump : Text → Outcome Text) (p : Packet) (r : Rule) : Outcome Text :=
  if r.selector.Accepts p then
    match r.target with
    | none => .passed
    | some target =>
      if actionNames.contains target then .decided target
      else if target = ascii "RETURN" then .returned
      else match jump target with
        | .decided v => .decided v
        | _ => .passed
  else .passed

def userJump (jump : Text → Outcome Text) (d : Text) : Outcome Text :=
  if chainNames.contains d then .passed else jump d

/-- A packet at a chain, with less than `depth` jumps inside one another. -/
def traverse (t : Firewall) (p : Packet) : ℕ → Text → Outcome Text
  | 0, _ => .passed
  | depth + 1, c =>
    match t c with
    | none => .passed
    | some rules =>
      walk (ruleOutcome (userJump fun d => traverse t p depth d) p) rules

def activeRules (policies : List SecPolicy) : List SecRule :=
  policies.flatMap fun policy => (usedRules policy).filter (·.active)

/-- What the rules of a table are meant to do with a packet on a chain, the first
one that matches deciding. -/
def meant (c : Text) (p : Packet) (rules : List SecRule) : Outcome Text :=
  walk (fun r => if chainMeant r.chain = c ∧ RuleMatches r p then .decided (actionMeant r.action)
    else .passed) rules

section Chains
variable {C R : Type*} [DecidableEq C]

def appended (c : C) : Op C R → Option R
  | .append d r => if d = c then some r else none
  | .flush _ => none

theorem content_of_no_flush {ops : List (Op C R)} {c : C} (h : ¬ Flushes ops c) (l : List R) :
    content c ops l = l ++ ops.filterMap (appended c) := by
  induction ops generalizing l with
  | nil => simp [content]
  | cons op ops ih =>
    have hops : ¬ Flushes ops c := fun hm => h (List.mem_cons_of_mem _ hm)
    rw [content_cons]
    cases op with
    | append d r =>
      by_cases hd : d = c
      · simp [ih hops, Op.on, appended, hd]
      · simp [ih hops, Op.on, appended, hd]
    | flush d =>
      have hd : d ≠ c := fun he => h (he ▸ List.mem_cons_self)
      simp [ih hops, Op.on, appended, hd, List.filterMap_cons]

end Chains

variable (portOk : ℕ → Bool) (other : Text → Bool)

def AppendsActive (policy : SecPolicy) : Prop :=
  opsOf portOk other policy = ((usedRules policy).filter (·.active)).map ruleOp

variable {portOk other} {policies : List SecPolicy} {policy : SecPolicy} {c : Text}

theorem chainMeant_mem (chain : SecChain) : chainMeant chain ∈ chainNames := by
  rw [← chainToStr_eq]
  exact chainToStr_mem chain

theorem pnetChain_not_builtin : pnetChain ∉ chainNames := by decide

theorem AppendsActive.not_flushes (h : AppendsActive portOk other policy) (c : Text) :
    ¬ Flushes (opsOf portOk other policy) c := by
  intro hflush
  rw [Flushes, h] at hflush
  obtain ⟨r, -, hr⟩ := List.mem_map.mp hflush
  exact absurd hr (by simp [ruleOp])

theorem AppendsActive.not_touches (h : AppendsActive portOk other policy) (hc : c ∉ chainNames) :
    ¬ Touches (opsOf portOk other policy) c := by
  intro htouch
  obtain ⟨op, hop, hchain⟩ := htouch
  rw [h] at hop
  obtain ⟨r, -, rfl⟩ := List.mem_map.mp hop
  exact hc (hchain ▸ chainMeant_mem r.chain)

def ruleOn (c : Text) (r : SecRule) : Option Rule :=
  if chainMeant r.chain = c then some ⟨matchOf r, some (actionMeant r.action)⟩ else none

theorem filterMap_allOps (h : ∀ policy ∈ policies, AppendsActive portOk other policy) (c : Text) :
    (policies.flatMap (allOps portOk other)).filterMap (appended c) =
      (activeRules policies).filterMap (ruleOn c) := by
  induction policies with
  | nil => rfl
  | cons policy policies ih =>
    have hrest := ih fun q hq => h q (List.mem_cons_of_mem _ hq)
    have hops := h policy List.mem_cons_self
    rw [AppendsActive] at hops
    rw [List.flatMap_cons, List.filterMap_append, hrest, allOps, hops, activeRules, activeRules,
      List.flatMap_cons, List.filterMap_append]
    congr 1
    simp only [List.filterMap_cons, appended, List.filterMap_map]
    rfl

theorem content_builtin (h : ∀ policy ∈ policies, AppendsActive portOk other policy)
    (hc : c ∈ chainNames) (l : List Rule) :
    content c (policies.flatMap (allOps portOk other)) l =
      l ++ (activeRules policies).filterMap (ruleOn c) := by
  rw [content_of_no_flush, filterMap_allOps h]
  intro hflush
  obtain ⟨policy, hpolicy, hop⟩ := List.mem_flatMap.mp hflush
  rcases List.mem_cons.mp hop with hpnet | hop
  · rw [Op.flush.injEq] at hpnet
    exact pnetChain_not_builtin (hpnet ▸ hc)
  · exact (h policy hpolicy).not_flushes c hop

theorem content_flush_twice (c : Text) (l : List Rule) :
    content c [.flush pnetChain] (content c [.flush pnetChain] l) =
      content c [.flush pnetChain] l := by
  simp only [content, List.foldl_cons, List.foldl_nil, Op.on]
  split_ifs <;> rfl

theorem content_user (h : ∀ policy ∈ policies, AppendsActive portOk other policy)
    (hc : c ∉ chainNames) (l : List Rule) :
    content c (policies.flatMap (allOps portOk other)) (content c [.flush pnetChain] l) =
      content c [.flush pnetChain] l := by
  induction policies with
  | nil => rfl
  | cons policy policies ih =>
    have hrest := ih fun q hq => h q (List.mem_cons_of_mem _ hq)
    have hops := (h policy List.mem_cons_self).not_touches hc
    have hone (l : List Rule) :
        content c (allOps portOk other policy) l = content c [.flush pnetChain] l := by
      rw [allOps, content_cons, content_of_not_touches hops]
      rfl
    rw [List.flatMap_cons, content, List.foldl_append]
    change content c _ (content c _ _) = _
    rw [hone, content_flush_twice, hrest]

theorem userJump_congr {jump jump' : Text → Outcome Text}
    (h : ∀ d, d ∉ chainNames → jump d = jump' d) : userJump jump = userJump jump' := by
  funext d
  rw [userJump, userJump]
  split_ifs with hd
  · rfl
  · exact h d fun hmem => hd (List.contains_iff_mem.mpr hmem)

theorem traverse_congr {t t' : Firewall} (h : ∀ d, d ∉ chainNames → t d = t' d) (p : Packet)
    (depth : ℕ) (hc : c ∉ chainNames) : traverse t p depth c = traverse t' p depth c := by
  induction depth generalizing c with
  | zero => rfl
  | succ depth ih =>
    have hjump := userJump_congr fun d hd => ih (c := d) hd
    rw [traverse, traverse, h c hc, hjump]

theorem traverse_of_some {t : Firewall} {p : Packet} {depth : ℕ} {l : List Rule}
    (h : t c = some l) :
    traverse t p (depth + 1) c =
      walk (ruleOutcome (userJump fun d => traverse t p depth d) p) l := by
  rw [traverse, h]

theorem traverse_of_none {t : Firewall} {p : Packet} {depth : ℕ} (h : t c = none) :
    traverse t p depth c = .passed := by
  cases depth with
  | zero => rfl
  | succ depth => rw [traverse, h]

def flushed (t : Firewall) : Firewall := applyOps [.flush pnetChain] t

theorem flushed_builtin (hc : c ∈ chainNames) (t : Firewall) : flushed t c = t c := by
  have hne : pnetChain ≠ c := fun he => pnetChain_not_builtin (he ▸ hc)
  rw [flushed, applyOps]
  cases t c with
  | none => rfl
  | some l => simp [content, Op.on, hne]

theorem flushed_twice (t : Firewall) : flushed (flushed t) = flushed t := by
  funext d
  simp only [flushed, applyOps, Option.map_map]
  congr 1
  funext l
  exact content_flush_twice d l

structure Gained (policies : List SecPolicy) (t t' : Firewall) : Prop where
  builtin : ∀ c, c ∈ chainNames →
    t' c = (t c).map (· ++ (activeRules policies).filterMap (ruleOn c))
  user : ∀ c, c ∉ chainNames → t' c = flushed t c

theorem gained_of_appends (h : ∀ policy ∈ policies, AppendsActive portOk other policy)
    (t : Firewall) :
    Gained policies t (applyOps (policies.flatMap (allOps portOk other)) (flushed t)) := by
  constructor
  · intro c hc
    rw [applyOps, flushed_builtin hc]
    congr 1
    funext l
    exact content_builtin h hc l
  · intro c hc
    rw [applyOps, flushed, applyOps, Option.map_map]
    congr 1
    funext l
    exact content_user h hc l

theorem ruleOutcome_matchOf (jump : Text → Outcome Text) (p : Packet) {r : SecRule}
    (hq : r.protocol ≠ 0) (hp : r.dstPort ≠ 0) :
    ((ruleOn c r).map (ruleOutcome jump p)).getD .passed =
      if chainMeant r.chain = c ∧ RuleMatches r p then .decided (actionMeant r.action)
      else .passed := by
  have haction : actionMeant r.action ∈ actionNames := by
    rw [← actionToStr_eq]
    exact actionToStr_mem r.action
  rw [ruleOn]
  by_cases hc : chainMeant r.chain = c
  · have haccepts := accepts_matchOf_iff hq hp p
    rw [if_pos hc, Option.map_some, Option.getD_some, ruleOutcome]
    by_cases hmatch : RuleMatches r p
    · rw [if_pos (haccepts.mpr hmatch), if_pos ⟨hc, hmatch⟩]
      exact if_pos (List.contains_iff_mem.mpr haction)
    · rw [if_neg fun ha => hmatch (haccepts.mp ha), if_neg fun hboth => hmatch hboth.2]
  · simp [hc]

theorem traverse_applied {t : Firewall}
    (h : ∀ policy ∈ policies, AppendsActive portOk other policy)
    (hnamed : ∀ r ∈ activeRules policies, r.protocol ≠ 0 ∧ r.dstPort ≠ 0)
    (hpresent : ∀ r ∈ activeRules policies, (t (chainMeant r.chain)).isSome)
    (hc : c ∈ chainNames) (p : Packet) (depth : ℕ) :
    traverse (applyOps (policies.flatMap (allOps portOk other)) (flushed t)) p (depth + 1) c =
      (traverse (flushed t) p (depth + 1) c).andThen (meant c p (activeRules policies)) := by
  obtain ⟨hbuiltin, huser⟩ := gained_of_appends h t
  have hjump := userJump_congr fun d hd => traverse_congr huser p depth (c := d) hd
  cases ht : t c with
  | none =>
    have hnone := hbuiltin c hc
    rw [ht, Option.map_none] at hnone
    rw [traverse_of_none hnone, traverse_of_none ((flushed_builtin hc t).trans ht),
      Outcome.passed_andThen, eq_comm, meant, walk_eq_passed_iff]
    intro r hr
    have hother : chainMeant r.chain ≠ c := by
      intro he
      have hsome := hpresent r hr
      rw [he, ht] at hsome
      simp at hsome
    rw [if_neg fun hboth => hother hboth.1]
  | some l =>
    have hsome := hbuiltin c hc
    rw [ht, Option.map_some] at hsome
    rw [traverse_of_some hsome, traverse_of_some ((flushed_builtin hc t).trans ht), walk_append,
      hjump, walk_filterMap, meant]
    congr 1
    refine walk_congr fun r hr => ?_
    exact ruleOutcome_matchOf _ p (hnamed r hr).1 (hnamed r hr).2

theorem linesOps_isSome {lines : List Text} (h : (linesOps portOk other lines).isSome) :
    ∀ line ∈ lines, (lineOps portOk other line).isSome := by
  induction lines with
  | nil => simp
  | cons line lines ih =>
    obtain ⟨all, hall⟩ := Option.isSome_iff_exists.mp h
    simp only [linesOps, Option.bind_eq_bind, Option.bind_eq_some_iff] at hall
    obtain ⟨ops, hops, rest, hrest, -⟩ := hall
    rw [List.forall_mem_cons, hops]
    exact ⟨rfl, ih (by rw [hrest]; rfl)⟩

theorem command_of_acceptable (h : Acceptable portOk other policy) {r : SecRule}
    (hr : r ∈ usedRules policy) (hactive : r.active = true) :
    (r.protocol = 6 ∨ r.protocol = 17) ∧ portOk r.dstPort.toNat = true := by
  have hmem : ruleCommand r ∈ (usedRules policy).flatMap ruleLines := by
    refine List.mem_flatMap.mpr ⟨r, hr, ?_⟩
    simp [ruleLines, hactive]
  have hsome := linesOps_isSome h.2 _ hmem
  rw [lineOps_ruleCommand] at hsome
  by_contra hnot
  rw [if_neg hnot] at hsome
  simp at hsome

variable {t t' t'' : Firewall} {script : CharArray 4096}

theorem applyOps_flushed (policy : SecPolicy) (policies : List SecPolicy) (t : Firewall) :
    applyOps ((policy :: policies).flatMap (allOps portOk other)) t =
      applyOps ((policy :: policies).flatMap (allOps portOk other)) (flushed t) := by
  have hcons (t : Firewall) : applyOps ((policy :: policies).flatMap (allOps portOk other)) t =
      applyOps (opsOf portOk other policy ++ policies.flatMap (allOps portOk other))
        (flushed t) := by
    rw [flushed, ← applyOps_append]
    rfl
  rw [hcons, hcons (flushed t), flushed_twice]

structure Applied (portOk : ℕ → Bool) (other : Text → Bool) (policies : List SecPolicy)
    (t t' : Firewall) : Prop where
  appends : ∀ policy ∈ policies, AppendsActive portOk other policy
  protocol : ∀ r ∈ activeRules policies, r.protocol ≠ 0
  present : ∀ r ∈ activeRules policies, (t (chainMeant r.chain)).isSome
  result : t' = applyOps (policies.flatMap (allOps portOk other)) t

theorem applied_of_applyPolicies (h : Commented policies)
    (hharm : ∀ policy ∈ policies, ∀ r ∈ usedRules policy, Harmless r.comment.text)
    (happly : applyPolicies portOk other script policies t = some t') :
    Applied portOk other policies t t' := by
  obtain ⟨hok, hresult⟩ := (applyPolicies_eq_some_iff portOk other script h t t').mp happly
  have happends : ∀ policy ∈ policies, AppendsActive portOk other policy := fun policy hmem =>
    opsOf_of_harmless portOk other (hok policy hmem).1 (hharm policy hmem)
  refine ⟨happends, ?_, ?_, hresult⟩
  · intro r hr
    obtain ⟨policy, hpolicy, hr⟩ := List.mem_flatMap.mp hr
    obtain ⟨hused, hactive⟩ := List.mem_filter.mp hr
    have hprotocol := (command_of_acceptable (hok policy hpolicy).1 hused hactive).1
    rcases hprotocol with hq | hq <;> rw [hq] <;> decide
  · intro r hr
    obtain ⟨policy, hpolicy, hr⟩ := List.mem_flatMap.mp hr
    have hop : ruleOp r ∈ opsOf portOk other policy := by
      rw [happends policy hpolicy]
      exact List.mem_map_of_mem hr
    exact (hok policy hpolicy).2 _ hop

/-- After any policies that were applied one after another, what the firewall has
decided before stands, and a packet that it lets pass meets the rules of the first
policy, then those of the next one: the last to be applied comes last. -/
theorem first_policy_decides (first : SecPolicy) (later : List SecPolicy)
    (h : Commented (first :: later))
    (hharm : ∀ policy ∈ first :: later, ∀ r ∈ usedRules policy, Harmless r.comment.text)
    (hport : ∀ r ∈ activeRules (first :: later), r.dstPort ≠ 0)
    (happly : applyPolicies portOk other script (first :: later) t = some t')
    (chain : SecChain) (p : Packet) (depth : ℕ) :
    traverse t' p (depth + 1) (chainMeant chain) =
      (traverse (flushed t) p (depth + 1) (chainMeant chain)).andThen
        (meant (chainMeant chain) p (activeRules (first :: later))) := by
  have happlied := applied_of_applyPolicies h hharm happly
  rw [happlied.result, applyOps_flushed]
  exact traverse_applied happlied.appends (fun r hr => ⟨happlied.protocol r hr, hport r hr⟩)
    happlied.present (chainMeant_mem chain) p depth

theorem one_port_applies :
    applyPolicies isPort (fun _ => false) (.zeroed 4096) [onePort (ascii "S7")] builtinChains =
      some (applyOps ([onePort (ascii "S7")].flatMap (allOps isPort fun _ => false))
        builtinChains) := by
  refine applyPolicies_of_acceptable isPort (fun _ => false) (.zeroed 4096) ?_ ?_
  · rw [Commented]
    decide
  · simp only [Acceptable]
    decide

theorem first_policy_decides_s7 :
    traverse (applyOps ([onePort (ascii "S7")].flatMap (allOps isPort fun _ => false))
        builtinChains) ⟨0, 6, some 102⟩ 1 (ascii "INPUT") = .decided (ascii "ACCEPT") := by
  have hcommented : Commented [onePort (ascii "S7")] := by
    rw [Commented]
    decide
  have hrun := first_policy_decides (onePort (ascii "S7")) [] hcommented (by decide) (by decide)
    one_port_applies .input ⟨0, 6, some 102⟩ 0
  rw [chainMeant] at hrun
  rw [hrun]
  decide

theorem Applied.gained (h : Applied portOk other (policy :: policies) t t') :
    Gained (policy :: policies) t t' := by
  have hgained := gained_of_appends h.appends t
  rwa [← applyOps_flushed, ← h.result] at hgained

theorem Gained.flushed_eq (h : Gained policies t t') : flushed t' = t' := by
  funext d
  by_cases hd : d ∈ chainNames
  · exact flushed_builtin hd t'
  · rw [flushed, applyOps, h.user d hd]
    exact congrFun (flushed_twice t) d

theorem Gained.again {again : List SecPolicy} (h : Gained policies t t')
    (hagain : Gained again t' t'') (hsub : ∀ r ∈ activeRules again, r ∈ activeRules policies)
    (p : Packet) (depth : ℕ) (c : Text) : traverse t'' p depth c = traverse t' p depth c := by
  induction depth generalizing c with
  | zero => rfl
  | succ depth ih =>
    have hjump := userJump_congr fun d _ => ih d
    by_cases hc : c ∈ chainNames
    · have hbuiltin := h.builtin c hc
      have hbuiltin' := hagain.builtin c hc
      cases ht : t c with
      | none =>
        rw [ht, Option.map_none] at hbuiltin
        rw [hbuiltin, Option.map_none] at hbuiltin'
        rw [traverse_of_none hbuiltin, traverse_of_none hbuiltin']
      | some l =>
        rw [ht, Option.map_some] at hbuiltin
        rw [hbuiltin, Option.map_some] at hbuiltin'
        rw [traverse_of_some hbuiltin, traverse_of_some hbuiltin', hjump]
        refine walk_append_of_subset fun r hr => List.mem_append_right _ ?_
        obtain ⟨rule, hrule, hon⟩ := List.mem_filterMap.mp hr
        exact List.mem_filterMap.mpr ⟨rule, hsub rule hrule, hon⟩
    · rw [traverse, traverse, hjump, hagain.user c hc, h.flushed_eq]

/-- Applying rules again that are in force already changes nothing for any packet: the
rule that was taken out of a table stays in force. -/
theorem removal_revokes_nothing (first : SecPolicy) (earlier later : List SecPolicy)
    (h : Commented (first :: earlier ++ later))
    (hharm : ∀ policy ∈ first :: earlier ++ later, ∀ r ∈ usedRules policy, Harmless r.comment.text)
    (happly : applyPolicies portOk other script (first :: earlier) t = some t')
    (hagain : applyPolicies portOk other script later t' = some t'')
    (hsub : ∀ r ∈ activeRules later, r ∈ activeRules (first :: earlier))
    (p : Packet) (depth : ℕ) (c : Text) : traverse t'' p depth c = traverse t' p depth c := by
  have hfirst := applied_of_applyPolicies (fun q hq => h q (List.mem_append_left _ hq))
    (fun q hq => hharm q (List.mem_append_left _ hq)) happly
  have hlater := applied_of_applyPolicies (fun q hq => h q (List.mem_append_right _ hq))
    (fun q hq => hharm q (List.mem_append_right _ hq)) hagain
  cases later with
  | nil =>
    have hnone : t' = t'' := Option.some.inj hagain
    rw [hnone]
  | cons policy later => exact hfirst.gained.again hlater.gained hsub p depth c

theorem removal_revokes_nothing_s7 :
    let policy := onePort (ascii "S7")
    let removed := (secPolicyRemoveRule policy 0).2
    let after := fun ps => applyOps (ps.flatMap (allOps isPort fun _ => false)) builtinChains
    traverse (after [policy, removed]) ⟨0, 6, some 102⟩ 1 (ascii "INPUT") =
      traverse (after [policy]) ⟨0, 6, some 102⟩ 1 (ascii "INPUT") := by
  intro policy removed after
  have hcommented : Commented ([policy] ++ [removed]) := by
    rw [Commented]
    decide
  have hagain : applyPolicies isPort (fun _ => false) (.zeroed 4096) [removed] (after [policy]) =
      some (after [policy, removed]) := by
    have hacc : ∀ q ∈ [removed], Acceptable isPort (fun _ => false) q ∧
        Present (opsOf isPort (fun _ => false) q) (after [policy]) := by
      simp only [Acceptable]
      decide
    have happly := applyPolicies_of_acceptable isPort (fun _ => false) (.zeroed 4096)
      (fun q hq => hcommented q (List.mem_append_right _ hq)) hacc
    rw [happly, ← applyOps_append, ← List.flatMap_append]
    rfl
  exact removal_revokes_nothing policy [] [removed] hcommented (by decide) one_port_applies hagain
    (by decide) ⟨0, 6, some 102⟩ 1 (ascii "INPUT")

/-- Every rule names a port, and iptables takes none that does for all protocols. So a
policy that was applied has no active rule of the kind that the audit asks for, and its
audit warns unless an inactive one stands in for it. -/
theorem applied_policy_is_warned {report : Text}
    (h : ∀ r ∈ usedRules policy, r.comment.Terminated)
    (hlarge : (auditText policy).length < report.length)
    (happly : (secPolicyApply (shell portOk other) script policy t).1 = 0) :
    (∀ r ∈ usedRules policy, r.active = true → isDefaultDeny r = false) ∧
    (noDefaultDenyWarning ∈ reportLines policy report ↔
      ∀ r ∈ usedRules policy, r.active = false → isDefaultDeny r = false) := by
  have hacc := ((secPolicyApply_spec portOk other script h t).1.mp happly).1
  have hnone : ∀ r ∈ usedRules policy, r.active = true → isDefaultDeny r = false := by
    intro r hr hactive
    rw [Bool.eq_false_iff]
    intro hdeny
    have hprotocol := (command_of_acceptable hacc hr hactive).1
    obtain ⟨-, hzero, -⟩ := of_decide_eq_true hdeny
    rw [hzero] at hprotocol
    exact absurd hprotocol (by decide)
  refine ⟨hnone, ?_⟩
  rw [noDefaultDeny_reported_iff hlarge]
  constructor
  · intro hno r hr _
    rw [Bool.eq_false_iff]
    exact fun hdeny => hno ⟨r, hr, hdeny⟩
  · intro hinactive hdeny
    obtain ⟨r, hr, hdeny⟩ := hdeny
    cases hactive : r.active with
    | false => simp [hinactive r hr hactive] at hdeny
    | true => simp [hnone r hr hactive] at hdeny

theorem applied_policy_is_warned_s7 :
    noDefaultDenyWarning ∈ reportLines (onePort (ascii "S7")) (List.replicate 1024 nul) := by
  have hlarge : (auditText (onePort (ascii "S7"))).length < (List.replicate 1024 nul).length := by
    rw [List.length_replicate]
    decide
  have happly : (secPolicyApply (shell isPort fun _ => false) (.zeroed 4096)
      (onePort (ascii "S7")) builtinChains).1 = 0 := by
    refine (secPolicyApply_spec isPort _ (.zeroed 4096) (by decide) builtinChains).1.mpr ?_
    simp only [Acceptable]
    decide
  exact (applied_policy_is_warned (by decide) hlarge happly).2.mpr (by decide)

end PnetManager.PacketVerdicts
