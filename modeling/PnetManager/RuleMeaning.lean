import PnetManager.FirewallScript
import PnetManager.Iptables

/-!
# What the command of a rule means

A rule is meant to match every source where its address is zero, every protocol
where its protocol is zero and every port where its port is zero. Its command
always names a port.
-/

namespace PnetManager.RuleMeaning
open CText CNumber Word32 SecurityPolicy FirewallScript Iptables

set_option maxRecDepth 2000

def chainMeant : SecChain → Text
  | .output => ascii "OUTPUT"
  | .forward => ascii "FORWARD"
  | .input | .other _ => ascii "INPUT"

/-- What a rule does with a packet; an unnamed value stands for DROP. -/
def actionMeant : SecAction → Text
  | .accept => ascii "ACCEPT"
  | .reject => ascii "REJECT"
  | .drop | .other _ => ascii "DROP"

def maskMeant (rule : SecRule) : UInt32 :=
  if rule.srcMask = 0 then 0xFFFFFFFF else rule.srcMask

def RuleMatches (rule : SecRule) (p : Packet) : Prop :=
  (rule.srcIp = 0 ∨ p.src &&& maskMeant rule = rule.srcIp &&& maskMeant rule) ∧
    (rule.protocol = 0 ∨ p.protocol = rule.protocol) ∧
    (rule.dstPort = 0 ∨ p.dport.map UInt16.toNat = some rule.dstPort.toNat)

variable (portOk : ℕ → Bool)

/-- The command for a rule is accepted, and it does with every packet what the
rule is meant to do. -/
def Preserved (rule : SecRule) : Prop :=
  ∃ m, parseCommand portOk (generateRuleLine 256 rule).2 =
      some (.append (chainMeant rule.chain) ⟨m, some (actionMeant rule.action)⟩) ∧
    ∀ p, m.Accepts p ↔ RuleMatches rule p

def sourceText (rule : SecRule) : Text :=
  if rule.srcMask ≠ 0 then ipToStr rule.srcIp ++ ascii "/" ++ ipToStr rule.srcMask
  else ipToStr rule.srcIp

def optionWords (rule : SecRule) : List Text :=
  (if rule.srcIp ≠ 0 then [ascii "-s", sourceText rule] else []) ++
    [ascii "-p", protoToStr rule.protocol, ascii "--dport", fmtU rule.dstPort.toNat,
     ascii "-j", actionToStr rule.action]

def commandWords (rule : SecRule) : List Text :=
  [ascii "iptables", ascii "-A", chainToStr rule.chain] ++ optionWords rule

theorem ruleCommand_eq_unwords (rule : SecRule) :
    ruleCommand rule = unwords (commandWords rule) := by
  rw [ruleCommand, commandWords, optionWords, sourceText]
  split_ifs <;>
    simp only [List.append_assoc, List.cons_append, List.nil_append, unwords_cons,
      unwords_singleton] <;> rfl

theorem not_mem_ipToStr {b : Byte} (hb : b < 48) (hne : b ≠ 46) (ip : UInt32) :
    b ∉ ipToStr ip := not_mem_fmtQuad hb hne _ _ _ _

theorem not_mem_sourceText (rule : SecRule) : 32 ∉ sourceText rule := by
  have hip := not_mem_ipToStr (b := 32) (by decide) (by decide) rule.srcIp
  have hmask := not_mem_ipToStr (b := 32) (by decide) (by decide) rule.srcMask
  have hslash : 32 ∉ ascii "/" := by decide
  rw [sourceText]
  split_ifs
  · simp [hip, hmask, hslash]
  · exact hip

theorem chainToStr_eq (c : SecChain) : chainToStr c = chainMeant c := by
  cases c <;> rfl

theorem actionToStr_eq (a : SecAction) : actionToStr a = actionMeant a := by
  cases a <;> rfl

theorem space_not_mem_commandWords (rule : SecRule) : ∀ w ∈ commandWords rule, 32 ∉ w := by
  have hopt : ∀ w ∈ [ascii "iptables", ascii "-A", ascii "-s", ascii "-p", ascii "--dport",
      ascii "-j"], 32 ∉ w := by decide
  have hport := not_mem_fmtU (b := 32) (by decide) rule.dstPort.toNat
  have hchain := (by decide : ∀ t ∈ chainNames, 32 ∉ t) _ (chainToStr_mem rule.chain)
  have haction := (by decide : ∀ t ∈ actionNames, 32 ∉ t) _ (actionToStr_mem rule.action)
  have hproto := (by decide : ∀ t ∈ protoNames, 32 ∉ t) _ (protoToStr_mem rule.protocol)
  have hsource := not_mem_sourceText rule
  intro w hw
  simp only [commandWords, optionWords, List.mem_append, List.mem_cons, List.not_mem_nil,
    or_false] at hw
  simp only [List.forall_mem_cons] at hopt
  obtain ⟨h1, h2, h3, h4, h5, h6, -⟩ := hopt
  split_ifs at hw with hip
  · simp only [List.mem_cons, List.not_mem_nil, or_false] at hw
    rcases hw with (rfl | rfl | rfl) | (rfl | rfl) | rfl | rfl | rfl | rfl | rfl | rfl <;>
      assumption
  · simp only [List.not_mem_nil, false_or] at hw
    rcases hw with (rfl | rfl | rfl) | rfl | rfl | rfl | rfl | rfl | rfl <;> assumption

theorem parseAddress_ipToStr (ip : UInt32) : parseAddress (ipToStr ip) = some ip := by
  have hlt (k : UInt32) := toNat_field_lt (htonl ip) k
  obtain ⟨h24, h16, h8, h0⟩ := ofOctets_fields (field ip 0).toUInt8 (field ip 8).toUInt8
    (field ip 16).toUInt8 (field ip 24).toUInt8
  rw [ipToStr, inetNtop, parseAddress_fmtQuad (hlt 0) (hlt 8) (hlt 16) (hlt 24)]
  simp only [htonl_eq_ofOctets, UInt8.ofNat_uInt32ToNat, h24, h16, h8, h0]
  simp only [ofOctets, field_toUInt8_toUInt32, quad_fields]

theorem parseSource_sourceText (rule : SecRule) :
    parseSource (sourceText rule) = some (rule.srcIp, maskMeant rule) := by
  have hslash (ip : UInt32) : 47 ∉ ipToStr ip := not_mem_ipToStr (by decide) (by decide) ip
  rw [sourceText, maskMeant]
  by_cases hmask : rule.srcMask = 0
  · rw [if_neg (not_not.mpr hmask), if_pos hmask, parseSource,
      List.splitOn_eq_singleton (hslash _)]
    simp [parseAddress_ipToStr]
  · have hsplit : (ipToStr rule.srcIp ++ ascii "/" ++ ipToStr rule.srcMask).splitOn 47 =
        [ipToStr rule.srcIp, ipToStr rule.srcMask] := by
      have hs := List.splitOn_append_cons_self_of_not_mem (hslash rule.srcIp)
        (ipToStr rule.srcMask)
      rw [List.splitOn_eq_singleton (hslash _)] at hs
      rw [List.append_assoc]
      exact hs
    rw [if_pos hmask, if_neg hmask, parseSource, hsplit]
    simp [parseAddress_ipToStr]

theorem parseProtocol_protoToStr (q : UInt8) :
    parseProtocol (protoToStr q) = some (if q = 6 ∨ q = 17 then some q else none) := by
  by_cases h6 : q = 6
  · subst h6
    rfl
  by_cases h17 : q = 17
  · subst h17
    rfl
  · simp only [protoToStr, h6, h17, if_false, or_self]
    rfl

def matchOf (rule : SecRule) : Match where
  source := if rule.srcIp ≠ 0 then some (rule.srcIp, maskMeant rule) else none
  protocol := some rule.protocol
  dport := some rule.dstPort.toNat

theorem parseOptions_source (rule : SecRule) (rest : List Text) :
    parseOptions portOk ⟨.any, none⟩
        ((if rule.srcIp ≠ 0 then [ascii "-s", sourceText rule] else []) ++ rest) =
      parseOptions portOk ⟨⟨(matchOf rule).source, none, none⟩, none⟩ rest := by
  rw [matchOf]
  split_ifs
  · rw [List.cons_append, List.cons_append, List.nil_append, parseOptions_cons,
      parseOption_source, parseSource_sourceText]
    rfl
  · rfl

theorem parseCommand_rule (rule : SecRule) :
    parseCommand portOk (ruleCommand rule) =
      if (rule.protocol = 6 ∨ rule.protocol = 17) ∧ portOk rule.dstPort.toNat then
        some (.append (chainMeant rule.chain) ⟨matchOf rule, some (actionMeant rule.action)⟩)
      else none := by
  rw [ruleCommand_eq_unwords, parseCommand_unwords portOk (space_not_mem_commandWords rule)
    (by simp [commandWords])]
  simp only [commandWords, optionWords, List.cons_append, List.nil_append, parseWords_append,
    parseOptions_source, parseOptions_cons, parseOption_protocol, parseProtocol_protoToStr,
    Option.map_some, Option.bind_some, parseOption_dport, parseNumber_fmtU, parseOption_target]
  by_cases hq : rule.protocol = 6 ∨ rule.protocol = 17
  · cases hp : portOk rule.dstPort.toNat with
    | false => simp [hq]
    | true => simp [hq, parseOptions, chainToStr_eq, actionToStr_eq, matchOf]
  · simp [hq]

theorem accepts_matchOf_iff {rule : SecRule} (hq : rule.protocol ≠ 0) (hp : rule.dstPort ≠ 0)
    (p : Packet) : (matchOf rule).Accepts p ↔ RuleMatches rule p := by
  rw [matchOf, Match.Accepts, RuleMatches]
  by_cases hip : rule.srcIp = 0 <;> simp [hip, hq, hp]

/-- The command for an active rule keeps its meaning exactly when the rule names a
protocol and a port, and the port is a number that iptables takes. -/
theorem rule_preserved_iff (rule : SecRule) (hactive : rule.active = true)
    (hproto : rule.protocol = 0 ∨ rule.protocol = 6 ∨ rule.protocol = 17) :
    Preserved portOk rule ↔
      rule.protocol ≠ 0 ∧ rule.dstPort ≠ 0 ∧ portOk rule.dstPort.toNat = true := by
  rw [Preserved]
  rw [(generateRuleLine_active hactive).2, parseCommand_rule]
  constructor
  · intro hpres
    obtain ⟨m, hparse, hm⟩ := hpres
    split_ifs at hparse with hacc
    have hq : rule.protocol ≠ 0 := by
      rcases hacc.1 with h | h <;> rw [h] <;> decide
    refine ⟨hq, fun hzero => ?_, hacc.2⟩
    -- a packet to port 1 is meant, but only port 0 is matched
    obtain rfl : matchOf rule = m := by simpa using hparse
    have hpkt := (hm ⟨rule.srcIp, rule.protocol, some 1⟩).mpr
      ⟨Or.inr rfl, Or.inr rfl, Or.inl hzero⟩
    simpa [matchOf, hzero] using hpkt.2.2 rule.dstPort.toNat (by simp [matchOf])
  · intro hcond
    obtain ⟨hq, hp, hok⟩ := hcond
    have hacc : (rule.protocol = 6 ∨ rule.protocol = 17) ∧ portOk rule.dstPort.toNat = true :=
      ⟨hproto.resolve_left hq, hok⟩
    exact ⟨matchOf rule, if_pos hacc, accepts_matchOf_iff hq hp⟩

def isPort (n : ℕ) : Bool := n < 65536

theorem rule_preserved_iff_s7 :
    Preserved isPort { SecRule.zeroed with protocol := 6, dstPort := 102, active := true } :=
  (rule_preserved_iff isPort _ rfl (by decide)).mpr (by decide)

theorem default_deny_rejected :
    let rule := { SecRule.zeroed with action := .drop, active := true }
    (generateRuleLine 256 rule).2 = ascii "iptables -A INPUT -p all --dport 0 -j DROP" ∧
      parseCommand isPort (generateRuleLine 256 rule).2 = none ∧ ¬ Preserved isPort rule := by
  have hline : (generateRuleLine 256 { SecRule.zeroed with action := .drop, active := true }).2 =
      ascii "iptables -A INPUT -p all --dport 0 -j DROP" := by decide
  have hparse :
      parseCommand isPort (ascii "iptables -A INPUT -p all --dport 0 -j DROP") = none := by
    decide
  refine ⟨hline, by rw [hline, hparse], ?_⟩
  intro hpres
  obtain ⟨m, hm, -⟩ := hpres
  rw [hline, hparse] at hm
  exact absurd hm (by simp)

end PnetManager.RuleMeaning
