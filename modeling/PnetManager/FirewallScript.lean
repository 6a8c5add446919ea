import PnetManager.SecurityPolicy

/-!
# The generated firewall script

Rule lines, the script and its execution in `security_policy.c`. The shell is a
parameter of `sec_policy_apply`: what `system` returns for a script and what it
makes of the world `W`.
-/

namespace PnetManager.FirewallScript
open CText CNumber CStdio Word32 SecurityPolicy

def actionToStr : SecAction → Text
  | .accept => ascii "ACCEPT"
  | .drop => ascii "DROP"
  | .reject => ascii "REJECT"
  | .other _ => ascii "DROP"

def chainToStr : SecChain → Text
  | .input => ascii "INPUT"
  | .output => ascii "OUTPUT"
  | .forward => ascii "FORWARD"
  | .other _ => ascii "INPUT"

def protoToStr (protocol : UInt8) : Text :=
  if protocol = 6 then ascii "tcp"
  else if protocol = 17 then ascii "udp"
  else ascii "all"

def inetNtop (sAddr : UInt32) : Text :=
  fmtQuad (field sAddr 0).toNat (field sAddr 8).toNat (field sAddr 16).toNat
    (field sAddr 24).toNat

def ipToStr (ip : UInt32) : Text := inetNtop (htonl ip)

def ruleCommand (rule : SecRule) : Text :=
  if rule.srcIp ≠ 0 then
    if rule.srcMask ≠ 0 then
      ascii "iptables -A " ++ chainToStr rule.chain ++ ascii " -s " ++ ipToStr rule.srcIp ++
        ascii "/" ++ ipToStr rule.srcMask ++ ascii " -p " ++ protoToStr rule.protocol ++
        ascii " --dport " ++ fmtU rule.dstPort.toNat ++ ascii " -j " ++ actionToStr rule.action
    else
      ascii "iptables -A " ++ chainToStr rule.chain ++ ascii " -s " ++ ipToStr rule.srcIp ++
        ascii " -p " ++ protoToStr rule.protocol ++ ascii " --dport " ++
        fmtU rule.dstPort.toNat ++ ascii " -j " ++ actionToStr rule.action
  else
    ascii "iptables -A " ++ chainToStr rule.chain ++ ascii " -p " ++ protoToStr rule.protocol ++
      ascii " --dport " ++ fmtU rule.dstPort.toNat ++ ascii " -j " ++ actionToStr rule.action

def inactiveLine (rule : SecRule) : Text :=
  ascii "# [inactive] rule: " ++ rule.comment.text ++ [lf]

/-- `generate_rule_line`: what it returns and the text in a buffer of `len`
bytes. The length of the line of an inactive rule goes unchecked. -/
def generateRuleLine (len : ℕ) (rule : SecRule) : ℤ × Text :=
  if rule.active = false then
    ((inactiveLine rule).length, (inactiveLine rule).take (len - 1))
  else
    let written := (ruleCommand rule).length
    (if len ≤ written then -1 else written, (ruleCommand rule).take (len - 1))

def scriptHeader (policy : SecPolicy) : Text :=
  ascii "#!/bin/bash\n# Auto-generated PROFINET security policy\n# Rule count: " ++
    fmtD policy.ruleCount ++ ascii "\n\nset -e\n\n"

def ruleBlock (i : ℕ) (rule : SecRule) (line : Text) : Text :=
  ascii "# Rule " ++ fmtD i ++ ascii ": " ++ rule.comment.text ++ ascii "\n" ++ line ++
    ascii "\n\n"

def scriptFooter (policy : SecPolicy) : Text :=
  ascii "echo \"PROFINET security policy applied: " ++ fmtD policy.ruleCount ++
    ascii " rules\"\n"

def usedRules (policy : SecPolicy) : List SecRule :=
  policy.rules.toList.take policy.ruleCount.toNat

/-- One round of the loop; a rule whose line is not generated is left out. -/
def printRule (out : Out) (rule : SecRule × ℕ) : Out :=
  let (lineLen, line) := generateRuleLine 256 rule.1
  if lineLen < 0 then out else out.printf (ruleBlock rule.2 rule.1 line)

def secPolicyGenerateScript (policy : SecPolicy) (buf : Text) : ℤ × Text :=
  if buf = [] then (-einval, buf)
  else
    let out := (Out.start buf).printf (scriptHeader policy)
    let out := (usedRules policy).zipIdx.foldl printRule out
    let out := out.printf (scriptFooter policy)
    (if out.failed then -enospc else 0, out.buf)

def secPolicyApply {W : Type} (system : Text → W → ℤ × W) (script : CharArray 4096)
    (policy : SecPolicy) (w : W) : ℤ × W :=
  let (ret, script) := secPolicyGenerateScript policy script.bytes
  if ret < 0 then (ret, w)
  else
    let (_, w) := system (ascii "iptables -F PNET_CHAIN 2>/dev/null") w
    let (ret, w) := system (cstr script) w
    if ret ≠ 0 then (-eio, w) else (0, w)

def chainNames : List Text := [ascii "INPUT", ascii "OUTPUT", ascii "FORWARD"]
def actionNames : List Text := [ascii "ACCEPT", ascii "DROP", ascii "REJECT"]
def protoNames : List Text := [ascii "tcp", ascii "udp", ascii "all"]

theorem chainToStr_mem (c : SecChain) : chainToStr c ∈ chainNames := by
  cases c <;> simp [chainToStr, chainNames]

theorem actionToStr_mem (a : SecAction) : actionToStr a ∈ actionNames := by
  cases a <;> simp [actionToStr, actionNames]

theorem protoToStr_mem (q : UInt8) : protoToStr q ∈ protoNames := by
  rw [protoToStr]
  split_ifs <;> simp [protoNames]

structure OneLine (t : Text) : Prop where
  no_nul : nul ∉ t
  no_lf : lf ∉ t

theorem OneLine.append {s t : Text} (hs : OneLine s) (ht : OneLine t) : OneLine (s ++ t) :=
  ⟨fun h => (List.mem_append.mp h).elim hs.no_nul ht.no_nul,
    fun h => (List.mem_append.mp h).elim hs.no_lf ht.no_lf⟩

instance (t : Text) : Decidable (OneLine t) :=
  decidable_of_iff (nul ∉ t ∧ lf ∉ t) ⟨fun h => ⟨h.1, h.2⟩, fun h => ⟨h.1, h.2⟩⟩

theorem oneLine_fmtU (n : ℕ) : OneLine (fmtU n) := by
  constructor <;> intro h
  · exact absurd (digit_bounds (fmtU_digits n nul h)) (by decide)
  · exact absurd (digit_bounds (fmtU_digits n lf h)) (by decide)

theorem oneLine_fmtD (i : ℤ) : OneLine (fmtD i) := by
  rw [fmtD]
  split_ifs
  · exact OneLine.append (s := [45]) (by decide) (oneLine_fmtU _)
  · exact oneLine_fmtU _

theorem oneLine_ipToStr (ip : UInt32) : OneLine (ipToStr ip) := by
  have hdot : OneLine [46] := by decide
  exact (oneLine_fmtU _).append (hdot.append ((oneLine_fmtU _).append (hdot.append
    ((oneLine_fmtU _).append (hdot.append (oneLine_fmtU _))))))

theorem oneLine_chainToStr (c : SecChain) : OneLine (chainToStr c) :=
  (by decide : ∀ t ∈ chainNames, OneLine t) _ (chainToStr_mem c)

theorem oneLine_actionToStr (a : SecAction) : OneLine (actionToStr a) :=
  (by decide : ∀ t ∈ actionNames, OneLine t) _ (actionToStr_mem a)

theorem oneLine_protoToStr (q : UInt8) : OneLine (protoToStr q) :=
  (by decide : ∀ t ∈ protoNames, OneLine t) _ (protoToStr_mem q)

theorem oneLine_ruleCommand (rule : SecRule) : OneLine (ruleCommand rule) := by
  have hcmd : OneLine (ascii "iptables -A ") := by decide
  have hs : OneLine (ascii " -s ") := by decide
  have hslash : OneLine (ascii "/") := by decide
  have hp : OneLine (ascii " -p ") := by decide
  have hd : OneLine (ascii " --dport ") := by decide
  have hj : OneLine (ascii " -j ") := by decide
  have hchain := hcmd.append (oneLine_chainToStr rule.chain)
  have hsrc := (hchain.append hs).append (oneLine_ipToStr rule.srcIp)
  have hmask := (hsrc.append hslash).append (oneLine_ipToStr rule.srcMask)
  -- all three forms end in the same way
  have hend (t : Text) (ht : OneLine t) :
      OneLine (t ++ ascii " -p " ++ protoToStr rule.protocol ++ ascii " --dport " ++
        fmtU rule.dstPort.toNat ++ ascii " -j " ++ actionToStr rule.action) :=
    (((((ht.append hp).append (oneLine_protoToStr _)).append hd).append (oneLine_fmtU _)).append
      hj).append (oneLine_actionToStr _)
  rw [ruleCommand]
  split_ifs
  · exact hend _ hmask
  · exact hend _ hsrc
  · exact hend _ hchain

theorem ipToStr_length (ip : UInt32) : (ipToStr ip).length ≤ 15 := by
  have h (k : UInt32) : (fmtU (field (htonl ip) k).toNat).length ≤ 3 :=
    fmtU_length_le (by norm_num) (by have hlt := toNat_field_lt (htonl ip) k; omega)
  have h0 := h 0
  have h8 := h 8
  have h16 := h 16
  have h24 := h 24
  simp only [ipToStr, inetNtop, fmtQuad, List.length_append, List.length_cons]
  omega

theorem chainToStr_length (c : SecChain) : (chainToStr c).length ≤ 7 :=
  (by decide : ∀ t ∈ chainNames, t.length ≤ 7) _ (chainToStr_mem c)

theorem actionToStr_length (a : SecAction) : (actionToStr a).length ≤ 6 :=
  (by decide : ∀ t ∈ actionNames, t.length ≤ 6) _ (actionToStr_mem a)

theorem protoToStr_length (q : UInt8) : (protoToStr q).length ≤ 3 :=
  (by decide : ∀ t ∈ protoNames, t.length ≤ 3) _ (protoToStr_mem q)

theorem ruleCommand_length (rule : SecRule) : (ruleCommand rule).length ≤ 90 := by
  have hsrc := ipToStr_length rule.srcIp
  have hmask := ipToStr_length rule.srcMask
  have hchain := chainToStr_length rule.chain
  have haction := actionToStr_length rule.action
  have hproto := protoToStr_length rule.protocol
  have hport : (fmtU rule.dstPort.toNat).length ≤ 10 :=
    fmtU_length_le (by norm_num) (by have hlt := rule.dstPort.toNat_lt; omega)
  have h1 : (ascii "iptables -A ").length = 12 := by decide
  have h2 : (ascii " -s ").length = 4 := by decide
  have h3 : (ascii "/").length = 1 := by decide
  have h4 : (ascii " -p ").length = 4 := by decide
  have h5 : (ascii " --dport ").length = 9 := by decide
  have h6 : (ascii " -j ").length = 4 := by decide
  rw [ruleCommand]
  split_ifs <;> simp only [List.length_append] <;> omega

def ruleLine (rule : SecRule) : Text :=
  if rule.active = false then inactiveLine rule else ruleCommand rule

theorem generateRuleLine_active {rule : SecRule} (h : rule.active = true) :
    0 ≤ (generateRuleLine 256 rule).1 ∧ (generateRuleLine 256 rule).2 = ruleCommand rule := by
  have hl := ruleCommand_length rule
  rw [generateRuleLine, if_neg (by simp [h])]
  dsimp only
  rw [if_neg (by omega)]
  exact ⟨by positivity, List.take_of_length_le (by omega)⟩

theorem generateRuleLine_spec {rule : SecRule} (h : rule.comment.Terminated) :
    0 ≤ (generateRuleLine 256 rule).1 ∧ (generateRuleLine 256 rule).2 = ruleLine rule := by
  cases hact : rule.active with
  | false =>
    have hc := h.length_lt
    have hl : (ascii "# [inactive] rule: ").length = 19 := by decide
    simp only [generateRuleLine, ruleLine, hact, if_true]
    refine ⟨by positivity, List.take_of_length_le ?_⟩
    simp only [inactiveLine, List.length_append, List.length_singleton]
    omega
  | true => simpa [ruleLine, hact] using generateRuleLine_active hact

def scriptTexts (policy : SecPolicy) : List Text :=
  scriptHeader policy ::
    ((usedRules policy).zipIdx.map fun r => ruleBlock r.2 r.1 (ruleLine r.1)) ++
    [scriptFooter policy]

def scriptText (policy : SecPolicy) : Text := (scriptTexts policy).flatten

theorem foldl_printRule (out : Out) (rules : List (SecRule × ℕ))
    (h : ∀ r ∈ rules, r.1.comment.Terminated) :
    rules.foldl printRule out =
      (rules.map fun r => ruleBlock r.2 r.1 (ruleLine r.1)).foldl Out.printf out := by
  induction rules generalizing out with
  | nil => rfl
  | cons r rules ih =>
    obtain ⟨hpos, hline⟩ := generateRuleLine_spec (h r (by simp))
    have hi := ih (out.printf (ruleBlock r.2 r.1 (ruleLine r.1)))
      fun r' hr => h r' (List.mem_cons_of_mem _ hr)
    rw [List.foldl_cons, List.map_cons, List.foldl_cons, ← hi, printRule]
    simp only [hline, if_neg (Int.not_lt.mpr hpos)]

/-- The script is generated exactly when it fits with its NUL, and then it is in
the buffer as a whole. -/
theorem generateScript_spec {policy : SecPolicy}
    (h : ∀ r ∈ usedRules policy, r.comment.Terminated) (buf : Text) :
    ((secPolicyGenerateScript policy buf).1 = 0 ↔ (scriptText policy).length < buf.length) ∧
      ((secPolicyGenerateScript policy buf).1 = 0 →
        scriptText policy ++ [nul] <+: (secPolicyGenerateScript policy buf).2) := by
  have hzip : ∀ r ∈ (usedRules policy).zipIdx, r.1.comment.Terminated := fun r hr =>
    h r.1 (List.fst_mem_of_mem_zipIdx hr)
  have hall := (Out.start_holds buf).foldl_printf (scriptTexts policy) (by simp [scriptTexts])
  rw [secPolicyGenerateScript]
  split_ifs with hnil
  · subst hnil
    simp [einval]
  · have hout : ((usedRules policy).zipIdx.foldl printRule
        ((Out.start buf).printf (scriptHeader policy))).printf (scriptFooter policy) =
        (scriptTexts policy).foldl Out.printf (Out.start buf) := by
      rw [foldl_printRule _ _ hzip, scriptTexts, List.cons_append, List.foldl_cons,
        List.foldl_append]
      rfl
    dsimp only
    rw [hout]
    obtain ⟨hfits, hbuf⟩ := hall
    simp only [List.length_nil, Nat.zero_add, List.nil_append] at hfits hbuf
    have hret : (if ((scriptTexts policy).foldl Out.printf (Out.start buf)).failed = true then
        -enospc else 0) = 0 ↔
        ((scriptTexts policy).foldl Out.printf (Out.start buf)).failed = false := by
      split_ifs with hf <;> simp [hf, enospc]
    simp only [hret]
    exact ⟨hfits, hbuf⟩

end PnetManager.FirewallScript
