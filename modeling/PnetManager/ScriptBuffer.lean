import PnetManager.ScriptSize

/-!
# The script in its buffer

Every text of the script is printed at an offset inside the buffer, no rule is
left out, and the script is there as a whole or the call fails.
-/

namespace PnetManager.ScriptBuffer
open CText CNumber CStdio Runs SecurityPolicy FirewallScript ScriptLines ScriptSize

set_option maxRecDepth 2000

structure Inside (len : ℕ) (out : Out) : Prop where
  length_eq : out.buf.length = len
  offset_lt : out.offset < len

theorem inside_start {buf : Text} (h : buf ≠ []) : Inside buf.length (Out.start buf) :=
  ⟨rfl, List.length_pos_iff.mpr h⟩

theorem Inside.printf {len : ℕ} {out : Out} (h : Inside len out) (text : Text) :
    Inside len (out.printf text) := by
  have hlen := snprintf_length (h.length_eq ▸ h.offset_lt.le) text
  rw [Out.printf]
  split_ifs with hfailed hfull
  · exact h
  · exact ⟨hlen.trans h.length_eq, h.offset_lt⟩
  · have hroom := h.length_eq
    exact ⟨hlen.trans h.length_eq, by dsimp only; omega⟩

theorem Inside.printRule {len : ℕ} {out : Out} (h : Inside len out) (rule : SecRule × ℕ) :
    Inside len (printRule out rule) := by
  rw [FirewallScript.printRule]
  dsimp only
  split_ifs
  · exact h
  · exact h.printf _

/-- The buffer and the offset that each `snprintf` of a script starts from. -/
def scriptOuts (policy : SecPolicy) (buf : Text) : List Out :=
  Out.start buf ::
    (usedRules policy).zipIdx.scanl printRule ((Out.start buf).printf (scriptHeader policy))

theorem scriptOuts_inside (policy : SecPolicy) {buf : Text} (h : buf ≠ []) :
    ∀ out ∈ scriptOuts policy buf, Inside buf.length out := by
  intro out hout
  have hstart := inside_start h
  rcases List.mem_cons.mp hout with rfl | hout
  · exact hstart
  · exact scanl_invariant (fun _ rule hin => hin.printRule rule) (hstart.printf _) _ out hout

theorem generateScript_of_outs (policy : SecPolicy) {buf : Text} (h : buf ≠ []) :
    ∃ out, (scriptOuts policy buf).getLast? = some out ∧
      secPolicyGenerateScript policy buf =
        (if (out.printf (scriptFooter policy)).failed then -enospc else 0,
          (out.printf (scriptFooter policy)).buf) := by
  refine ⟨(usedRules policy).zipIdx.foldl printRule
    ((Out.start buf).printf (scriptHeader policy)), ?_, ?_⟩
  · rw [scriptOuts, List.getLast?_cons, List.getLast?_scanl]
    rfl
  · rw [secPolicyGenerateScript, if_neg h]

theorem generateRuleLine_fits {rule : SecRule} (h : rule.comment.Terminated) :
    0 ≤ (generateRuleLine 256 rule).1 ∧ (generateRuleLine 256 rule).1 < 256 ∧
      (generateRuleLine 256 rule).2 = ruleLine rule := by
  obtain ⟨hpos, hline⟩ := generateRuleLine_spec h
  refine ⟨hpos, ?_, hline⟩
  have hcommand := ruleCommand_length rule
  have hcomment := h.length_lt
  have htext : (ascii "# [inactive] rule: ").length = 19 := by decide
  rw [generateRuleLine]
  split_ifs
  · simp only [inactiveLine, List.length_append, List.length_singleton]
    omega
  · dsimp only
    split_ifs <;> omega

theorem blockSize_le {rule : SecRule} (h : rule.comment.Terminated) {i : ℕ} (hi : i < 100) :
    blockSize rule i ≤ 167 := by
  have hindex : (fmtU i).length ≤ 2 := fmtU_length_le (by norm_num) (by omega)
  have hcommand := ruleCommand_length rule
  have hcomment := h.length_lt
  rw [ruleCommand_size] at hcommand
  rw [blockSize]
  split_ifs <;> omega

theorem usedRules_length (policy : SecPolicy) : (usedRules policy).length ≤ 64 := by
  rw [usedRules, List.length_take, Vector.length_toList]
  exact Nat.min_le_right _ _

theorem scriptText_small {policy : SecPolicy}
    (hcount : 0 ≤ policy.ruleCount ∧ policy.ruleCount ≤ maxFwRules)
    (h : ∀ r ∈ usedRules policy, r.comment.Terminated) :
    (scriptText policy).length < 2 ^ 31 := by
  have hlen := usedRules_length policy
  have hdigits : (fmtD policy.ruleCount).length ≤ 2 := by
    obtain ⟨n, hn⟩ := Int.eq_ofNat_of_zero_le hcount.1
    have hn64 : n ≤ 64 := by
      have hle := hcount.2
      rw [hn] at hle
      exact_mod_cast hle
    rw [hn, fmtD, if_neg (by omega), Int.natAbs_natCast]
    exact fmtU_length_le (by norm_num) (by omega)
  have hblocks : ((usedRules policy).zipIdx.map fun r => blockSize r.1 r.2).sum ≤ 64 * 167 := by
    calc ((usedRules policy).zipIdx.map fun r => blockSize r.1 r.2).sum
        ≤ ((usedRules policy).zipIdx.map fun r => blockSize r.1 r.2).length • 167 := by
          apply List.sum_le_card_nsmul
          intro n hn
          obtain ⟨r, hr, rfl⟩ := List.mem_map.mp hn
          have hi := (List.snd_lt_of_mem_zipIdx hr)
          exact blockSize_le (h r.1 (List.fst_mem_of_mem_zipIdx hr)) (by omega)
      _ ≤ 64 * 167 := by
          rw [List.length_map, List.length_zipIdx, smul_eq_mul]
          omega
  rw [scriptText_length, scriptSize]
  omega

/-- A script is generated exactly when it fits with its NUL, and then it is in the
buffer as a whole. Every text of it is printed inside the buffer, at an offset
that an `int` holds, and no rule is dropped. -/
theorem script_is_exact (policy : SecPolicy) (buf : Text) (hbuf : buf ≠ [])
    (hcount : 0 ≤ policy.ruleCount ∧ policy.ruleCount ≤ maxFwRules)
    (h : ∀ r ∈ usedRules policy, r.comment.Terminated) :
    let r := secPolicyGenerateScript policy buf
    (r.1 = 0 ↔ (scriptText policy).length < buf.length) ∧
      (r.1 = 0 → scriptText policy ++ [nul] <+: r.2) ∧
      (r.1 ≠ 0 → r.1 = -enospc) ∧
      (∃ out, (scriptOuts policy buf).getLast? = some out ∧
        r = (if (out.printf (scriptFooter policy)).failed then -enospc else 0,
          (out.printf (scriptFooter policy)).buf)) ∧
      (∀ out ∈ scriptOuts policy buf, Inside buf.length out) ∧
      (scriptText policy).length < 2 ^ 31 ∧
      ∀ rule ∈ usedRules policy, 0 ≤ (generateRuleLine 256 rule).1 ∧
        (generateRuleLine 256 rule).1 < 256 ∧ (generateRuleLine 256 rule).2 = ruleLine rule := by
  obtain ⟨hfits, hprefix⟩ := generateScript_spec h buf
  exact ⟨hfits, hprefix, (generateScript_enospc_iff hbuf).mpr, generateScript_of_outs policy hbuf,
    scriptOuts_inside policy hbuf, scriptText_small hcount h,
    fun rule hrule => generateRuleLine_fits (h rule hrule)⟩

theorem script_is_exact_one_rule :
    let policy := onePort (ascii "S7")
    (secPolicyGenerateScript policy (List.replicate 400 nul)).1 = 0 := by
  intro policy
  rw [(script_is_exact policy _ (by decide) (by decide) (by decide)).1, scriptText_length]
  decide

end PnetManager.ScriptBuffer
