import PnetManager.ByteMemory
import PnetManager.SecurityAudit

/-!
# The audit report in memory

The notes are printed without a look at the room that is left. Behind the end of
the report `len - offset` wraps around, and `snprintf` is told of room that is not
there.
-/

namespace PnetManager.AuditMemory
open CText CNumber CStdio ByteMemory SecurityPolicy FirewallScript SecurityAudit

set_option maxRecDepth 2000

def noteAt (len : UInt64) (a : Report × ℤ) (check : Bool × Text × Bool) : Report × ℤ :=
  if check.1 then
    (a.1.print len (check.2.1 ++ [lf]), if check.2.2 then a.2 + 1 else a.2)
  else a

/-- `sec_policy_audit` on a report of `len` bytes and the memory behind it. -/
def secPolicyAuditAt (policy : SecPolicy) (len : UInt64) (mem : Mem) : ℤ × Report :=
  if len = 0 then (-einval, ⟨mem, 0, []⟩)
  else
    let r := Report.print len ⟨mem, 0, []⟩ (auditHeader policy)
    if len.toNat ≤ r.offset then (-enospc, r)
    else
      let (r, warnings) := (auditChecks policy).foldl (noteAt len) (r, 0)
      let r := r.print len (auditSummary warnings)
      (if len.toNat ≤ r.offset then -enospc else warnings, r)

structure Mirrors (len : ℕ) (r : Report) (out : Out) : Prop where
  window_eq : window r.mem len = out.buf
  offset_eq : r.offset = out.offset

theorem Mirrors.print {len : UInt64} {r : Report} {out : Out} (h : Mirrors len.toNat r out)
    (text : Text) : Mirrors len.toNat (r.print len text) (out.print text) := by
  refine ⟨?_, congrArg (· + text.length) h.offset_eq⟩
  simp only [Report.print, Out.print, ← h.offset_eq, ← h.window_eq, window_length]
  rcases Nat.lt_or_ge len.toNat r.offset with hgt | hle
  · have hzero : len.toNat - r.offset = 0 := by omega
    rw [window_snprintfAt_behind hgt.le, hzero, snprintf, if_pos rfl]
  · rw [room_of_le hle, window_snprintfAt]

theorem Mirrors.printf {len : UInt64} {r : Report} {out : Out} (h : Mirrors len.toNat r out)
    (hok : out.failed = false) (text : Text) :
    window (r.print len text).mem len.toNat = (out.printf text).buf ∧
      ((out.printf text).failed = true ↔ len.toNat ≤ (r.print len text).offset) ∧
      ((out.printf text).failed = false →
        Mirrors len.toNat (r.print len text) (out.printf text)) := by
  have hprint := h.print text
  have hlen : out.buf.length = len.toNat := by rw [← h.window_eq, window_length]
  have hoffset : (r.print len text).offset = out.offset + text.length := hprint.offset_eq
  rw [hoffset, Out.printf, hok, if_neg Bool.false_ne_true, hlen]
  rw [Out.print, hlen] at hprint
  dsimp only
  split_ifs with hfull
  · exact ⟨hprint.window_eq, by simpa using hfull, by simp⟩
  · exact ⟨hprint.window_eq, by simpa [hok] using hfull, fun _ => ⟨hprint.window_eq, hoffset⟩⟩

theorem Mirrors.foldl {len : UInt64} {r : Report} {out : Out} (h : Mirrors len.toNat r out)
    (n : ℤ) (checks : List (Bool × Text × Bool)) :
    Mirrors len.toNat (checks.foldl (noteAt len) (r, n)).1 (checks.foldl auditCheck (out, n)).1 ∧
      (checks.foldl (noteAt len) (r, n)).2 = (checks.foldl auditCheck (out, n)).2 ∧
      (checks.foldl auditCheck (out, n)).1.failed = out.failed := by
  induction checks generalizing r out n with
  | nil => exact ⟨h, rfl, rfl⟩
  | cons c checks ih =>
    rw [List.foldl_cons, List.foldl_cons, noteAt, auditCheck]
    split_ifs
    · exact ih (h.print _) (n + 1)
    · exact ih (h.print _) n
    · exact ih h n

theorem secPolicyAuditAt_window (policy : SecPolicy) (len : UInt64) (mem : Mem) :
    (secPolicyAuditAt policy len mem).1 = (secPolicyAudit policy (window mem len.toNat)).1 ∧
      window (secPolicyAuditAt policy len mem).2.mem len.toNat =
        (secPolicyAudit policy (window mem len.toNat)).2 := by
  by_cases hzero : len = 0
  · subst hzero
    exact ⟨rfl, rfl⟩
  · have hne : window mem len.toNat ≠ [] := by
      intro hnil
      have hlen := congrArg List.length hnil
      rw [window_length, List.length_nil] at hlen
      exact hzero (UInt64.toNat_inj.mp hlen)
    have hstart : Mirrors len.toNat ⟨mem, 0, []⟩ (Out.start (window mem len.toNat)) := ⟨rfl, rfl⟩
    obtain ⟨hbuf, hfull, hmirrors⟩ := hstart.printf rfl (auditHeader policy)
    rw [secPolicyAuditAt, if_neg hzero, secPolicyAudit, if_neg hne]
    dsimp only
    by_cases hheader : len.toNat ≤ (Report.print len ⟨mem, 0, []⟩ (auditHeader policy)).offset
    · rw [if_pos hheader, if_pos (hfull.mpr hheader)]
      exact ⟨rfl, hbuf⟩
    · have hroom := Bool.not_eq_true _ ▸ mt hfull.mp hheader
      obtain ⟨hnotes, hwarnings, hfailed⟩ := (hmirrors hroom).foldl 0 (auditChecks policy)
      rw [if_neg hheader, if_neg (mt hfull.mp hheader)]
      obtain ⟨hbuf, hfull, -⟩ := hnotes.printf (hfailed.trans hroom)
        (auditSummary ((auditChecks policy).foldl auditCheck
          ((Out.start (window mem len.toNat)).printf (auditHeader policy), 0)).2)
      rw [hwarnings]
      refine ⟨?_, hbuf⟩
      simp only [hfull]

def noteBytes (checks : List (Bool × Text × Bool)) : ℕ :=
  ((notes checks).map (· ++ [lf])).flatten.length

theorem noteBytes_cons (c : Bool × Text × Bool) (checks : List (Bool × Text × Bool)) :
    noteBytes (c :: checks) = (if c.1 then c.2.1.length + 1 else 0) + noteBytes checks := by
  rw [noteBytes, noteBytes, notes, notes, List.filter_cons]
  split_ifs
  · rw [List.map_cons, List.map_cons, List.flatten_cons, List.length_append, List.length_append,
      List.length_singleton]
  · rw [Nat.zero_add]

theorem warningCount_cons (c : Bool × Text × Bool) (checks : List (Bool × Text × Bool)) :
    warningCount (c :: checks) = (if c.1 && c.2.2 then 1 else 0) + warningCount checks := by
  rw [warningCount, warningCount, List.filter_cons]
  split_ifs
  · rw [List.length_cons]
    push_cast
    ring
  · rw [zero_add]

variable {len : UInt64}

theorem foldl_noteAt (len : UInt64) (r : Report) (n : ℤ) (checks : List (Bool × Text × Bool)) :
    (checks.foldl (noteAt len) (r, n)).1.offset = r.offset + noteBytes checks ∧
      (checks.foldl (noteAt len) (r, n)).2 = n + warningCount checks ∧
      ∀ o ∈ (checks.foldl (noteAt len) (r, n)).1.starts,
        o ∈ r.starts ∨ o ≤ r.offset + noteBytes checks := by
  induction checks generalizing r n with
  | nil => exact ⟨rfl, (add_zero n).symm, fun o ho => Or.inl ho⟩
  | cons c checks ih =>
    obtain ⟨given, text, counted⟩ := c
    rw [List.foldl_cons, noteBytes_cons, warningCount_cons, noteAt]
    cases given with
    | false => simpa using ih r n
    | true =>
      obtain ⟨hoffset, hcount, hstarts⟩ :=
        ih (r.print len (text ++ [lf])) (if counted then n + 1 else n)
      have hprint : (r.print len (text ++ [lf])).offset = r.offset + (text.length + 1) := by
        simp [Report.print]
      simp only [if_true, Bool.true_and, hprint] at hoffset hcount hstarts ⊢
      refine ⟨hoffset.trans (Nat.add_assoc _ _ _), ?_, ?_⟩
      · rw [hcount]
        split_ifs <;> ring
      · intro o ho
        rcases hstarts o ho with hold | hle
        · rcases List.mem_append.mp hold with hold | hnew
          · exact Or.inl hold
          · rw [List.mem_singleton.mp hnew]
            exact Or.inr (Nat.le_add_right _ _)
        · exact Or.inr (by omega)

theorem foldl_outside {r : Report} (n : ℤ) {checks : List (Bool × Text × Bool)}
    (h : r.offset + noteBytes checks ≤ len.toNat) {a : ℕ} (ha : len.toNat ≤ a) :
    (checks.foldl (noteAt len) (r, n)).1.mem a = r.mem a := by
  induction checks generalizing r n with
  | nil => rfl
  | cons c checks ih =>
    obtain ⟨given, text, counted⟩ := c
    rw [noteBytes_cons] at h
    rw [List.foldl_cons, noteAt]
    cases given with
    | false => exact ih n (by simpa using h)
    | true =>
      simp only [if_true] at h ⊢
      have hprint : (r.print len (text ++ [lf])).offset = r.offset + (text.length + 1) := by
        simp [Report.print]
      rw [ih _ (by omega), print_outside (by omega) _ ha]

def headerSize (policy : SecPolicy) : ℕ :=
  83 + (fmtD policy.ruleCount).length + if policy.enabled then 3 else 2

def notesSize (policy : SecPolicy) : ℕ :=
  (if policy.enabled then 0 else 50) + (if policy.ruleCount = 0 then 33 else 0) +
    (if hasDefaultDeny policy then 0 else 43) + (if hasIpsecRules policy then 0 else 91) +
    (if 0 < inactiveCount policy then 33 + (fmtD (inactiveCount policy)).length else 0) +
    if 48 < policy.ruleCount then
      65 + (fmtD (policy.ruleCount * 100 / 64)).length + (fmtD policy.ruleCount).length
    else 0

theorem auditHeader_length (policy : SecPolicy) :
    (auditHeader policy).length = headerSize policy := by
  have h1 : (ascii "=== PROFINET Security Policy Audit Report ===\nTotal rules: ").length = 59 := by
    decide
  have h2 : (ascii " / ").length = 3 := by decide
  have h3 : (fmtD maxFwRules).length = 2 := by decide
  have h4 : (ascii "\nPolicy enabled: ").length = 17 := by decide
  have h5 : (ascii "yes").length = 3 := by decide
  have h6 : (ascii "no").length = 2 := by decide
  have h7 : (ascii "\n\n").length = 2 := by decide
  rw [auditHeader, headerSize]
  split_ifs <;> simp only [List.length_append, h1, h2, h3, h4, h5, h6, h7] <;> omega

theorem fullWarning_length (policy : SecPolicy) :
    (fullWarning policy).length =
      64 + (fmtD (policy.ruleCount * 100 / 64)).length + (fmtD policy.ruleCount).length := by
  have h1 : (ascii "[WARN] Rule table is ").length = 21 := by decide
  have h2 : (ascii "% full (").length = 8 := by decide
  have h3 : (fmtD maxFwRules).length = 2 := by decide
  have h4 : (ascii "/").length = 1 := by decide
  have h5 : (ascii ") - consider consolidating rules").length = 32 := by decide
  simp only [fullWarning, List.length_append, h1, h2, h3, h4, h5]
  rw [show (maxFwRules : ℤ) = 64 from rfl]
  omega

theorem noteBytes_auditChecks (policy : SecPolicy) :
    noteBytes (auditChecks policy) = notesSize policy := by
  have h1 : disabledWarning.length = 49 := by decide
  have h2 : noRulesWarning.length = 32 := by decide
  have h3 : noDefaultDenyWarning.length = 42 := by decide
  have h4 : noIpsecWarning.length = 90 := by decide
  have h5 : (inactiveNote policy).length = 32 + (fmtD (inactiveCount policy)).length := by
    have h5a : (ascii "[INFO] ").length = 7 := by decide
    have h5b : (ascii " inactive rule(s) present").length = 25 := by decide
    simp only [inactiveNote, List.length_append, h5a, h5b]
    omega
  have hmax : (maxFwRules * 3 / 4 : ℤ) = 48 := rfl
  have hnil : noteBytes [] = 0 := rfl
  have hnot (b : Bool) (n : ℕ) : (if (!b) = true then n else 0) = if b then 0 else n := by
    cases b <;> rfl
  simp only [auditChecks, noteBytes_cons, hnil, h1, h2, h3, h4, h5, fullWarning_length, hmax,
    notesSize, hnot, decide_eq_true_eq]
  ring_nf

variable (policy : SecPolicy) (mem : Mem)

def summaryText : Text := auditSummary (warningCount (auditChecks policy))

theorem auditText_length :
    (auditText policy).length =
      headerSize policy + notesSize policy + (summaryText policy).length := by
  rw [← auditHeader_length, ← noteBytes_auditChecks]
  simp [auditText, auditTexts, noteBytes, summaryText, Nat.add_assoc]

def beforeSummary (len : UInt64) : Report :=
  ((auditChecks policy).foldl (noteAt len)
    (Report.print len ⟨mem, 0, []⟩ (auditHeader policy), 0)).1

theorem auditAt_short (hlen : len ≠ 0) (h : len.toNat ≤ headerSize policy) :
    secPolicyAuditAt policy len mem =
      (-enospc, Report.print len ⟨mem, 0, []⟩ (auditHeader policy)) := by
  rw [← auditHeader_length] at h
  rw [secPolicyAuditAt, if_neg hlen]
  dsimp only
  rw [if_pos (by simpa [Report.print] using h)]

theorem beforeSummary_spec (len : UInt64) :
    (beforeSummary policy mem len).offset = headerSize policy + notesSize policy ∧
      ∀ o ∈ (beforeSummary policy mem len).starts, o ≤ headerSize policy + notesSize policy := by
  obtain ⟨hoffset, -, hstarts⟩ := foldl_noteAt len
    (Report.print len ⟨mem, 0, []⟩ (auditHeader policy)) 0 (auditChecks policy)
  have hheader : (Report.print len ⟨mem, 0, []⟩ (auditHeader policy)).offset =
      headerSize policy := by
    simp [Report.print, auditHeader_length]
  rw [hheader, noteBytes_auditChecks] at hoffset hstarts
  refine ⟨hoffset, fun o ho => ?_⟩
  rcases hstarts o ho with hfirst | hle
  · obtain rfl : o = 0 := by simpa [Report.print] using hfirst
    exact Nat.zero_le _
  · exact hle

theorem auditAt_long (h : headerSize policy < len.toNat) :
    secPolicyAuditAt policy len mem =
      (if len.toNat ≤ (auditText policy).length then -enospc
        else warningCount (auditChecks policy),
        (beforeSummary policy mem len).print len (summaryText policy)) := by
  have hlen : len ≠ 0 := fun hzero => by simp [hzero] at h
  obtain ⟨-, hcount, -⟩ := foldl_noteAt len
    (Report.print len ⟨mem, 0, []⟩ (auditHeader policy)) 0 (auditChecks policy)
  have hsummary : ((beforeSummary policy mem len).print len (summaryText policy)).offset =
      (auditText policy).length := by
    rw [auditText_length, ← (beforeSummary_spec policy mem len).1]
    rfl
  rw [← auditHeader_length] at h
  rw [secPolicyAuditAt, if_neg hlen]
  dsimp only
  rw [if_neg (by simpa [Report.print] using h), hcount, zero_add, ← summaryText, ← beforeSummary,
    hsummary]

/-- What a caller may rely on: every text starts inside the report, nothing behind
it is written, and the whole text is there unless the call fails for lack of
space. -/
structure SafeReport (len : UInt64) : Prop where
  starts_le : ∀ o ∈ (secPolicyAuditAt policy len mem).2.starts, o ≤ len.toNat
  outside : ∀ a, len.toNat ≤ a → (secPolicyAuditAt policy len mem).2.mem a = mem a
  enospc_iff : (secPolicyAuditAt policy len mem).1 = -enospc ↔
    len.toNat ≤ (auditText policy).length
  complete : (secPolicyAuditAt policy len mem).1 ≠ -enospc →
    auditText policy ++ [nul] <+: window (secPolicyAuditAt policy len mem).2.mem len.toNat

theorem auditAt_enospc_iff (hlen : len ≠ 0) :
    (secPolicyAuditAt policy len mem).1 = -enospc ↔ len.toNat ≤ (auditText policy).length := by
  have hcount : warningCount (auditChecks policy) ≠ -enospc := by
    have hpos : 0 ≤ warningCount (auditChecks policy) := Int.natCast_nonneg _
    simp only [enospc]
    omega
  have htext := auditText_length policy
  rcases Nat.lt_or_ge (headerSize policy) len.toNat with hlong | hshort
  · rw [auditAt_long policy mem hlong]
    simp [hcount]
  · rw [auditAt_short policy mem hlen hshort]
    exact iff_of_true rfl (by omega)

theorem auditAt_complete (hlen : len ≠ 0)
    (h : (secPolicyAuditAt policy len mem).1 ≠ -enospc) :
    auditText policy ++ [nul] <+: window (secPolicyAuditAt policy len mem).2.mem len.toNat := by
  rw [ne_eq, auditAt_enospc_iff policy mem hlen, not_le] at h
  rw [(secPolicyAuditAt_window policy len mem).2]
  exact (secPolicyAudit_spec (by rwa [window_length])).2

theorem safeReport_of_short (hlen : len ≠ 0) (h : len.toNat ≤ headerSize policy) :
    SafeReport policy mem len where
  starts_le := by
    rw [auditAt_short policy mem hlen h]
    intro o ho
    obtain rfl : o = 0 := by simpa [Report.print] using ho
    exact Nat.zero_le _
  outside := by
    rw [auditAt_short policy mem hlen h]
    exact fun a ha => print_outside (r := ⟨mem, 0, []⟩) (Nat.zero_le _) _ ha
  enospc_iff := auditAt_enospc_iff policy mem hlen
  complete := auditAt_complete policy mem hlen

theorem safeReport_of_room (hlen : len ≠ 0) (hlong : headerSize policy < len.toNat)
    (h : headerSize policy + notesSize policy ≤ len.toNat) : SafeReport policy mem len where
  starts_le := by
    obtain ⟨hoffset, hstarts⟩ := beforeSummary_spec policy mem len
    rw [auditAt_long policy mem hlong]
    intro o ho
    rcases List.mem_append.mp ho with hbefore | hlast
    · exact (hstarts o hbefore).trans h
    · rw [List.mem_singleton.mp hlast, hoffset]
      exact h
  outside := by
    intro a ha
    have hheader : (Report.print len ⟨mem, 0, []⟩ (auditHeader policy)).offset =
        headerSize policy := by
      simp [Report.print, auditHeader_length]
    rw [auditAt_long policy mem hlong]
    dsimp only
    rw [print_outside (by rw [(beforeSummary_spec policy mem len).1]; exact h) _ ha, beforeSummary,
      foldl_outside 0 (by rw [hheader, noteBytes_auditChecks]; exact h) ha]
    exact print_outside (r := ⟨mem, 0, []⟩) (Nat.zero_le _) _ ha
  enospc_iff := auditAt_enospc_iff policy mem hlen
  complete := auditAt_complete policy mem hlen

theorem summary_start_mem (hlong : headerSize policy < len.toNat) :
    headerSize policy + notesSize policy ∈ (secPolicyAuditAt policy len mem).2.starts := by
  rw [auditAt_long policy mem hlong]
  dsimp only
  rw [Report.print, ← (beforeSummary_spec policy mem len).1]
  exact List.mem_append_right _ (List.mem_singleton_self _)

theorem overrun_writes (hlong : headerSize policy < len.toNat)
    (h : len.toNat < headerSize policy + notesSize policy)
    (hsmall : headerSize policy + notesSize policy < 2 ^ 64) :
    (secPolicyAuditAt policy len mem).2.mem (headerSize policy + notesSize policy) = lf := by
  obtain ⟨hoffset, -⟩ := beforeSummary_spec policy mem len
  have hroom := room_of_gt h hsmall
  rw [auditAt_long policy mem hlong]
  dsimp only
  rw [Report.print, hoffset, hroom]
  exact snprintfAt_first lf _ (by omega)

/-- A report is safe exactly when not even the header fits or the header and all
notes do. -/
theorem audit_safe_iff (len : UInt64) (hlen : len ≠ 0) :
    SafeReport policy mem len ↔
      len.toNat ≤ headerSize policy ∨ headerSize policy + notesSize policy ≤ len.toNat := by
  constructor
  · intro hsafe
    rcases Nat.lt_or_ge (headerSize policy) len.toNat with hlong | hshort
    · exact Or.inr (hsafe.starts_le _ (summary_start_mem policy mem hlong))
    · exact Or.inl hshort
  · intro h
    rcases Nat.lt_or_ge (headerSize policy) len.toNat with hlong | hshort
    · exact safeReport_of_room policy mem hlen hlong (h.resolve_left (by omega))
    · exact safeReport_of_short policy mem hlen hshort

def threeRules : SecPolicy :=
  let policy := [{ SecRule.zeroed with dstPort := 102, protocol := 6, action := .accept },
    { SecRule.zeroed with dstPort := 34964, protocol := 17, action := .accept },
    { SecRule.zeroed with chain := .output }].foldl
      (fun policy rule => (secPolicyAddRule policy rule).2) (secPolicyInit .zeroed).2
  { policy with rules := policy.rules.set 1 { policy.rules[1] with active := false } }

theorem audit_safe_iff_generous :
    threeRules.ruleCount = 3 ∧ inactiveCount threeRules = 1 ∧
      SafeReport threeRules (fun _ => nul) 1024 :=
  ⟨by decide, by decide, (audit_safe_iff threeRules _ 1024 (by decide)).mpr (by decide)⟩

theorem small_report_is_overrun :
    let policy := (secPolicyInit .zeroed).2
    ¬ SafeReport policy (fun _ => nul) 100 ∧
      (secPolicyAuditAt policy 100 fun _ => nul).2.mem 303 = lf := by
  intro policy
  have hheader : headerSize policy = 86 := by decide
  have hnotes : notesSize policy = 217 := by decide
  have hlf : (secPolicyAuditAt policy 100 fun _ => nul).2.mem (headerSize policy +
      notesSize policy) = lf :=
    overrun_writes policy _ (by rw [hheader]; decide) (by rw [hheader, hnotes]; decide)
      (by rw [hheader, hnotes]; decide)
  rw [hheader, hnotes] at hlf
  refine ⟨fun hsafe => ?_, hlf⟩
  have hsame := hsafe.outside 303 (by decide)
  rw [hlf] at hsame
  exact absurd hsame (by decide)

end PnetManager.AuditMemory
