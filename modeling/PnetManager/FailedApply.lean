import PnetManager.PolicyApply
import PnetManager.SystemCalls

/-!
# An apply that fails

Any command of iptables may be refused. The script stops at its first failing
line and nothing takes back what the lines in front of it have done: the flush
and these lines stay in force.
-/

namespace PnetManager.FailedApply
open CText CNumber CStdio SystemCalls SecurityPolicy FirewallScript ScriptLines Iptables
  RuleMeaning ChainTables FirewallShell PolicyApply

set_option maxRecDepth 2000

variable (portOk : ℕ → Bool) (other : Text → Bool)

def lineEffect (line : Text) (t : Firewall) : Option Firewall :=
  if (runLine portOk other line t).1 then some (runLine portOk other line t).2 else none

/-- A command of iptables is a call that may be refused. -/
def hostLine (line : Text) (host : Host Firewall) : Bool × Host Firewall :=
  if (lineWords line).head? = some (ascii "iptables") then
    host.call (lineEffect portOk other line)
  else ((lineOps portOk other line).isSome, host)

def hostLines : Bool → Bool → List Text → Host Firewall → Bool × Host Firewall
  | _, status, [], host => (status, host)
  | errexit, _, line :: lines, host =>
    let (ok, host) := hostLine portOk other line host
    if errexit ∧ ok = false then (false, host)
    else hostLines (errexit || line = ascii "set -e") ok lines host

def hostShell (script : Text) (host : Host Firewall) : ℤ × Host Firewall :=
  let (ok, host) := hostLines portOk other false true (executedLines script) host
  (if ok then 0 else 256, host)

theorem lineEffect_of_some {line : Text} {ops : List (Op Text Rule)}
    (h : lineOps portOk other line = some ops) (t : Firewall) :
    lineEffect portOk other line t = if Present ops t then some (applyOps ops t) else none := by
  rw [lineEffect, runLine_of_some portOk other h]
  split_ifs <;> simp_all

theorem lineEffect_of_none {line : Text} (h : lineOps portOk other line = none) (t : Firewall) :
    lineEffect portOk other line t = none := by
  rw [lineEffect, runLine_of_none portOk other h]
  rfl

theorem lineOps_of_other {line : Text} {ops : List (Op Text Rule)}
    (hhead : (lineWords line).head? ≠ some (ascii "iptables"))
    (h : lineOps portOk other line = some ops) : ops = [] := by
  rw [lineOps, if_neg hhead] at h
  split_ifs at h
  exact (Option.some.inj h).symm

theorem hostLine_done {line : Text} {host host' : Host Firewall}
    (h : hostLine portOk other line host = (true, host')) :
    ∃ ops, lineOps portOk other line = some ops ∧ host'.env = applyOps ops host.env := by
  rw [hostLine] at h
  split_ifs at h with hhead
  · have heffect := Host.call_done h
    cases hops : lineOps portOk other line with
    | none => simp [lineEffect_of_none portOk other hops] at heffect
    | some ops =>
      rw [lineEffect_of_some portOk other hops] at heffect
      split_ifs at heffect
      exact ⟨ops, rfl, (Option.some.inj heffect).symm⟩
  · obtain ⟨hsome, rfl⟩ := Prod.mk.inj h
    obtain ⟨ops, hops⟩ := Option.isSome_iff_exists.mp hsome
    obtain rfl := lineOps_of_other portOk other hhead hops
    exact ⟨[], hops, (applyOps_nil _).symm⟩

theorem hostLine_failed {line : Text} {host host' : Host Firewall}
    (h : hostLine portOk other line host = (false, host')) : host'.env = host.env := by
  rw [hostLine] at h
  split_ifs at h
  · exact Host.call_refused h
  · rw [← (Prod.mk.inj h).2]

theorem hostLine_of_none {line : Text} {ops : List (Op Text Rule)} (host : Host Firewall)
    (hhead : (lineWords line).head? ≠ some (ascii "iptables"))
    (h : lineOps portOk other line = some ops) :
    hostLine portOk other line host = (true, host) := by
  rw [hostLine, if_neg hhead, h]
  rfl

theorem hostLines_nil (errexit status : Bool) (host : Host Firewall) :
    hostLines portOk other errexit status [] host = (status, host) := rfl

theorem hostLines_cons (status : Bool) (line : Text) (lines : List Text) (host : Host Firewall) :
    hostLines portOk other true status (line :: lines) host =
      if (hostLine portOk other line host).1 then
        hostLines portOk other true true lines (hostLine portOk other line host).2
      else (false, (hostLine portOk other line host).2) := by
  rw [hostLines]
  cases hok : (hostLine portOk other line host).1 <;> simp [hok]

theorem hostLines_done {lines : List Text} {host host' : Host Firewall}
    (h : hostLines portOk other true true lines host = (true, host')) :
    ∃ ops, linesOps portOk other lines = some ops ∧ host'.env = applyOps ops host.env := by
  induction lines generalizing host with
  | nil =>
    rw [hostLines_nil] at h
    exact ⟨[], rfl, by rw [applyOps_nil, (Prod.mk.inj h).2]⟩
  | cons line lines ih =>
    rw [hostLines_cons] at h
    split_ifs at h with hok
    · obtain ⟨ops, hops, henv⟩ := hostLine_done portOk other (Prod.ext hok rfl)
      obtain ⟨rest, hrest, hall⟩ := ih h
      refine ⟨ops ++ rest, ?_, ?_⟩
      · rw [linesOps, hops, hrest]
        rfl
      · rw [hall, henv, applyOps_append]
    · simp at h

theorem hostLines_failed {lines : List Text} {host host' : Host Firewall}
    (h : hostLines portOk other true true lines host = (false, host')) :
    ∃ before line after mid, lines = before ++ line :: after ∧
      hostLines portOk other true true before host = (true, mid) ∧
      hostLine portOk other line mid = (false, host') := by
  induction lines generalizing host with
  | nil => simp [hostLines_nil] at h
  | cons line lines ih =>
    rw [hostLines_cons] at h
    split_ifs at h with hok
    · obtain ⟨before, bad, after, mid, hlines, hbefore, hbad⟩ := ih h
      refine ⟨line :: before, bad, after, mid, by rw [hlines, List.cons_append], ?_, hbad⟩
      rw [hostLines_cons, if_pos hok, hbefore]
    · refine ⟨[], line, lines, host, rfl, rfl, ?_⟩
      rw [← (Prod.mk.inj h).2]
      exact Prod.ext (by simpa using hok) rfl

def afterFlush (host : Host Firewall) : Host Firewall :=
  ⟨if host.outcomes.headD true then applyOps [.flush pnetChain] host.env else host.env,
    host.outcomes.tail⟩

theorem hostShell_flush (host : Host Firewall) :
    (hostShell portOk other flushLine host).2 = afterFlush host := by
  have hlines : executedLines flushLine = [flushLine] := by decide
  have hhead : (lineWords flushLine).head? = some (ascii "iptables") := by decide
  have hcall : (host.call (lineEffect portOk other flushLine)).2 = afterFlush host := by
    have heffect := lineEffect_of_some portOk other (lineOps_flushLine portOk other) host.env
    rw [Host.call, heffect, afterFlush]
    cases host.outcomes.headD true with
    | false => rfl
    | true =>
      by_cases hpres : Present [.flush pnetChain] host.env
      · rw [if_pos hpres]
        rfl
      · have habsent : (host.env pnetChain).isSome = false := by
          simpa [Present, Op.chain] using hpres
        rw [if_neg hpres, applyOps_flush_of_absent habsent]
        rfl
  rw [hostShell, hlines, hostLines, hostLine, if_pos hhead]
  simpa [hostLines_nil] using hcall

theorem hostShell_failed {policy : SecPolicy} {host : Host Firewall}
    (h : (hostShell portOk other (scriptText policy) host).1 ≠ 0) :
    ∃ before line after mid ops, executedLines (scriptText policy) = before ++ line :: after ∧
      hostLines portOk other true true before host = (true, mid) ∧
      hostLine portOk other line mid =
        (false, (hostShell portOk other (scriptText policy) host).2) ∧
      linesOps portOk other before = some ops ∧
      (hostShell portOk other (scriptText policy) host).2.env = applyOps ops host.env := by
  have hset (host : Host Firewall) : hostLine portOk other (ascii "set -e") host = (true, host) :=
    hostLine_of_none portOk other host (by decide) (by rfl)
  have hrun : hostLines portOk other false true (executedLines (scriptText policy)) host =
      hostLines portOk other true true (executedLines (scriptText policy)) host := by
    rw [executedLines_scriptText, List.cons_append, hostLines, hostLines, hset]
    rfl
  have hfailed : hostLines portOk other true true (executedLines (scriptText policy)) host =
      (false, (hostShell portOk other (scriptText policy) host).2) := by
    rw [hostShell, hrun] at h ⊢
    refine Prod.ext ?_ rfl
    cases hok : (hostLines portOk other true true (executedLines (scriptText policy)) host).1 with
    | false => rfl
    | true => simp [hok] at h
  obtain ⟨before, line, after, mid, hlines, hbefore, hline⟩ := hostLines_failed portOk other hfailed
  obtain ⟨ops, hops, henv⟩ := hostLines_done portOk other hbefore
  refine ⟨before, line, after, mid, ops, hlines, hbefore, hline, hops, ?_⟩
  rw [hostLine_failed portOk other hline, henv]

/-- An apply that fails has changed nothing if its script was not generated;
otherwise it leaves behind its flush and the lines in front of the first one that
failed. -/
theorem failed_apply_leaves_prefix {policy : SecPolicy} (script : CharArray 4096)
    (h : ∀ r ∈ usedRules policy, r.comment.Terminated) (host : Host Firewall)
    (hret : (secPolicyApply (hostShell portOk other) script policy host).1 < 0) :
    let r := secPolicyApply (hostShell portOk other) script policy host
    r.1 = -enospc ∧ r.2 = host ∨
      r.1 = -eio ∧ ∃ before line after mid ops,
        executedLines (scriptText policy) = before ++ line :: after ∧
        hostLines portOk other true true before (afterFlush host) = (true, mid) ∧
        hostLine portOk other line mid = (false, r.2) ∧
        linesOps portOk other before = some ops ∧
        r.2.env = applyOps ops (afterFlush host).env := by
  intro r
  by_cases hfits : (scriptText policy).length < 4096
  · right
    have hrun := secPolicyApply_of_fits (hostShell portOk other) script h hfits host
    rw [hostShell_flush] at hrun
    have hne : (hostShell portOk other (scriptText policy) (afterFlush host)).1 ≠ 0 := by
      intro hzero
      rw [hrun, if_pos hzero] at hret
      exact lt_irrefl 0 hret
    have hr : r = (-eio, (hostShell portOk other (scriptText policy) (afterFlush host)).2) := by
      rw [if_neg hne] at hrun
      exact hrun
    rw [hr]
    refine ⟨rfl, ?_⟩
    dsimp only
    exact hostShell_failed portOk other hne
  · have hr : r = (-enospc, host) := secPolicyApply_of_not_fits _ script h hfits host
    exact Or.inl ⟨by rw [hr], by rw [hr]⟩

def tcpRule (port : UInt32) : SecRule := { SecRule.zeroed with protocol := 6, dstPort := port }

def twoPorts : SecPolicy :=
  (secPolicyAddRule (secPolicyAddRule (secPolicyInit .zeroed).2 (tcpRule 102)).2 (tcpRule 502)).2

def secondRefused : Host Firewall := ⟨builtinChains, [true, true, false]⟩

theorem terminated_twoPorts : ∀ r ∈ usedRules twoPorts, r.comment.Terminated := by decide

theorem secPolicyApply_twoPorts :
    secPolicyApply (hostShell isPort fun _ => false) (.zeroed 4096) twoPorts secondRefused =
      (-eio, (hostShell isPort (fun _ => false) (scriptText twoPorts)
        (afterFlush secondRefused)).2) := by
  have hfits : (scriptText twoPorts).length < 4096 := by decide
  have happly := secPolicyApply_of_fits (hostShell isPort fun _ => false) (.zeroed 4096)
    terminated_twoPorts hfits secondRefused
  rw [hostShell_flush, if_neg (by decide)] at happly
  exact happly

theorem failed_apply_leaves_prefix_two_ports :
    let r := secPolicyApply (hostShell isPort fun _ => false) (.zeroed 4096) twoPorts secondRefused
    r.1 = -eio ∧ ∃ before line after mid ops,
      executedLines (scriptText twoPorts) = before ++ line :: after ∧
      hostLines isPort (fun _ => false) true true before (afterFlush secondRefused) =
        (true, mid) ∧
      hostLine isPort (fun _ => false) line mid = (false, r.2) ∧
      linesOps isPort (fun _ => false) before = some ops ∧
      r.2.env = applyOps ops (afterFlush secondRefused).env := by
  have hret : (secPolicyApply (hostShell isPort fun _ => false) (.zeroed 4096) twoPorts
      secondRefused).1 = -eio := by
    rw [secPolicyApply_twoPorts]
  rcases failed_apply_leaves_prefix isPort (fun _ => false) (.zeroed 4096)
    terminated_twoPorts secondRefused (by rw [hret]; decide) with henospc | heio
  · rw [hret] at henospc
    exact absurd henospc.1 (by decide)
  · exact heio

theorem failed_apply_installs_first_rule :
    let r := secPolicyApply (hostShell isPort fun _ => false) (.zeroed 4096) twoPorts secondRefused
    r.1 = -eio ∧
      r.2.env (ascii "INPUT") = some [⟨⟨none, some 6, some 102⟩, some (ascii "ACCEPT")⟩] ∧
      r.2.env ≠ secondRefused.env := by
  intro r
  have hinput : r.2.env (ascii "INPUT") =
      some [⟨⟨none, some 6, some 102⟩, some (ascii "ACCEPT")⟩] := by
    have hrun : r = _ := secPolicyApply_twoPorts
    rw [hrun]
    decide
  refine ⟨congrArg Prod.fst secPolicyApply_twoPorts, hinput, fun he => ?_⟩
  rw [he] at hinput
  simp [secondRefused, builtinChains] at hinput

end PnetManager.FailedApply
