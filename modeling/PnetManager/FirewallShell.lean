import PnetManager.ChainTables
import PnetManager.RuleMeaning
import PnetManager.ScriptLines

/-!
# Running a script on a firewall

The firewall is a table of chains. The shell runs a script line by line, and
stops at a failing line once it has met `set -e`. A command of iptables appends
to a chain or flushes it, and fails where it is not accepted or its chain does
not exist. Other commands leave the firewall alone: `set` and `echo` succeed,
for the rest it is a parameter whether they do.
-/

namespace PnetManager.FirewallShell
open CText CNumber SecurityPolicy FirewallScript ScriptLines Iptables RuleMeaning ChainTables

abbrev Firewall := Tables Text Rule

def opOf : Command → Op Text Rule
  | .append chain rule => .append chain rule
  | .flush chain => .flush chain

def lineWords (line : Text) : List Text :=
  let ws := line.splitOn 32
  if ws.getLast? = some (ascii "2>/dev/null") then ws.dropLast else ws

variable (portOk : ℕ → Bool) (other : Text → Bool)

/-- What a line asks of the firewall; `none` for a line that fails on any. This is meant
for the lines of a rule, of the footer and of a plain command: a comment may smuggle in an
`exit`, a `set +e` or leading blanks, which are not taken here as `sh` takes them. -/
def lineOps (line : Text) : Option (List (Op Text Rule)) :=
  let ws := lineWords line
  if ws.head? = some (ascii "iptables") then (parseWords portOk ws).map fun c => [opOf c]
  else if ws.head? = some (ascii "set") ∨ ws.head? = some (ascii "echo") ∨ other line then some []
  else none

def runLine (line : Text) (t : Firewall) : Bool × Firewall :=
  match lineOps portOk other line with
  | none => (false, t)
  | some ops => if Present ops t then (true, applyOps ops t) else (false, t)

def runLines : Bool → Bool → List Text → Firewall → Bool × Firewall
  | _, status, [], t => (status, t)
  | errexit, _, line :: lines, t =>
    let (ok, t) := runLine portOk other line t
    if errexit ∧ ok = false then (false, t)
    else runLines (errexit || line = ascii "set -e") ok lines t

/-- `system`; a failing script exits with 1. -/
def shell (script : Text) (t : Firewall) : ℤ × Firewall :=
  let (ok, t) := runLines portOk other false true (executedLines script) t
  (if ok then 0 else 256, t)

theorem lineWords_head {w : Text} (h : 32 ∉ w) (rest : Text) :
    (lineWords (w ++ 32 :: rest)).head? = some w := by
  obtain ⟨v, vs, hv⟩ := List.exists_cons_of_ne_nil (List.splitOn_ne_nil 32 rest)
  unfold lineWords
  rw [List.splitOn_append_cons_self_of_not_mem h, hv]
  dsimp only
  split_ifs <;> simp

def linesOps : List Text → Option (List (Op Text Rule))
  | [] => some []
  | line :: lines => do return (← lineOps portOk other line) ++ (← linesOps lines)

theorem linesOps_snoc {lines : List Text} {line : Text}
    (h : lineOps portOk other line = some []) :
    linesOps portOk other (lines ++ [line]) = linesOps portOk other lines := by
  induction lines with
  | nil => simp [linesOps, h]
  | cons l lines ih => simp only [List.cons_append, linesOps, ih]

theorem runLine_of_none {line : Text} (h : lineOps portOk other line = none) (t : Firewall) :
    runLine portOk other line t = (false, t) := by
  rw [runLine, h]

theorem runLine_of_some {line : Text} {ops : List (Op Text Rule)}
    (h : lineOps portOk other line = some ops) (t : Firewall) :
    runLine portOk other line t = if Present ops t then (true, applyOps ops t) else (false, t) := by
  rw [runLine, h]

theorem runLines_nil (errexit status : Bool) (t : Firewall) :
    runLines portOk other errexit status [] t = (status, t) := rfl

theorem runLines_cons (status : Bool) (line : Text) (lines : List Text) (t : Firewall) :
    runLines portOk other true status (line :: lines) t =
      if (runLine portOk other line t).1 = false then (false, (runLine portOk other line t).2)
      else runLines portOk other true true lines (runLine portOk other line t).2 := by
  rw [runLines]
  cases hok : (runLine portOk other line t).1 <;> simp [hok]

/-- With `set -e` in force the lines succeed exactly when each of them is accepted
and all their chains exist; then they have done all they ask. -/
theorem runLines_errexit (lines : List Text) (t : Firewall) :
    let r := runLines portOk other true true lines t
    (r.1 = true ↔ ∃ ops, linesOps portOk other lines = some ops ∧ Present ops t) ∧
      ∀ ops, linesOps portOk other lines = some ops → Present ops t → r.2 = applyOps ops t := by
  induction lines generalizing t with
  | nil =>
    refine ⟨iff_of_true rfl ⟨[], rfl, by simp [Present]⟩, ?_⟩
    intro ops hops _
    obtain rfl : [] = ops := by simpa [linesOps] using hops
    exact (applyOps_nil t).symm
  | cons line lines ih =>
    rw [runLines_cons, linesOps]
    cases hline : lineOps portOk other line with
    | none => simp [runLine_of_none portOk other hline]
    | some ops =>
      by_cases hpres : Present ops t
      · obtain ⟨hiff, heff⟩ := ih (applyOps ops t)
        simp only [present_applyOps_iff] at hiff heff
        rw [runLine_of_some portOk other hline, if_pos hpres]
        simp only [Bool.true_eq_false, if_false]
        cases hrest : linesOps portOk other lines with
        | none => simpa [hrest] using hiff
        | some rest =>
          have hboth : Present (ops ++ rest) t ↔ Present rest t :=
            present_append_iff.trans (and_iff_right hpres)
          simp only [hrest, Option.some.injEq, exists_eq_left'] at hiff heff
          simp only [Option.bind_eq_bind, Option.bind_some, Option.pure_def, Option.some.injEq,
            exists_eq_left', hboth]
          refine ⟨hiff, ?_⟩
          intro all hall hrun
          subst hall
          rw [heff rest rfl (hboth.mp hrun), applyOps_append]
      · rw [runLine_of_some portOk other hline, if_neg hpres]
        have hnone (rest : List (Op Text Rule)) : ¬ Present (ops ++ rest) t := fun h =>
          hpres (present_append_iff.mp h).1
        cases hrest : linesOps portOk other lines <;> simp [hnone]

end PnetManager.FirewallShell
