import PnetManager.CNumber
import PnetManager.NetworkConfig

/-!
# TCP tuning, saved and put back

The switches and the buffer sizes of the kernel, as the files that show them. A
switch is read as a truth value, and so a third position of it is lost.
-/

namespace PnetManager.TcpTuning
open CText CNumber SystemCalls NetworkConfig

set_option maxRecDepth 2000

inductive IntFile
  | tcpTimestamps
  | tcpWinScale
  | tcpSack
deriving DecidableEq

inductive TripleFile
  | tcpRmem
  | tcpWmem
deriving DecidableEq

def scanD (s : Text) : Option (Int32 × Text) :=
  let (neg, s) := splitSign (s.dropWhile isspace)
  match digitRun 10 s with
  | [] => none
  | d :: ds =>
    let v : ℤ := valueOf 10 (d :: ds)
    some (Int32.ofInt (max longMin (min longMax (if neg then -v else v))),
      s.dropWhile (isDigitOf 10))

def scanTriple (s : Text) : Option (Vector UInt32 3) := do
  let (a, s) ← scanU s
  let (b, s) ← scanU s
  let (c, _) ← scanU s
  return #v[a, b, c]

def fmtTriple (sep : Byte) (v : Vector UInt32 3) : Text :=
  fmtU v[0].toNat ++ [sep] ++ fmtU v[1].toNat ++ [sep] ++ fmtU v[2].toNat ++ [lf]

/-- What the kernel keeps. -/
@[ext]
structure Proc where
  int : IntFile → Int32
  triple : TripleFile → Vector UInt32 3

namespace Proc

def setInt (proc : Proc) (f : IntFile) (v : Int32) : Proc :=
  { proc with int := Function.update proc.int f v }

def setTriple (proc : Proc) (f : TripleFile) (v : Vector UInt32 3) : Proc :=
  { proc with triple := Function.update proc.triple f v }

def showInt (proc : Proc) (f : IntFile) : Text := fmtD (proc.int f).toInt ++ [lf]

def showTriple (proc : Proc) (f : TripleFile) : Text := fmtTriple 9 (proc.triple f)

/-- The kernel keeps the number that is written, and nothing that is none. -/
def storeInt (proc : Proc) (f : IntFile) (text : Text) : Proc :=
  match scanD text with
  | some (v, _) => proc.setInt f v
  | none => proc

def storeTriple (proc : Proc) (f : TripleFile) (text : Text) : Proc :=
  match scanTriple text with
  | some v => proc.setTriple f v
  | none => proc

end Proc

def fopen (host : Host Proc) : Bool × Host Proc := host.call some

def procWriteInt (f : IntFile) (value : Int32) (host : Host Proc) : Int32 × Host Proc :=
  match fopen host with
  | (false, host) => (-1, host)
  | (true, host) =>
    let text := fmtD value.toInt ++ [lf]
    (if 0 < text.length then 0 else -1, { host with env := host.env.storeInt f text })

def procReadInt (f : IntFile) (out : Int32) (host : Host Proc) : Int32 × Int32 × Host Proc :=
  match fopen host with
  | (false, host) => (-1, out, host)
  | (true, host) =>
    match scanD (host.env.showInt f) with
    | some (v, _) => (0, v, host)
    | none => (-1, out, host)

def procReadU32Triple (f : TripleFile) (out : Vector UInt32 3) (host : Host Proc) :
    Int32 × Vector UInt32 3 × Host Proc :=
  match fopen host with
  | (false, host) => (-1, out, host)
  | (true, host) =>
    match scanTriple (host.env.showTriple f) with
    | some v => (0, v, host)
    | none => (-1, out, host)

def procWriteU32Triple (f : TripleFile) (val : Vector UInt32 3) (host : Host Proc) :
    Int32 × Host Proc :=
  match fopen host with
  | (false, host) => (-1, host)
  | (true, host) =>
    let text := fmtTriple 32 val
    (if 0 < text.length then 0 else -1, { host with env := host.env.storeTriple f text })

/-- All five files are written, whatever becomes of the first ones. -/
def netTcpTuningApply (tuning : TcpTuningConfig) (host : Host Proc) : Int32 × Host Proc :=
  let ret := 0
  let (r, host) := procWriteInt .tcpTimestamps (if tuning.tcpTimestamps then 1 else 0) host
  let ret := ret ||| r
  let (r, host) := procWriteInt .tcpWinScale (if tuning.tcpWindowScaling then 1 else 0) host
  let ret := ret ||| r
  let (r, host) := procWriteInt .tcpSack (if tuning.tcpSack then 1 else 0) host
  let ret := ret ||| r
  let (r, host) := procWriteU32Triple .tcpRmem tuning.tcpRmem host
  let ret := ret ||| r
  let (r, host) := procWriteU32Triple .tcpWmem tuning.tcpWmem host
  let ret := ret ||| r
  (if ret = 0 then 0 else -1, host)

def netTcpTuningReadCurrent (host : Host Proc) : Int32 × TcpTuningConfig × Host Proc :=
  let tuning := TcpTuningConfig.zeroed
  let ret := 0
  let (r, ts, host) := procReadInt .tcpTimestamps 0 host
  let ret := ret ||| r
  let (r, ws, host) := procReadInt .tcpWinScale 0 host
  let ret := ret ||| r
  let (r, sack, host) := procReadInt .tcpSack 0 host
  let ret := ret ||| r
  let tuning :=
    { tuning with tcpTimestamps := ts ≠ 0, tcpWindowScaling := ws ≠ 0, tcpSack := sack ≠ 0 }
  let (r, rmem, host) := procReadU32Triple .tcpRmem tuning.tcpRmem host
  let ret := ret ||| r
  let (r, wmem, host) := procReadU32Triple .tcpWmem tuning.tcpWmem host
  let ret := ret ||| r
  (if ret = 0 then 0 else -1, { tuning with tcpRmem := rmem, tcpWmem := wmem }, host)

theorem scanD_fmtD (i : Int32) {t : Text} (ht : ∀ b ∈ t.head?, isDigitOf 10 b = false) :
    scanD (fmtD i.toInt ++ t) = some (i, t) := by
  have hlo := i.le_toInt
  have hhi := i.toInt_lt
  have hdigits := fmtU_digits i.toInt.natAbs
  have hrun := digitRun_append hdigits ht
  have hdrop := dropDigits_append hdigits ht
  have hvalue := valueOf_fmtU i.toInt.natAbs
  obtain ⟨hstart, hsign⟩ := digits_start (t := t) (fmtU_ne_nil i.toInt.natAbs) hdigits
  obtain ⟨c, s, hs⟩ := List.exists_cons_of_ne_nil (fmtU_ne_nil i.toInt.natAbs)
  have hmin : min longMax i.toInt = i.toInt := min_eq_right (by unfold longMax; omega)
  have hmax : max longMin i.toInt = i.toInt := max_eq_right (by unfold longMin; omega)
  rw [fmtD]
  split_ifs with hneg
  · have habs : -(i.toInt.natAbs : ℤ) = i.toInt := by omega
    have hminus : (45 :: fmtU i.toInt.natAbs ++ t).dropWhile isspace =
        45 :: (fmtU i.toInt.natAbs ++ t) := rfl
    rw [hs] at hrun hdrop hminus hvalue ⊢
    simp only [scanD, hminus, splitSign, hrun, hdrop, hvalue, if_true, habs, hmin, hmax,
      Int32.ofInt_toInt]
  · have habs : (i.toInt.natAbs : ℤ) = i.toInt := by omega
    rw [hs] at hrun hdrop hstart hsign hvalue ⊢
    simp only [scanD, hstart, hsign, hrun, hdrop, hvalue, Bool.false_eq_true, if_false, habs, hmin,
      hmax, Int32.ofInt_toInt]

theorem scanU_fmtU (n : UInt32) {t : Text} (ht : ∀ b ∈ t.head?, isDigitOf 10 b = false) :
    scanU (fmtU n.toNat ++ t) = some (n, t) := by
  have hlt := n.toNat_lt
  rw [scanU_digits (fmtU_ne_nil _) (fmtU_digits _) ht, valueOf_fmtU, UInt32.ofNat_toNat]
  rw [valueOf_fmtU, ulongMax]
  omega

theorem scanU_blank {sep : Byte} (hsep : isspace sep = true) (s : Text) :
    scanU (sep :: s) = scanU s := by
  simp only [scanU, List.dropWhile_cons_of_pos hsep]

theorem isDigitOf_blank {sep : Byte} (hsep : isspace sep = true) : isDigitOf 10 sep = false := by
  by_contra h
  rw [isspace_of_digit (by norm_num) (Bool.not_eq_false _ ▸ h)] at hsep
  cases hsep

theorem scanTriple_fmtTriple {sep : Byte} (hsep : isspace sep = true) (v : Vector UInt32 3) :
    scanTriple (fmtTriple sep v) = some v := by
  have hdigit := isDigitOf_blank hsep
  have hv : v = #v[v[0], v[1], v[2]] := by
    ext i hi
    interval_cases i <;> rfl
  have htext : fmtTriple sep v =
      fmtU v[0].toNat ++ sep :: (fmtU v[1].toNat ++ sep :: (fmtU v[2].toNat ++ [lf])) := by
    simp [fmtTriple]
  rw [htext, scanTriple, scanU_fmtU _ (by simpa using hdigit)]
  simp only [Option.bind_eq_bind, Option.bind_some, scanU_blank hsep]
  rw [scanU_fmtU _ (by simpa using hdigit)]
  simp only [Option.bind_some, scanU_blank hsep]
  rw [scanU_fmtU _ (by decide)]
  exact congrArg some hv.symm

theorem storeInt_print (proc : Proc) (f : IntFile) (v : Int32) :
    proc.storeInt f (fmtD v.toInt ++ [lf]) = proc.setInt f v := by
  rw [Proc.storeInt, scanD_fmtD v (by decide)]

theorem storeTriple_print (proc : Proc) (f : TripleFile) (v : Vector UInt32 3) :
    proc.storeTriple f (fmtTriple 32 v) = proc.setTriple f v := by
  rw [Proc.storeTriple, scanTriple_fmtTriple (by decide)]

variable {host host' : Host Proc} {proc : Proc} {f : IntFile} {g : TripleFile} {v out r : Int32}
  {val old : Vector UInt32 3}

theorem fopen_granted (h : host.Granted) : fopen host = (true, ⟨host.env, host.outcomes.tail⟩) :=
  Host.call_granted h rfl

theorem fopen_refused (h : ¬ host.Granted) :
    fopen host = (false, ⟨host.env, host.outcomes.tail⟩) :=
  Host.call_not_granted h some

theorem failed_ne_zero : (-1 : Int32) ≠ 0 := by decide

structure Writes (effect : Proc → Proc) (host : Host Proc) (r : Int32) (host' : Host Proc) :
    Prop where
  granted : host.Granted → r = 0 ∧ host' = ⟨effect host.env, host.outcomes.tail⟩
  refused : ¬ host.Granted → r = -1 ∧ host' = ⟨host.env, host.outcomes.tail⟩

structure Reads {α : Type} (value : Proc → α) (host : Host Proc) (r : Int32) (a : α)
    (host' : Host Proc) : Prop where
  granted : host.Granted → r = 0 ∧ a = value host.env
  refused : ¬ host.Granted → r = -1
  after : host' = ⟨host.env, host.outcomes.tail⟩

theorem procWriteInt_writes (h : procWriteInt f v host = (r, host')) :
    Writes (·.setInt f v) host r host' where
  granted hg := by
    have hlen : 0 < (fmtD v.toInt ++ [lf]).length := by simp
    simp only [procWriteInt, fopen_granted hg, storeInt_print, hlen, if_true] at h
    exact Prod.mk.inj h.symm
  refused hg := by
    simp only [procWriteInt, fopen_refused hg] at h
    exact Prod.mk.inj h.symm

theorem procWriteU32Triple_writes (h : procWriteU32Triple g val host = (r, host')) :
    Writes (·.setTriple g val) host r host' where
  granted hg := by
    have hlen : 0 < (fmtTriple 32 val).length := by simp [fmtTriple]
    simp only [procWriteU32Triple, fopen_granted hg, storeTriple_print, hlen, if_true] at h
    exact Prod.mk.inj h.symm
  refused hg := by
    simp only [procWriteU32Triple, fopen_refused hg] at h
    exact Prod.mk.inj h.symm

theorem procReadInt_reads (h : procReadInt f out host = (r, v, host')) :
    Reads (·.int f) host r v host' := by
  have hend : ∀ b ∈ [lf].head?, isDigitOf 10 b = false := by decide
  by_cases hg : host.Granted
  · simp only [procReadInt, fopen_granted hg, Proc.showInt, scanD_fmtD _ hend] at h
    cases h
    exact ⟨fun _ => ⟨rfl, rfl⟩, fun hno => absurd hg hno, rfl⟩
  · simp only [procReadInt, fopen_refused hg] at h
    cases h
    exact ⟨fun hyes => absurd hyes hg, fun _ => rfl, rfl⟩

theorem procReadU32Triple_reads (h : procReadU32Triple g old host = (r, val, host')) :
    Reads (·.triple g) host r val host' := by
  have htab : isspace 9 = true := by decide
  by_cases hg : host.Granted
  · simp only [procReadU32Triple, fopen_granted hg, Proc.showTriple,
      scanTriple_fmtTriple htab] at h
    cases h
    exact ⟨fun _ => ⟨rfl, rfl⟩, fun hno => absurd hg hno, rfl⟩
  · simp only [procReadU32Triple, fopen_refused hg] at h
    cases h
    exact ⟨fun hyes => absurd hyes hg, fun _ => rfl, rfl⟩

section

variable {α : Type} {effect : Proc → Proc} {value : Proc → α} {a : α}

theorem Writes.done (h : Writes effect host r host') (hr : r = 0) :
    host'.env = effect host.env := by
  by_cases hg : host.Granted
  · rw [(h.granted hg).2]
  · exact absurd ((h.refused hg).1.symm.trans hr) failed_ne_zero

theorem Writes.granting (h : Writes effect host r host') (hg : host.Granting) :
    r = 0 ∧ host'.Granting := by
  obtain ⟨hr, hafter⟩ := h.granted hg.next
  rw [hafter]
  exact ⟨hr, hg.tail _⟩

theorem Writes.keeps (h : Writes effect host r host') (value : Proc → α)
    (hsame : value (effect host.env) = value host.env) : value host'.env = value host.env := by
  by_cases hg : host.Granted
  · rw [(h.granted hg).2]
    exact hsame
  · rw [(h.refused hg).2]

theorem Writes.same (h : Writes effect host r host') (hsame : effect host.env = host.env) :
    host'.env = host.env := h.keeps id hsame

theorem Reads.done (h : Reads value host r a host') (hr : r = 0) :
    a = value host.env ∧ host'.env = host.env := by
  refine ⟨?_, by rw [h.after]⟩
  by_cases hg : host.Granted
  · exact (h.granted hg).2
  · exact absurd ((h.refused hg).symm.trans hr) failed_ne_zero

theorem Reads.granting (h : Reads value host r a host') (hg : host.Granting) :
    r = 0 ∧ host'.Granting := by
  rw [h.after]
  exact ⟨(h.granted hg.next).1, hg.tail _⟩

end

theorem setInt_same (h : proc.int f = v) : proc.setInt f v = proc := by
  rw [Proc.setInt, Function.update_eq_self_iff.mpr h.symm]

theorem setTriple_same (h : proc.triple g = val) : proc.setTriple g val = proc := by
  rw [Proc.setTriple, Function.update_eq_self_iff.mpr h.symm]

theorem setInt_self (proc : Proc) (f : IntFile) (v : Int32) : (proc.setInt f v).int f = v := by
  simp [Proc.setInt]

def current (proc : Proc) : TcpTuningConfig where
  tcpTimestamps := proc.int .tcpTimestamps ≠ 0
  tcpWindowScaling := proc.int .tcpWinScale ≠ 0
  tcpSack := proc.int .tcpSack ≠ 0
  tcpRmem := proc.triple .tcpRmem
  tcpWmem := proc.triple .tcpWmem

def position (b : Bool) : Int32 := if b then 1 else 0

def tuned (tuning : TcpTuningConfig) (proc : Proc) : Proc :=
  ((((proc.setInt .tcpTimestamps (position tuning.tcpTimestamps)).setInt .tcpWinScale
    (position tuning.tcpWindowScaling)).setInt .tcpSack (position tuning.tcpSack)).setTriple
      .tcpRmem tuning.tcpRmem).setTriple .tcpWmem tuning.tcpWmem

theorem position_ne_zero (b : Bool) : decide (position b ≠ 0) = b := by
  cases b <;> decide

theorem position_of_switch {v : Int32} (h : v = 0 ∨ v = 1) : position (v ≠ 0) = v := by
  rcases h with h | h <;> rw [h] <;> decide

theorem current_tuned (tuning : TcpTuningConfig) (proc : Proc) :
    current (tuned tuning proc) = tuning := by
  have hts : (tuned tuning proc).int .tcpTimestamps = position tuning.tcpTimestamps := by
    simp [tuned, Proc.setInt, Proc.setTriple]
  have hws : (tuned tuning proc).int .tcpWinScale = position tuning.tcpWindowScaling := by
    simp [tuned, Proc.setInt, Proc.setTriple]
  have hsack : (tuned tuning proc).int .tcpSack = position tuning.tcpSack := by
    simp [tuned, Proc.setInt, Proc.setTriple]
  have hrmem : (tuned tuning proc).triple .tcpRmem = tuning.tcpRmem := by
    simp [tuned, Proc.setInt, Proc.setTriple]
  have hwmem : (tuned tuning proc).triple .tcpWmem = tuning.tcpWmem := by
    simp [tuned, Proc.setInt, Proc.setTriple]
  rw [current, hts, hws, hsack, hrmem, hwmem, position_ne_zero, position_ne_zero,
    position_ne_zero]

theorem all_zero {r1 r2 r3 r4 r5 : Int32}
    (h : (if 0 ||| r1 ||| r2 ||| r3 ||| r4 ||| r5 = 0 then 0 else -1 : Int32) = 0) :
    r1 = 0 ∧ r2 = 0 ∧ r3 = 0 ∧ r4 = 0 ∧ r5 = 0 := by
  split_ifs at h with hor
  · simpa [Int32.or_eq_zero_iff, and_assoc] using hor
  · exact absurd h failed_ne_zero

theorem read_success (h : (netTcpTuningReadCurrent host).1 = 0) :
    (netTcpTuningReadCurrent host).2.1 = current host.env := by
  rcases hr1 : procReadInt .tcpTimestamps 0 host with ⟨r1, ts, host1⟩
  rcases hr2 : procReadInt .tcpWinScale 0 host1 with ⟨r2, ws, host2⟩
  rcases hr3 : procReadInt .tcpSack 0 host2 with ⟨r3, sack, host3⟩
  rcases hr4 : procReadU32Triple .tcpRmem TcpTuningConfig.zeroed.tcpRmem host3
    with ⟨r4, rmem, host4⟩
  rcases hr5 : procReadU32Triple .tcpWmem TcpTuningConfig.zeroed.tcpWmem host4
    with ⟨r5, wmem, host5⟩
  simp only [netTcpTuningReadCurrent, hr1, hr2, hr3, hr4, hr5] at h ⊢
  obtain ⟨h1, h2, h3, h4, h5⟩ := all_zero h
  obtain ⟨hts, he1⟩ := (procReadInt_reads hr1).done h1
  obtain ⟨hws, he2⟩ := (procReadInt_reads hr2).done h2
  obtain ⟨hsack, he3⟩ := (procReadInt_reads hr3).done h3
  obtain ⟨hrmem, he4⟩ := (procReadU32Triple_reads hr4).done h4
  obtain ⟨hwmem, -⟩ := (procReadU32Triple_reads hr5).done h5
  rw [he1] at he2 hws
  rw [he2] at he3 hsack
  rw [he3] at he4 hrmem
  rw [he4] at hwmem
  rw [hts, hws, hsack, hrmem, hwmem, current]

theorem read_granting (h : host.Granting) : (netTcpTuningReadCurrent host).1 = 0 := by
  rcases hr1 : procReadInt .tcpTimestamps 0 host with ⟨r1, ts, host1⟩
  rcases hr2 : procReadInt .tcpWinScale 0 host1 with ⟨r2, ws, host2⟩
  rcases hr3 : procReadInt .tcpSack 0 host2 with ⟨r3, sack, host3⟩
  rcases hr4 : procReadU32Triple .tcpRmem TcpTuningConfig.zeroed.tcpRmem host3
    with ⟨r4, rmem, host4⟩
  rcases hr5 : procReadU32Triple .tcpWmem TcpTuningConfig.zeroed.tcpWmem host4
    with ⟨r5, wmem, host5⟩
  obtain ⟨rfl, h1⟩ := (procReadInt_reads hr1).granting h
  obtain ⟨rfl, h2⟩ := (procReadInt_reads hr2).granting h1
  obtain ⟨rfl, h3⟩ := (procReadInt_reads hr3).granting h2
  obtain ⟨rfl, h4⟩ := (procReadU32Triple_reads hr4).granting h3
  obtain ⟨rfl, -⟩ := (procReadU32Triple_reads hr5).granting h4
  simp only [netTcpTuningReadCurrent, hr1, hr2, hr3, hr4, hr5]
  decide

theorem apply_granting (h : host.Granting) (tuning : TcpTuningConfig) :
    (netTcpTuningApply tuning host).1 = 0 := by
  rcases hr1 : procWriteInt .tcpTimestamps (position tuning.tcpTimestamps) host with ⟨r1, host1⟩
  rcases hr2 : procWriteInt .tcpWinScale (position tuning.tcpWindowScaling) host1
    with ⟨r2, host2⟩
  rcases hr3 : procWriteInt .tcpSack (position tuning.tcpSack) host2 with ⟨r3, host3⟩
  rcases hr4 : procWriteU32Triple .tcpRmem tuning.tcpRmem host3 with ⟨r4, host4⟩
  rcases hr5 : procWriteU32Triple .tcpWmem tuning.tcpWmem host4 with ⟨r5, host5⟩
  obtain ⟨rfl, h1⟩ := (procWriteInt_writes hr1).granting h
  obtain ⟨rfl, h2⟩ := (procWriteInt_writes hr2).granting h1
  obtain ⟨rfl, h3⟩ := (procWriteInt_writes hr3).granting h2
  obtain ⟨rfl, h4⟩ := (procWriteU32Triple_writes hr4).granting h3
  obtain ⟨rfl, -⟩ := (procWriteU32Triple_writes hr5).granting h4
  simp only [position] at hr1 hr2 hr3
  simp only [netTcpTuningApply, hr1, hr2, hr3, hr4, hr5]
  decide

theorem apply_success {tuning : TcpTuningConfig} (h : (netTcpTuningApply tuning host).1 = 0) :
    (netTcpTuningApply tuning host).2.env = tuned tuning host.env := by
  rcases hr1 : procWriteInt .tcpTimestamps (position tuning.tcpTimestamps) host with ⟨r1, host1⟩
  rcases hr2 : procWriteInt .tcpWinScale (position tuning.tcpWindowScaling) host1
    with ⟨r2, host2⟩
  rcases hr3 : procWriteInt .tcpSack (position tuning.tcpSack) host2 with ⟨r3, host3⟩
  rcases hr4 : procWriteU32Triple .tcpRmem tuning.tcpRmem host3 with ⟨r4, host4⟩
  rcases hr5 : procWriteU32Triple .tcpWmem tuning.tcpWmem host4 with ⟨r5, host5⟩
  simp only [position] at hr1 hr2 hr3
  simp only [netTcpTuningApply, hr1, hr2, hr3, hr4, hr5] at h ⊢
  obtain ⟨h1, h2, h3, h4, h5⟩ := all_zero h
  rw [(procWriteU32Triple_writes hr5).done h5, (procWriteU32Triple_writes hr4).done h4,
    (procWriteInt_writes hr3).done h3, (procWriteInt_writes hr2).done h2,
    (procWriteInt_writes hr1).done h1]
  rfl

theorem apply_env {tuning : TcpTuningConfig}
    (hws : host.env.int .tcpWinScale = position tuning.tcpWindowScaling)
    (hsack : host.env.int .tcpSack = position tuning.tcpSack)
    (hrmem : host.env.triple .tcpRmem = tuning.tcpRmem)
    (hwmem : host.env.triple .tcpWmem = tuning.tcpWmem) :
    (netTcpTuningApply tuning host).2.env =
      (procWriteInt .tcpTimestamps (position tuning.tcpTimestamps) host).2.env := by
  rcases hr1 : procWriteInt .tcpTimestamps (position tuning.tcpTimestamps) host with ⟨r1, host1⟩
  rcases hr2 : procWriteInt .tcpWinScale (position tuning.tcpWindowScaling) host1
    with ⟨r2, host2⟩
  rcases hr3 : procWriteInt .tcpSack (position tuning.tcpSack) host2 with ⟨r3, host3⟩
  rcases hr4 : procWriteU32Triple .tcpRmem tuning.tcpRmem host3 with ⟨r4, host4⟩
  rcases hr5 : procWriteU32Triple .tcpWmem tuning.tcpWmem host4 with ⟨r5, host5⟩
  have hother (f' : IntFile) (hne : f' ≠ .tcpTimestamps) :
      host1.env.int f' = host.env.int f' :=
    (procWriteInt_writes hr1).keeps (·.int f') (Function.update_of_ne hne ..)
  have htriple : host1.env.triple = host.env.triple :=
    (procWriteInt_writes hr1).keeps Proc.triple rfl
  have he2 : host2.env = host1.env :=
    (procWriteInt_writes hr2).same (setInt_same ((hother _ (by decide)).trans hws))
  have he3 : host3.env = host2.env := by
    refine (procWriteInt_writes hr3).same (setInt_same ?_)
    rw [he2, hother _ (by decide), hsack]
  have he4 : host4.env = host3.env := by
    refine (procWriteU32Triple_writes hr4).same (setTriple_same ?_)
    rw [he3, he2, htriple, hrmem]
  have he5 : host5.env = host4.env := by
    refine (procWriteU32Triple_writes hr5).same (setTriple_same ?_)
    rw [he4, he3, he2, htriple, hwmem]
  simp only [position] at hr1 hr2 hr3
  simp only [netTcpTuningApply, hr1, hr2, hr3, hr4, hr5]
  rw [he5, he4, he3, he2]

structure InRange (proc : Proc) : Prop where
  tcpTimestamps : proc.int .tcpTimestamps = 0 ∨ proc.int .tcpTimestamps = 1 ∨
    proc.int .tcpTimestamps = 2
  tcpWinScale : proc.int .tcpWinScale = 0 ∨ proc.int .tcpWinScale = 1
  tcpSack : proc.int .tcpSack = 0 ∨ proc.int .tcpSack = 1

theorem put_back (h : InRange host.env) :
    (netTcpTuningApply (current host.env) host).2.env =
      (procWriteInt .tcpTimestamps (position (host.env.int .tcpTimestamps ≠ 0)) host).2.env :=
  apply_env (position_of_switch h.tcpWinScale).symm (position_of_switch h.tcpSack).symm rfl rfl

theorem put_back_same (host : Host Proc) (h : InRange host.env)
    (hts : host.env.int .tcpTimestamps ≠ 2) :
    (netTcpTuningApply (current host.env) host).2.env = host.env := by
  have hswitch : host.env.int .tcpTimestamps = 0 ∨ host.env.int .tcpTimestamps = 1 := by
    rcases h.tcpTimestamps with h0 | h1 | h2
    · exact Or.inl h0
    · exact Or.inr h1
    · exact absurd h2 hts
  rw [put_back h, position_of_switch hswitch]
  exact (procWriteInt_writes rfl).same (setInt_same rfl)

theorem put_back_changed (host : Host Proc) (h : InRange host.env)
    (hts : host.env.int .tcpTimestamps = 2) :
    (netTcpTuningApply (current host.env) host).2.env =
      if host.outcomes.headD true then host.env.setInt .tcpTimestamps 1 else host.env := by
  have hone : position ((2 : Int32) ≠ 0) = 1 := by decide
  rw [put_back h, hts, hone]
  rcases hwrite : procWriteInt .tcpTimestamps 1 host with ⟨r, host'⟩
  have hwrites := procWriteInt_writes hwrite
  by_cases hg : host.Granted
  · rw [(hwrites.granted hg).2]
    exact (if_pos hg).symm
  · rw [(hwrites.refused hg).2]
    exact (if_neg hg).symm

/-- What was read is put back: all files are as they were, but that time stamps in
position 2 are turned to 1 where their file can be opened. What was set is read. -/
theorem tuning_there_and_back (host : Host Proc) :
    (InRange host.env → (netTcpTuningReadCurrent host).1 = 0 → ∀ outcomes,
      let read := (netTcpTuningReadCurrent host).2.1
      let back : Host Proc := (netTcpTuningApply read ⟨host.env, outcomes⟩).2
      (host.env.int .tcpTimestamps ≠ 2 → back.env = host.env) ∧
        (host.env.int .tcpTimestamps = 2 →
          back.env = if outcomes.headD true then host.env.setInt .tcpTimestamps 1
            else host.env)) ∧
    ∀ tuning, (netTcpTuningApply tuning host).1 = 0 → ∀ outcomes,
      let after : Host Proc := ⟨(netTcpTuningApply tuning host).2.env, outcomes⟩
      (after.Granting → (netTcpTuningReadCurrent after).1 = 0) ∧
        ((netTcpTuningReadCurrent after).1 = 0 →
          (netTcpTuningReadCurrent after).2.1 = tuning) := by
  refine ⟨fun hrange hread outcomes => ?_,
    fun tuning happly outcomes => ⟨read_granting, fun hread => ?_⟩⟩
  · intro read back
    have hcurrent : read = current host.env := read_success hread
    constructor <;> intro hts <;> change (netTcpTuningApply read ⟨host.env, outcomes⟩).2.env = _
    · rw [hcurrent]
      exact put_back_same ⟨host.env, outcomes⟩ hrange hts
    · rw [hcurrent]
      exact put_back_changed ⟨host.env, outcomes⟩ hrange hts
  · rw [read_success hread, apply_success happly, current_tuned]

def freshKernel (timestamps : Int32) : Host Proc where
  env :=
    { int := fun f => if f = .tcpTimestamps then timestamps else 1
      triple := fun _ => #v[4096, 131072, 6291456] }
  outcomes := []

theorem freshKernel_granting (timestamps : Int32) : (freshKernel timestamps).Granting :=
  List.not_mem_nil

def wideWindows : TcpTuningConfig where
  tcpTimestamps := false
  tcpWindowScaling := true
  tcpSack := false
  tcpRmem := #v[8192, 262144, 16777216]
  tcpWmem := #v[4096, 65536, 4294967295]

theorem tuning_there_and_back_on :
    (netTcpTuningApply (netTcpTuningReadCurrent (freshKernel 1)).2.1 (freshKernel 1)).2.env =
        (freshKernel 1).env ∧
      (netTcpTuningReadCurrent
        ⟨(netTcpTuningApply wideWindows (freshKernel 1)).2.env, []⟩).2.1 = wideWindows := by
  have hrange : InRange (freshKernel 1).env := ⟨by decide, by decide, by decide⟩
  have hgranting := freshKernel_granting 1
  obtain ⟨hback, hset⟩ := tuning_there_and_back (freshKernel 1)
  obtain ⟨hread, hsame⟩ := hset wideWindows (apply_granting hgranting wideWindows) []
  exact ⟨(hback hrange (read_granting hgranting) []).1 (by decide),
    hsame (hread List.not_mem_nil)⟩

theorem third_position_is_lost :
    let host := freshKernel 2
    let back := netTcpTuningApply (netTcpTuningReadCurrent host).2.1 host
    (netTcpTuningReadCurrent host).1 = 0 ∧ back.1 = 0 ∧
      host.env.int .tcpTimestamps = 2 ∧ back.2.env.int .tcpTimestamps = 1 := by
  intro host back
  have hrange : InRange host.env := ⟨by decide, by decide, by decide⟩
  have hgranting : host.Granting := freshKernel_granting 2
  have hread := read_granting hgranting
  have hts : host.env.int .tcpTimestamps = 2 := by decide
  have hback : back.2.env = host.env.setInt .tcpTimestamps 1 := by
    have hcurrent := put_back_changed host hrange hts
    rw [← read_success hread] at hcurrent
    exact hcurrent
  refine ⟨hread, apply_granting hgranting _, hts, ?_⟩
  rw [hback, setInt_self]

end PnetManager.TcpTuning
