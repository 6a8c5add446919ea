import PnetManager.CNumber
import PnetManager.Word32

/-!
# iptables

The commands `iptables -A` and `iptables -F` as texts, with the options `-s`,
`-p`, `--dport` and `-j`, and which packets a rule matches. `--dport` is taken
only behind `-p tcp` or `-p udp`. Which numbers are taken as ports is a
parameter.
-/

namespace PnetManager.Iptables
open CText CNumber Word32

structure Packet where
  src : UInt32
  protocol : UInt8
  dport : Option UInt16

/-- The matches of a rule; `none` matches everything. -/
structure Match where
  source : Option (UInt32 × UInt32)
  protocol : Option UInt8
  dport : Option ℕ
deriving DecidableEq, Inhabited

def Match.any : Match := ⟨none, none, none⟩

def Match.Accepts (m : Match) (p : Packet) : Prop :=
  (∀ s ∈ m.source, p.src &&& s.2 = s.1 &&& s.2) ∧
    (∀ q ∈ m.protocol, p.protocol = q) ∧
    ∀ n ∈ m.dport, p.dport.map UInt16.toNat = some n

structure Rule where
  selector : Match
  target : Option Text
deriving DecidableEq, Inhabited

inductive Command
  | append (chain : Text) (rule : Rule)
  | flush (chain : Text)
deriving DecidableEq

def parseNumber (t : Text) : Option ℕ :=
  if t ≠ [] ∧ t.all (isDigitOf 10) then some (valueOf 10 t) else none

def parseOctet (t : Text) : Option Byte :=
  (parseNumber t).bind fun n => if n < 256 then some (UInt8.ofNat n) else none

def parseAddress (t : Text) : Option UInt32 :=
  match t.splitOn 46 with
  | [a, b, c, d] => do
    return ofOctets (← parseOctet a) (← parseOctet b) (← parseOctet c) (← parseOctet d)
  | _ => none

def parseSource (t : Text) : Option (UInt32 × UInt32) :=
  match t.splitOn 47 with
  | [a] => (parseAddress a).map fun a => (a, 0xFFFFFFFF)
  | [a, m] => do return (← parseAddress a, ← parseAddress m)
  | _ => none

def parseProtocol (t : Text) : Option (Option UInt8) :=
  if t = ascii "tcp" then some (some 6)
  else if t = ascii "udp" then some (some 17)
  else if t = ascii "all" then some none
  else none

variable (portOk : ℕ → Bool)

def parseOption (r : Rule) (flag value : Text) : Option Rule :=
  if flag = ascii "-s" then
    (parseSource value).map fun s => { r with selector.source := some s }
  else if flag = ascii "-p" then
    (parseProtocol value).map fun q => { r with selector.protocol := q }
  else if flag = ascii "--dport" then
    if r.selector.protocol = some 6 ∨ r.selector.protocol = some 17 then
      (parseNumber value).bind fun n =>
        if portOk n then some { r with selector.dport := some n } else none
    else none
  else if flag = ascii "-j" then some { r with target := some value }
  else none

def parseOptions : Rule → List Text → Option Rule
  | r, [] => some r
  | r, flag :: value :: rest => (parseOption portOk r flag value).bind (parseOptions · rest)
  | _, [_] => none

def parseWords : List Text → Option Command
  | name :: verb :: chain :: rest =>
    if name ≠ ascii "iptables" then none
    else if verb = ascii "-A" then
      (parseOptions portOk ⟨.any, none⟩ rest).map (.append chain)
    else if verb = ascii "-F" ∧ rest = [] then some (.flush chain)
    else none
  | _ => none

/-- `none` for a command that is not accepted. -/
def parseCommand (line : Text) : Option Command := parseWords portOk (line.splitOn 32)

def unwords (ws : List Text) : Text := [32].intercalate ws

theorem unwords_singleton (w : Text) : unwords [w] = w := by
  simp [unwords, List.intercalate]

theorem unwords_cons (w v : Text) (ws : List Text) :
    unwords (w :: v :: ws) = w ++ 32 :: unwords (v :: ws) := by
  simp [unwords, List.intercalate]

theorem parseCommand_unwords {ws : List Text} (h : ∀ w ∈ ws, 32 ∉ w) (hne : ws ≠ []) :
    parseCommand portOk (unwords ws) = parseWords portOk ws := by
  rw [parseCommand, unwords, List.splitOn_intercalate 32 h hne]

theorem parseNumber_fmtU (n : ℕ) : parseNumber (fmtU n) = some n := by
  have hall : (fmtU n).all (isDigitOf 10) = true := List.all_eq_true.mpr (fmtU_digits n)
  rw [parseNumber, if_pos ⟨fmtU_ne_nil n, hall⟩, valueOf_fmtU]

theorem parseOctet_fmtU {n : ℕ} (h : n < 256) : parseOctet (fmtU n) = some (UInt8.ofNat n) := by
  rw [parseOctet, parseNumber_fmtU, Option.bind_some, if_pos h]

theorem not_mem_fmtU {b : Byte} (hb : b < 48) (n : ℕ) : b ∉ fmtU n := by
  intro h
  have hd := digit_bounds (fmtU_digits n b h)
  rw [UInt8.lt_iff_toNat_lt] at hb
  simp only [UInt8.reduceToNat] at hb
  omega

theorem fmtQuad_eq_intercalate (a b c d : ℕ) :
    fmtQuad a b c d = [46].intercalate [fmtU a, fmtU b, fmtU c, fmtU d] := by
  simp [fmtQuad, List.intercalate, List.intersperse]

theorem not_mem_fmtQuad {x : Byte} (hx : x < 48) (hne : x ≠ 46) (a b c d : ℕ) :
    x ∉ fmtQuad a b c d := by
  simp [fmtQuad, not_mem_fmtU hx, hne]

theorem parseAddress_fmtQuad {a b c d : ℕ} (ha : a < 256) (hb : b < 256) (hc : c < 256)
    (hd : d < 256) :
    parseAddress (fmtQuad a b c d) =
      some (ofOctets (UInt8.ofNat a) (UInt8.ofNat b) (UInt8.ofNat c) (UInt8.ofNat d)) := by
  have hdot : ∀ t ∈ [fmtU a, fmtU b, fmtU c, fmtU d], 46 ∉ t := by
    intro t ht
    simp only [List.mem_cons, List.not_mem_nil, or_false] at ht
    rcases ht with rfl | rfl | rfl | rfl <;> exact not_mem_fmtU (b := 46) (by decide) _
  rw [parseAddress, fmtQuad_eq_intercalate, List.splitOn_intercalate 46 hdot (by simp)]
  simp only [parseOctet_fmtU ha, parseOctet_fmtU hb, parseOctet_fmtU hc, parseOctet_fmtU hd]
  rfl

theorem parseOption_source (r : Rule) (value : Text) :
    parseOption portOk r (ascii "-s") value =
      (parseSource value).map fun s => { r with selector.source := some s } := rfl

theorem parseOption_protocol (r : Rule) (value : Text) :
    parseOption portOk r (ascii "-p") value =
      (parseProtocol value).map fun q => { r with selector.protocol := q } := rfl

theorem parseOption_dport (r : Rule) (value : Text) :
    parseOption portOk r (ascii "--dport") value =
      if r.selector.protocol = some 6 ∨ r.selector.protocol = some 17 then
        (parseNumber value).bind fun n =>
          if portOk n then some { r with selector.dport := some n } else none
      else none := rfl

theorem parseOption_target (r : Rule) (value : Text) :
    parseOption portOk r (ascii "-j") value = some { r with target := some value } := rfl

theorem parseOptions_cons (r : Rule) (flag value : Text) (rest : List Text) :
    parseOptions portOk r (flag :: value :: rest) =
      (parseOption portOk r flag value).bind (parseOptions portOk · rest) := rfl

theorem parseWords_append (chain : Text) (rest : List Text) :
    parseWords portOk (ascii "iptables" :: ascii "-A" :: chain :: rest) =
      (parseOptions portOk ⟨.any, none⟩ rest).map (.append chain) := rfl

end PnetManager.Iptables
