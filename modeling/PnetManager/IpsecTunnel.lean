import PnetManager.FileStore
import PnetManager.FirewallScript

/-!
# The files of an IPsec tunnel

A tunnel is two files, its connection block and its key. Removing it makes two
calls and looks at `errno` after both of them, so that what the second call leaves
there passes for the reason of the first.
-/

namespace PnetManager.IpsecTunnel
open CText CStdio FirewallScript FileStore SystemCalls

set_option maxRecDepth 2000

def enoent : ℤ := 2
def eacces : ℤ := 13

inductive Removal
  | removed
  | failed (errno : ℤ)
deriving DecidableEq

def Removal.ret : Removal → ℤ
  | .removed => 0
  | .failed _ => -1

/-- A call that succeeds leaves `errno` as it was. -/
def Removal.errnoAfter (errno : ℤ) : Removal → ℤ
  | .removed => errno
  | .failed e => e

/-- The calls of the C library, for files `F` that are open. What is printed on a
failure to open is left out, and `errno` with it. -/
structure FileCalls (F W : Type) where
  fopenWrite : Text → W → Option F × W
  fprintf : F → Text → W → W
  fclose : F → W → W
  chmod : Text → ℕ → W → W
  remove : Text → W → Removal × W

def ipsecConfDir : Text := ascii "/etc/ipsec.d"

def confFile (name : Text) : Text := ipsecConfDir ++ ascii "/" ++ name ++ ascii ".conf"
def secretsFile (name : Text) : Text := ipsecConfDir ++ ascii "/" ++ name ++ ascii ".secrets"

def inPathBuffer (path : Text) : Text := path.take (256 - 1)

def confText (name localStr remoteStr : Text) : Text :=
  ascii "conn " ++ name ++ ascii "\n    authby=secret\n    left=%defaultroute\n    leftid=" ++
    localStr ++ ascii "\n    leftsubnet=" ++ localStr ++ ascii "/32\n    right=" ++ remoteStr ++
    ascii "\n    rightsubnet=" ++ remoteStr ++ ascii "/32\n    ike=aes256-sha256-modp2048\n" ++
    ascii "    esp=aes256-sha256\n    keyexchange=ikev2\n    auto=start\n    type=transport\n\n"

def secretsText (localStr remoteStr psk : Text) : Text :=
  localStr ++ ascii " " ++ remoteStr ++ ascii " : PSK \"" ++ psk ++ ascii "\"\n"

section Calls

variable {F W : Type} (calls : FileCalls F W)

def secIpsecCreateTunnel (name : Option Text) (localIp remoteIp : UInt32) (psk : Option Text)
    (w : W) : ℤ × W :=
  match name, psk with
  | some name, some psk =>
    let localStr := ipToStr localIp
    let remoteStr := ipToStr remoteIp
    let confPath := inPathBuffer (confFile name)
    match calls.fopenWrite confPath w with
    | (none, w) => (-eio, w)
    | (some fp, w) =>
      let w := calls.fprintf fp (confText name localStr remoteStr) w
      let w := calls.fclose fp w
      let secretsPath := inPathBuffer (secretsFile name)
      match calls.fopenWrite secretsPath w with
      | (none, w) => (-eio, w)
      | (some fp, w) =>
        let w := calls.fprintf fp (secretsText localStr remoteStr psk) w
        let w := calls.fclose fp w
        (0, calls.chmod secretsPath 0o600 w)
  | _, _ => (-einval, w)

def secIpsecRemoveTunnel (name : Option Text) (errno : ℤ) (w : W) : ℤ × W :=
  match name with
  | none => (-einval, w)
  | some name =>
    let confPath := inPathBuffer (confFile name)
    let secretsPath := inPathBuffer (secretsFile name)
    let (retConf, w) := calls.remove confPath w
    let errno := retConf.errnoAfter errno
    let (retSecret, w) := calls.remove secretsPath w
    let errno := retSecret.errnoAfter errno
    if retConf.ret ≠ 0 ∧ errno ≠ enoent then (-eio, w)
    else if retSecret.ret ≠ 0 ∧ errno ≠ enoent then (-eio, w)
    else (0, w)

def Removal.Gone : Removal → Prop
  | .removed => True
  | .failed e => e = enoent

def reported (errno : ℤ) (conf secrets : Removal) : ℤ :=
  let errno := secrets.errnoAfter (conf.errnoAfter errno)
  if conf.ret ≠ 0 ∧ errno ≠ enoent then -eio
  else if secrets.ret ≠ 0 ∧ errno ≠ enoent then -eio
  else 0

def Covered (conf secrets : Removal) : Prop := ¬ conf.Gone ∧ secrets = .failed enoent

def confRemoval (name : Text) (w : W) : Removal × W :=
  calls.remove (inPathBuffer (confFile name)) w

def secretsRemoval (name : Text) (w : W) : Removal × W :=
  calls.remove (inPathBuffer (secretsFile name)) (confRemoval calls name w).2

theorem removeTunnel_eq (name : Text) (errno : ℤ) (w : W) :
    secIpsecRemoveTunnel calls (some name) errno w =
      (reported errno (confRemoval calls name w).1 (secretsRemoval calls name w).1,
        (secretsRemoval calls name w).2) := by
  rcases hconf : calls.remove (inPathBuffer (confFile name)) w with ⟨conf, w₁⟩
  rcases hsecrets : calls.remove (inPathBuffer (secretsFile name)) w₁ with ⟨secrets, w₂⟩
  simp only [secIpsecRemoveTunnel, secretsRemoval, confRemoval, reported, hconf, hsecrets]
  split_ifs <;> rfl

theorem eio_ne_zero : eio ≠ 0 := by decide

theorem reported_eq_zero_iff (errno : ℤ) (conf secrets : Removal) :
    reported errno conf secrets = 0 ↔
      conf.Gone ∧ secrets.Gone ∨ Covered conf secrets := by
  cases conf with
  | removed =>
    cases secrets with
    | removed => simp [reported, Covered, Removal.ret, Removal.Gone]
    | failed e => simp [reported, Covered, Removal.ret, Removal.Gone, Removal.errnoAfter,
      eio_ne_zero]
  | failed e =>
    cases secrets with
    | removed => simp [reported, Covered, Removal.ret, Removal.Gone, Removal.errnoAfter,
      eio_ne_zero]
    | failed e' =>
      simp only [reported, Covered, Removal.ret, Removal.Gone, Removal.errnoAfter]
      by_cases he' : e' = enoent <;> by_cases he : e = enoent <;>
        simp [he, he', eio_ne_zero]

theorem reported_cases (errno : ℤ) (conf secrets : Removal) :
    reported errno conf secrets = 0 ∨ reported errno conf secrets = -eio := by
  rw [reported]
  split_ifs
  · exact Or.inr rfl
  · exact Or.inr rfl
  · exact Or.inl rfl

/-- 0 is returned exactly when neither file is left, and else the error. -/
structure ReportsTruth (name : Text) (errno : ℤ) (w : W) : Prop where
  zero_iff : (secIpsecRemoveTunnel calls (some name) errno w).1 = 0 ↔
    (confRemoval calls name w).1.Gone ∧ (secretsRemoval calls name w).1.Gone
  otherwise : (secIpsecRemoveTunnel calls (some name) errno w).1 ≠ 0 →
    (secIpsecRemoveTunnel calls (some name) errno w).1 = -eio

/-- A removal tells the truth except where the first call fails for a reason of its
own and the second one finds no file. -/
theorem removal_reports_truth_iff (name : Text) (errno : ℤ) (w : W) :
    ReportsTruth calls name errno w ↔
      ¬ Covered (confRemoval calls name w).1 (secretsRemoval calls name w).1 := by
  have hzero := reported_eq_zero_iff errno (confRemoval calls name w).1
    (secretsRemoval calls name w).1
  constructor
  · intro htruth hcovered
    have hgone := htruth.zero_iff.mp (by rw [removeTunnel_eq, hzero]; exact Or.inr hcovered)
    exact hcovered.1 hgone.1
  · intro hplain
    constructor
    · rw [removeTunnel_eq, hzero]
      exact ⟨fun h => h.resolve_right hplain, Or.inl⟩
    · rw [removeTunnel_eq]
      exact (reported_cases errno _ _).resolve_left

end Calls

/-- A disk whose calls may be refused; an open file is known by its path. Modes are
left out. -/
def disk : FileCalls Text (Host (Files Text Text)) where
  fopenWrite path host :=
    let (opened, host) := openEmpty path [] host
    (if opened then some path else none, host)
  fprintf path text host :=
    { host with env := host.env.write path ((host.env path).getD [] ++ text) }
  fclose _ host := host
  chmod _ _ host := host
  remove path host :=
    let (done, after) := unlink path host
    (if done then .removed else .failed (if (host.env path).isSome then eacces else enoent), after)

theorem disk_remove_of_ne {p q : Text} {host : Host (Files Text Text)} (h : q ≠ p) :
    (disk.remove p host).2.env q = host.env q := unlink_of_ne h

theorem disk_remove_gone_iff (p : Text) (host : Host (Files Text Text)) :
    (disk.remove p host).1.Gone ↔ (disk.remove p host).2.env p = none := by
  have heacces : eacces ≠ enoent := by decide
  change Removal.Gone (if (unlink p host).1 then .removed else _) ↔ (unlink p host).2.env p = none
  cases hdone : (unlink p host).1 with
  | true => simp [unlink_done hdone, Removal.Gone]
  | false =>
    rw [unlink_failed hdone]
    cases hp : host.env p <;> simp [Removal.Gone, heacces]

theorem disk_remove_gone {p : Text} {host : Host (Files Text Text)}
    (h : (disk.remove p host).1.Gone) : (disk.remove p host).2.env = host.env.erase p := by
  have hnone := (disk_remove_gone_iff p host).mp h
  funext q
  by_cases hq : q = p
  · rw [hq, hnone, Files.erase_same]
  · rw [disk_remove_of_ne hq, Files.erase_of_ne hq]

def guardedDisk : Host (Files Text Text) :=
  ⟨fun path => if path = confFile (ascii "plant") then some (ascii "conn plant") else none, [false]⟩

theorem denied_removal_is_covered :
    let r := secIpsecRemoveTunnel disk (some (ascii "plant")) 0 guardedDisk
    (confRemoval disk (ascii "plant") guardedDisk).1 = .failed eacces ∧
      (secretsRemoval disk (ascii "plant") guardedDisk).1 = .failed enoent ∧ r.1 = 0 ∧
      r.2.env (confFile (ascii "plant")) = some (ascii "conn plant") ∧
      ¬ ReportsTruth disk (ascii "plant") 0 guardedDisk := by
  intro r
  have hconf : (confRemoval disk (ascii "plant") guardedDisk).1 = .failed eacces := by decide
  have hret : r.1 = 0 := by decide
  refine ⟨hconf, by decide, hret, by decide, fun htruth => ?_⟩
  have hgone := (htruth.zero_iff.mp hret).1
  rw [hconf] at hgone
  exact absurd hgone (by decide : eacces ≠ enoent)

end PnetManager.IpsecTunnel
