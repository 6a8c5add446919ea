import PnetManager.IpsecTunnel

/-!
# Creating a tunnel, all or nothing

The connection is on the disk before the key is, so that a refusal between the two
leaves the one without the other. Both paths are cut to the buffer that they are
built in, and a cut path is that of another file.
-/

namespace PnetManager.TunnelFiles
open CText CStdio FirewallScript FileStore SystemCalls IpsecTunnel

set_option maxRecDepth 2000

abbrev Disk := Host (Files Text Text)

def FirstOpens (host : Disk) : Prop := host.outcomes.headD true = true

def SecondOpens (host : Disk) : Prop := host.outcomes.tail.headD true = true

variable {name psk : Text} {localIp remoteIp : UInt32} {host : Disk}

theorem disk_print (path text : Text) (files : Files Text Text) (outcomes : List Bool) :
    disk.fclose path (disk.fprintf path text ⟨files.write path [], outcomes⟩) =
      ⟨files.write path text, outcomes⟩ := by
  simp [disk]

theorem fopen_granted {path : Text} {files : Files Text Text} {outcomes : List Bool}
    (h : outcomes.headD true = true) :
    disk.fopenWrite path ⟨files, outcomes⟩ =
      (some path, ⟨files.write path [], outcomes.tail⟩) := by
  simp only [disk, openEmpty_granted h]
  rfl

theorem fopen_refused {path : Text} {files : Files Text Text} {outcomes : List Bool}
    (h : outcomes.headD true = false) :
    disk.fopenWrite path ⟨files, outcomes⟩ = (none, ⟨files, outcomes.tail⟩) := by
  simp only [disk, openEmpty_refused h]
  rfl

def newConf (name : Text) (localIp remoteIp : UInt32) : Text :=
  confText name (ipToStr localIp) (ipToStr remoteIp)

def newSecrets (localIp remoteIp : UInt32) (psk : Text) : Text :=
  secretsText (ipToStr localIp) (ipToStr remoteIp) psk

theorem create_first_refused (h : ¬ FirstOpens host) :
    secIpsecCreateTunnel disk (some name) localIp remoteIp (some psk) host =
      (-eio, ⟨host.env, host.outcomes.tail⟩) := by
  rw [FirstOpens, Bool.not_eq_true] at h
  simp only [secIpsecCreateTunnel, fopen_refused h]

theorem create_second_refused (h : FirstOpens host) (h' : ¬ SecondOpens host) :
    secIpsecCreateTunnel disk (some name) localIp remoteIp (some psk) host =
      (-eio, ⟨host.env.write (inPathBuffer (confFile name)) (newConf name localIp remoteIp),
        host.outcomes.tail.tail⟩) := by
  rw [SecondOpens, Bool.not_eq_true] at h'
  simp only [secIpsecCreateTunnel, fopen_granted h, disk_print, fopen_refused h']
  rfl

theorem create_done (h : FirstOpens host) (h' : SecondOpens host) :
    secIpsecCreateTunnel disk (some name) localIp remoteIp (some psk) host =
      (0, ⟨(host.env.write (inPathBuffer (confFile name)) (newConf name localIp remoteIp)).write
        (inPathBuffer (secretsFile name)) (newSecrets localIp remoteIp psk),
        host.outcomes.tail.tail⟩) := by
  rw [SecondOpens] at h'
  simp only [secIpsecCreateTunnel, fopen_granted h, disk_print, fopen_granted h']
  rfl

theorem confFile_length (name : Text) : (confFile name).length = name.length + 18 := by
  have hdir : (ipsecConfDir ++ ascii "/").length = 13 := by decide
  have hsuffix : (ascii ".conf").length = 5 := by decide
  rw [confFile, List.length_append, List.length_append, hdir, hsuffix]
  omega

theorem secretsFile_length (name : Text) : (secretsFile name).length = name.length + 21 := by
  have hdir : (ipsecConfDir ++ ascii "/").length = 13 := by decide
  have hsuffix : (ascii ".secrets").length = 8 := by decide
  rw [secretsFile, List.length_append, List.length_append, hdir, hsuffix]
  omega

theorem secretsFile_ne_confFile (name : Text) : secretsFile name ≠ confFile name := by
  intro heq
  have hlen := congrArg List.length heq
  rw [secretsFile_length, confFile_length] at hlen
  omega

theorem inPathBuffer_of_fits {path : Text} (h : path.length ≤ 255) : inPathBuffer path = path :=
  List.take_of_length_le h

theorem ne_inPathBuffer {path : Text} (h : 255 < path.length) (other : Text) :
    path ≠ inPathBuffer other := by
  intro heq
  have hlen : (inPathBuffer other).length ≤ 255 := List.length_take_le ..
  rw [← heq] at hlen
  omega

theorem confPath_of_fits (h : name.length ≤ 234) :
    inPathBuffer (confFile name) = confFile name :=
  inPathBuffer_of_fits (by rw [confFile_length]; omega)

theorem secretsPath_of_fits (h : name.length ≤ 234) :
    inPathBuffer (secretsFile name) = secretsFile name :=
  inPathBuffer_of_fits (by rw [secretsFile_length]; omega)

theorem secretsFile_not_reached (h : 234 < name.length) (other : Text) :
    secretsFile name ≠ inPathBuffer other :=
  ne_inPathBuffer (by rw [secretsFile_length]; omega) other

def BothGone (name : Text) (host : Disk) : Prop :=
  (confRemoval disk name host).1.Gone ∧ (secretsRemoval disk name host).1.Gone

theorem remove_env (name : Text) (errno : ℤ) (host : Disk) :
    (secIpsecRemoveTunnel disk (some name) errno host).2 = (secretsRemoval disk name host).2 := by
  rw [removeTunnel_eq]

theorem remove_erases (h : BothGone name host) (errno : ℤ) :
    (secIpsecRemoveTunnel disk (some name) errno host).2.env =
      (host.env.erase (inPathBuffer (confFile name))).erase
        (inPathBuffer (secretsFile name)) := by
  rw [remove_env, secretsRemoval, disk_remove_gone h.2, confRemoval, disk_remove_gone h.1]

theorem bothGone_iff_absent (hfits : name.length ≤ 234) (errno : ℤ) (host : Disk) :
    let r := secIpsecRemoveTunnel disk (some name) errno host
    BothGone name host ↔ r.2.env (confFile name) = none ∧ r.2.env (secretsFile name) = none := by
  intro r
  have hconf := confPath_of_fits hfits
  have hsecrets := secretsPath_of_fits hfits
  have hsame : (secretsRemoval disk name host).2.env (confFile name) =
      (confRemoval disk name host).2.env (confFile name) := by
    rw [secretsRemoval, hsecrets]
    exact disk_remove_of_ne (secretsFile_ne_confFile name).symm
  have hconfGone := disk_remove_gone_iff (confFile name) host
  have hsecretsGone := disk_remove_gone_iff (secretsFile name) (confRemoval disk name host).2
  change _ ↔ (secIpsecRemoveTunnel disk (some name) errno host).2.env _ = none ∧
    (secIpsecRemoveTunnel disk (some name) errno host).2.env _ = none
  rw [remove_env, hsame, BothGone, secretsRemoval, confRemoval, hsecrets, hconf]
  rw [confRemoval, hconf] at hsecretsGone
  rw [hconfGone, hsecretsGone]

theorem bothGone_of_granting (name : Text) (files : Files Text Text) :
    BothGone name ⟨files, []⟩ := by
  constructor
  · rw [confRemoval, disk_remove_gone_iff]
    exact unlink_granted rfl
  · rw [secretsRemoval, disk_remove_gone_iff]
    apply unlink_granted
    have hrest := unlink_outcomes (inPathBuffer (confFile name)) (⟨files, []⟩ : Disk)
    exact congrArg (·.headD true) hrest

/-- Where it fails, creating a tunnel leaves the disk as it was. Where it succeeds
both files are new, and a removal that leaves neither takes nothing else away. -/
structure AllOrNothing (name : Text) (localIp remoteIp : UInt32) (psk : Text) (host : Disk) :
    Prop where
  failed : (secIpsecCreateTunnel disk (some name) localIp remoteIp (some psk) host).1 ≠ 0 →
    (secIpsecCreateTunnel disk (some name) localIp remoteIp (some psk) host).2.env = host.env
  created : (secIpsecCreateTunnel disk (some name) localIp remoteIp (some psk) host).1 = 0 →
    let files := (secIpsecCreateTunnel disk (some name) localIp remoteIp (some psk) host).2.env
    files (confFile name) = some (newConf name localIp remoteIp) ∧
      files (secretsFile name) = some (newSecrets localIp remoteIp psk) ∧
      ∀ outcomes errno, BothGone name ⟨files, outcomes⟩ →
        (secIpsecRemoveTunnel disk (some name) errno ⟨files, outcomes⟩).2.env =
          (host.env.erase (confFile name)).erase (secretsFile name)

theorem allOrNothing_of_first_refused (h : ¬ FirstOpens host) :
    AllOrNothing name localIp remoteIp psk host := by
  constructor <;> rw [create_first_refused h]
  · exact fun _ => rfl
  · exact fun hzero => absurd hzero (neg_ne_zero.mpr eio_ne_zero)

theorem allOrNothing_of_second_refused_iff (h : FirstOpens host) (h' : ¬ SecondOpens host) :
    AllOrNothing name localIp remoteIp psk host ↔
      host.env (inPathBuffer (confFile name)) = some (newConf name localIp remoteIp) := by
  rw [← Files.write_eq_self_iff]
  constructor
  · intro hall
    have hfailed := hall.failed
    rw [create_second_refused h h'] at hfailed
    exact hfailed (neg_ne_zero.mpr eio_ne_zero)
  · intro hsame
    constructor <;> rw [create_second_refused h h']
    · exact fun _ => hsame
    · exact fun hzero => absurd hzero (neg_ne_zero.mpr eio_ne_zero)

theorem allOrNothing_of_fits (h : FirstOpens host) (h' : SecondOpens host)
    (hfits : name.length ≤ 234) : AllOrNothing name localIp remoteIp psk host := by
  have hne := secretsFile_ne_confFile name
  constructor <;> rw [create_done h h', confPath_of_fits hfits, secretsPath_of_fits hfits]
  · exact fun hzero => absurd rfl hzero
  · intro _ files
    refine ⟨?_, Files.write_same, fun outcomes errno hgone => ?_⟩
    · exact (Files.write_of_ne hne.symm).trans Files.write_same
    · rw [remove_erases hgone, confPath_of_fits hfits, secretsPath_of_fits hfits]
      change ((Files.write (Files.write _ _ _) _ _).erase _).erase _ = _
      rw [Files.erase_write_comm hne.symm, Files.erase_write, Files.erase_write]

theorem not_allOrNothing_of_long (h : FirstOpens host) (h' : SecondOpens host)
    (hlong : 234 < name.length) : ¬ AllOrNothing name localIp remoteIp psk host := by
  intro hall
  have hcreated := hall.created
  rw [create_done h h'] at hcreated
  obtain ⟨-, hsecrets, hundone⟩ := hcreated rfl
  have hremoved := hundone [] 0 (bothGone_of_granting _ _)
  rw [remove_erases (bothGone_of_granting _ _)] at hremoved
  have hkept := congrFun hremoved (secretsFile name)
  rw [Files.erase_of_ne (secretsFile_not_reached hlong _),
    Files.erase_of_ne (secretsFile_not_reached hlong _), Files.erase_same] at hkept
  exact absurd (hsecrets.symm.trans hkept) (Option.some_ne_none _)

/-- Creating a tunnel is all or nothing where the connection cannot be opened, where
only the key cannot and the connection was already the new one, and where both can
and the name fits. -/
theorem create_all_or_nothing_iff (name : Text) (localIp remoteIp : UInt32) (psk : Text)
    (host : Disk) :
    AllOrNothing name localIp remoteIp psk host ↔
      ¬ FirstOpens host ∨
      FirstOpens host ∧ ¬ SecondOpens host ∧
        host.env (inPathBuffer (confFile name)) = some (newConf name localIp remoteIp) ∨
      FirstOpens host ∧ SecondOpens host ∧ name.length ≤ 234 := by
  by_cases h : FirstOpens host
  · by_cases h' : SecondOpens host
    · simp only [h, h', not_true, false_or, false_and, and_false, true_and]
      constructor
      · intro hall
        by_contra hlong
        exact not_allOrNothing_of_long h h' (Nat.lt_of_not_le hlong) hall
      · exact allOrNothing_of_fits h h'
    · rw [allOrNothing_of_second_refused_iff h h']
      simp [h, h']
  · exact iff_of_true (allOrNothing_of_first_refused h) (Or.inl h)

def halfOpen : Disk := ⟨fun _ => none, [true, false]⟩

theorem half_a_tunnel_is_left :
    let r := secIpsecCreateTunnel disk (some (ascii "plant")) 0x0A000001 0x0A000002
      (some (ascii "key")) halfOpen
    r.1 = -eio ∧
      r.2.env (confFile (ascii "plant")) =
        some (newConf (ascii "plant") 0x0A000001 0x0A000002) ∧
      ¬ AllOrNothing (ascii "plant") 0x0A000001 0x0A000002 (ascii "key") halfOpen := by
  intro r
  have hret : r.1 = -eio := by decide
  have hleft : r.2.env (confFile (ascii "plant")) =
      some (newConf (ascii "plant") 0x0A000001 0x0A000002) := by decide
  refine ⟨hret, hleft, fun hall => ?_⟩
  have hsame := hall.failed (by rw [hret]; decide)
  have hnone : r.2.env (confFile (ascii "plant")) = none := congrFun hsame _
  exact absurd (hleft.symm.trans hnone) (Option.some_ne_none _)

end PnetManager.TunnelFiles
