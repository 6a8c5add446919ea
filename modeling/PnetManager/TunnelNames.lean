import PnetManager.TunnelFiles

/-!
# The names of tunnels as paths

The name of a tunnel goes into its paths as it is. A name that is short enough and
has no slash is that of two files in the directory which no other tunnel has.
-/

namespace PnetManager.TunnelNames
open CText CStdio FileStore SystemCalls IpsecTunnel TunnelFiles

set_option maxRecDepth 2000

def slash : Byte := 47

def confPath (name : Text) : Text := inPathBuffer (confFile name)

def secretsPath (name : Text) : Text := inPathBuffer (secretsFile name)

def ownPaths (name : Text) : List Text := [confPath name, secretsPath name]

def DirectlyInside (dir path : Text) : Prop :=
  ∃ file, path = dir ++ [slash] ++ file ∧
    file ≠ [] ∧ file ≠ ascii "." ∧ file ≠ ascii ".." ∧ slash ∉ file

variable {name other path psk q : Text} {localIp remoteIp : UInt32} {host : Disk}

theorem created_secrets (h : FirstOpens host) (h' : SecondOpens host) :
    (secIpsecCreateTunnel disk (some name) localIp remoteIp (some psk) host).2.env
      (secretsPath name) = some (newSecrets localIp remoteIp psk) := by
  rw [create_done h h']
  exact Files.write_same

theorem created_conf (h : FirstOpens host) (h' : SecondOpens host)
    (hne : confPath name ≠ secretsPath name) :
    (secIpsecCreateTunnel disk (some name) localIp remoteIp (some psk) host).2.env
      (confPath name) = some (newConf name localIp remoteIp) := by
  rw [create_done h h']
  exact (Files.write_of_ne hne).trans Files.write_same

theorem create_elsewhere (h : q ∉ ownPaths name) (localIp remoteIp : UInt32) (psk : Text)
    (host : Disk) :
    (secIpsecCreateTunnel disk (some name) localIp remoteIp (some psk) host).2.env q =
      host.env q := by
  have hconf : q ≠ inPathBuffer (confFile name) := fun he => h (by simp [ownPaths, confPath, he])
  have hsecrets : q ≠ inPathBuffer (secretsFile name) :=
    fun he => h (by simp [ownPaths, secretsPath, he])
  by_cases hfirst : FirstOpens host
  · by_cases hsecond : SecondOpens host
    · rw [create_done hfirst hsecond]
      exact (Files.write_of_ne hsecrets).trans (Files.write_of_ne hconf)
    · rw [create_second_refused hfirst hsecond]
      exact Files.write_of_ne hconf
  · rw [create_first_refused hfirst]

theorem remove_elsewhere (h : q ∉ ownPaths name) (errno : ℤ) (host : Disk) :
    (secIpsecRemoveTunnel disk (some name) errno host).2.env q = host.env q := by
  have hconf : q ≠ inPathBuffer (confFile name) := fun he => h (by simp [ownPaths, confPath, he])
  have hsecrets : q ≠ inPathBuffer (secretsFile name) :=
    fun he => h (by simp [ownPaths, secretsPath, he])
  rw [remove_env, secretsRemoval, disk_remove_of_ne hsecrets, confRemoval, disk_remove_of_ne hconf]

theorem eq_of_eq_inPathBuffer (h : path.length < 255) (heq : path = inPathBuffer other) :
    path = other := by
  by_cases hfits : other.length ≤ 255
  · rw [heq, inPathBuffer_of_fits hfits]
  · have hlen : (inPathBuffer other).length = 255 := by
      rw [inPathBuffer, List.length_take]
      omega
    rw [← heq] at hlen
    omega

theorem confFile_injective (h : confFile name = confFile other) : name = other := by
  rw [confFile, confFile, List.append_left_inj] at h
  exact List.append_cancel_left h

theorem secretsFile_injective (h : secretsFile name = secretsFile other) : name = other := by
  rw [secretsFile, secretsFile, List.append_left_inj] at h
  exact List.append_cancel_left h

theorem confFile_ne_secretsFile (name other : Text) : confFile name ≠ secretsFile other := by
  intro heq
  have hlast := congrArg List.getLast? heq
  have hconf : (ascii ".conf").getLast? = some 102 := by decide
  have hsecrets : (ascii ".secrets").getLast? = some 115 := by decide
  simp only [confFile, secretsFile, List.getLast?_append, hconf, hsecrets, Option.some_or] at hlast
  exact absurd hlast (by decide)

theorem confPath_extended (h : 234 ≤ name.length) :
    confPath (name ++ ascii ".secrets") = secretsPath name := by
  have hfile : confFile (name ++ ascii ".secrets") = secretsFile name ++ ascii ".conf" := by
    simp only [confFile, secretsFile, List.append_assoc]
  have hlen : 255 ≤ (secretsFile name).length := by
    rw [secretsFile_length]
    omega
  rw [confPath, secretsPath, hfile, inPathBuffer, inPathBuffer,
    List.take_append_of_le_length (by omega)]

theorem confPath_short (h : name.length ≤ 233) : confPath name = confFile name :=
  confPath_of_fits (by omega)

theorem secretsPath_short (h : name.length ≤ 233) : secretsPath name = secretsFile name :=
  secretsPath_of_fits (by omega)

theorem paths_apart (h : name.length ≤ 233) (hne : other ≠ name) :
    ∀ p ∈ ownPaths name, p ∉ ownPaths other := by
  have hconf : (confFile name).length < 255 := by
    rw [confFile_length]
    omega
  have hsecrets : (secretsFile name).length < 255 := by
    rw [secretsFile_length]
    omega
  intro p hp hq
  simp only [ownPaths, List.mem_cons, List.not_mem_nil, or_false] at hp hq
  rw [confPath_short h, secretsPath_short h] at hp
  rcases hp with hp | hp <;> rw [hp] at hq <;> rcases hq with hq | hq
  · exact hne (confFile_injective (eq_of_eq_inPathBuffer hconf hq)).symm
  · exact confFile_ne_secretsFile _ _ (eq_of_eq_inPathBuffer hconf hq)
  · exact confFile_ne_secretsFile _ _ (eq_of_eq_inPathBuffer hsecrets hq).symm
  · exact hne (secretsFile_injective (eq_of_eq_inPathBuffer hsecrets hq)).symm

theorem directlyInside_suffixed {suffix : Text} (hlen : 3 ≤ suffix.length)
    (hslash : slash ∉ suffix) :
    DirectlyInside ipsecConfDir (ipsecConfDir ++ ascii "/" ++ name ++ suffix) ↔
      slash ∉ name := by
  constructor
  · intro h
    obtain ⟨file, hfile, -, -, -, hno⟩ := h
    rw [List.append_assoc] at hfile
    have hname : name ++ suffix = file := List.append_cancel_left hfile
    intro hmem
    exact hno (hname ▸ List.mem_append_left suffix hmem)
  · intro h
    have hlong : 3 ≤ (name ++ suffix).length := by
      rw [List.length_append]
      omega
    refine ⟨name ++ suffix, by rw [List.append_assoc]; rfl, ?_, ?_, ?_, ?_⟩
    · intro he
      simp [he] at hlong
    · intro he
      rw [he] at hlong
      exact absurd hlong (by decide)
    · intro he
      rw [he] at hlong
      exact absurd hlong (by decide)
    · intro hmem
      exact (List.mem_append.mp hmem).elim h hslash

theorem directlyInside_confFile : DirectlyInside ipsecConfDir (confFile name) ↔ slash ∉ name :=
  directlyInside_suffixed (by decide) (by decide)

theorem directlyInside_secretsFile :
    DirectlyInside ipsecConfDir (secretsFile name) ↔ slash ∉ name :=
  directlyInside_suffixed (by decide) (by decide)

def Foreign (name path : Text) : Prop :=
  (∃ other, other ≠ name ∧ path ∈ ownPaths other) ∨ ¬ DirectlyInside ipsecConfDir path

/-- The two paths of a name are different files in the directory that no other name
has, and creating and removing its tunnel leave all other files alone. -/
structure OwnFiles (name : Text) : Prop where
  distinct : confPath name ≠ secretsPath name
  inside : ∀ p ∈ ownPaths name, DirectlyInside ipsecConfDir p
  apart : ∀ other, other ≠ name → ∀ p ∈ ownPaths name, p ∉ ownPaths other
  creating : ∀ (localIp remoteIp : UInt32) (psk : Text) (host : Disk) (q : Text),
    Foreign name q →
      (secIpsecCreateTunnel disk (some name) localIp remoteIp (some psk) host).2.env q =
        host.env q
  removing : ∀ (errno : ℤ) (host : Disk) (q : Text), Foreign name q →
    (secIpsecRemoveTunnel disk (some name) errno host).2.env q = host.env q

theorem paths_inside (h : name.length ≤ 233) (hslash : slash ∉ name) :
    ∀ p ∈ ownPaths name, DirectlyInside ipsecConfDir p := by
  intro p hp
  simp only [ownPaths, List.mem_cons, List.not_mem_nil, or_false] at hp
  rw [confPath_short h, secretsPath_short h] at hp
  rcases hp with hp | hp <;> rw [hp]
  · exact directlyInside_confFile.mpr hslash
  · exact directlyInside_secretsFile.mpr hslash

theorem foreign_not_own (h : name.length ≤ 233) (hslash : slash ∉ name) (hq : Foreign name q) :
    q ∉ ownPaths name := by
  intro hown
  rcases hq with hother | hout
  · obtain ⟨other, hne, hmem⟩ := hother
    exact paths_apart h hne q hown hmem
  · exact hout (paths_inside h hslash q hown)

theorem ownFiles_of_short (h : name.length ≤ 233) (hslash : slash ∉ name) : OwnFiles name where
  distinct := by
    rw [confPath_short h, secretsPath_short h]
    exact confFile_ne_secretsFile name name
  inside := paths_inside h hslash
  apart _ hne := paths_apart h hne
  creating localIp remoteIp psk host _ hq :=
    create_elsewhere (foreign_not_own h hslash hq) localIp remoteIp psk host
  removing errno host _ hq := remove_elsewhere (foreign_not_own h hslash hq) errno host

/-- A tunnel keeps to files of its own exactly where its name has at most 233 bytes
and no slash. -/
theorem ownFiles_iff (name : Text) : OwnFiles name ↔ name.length ≤ 233 ∧ slash ∉ name := by
  constructor
  · intro h
    have hshort : name.length ≤ 233 := by
      by_contra hlong
      have hext := confPath_extended (show 234 ≤ name.length by omega)
      have hsuffix : ascii ".secrets" ≠ [] := by decide
      have hne : name ++ ascii ".secrets" ≠ name :=
        fun he => hsuffix (List.append_right_eq_self.mp he)
      refine h.apart _ hne (secretsPath name) (by simp [ownPaths]) ?_
      rw [← hext]
      simp [ownPaths]
    refine ⟨hshort, directlyInside_confFile.mp ?_⟩
    rw [← confPath_short hshort]
    exact h.inside _ (by simp [ownPaths])
  · intro h
    exact ownFiles_of_short h.1 h.2

def longName : Text := List.replicate 242 97

def emptyDisk : Disk := ⟨fun _ => none, []⟩

theorem long_name_has_one_file :
    let r := secIpsecCreateTunnel disk (some longName) 0x0A000001 0x0A000002
      (some (ascii "key")) emptyDisk
    r.1 = 0 ∧ r.2.env (confPath longName) =
        some (newSecrets 0x0A000001 0x0A000002 (ascii "key")) ∧
      confPath longName = secretsPath longName ∧ ¬ OwnFiles longName := by
  intro r
  have hfirst : FirstOpens emptyDisk := rfl
  have hsecond : SecondOpens emptyDisk := rfl
  have hsame : confPath longName = secretsPath longName := by decide
  refine ⟨?_, ?_, hsame, fun h => h.distinct hsame⟩
  · exact congrArg Prod.fst (create_done hfirst hsecond)
  · rw [hsame]
    exact created_secrets hfirst hsecond

end PnetManager.TunnelNames
