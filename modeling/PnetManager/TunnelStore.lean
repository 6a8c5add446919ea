import PnetManager.TunnelReading

/-!
# The tunnels of a directory

Over a run of creations and removals the directory is a map from names to tunnels, as
long as every call reports success. Only a call that fails leaves one file of a tunnel
without the other, and only then does a later removal report a success that was none.
-/

namespace PnetManager.TunnelStore
open CText CStdio FileStore SystemCalls IpsecTunnel TunnelFiles TunnelNames TunnelReading

set_option maxRecDepth 2000

@[ext]
structure TunnelName where
  text : Text
  short : text.length ≤ 233
  one_file : slash ∉ text
  one_line : lf ∉ text
deriving DecidableEq

structure Tunnel where
  localIp : UInt32
  remoteIp : UInt32
  psk : Text
  quotable : lf ∉ psk ∧ quote ∉ psk

inductive TunnelCall
  | create (name : TunnelName) (tunnel : Tunnel)
  | remove (name : TunnelName) (errno : ℤ)

def TunnelCall.name : TunnelCall → TunnelName
  | .create name _ => name
  | .remove name _ => name

def TunnelCall.exec (host : Disk) : TunnelCall → ℤ × Disk
  | .create name t =>
    secIpsecCreateTunnel disk (some name.text) t.localIp t.remoteIp (some t.psk) host
  | .remove name errno => secIpsecRemoveTunnel disk (some name.text) errno host

def runCalls : List TunnelCall → Disk → List ℤ × Disk
  | [], host => ([], host)
  | c :: calls, host =>
    let (ret, host) := c.exec host
    let (rets, host) := runCalls calls host
    (ret :: rets, host)

abbrev Tunnels := Files TunnelName Tunnel

def TunnelCall.update (m : Tunnels) : TunnelCall → Tunnels
  | .create name t => m.write name t
  | .remove name _ => m.erase name

def tunnelsAfter (m : Tunnels) (calls : List TunnelCall) : Tunnels :=
  calls.foldl TunnelCall.update m

/-- The two files of every name are those of its tunnel, or there is neither. -/
def Holds (files : Files Text Text) (m : Tunnels) : Prop :=
  ∀ name : TunnelName,
    files (confPath name.text) = (m name).map (fun t => newConf name.text t.localIp t.remoteIp) ∧
    files (secretsPath name.text) = (m name).map fun t => newSecrets t.localIp t.remoteIp t.psk

variable {host : Disk} {m : Tunnels} {name : TunnelName}

theorem TunnelName.own (name : TunnelName) : OwnFiles name.text :=
  ownFiles_of_short name.short name.one_file

theorem conf_mem (name : TunnelName) : confPath name.text ∈ ownPaths name.text := by
  simp [ownPaths]

theorem secrets_mem (name : TunnelName) : secretsPath name.text ∈ ownPaths name.text := by
  simp [ownPaths]

theorem TunnelName.apart {other : TunnelName} (h : other ≠ name) {q : Text}
    (hq : q ∈ ownPaths other.text) : q ∉ ownPaths name.text := by
  refine other.own.apart name.text ?_ q hq
  exact fun he => h (TunnelName.ext he.symm)

theorem exec_elsewhere (c : TunnelCall) (host : Disk) {q : Text} (h : q ∉ ownPaths c.name.text) :
    (c.exec host).2.env q = host.env q := by
  cases c with
  | create name t => exact create_elsewhere h t.localIp t.remoteIp t.psk host
  | remove name errno => exact remove_elsewhere h errno host

theorem create_succeeded {t : Tunnel} (h : ((TunnelCall.create name t).exec host).1 = 0) :
    FirstOpens host ∧ SecondOpens host := by
  have heio : -CStdio.eio ≠ 0 := neg_ne_zero.mpr eio_ne_zero
  rw [TunnelCall.exec] at h
  by_cases hfirst : FirstOpens host
  · refine ⟨hfirst, ?_⟩
    by_contra hsecond
    rw [create_second_refused hfirst hsecond] at h
    exact heio h
  · rw [create_first_refused hfirst] at h
    exact absurd h heio

theorem files_of_covered
    (h : Covered (confRemoval disk name.text host).1 (secretsRemoval disk name.text host).1) :
    (host.env (confPath name.text)).isSome ∧ host.env (secretsPath name.text) = none := by
  obtain ⟨hconf, hsecrets⟩ := h
  have hunlinked : (unlink (confPath name.text) host).1 = false := by
    rw [← Bool.not_eq_true]
    intro hdone
    refine hconf ((disk_remove_gone_iff _ _).mpr ?_)
    change (unlink (confPath name.text) host).2.env (confPath name.text) = none
    rw [unlink_done hdone, Files.erase_same]
  have hkept : (confRemoval disk name.text host).2.env = host.env := unlink_failed hunlinked
  constructor
  · rw [Option.isSome_iff_ne_none]
    intro hnone
    refine hconf ((disk_remove_gone_iff _ _).mpr ?_)
    exact (congrFun hkept _).trans hnone
  · have hne : eacces ≠ enoent := by decide
    change (if (unlink (secretsPath name.text) (confRemoval disk name.text host).2).1 then
      Removal.removed else .failed (if ((confRemoval disk name.text host).2.env
        (secretsPath name.text)).isSome then eacces else enoent)) = .failed enoent at hsecrets
    split_ifs at hsecrets with hdone hsome
    · exact absurd (Removal.failed.inj hsecrets) hne
    · rw [hkept, Option.not_isSome_iff_eq_none] at hsome
      exact hsome

theorem remove_succeeded {errno : ℤ} (hm : Holds host.env m)
    (h : ((TunnelCall.remove name errno).exec host).1 = 0) : BothGone name.text host := by
  rw [TunnelCall.exec, removeTunnel_eq, reported_eq_zero_iff] at h
  refine h.resolve_right fun hcovered => ?_
  obtain ⟨hconf, hsecrets⟩ := files_of_covered hcovered
  obtain ⟨hconf', hsecrets'⟩ := hm name
  rw [hconf', Option.isSome_map] at hconf
  rw [hsecrets', Option.map_eq_none_iff] at hsecrets
  simp [hsecrets] at hconf

theorem Holds.exec (hm : Holds host.env m) (c : TunnelCall) (h : (c.exec host).1 = 0) :
    Holds (c.exec host).2.env (c.update m) := by
  intro other
  by_cases hother : other = c.name
  · rw [hother]
    cases c with
    | create name t =>
      obtain ⟨hfirst, hsecond⟩ := create_succeeded h
      refine ⟨?_, ?_⟩
      · exact (created_conf hfirst hsecond name.own.distinct).trans (by
          rw [TunnelCall.update, TunnelCall.name, Files.write_same, Option.map_some])
      · exact (created_secrets hfirst hsecond).trans (by
          rw [TunnelCall.update, TunnelCall.name, Files.write_same, Option.map_some])
    | remove name errno =>
      have herased := remove_erases (remove_succeeded hm h) errno
      have hgone : (TunnelCall.remove name errno).update m name = none := Files.erase_same
      rw [TunnelCall.exec, herased, TunnelCall.name, hgone]
      exact ⟨(Files.erase_of_ne name.own.distinct).trans Files.erase_same, Files.erase_same⟩
  · have hsame : c.update m other = m other := by
      cases c with
      | create name t => exact Files.write_of_ne hother
      | remove name errno => exact Files.erase_of_ne hother
    rw [exec_elsewhere c host (TunnelName.apart hother (conf_mem other)),
      exec_elsewhere c host (TunnelName.apart hother (secrets_mem other)), hsame]
    exact hm other

theorem runCalls_cons (c : TunnelCall) (calls : List TunnelCall) (host : Disk) :
    runCalls (c :: calls) host =
      ((c.exec host).1 :: (runCalls calls (c.exec host).2).1,
        (runCalls calls (c.exec host).2).2) := rfl

theorem Holds.runCalls (hm : Holds host.env m) (calls : List TunnelCall)
    (hok : ∀ ret ∈ (runCalls calls host).1, ret = 0) :
    Holds (runCalls calls host).2.env (tunnelsAfter m calls) := by
  induction calls generalizing host m with
  | nil => exact hm
  | cons c calls ih =>
    rw [runCalls_cons] at hok ⊢
    obtain ⟨hret, hrest⟩ := List.forall_mem_cons.mp hok
    exact ih (hm.exec c hret) hrest

theorem runCalls_elsewhere (calls : List TunnelCall) (host : Disk) {q : Text}
    (h : ∀ name : TunnelName, q ∉ ownPaths name.text) :
    (runCalls calls host).2.env q = host.env q := by
  induction calls generalizing host with
  | nil => rfl
  | cons c calls ih =>
    rw [runCalls_cons, ih, exec_elsewhere c host (h c.name)]

theorem Holds.readsBack {files : Files Text Text} (hm : Holds files m) {t : Tunnel}
    (h : m name = some t) : ReadsBack files name.text t.localIp t.remoteIp t.psk := by
  obtain ⟨hconf, hsecrets⟩ := hm name
  rw [h, Option.map_some] at hconf hsecrets
  constructor
  · refine ⟨_, _, RuleMeaning.parseAddress_ipToStr t.localIp,
      RuleMeaning.parseAddress_ipToStr t.remoteIp, ?_⟩
    rw [hconf, Option.bind_some, newConf]
    exact readConf_confText_of_oneLine (FirewallScript.oneLine_ipToStr _)
      (FirewallScript.oneLine_ipToStr _) name.one_line
  · rw [hsecrets, Option.bind_some]
    exact (readSecrets_newSecrets_iff t.localIp t.remoteIp t.psk).mpr t.quotable

/-- In a run in which every call reports success the disk stays the map that the calls
describe: the tunnels that are in the map read back as they were created, of the others
there is no file, and no other file has changed. -/
theorem store_refines_map (hm : Holds host.env m) (calls : List TunnelCall)
    (hok : ∀ ret ∈ (runCalls calls host).1, ret = 0) :
    let files := (runCalls calls host).2.env
    Holds files (tunnelsAfter m calls) ∧
    (∀ name t, tunnelsAfter m calls name = some t →
      ReadsBack files name.text t.localIp t.remoteIp t.psk) ∧
    ∀ q, (∀ name : TunnelName, q ∉ ownPaths name.text) → files q = host.env q := by
  have hafter := hm.runCalls calls hok
  exact ⟨hafter, fun name t h => hafter.readsBack h, fun q hq => runCalls_elsewhere calls host hq⟩

def plant : TunnelName := ⟨ascii "plant", by decide, by decide, by decide⟩
def mill : TunnelName := ⟨ascii "mill", by decide, by decide, by decide⟩

def plantTunnel : Tunnel := ⟨0x0A000001, 0x0A000002, ascii "key", by decide⟩

theorem store_refines_map_two_names :
    let r := runCalls [.create mill plantTunnel, .create plant plantTunnel, .remove mill 0]
      emptyDisk
    ReadsBack r.2.env plant.text 0x0A000001 0x0A000002 (ascii "key") := by
  intro r
  have hm : Holds emptyDisk.env fun _ => none := fun _ => ⟨rfl, rfl⟩
  have hrun := store_refines_map hm [.create mill plantTunnel, .create plant plantTunnel,
    .remove mill 0] (by decide)
  exact hrun.2.1 plant plantTunnel rfl

end PnetManager.TunnelStore
