import PnetManager.NetworkSteps
import PnetManager.RewrittenFile

/-!
# The interface that is named

A name is cut on its way into the configuration and again on its way into a request.
A name of 16 bytes or more is not that of any interface, and what is acted on is the
one that its first 15 bytes name.
-/

namespace PnetManager.InterfaceNames
open CText SystemCalls NetworkConfig ConfigFile ConfigKeys ConfigReadings RewrittenFile
  MainStartup NetworkSteps

set_option maxRecDepth 2000

inductive IfOp
  | setIp (ip : UInt32)
  | setNetmask (mask : UInt32)
  | setUp
  | setDown

def IfOp.run : IfOp → Text → Host Net → ℤ × Host Net
  | .setIp ip => fun ifName => netIfSetIp ifName ip
  | .setNetmask mask => fun ifName => netIfSetNetmask ifName mask
  | .setUp => netIfSetUp
  | .setDown => netIfSetDown

/-- All requests are for the interface `name`, or the operation fails without a
request that changes anything; and no other interface is changed. -/
structure ActsOnNamed (name : Text) (host : Host Net) (r : ℤ × Host Net) : Prop where
  requests : Issues (fun q => q.1.text = name) host r.2 ∨
    r.1 = -1 ∧ Issues (fun q => q.2 = .siocgifflags) host r.2
  others : ∀ other, other ≠ name → r.2.env.interfaces other = host.env.interfaces other

def IfOp.Reaches (name : Text) (host : Host Net) : IfOp → Prop
  | .setIp _ | .setNetmask _ => host.Granted
  | .setUp | .setDown => host.Granted ∧ Answers (ifrName name) (next host)

variable {name : Text} {host host' : Host Net}

theorem ifrName_eq (name : Text) : ifrName name = CharArray.ofText 16 name :=
  CharArray.strncpy_capped (CharArray.zeroed_capped (by norm_num)) name

theorem ifrName_text (h : nul ∉ name) : (ifrName name).text = name.take 15 := by
  rw [ifrName_eq, CharArray.ofText_text h]

theorem ifrName_text_eq_iff (h : nul ∉ name) : (ifrName name).text = name ↔ name.length ≤ 15 := by
  rw [ifrName_text h, List.take_eq_self_iff]

theorem issues_forall {P : CharArray 16 × IoctlRequest → Prop}
    {l : List (CharArray 16 × IoctlRequest)} (h : Issues P host host')
    (hl : host'.env.issued = host.env.issued ++ l) : ∀ r ∈ l, P r := by
  obtain ⟨l', hl', hall⟩ := h
  rw [List.append_cancel_left (hl.symm.trans hl')]
  exact hall

theorem not_actsOnNamed {r : ℤ × Host Net} {l : List (CharArray 16 × IoctlRequest)}
    (hl : r.2.env.issued = host.env.issued ++ l) {q : CharArray 16 × IoctlRequest} (hq : q ∈ l)
    (hname : q.1.text ≠ name) (hchange : q.2 ≠ .siocgifflags) : ¬ ActsOnNamed name host r := by
  intro h
  rcases h.requests with hissues | hissues
  · exact hname (issues_forall hissues hl q hq)
  · exact hchange (issues_forall hissues.2 hl q hq)

theorem IfOp.run_setIp (ip : UInt32) (name : Text) (host : Host Net) :
    (IfOp.setIp ip).run name host = setProperty name (.siocsifaddr ip) host := rfl

theorem IfOp.run_setNetmask (mask : UInt32) (name : Text) (host : Host Net) :
    (IfOp.setNetmask mask).run name host = setProperty name (.siocsifnetmask mask) host := rfl

theorem IfOp.run_setUp (name : Text) (host : Host Net) :
    IfOp.setUp.run name host = changeFlags name (fun flags => flags ||| iffUp) host := rfl

theorem IfOp.run_setDown (name : Text) (host : Host Net) :
    IfOp.setDown.run name host = changeFlags name (fun flags => flags &&& ~~~iffUp) host := rfl

theorem run_issues (op : IfOp) (name : Text) (host : Host Net) :
    Issues (fun q => q.1 = ifrName name) host (op.run name host).2 := by
  cases op with
  | setIp ip =>
    rw [IfOp.run_setIp]
    exact (setProperty_issues _ _ _).mono fun _ hr => congrArg Prod.fst hr
  | setNetmask mask =>
    rw [IfOp.run_setNetmask]
    exact (setProperty_issues _ _ _).mono fun _ hr => congrArg Prod.fst hr
  | setUp =>
    rw [IfOp.run_setUp]
    exact (changeFlags_issues _ _ _).mono fun _ hr => hr.1
  | setDown =>
    rw [IfOp.run_setDown]
    exact (changeFlags_issues _ _ _).mono fun _ hr => hr.1

theorem run_others (op : IfOp) {other : Text} (h : other ≠ (ifrName name).text)
    (host : Host Net) :
    (op.run name host).2.env.interfaces other = host.env.interfaces other := by
  have hstep {f : Interface → Interface} {r : ℤ × Host Net}
      (hr : StepDone (ifrName name).text f host r) :
      r.2.env.interfaces other = host.env.interfaces other := by
    rcases hr with hr | hr
    · exact hr.2.elsewhere h
    · exact hr.2.2.elsewhere h
  cases op with
  | setIp ip =>
    rw [IfOp.run_setIp]
    exact hstep (setProperty_step _ _ _)
  | setNetmask mask =>
    rw [IfOp.run_setNetmask]
    exact hstep (setProperty_step _ _ _)
  | setUp =>
    rw [IfOp.run_setUp]
    exact hstep (changeFlags_step _ _ _)
  | setDown =>
    rw [IfOp.run_setDown]
    exact hstep (changeFlags_step _ _ _)

theorem setProperty_reached (h : host.Granted) (name : Text) (request : IoctlRequest) :
    (setProperty name request host).2.env.issued =
      host.env.issued ++ [(ifrName name, request)] := by
  by_cases h' : Answers (ifrName name) (next host)
  · obtain ⟨i, hi⟩ := Option.isSome_iff_exists.mp h'.2
    rw [setProperty_done h h'.1 hi]
  · rw [setProperty_failed h h']
    rfl

theorem changeFlags_reached (h : host.Granted) (h' : Answers (ifrName name) (next host))
    (change : UInt16 → UInt16) :
    ∃ flags, (changeFlags name change host).2.env.issued =
      host.env.issued ++ [(ifrName name, .siocgifflags), (ifrName name, .siocsifflags flags)] := by
  obtain ⟨i, hi⟩ := Option.isSome_iff_exists.mp h'.2
  refine ⟨change i.flags, ?_⟩
  have hissued := ioctl_issued (ifrName name) (.siocsifflags (change i.flags))
    (flagsRead name host)
  rw [changeFlags_read h h'.1 hi]
  generalize ioctl _ _ _ = answer at hissued ⊢
  obtain ⟨_ | _, host'⟩ := answer <;> exact hissued.trans (List.append_assoc _ _ _)

theorem changeFlags_unreached (h : ¬ (host.Granted ∧ Answers (ifrName name) (next host)))
    (change : UInt16 → UInt16) : ActsOnNamed name host (changeFlags name change host) := by
  by_cases hg : host.Granted
  · rw [changeFlags_unread hg fun ha => h ⟨hg, ha⟩]
    exact ⟨Or.inr ⟨rfl, _, rfl, by simp⟩, fun _ _ => rfl⟩
  · rw [changeFlags_no_socket hg]
    exact ⟨Or.inr ⟨rfl, Issues.none rfl⟩, fun _ _ => rfl⟩

theorem setProperty_unreached (h : ¬ host.Granted) (request : IoctlRequest) :
    ActsOnNamed name host (setProperty name request host) := by
  rw [setProperty_no_socket h]
  exact ⟨Or.inr ⟨rfl, Issues.none rfl⟩, fun _ _ => rfl⟩

theorem run_reached {op : IfOp} (h : op.Reaches name host) :
    ∃ l q, (op.run name host).2.env.issued = host.env.issued ++ l ∧ q ∈ l ∧
      q.1 = ifrName name ∧ q.2 ≠ .siocgifflags := by
  have hflags (change : UInt16 → UInt16)
      (h : host.Granted ∧ Answers (ifrName name) (next host)) :
      ∃ l q, (changeFlags name change host).2.env.issued = host.env.issued ++ l ∧ q ∈ l ∧
        q.1 = ifrName name ∧ q.2 ≠ .siocgifflags := by
    obtain ⟨flags, hissued⟩ := changeFlags_reached h.1 h.2 change
    exact ⟨_, (ifrName name, .siocsifflags flags), hissued, by simp, rfl, by simp⟩
  cases op with
  | setIp ip =>
    exact ⟨_, _, setProperty_reached h name (.siocsifaddr ip), List.mem_singleton_self _, rfl,
      by simp⟩
  | setNetmask mask =>
    exact ⟨_, _, setProperty_reached h name (.siocsifnetmask mask), List.mem_singleton_self _, rfl,
      by simp⟩
  | setUp =>
    rw [IfOp.run_setUp]
    exact hflags _ h
  | setDown =>
    rw [IfOp.run_setDown]
    exact hflags _ h

theorem run_unreached {op : IfOp} (h : ¬ op.Reaches name host) :
    ActsOnNamed name host (op.run name host) := by
  cases op with
  | setIp ip => exact setProperty_unreached h _
  | setNetmask mask => exact setProperty_unreached h _
  | setUp => exact changeFlags_unreached h fun flags => flags ||| iffUp
  | setDown => exact changeFlags_unreached h fun flags => flags &&& ~~~iffUp

theorem run_actsOnNamed_iff (h : nul ∉ name) (op : IfOp) (host : Host Net) :
    ActsOnNamed name host (op.run name host) ↔ name.length ≤ 15 ∨ ¬ op.Reaches name host := by
  rw [← ifrName_text_eq_iff h]
  constructor
  · intro hacts
    by_contra hno
    rw [not_or, not_not] at hno
    obtain ⟨l, q, hl, hq, hqname, hchange⟩ := run_reached hno.2
    refine not_actsOnNamed hl hq ?_ hchange hacts
    rw [hqname]
    exact hno.1
  · intro hor
    rcases hor with hname | hunreached
    · refine ⟨Or.inl ((run_issues op name host).mono fun q hq => ?_), fun other hne => ?_⟩
      · rw [hq, hname]
      · exact run_others op (by rwa [hname]) host
    · exact run_unreached hunreached

abbrev givenInterface (file : Text) : Text := given .interface file

theorem loaded_interfaceName (old : AppConfig) (path file : Text) :
    (appConfigLoad old path (some file)).2.device.interfaceName.text =
      (givenInterface file).take 15 := by
  rw [appConfigLoad_eq]
  exact print_loaded path file (k := .interface) rfl

theorem applyNetwork_unreached (cfg : AppConfig) (h : ¬ host.Granted) :
    applyNetwork cfg host = (-1, next host) := by
  simp only [applyNetwork, netIfSetIp, setProperty_no_socket h]
  rfl

theorem applyNetwork_reached (cfg : AppConfig) (h : host.Granted) :
    ∃ l, (applyNetwork cfg host).2.env.issued =
      host.env.issued ++
        (ifrName cfg.device.interfaceName.text, .siocsifaddr cfg.network.ipAddr) :: l := by
  rcases hr1 : netIfSetIp cfg.device.interfaceName.text cfg.network.ipAddr host with ⟨ret1, host1⟩
  rcases hr2 : netIfSetNetmask cfg.device.interfaceName.text cfg.network.netmask host1
    with ⟨ret2, host2⟩
  rcases hr3 : netIfSetUp cfg.device.interfaceName.text host2 with ⟨ret3, host3⟩
  have h1 := setProperty_reached h cfg.device.interfaceName.text (.siocsifaddr cfg.network.ipAddr)
  have h2 := run_issues (.setNetmask cfg.network.netmask) cfg.device.interfaceName.text host1
  have h3 := run_issues .setUp cfg.device.interfaceName.text host2
  rw [← netIfSetIp, hr1] at h1
  simp only [IfOp.run, hr2] at h2
  simp only [IfOp.run, hr3] at h3
  have hafter {host' : Host Net}
      (hi : Issues (fun q => q.1 = ifrName cfg.device.interfaceName.text) host1 host') :
      ∃ l, host'.env.issued = host.env.issued ++
        (ifrName cfg.device.interfaceName.text, .siocsifaddr cfg.network.ipAddr) :: l := by
    obtain ⟨l, hl, -⟩ := hi
    refine ⟨l, ?_⟩
    rw [hl, h1, List.append_assoc, List.singleton_append]
  simp only [applyNetwork, hr1, hr2, hr3]
  split_ifs
  · exact ⟨[], h1⟩
  · exact hafter h2
  · exact hafter (h2.trans h3)
  · exact hafter (h2.trans h3)

theorem applyNetwork_actsOnNamed_iff (old : AppConfig) (path file : Text) (host : Host Net) :
    ActsOnNamed (givenInterface file) host
        (applyNetwork (appConfigLoad old path (some file)).2 host) ↔
      (givenInterface file).length ≤ 15 ∨ ¬ host.Granted := by
  have hloaded := loaded_interfaceName old path file
  generalize (appConfigLoad old path (some file)).2 = cfg at hloaded ⊢
  have hnul := (given_plain .interface file).no_nul
  have hname : (ifrName cfg.device.interfaceName.text).text = (givenInterface file).take 15 := by
    rw [hloaded, ifrName_text fun hm => hnul (List.mem_of_mem_take hm), List.take_take, min_self]
  rw [← List.take_eq_self_iff, ← hname]
  constructor
  · intro hacts
    by_contra hno
    rw [not_or, not_not] at hno
    obtain ⟨l, hl⟩ := applyNetwork_reached cfg hno.2
    exact not_actsOnNamed hl List.mem_cons_self hno.1 (by simp) hacts
  · intro hor
    rcases hor with hsame | hrefused
    · constructor
      · exact Or.inl (applyNetwork_issues_all cfg hsame hsame
          (fun q hq _ => by rw [hq, hsame]) host)
      · intro other hne
        obtain ⟨-, -, hmaps⟩ := applyNetwork_steps cfg host
        exact hmaps.elsewhere (by rwa [addressName, hsame])
    · rw [applyNetwork_unreached cfg hrefused]
      exact ⟨Or.inr ⟨rfl, Issues.none rfl⟩, fun _ _ => rfl⟩

/-- The interface acted on is the one named exactly where the name has at most 15
bytes, or where nothing comes to a request that changes something. -/
theorem acts_on_named_iff (name : Text) (hname : nul ∉ name) (op : IfOp) (host : Host Net)
    (old : AppConfig) (path file : Text) :
    (ActsOnNamed name host (op.run name host) ↔ name.length ≤ 15 ∨ ¬ op.Reaches name host) ∧
      (ActsOnNamed (givenInterface file) host
          (applyNetwork (appConfigLoad old path (some file)).2 host) ↔
        (givenInterface file).length ≤ 15 ∨ ¬ host.Granted) :=
  ⟨run_actsOnNamed_iff hname op host, applyNetwork_actsOnNamed_iff old path file host⟩

def nearHost : Host Net :=
  ⟨⟨fun name => if name = ascii "eth_test_nonexi" then some ⟨0, 0, 1⟩ else none, []⟩, []⟩

theorem acts_on_named_iff_nonexi :
    let r := netIfSetDown (ascii "eth_test_nonexi") nearHost
    ActsOnNamed (ascii "eth_test_nonexi") nearHost r ∧
      r.2.env.interfaces (ascii "eth_test_nonexi") = some ⟨0, 0, 0⟩ :=
  ⟨(acts_on_named_iff (ascii "eth_test_nonexi") (by decide) .setDown nearHost appConfigDefault
    [] []).1.mpr (Or.inl (by decide)), by decide⟩

theorem other_interface_goes_down :
    let r := netIfSetDown (ascii "eth_test_nonexist") nearHost
    r.1 = 0 ∧ r.2.env.interfaces (ascii "eth_test_nonexi") = some ⟨0, 0, 0⟩ ∧
      ¬ ActsOnNamed (ascii "eth_test_nonexist") nearHost r := by
  intro r
  have hdown : r.2.env.interfaces (ascii "eth_test_nonexi") = some ⟨0, 0, 0⟩ := by decide
  refine ⟨by decide, hdown, fun h => ?_⟩
  have hother := h.others (ascii "eth_test_nonexi") (by decide)
  rw [hdown] at hother
  exact absurd hother (by decide)

end PnetManager.InterfaceNames
