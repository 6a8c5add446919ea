import PnetManager.MainStartup

/-!
# Configuring the network, step by step

`apply_network` sets the address, the netmask and the flags one after the other and
takes nothing back: where a step fails, the steps before it stay done.
-/

namespace PnetManager.NetworkSteps
open CText SystemCalls NetworkConfig ConfigFile MainStartup

variable {name : CharArray 16} {ifName : Text} {request : IoctlRequest} {host host' : Host Net}
  {i : Interface}

def Answers (name : CharArray 16) (host : Host Net) : Prop :=
  host.Granted ∧ (host.env.interfaces name.text).isSome

def sent (name : CharArray 16) (request : IoctlRequest) (net : Net) : Net :=
  { net with issued := net.issued ++ [(name, request)] }

theorem socket_granted (h : host.Granted) :
    createIoctlSocket host = (true, ⟨host.env, host.outcomes.tail⟩) :=
  Host.call_granted h rfl

theorem socket_refused (h : ¬ host.Granted) :
    createIoctlSocket host = (false, ⟨host.env, host.outcomes.tail⟩) :=
  Host.call_not_granted h some

theorem ioctl_granted (h : host.Granted) (hi : host.env.interfaces name.text = some i) :
    ioctl name request host =
      (some (request.effect i),
        ⟨⟨Function.update host.env.interfaces name.text (some (request.effect i)),
          host.env.issued ++ [(name, request)]⟩, host.outcomes.tail⟩) := by
  rw [Host.Granted] at h
  simp only [ioctl, Host.call, h, hi, Option.map_some, if_true, Function.update_self]

theorem ioctl_failed (h : ¬ Answers name host) :
    ioctl name request host = (none, ⟨sent name request host.env, host.outcomes.tail⟩) := by
  by_cases hg : host.Granted
  · have hi : host.env.interfaces name.text = none := by
      rw [← Option.not_isSome_iff_eq_none]
      exact fun hi => h ⟨hg, hi⟩
    rw [Host.Granted] at hg
    simp only [ioctl, Host.call, hg, hi, Option.map_none, sent, Bool.false_eq_true, if_false]
  · rw [Host.Granted, Bool.not_eq_true] at hg
    simp only [ioctl, Host.call, hg, sent, Bool.false_eq_true, if_false]

def next (host : Host Net) : Host Net := ⟨host.env, host.outcomes.tail⟩

theorem setProperty_no_socket (h : ¬ host.Granted) :
    setProperty ifName request host = (-1, next host) := by
  simp only [setProperty, socket_refused h, next]

theorem setProperty_failed (h : host.Granted) (h' : ¬ Answers (ifrName ifName) (next host)) :
    setProperty ifName request host =
      (-1, ⟨sent (ifrName ifName) request host.env, host.outcomes.tail.tail⟩) := by
  rw [next] at h'
  simp only [setProperty, socket_granted h, ioctl_failed h']

theorem setProperty_done (h : host.Granted) (h' : (next host).Granted)
    (hi : host.env.interfaces (ifrName ifName).text = some i) :
    setProperty ifName request host =
      (0, ⟨⟨Function.update host.env.interfaces (ifrName ifName).text (some (request.effect i)),
        host.env.issued ++ [(ifrName ifName, request)]⟩, host.outcomes.tail.tail⟩) := by
  rw [next] at h'
  simp only [setProperty, socket_granted h, ioctl_granted h' hi]

theorem flags_read (h : host.Granted) (hi : host.env.interfaces name.text = some i) :
    ioctl name .siocgifflags host =
      (some i, ⟨sent name .siocgifflags host.env, host.outcomes.tail⟩) := by
  have hsame : Function.update host.env.interfaces name.text (some i) = host.env.interfaces := by
    rw [Function.update_eq_self_iff, hi]
  rw [ioctl_granted h hi]
  simp only [IoctlRequest.effect, hsame, sent]

def flagsRead (ifName : Text) (host : Host Net) : Host Net :=
  ⟨sent (ifrName ifName) .siocgifflags host.env, host.outcomes.tail.tail⟩

theorem changeFlags_no_socket {change : UInt16 → UInt16} (h : ¬ host.Granted) :
    changeFlags ifName change host = (-1, next host) := by
  simp only [changeFlags, socket_refused h, next]

theorem changeFlags_unread {change : UInt16 → UInt16} (h : host.Granted)
    (h' : ¬ Answers (ifrName ifName) (next host)) :
    changeFlags ifName change host = (-1, flagsRead ifName host) := by
  rw [next] at h'
  simp only [changeFlags, socket_granted h, ioctl_failed h', flagsRead]

theorem changeFlags_read {change : UInt16 → UInt16} (h : host.Granted) (h' : (next host).Granted)
    (hi : host.env.interfaces (ifrName ifName).text = some i) :
    changeFlags ifName change host =
      match ioctl (ifrName ifName) (.siocsifflags (change i.flags)) (flagsRead ifName host) with
      | (none, host) => (-1, host)
      | (some _, host) => (0, host) := by
  rw [next] at h'
  simp only [changeFlags, socket_granted h, flags_read h' hi]
  rfl

def Maps (name : Text) (f : Interface → Interface) (host host' : Host Net) : Prop :=
  host'.env.interfaces =
    Function.update host.env.interfaces name ((host.env.interfaces name).map f)

theorem Maps.unchanged (h : host'.env.interfaces = host.env.interfaces) (name : Text) :
    Maps name id host host' := by
  rw [Maps, Option.map_id_fun, id, Function.update_eq_self, h]

theorem Maps.trans {host'' : Host Net} {n : Text} {f g : Interface → Interface}
    (h : Maps n f host host') (h' : Maps n g host' host'') : Maps n (g ∘ f) host host'' := by
  rw [Maps, h', h, Function.update_self, Function.update_idem, Option.map_map]

theorem Maps.at_name {n : Text} {f : Interface → Interface} (h : Maps n f host host') :
    host'.env.interfaces n = (host.env.interfaces n).map f := by
  rw [h, Function.update_self]

theorem Maps.elsewhere {n q : Text} {f : Interface → Interface} (h : Maps n f host host')
    (hq : q ≠ n) : host'.env.interfaces q = host.env.interfaces q := by
  rw [h, Function.update_of_ne hq]

def StepDone (name : Text) (f : Interface → Interface) (host : Host Net) (r : ℤ × Host Net) :
    Prop :=
  r.1 = -1 ∧ Maps name id host r.2 ∨
    r.1 = 0 ∧ (host.env.interfaces name).isSome ∧ Maps name f host r.2

theorem setProperty_step (ifName : Text) (request : IoctlRequest) (host : Host Net) :
    StepDone (ifrName ifName).text request.effect host (setProperty ifName request host) := by
  by_cases h : host.Granted
  · by_cases h' : Answers (ifrName ifName) (next host)
    · obtain ⟨i, hi⟩ := Option.isSome_iff_exists.mp h'.2
      rw [setProperty_done h h'.1 hi]
      refine Or.inr ⟨rfl, h'.2, ?_⟩
      change host.env.interfaces _ = some i at hi
      rw [Maps, hi]
      rfl
    · rw [setProperty_failed h h']
      exact Or.inl ⟨rfl, Maps.unchanged rfl _⟩
  · rw [setProperty_no_socket h]
    exact Or.inl ⟨rfl, Maps.unchanged rfl _⟩

theorem changeFlags_step (ifName : Text) (change : UInt16 → UInt16) (host : Host Net) :
    StepDone (ifrName ifName).text (fun i => { i with flags := change i.flags }) host
      (changeFlags ifName change host) := by
  by_cases h : host.Granted
  · by_cases h' : Answers (ifrName ifName) (next host)
    · obtain ⟨i, hi⟩ := Option.isSome_iff_exists.mp h'.2
      change host.env.interfaces _ = some i at hi
      rw [changeFlags_read h h'.1 hi]
      by_cases hset : (flagsRead ifName host).Granted
      · rw [ioctl_granted hset hi]
        refine Or.inr ⟨rfl, h'.2, ?_⟩
        rw [Maps, hi]
        rfl
      · rw [ioctl_failed fun ha => hset ha.1]
        exact Or.inl ⟨rfl, Maps.unchanged rfl _⟩
    · rw [changeFlags_unread h h']
      exact Or.inl ⟨rfl, Maps.unchanged rfl _⟩
  · rw [changeFlags_no_socket h]
    exact Or.inl ⟨rfl, Maps.unchanged rfl _⟩

def addressName (cfg : AppConfig) : Text := (ifrName cfg.device.interfaceName.text).text

/-- An interface after the first `k` steps of a configuration. -/
def configured (cfg : AppConfig) : ℕ → Interface → Interface
  | 0, i => i
  | 1, i => { i with address := cfg.network.ipAddr }
  | 2, i => { i with address := cfg.network.ipAddr, netmask := cfg.network.netmask }
  | _, i => ⟨cfg.network.ipAddr, cfg.network.netmask, i.flags ||| iffUp⟩

def stepsDone (cfg : AppConfig) (host : Host Net) : ℕ :=
  let iface := cfg.device.interfaceName.text
  let (ip, host) := netIfSetIp iface cfg.network.ipAddr host
  let (mask, host) := netIfSetNetmask iface cfg.network.netmask host
  let (up, _) := netIfSetUp iface host
  if ip < 0 then 0 else if mask < 0 then 1 else if up < 0 then 2 else 3

theorem stepsDone_le (cfg : AppConfig) (host : Host Net) : stepsDone cfg host ≤ 3 := by
  simp only [stepsDone]
  split_ifs <;> omega

theorem applyNetwork_steps (cfg : AppConfig) (host : Host Net) :
    (applyNetwork cfg host).1 = (if stepsDone cfg host = 3 then 0 else -1) ∧
      (stepsDone cfg host ≠ 0 → (host.env.interfaces (addressName cfg)).isSome) ∧
      Maps (addressName cfg) (configured cfg (stepsDone cfg host)) host
        (applyNetwork cfg host).2 := by
  rcases hr1 : netIfSetIp cfg.device.interfaceName.text cfg.network.ipAddr host with ⟨ret1, host1⟩
  rcases hr2 : netIfSetNetmask cfg.device.interfaceName.text cfg.network.netmask host1
    with ⟨ret2, host2⟩
  rcases hr3 : netIfSetUp cfg.device.interfaceName.text host2 with ⟨ret3, host3⟩
  have h1 := setProperty_step cfg.device.interfaceName.text (.siocsifaddr cfg.network.ipAddr) host
  have h2 := setProperty_step cfg.device.interfaceName.text
    (.siocsifnetmask cfg.network.netmask) host1
  have h3 := changeFlags_step cfg.device.interfaceName.text (fun flags => flags ||| iffUp) host2
  rw [netIfSetIp] at hr1
  rw [netIfSetNetmask] at hr2
  rw [netIfSetUp] at hr3
  rw [hr1] at h1
  rw [hr2] at h2
  rw [hr3] at h3
  simp only [applyNetwork, stepsDone, netIfSetIp, netIfSetNetmask, netIfSetUp, hr1, hr2, hr3]
  rcases h1 with h1 | h1
  · obtain ⟨rfl, hmaps⟩ := h1
    exact ⟨rfl, fun h => absurd rfl h, hmaps⟩
  obtain ⟨rfl, hsome, hmaps1⟩ := h1
  rcases h2 with h2 | h2
  · obtain ⟨rfl, hmaps2⟩ := h2
    exact ⟨rfl, fun _ => hsome, hmaps1.trans hmaps2⟩
  obtain ⟨rfl, -, hmaps2⟩ := h2
  have hmaps12 := hmaps1.trans hmaps2
  rcases h3 with h3 | h3
  · obtain ⟨rfl, hmaps3⟩ := h3
    exact ⟨rfl, fun _ => hsome, hmaps12.trans hmaps3⟩
  obtain ⟨rfl, -, hmaps3⟩ := h3
  exact ⟨rfl, fun _ => hsome, hmaps12.trans hmaps3⟩

/-- A configuration that succeeds is complete, and one that fails leaves the
interface as the steps before the failure have made it. -/
theorem network_configured_in_steps (cfg : AppConfig) (host : Host Net) :
    let r := applyNetwork cfg host
    let name := addressName cfg
    (r.1 = 0 ∨ r.1 = -1) ∧
      (r.1 = 0 → ∃ i, host.env.interfaces name = some i ∧
        r.2.env.interfaces name =
          some ⟨cfg.network.ipAddr, cfg.network.netmask, i.flags ||| iffUp⟩) ∧
      (r.1 = -1 → stepsDone cfg host < 3 ∧
        r.2.env.interfaces name =
          (host.env.interfaces name).map (configured cfg (stepsDone cfg host))) ∧
      ∀ q, q ≠ name → r.2.env.interfaces q = host.env.interfaces q := by
  intro r name
  obtain ⟨hret, hsome, hmaps⟩ := applyNetwork_steps cfg host
  have hle := stepsDone_le cfg host
  refine ⟨?_, ?_, ?_, fun q hq => hmaps.elsewhere hq⟩
  · change (applyNetwork cfg host).1 = 0 ∨ (applyNetwork cfg host).1 = -1
    rw [hret]
    split_ifs
    · exact Or.inl rfl
    · exact Or.inr rfl
  · intro hzero
    have hall : stepsDone cfg host = 3 := by
      by_contra hne
      rw [if_neg hne] at hret
      exact absurd (hzero.symm.trans hret) (by decide)
    obtain ⟨i, hi⟩ := Option.isSome_iff_exists.mp (hsome (by omega))
    refine ⟨i, hi, ?_⟩
    rw [hmaps.at_name, hall, hi]
    rfl
  · intro hfailed
    refine ⟨?_, hmaps.at_name⟩
    by_contra hall
    rw [if_pos (by omega)] at hret
    exact absurd (hfailed.symm.trans hret) (by decide)

def bare : Interface := ⟨0, 0, 2⟩

def maskRefused : Host Net :=
  ⟨⟨fun name => if name = ascii "eth0" then some bare else none, []⟩, [true, true, true, false]⟩

theorem address_is_left :
    let r := applyNetwork appConfigDefault maskRefused
    r.1 = -1 ∧
      r.2.env.interfaces (ascii "eth0") = some ⟨appConfigDefault.network.ipAddr, 0, 2⟩ ∧
      r.2.env.interfaces (ascii "eth0") ≠ maskRefused.env.interfaces (ascii "eth0") := by
  decide

end PnetManager.NetworkSteps
