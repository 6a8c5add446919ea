import PnetManager.ConfigFile

/-!
# Start-up of the manager

How `main` hands the configuration to the parts it starts.
-/

namespace PnetManager.MainStartup
open CText SystemCalls NetworkConfig ConfigFile

def applyNetwork (cfg : AppConfig) (host : Host Net) : ℤ × Host Net :=
  let iface := cfg.device.interfaceName.text
  let (ret, host) := netIfSetIp iface cfg.network.ipAddr host
  if ret < 0 then (-1, host)
  else
    let (ret, host) := netIfSetNetmask iface cfg.network.netmask host
    if ret < 0 then (-1, host)
    else
      let (ret, host) := netIfSetUp iface host
      if ret < 0 then (-1, host) else (0, host)

theorem applyNetwork_issues_all {P : CharArray 16 × IoctlRequest → Prop} (cfg : AppConfig)
    (hip : P (ifrName cfg.device.interfaceName.text, .siocsifaddr cfg.network.ipAddr))
    (hmask : P (ifrName cfg.device.interfaceName.text, .siocsifnetmask cfg.network.netmask))
    (hup : ∀ r, r.1 = ifrName cfg.device.interfaceName.text → IsFlagsRequest r → P r)
    (host : Host Net) : Issues P host (applyNetwork cfg host).2 := by
  rcases hr1 : netIfSetIp cfg.device.interfaceName.text cfg.network.ipAddr host with ⟨ret1, host1⟩
  rcases hr2 : netIfSetNetmask cfg.device.interfaceName.text cfg.network.netmask host1
    with ⟨ret2, host2⟩
  rcases hr3 : netIfSetUp cfg.device.interfaceName.text host2 with ⟨ret3, host3⟩
  have h1 := setProperty_issues cfg.device.interfaceName.text (.siocsifaddr cfg.network.ipAddr)
    host
  have h2 := setProperty_issues cfg.device.interfaceName.text
    (.siocsifnetmask cfg.network.netmask) host1
  have h3 := changeFlags_issues cfg.device.interfaceName.text (fun flags => flags ||| iffUp) host2
  rw [netIfSetIp] at hr1
  rw [netIfSetNetmask] at hr2
  rw [netIfSetUp] at hr3
  rw [hr1] at h1
  rw [hr2] at h2
  rw [hr3] at h3
  have hp1 : Issues P host host1 := h1.mono fun r hr => hr ▸ hip
  have hp2 : Issues P host host2 := hp1.trans (h2.mono fun r hr => hr ▸ hmask)
  have hp3 : Issues P host host3 := hp2.trans (h3.mono fun r hr => hup r hr.1 hr.2)
  simp only [applyNetwork, netIfSetIp, netIfSetNetmask, netIfSetUp, hr1, hr2, hr3]
  split_ifs <;> assumption

def AppliesNetwork (cfg : AppConfig) (r : CharArray 16 × IoctlRequest) : Prop :=
  r.2 = .siocsifaddr cfg.network.ipAddr ∨ r.2 = .siocsifnetmask cfg.network.netmask ∨
    IsFlagsRequest r

theorem applyNetwork_issues (cfg : AppConfig) (host : Host Net) :
    Issues (AppliesNetwork cfg) host (applyNetwork cfg host).2 :=
  applyNetwork_issues_all cfg (Or.inl rfl) (Or.inr (Or.inl rfl))
    (fun _ _ hr => Or.inr (Or.inr hr)) host

end PnetManager.MainStartup
