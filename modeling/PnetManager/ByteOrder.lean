import PnetManager.ConfigReadings
import PnetManager.MainStartup

/-!
# The byte order of addresses

`parse_ip` puts the first octet of a dotted quad into the highest byte.
`io_device_start` takes the octets from there; `net_if_set_ip` and
`net_if_set_netmask` hand the same word to the kernel, which reads it from
memory, on a little-endian host from the lowest byte up.
-/

namespace PnetManager.ByteOrder
open CText CNumber CStdio Word32 SystemCalls IoDeviceApp NetworkConfig ConfigFile ConfigRoundTrip
  ConfigKeys ConfigReadings MainStartup

set_option maxRecDepth 2000

/-- Every address and netmask that `apply_network` hands to the kernel lies in
memory as these bytes. -/
def ConfiguresExactly (cfg : AppConfig) (ip mask : List Byte) : Prop :=
  ∀ host : Host Net, host.env.issued = [] → ∀ r ∈ (applyNetwork cfg host).2.env.issued,
    (∀ v, r.2 = .siocsifaddr v → leBytes v = ip) ∧
    (∀ v, r.2 = .siocsifnetmask v → leBytes v = mask)

def StackOctets (cfg : AppConfig) (ip mask : IpOctets) : Prop :=
  ∃ name gateway dhcp, (pnetCfgOf .real cfg.device).ifCfg = .real name ip mask gateway dhcp

def willing : Host Net := ⟨⟨fun _ => some ⟨0, 0, 0⟩, []⟩, []⟩

theorem configuresExactly_iff (cfg : AppConfig) (ip mask : List Byte) :
    ConfiguresExactly cfg ip mask ↔
      leBytes cfg.network.ipAddr = ip ∧ leBytes cfg.network.netmask = mask := by
  constructor
  · intro h
    have hw := h willing rfl
    constructor
    · refine (hw (ifrName cfg.device.interfaceName.text,
        .siocsifaddr cfg.network.ipAddr) ?_).1 _ rfl
      simp [applyNetwork, netIfSetIp, netIfSetNetmask, netIfSetUp, setProperty, changeFlags,
        createIoctlSocket, ioctl, Host.call, willing, IoctlRequest.effect]
    · refine (hw (ifrName cfg.device.interfaceName.text,
        .siocsifnetmask cfg.network.netmask) ?_).2 _ rfl
      simp [applyNetwork, netIfSetIp, netIfSetNetmask, netIfSetUp, setProperty, changeFlags,
        createIoctlSocket, ioctl, Host.call, willing, IoctlRequest.effect]
  · intro hboth host hnone r hr
    obtain ⟨hip, hmask⟩ := hboth
    obtain ⟨l, hl, hall⟩ := applyNetwork_issues cfg host
    rw [hl, hnone, List.nil_append] at hr
    rcases hall r hr with h | h | h | ⟨flags, h⟩ <;> rw [h]
    · simpa using hip
    · simpa using hmask
    · simp
    · simp

def IsQuad (t : Text) (o : IpOctets) : Prop :=
  ∃ ta tb tc td, t = dotted ta tb tc td ∧
    IsOctet ta o.a ∧ IsOctet tb o.b ∧ IsOctet tc o.c ∧ IsOctet td o.d

theorem isQuad_printed (o : IpOctets) :
    IsQuad (dotted (fmtU o.a.toNat) (fmtU o.b.toNat) (fmtU o.c.toNat) (fmtU o.d.toNat)) o := by
  have hoct (x : Byte) : IsOctet (fmtU x.toNat) x := by
    simpa using isOctet_fmtU x.toNat_lt
  exact ⟨_, _, _, _, rfl, hoct _, hoct _, hoct _, hoct _⟩

theorem IsQuad.parse {t : Text} {o : IpOctets} (h : IsQuad t o) :
    parseIp t = ofOctets o.a o.b o.c o.d := by
  obtain ⟨ta, tb, tc, td, rfl, ha, hb, hc, hd⟩ := h
  exact parseIp_dotted ha hb hc hd

theorem ipOctets_ofOctets (o : IpOctets) : ipOctets (ofOctets o.a o.b o.c o.d) = o := by
  obtain ⟨h24, h16, h8, h0⟩ := ofOctets_fields o.a o.b o.c o.d
  simp only [ipOctets, h24, h16, h8, h0]

theorem loaded_addresses (old : AppConfig) (path file : Text) {t u : Text} {ip mask : IpOctets}
    (hip : lastValue .ipAddr (assignments file) = some t) (ht : IsQuad t ip)
    (hmask : lastValue .netmask (assignments file) = some u) (hu : IsQuad u mask) :
    let cfg := (appConfigLoad old path (some file)).2
    (cfg.network.ipAddr = ofOctets ip.a ip.b ip.c ip.d ∧
      cfg.device.ipAddr = ofOctets ip.a ip.b ip.c ip.d) ∧
    cfg.network.netmask = ofOctets mask.a mask.b mask.c mask.d ∧
      cfg.device.netmask = ofOctets mask.a mask.b mask.c mask.d := by
  rw [← ht.parse, ← hu.parse, appConfigLoad_eq]
  obtain ⟨hnetIp, hnetMask, -⟩ := (assigned_loaded path (assignments file)).mirrors
  have hdevIp : (assigned path (assignments file)).device.ipAddr = parseIp t :=
    Reading.word.inj (setting_of_lastValue path _ hip)
  have hdevMask : (assigned path (assignments file)).device.netmask = parseIp u :=
    Reading.word.inj (setting_of_lastValue path _ hmask)
  exact ⟨⟨hnetIp.trans hdevIp, hdevIp⟩, hnetMask.trans hdevMask, hdevMask⟩

theorem stackOctets_of_addresses {cfg : AppConfig} {ip mask : IpOctets}
    (hip : cfg.device.ipAddr = ofOctets ip.a ip.b ip.c ip.d)
    (hmask : cfg.device.netmask = ofOctets mask.a mask.b mask.c mask.d) :
    StackOctets cfg ip mask := by
  refine ⟨cfg.device.interfaceName.text, ipOctets cfg.device.gateway, false, ?_⟩
  simp only [pnetCfgOf, ifCfgOf, hip, hmask, ipOctets_ofOctets]

def octetList (o : IpOctets) : List Byte := [o.a, o.b, o.c, o.d]

theorem reversed_iff (o : IpOctets) :
    leBytes (ofOctets o.a o.b o.c o.d) = octetList o ↔ o.a = o.d ∧ o.b = o.c := by
  rw [leBytes_ofOctets, octetList]
  simp only [List.cons.injEq, and_true]
  exact ⟨fun ⟨h1, h2, _, _⟩ => ⟨h1.symm, h2.symm⟩,
    fun ⟨h1, h2⟩ => ⟨h1.symm, h2.symm, h2, h1⟩⟩

/-- The stack always gets the octets of the file. The interface gets them exactly
when address and netmask read the same backwards. -/
theorem configured_as_written_iff (old : AppConfig) (path file : Text) {t u : Text}
    {ip mask : IpOctets} (hip : lastValue .ipAddr (assignments file) = some t) (ht : IsQuad t ip)
    (hmask : lastValue .netmask (assignments file) = some u) (hu : IsQuad u mask) :
    let cfg := (appConfigLoad old path (some file)).2
    ConfiguresExactly cfg (octetList ip) (octetList mask) ∧ StackOctets cfg ip mask ↔
      (ip.a = ip.d ∧ ip.b = ip.c) ∧ mask.a = mask.d ∧ mask.b = mask.c := by
  obtain ⟨⟨hnet, hdev⟩, hnet', hdev'⟩ := loaded_addresses old path file hip ht hmask hu
  have hstack := stackOctets_of_addresses hdev hdev'
  dsimp only
  rw [configuresExactly_iff, hnet, hnet', reversed_iff, reversed_iff]
  exact and_iff_left hstack

theorem configured_as_written_iff_palindromes :
    let file := ascii "ip_addr = 10.7.7.10\nnetmask = 255.0.0.255\n"
    ConfiguresExactly (appConfigLoad appConfigDefault [] (some file)).2
      [10, 7, 7, 10] [255, 0, 0, 255] :=
  ((configured_as_written_iff appConfigDefault [] _ (by decide)
    (isQuad_printed ⟨10, 7, 7, 10⟩) (by decide) (isQuad_printed ⟨255, 0, 0, 255⟩)).mpr
      (by decide)).1

theorem configured_backwards :
    let file := ascii "ip_addr = 192.168.0.100\nnetmask = 255.255.255.0\n"
    let cfg := (appConfigLoad appConfigDefault [] (some file)).2
    lastValue .ipAddr (assignments file) = some (ascii "192.168.0.100") ∧
      lastValue .netmask (assignments file) = some (ascii "255.255.255.0") ∧
      leBytes cfg.network.ipAddr = [100, 0, 168, 192] ∧
      ¬ ConfiguresExactly cfg [192, 168, 0, 100] [255, 255, 255, 0] := by
  refine ⟨by decide, by decide, by decide, ?_⟩
  rw [configuresExactly_iff]
  decide

end PnetManager.ByteOrder
