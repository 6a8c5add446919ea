import PnetManager.ConfigReadings

/-!
# Which addresses validation lets through

`parse_ip` answers 0 for a text it does not accept, and loading stores the
answer. `app_config_validate` asks for a device address other than 0; netmask
and gateway it does not look at.
-/

namespace PnetManager.AddressValidation
open CText CNumber ConfigFile ConfigKeys ConfigReadings

set_option maxRecDepth 2000

/-- `parse_ip` accepts the text: four numbers, each at most 255. -/
def AcceptsIp (v : Text) : Prop :=
  ∃ q ∈ scanQuad v, q.1 ≤ 255 ∧ q.2.1 ≤ 255 ∧ q.2.2.1 ≤ 255 ∧ q.2.2.2 ≤ 255

instance (v : Text) : Decidable (AcceptsIp v) :=
  inferInstanceAs (Decidable (∃ q ∈ scanQuad v, _))

theorem acceptsIp_of_parseIp_ne_zero {v : Text} (h : parseIp v ≠ 0) : AcceptsIp v := by
  rw [parseIp] at h
  cases hq : scanQuad v with
  | none => simp [hq] at h
  | some q =>
    obtain ⟨a, b, c, d⟩ := q
    simp only [hq] at h
    split_ifs at h with hbig
    · exact absurd rfl h
    · simp only [not_or, UInt32.not_lt] at hbig
      exact ⟨_, hq, hbig⟩

theorem ipAddr_of_valid {cfg : AppConfig} (h : appConfigValidate cfg = 0) :
    cfg.device.ipAddr ≠ 0 := by
  intro hzero
  rw [appConfigValidate, validateError] at h
  split_ifs at h <;> simp_all

variable (old : AppConfig) (path file : Text)

def AcceptedLast (k : Key) (device network : UInt32) : Prop :=
  ∀ v, lastValue k (assignments file) = some v →
    AcceptsIp v ∧ device = parseIp v ∧ network = parseIp v

/-- In a file that loads and passes validation every address key has an accepted
value at last exactly when the netmask and the gateway have. -/
theorem addresses_accepted_iff
    (hvalid : appConfigValidate (appConfigLoad old path (some file)).2 = 0) :
    let cfg := (appConfigLoad old path (some file)).2
    AcceptedLast file .ipAddr cfg.device.ipAddr cfg.network.ipAddr ∧
        AcceptedLast file .netmask cfg.device.netmask cfg.network.netmask ∧
        AcceptedLast file .gateway cfg.device.gateway cfg.network.gateway ↔
      (∀ v, lastValue .netmask (assignments file) = some v → AcceptsIp v) ∧
        ∀ v, lastValue .gateway (assignments file) = some v → AcceptsIp v := by
  have hip := ipAddr_of_valid hvalid
  rw [appConfigLoad_eq] at hip ⊢
  have hread {k : Key} {v : Text} := setting_of_lastValue (k := k) (v := v) path (assignments file)
  obtain ⟨hnetIp, hnetMask, hnetGateway⟩ := (assigned_loaded path (assignments file)).mirrors
  generalize assigned path (assignments file) = cfg at hip hread hnetIp hnetMask hnetGateway ⊢
  have haddr {v : Text} (hv : lastValue .ipAddr (assignments file) = some v) :
      cfg.device.ipAddr = parseIp v := Reading.word.inj (hread hv)
  have hmask {v : Text} (hv : lastValue .netmask (assignments file) = some v) :
      cfg.device.netmask = parseIp v := Reading.word.inj (hread hv)
  have hgateway {v : Text} (hv : lastValue .gateway (assignments file) = some v) :
      cfg.device.gateway = parseIp v := Reading.word.inj (hread hv)
  constructor
  · intro h
    obtain ⟨-, hm, hg⟩ := h
    exact ⟨fun v hv => (hm v hv).1, fun v hv => (hg v hv).1⟩
  · intro h
    obtain ⟨hm, hg⟩ := h
    refine ⟨fun v hv => ⟨?_, haddr hv, hnetIp.trans (haddr hv)⟩,
      fun v hv => ⟨hm v hv, hmask hv, hnetMask.trans (hmask hv)⟩,
      fun v hv => ⟨hg v hv, hgateway hv, hnetGateway.trans (hgateway hv)⟩⟩
    exact acceptsIp_of_parseIp_ne_zero (haddr hv ▸ hip)

theorem addresses_accepted_iff_written :
    let file := ascii "ip_addr = 10.0.0.1\nnetmask = 255.0.0.0\ngateway = 10.0.0.254\n"
    let cfg := (appConfigLoad appConfigDefault [] (some file)).2
    AcceptedLast file .ipAddr cfg.device.ipAddr cfg.network.ipAddr :=
  ((addresses_accepted_iff appConfigDefault [] _ (by decide)).mpr (by decide)).1

theorem malformed_netmask_is_valid :
    let file := ascii "netmask = foo\n"
    let cfg := (appConfigLoad appConfigDefault [] (some file)).2
    (appConfigLoad appConfigDefault [] (some file)).1 = 0 ∧ appConfigValidate cfg = 0 ∧
      lastValue .netmask (assignments file) = some (ascii "foo") ∧ ¬ AcceptsIp (ascii "foo") ∧
      cfg.device.netmask = 0 ∧ cfg.network.netmask = 0 := by
  decide

end PnetManager.AddressValidation
