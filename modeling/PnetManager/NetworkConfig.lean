import PnetManager.CText
import PnetManager.SystemCalls
import PnetManager.Word32

/-!
# Configuring network interfaces

The `net_if_set_*` functions of a Linux build over the interfaces of a host. An
`ioctl` is on record whether or not the host grants it.
-/

namespace PnetManager.NetworkConfig
open CText SystemCalls

structure NetIfConfig where
  ifName : CharArray 16
  ipAddr : UInt32
  netmask : UInt32
  gateway : UInt32
  macAddr : CharArray 6
  configured : Bool
deriving DecidableEq

def NetIfConfig.zeroed : NetIfConfig where
  ifName := .zeroed _
  ipAddr := 0
  netmask := 0
  gateway := 0
  macAddr := .zeroed _
  configured := false

structure TcpTuningConfig where
  tcpTimestamps : Bool
  tcpWindowScaling : Bool
  tcpSack : Bool
  tcpRmem : Vector UInt32 3
  tcpWmem : Vector UInt32 3
deriving DecidableEq

def TcpTuningConfig.zeroed : TcpTuningConfig where
  tcpTimestamps := false
  tcpWindowScaling := false
  tcpSack := false
  tcpRmem := .replicate 3 0
  tcpWmem := .replicate 3 0

structure Interface where
  address : UInt32
  netmask : UInt32
  flags : UInt16
deriving DecidableEq

def ifnamsiz : ℕ := 16
def iffUp : UInt16 := 1

inductive IoctlRequest
  | siocsifaddr (sAddr : UInt32)
  | siocsifnetmask (sAddr : UInt32)
  | siocgifflags
  | siocsifflags (flags : UInt16)
deriving DecidableEq

/-- Each request sets its own field and no other, and takes every value. A kernel that
derives a mask from a new address does more. -/
def IoctlRequest.effect (i : Interface) : IoctlRequest → Interface
  | .siocsifaddr sAddr => { i with address := sAddr }
  | .siocsifnetmask sAddr => { i with netmask := sAddr }
  | .siocgifflags => i
  | .siocsifflags flags => { i with flags := flags }

/-- The interfaces by name, and the requests that `ioctl` was called with. -/
structure Net where
  interfaces : Text → Option Interface
  issued : List (CharArray 16 × IoctlRequest)

def createIoctlSocket (host : Host Net) : Bool × Host Net := host.call some

/-- `ioctl`; the interface it has acted on, `none` on an error. -/
def ioctl (ifrName : CharArray 16) (request : IoctlRequest) (host : Host Net) :
    Option Interface × Host Net :=
  let host := { host with
    env := { host.env with issued := host.env.issued ++ [(ifrName, request)] } }
  let (ok, host) := host.call fun net =>
    (net.interfaces ifrName.text).map fun i =>
      { net with
        interfaces := Function.update net.interfaces ifrName.text (some (request.effect i)) }
  (if ok then host.env.interfaces ifrName.text else none, host)

def ifrName (ifName : Text) : CharArray 16 := (CharArray.zeroed _).strncpy ifName (ifnamsiz - 1)

def setProperty (ifName : Text) (request : IoctlRequest) (host : Host Net) : ℤ × Host Net :=
  match createIoctlSocket host with
  | (false, host) => (-1, host)
  | (true, host) =>
    match ioctl (ifrName ifName) request host with
    | (none, host) => (-1, host)
    | (some _, host) => (0, host)

def netIfSetIp (ifName : Text) (ip : UInt32) : Host Net → ℤ × Host Net :=
  setProperty ifName (.siocsifaddr ip)

def netIfSetNetmask (ifName : Text) (mask : UInt32) : Host Net → ℤ × Host Net :=
  setProperty ifName (.siocsifnetmask mask)

def changeFlags (ifName : Text) (change : UInt16 → UInt16) (host : Host Net) : ℤ × Host Net :=
  match createIoctlSocket host with
  | (false, host) => (-1, host)
  | (true, host) =>
    match ioctl (ifrName ifName) .siocgifflags host with
    | (none, host) => (-1, host)
    | (some i, host) =>
      match ioctl (ifrName ifName) (.siocsifflags (change i.flags)) host with
      | (none, host) => (-1, host)
      | (some _, host) => (0, host)

def netIfSetUp (ifName : Text) : Host Net → ℤ × Host Net :=
  changeFlags ifName fun flags => flags ||| iffUp

def netIfSetDown (ifName : Text) : Host Net → ℤ × Host Net :=
  changeFlags ifName fun flags => flags &&& ~~~iffUp

def Issues (P : CharArray 16 × IoctlRequest → Prop) (host host' : Host Net) : Prop :=
  ∃ l, host'.env.issued = host.env.issued ++ l ∧ ∀ r ∈ l, P r

variable {P Q : CharArray 16 × IoctlRequest → Prop} {host host' host'' : Host Net}

theorem Issues.none (h : host'.env = host.env) : Issues P host host' := ⟨[], by simp [h], by simp⟩

theorem Issues.trans (h : Issues P host host') (h' : Issues P host' host'') :
    Issues P host host'' := by
  obtain ⟨l, hl, hp⟩ := h
  obtain ⟨l', hl', hp'⟩ := h'
  refine ⟨l ++ l', by rw [hl', hl, List.append_assoc], fun r hr => ?_⟩
  exact (List.mem_append.mp hr).elim (hp r) (hp' r)

theorem Issues.mono (h : Issues P host host') (hPQ : ∀ r, P r → Q r) : Issues Q host host' :=
  h.imp fun _ hl => ⟨hl.1, fun r hr => hPQ r (hl.2 r hr)⟩

theorem createIoctlSocket_env (host : Host Net) : (createIoctlSocket host).2.env = host.env := by
  rcases host.call_env some with h | h
  · exact h
  · exact (Option.some_injective _ h).symm

theorem ioctl_issued (name : CharArray 16) (request : IoctlRequest) (host : Host Net) :
    (ioctl name request host).2.env.issued = host.env.issued ++ [(name, request)] := by
  rw [ioctl]
  dsimp only
  rcases Host.call_env _ _ with h | h
  · rw [h]
  · obtain ⟨i, -, hi⟩ := Option.map_eq_some_iff.mp h
    rw [← hi]

theorem ioctl_issues (name : CharArray 16) (request : IoctlRequest) (h : P (name, request))
    (host : Host Net) : Issues P host (ioctl name request host).2 :=
  ⟨_, ioctl_issued name request host, by simpa using h⟩

theorem setProperty_issues (ifName : Text) (request : IoctlRequest) (host : Host Net) :
    Issues (fun r => r = (ifrName ifName, request)) host (setProperty ifName request host).2 := by
  have hs := createIoctlSocket_env host
  rw [setProperty]
  generalize createIoctlSocket host = socket at hs ⊢
  obtain ⟨_ | _, host'⟩ := socket
  · exact .none hs
  · have hi := (Issues.none hs).trans (ioctl_issues (P := fun r => r = (ifrName ifName, request))
      _ _ rfl host')
    dsimp only
    generalize ioctl (ifrName ifName) request host' = answer at hi ⊢
    obtain ⟨_ | _, host''⟩ := answer <;> exact hi

def IsFlagsRequest (r : CharArray 16 × IoctlRequest) : Prop :=
  r.2 = .siocgifflags ∨ ∃ flags, r.2 = .siocsifflags flags

theorem changeFlags_issues (ifName : Text) (change : UInt16 → UInt16) (host : Host Net) :
    Issues (fun r => r.1 = ifrName ifName ∧ IsFlagsRequest r) host
      (changeFlags ifName change host).2 := by
  have hs := createIoctlSocket_env host
  rw [changeFlags]
  generalize createIoctlSocket host = socket at hs ⊢
  obtain ⟨_ | _, host'⟩ := socket
  · exact .none hs
  have hi := (Issues.none hs).trans (ioctl_issues
    (P := fun r => r.1 = ifrName ifName ∧ IsFlagsRequest r) (ifrName ifName) .siocgifflags
    ⟨rfl, Or.inl rfl⟩ host')
  dsimp only
  generalize ioctl (ifrName ifName) .siocgifflags host' = answer at hi ⊢
  obtain ⟨_ | i, host''⟩ := answer
  · exact hi
  have hj := hi.trans (ioctl_issues (ifrName ifName) (.siocsifflags (change i.flags))
    ⟨rfl, Or.inr ⟨_, rfl⟩⟩ host'')
  dsimp only
  generalize ioctl (ifrName ifName) (.siocsifflags (change i.flags)) host'' = answer at hj ⊢
  obtain ⟨_ | _, host'''⟩ := answer <;> exact hj

end PnetManager.NetworkConfig
