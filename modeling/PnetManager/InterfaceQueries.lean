import PnetManager.NetworkSteps

/-!
# Asking an interface for its settings

`net_if_get_ip`, `net_if_get_mac` and `net_if_get_config` of a Linux build. A request
that only reads is not among those that are on record. Over any run of settings, granted
or refused, the interfaces are what the calls that returned 0 have made of them, and this
is what the queries read.
-/

namespace PnetManager.InterfaceQueries
open CText SystemCalls NetworkConfig NetworkSteps

/-- `ioctl` with a request that reads; an interface that has nothing to answer with
is an error. -/
def query (name : CharArray 16) (answers : Interface → Bool) (host : Host Net) :
    Option Interface × Host Net :=
  let (ok, host) := host.call fun net =>
    (net.interfaces name.text).bind fun i => if answers i then some net else none
  (if ok then host.env.interfaces name.text else none, host)

def getProperty {α : Type} (ifName : Text) (answers : Interface → Bool) (value : Interface → α)
    (out : α) (host : Host Net) : ℤ × α × Host Net :=
  match createIoctlSocket host with
  | (false, host) => (-1, out, host)
  | (true, host) =>
    match query (ifrName ifName) answers host with
    | (none, host) => (-1, out, host)
    | (some i, host) => (0, value i, host)

def netIfGetIp (ifName : Text) : UInt32 → Host Net → ℤ × UInt32 × Host Net :=
  getProperty ifName (fun i => i.address ≠ 0) Interface.address

variable (hwaddr : Text → CharArray 6)

def netIfGetMac (ifName : Text) : CharArray 6 → Host Net → ℤ × CharArray 6 × Host Net :=
  getProperty ifName (fun _ => true) fun _ => hwaddr (ifrName ifName).text

def netIfGetConfig (ifName : Text) (host : Host Net) : ℤ × NetIfConfig × Host Net :=
  let config := { NetIfConfig.zeroed with ifName := (CharArray.zeroed _).strncpy ifName (16 - 1) }
  let (ipRet, ipAddr, host) := netIfGetIp ifName config.ipAddr host
  let (macRet, macAddr, host) := netIfGetMac hwaddr ifName config.macAddr host
  let config := { config with ipAddr := ipAddr, macAddr := macAddr }
  if ipRet = 0 ∧ macRet = 0 then (0, { config with configured := true }, host)
  else (-1, { config with configured := false }, host)

variable {name : CharArray 16} {ifName : Text} {answers : Interface → Bool} {host : Host Net}

theorem query_env (name : CharArray 16) (answers : Interface → Bool) (host : Host Net) :
    (query name answers host).2.env = host.env := by
  rw [query]
  rcases Host.call_env host _ with h | h
  · exact h
  · obtain ⟨i, -, hi⟩ := Option.bind_eq_some_iff.mp h
    split_ifs at hi
    exact (Option.some.inj hi).symm

theorem query_some {i : Interface} (h : (query name answers host).1 = some i) :
    host.env.interfaces name.text = some i ∧ answers i = true := by
  have henv := query_env name answers host
  rw [query] at h henv
  rcases hcall : host.call (fun net => (net.interfaces name.text).bind fun i =>
    if answers i then some net else none) with ⟨ok, host'⟩
  rw [hcall] at h henv
  cases ok with
  | false => simp at h
  | true =>
    dsimp only at h henv
    rw [if_pos rfl, henv] at h
    obtain ⟨j, hj, hanswers⟩ := Option.bind_eq_some_iff.mp (Host.call_done hcall)
    rw [h] at hj
    obtain rfl := Option.some.inj hj
    refine ⟨h, ?_⟩
    by_contra hno
    rw [if_neg hno] at hanswers
    exact absurd hanswers (Option.some_ne_none _).symm

theorem query_granted {i : Interface} (h : host.Granted)
    (hi : host.env.interfaces name.text = some i) (hanswers : answers i = true) :
    query name answers host = (some i, next host) := by
  have heffect : ((host.env.interfaces name.text).bind fun i =>
      if answers i then some host.env else none) = some host.env := by
    rw [hi, Option.bind_some, if_pos hanswers]
  rw [query, Host.call_granted h heffect]
  simp [hi, next]

theorem query_granting (h : host.Granting) : (query name answers host).2.Granting := by
  have houtcomes : (query name answers host).2.outcomes = host.outcomes.tail := by
    rw [query]
    dsimp only
    rw [Host.call]
    split <;> rfl
  rw [Host.Granting, houtcomes]
  exact fun hm => h (List.mem_of_mem_tail hm)

structure Reads {α : Type} (i : Option Interface) (answers : Interface → Bool)
    (value : Interface → α) (out : α) (host : Host Net) (r : ℤ × α × Host Net) : Prop where
  env : r.2.2.env = host.env
  answer : r.1 = -1 ∧ r.2.1 = out ∨ r.1 = 0 ∧ ∃ j ∈ i, answers j = true ∧ r.2.1 = value j
  granting : host.Granting → r.2.2.Granting ∧ (r.1 = 0 ↔ ∃ j ∈ i, answers j = true)

theorem getProperty_reads {α : Type} (ifName : Text) (answers : Interface → Bool)
    (value : Interface → α) (out : α) (host : Host Net) :
    Reads (host.env.interfaces (ifrName ifName).text) answers value out host
      (getProperty ifName answers value out host) := by
  have hfailed : ¬ (-1 : ℤ) = 0 := by decide
  by_cases hsocket : host.Granted
  · have henv := query_env (ifrName ifName) answers (next host)
    cases hquery : (query (ifrName ifName) answers (next host)).1 with
    | none =>
      have hget : getProperty ifName answers value out host =
          (-1, out, (query (ifrName ifName) answers (next host)).2) := by
        simp only [getProperty, socket_granted hsocket]
        rw [← next, ← Prod.eta (query (ifrName ifName) answers (next host)), hquery]
      rw [hget]
      refine ⟨henv, Or.inl ⟨rfl, rfl⟩, fun hgranting => ?_⟩
      have hnext : (next host).Granting := hgranting.tail host.env
      refine ⟨query_granting hnext, iff_of_false hfailed ?_⟩
      intro hanswers
      obtain ⟨j, hj, hanswers⟩ := hanswers
      rw [query_granted hnext.next hj hanswers] at hquery
      exact absurd hquery (Option.some_ne_none j)
    | some i =>
      obtain ⟨hi, hanswers⟩ := query_some hquery
      have hget : getProperty ifName answers value out host =
          (0, value i, (query (ifrName ifName) answers (next host)).2) := by
        simp only [getProperty, socket_granted hsocket]
        rw [← next, ← Prod.eta (query (ifrName ifName) answers (next host)), hquery]
      rw [hget]
      refine ⟨henv, Or.inr ⟨rfl, i, hi, hanswers, rfl⟩, fun hgranting => ?_⟩
      exact ⟨query_granting (hgranting.tail host.env), iff_of_true rfl ⟨i, hi, hanswers⟩⟩
  · have hget : getProperty ifName answers value out host = (-1, out, next host) := by
      simp only [getProperty, socket_refused hsocket, next]
    rw [hget]
    exact ⟨rfl, Or.inl ⟨rfl, rfl⟩, fun hgranting => absurd hgranting.next hsocket⟩

theorem netIfGetConfig_spec (ifName : Text) (host : Host Net) :
    let i := host.env.interfaces (ifrName ifName).text
    let r := netIfGetConfig hwaddr ifName host
    r.2.2.env = host.env ∧
    (r.1 = 0 ∧ (∃ j ∈ i, j.address ≠ 0 ∧ r.2.1 =
        ⟨ifrName ifName, j.address, 0, 0, hwaddr (ifrName ifName).text, true⟩) ∨
      r.1 = -1 ∧ r.2.1.configured = false ∧ r.2.1.ifName = ifrName ifName ∧
        r.2.1.netmask = 0 ∧ r.2.1.gateway = 0 ∧
        (r.2.1.ipAddr = 0 ∨ ∃ j ∈ i, r.2.1.ipAddr = j.address)) ∧
    (host.Granting → (r.1 = 0 ↔ ∃ j ∈ i, j.address ≠ 0)) := by
  have hip := getProperty_reads ifName (fun i => i.address ≠ 0) Interface.address 0 host
  rw [← netIfGetIp] at hip
  rcases hr1 : netIfGetIp ifName 0 host with ⟨ipRet, ipAddr, host1⟩
  rw [hr1] at hip
  have hmac := getProperty_reads ifName (fun _ => true)
    (fun _ => hwaddr (ifrName ifName).text) (CharArray.zeroed 6) host1
  rw [← netIfGetMac] at hmac
  rcases hr2 : netIfGetMac hwaddr ifName (.zeroed 6) host1 with ⟨macRet, macAddr, host2⟩
  rw [hr2] at hmac
  obtain ⟨henv1, hanswer1, hgranting1⟩ := hip
  obtain ⟨henv2, hanswer2, hgranting2⟩ := hmac
  dsimp only at henv1 hanswer1 hgranting1 henv2 hanswer2 hgranting2
  simp only [netIfGetConfig, NetIfConfig.zeroed, hr1, hr2]
  have hname : (CharArray.zeroed 16).strncpy ifName (16 - 1) = ifrName ifName := rfl
  rw [hname]
  have hfailed : ¬ (-1 : ℤ) = 0 := by decide
  rcases hanswer1 with ⟨rfl, rfl⟩ | ⟨rfl, i, hi, haddress, rfl⟩
  · rw [if_neg fun hboth => hfailed hboth.1]
    refine ⟨henv2.trans henv1, Or.inr ⟨rfl, rfl, rfl, rfl, rfl, Or.inl rfl⟩, fun hgranting => ?_⟩
    refine iff_of_false hfailed fun hanswers => hfailed ((hgranting1 hgranting).2.mpr ?_)
    simpa using hanswers
  · rcases hanswer2 with ⟨rfl, rfl⟩ | ⟨rfl, j, -, -, rfl⟩
    · rw [if_neg fun hboth => hfailed hboth.2]
      refine ⟨henv2.trans henv1, Or.inr ⟨rfl, rfl, rfl, rfl, rfl, Or.inr ⟨i, hi, rfl⟩⟩,
        fun hgranting => ?_⟩
      refine absurd ((hgranting2 (hgranting1 hgranting).1).2.mpr ⟨i, ?_, rfl⟩) hfailed
      rw [henv1]
      exact hi
    · have hne : i.address ≠ 0 := by simpa using haddress
      rw [if_pos ⟨rfl, rfl⟩]
      exact ⟨henv2.trans henv1, Or.inl ⟨rfl, i, hi, hne, rfl⟩,
        fun _ => iff_of_true rfl ⟨i, hi, hne⟩⟩

inductive SetCall
  | setIp (ifName : Text) (ip : UInt32)
  | setNetmask (ifName : Text) (mask : UInt32)
  | setUp (ifName : Text)
  | setDown (ifName : Text)

def SetCall.exec (host : Host Net) : SetCall → ℤ × Host Net
  | .setIp ifName ip => netIfSetIp ifName ip host
  | .setNetmask ifName mask => netIfSetNetmask ifName mask host
  | .setUp ifName => netIfSetUp ifName host
  | .setDown ifName => netIfSetDown ifName host

def runSets : List SetCall → Host Net → List ℤ × Host Net
  | [], host => ([], host)
  | c :: calls, host =>
    let (ret, host) := c.exec host
    let (rets, host) := runSets calls host
    (ret :: rets, host)

def SetCall.target : SetCall → Text
  | .setIp ifName _ | .setNetmask ifName _ | .setUp ifName | .setDown ifName =>
    (ifrName ifName).text

def SetCall.change : SetCall → Interface → Interface
  | .setIp _ ip => fun i => { i with address := ip }
  | .setNetmask _ mask => fun i => { i with netmask := mask }
  | .setUp _ => fun i => { i with flags := i.flags ||| iffUp }
  | .setDown _ => fun i => { i with flags := i.flags &&& ~~~iffUp }

/-- The interfaces as a caller knows them who goes by the return values. -/
def follow (interfaces : Text → Option Interface) (c : SetCall × ℤ) : Text → Option Interface :=
  if c.2 = 0 then Function.update interfaces c.1.target ((interfaces c.1.target).map c.1.change)
  else interfaces

theorem SetCall.step (c : SetCall) (host : Host Net) :
    StepDone c.target c.change host (c.exec host) := by
  cases c with
  | setIp ifName ip => exact setProperty_step ifName (.siocsifaddr ip) host
  | setNetmask ifName mask => exact setProperty_step ifName (.siocsifnetmask mask) host
  | setUp ifName => exact changeFlags_step ifName (fun flags => flags ||| iffUp) host
  | setDown ifName => exact changeFlags_step ifName (fun flags => flags &&& ~~~iffUp) host

theorem exec_follows (c : SetCall) (host : Host Net) :
    (c.exec host).2.env.interfaces = follow host.env.interfaces (c, (c.exec host).1) := by
  rw [follow]
  rcases c.step host with ⟨hret, hmaps⟩ | ⟨hret, -, hmaps⟩
  · rw [if_neg (by simp [hret]), hmaps, Option.map_id, id, Function.update_eq_self]
  · rw [if_pos hret, hmaps]

theorem run_follows (calls : List SetCall) (host : Host Net) :
    (runSets calls host).2.env.interfaces =
      (calls.zip (runSets calls host).1).foldl follow host.env.interfaces := by
  induction calls generalizing host with
  | nil => rfl
  | cons c calls ih =>
    have hcons : runSets (c :: calls) host = ((c.exec host).1 :: (runSets calls (c.exec host).2).1,
        (runSets calls (c.exec host).2).2) := rfl
    rw [hcons, List.zip_cons_cons, List.foldl_cons, ← exec_follows]
    exact ih (c.exec host).2

/-- Whatever was set before and refused on the way, a configuration that is read is that
of the interface by all calls that returned 0, but its netmask and gateway are never
filled in. One that cannot be read says so, and may hold the address all the same. -/
theorem config_read_back (calls : List SetCall) (host : Host Net) (ifName : Text) :
    let known := (calls.zip (runSets calls host).1).foldl follow host.env.interfaces
    let r := netIfGetConfig hwaddr ifName (runSets calls host).2
    r.2.2.env.interfaces = known ∧
    (r.1 = 0 ∧ (∃ j ∈ known (ifrName ifName).text, j.address ≠ 0 ∧ r.2.1 =
        ⟨ifrName ifName, j.address, 0, 0, hwaddr (ifrName ifName).text, true⟩) ∨
      r.1 = -1 ∧ r.2.1.configured = false ∧ r.2.1.ifName = ifrName ifName ∧
        r.2.1.netmask = 0 ∧ r.2.1.gateway = 0 ∧
        (r.2.1.ipAddr = 0 ∨ ∃ j ∈ known (ifrName ifName).text, r.2.1.ipAddr = j.address)) ∧
    ((runSets calls host).2.Granting →
      (r.1 = 0 ↔ ∃ j ∈ known (ifrName ifName).text, j.address ≠ 0)) := by
  obtain ⟨henv, hread, hgranting⟩ := netIfGetConfig_spec hwaddr ifName (runSets calls host).2
  rw [run_follows] at hread hgranting
  refine ⟨?_, hread, hgranting⟩
  rw [henv, run_follows]

end PnetManager.InterfaceQueries
