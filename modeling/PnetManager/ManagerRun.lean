import PnetManager.SteadyLoop

/-!
# Runs of the manager

A run ends before the device, at a device that does not start, or by a signal. Which of
these it was shows in the messages to the service manager and in the stacks that are
left open, but only the first of them in the exit status.
-/

namespace PnetManager.ManagerRun
open CText SystemCalls IoDeviceApp DeviceLifecycle NetworkConfig RtSetup ConfigFile MainStartup
  ProductionLoop StackLedger CommandLine Runs Manager SteadyLoop

variable {F W : Type} {build : Build} (os : Platform F) (stack : PnetStack build W)
  (script : CharArray 4096)

/-- The configuration is valid, and everything up to the real-time set-up succeeds. -/
structure Starts (config : AppConfig) (m : Machine F W) : Prop where
  valid : appConfigValidate config = 0
  handlers : os.handlersInstalled = true
  network : (applyNetwork config m.net).1 = 0
  security : (applySecurity os.system script config m.firewall).1 = 0

def startedUp (config : AppConfig) (m : Machine F W) : Machine F W :=
  { m with
    net := (applyNetwork config m.net).2
    firewall := (applySecurity os.system script config m.firewall).2
    rt := (applyRealtime config m.rt).2 }

theorem appConfigValidate_ret (cfg : AppConfig) :
    appConfigValidate cfg = 0 ∨ appConfigValidate cfg = -1 := by
  rw [appConfigValidate]
  split_ifs
  · exact Or.inl rfl
  · exact Or.inr rfl

theorem applyNetwork_ret (cfg : AppConfig) (host : Host Net) :
    (applyNetwork cfg host).1 = 0 ∨ (applyNetwork cfg host).1 = -1 := by
  simp only [applyNetwork]
  split_ifs
  · exact Or.inr rfl
  · exact Or.inr rfl
  · exact Or.inr rfl
  · exact Or.inl rfl

theorem applySecurity_ret (system : Text → F → ℤ × F) (cfg : AppConfig) (firewall : F) :
    (applySecurity system script cfg firewall).1 = 0 ∨
      (applySecurity system script cfg firewall).1 = -1 := by
  rw [applySecurity]
  dsimp only
  split_ifs
  · exact Or.inl rfl
  · exact Or.inr rfl
  · exact Or.inl rfl

variable {os script} {config : AppConfig} {m : Machine F W} (nowUs n : ℕ)

theorem manage_of_starts (h : Starts os script config m) :
    manage os stack script config nowUs n m =
      serve os stack config nowUs n (startedUp os script config m) := by
  rw [manage]
  simp only [h.valid, h.handlers, h.network, h.security, lt_irrefl, if_false, Bool.true_eq_false]
  rfl

theorem manage_of_not_starts (h : ¬ Starts os script config m) :
    let r := manage os stack script config nowUs n m
    r.1 = exitFailure ∧ r.2.rt = m.rt ∧ r.2.process = m.process ∧ r.2.notified = m.notified ∧
      (r.2.net = m.net ∨ r.2.net = (applyNetwork config m.net).2 ∧ appConfigValidate config = 0) ∧
      (r.2.firewall = m.firewall ∨ (applyNetwork config m.net).1 = 0 ∧
        r.2.firewall = (applySecurity os.system script config m.firewall).2) := by
  have hneg : (-1 : ℤ) < 0 := by decide
  rcases appConfigValidate_ret config with hvalid | hvalid
  · cases hhandlers : os.handlersInstalled with
    | false =>
      simp only [manage, hvalid, hhandlers, lt_irrefl, if_false, if_true]
      exact ⟨trivial, trivial, trivial, trivial, Or.inl trivial, Or.inl trivial⟩
    | true =>
      rcases applyNetwork_ret config m.net with hnet | hnet
      · rcases applySecurity_ret script os.system config m.firewall with hsec | hsec
        · exact absurd ⟨hvalid, hhandlers, hnet, hsec⟩ h
        · simp only [manage, hvalid, hhandlers, hnet, hsec, lt_irrefl, if_false,
            Bool.true_eq_false, hneg, if_true]
          exact ⟨trivial, trivial, trivial, trivial, Or.inr ⟨trivial, trivial⟩,
            Or.inr ⟨trivial, trivial⟩⟩
      · simp only [manage, hvalid, hhandlers, hnet, lt_irrefl, if_false, Bool.true_eq_false,
          hneg, if_true]
        exact ⟨trivial, trivial, trivial, trivial, Or.inr ⟨trivial, trivial⟩, Or.inl trivial⟩
  · simp only [manage, hvalid, hneg, if_true]
    exact ⟨trivial, trivial, trivial, trivial, Or.inl trivial, Or.inl trivial⟩

theorem pings_length_le (tickUs : UInt32) (is : List Iteration) :
    (loopAfter tickUs nowUs is).pings.length ≤ is.length := by
  induction is using List.reverseRecOn with
  | nil => exact Nat.le_refl 0
  | append_singleton is i ih =>
    obtain ⟨-, -, hpings⟩ := afterTick_clock (loopAfter tickUs nowUs is) i
    rw [loopAfter_snoc, iterate_pings, watchdogPing, List.length_append, List.length_singleton]
    split_ifs
    · exact Nat.succ_le_succ (hpings ▸ ih)
    · rw [hpings]
      exact Nat.le_succ_of_le ih

theorem notify_append (before after log : List Text) :
    os.notify after (os.notify before log) = os.notify (before ++ after) log := by
  rw [Platform.notify, Platform.notify, Platform.notify]
  split_ifs
  · exact List.append_assoc _ _ _
  · rfl

def servedMessages (k : ℕ) : List Text :=
  readyMessage :: (List.replicate k watchdogMessage ++ [stoppingMessage, stoppedMessage])

def bootMachine (w : W) (m : Machine F W) : Machine F W := { m with process := bootProcess w }

theorem serve_of_failed (w : W)
    (hstart : (deviceInitAndStart stack config.device (bootProcess w)).1 = -1) :
    serve os stack config nowUs n (bootMachine w m) =
      cleanupRt os config
        { m with process := (deviceInitAndStart stack config.device (bootProcess w)).2 } :=
  if_pos (show (deviceInitAndStart stack config.device (bootProcess w)).1 < 0 by
    rw [hstart]
    decide)

theorem serve_of_started (w : W)
    (hstart : (deviceInitAndStart stack config.device (bootProcess w)).1 = 0) :
    serve os stack config nowUs n (bootMachine w m) =
      let r := production os stack config.device n
        (enterLoop stack config.device w nowUs (os.notify [readyMessage] m.notified))
      cleanupRt os config { m with
        process := deviceStopAndCleanup stack r.process
        notified := os.notify [stoppingMessage] r.notified } :=
  if_neg (show ¬ (deviceInitAndStart stack config.device (bootProcess w)).1 < 0 by
    rw [hstart]
    exact lt_irrefl 0)

variable (os config m) in
theorem serve_cases (w : W) :
    let p := deviceInitAndStart stack config.device (bootProcess w)
    let r := serve os stack config nowUs n (bootMachine w m)
    (r.1 = exitSuccess ∧ r.2.net = m.net ∧ r.2.firewall = m.firewall ∧
      r.2.rt = if config.realtimeEnabled then rtSetupRestore m.rt else m.rt) ∧
    (p.1 = -1 ∧ r.2.process = p.2 ∧ r.2.notified = os.notify [stoppedMessage] m.notified ∨
      p.1 = 0 ∧ r.2.process.opened = [] ∧
        ∃ k ≤ n, r.2.notified = os.notify (servedMessages k) m.notified) := by
  rcases deviceInitAndStart_ret stack config.device (bootProcess w) with hstart | ⟨hstart, -⟩
  · obtain ⟨net, -, hticked⟩ := started_ticked stack config.device (p := bootProcess w) rfl hstart
    obtain ⟨hend, hvars, hnotified⟩ := production_ticked os config.device hticked nowUs n
      (os.notify [readyMessage] m.notified)
    rw [← enterLoop] at hend hvars hnotified
    have hlost : NoneLost (production os stack config.device n (enterLoop stack config.device w
        nowUs (os.notify [readyMessage] m.notified))).process := by
      rw [NoneLost, hend.opened, hend.handle]
      rfl
    have hpings := pings_length_le nowUs config.device.tickUs (List.replicate n succeeded)
    rw [List.length_replicate, ← hvars] at hpings
    dsimp only
    rw [serve_of_started stack nowUs n w hstart]
    refine ⟨⟨rfl, rfl, rfl, rfl⟩, Or.inr ⟨hstart, ?_⟩⟩
    refine ⟨(deviceStopAndCleanup_spec stack hlost).2, _, hpings, ?_⟩
    dsimp only [cleanupRt]
    rw [hnotified, notify_append, notify_append, notify_append]
    rfl
  · dsimp only
    rw [serve_of_failed stack nowUs n w hstart]
    exact ⟨⟨rfl, rfl, rfl, rfl⟩, Or.inl ⟨hstart, rfl, rfl⟩⟩

theorem parseOptions_usage {opts : List Opt} {path : Text} {verbose : Bool} {status : ℤ}
    (h : parseOptions opts path verbose = .usage status) :
    status = exitSuccess ∨ status = exitFailure := by
  induction opts generalizing path verbose with
  | nil => simp [parseOptions] at h
  | cons o opts ih =>
    cases o with
    | c t => exact ih h
    | v => exact ih h
    | h => exact Or.inl (Parsed.usage.inj h).symm
    | unknown => exact Or.inr (Parsed.usage.inj h).symm

variable (os script) in
def ReachesDevice (args : List Text) (config : AppConfig) (m : Machine F W) : Prop :=
  ∃ path verbose, parseArguments args = .run path verbose ∧
    config = loadConfig (os.files path) path verbose ∧ Starts os script config m

theorem ReachesDevice.run {args : List Text} (h : ReachesDevice os script args config m) :
    main os stack script args nowUs n m =
      serve os stack config nowUs n (startedUp os script config m) := by
  obtain ⟨path, verbose, hargs, rfl, hstarts⟩ := h
  rw [main, hargs]
  exact manage_of_starts stack nowUs n hstarts

theorem ReachesDevice.unique {args : List Text} {config' : AppConfig}
    (h : ReachesDevice os script args config m) (h' : ReachesDevice os script args config' m) :
    config = config' := by
  obtain ⟨path, verbose, hargs, rfl, -⟩ := h
  obtain ⟨path', verbose', hargs', rfl, -⟩ := h'
  obtain ⟨rfl, rfl⟩ := Parsed.run.inj (hargs.symm.trans hargs')
  rfl

theorem reachesDevice_boot_iff {args : List Text} {w : W} :
    ReachesDevice os script args config (bootMachine w m) ↔
      ReachesDevice os script args config m := by
  have hiff : Starts os script config (bootMachine w m) ↔ Starts os script config m :=
    ⟨fun h => ⟨h.valid, h.handlers, h.network, h.security⟩,
      fun h => ⟨h.valid, h.handlers, h.network, h.security⟩⟩
  rw [ReachesDevice, ReachesDevice, hiff]

variable (os script) in
structure Refused (args : List Text) (m : Machine F W) (r : ℤ × Machine F W) : Prop where
  reaches : ∀ config, ¬ ReachesDevice os script args config m
  status : r.1 = exitFailure ∨ r.1 = exitSuccess ∧ parseArguments args = .usage exitSuccess
  rt : r.2.rt = m.rt
  process : r.2.process = m.process
  notified : r.2.notified = m.notified
  net : r.2.net = m.net ∨ ∃ path verbose, parseArguments args = .run path verbose ∧
    appConfigValidate (loadConfig (os.files path) path verbose) = 0
  firewall : r.2.firewall = m.firewall ∨ ∃ path verbose, parseArguments args = .run path verbose ∧
    (applyNetwork (loadConfig (os.files path) path verbose) m.net).1 = 0 ∧
    r.2.firewall = (applySecurity os.system script (loadConfig (os.files path) path verbose)
      m.firewall).2

theorem refused_of_usage {args : List Text} {status : ℤ} (h : parseArguments args = .usage status) :
    Refused os script args m (main os stack script args nowUs n m) := by
  have hrun : main os stack script args nowUs n m = (status, m) := by
    rw [main, h]
  rw [hrun]
  refine ⟨?_, ?_, rfl, rfl, rfl, Or.inl rfl, Or.inl rfl⟩
  · intro config hreaches
    obtain ⟨path, verbose, hargs, -⟩ := hreaches
    simp [h] at hargs
  · rcases parseOptions_usage h with rfl | rfl
    · exact Or.inr ⟨rfl, h⟩
    · exact Or.inl rfl

theorem refused_of_not_starts {args : List Text} {path : Text} {verbose : Bool}
    (h : parseArguments args = .run path verbose)
    (hstarts : ¬ Starts os script (loadConfig (os.files path) path verbose) m) :
    Refused os script args m (main os stack script args nowUs n m) := by
  have hrun : main os stack script args nowUs n m =
      manage os stack script (loadConfig (os.files path) path verbose) nowUs n m := by
    rw [main, h]
  obtain ⟨hstatus, hrt, hprocess, hnotified, hnet, hfirewall⟩ :=
    manage_of_not_starts stack nowUs n hstarts
  rw [hrun]
  refine ⟨?_, Or.inl hstatus, hrt, hprocess, hnotified, ?_, ?_⟩
  · intro config hreaches
    obtain ⟨path', verbose', hargs, rfl, hstarts'⟩ := hreaches
    obtain ⟨rfl, rfl⟩ := Parsed.run.inj (h.symm.trans hargs)
    exact hstarts hstarts'
  · exact hnet.imp_right fun hn => ⟨path, verbose, h, hn.2⟩
  · exact hfirewall.imp_right fun hf => ⟨path, verbose, h, hf⟩

variable (os script) in
theorem reaches_or_refused (args : List Text) (m : Machine F W) :
    (∃ config, ReachesDevice os script args config m) ∨
      Refused os script args m (main os stack script args nowUs n m) := by
  cases hargs : parseArguments args with
  | usage status => exact Or.inr (refused_of_usage stack nowUs n hargs)
  | run path verbose =>
    by_cases hstarts : Starts os script (loadConfig (os.files path) path verbose) m
    · exact Or.inl ⟨_, path, verbose, hargs, rfl, hstarts⟩
    · exact Or.inr (refused_of_not_starts stack nowUs n hargs hstarts)

variable (os script)

/-- The exit status says whether `main` has come to its device, not what became of
that: a device that does not start ends in success as well. With any other status
the real-time set-up, the stack and the service manager were left alone. -/
theorem exit_status (args : List Text) (w : W) (m : Machine F W) :
    let r := main os stack script args nowUs n (bootMachine w m)
    (r.1 = exitSuccess ↔ parseArguments args = .usage exitSuccess ∨
      ∃ config, ReachesDevice os script args config m) ∧
    (r.1 ≠ exitSuccess → r.1 = exitFailure ∧ r.2.rt = m.rt ∧ r.2.process = bootProcess w ∧
      r.2.notified = m.notified) ∧
    (r.2.net ≠ m.net → ∃ path verbose, parseArguments args = .run path verbose ∧
      appConfigValidate (loadConfig (os.files path) path verbose) = 0) ∧
    (r.2.firewall ≠ m.firewall → ∃ path verbose, parseArguments args = .run path verbose ∧
      (applyNetwork (loadConfig (os.files path) path verbose) m.net).1 = 0) := by
  rcases reaches_or_refused os stack script nowUs n args (bootMachine w m)
    with ⟨config, hreaches⟩ | hrefused
  · have hdevice := reachesDevice_boot_iff.mp hreaches
    obtain ⟨⟨hstatus, -, -, -⟩, -⟩ := serve_cases os stack config
      (startedUp os script config m) nowUs n w
    obtain ⟨path, verbose, hargs, rfl, hstarts⟩ := hdevice
    dsimp only
    rw [hreaches.run stack nowUs n]
    refine ⟨iff_of_true hstatus (Or.inr ⟨_, path, verbose, hargs, rfl, hstarts⟩),
      fun hne => absurd hstatus hne, fun _ => ⟨path, verbose, hargs, hstarts.valid⟩,
      fun _ => ⟨path, verbose, hargs, hstarts.network⟩⟩
  · dsimp only
    refine ⟨?_, ?_, fun hne => hrefused.net.resolve_left hne, ?_⟩
    · constructor
      · intro hsuccess
        rcases hrefused.status with hstatus | ⟨-, husage⟩
        · exact absurd (hsuccess.symm.trans hstatus) (by decide)
        · exact Or.inl husage
      · intro hreason
        rcases hreason with husage | ⟨config, hreaches⟩
        · rw [main, husage]
        · exact absurd (reachesDevice_boot_iff.mpr hreaches) (hrefused.reaches config)
    · intro hne
      exact ⟨hrefused.status.resolve_right fun hok => hne hok.1, hrefused.rt, hrefused.process,
        hrefused.notified⟩
    · intro hne
      obtain ⟨path, verbose, hargs, hnet, -⟩ := hrefused.firewall.resolve_left hne
      exact ⟨path, verbose, hargs, hnet⟩

/-- What the service manager is told in a run: nothing before the device; that it has
stopped, where the device does not start; otherwise that it is ready, a ping now and
then, that it stops and that it has stopped. No run reports a recovery. -/
theorem service_messages (args : List Text) (w : W) (m : Machine F W) :
    let r := main os stack script args nowUs n (bootMachine w m)
    (∀ config, ¬ ReachesDevice os script args config m) ∧ r.2.notified = m.notified ∨
    ∃ config, ReachesDevice os script args config m ∧
      ((deviceInitAndStart stack config.device (bootProcess w)).1 ≠ 0 ∧
        r.2.notified = os.notify [stoppedMessage] m.notified ∨
      (deviceInitAndStart stack config.device (bootProcess w)).1 = 0 ∧
        ∃ k ≤ n, r.2.notified = os.notify (servedMessages k) m.notified) := by
  rcases reaches_or_refused os stack script nowUs n args (bootMachine w m)
    with ⟨config, hreaches⟩ | hrefused
  · have hdevice := reachesDevice_boot_iff.mp hreaches
    obtain ⟨-, hcases⟩ := serve_cases os stack config
      (startedUp os script config m) nowUs n w
    dsimp only
    rw [hreaches.run stack nowUs n]
    refine Or.inr ⟨config, hdevice, ?_⟩
    rcases hcases with ⟨hstart, -, hmessages⟩ | ⟨hstart, -, hmessages⟩
    · refine Or.inl ⟨?_, hmessages⟩
      rw [hstart]
      decide
    · exact Or.inr ⟨hstart, hmessages⟩
  · exact Or.inl ⟨fun config hreaches => hrefused.reaches config
      (reachesDevice_boot_iff.mpr hreaches), hrefused.notified⟩

/-- `main` returns with a stack left open exactly where its only start got a handle and
failed to plug: no run opens a second one. -/
theorem leaves_no_stack_iff (args : List Text) (w : W) (m : Machine F W) :
    (main os stack script args nowUs n (bootMachine w m)).2.process.opened = [] ↔
      ∀ config, ReachesDevice os script args config m → PlugsSucceed stack config.device w := by
  rcases reaches_or_refused os stack script nowUs n args (bootMachine w m)
    with ⟨config, hreaches⟩ | hrefused
  · have hdevice := reachesDevice_boot_iff.mp hreaches
    obtain ⟨-, hcases⟩ := serve_cases os stack config
      (startedUp os script config m) nowUs n w
    have honly : (∀ config, ReachesDevice os script args config m →
        PlugsSucceed stack config.device w) ↔ PlugsSucceed stack config.device w := by
      constructor
      · exact fun hall => hall config hdevice
      · intro hplugs config' hdevice'
        exact hdevice.unique hdevice' ▸ hplugs
    have hplugs := deviceInitAndStart_noneLost_iff stack config.device (p := bootProcess w) rfl
    rw [honly, hreaches.run stack nowUs n]
    change _ ↔ PlugsSucceed stack config.device (bootProcess w).world
    rw [← hplugs]
    rcases hcases with ⟨hstart, hprocess, -⟩ | ⟨hstart, hopened, -⟩
    · change (serve os stack config nowUs n
        (bootMachine w (startedUp os script config m))).2.process.opened = [] ↔ _
      rw [hprocess]
      rcases deviceInitAndStart_ret stack config.device (bootProcess w) with hok | ⟨-, hdev⟩
      · exact absurd (hok.symm.trans hstart) (by decide)
      · exact (noneLost_of_zeroed hdev).symm
    · obtain ⟨net, -, hticked⟩ :=
        started_ticked stack config.device (p := bootProcess w) rfl hstart
      refine iff_of_true hopened ?_
      rw [NoneLost, hticked.opened, hticked.handle]
      rfl
  · refine iff_of_true ?_ fun config hreaches =>
      absurd (reachesDevice_boot_iff.mpr hreaches) (hrefused.reaches config)
    rw [hrefused.process]
    rfl

end PnetManager.ManagerRun
