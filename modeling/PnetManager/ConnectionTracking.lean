import PnetManager.IoDeviceApp
import PnetManager.Runs

/-!
# Connection tracking over several application relations

The stack delivers state events of any number of AREPs, each of which follows
its own protocol. The device folds them into one state and one active AREP.
The folding says which relations are open and which exchange data exactly as
long as no relation is aborted while another one is open.
-/

namespace PnetManager.ConnectionTracking
open IoDeviceApp Runs

inductive ArPhase
  | closed
  | startup
  | prmend
  | applrdy
  | data
deriving DecidableEq

def ArPhase.next : ArPhase → PnetEvent → Option ArPhase
  | .closed, .startup => some .startup
  | .startup, .prmend => some .prmend
  | .prmend, .applrdy => some .applrdy
  | .applrdy, .data => some .data
  | .closed, .abort => none
  | _, .abort => some .closed
  | _, _ => none

def eventsOf (a : UInt32) (tr : List StateEvent) : List PnetEvent :=
  (tr.filter (·.1 = a)).map (·.2)

def phaseAfter (es : List PnetEvent) : Option ArPhase := es.foldlM ArPhase.next .closed

/-- An interleaving of nonzero AREPs, each on its own following the protocol. -/
def Legal (tr : List StateEvent) : Prop :=
  (∀ e ∈ tr, e.1 ≠ 0) ∧ ∀ a, (phaseAfter (eventsOf a tr)).isSome

def IsOpen (tr : List StateEvent) (a : UInt32) : Prop := Since tr (a, .startup) (a, .abort)

def InData (tr : List StateEvent) (a : UInt32) : Prop := Since tr (a, .data) (a, .abort)

/-- What state and active AREP should say after the events `tr`. -/
def Tracks (tr : List StateEvent) (dev : IoDevice) : Prop :=
  (dev.state = .running ↔ ∃ a, InData tr a) ∧
  (dev.activeArep ≠ 0 ↔ ∃ a, IsOpen tr a) ∧
  (dev.activeArep ≠ 0 → IsOpen tr dev.activeArep)

theorem phaseAfter_snoc (a : UInt32) (tr : List StateEvent) (e : StateEvent) :
    phaseAfter (eventsOf a (tr ++ [e])) =
      if e.1 = a then (phaseAfter (eventsOf a tr)).bind fun p => p.next e.2
      else phaseAfter (eventsOf a tr) := by
  by_cases he : e.1 = a
  · cases hp : phaseAfter (eventsOf a tr) <;>
      simp_all [eventsOf, phaseAfter, List.filter_append, List.foldlM_append]
  · simp [eventsOf, List.filter_append, he]

theorem isOpen_snoc {tr : List StateEvent} {e : StateEvent} {a : UInt32} :
    IsOpen (tr ++ [e]) a ↔ e = (a, .startup) ∨ IsOpen tr a ∧ e ≠ (a, .abort) := since_snoc

theorem inData_snoc {tr : List StateEvent} {e : StateEvent} {a : UInt32} :
    InData (tr ++ [e]) a ↔ e = (a, .data) ∨ InData tr a ∧ e ≠ (a, .abort) := since_snoc

theorem Legal.of_prefix {pre tr : List StateEvent} (h : Legal tr) (hp : pre <+: tr) :
    Legal pre := by
  obtain ⟨post, rfl⟩ := hp
  refine ⟨fun e he => h.1 e (List.mem_append_left _ he), fun a => ?_⟩
  have ha := h.2 a
  cases hpre : phaseAfter (eventsOf a pre) with
  | some p => rfl
  | none =>
    simp only [phaseAfter, eventsOf, List.filter_append, List.map_append,
      List.foldlM_append] at ha hpre
    simp [hpre] at ha

theorem phase_spec {tr : List StateEvent} {a : UInt32} {p : ArPhase}
    (hp : phaseAfter (eventsOf a tr) = some p) :
    (p ≠ .closed ↔ IsOpen tr a) ∧ (p = .data ↔ InData tr a) := by
  induction tr using List.reverseRecOn generalizing p with
  | nil =>
    obtain rfl : ArPhase.closed = p := by simpa [phaseAfter, eventsOf] using hp
    simp [IsOpen, InData, not_since_nil]
  | append_singleton tr e ih =>
    rw [phaseAfter_snoc] at hp
    rw [isOpen_snoc, inData_snoc]
    split_ifs at hp with he
    · obtain ⟨q, hq, hn⟩ := Option.bind_eq_some_iff.mp hp
      obtain ⟨hopen, hdata⟩ := ih hq
      obtain ⟨b, ev⟩ := e
      obtain rfl : b = a := he
      -- one case for each phase and event that the protocol admits
      cases q <;> cases ev <;> simp only [ArPhase.next, Option.some.injEq, reduceCtorEq] at hn <;>
        subst hn <;> simp_all
    · have hne : ∀ ev, e ≠ (a, ev) := fun ev h => he (by rw [h])
      simpa [hne] using ih hp

theorem InData.isOpen {tr : List StateEvent} (hl : Legal tr) {a : UInt32} (h : InData tr a) :
    IsOpen tr a := by
  obtain ⟨p, hp⟩ := Option.isSome_iff_exists.mp (hl.2 a)
  have hspec := phase_spec hp
  have hdata : p = .data := hspec.2.mpr h
  exact hspec.1.mp (by simp [hdata])

theorem tracks_initial {dev : IoDevice} (hs : dev.state = .connected)
    (ha : dev.activeArep = 0) : Tracks [] dev := by
  simp [Tracks, IsOpen, InData, not_since_nil, hs, ha]

/-- An ABORT is harmless when the aborted relation is the only open one. -/
def LoneAbort (pre : List StateEvent) (e : StateEvent) : Prop :=
  e.2 = .abort → ∀ b, IsOpen pre b → b = e.1

theorem tracks_step {pre : List StateEvent} {e : StateEvent} {dev : IoDevice}
    (hl : Legal (pre ++ [e])) (h : Tracks pre dev) :
    Tracks (pre ++ [e]) (appStateIndCb dev e) ↔ LoneAbort pre e := by
  obtain ⟨hrun, hact, hname⟩ := h
  obtain ⟨a, ev⟩ := e
  have ha0 : a ≠ 0 := hl.1 (a, ev) (by simp)
  have hdata := @InData.isOpen pre (hl.of_prefix (List.prefix_append _ _))
  simp only [Tracks, isOpen_snoc, inData_snoc, LoneAbort]
  cases ev with
  | abort =>
    simp only [appStateIndCb, reduceCtorEq, if_false, if_true, Prod.mk.injEq, and_false, false_or,
      ne_eq, and_true, not_true_eq_false, false_iff, not_exists, false_imp_iff, forall_const]
    constructor
    · intro htracks b hb
      obtain ⟨-, hno⟩ := htracks
      by_contra hne
      exact hno b ⟨hb, fun hab => hne hab.symm⟩
    · intro hlone
      have hno : ∀ b, ¬ (IsOpen pre b ∧ ¬ a = b) := fun b hb => hb.2 (hlone b hb.1).symm
      exact ⟨fun b hb => hno b ⟨hdata hb.1, hb.2⟩, hno⟩
  | startup =>
    have hex : ∃ b, a = b ∨ IsOpen pre b := ⟨a, Or.inl rfl⟩
    simp [appStateIndCb, hrun, ha0, hex]
  | data =>
    have hex : ∃ b, a = b ∨ InData pre b := ⟨a, Or.inl rfl⟩
    simpa [appStateIndCb, hex] using ⟨hact, hname⟩
  | prmend => simpa [appStateIndCb] using ⟨hrun, hact, hname⟩
  | applrdy => simpa [appStateIndCb] using ⟨hrun, hact, hname⟩

/-- The device tracks its relations after every prefix of an interleaving if and
only if every ABORT meets the aborted relation as the only open one. -/
theorem tracks_iff_lone_aborts {dev : IoDevice} (hs : dev.state = .connected)
    (ha : dev.activeArep = 0) {tr : List StateEvent} (hl : Legal tr) :
    (∀ pre, pre <+: tr → Tracks pre (deliver dev pre)) ↔
      ∀ pre e, pre ++ [e] <+: tr → LoneAbort pre e := by
  apply always_iff_steps (P := fun pre => Tracks pre (deliver dev pre))
  · exact tracks_initial hs ha
  · intro pre e hpre h
    have hstep := tracks_step (hl.of_prefix hpre) h
    rwa [deliver_snoc]

def freshDevice : IoDevice := { IoDevice.zeroed with state := .connected, pnetHandle := some 1 }

def twoRelations : List StateEvent :=
  [(1, .startup), (1, .prmend), (1, .applrdy), (1, .data), (2, .startup), (2, .abort)]

theorem twoRelations_legal : Legal twoRelations := by
  refine ⟨by decide, fun a => ?_⟩
  by_cases h1 : a = 1
  · subst h1; decide
  · by_cases h2 : a = 2
    · subst h2; decide
    · have h1' : ¬ 1 = a := fun h => h1 h.symm
      have h2' : ¬ 2 = a := fun h => h2 h.symm
      simp [twoRelations, eventsOf, phaseAfter, h1', h2']

theorem tracks_iff_lone_aborts_two_relations :
    (∀ pre, pre <+: twoRelations → Tracks pre (deliver freshDevice pre)) ↔
      ∀ pre e, pre ++ [e] <+: twoRelations → LoneAbort pre e :=
  tracks_iff_lone_aborts rfl rfl twoRelations_legal

theorem second_abort_hides_first :
    freshDevice.state = .connected ∧ freshDevice.activeArep = 0 ∧ Legal twoRelations ∧
      ¬ ∀ pre, pre <+: twoRelations → Tracks pre (deliver freshDevice pre) := by
  refine ⟨rfl, rfl, twoRelations_legal, fun h => ?_⟩
  have hend := (h twoRelations List.prefix_rfl).1.mpr
    ⟨1, [(1, .startup), (1, .prmend), (1, .applrdy)], [(2, .startup), (2, .abort)], rfl,
      by decide⟩
  exact absurd hend (by decide)

end PnetManager.ConnectionTracking
