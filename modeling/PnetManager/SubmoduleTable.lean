import PnetManager.MockStack
import PnetManager.Runs

/-!
# The submodule table of the mock stack

A pulled submodule stays in the array with its flag cleared, and the count only
grows. Against a map of at most 32 submodules by their addresses, this shows in a
pull that comes to an entry which is already pulled, and in a plug into a full array
with a pulled entry in it; nowhere else.
-/

namespace PnetManager.SubmoduleTable
open CText EntryTable IoDeviceApp MockStack Runs

set_option maxRecDepth 2000

@[ext]
structure Address where
  api : UInt32
  slot : UInt16
  subslot : UInt16
deriving DecidableEq

def addressOf (sm : MockSubmodule) : Address := ⟨sm.api, sm.slot, sm.subslot⟩

inductive Call
  | plug (a : Address) (moduleIdent submoduleIdent : UInt32) (direction : SubmoduleDir)
      (lengthInput lengthOutput : UInt16)
  | pull (a : Address)
  | setInput (a : Address) (data : Text) (iops : Ioxs)
  | getOutput (a : Address) (data : Text) (dataLen : UInt16)

inductive Answer
  | ret (r : ℤ)
  | output (o : OutputAnswer)

def call (net : PnetHandle) (w : MockWorld) : Call → Answer × MockWorld
  | .plug a moduleIdent submoduleIdent direction lengthInput lengthOutput =>
    let (r, w) := pnetPlug net (.submodule a.api a.slot a.subslot moduleIdent submoduleIdent
      direction lengthInput lengthOutput) w
    (.ret r, w)
  | .pull a =>
    let (r, w) := pnetPullSubmodule net a.api a.slot a.subslot w
    (.ret r, w)
  | .setInput a data iops =>
    let (r, w) := pnetInputSetDataAndIops net a.api a.slot a.subslot data none iops w
    (.ret r, w)
  | .getOutput a data dataLen =>
    let (o, w) := pnetOutputGetDataAndIops net a.api a.slot a.subslot data dataLen w
    (.output o, w)

def worldAfter (net : PnetHandle) (w : MockWorld) (cs : List Call) : MockWorld :=
  run (fun w c => (call net w c).2) w cs

abbrev Table := Finmap fun _ : Address => MockSubmodule

def newSubmodule (a : Address) (moduleIdent submoduleIdent : UInt32) (direction : SubmoduleDir)
    (lengthInput lengthOutput : UInt16) : MockSubmodule where
  api := a.api
  slot := a.slot
  subslot := a.subslot
  moduleIdent := moduleIdent
  submoduleIdent := submoduleIdent
  direction := direction
  inputLen := lengthInput
  outputLen := lengthOutput
  inputData := .zeroed _
  outputData := .zeroed _
  inputIops := .good
  outputIops := .good
  plugged := true

def outputOf (data : Text) (dataLen : UInt16) : Option MockSubmodule → OutputAnswer
  | none => ⟨-1, data, dataLen, .bad⟩
  | some sm =>
    let len := if sm.outputLen < dataLen then sm.outputLen else dataLen
    ⟨0, sm.outputData.bytes.take len.toNat ++ data.drop len.toNat, len, sm.outputIops⟩

def tableCall (m : Table) : Call → Answer × Table
  | .plug a moduleIdent submoduleIdent direction lengthInput lengthOutput =>
    if m.keys.card < mockMaxSubmodules then
      (.ret 0, m.insert a (newSubmodule a moduleIdent submoduleIdent direction lengthInput
        lengthOutput))
    else (.ret (-1), m)
  | .pull a => if a ∈ m then (.ret 0, m.erase a) else (.ret (-1), m)
  | .setInput a data iops =>
    match m.lookup a with
    | none => (.ret (-1), m)
    | some sm => (.ret 0, m.insert a (sm.written data iops))
  | .getOutput a data dataLen => (.output (outputOf data dataLen (m.lookup a)), m)

def tableAfter (cs : List Call) : Table := run (fun m c => (tableCall m c).2) ∅ cs

def Proper (m : Table) : Call → Prop
  | .plug a _ _ _ _ _ => a ∉ m
  | _ => True

def ProperRun (cs : List Call) : Prop := ∀ pre c, pre ++ [c] <+: cs → Proper (tableAfter pre) c

/-- After `cs` the stack has the submodules of the map, and the last call had its
answer. -/
structure FaithfulAfter (net : PnetHandle) (w : MockWorld) (cs : List Call) : Prop where
  table : ∀ a : Address, submoduleAt net a.api a.slot a.subslot (worldAfter net w cs) =
    (tableAfter cs).lookup a
  answer : ∀ before c, cs = before ++ [c] →
    (call net (worldAfter net w before) c).1 = (tableCall (tableAfter before) c).1

def FaithfulRun (net : PnetHandle) (w : MockWorld) (cs : List Call) : Prop :=
  ∀ pre, pre <+: cs → FaithfulAfter net w pre

def netCall (n : MockNet) : Call → Answer × MockNet
  | .plug a moduleIdent submoduleIdent direction lengthInput lengthOutput =>
    if n.initialized = false ∨ mockMaxSubmodules ≤ n.submodules.length then (.ret (-1), n)
    else (.ret 0, { n with submodules := n.submodules ++
      [newSubmodule a moduleIdent submoduleIdent direction lengthInput lengthOutput] })
  | .pull a =>
    match pullOf a.api a.slot a.subslot n.submodules with
    | none => (.ret (-1), n)
    | some sms => (.ret 0, { n with submodules := sms })
  | .setInput a data iops =>
    match setInputOf a.api a.slot a.subslot data iops n.submodules with
    | none => (.ret (-1), n)
    | some sms => (.ret 0, { n with submodules := sms })
  | .getOutput a data dataLen =>
    (.output (outputOf data dataLen (n.submodules.find? (·.isAt a.api a.slot a.subslot))), n)

theorem call_of_net {net : PnetHandle} {w : MockWorld} {n : MockNet} (h : w.nets[net]? = some n)
    (c : Call) : call net w c =
      ((netCall n c).1, { w with nets := w.nets.set net (netCall n c).2 }) := by
  cases c with
  | plug a moduleIdent submoduleIdent direction lengthInput lengthOutput =>
    rw [call, pnetPlug, onNet_of_net h, plugIn, netCall]
    split_ifs <;> rfl
  | pull a =>
    rw [call, pnetPullSubmodule, onNet_of_net h, netCall]
    cases pullOf a.api a.slot a.subslot n.submodules <;> rfl
  | setInput a data iops =>
    rw [call, pnetInputSetDataAndIops, onNet_of_net h, netCall]
    cases setInputOf a.api a.slot a.subslot data iops n.submodules <;> rfl
  | getOutput a data dataLen =>
    have hsame : w.nets.set net n = w.nets := by
      obtain ⟨hlt, hn⟩ := List.getElem?_eq_some_iff.mp h
      rw [← hn, List.set_getElem_self]
    rw [call, pnetOutputGetDataAndIops, h, netCall, Option.bind_some, hsame]
    cases n.submodules.find? (·.isAt a.api a.slot a.subslot) <;> rfl

theorem hasKey_eq (a : Address) (sm : MockSubmodule) :
    sm.hasKey a.api a.slot a.subslot = decide (addressOf sm = a) := by
  apply decide_eq_decide.mpr
  rw [Address.ext_iff]
  rfl

theorem isAt_eq (a : Address) (sm : MockSubmodule) :
    sm.isAt a.api a.slot a.subslot = decide (addressOf sm = a ∧ sm.plugged = true) := by
  apply decide_eq_decide.mpr
  rw [Address.ext_iff, and_assoc, and_assoc]
  rfl

theorem find_isAt (a : Address) (sms : List MockSubmodule) :
    sms.find? (·.isAt a.api a.slot a.subslot) =
      EntryTable.find addressOf MockSubmodule.plugged a sms := by
  rw [EntryTable.find]
  congr 1
  funext sm
  rw [isAt_eq]

structure Holds (n : MockNet) (m : Table) : Prop where
  initialized : n.initialized = true
  shows : Shows addressOf MockSubmodule.plugged n.submodules m
  fits : n.submodules.length ≤ mockMaxSubmodules

/-- No pull of an entry that is already pulled, and no plug into a full array that
has a pulled entry. -/
def Meets (n : MockNet) : Call → Prop
  | .plug _ _ _ _ _ _ => n.submodules.length < mockMaxSubmodules ∨
      ∀ sm ∈ n.submodules, sm.plugged = true
  | .pull a => ∀ sm, n.submodules.find? (·.hasKey a.api a.slot a.subslot) = some sm →
      sm.plugged = true
  | .setInput _ _ _ => True
  | .getOutput _ _ _ => True

variable {n : MockNet} {m : Table}

theorem Holds.find (h : Holds n m) (a : Address) :
    n.submodules.find? (·.isAt a.api a.slot a.subslot) = m.lookup a := by
  rw [find_isAt, h.shows.lookup]

theorem Holds.card_le (h : Holds n m) : m.keys.card ≤ n.submodules.length := by
  rw [h.shows.card]
  exact List.length_filter_le _ _

structure Agrees (n : MockNet) (m : Table) (c : Call) : Prop where
  answer : (netCall n c).1 = (tableCall m c).1
  holds : Holds (netCall n c).2 (tableCall m c).2

theorem Holds.getOutput (h : Holds n m) (a : Address) (data : Text) (dataLen : UInt16) :
    Agrees n m (.getOutput a data dataLen) where
  answer := by rw [netCall, tableCall, h.find]
  holds := h

theorem Holds.setInput (h : Holds n m) (a : Address) (data : Text) (iops : Ioxs) :
    Agrees n m (.setInput a data iops) := by
  have hfind := h.find a
  rcases modifyFirst_cases (·.isAt a.api a.slot a.subslot) (·.written data iops) n.submodules
    with hnone | hsome
  · obtain ⟨hnot, hset⟩ := hnone
    rw [← setInputOf_eq] at hset
    rw [hnot] at hfind
    constructor
    · simp only [netCall, tableCall, hset, ← hfind]
    · simp only [netCall, tableCall, hset, ← hfind]
      exact h
  · obtain ⟨pre, sm, post, hsms, hfound, -, hset⟩ := hsome
    rw [← setInputOf_eq] at hset
    rw [hfound] at hfind
    have hat := List.find?_some hfound
    simp only [isAt_eq, decide_eq_true_eq] at hat
    constructor
    · simp only [netCall, tableCall, hset, ← hfind]
    · simp only [netCall, tableCall, hset, ← hfind]
      have hshows := h.shows
      have hfits := h.fits
      rw [hsms] at hshows hfits
      exact ⟨h.initialized, hshows.update hat.1 hat.2 hat.1 hat.2, by simpa using hfits⟩

theorem Holds.plug_of_room (h : Holds n m) {a : Address} (ha : a ∉ m)
    (hroom : n.submodules.length < mockMaxSubmodules) (moduleIdent submoduleIdent : UInt32)
    (direction : SubmoduleDir) (lengthInput lengthOutput : UInt16) :
    Agrees n m (.plug a moduleIdent submoduleIdent direction lengthInput lengthOutput) := by
  have hnet : ¬ (n.initialized = false ∨ mockMaxSubmodules ≤ n.submodules.length) := by
    rw [h.initialized]
    simpa using hroom
  have hcard : m.keys.card < mockMaxSubmodules := h.card_le.trans_lt hroom
  constructor
  · rw [netCall, tableCall, if_neg hnet, if_pos hcard]
  · rw [netCall, tableCall, if_neg hnet, if_pos hcard]
    refine ⟨h.initialized, h.shows.snoc rfl rfl ha, ?_⟩
    rw [List.length_append, List.length_singleton]
    exact hroom

theorem Holds.full_iff (h : Holds n m) (hfull : mockMaxSubmodules ≤ n.submodules.length) :
    ¬ m.keys.card < mockMaxSubmodules ↔ ∀ sm ∈ n.submodules, sm.plugged = true := by
  rw [← List.filter_eq_self, ← List.filter_sublist.length_eq, ← h.shows.card, not_lt]
  have hle := h.card_le
  have hfits := h.fits
  omega

theorem Holds.plug (h : Holds n m) {a : Address} (ha : a ∉ m) {moduleIdent submoduleIdent : UInt32}
    {direction : SubmoduleDir} {lengthInput lengthOutput : UInt16}
    (hm : Meets n (.plug a moduleIdent submoduleIdent direction lengthInput lengthOutput)) :
    Agrees n m (.plug a moduleIdent submoduleIdent direction lengthInput lengthOutput) := by
  rcases Nat.lt_or_ge n.submodules.length mockMaxSubmodules with hroom | hfull
  · exact h.plug_of_room ha hroom _ _ _ _ _
  · have hplugged := hm.resolve_left hfull.not_gt
    have hcard := (h.full_iff hfull).mpr hplugged
    constructor
    · rw [netCall, tableCall, if_pos (Or.inr hfull), if_neg hcard]
    · rw [netCall, tableCall, if_pos (Or.inr hfull), if_neg hcard]
      exact h

theorem Holds.plug_meets (h : Holds n m) {a : Address} {moduleIdent submoduleIdent : UInt32}
    {direction : SubmoduleDir} {lengthInput lengthOutput : UInt16}
    (hanswer : (netCall n (.plug a moduleIdent submoduleIdent direction lengthInput
      lengthOutput)).1 = (tableCall m (.plug a moduleIdent submoduleIdent direction lengthInput
      lengthOutput)).1) :
    Meets n (.plug a moduleIdent submoduleIdent direction lengthInput lengthOutput) := by
  rcases Nat.lt_or_ge n.submodules.length mockMaxSubmodules with hroom | hfull
  · exact Or.inl hroom
  · rw [netCall, tableCall, if_pos (Or.inr hfull)] at hanswer
    refine Or.inr ((h.full_iff hfull).mp ?_)
    intro hcard
    rw [if_pos hcard] at hanswer
    exact absurd (Answer.ret.inj hanswer) (by decide)

theorem Holds.pull_cases (h : Holds n m) (a : Address) :
    (n.submodules.find? (·.hasKey a.api a.slot a.subslot) = none ∧ a ∉ m ∧
      netCall n (.pull a) = (.ret (-1), n)) ∨
    ∃ pre sm post, n.submodules = pre ++ sm :: post ∧ addressOf sm = a ∧
      n.submodules.find? (·.hasKey a.api a.slot a.subslot) = some sm ∧
      netCall n (.pull a) = (.ret 0, { n with submodules := pre ++ sm.pulled :: post }) := by
  rcases modifyFirst_cases (·.hasKey a.api a.slot a.subslot) (·.pulled) n.submodules
    with hnone | hsome
  · obtain ⟨hnot, hpull⟩ := hnone
    rw [← pullOf_eq] at hpull
    refine Or.inl ⟨hnot, ?_, by rw [netCall, hpull]⟩
    rw [← Finmap.lookup_eq_none, ← h.find, List.find?_eq_none]
    intro sm hsm hat
    simp only [isAt_eq, decide_eq_true_eq] at hat
    have hkey := List.find?_eq_none.mp hnot sm hsm
    rw [hasKey_eq, decide_eq_true_eq] at hkey
    exact hkey hat.1
  · obtain ⟨pre, sm, post, hsms, hfound, -, hpull⟩ := hsome
    rw [← pullOf_eq] at hpull
    have hkey := List.find?_some hfound
    rw [hasKey_eq, decide_eq_true_eq] at hkey
    exact Or.inr ⟨pre, sm, post, hsms, hkey, hfound, by rw [netCall, hpull]⟩

theorem Holds.pull (h : Holds n m) {a : Address} (hm : Meets n (.pull a)) :
    Agrees n m (.pull a) := by
  rcases h.pull_cases a with hnone | hsome
  · obtain ⟨-, ha, hnet⟩ := hnone
    constructor
    · rw [hnet, tableCall, if_neg ha]
    · rw [hnet, tableCall, if_neg ha]
      exact h
  · obtain ⟨pre, sm, post, hsms, hkey, hfound, hnet⟩ := hsome
    have hplugged : sm.plugged = true := hm sm hfound
    have hshows := h.shows
    have hfits := h.fits
    rw [hsms] at hshows hfits
    have ha : a ∈ m := by
      rw [hshows.mem_iff, liveKeys_append, liveKeys_cons_live hplugged, hkey]
      simp
    constructor
    · rw [hnet, tableCall, if_pos ha]
    · rw [hnet, tableCall, if_pos ha]
      exact ⟨h.initialized, hshows.kill hkey hplugged rfl, by simpa using hfits⟩

theorem Holds.pull_meets (h : Holds n m) {a : Address}
    (hanswer : (netCall n (.pull a)).1 = (tableCall m (.pull a)).1)
    (htable : (netCall n (.pull a)).2.submodules.find? (·.isAt a.api a.slot a.subslot) =
      (tableCall m (.pull a)).2.lookup a) : Meets n (.pull a) := by
  intro sm hfound
  rcases h.pull_cases a with hnone | hsome
  · rw [hnone.1] at hfound
    exact absurd hfound (by simp)
  · obtain ⟨pre, sm', post, hsms, -, hfound', hnet⟩ := hsome
    obtain rfl : sm' = sm := Option.some.inj (hfound'.symm.trans hfound)
    by_contra hpulled
    have hflag : sm'.plugged = false := by simpa using hpulled
    have hsame : sm'.pulled = sm' := by rw [MockSubmodule.pulled, ← hflag]
    rw [hnet] at hanswer htable
    by_cases ha : a ∈ m
    · -- the array is as it was, and `a` is still found in it
      rw [tableCall, if_pos ha, Finmap.lookup_erase, hsame, ← hsms, h.find,
        Finmap.lookup_eq_none] at htable
      exact htable ha
    · rw [tableCall, if_neg ha] at hanswer
      exact absurd (Answer.ret.inj hanswer) (by decide)

theorem Holds.agrees (h : Holds n m) {c : Call} (hc : Proper m c) (hm : Meets n c) :
    Agrees n m c := by
  cases c with
  | plug a => exact h.plug hc hm
  | pull a => exact h.pull hm
  | setInput a data iops => exact h.setInput a data iops
  | getOutput a data dataLen => exact h.getOutput a data dataLen

theorem Holds.meets (h : Holds n m) {c : Call} (hanswer : (netCall n c).1 = (tableCall m c).1)
    (htable : ∀ a : Address, (netCall n c).2.submodules.find? (·.isAt a.api a.slot a.subslot) =
      (tableCall m c).2.lookup a) : Meets n c := by
  cases c with
  | plug a => exact h.plug_meets hanswer
  | pull a => exact h.pull_meets hanswer (htable a)
  | setInput a data iops => exact trivial
  | getOutput a data dataLen => exact trivial

theorem worldAfter_snoc (net : PnetHandle) (w : MockWorld) (cs : List Call) (c : Call) :
    worldAfter net w (cs ++ [c]) = (call net (worldAfter net w cs) c).2 := run_snoc _ w cs c

theorem tableAfter_snoc (cs : List Call) (c : Call) :
    tableAfter (cs ++ [c]) = (tableCall (tableAfter cs) c).2 := run_snoc _ ∅ cs c

def WorldHolds (net : PnetHandle) (w : MockWorld) (m : Table) : Prop :=
  ∃ n, w.nets[net]? = some n ∧ Holds n m

theorem WorldHolds.lookup {net : PnetHandle} {w : MockWorld} (h : WorldHolds net w m)
    (a : Address) : submoduleAt net a.api a.slot a.subslot w = m.lookup a := by
  obtain ⟨n, hn, hholds⟩ := h
  rw [submoduleAt_of_net hn, hholds.find]

def MeetsOn (net : PnetHandle) (w : MockWorld) (c : Call) : Prop :=
  ∀ n, w.nets[net]? = some n → Meets n c

theorem WorldHolds.call {net : PnetHandle} {w : MockWorld} (h : WorldHolds net w m) {c : Call}
    (hc : Proper m c) (hm : MeetsOn net w c) :
    (call net w c).1 = (tableCall m c).1 ∧ WorldHolds net (call net w c).2 (tableCall m c).2 := by
  obtain ⟨n, hn, hholds⟩ := h
  have hagrees := hholds.agrees hc (hm n hn)
  have hlt : net < w.nets.length := (List.getElem?_eq_some_iff.mp hn).1
  rw [call_of_net hn]
  exact ⟨hagrees.answer, _, by simp [hlt], hagrees.holds⟩

theorem WorldHolds.meets {net : PnetHandle} {w : MockWorld} (h : WorldHolds net w m) {c : Call}
    (hanswer : (SubmoduleTable.call net w c).1 = (tableCall m c).1)
    (htable : ∀ a : Address, submoduleAt net a.api a.slot a.subslot
      (SubmoduleTable.call net w c).2 = (tableCall m c).2.lookup a) : MeetsOn net w c := by
  intro n' hn'
  obtain ⟨n, hn, hholds⟩ := h
  obtain rfl : n = n' := Option.some.inj (hn.symm.trans hn')
  rw [call_of_net hn] at hanswer
  refine hholds.meets hanswer fun a => ?_
  rw [← htable a, call_of_net hn, submoduleAt_set hn]

theorem init_holds {cfg : PnetCfg .mock} {w0 w : MockWorld} {net : PnetHandle}
    (hinit : pnetInit cfg w0 = (some net, w)) : WorldHolds net w ∅ := by
  rw [pnetInit] at hinit
  split_ifs at hinit
  · simp at hinit
  · obtain ⟨hnet, hw⟩ := Prod.mk.inj hinit
    obtain rfl := Option.some.inj hnet
    refine ⟨⟨true, 0, []⟩, ?_, rfl, Shows.empty, Nat.zero_le _⟩
    rw [← hw]
    simp

/-- The stack is the map throughout a run exactly where every call meets the condition
on the state in front of it. -/
theorem faithful_iff_meets {cfg : PnetCfg .mock} {w0 w : MockWorld} {net : PnetHandle}
    (hinit : pnetInit cfg w0 = (some net, w)) {cs : List Call}
    (hproper : ProperRun cs) :
    FaithfulRun net w cs ↔
      ∀ pre c, pre ++ [c] <+: cs → MeetsOn net (worldAfter net w pre) c := by
  apply always_iff_steps_of_invariant
    (I := fun pre => WorldHolds net (worldAfter net w pre) (tableAfter pre))
  · have hholds := init_holds hinit
    exact ⟨⟨hholds.lookup, fun before c h => by simp at h⟩, hholds⟩
  · intro pre c hpre _ hholds hm
    obtain ⟨hanswer, hafter⟩ := hholds.call (hproper pre c hpre) hm
    rw [← worldAfter_snoc, ← tableAfter_snoc] at hafter
    refine ⟨⟨hafter.lookup, ?_⟩, hafter⟩
    intro before c' hlast
    obtain ⟨rfl, hc⟩ := List.append_inj' hlast rfl
    obtain rfl := List.singleton_inj.mp hc
    exact hanswer
  · intro pre c _ _ hholds hfaithful
    have htable := hfaithful.table
    rw [worldAfter_snoc, tableAfter_snoc] at htable
    exact hholds.meets (hfaithful.answer pre c rfl) htable

def inputAddress : Address := ⟨exampleApi, exampleSlot, exampleSubslotInput⟩

def plugInput : Call :=
  .plug inputAddress exampleModuleIdent exampleSubmodInput .input exampleInputSize 0

def outputAddress : Address := ⟨exampleApi, exampleSlot, exampleSubslotOutput⟩

def inputThenOutput : List Call :=
  [plugInput, .setInput inputAddress [7] .good, .getOutput inputAddress [0, 0] 2,
    .pull inputAddress,
    .plug outputAddress exampleModuleIdent exampleSubmodOutput .output 0 exampleOutputSize]

theorem inputThenOutput_proper : ProperRun inputThenOutput := by
  have houtput : outputAddress ∉ tableAfter [plugInput, .setInput inputAddress [7] .good,
      .getOutput inputAddress [0, 0] 2, .pull inputAddress] := by
    rw [← Finmap.lookup_eq_none]
    rfl
  refine (steps_snoc [_, _, _, _] _).mpr ⟨?_, houtput⟩
  refine (steps_snoc [_, _, _] _).mpr ⟨?_, trivial⟩
  refine (steps_snoc [_, _] _).mpr ⟨?_, trivial⟩
  refine (steps_snoc [_] _).mpr ⟨?_, trivial⟩
  exact (steps_snoc [] plugInput).mpr ⟨steps_nil, Finmap.notMem_empty⟩

theorem faithful_iff_meets_input :
    FaithfulRun 0 (pnetInit (pnetCfgOf .mock .zeroed) .fresh).2 inputThenOutput := by
  have hinit : pnetInit (pnetCfgOf .mock .zeroed) .fresh = (some 0, ⟨[⟨true, 0, []⟩], []⟩) := rfl
  rw [hinit]
  refine (faithful_iff_meets hinit inputThenOutput_proper).mpr ?_
  refine (steps_snoc [_, _, _, _] _).mpr ⟨?_, ?_⟩
  · refine (steps_snoc [_, _, _] _).mpr ⟨?_, ?_⟩
    · refine (steps_snoc [_, _] _).mpr ⟨?_, fun _ _ => trivial⟩
      refine (steps_snoc [_] _).mpr ⟨?_, fun _ _ => trivial⟩
      refine (steps_snoc [] plugInput).mpr ⟨steps_nil, fun n hn => ?_⟩
      obtain rfl := Option.some.inj hn
      exact Or.inl (by decide)
    · intro n hn sm hsm
      obtain rfl := Option.some.inj hn
      obtain rfl := Option.some.inj hsm
      rfl
  · intro n hn
    obtain rfl := Option.some.inj hn
    exact Or.inl (by decide)

/-- The submodule is plugged again, and the second pull, which succeeds, leaves it
plugged. -/
theorem replugged_stays :
    ProperRun [plugInput, .pull inputAddress, plugInput, .pull inputAddress] ∧
      ¬ FaithfulRun 0 (pnetInit (pnetCfgOf .mock .zeroed) .fresh).2
        [plugInput, .pull inputAddress, plugInput, .pull inputAddress] := by
  constructor
  · refine (steps_snoc [plugInput, .pull inputAddress, plugInput] _).mpr ⟨?_, trivial⟩
    refine (steps_snoc [plugInput, .pull inputAddress] _).mpr ⟨?_, ?_⟩
    · refine (steps_snoc [plugInput] _).mpr ⟨?_, trivial⟩
      exact (steps_snoc [] plugInput).mpr ⟨steps_nil, Finmap.notMem_empty⟩
    · exact Finmap.notMem_erase_self (s := (tableAfter [plugInput]))
  · intro h
    have htable := (h _ List.prefix_rfl).table inputAddress
    exact absurd (congrArg Option.isSome htable) (by decide)

end PnetManager.SubmoduleTable
