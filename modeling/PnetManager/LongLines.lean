import PnetManager.ConfigReadings
import PnetManager.PhysicalLines

/-!
# Lines longer than the buffer

A line of more than 511 bytes is read in pieces, and each piece is treated as a
line of its own. The reference reading treats every line of the file as one.
-/

namespace PnetManager.LongLines
open CText CStdio ConfigFile ConfigRoundTrip ConfigKeys ConfigReadings PhysicalLines

set_option maxRecDepth 2000

def referenceLine (line : Text) : Option (Text × Text) :=
  let line := line.takeWhile (· ≠ cr)
  match (line.dropWhile isspace).head? with
  | none => none
  | some c =>
    if c = 35 ∨ c = 59 ∨ 61 ∉ line then none
    else
      let key := trim (line.takeWhile (· ≠ 61))
      let val := trim (line.dropWhile (· ≠ 61)).tail
      if key ≠ [] ∧ val ≠ [] then some (key, val) else none

def referenceAssignments (file : Text) : List (Text × Text) :=
  (file.splitOn lf).filterMap referenceLine

def referenceLoad (path file : Text) : ℤ × AppConfig :=
  (0, assigned path (referenceAssignments file))

theorem cutLine_eq_takeWhile {l : Text} (hnul : nul ∉ l) (hlf : lf ∉ l) :
    cutLine l = l.takeWhile (· ≠ cr) := by
  by_cases hcr : cr ∈ l
  · obtain ⟨a, b, rfl, ha⟩ := List.eq_append_cons_of_mem hcr
    rw [List.mem_append, not_or] at hnul hlf
    rw [cutLine_append_stop (by simp), cutLine_of_clean hnul.1 ha hlf.1,
      (takeWhile_ne_append ha b).1]
  · have hall : l.takeWhile (· ≠ cr) = l := List.takeWhile_eq_self_iff.mpr fun x hx => by
      have hne : x ≠ cr := fun he => hcr (he ▸ hx)
      simpa using hne
    rw [cutLine_of_clean hnul hcr hlf, hall]

theorem opensKey_trim {p q : Text} {c : Byte} (hclean : ∀ x ∈ p, x ≠ nul ∧ x ≠ cr ∧ x ≠ lf)
    (heq : 61 ∉ p) (hd : p.dropWhile isspace = c :: q) (hc : c ≠ 35 ∧ c ≠ 59) :
    OpensKey p (trim p) where
  clean x hx := by
    obtain ⟨h1, h2, h3⟩ := hclean x hx
    exact ⟨h1, h2, h3, fun he => heq (he ▸ hx)⟩
  trimmed := rfl
  ne_nil := by simp [(trim_of_dropWhile hd).2]
  no_comment x hx := by
    rw [(trim_of_dropWhile hd).2] at hx
    obtain rfl : c = x := by simpa using hx
    exact hc

theorem splitLine_eq_referenceLine {l : Text} (hnul : nul ∉ l) (hlf : lf ∉ l) :
    splitLine l = referenceLine l := by
  rw [referenceLine, ← cutLine_eq_takeWhile hnul hlf]
  cases hd : (cutLine l).dropWhile isspace with
  | nil =>
    rw [splitLine_of_blank hd]
    rfl
  | cons c q =>
    simp only [List.head?_cons]
    by_cases hc : c = 35 ∨ c = 59
    · rw [splitLine_of_head hd (by tauto), if_pos (by tauto)]
    by_cases heq : 61 ∈ cutLine l
    · obtain ⟨p, r, hl, hp⟩ := List.eq_append_cons_of_mem heq
      obtain ⟨htake, hdrop⟩ := takeWhile_ne_append hp r
      rw [if_neg (by tauto), hl, htake, hdrop, List.tail_cons]
      have hclean {x : Byte} (hx : x ∈ p ++ 61 :: r) : x ≠ nul ∧ x ≠ cr ∧ x ≠ lf :=
        mem_cutLine (hl ▸ hx)
      by_cases hkey : trim p = []
      · have h61 : (cutLine l).dropWhile isspace = 61 :: r := by
          rw [hl, List.dropWhile_append_of_pos ((trim_eq_nil_iff p).mp hkey),
            List.dropWhile_cons_of_neg (by decide)]
        rw [splitLine_of_head h61 (by simp)]
        simp [hkey]
      · have hr : cutLine r = r :=
          cutLine_of_clean (fun hx => (hclean (by simp [hx])).1 rfl)
            (fun hx => (hclean (by simp [hx])).2.1 rfl) fun hx => (hclean (by simp [hx])).2.2 rfl
        have hne : p.dropWhile isspace ≠ [] := fun hnil => hkey (by rw [trim, hnil]; rfl)
        obtain ⟨d, p', hp'⟩ := List.exists_cons_of_ne_nil hne
        rw [hl, List.dropWhile_append, if_neg (by simpa using hne), hp'] at hd
        obtain rfl : d = c := (List.cons.inj hd).1
        have hsplit := splitLine_opensKey
          (opensKey_trim (fun x hx => hclean (List.mem_append_left _ hx)) hp hp' (by tauto)) r
        rw [hr, ← hl, splitLine_congr (cutLine_cutLine l)] at hsplit
        rw [hsplit]
        by_cases hval : trim r = [] <;> simp [hkey, hval]
    · rw [splitLine_of_no_eq heq, if_pos (by tauto)]

/-- The pieces that a buffer of 512 bytes cuts a line into. -/
def pieces (l : Text) : List Text :=
  (List.range ((l.length + 510) / 511)).map fun i => (l.drop (511 * i)).take 511

theorem pieces_of_ne_nil {l : Text} (h : l ≠ []) :
    pieces l = l.take 511 :: pieces (l.drop 511) := by
  have hlen := List.length_pos_iff.mpr h
  have hcount : (l.length + 510) / 511 = ((l.drop 511).length + 510) / 511 + 1 := by
    rw [List.length_drop]
    omega
  rw [pieces, hcount, List.range_succ_eq_map, List.map_cons, List.map_map, pieces]
  simp [Function.comp_def, List.drop_drop, Nat.mul_add, Nat.add_comm]

theorem assignments_pieces {l : Text} (h : lf ∉ l) :
    assignments l = (pieces l).filterMap splitLine := by
  induction hk : l.length using Nat.strong_induction_on generalizing l with
  | _ k ih =>
    by_cases hnil : l = []
    · subst hnil
      rfl
    · have hlen := List.length_pos_iff.mpr hnil
      have hrest : lf ∉ l.drop 511 := fun hm => h (List.mem_of_mem_drop hm)
      have hshorter : (l.drop 511).length < k := by
        rw [List.length_drop]
        omega
      rw [assignments_cons hnil, takeLine_of_no_lf 511 h, pieces_of_ne_nil hnil,
        ih _ hshorter hrest rfl, List.filterMap_cons]
      cases splitLine (l.take 511) <;> rfl

def pieceAssignments (file : Text) : List (Text × Text) :=
  (file.splitOn lf).flatMap fun l => (pieces l).filterMap splitLine

theorem assignments_eq_pieces (file : Text) : assignments file = pieceAssignments file := by
  rw [assignments_lines, pieceAssignments]
  exact List.flatMap_congr fun l hl => assignments_pieces (lf_not_mem_line file l hl)

def lastReading (k : Key) (ps : List (Text × Text)) : Option Reading :=
  (lastValue k ps).map fun v => reading v k

theorem lastReading_append (k : Key) (ps qs : List (Text × Text)) :
    lastReading k (ps ++ qs) = (lastReading k qs).or (lastReading k ps) := by
  rw [lastReading, lastValue_append, Option.map_or]
  rfl

theorem lastReading_flatMap {k : Key} {lines : List Text} {f g : Text → List (Text × Text)}
    (h : ∀ l ∈ lines, lastReading k (f l) = lastReading k (g l)) :
    lastReading k (lines.flatMap f) = lastReading k (lines.flatMap g) := by
  induction lines with
  | nil => rfl
  | cons l lines ih =>
    obtain ⟨hline, hrest⟩ := List.forall_mem_cons.mp h
    rw [List.flatMap_cons, List.flatMap_cons, lastReading_append, lastReading_append, hline,
      ih hrest]

/-- What the field of `k` is set to by a line as a whole, if by anything. -/
def lineReading (k : Key) (l : Text) : Option Reading := lastReading k (referenceLine l).toList

def pieceReading (k : Key) (l : Text) : Option Reading :=
  lastReading k ((pieces l).filterMap splitLine)

theorem pieceReading_of_short {l : Text} (hnul : nul ∉ l) (hlf : lf ∉ l) (h : l.length ≤ 511)
    (k : Key) : pieceReading k l = lineReading k l := by
  rw [pieceReading, ← assignments_pieces hlf, assignments_short hlf h,
    splitLine_eq_referenceLine hnul hlf, lineReading]

theorem settled_eq (k : Key) (ps : List (Text × Text)) :
    settled k ps = (lastReading k ps).getD (setting appConfigDefault k) := rfl

theorem nul_not_mem_line {file : Text} (h : nul ∉ file) : ∀ l ∈ file.splitOn lf, nul ∉ l := by
  induction file using line_induction with
  | hlast l hl =>
    rw [List.splitOn_eq_singleton hl]
    simpa using h
  | hline l s hl ih =>
    rw [List.mem_append, not_or, List.mem_cons, not_or] at h
    rw [List.splitOn_append_cons_self_of_not_mem hl]
    exact List.forall_mem_cons.mpr ⟨h.1, ih h.2.2⟩

theorem settled_of_lines {k : Key} {file : Text} (hnul : nul ∉ file)
    (hlong : ∀ l ∈ file.splitOn lf, 511 < l.length → pieceReading k l = lineReading k l) :
    settled k (assignments file) = settled k (referenceAssignments file) := by
  have hlines : ∀ l ∈ file.splitOn lf, pieceReading k l = lineReading k l := by
    intro l hl
    by_cases hshort : l.length ≤ 511
    · exact pieceReading_of_short (nul_not_mem_line hnul l hl) (lf_not_mem_line file l hl) hshort k
    · exact hlong l hl (by omega)
  rw [assignments_eq_pieces, settled_eq, settled_eq, pieceAssignments, referenceAssignments,
    List.filterMap_eq_flatMap_toList, lastReading_flatMap hlines]

/-- The pieces of a line set every key to what the line sets it to, and no other key. -/
def ReadsAsOne (l : Text) : Prop := ∀ k, pieceReading k l = lineReading k l

theorem load_eq_reference_of_lines (old : AppConfig) (path : Text) {file : Text} (hnul : nul ∉ file)
    (hlong : ∀ l ∈ file.splitOn lf, 511 < l.length → ReadsAsOne l) :
    appConfigLoad old path (some file) = referenceLoad path file := by
  rw [appConfigLoad_eq, referenceLoad, Prod.mk.injEq, assigned_eq_iff]
  exact ⟨rfl, fun k => settled_of_lines hnul fun l hl hlen => hlong l hl hlen k⟩

theorem exists_two_readings (k : Key) : ∃ u v, PlainText u ∧ PlainText v ∧ u.length ≤ 10 ∧
    v.length ≤ 10 ∧ reading u k ≠ reading v k := by
  have hplain {t : Text} (hne : t ≠ []) (h : t.all fun b => !isspace b && b != nul) :
      PlainText t := plainText_of_graphic hne (graphic_of_all h)
  by_cases haddress : kindOf k = .address
  · refine ⟨ascii "10.0.0.1", ascii "10.0.0.2", hplain (by decide) (by decide),
      hplain (by decide) (by decide), by decide, by decide, ?_⟩
    revert haddress
    cases k <;> decide
  · refine ⟨ascii "1", ascii "0", hplain (by decide) (by decide),
      hplain (by decide) (by decide), by decide, by decide, ?_⟩
    revert haddress
    cases k <;> decide

def settingLine (k : Key) (v : Text) : Text := k.name ++ 61 :: v

theorem settingLine_spec (k : Key) {v : Text} (h : PlainText v) (hlen : v.length ≤ 10) :
    nul ∉ settingLine k v ∧ lf ∉ settingLine k v ∧ (settingLine k v).length ≤ 511 ∧
      lineReading k (settingLine k v) = some (reading v k) := by
  have hname := name_plain k
  have hlength := name_length k
  have hnul : nul ∉ settingLine k v := by
    have heq : nul ≠ 61 := by decide
    simp [settingLine, hname.no_nul, h.no_nul, heq]
  have hlf : lf ∉ settingLine k v := by
    have heq : lf ≠ 61 := by decide
    simp [settingLine, hname.no_lf, h.no_lf, heq]
  refine ⟨hnul, hlf, ?_, ?_⟩
  · rw [settingLine, List.length_append, List.length_cons]
    omega
  · have hsplit := splitLine_opensKey (name_opensKey k) v
    rw [cutLine_of_clean h.no_nul h.no_cr h.no_lf, h.trimmed.trim_eq, if_neg h.ne_nil,
      ← settingLine, splitLine_eq_referenceLine hnul hlf] at hsplit
    rw [lineReading, hsplit, lastReading, Option.toList_some, ← List.nil_append [_],
      lastValue_snoc, if_pos rfl]
    rfl

theorem eq_of_getD {α : Type*} {a b : Option α} {d d' : α} (hd : d ≠ d')
    (h : a.getD d = b.getD d) (h' : a.getD d' = b.getD d') : a = b := by
  cases a <;> cases b <;> simp_all

theorem settled_two_lines {s l : Text} (hs : lf ∉ s) (hl : lf ∉ l) (k : Key) :
    settled k (assignments (s ++ lf :: l)) =
        ((pieceReading k l).or (pieceReading k s)).getD (setting appConfigDefault k) ∧
      settled k (referenceAssignments (s ++ lf :: l)) =
        ((lineReading k l).or (lineReading k s)).getD (setting appConfigDefault k) := by
  have hlines : (s ++ lf :: l).splitOn lf = [s, l] := by
    rw [List.splitOn_append_cons_self_of_not_mem hs, List.splitOn_eq_singleton hl]
  rw [assignments_eq_pieces, settled_eq, settled_eq, pieceAssignments, referenceAssignments,
    List.filterMap_eq_flatMap_toList, hlines]
  simp only [List.flatMap_cons, List.flatMap_nil, List.append_nil, lastReading_append]
  exact ⟨rfl, rfl⟩

theorem reading_of_load {k : Key} {l v : Text} (hlf : lf ∉ l) (hv : PlainText v)
    (hlen : v.length ≤ 10) {old : AppConfig} {path : Text}
    (hload : appConfigLoad old path (some (settingLine k v ++ lf :: l)) =
      referenceLoad path (settingLine k v ++ lf :: l)) :
    (pieceReading k l).getD (reading v k) = (lineReading k l).getD (reading v k) := by
  obtain ⟨hnul', hlf', hshort, hreads⟩ := settingLine_spec k hv hlen
  have hpieces := pieceReading_of_short hnul' hlf' hshort k
  obtain ⟨hcut, hwhole⟩ := settled_two_lines hlf' hlf k
  rw [appConfigLoad_eq, referenceLoad, Prod.mk.injEq, assigned_eq_iff] at hload
  have hsettled := hload.2 k
  rw [hcut, hwhole, hpieces, hreads] at hsettled
  simpa only [Option.getD_or, Option.getD_some] using hsettled

theorem readsAsOne_of_load (old : AppConfig) (path : Text) {l : Text} (hlf : lf ∉ l)
    (h : ∀ k v, PlainText v → v.length ≤ 10 →
      appConfigLoad old path (some (settingLine k v ++ lf :: l)) =
        referenceLoad path (settingLine k v ++ lf :: l)) : ReadsAsOne l := by
  intro k
  obtain ⟨u, v, hu, hv, hulen, hvlen, hne⟩ := exists_two_readings k
  exact eq_of_getD hne (reading_of_load hlf hu hulen (h k u hu hulen))
    (reading_of_load hlf hv hvlen (h k v hv hvlen))

/-- A file is loaded as the reference reads it when each of its long lines reads as one.
Of a line no less will do: it comes out right behind any short lines exactly then. -/
theorem load_eq_reference_iff (old : AppConfig) (path : Text) :
    (∀ file, nul ∉ file → (∀ l ∈ file.splitOn lf, 511 < l.length → ReadsAsOne l) →
      appConfigLoad old path (some file) = referenceLoad path file) ∧
    ∀ l, nul ∉ l → lf ∉ l →
      ((∀ before, nul ∉ before → (∀ l' ∈ before.splitOn lf, l'.length ≤ 511) →
        appConfigLoad old path (some (before ++ lf :: l)) =
          referenceLoad path (before ++ lf :: l)) ↔ ReadsAsOne l) := by
  refine ⟨fun file hnul hlong => load_eq_reference_of_lines old path hnul hlong,
    fun l hnul hlf => ⟨fun h => readsAsOne_of_load old path hlf fun k v hv hlen => ?_, ?_⟩⟩
  · obtain ⟨hnul', hlf', hshort, -⟩ := settingLine_spec k hv hlen
    refine h (settingLine k v) hnul' fun l' hl' => ?_
    rw [List.splitOn_eq_singleton hlf', List.mem_singleton] at hl'
    exact hl' ▸ hshort
  · intro hone before hbefore hshort
    refine load_eq_reference_of_lines old path ?_ fun l' hl' hlong => ?_
    · have heq : nul ≠ lf := by decide
      simp [hbefore, hnul, heq]
    · rw [List.splitOn_append_cons_self, List.splitOn_eq_singleton hlf] at hl'
      rcases List.mem_append.mp hl' with hl' | hl'
      · exact absurd (hshort l' hl') (by omega)
      · exact List.mem_singleton.mp hl' ▸ hone

theorem splitLine_comment (r : Text) : splitLine (35 :: r) = none := by
  have hcut : cutLine (35 :: r) = 35 :: cutLine r := cutLine_append (p := [35]) (by decide) r
  refine splitLine_of_head (q := cutLine r) ?_ (Or.inl rfl)
  rw [hcut, List.dropWhile_cons_of_neg (by decide)]

def longNote : Text := 35 :: List.replicate 510 120 ++ List.replicate 90 120

theorem longNote_readsAsOne : ReadsAsOne longNote := by
  intro k
  have hlf : lf ∉ longNote := by
    rw [longNote]
    decide
  have hpiece : (35 :: List.replicate 510 120 : Text).length = 511 := by simp
  have hrest : assignments (List.replicate 90 120) = [] := by decide
  have hpieces : assignments longNote = [] := by
    rw [assignments_cons (by simp [longNote]), takeLine_of_no_lf 511 hlf, longNote,
      List.take_left' hpiece, List.drop_left' hpiece, splitLine_comment, hrest]
    rfl
  have hline : referenceLine longNote = none := by decide
  rw [pieceReading, ← assignments_pieces hlf, hpieces, lineReading, hline]
  rfl

theorem load_eq_reference_iff_note :
    appConfigLoad appConfigDefault [] (some (ascii "tick_us=5" ++ lf :: longNote)) =
      referenceLoad [] (ascii "tick_us=5" ++ lf :: longNote) := by
  have hnul : nul ∉ longNote := by
    rw [longNote]
    decide
  have hlf : lf ∉ longNote := by
    rw [longNote]
    decide
  refine ((load_eq_reference_iff appConfigDefault []).2 longNote hnul hlf).mpr
    longNote_readsAsOne (ascii "tick_us=5") (by decide) fun l hl => ?_
  rw [List.splitOn_eq_singleton (by decide : lf ∉ ascii "tick_us=5"), List.mem_singleton] at hl
  rw [hl]
  decide

def longComment : Text := 35 :: List.replicate 510 120 ++ ascii "tick_us=5"

theorem comment_tail_is_assigned :
    nul ∉ longComment ∧ referenceAssignments longComment = [] ∧
      (referenceLoad [] longComment).2.device.tickUs = 1000 ∧
      (appConfigLoad appConfigDefault [] (some longComment)).2.device.tickUs = 5 ∧
      appConfigLoad appConfigDefault [] (some longComment) ≠ referenceLoad [] longComment := by
  have hlf : lf ∉ longComment := by
    rw [longComment]
    decide
  have hnul : nul ∉ longComment := by
    rw [longComment]
    decide
  have href : referenceAssignments longComment = [] := by
    rw [referenceAssignments, List.splitOn_eq_singleton hlf]
    decide
  have hload : assignments longComment = [(ascii "tick_us", ascii "5")] := by
    have hpiece : (35 :: List.replicate 510 120 : Text).length = 511 := by simp
    have htail : assignments (ascii "tick_us=5") = [(ascii "tick_us", ascii "5")] := by decide
    rw [assignments_cons (by simp [longComment]), takeLine_of_no_lf 511 hlf, longComment,
      List.take_left' hpiece, List.drop_left' hpiece, splitLine_comment, htail]
    rfl
  have hreference : (referenceLoad [] longComment).2.device.tickUs = 1000 := by
    rw [referenceLoad, href]
    rfl
  have hloaded : (appConfigLoad appConfigDefault [] (some longComment)).2.device.tickUs = 5 := by
    rw [appConfigLoad_eq, hload]
    decide
  refine ⟨hnul, href, hreference, hloaded, fun he => ?_⟩
  rw [he, hreference] at hloaded
  simp at hloaded

end PnetManager.LongLines
