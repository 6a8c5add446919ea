import PnetManager.ConfigReadings

/-!
# Saving what was loaded

Every loaded configuration can be saved line by line. Loading the saved file
trims the texts once more, and a text that was cut behind a blank when it was
stored loses that blank.
-/

namespace PnetManager.RewrittenFile
open CText CNumber ConfigFile PhysicalLines ConfigRoundTrip ConfigKeys ConfigReadings

set_option maxRecDepth 2000

theorem trimmed_trim (s : Text) : Trimmed (trim s) := by
  constructor
  · intro b hb
    cases h : s.dropWhile isspace with
    | nil => simp [trim, h] at hb
    | cons c q =>
      obtain ⟨hc, htrim⟩ := trim_of_dropWhile h
      rw [htrim] at hb
      obtain rfl : c = b := by simpa using hb
      exact hc
  · intro b hb
    have hne : trim s ≠ [] := by
      intro hnil
      simp [hnil] at hb
    have hlast := List.rdropWhile_last_not isspace (s.dropWhile isspace) hne
    rw [List.getLast?_eq_some_getLast hne] at hb
    obtain rfl := Option.some.inj hb
    exact Bool.eq_false_iff.mpr hlast

theorem trim_sublist (s : Text) : (trim s).Sublist s :=
  (List.rdropWhile_prefix _ _).sublist.trans (List.dropWhile_sublist _)

theorem splitLine_value {l key val : Text} (h : splitLine l = some (key, val)) :
    PlainText val := by
  simp only [splitLine, strip_eq_trim] at h
  split at h
  · cases h
  split_ifs at h
  split at h
  · cases h
  next rest hrest =>
    split_ifs at h with hne
    obtain ⟨-, rfl⟩ := Prod.mk.inj (Option.some.inj h)
    have hmem : ∀ b ∈ trim rest, b ≠ nul ∧ b ≠ cr ∧ b ≠ lf := by
      intro b hb
      have hdrop : b ∈ (trim (cutLine l)).dropWhile (· ≠ 61) := by
        rw [hrest]
        exact List.mem_cons_of_mem _ ((trim_sublist rest).subset hb)
      exact mem_cutLine ((trim_sublist _).subset ((List.dropWhile_sublist _).subset hdrop))
    exact ⟨hne.2, trimmed_trim rest, fun hb => (hmem _ hb).1 rfl, fun hb => (hmem _ hb).2.1 rfl,
      fun hb => (hmem _ hb).2.2 rfl⟩

theorem lastValue_plain {k : Key} {file v : Text} (h : lastValue k (assignments file) = some v) :
    PlainText v := by
  rw [lastValue, Option.map_eq_some_iff] at h
  obtain ⟨p, hp, rfl⟩ := h
  have hmem := List.mem_of_find?_eq_some hp
  rw [List.mem_reverse, assignments, List.mem_filterMap] at hmem
  obtain ⟨l, -, hl⟩ := hmem
  exact splitLine_value hl

def capacity : Key → ℕ
  | .productName => 25
  | .stationName => 240
  | .interface => 15
  | .fileDirectory => 239
  | .logFile => 255
  | _ => 0

theorem capacity_bounds {k : Key} (hk : kindOf k = .text) : 0 < capacity k ∧ capacity k < 256 := by
  cases k <;> first | exact absurd hk (by decide) | decide

theorem reading_take {k : Key} (hk : kindOf k = .text) (v : Text) :
    reading (v.take (capacity k)) k = reading v k := by
  have hbytes (n : ℕ) : (CharArray.ofText n (v.take (n - 1))).bytes =
      (CharArray.ofText n v).bytes := by
    simp only [CharArray.ofText, List.take_take, min_self]
  cases k <;> first | exact absurd hk (by decide) | exact congrArg Reading.bytes (hbytes _)

theorem print_of_setting {cfg : AppConfig} {k : Key} (hk : kindOf k = .text) {v : Text}
    (hv : nul ∉ v) (h : setting cfg k = reading v k) : k.print cfg = v.take (capacity k) := by
  have htext {n : ℕ} {a : CharArray n}
      (ha : Reading.bytes a.bytes = .bytes (CharArray.ofText n v).bytes) :
      a.text = v.take (n - 1) := by
    rw [CharArray.ext (Reading.bytes.inj ha), CharArray.ofText_text hv]
  cases k <;> first | exact absurd hk (by decide) | exact htext h

theorem reading_print {k : Key} (hk : kindOf k ≠ .text) (cfg : AppConfig) :
    reading (k.print cfg) k = setting cfg k := by
  cases k with
  | ipAddr => exact congrArg Reading.word (parseIp_formatIp _)
  | netmask => exact congrArg Reading.word (parseIp_formatIp _)
  | gateway => exact congrArg Reading.word (parseIp_formatIp _)
  | vendorId => exact congrArg Reading.half (parse_fmtX4 _)
  | deviceId => exact congrArg Reading.half (parse_fmtX4 _)
  | tickUs => exact congrArg Reading.word (parse_fmtU _)
  | sendHello => exact congrArg Reading.bool (parseBool_formatBool _)
  | logLevel => exact congrArg Reading.int (atoi_fmtD _)
  | securityEnabled => exact congrArg Reading.bool (parseBool_formatBool _)
  | realtimeEnabled => exact congrArg Reading.bool (parseBool_formatBool _)
  | rtPriority => exact congrArg Reading.int (atoi_fmtD _)
  | rtScheduling => exact congrArg Reading.bool (parseBool_formatBool _)
  | lockMemory => exact congrArg Reading.bool (parseBool_formatBool _)
  | isolateCpu => exact congrArg Reading.int (atoi_fmtD _)
  | _ => exact absurd rfl hk

def given (k : Key) (file : Text) : Text :=
  (lastValue k (assignments file)).getD (k.print appConfigDefault)

theorem default_plain (k : Key) : PlainText (k.print appConfigDefault) :=
  print_plain ⟨by decide, by decide, by decide, by decide, by decide⟩ k

theorem given_plain (k : Key) (file : Text) : PlainText (given k file) := by
  rw [given]
  cases h : lastValue k (assignments file) with
  | none => exact default_plain k
  | some v => exact lastValue_plain h

theorem settled_given {k : Key} (hk : kindOf k = .text) (file : Text) :
    settled k (assignments file) = reading (given k file) k := by
  rw [settled, given]
  cases lastValue k (assignments file) with
  | none => cases k <;> first | exact absurd hk (by decide) | decide
  | some v => rfl

variable (old old' : AppConfig) (path path' file : Text)

theorem print_loaded {k : Key} (hk : kindOf k = .text) :
    k.print (assigned path (assignments file)) = (given k file).take (capacity k) :=
  print_of_setting hk (given_plain k file).no_nul
    ((setting_assigned path _ k).trans (settled_given hk file))

theorem lineText_take {v : Text} (h : PlainText v) {n : ℕ} (hn : 0 < n) : LineText (v.take n) where
  not_blank := by
    intro hblank
    obtain ⟨b, v, rfl⟩ := List.exists_cons_of_ne_nil h.ne_nil
    obtain ⟨n, rfl⟩ := Nat.exists_eq_succ_of_ne_zero hn.ne'
    have hspace := (trim_eq_nil_iff _).mp hblank b (by simp)
    rw [h.trimmed.1 b (by simp)] at hspace
    cases hspace
  no_nul := fun hm => h.no_nul (List.mem_of_mem_take hm)
  no_cr := fun hm => h.no_cr (List.mem_of_mem_take hm)
  no_lf := fun hm => h.no_lf (List.mem_of_mem_take hm)

theorem loaded_printable : Printable (assigned path (assignments file)) where
  lineText k := by
    by_cases hk : kindOf k = .text
    · rw [print_loaded path file hk]
      exact lineText_take (given_plain k file) (capacity_bounds hk).1
    · exact (print_value_plain hk).lineText
  short k := by
    by_cases hk : kindOf k = .text
    · rw [print_loaded path file hk]
      exact (List.length_take_le _ _).trans_lt (capacity_bounds hk).2
    · exact print_value_length hk

theorem lastValue_all (f : Key → Text) (k : Key) :
    lastValue k (Key.all.map fun k => (k.name, f k)) = some (f k) := by
  cases k <;> rfl

def rewritten (cfg : AppConfig) : Text := (saveLines cfg).flatMap fun l => l ++ [lf]

theorem appConfigSave_rewritten (cfg : AppConfig) (content : Option Text) :
    appConfigSave cfg true content = (0, some (rewritten cfg)) := rfl

theorem settled_rewritten {cfg : AppConfig} (h : Printable cfg) (k : Key) :
    settled k (assignments (rewritten cfg)) = reading (trim (k.print cfg)) k := by
  rw [settled, rewritten, assignments_saved h, lastValue_all]
  rfl

theorem print_rewritten {cfg : AppConfig} (h : Printable cfg) {k : Key} (hk : kindOf k = .text) :
    k.print (assigned path' (assignments (rewritten cfg))) =
      (trim (k.print cfg)).take (capacity k) :=
  print_of_setting hk (fun hm => (h.lineText k).no_nul ((trim_sublist _).subset hm))
    ((setting_assigned path' _ k).trans (settled_rewritten h k))

theorem load_rewritten
    (h : ∀ k, kindOf k = .text → Trimmed (k.print (assigned path (assignments file)))) :
    assigned path' (assignments (rewritten (assigned path (assignments file)))) =
      { assigned path (assignments file) with configFile := (freshConfig path').configFile } := by
  have hloaded := assigned_loaded path (assignments file)
  have hprintable := loaded_printable path file
  refine (assigned_loaded path' _).ext { hloaded with configFile := rfl } fun k => ?_
  rw [setting_assigned, settled_rewritten hprintable]
  change _ = setting (assigned path (assignments file)) k
  by_cases hk : kindOf k = .text
  · rw [(h k hk).trim_eq, print_loaded path file hk, reading_take hk, setting_assigned,
      settled_given hk]
  · rw [(print_value_plain hk).trimmed.trim_eq, reading_print hk]

/-- No text is cut right behind a blank: the last value of each text key, as far as
its array holds it, ends in a character that is not blank. -/
def CutsBehindText (file : Text) : Prop :=
  ∀ k, kindOf k = .text → ∀ v, lastValue k (assignments file) = some v →
    ∀ b ∈ (v.take (capacity k)).getLast?, isspace b = false

theorem trimmed_take {v : Text} (h : PlainText v) {n : ℕ} (hn : 0 < n) :
    Trimmed (v.take n) ↔ ∀ b ∈ (v.take n).getLast?, isspace b = false := by
  have hhead : (v.take n).head? = v.head? := by
    rw [List.head?_take, if_neg hn.ne']
  rw [Trimmed, hhead]
  exact and_iff_right h.trimmed.1

theorem cutsBehindText_iff :
    CutsBehindText file ↔
      ∀ k, kindOf k = .text → Trimmed (k.print (assigned path (assignments file))) := by
  refine forall_congr' fun k => forall_congr' fun hk => ?_
  rw [print_loaded path file hk, trimmed_take (given_plain k file) (capacity_bounds hk).1, given]
  cases lastValue k (assignments file) with
  | none =>
    have hdefault : ∀ b ∈ ((k.print appConfigDefault).take (capacity k)).getLast?,
        isspace b = false := by
      cases k <;> first | exact absurd hk (by decide) | decide
    exact iff_of_true (fun v hv => nomatch hv) hdefault
  | some v => simp

theorem print_text_eq {a b : AppConfig} (h : SameSettings a b) {k : Key} (hk : kindOf k = .text) :
    k.print a = k.print b := by
  cases k with
  | productName => exact h.productName
  | stationName => exact h.stationName
  | interface => exact h.interfaceName
  | fileDirectory => exact h.fileDirectory
  | logFile => exact h.logFile
  | _ => exact absurd hk (by decide)

/-- Saving what was loaded and loading it again keeps every field that has a key
and the network settings exactly when no text is cut right behind a blank. -/
theorem load_save_load_iff (content : Option Text) :
    let cfg := (appConfigLoad old path (some file)).2
    let saved := appConfigSave cfg true content
    let again := appConfigLoad old' path' saved.2
    saved.1 = 0 ∧ again.1 = 0 ∧ SameSettings cfg again.2 ∧ again.2.network = cfg.network ↔
      CutsBehindText file := by
  simp only [appConfigLoad_eq, appConfigSave_rewritten, true_and]
  rw [cutsBehindText_iff path]
  constructor
  · intro h k hk
    have hprint := print_text_eq h.1 hk
    rw [print_rewritten path' (loaded_printable path file) hk] at hprint
    generalize k.print (assigned path (assignments file)) = t at hprint
    have hlen : t.length ≤ (trim t).length := by
      have htake := congrArg List.length hprint
      rw [List.length_take] at htake
      omega
    rw [← (trim_sublist t).eq_of_length_le hlen]
    exact trimmed_trim t
  · intro h
    rw [load_rewritten path path' file h]
    exact ⟨by constructor <;> rfl, rfl⟩

theorem cut_product_name_changes :
    let file := ascii "product_name = Packaging Line Regulator 2"
    let cfg := (appConfigLoad appConfigDefault [] (some file)).2
    let again := appConfigLoad appConfigDefault [] (appConfigSave cfg true none).2
    cfg.device.productName.text = ascii "Packaging Line Regulator " ∧
      again.2.device.productName.text = ascii "Packaging Line Regulator" := by
  have hgiven : (given .productName (ascii "product_name = Packaging Line Regulator 2")).take 25 =
      ascii "Packaging Line Regulator " := by
    decide
  have hfirst := print_loaded [] (ascii "product_name = Packaging Line Regulator 2")
    (show kindOf .productName = .text from rfl)
  have hagain := print_rewritten []
    (loaded_printable [] (ascii "product_name = Packaging Line Regulator 2"))
    (show kindOf .productName = .text from rfl)
  rw [capacity, hgiven] at hfirst
  rw [hfirst] at hagain
  simp only [appConfigLoad_eq, appConfigSave_rewritten]
  exact ⟨hfirst, hagain.trans (by decide)⟩

end PnetManager.RewrittenFile
