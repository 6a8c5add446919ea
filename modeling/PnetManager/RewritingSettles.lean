import PnetManager.RewrittenFile

/-!
# Rewriting a file over and over

Loading a file and saving it to the same path. Where a text is cut behind a blank the
second rewriting drops the blank; the third one never finds anything to do.
-/

namespace PnetManager.RewritingSettles
open CText CNumber CStdio ConfigFile PhysicalLines ConfigRoundTrip ConfigKeys ConfigReadings
  RewrittenFile

set_option maxRecDepth 2000

variable (old : AppConfig) (path : Text)

def rewrite (file : Text) : Text :=
  ((appConfigSave (appConfigLoad old path (some file)).2 true (some file)).2).getD file

variable (file : Text)

def loadedFrom : AppConfig := assigned path (assignments file)

theorem rewrite_eq : rewrite old path file = rewritten (loadedFrom path file) := by
  rw [rewrite, appConfigLoad_eq, appConfigSave_rewritten, Option.getD_some, loadedFrom]

theorem print_of_same_setting {a b : AppConfig} {k : Key} (h : setting a k = setting b k) :
    k.print a = k.print b := by
  have hbytes {n : ℕ} {x y : CharArray n} (hxy : Reading.bytes x.bytes = .bytes y.bytes) :
      x.text = y.text := congrArg cstr (Reading.bytes.inj hxy)
  cases k with
  | productName => exact hbytes h
  | stationName => exact hbytes h
  | interface => exact hbytes h
  | ipAddr => exact congrArg formatIp (Reading.word.inj h)
  | netmask => exact congrArg formatIp (Reading.word.inj h)
  | gateway => exact congrArg formatIp (Reading.word.inj h)
  | vendorId => exact congrArg (fun v => 48 :: 120 :: fmtX4 v.toNat) (Reading.half.inj h)
  | deviceId => exact congrArg (fun v => 48 :: 120 :: fmtX4 v.toNat) (Reading.half.inj h)
  | tickUs => exact congrArg (fun v => fmtU v.toNat) (Reading.word.inj h)
  | sendHello => exact congrArg formatBool (Reading.bool.inj h)
  | fileDirectory => exact hbytes h
  | logLevel => exact congrArg (fun v => fmtD v.toInt) (Reading.int.inj h)
  | logFile => exact hbytes h
  | securityEnabled => exact congrArg formatBool (Reading.bool.inj h)
  | realtimeEnabled => exact congrArg formatBool (Reading.bool.inj h)
  | rtPriority => exact congrArg (fun v => fmtD v.toInt) (Reading.int.inj h)
  | rtScheduling => exact congrArg formatBool (Reading.bool.inj h)
  | lockMemory => exact congrArg formatBool (Reading.bool.inj h)
  | isolateCpu => exact congrArg (fun v => fmtD v.toInt) (Reading.int.inj h)

theorem saveLines_congr {a b : AppConfig} (h : ∀ k : Key, k.print a = k.print b) :
    saveLines a = saveLines b := by
  simp only [saveLines, Key.line, h]

theorem saveLines_short {cfg : AppConfig} (h : Printable cfg) :
    ∀ l ∈ saveLines cfg, lf ∉ l ∧ l.length + 2 ≤ 512 := by
  intro l hl
  rcases mem_saveLines hl with hcomment | hline
  · exact comment_fits l hcomment
  · obtain ⟨k, rfl⟩ := hline
    exact line_fits h k

def position : Key → ℕ
  | .productName => 4
  | .stationName => 5
  | .interface => 6
  | .ipAddr => 7
  | .netmask => 8
  | .gateway => 9
  | .vendorId => 10
  | .deviceId => 11
  | .tickUs => 12
  | .sendHello => 13
  | .fileDirectory => 14
  | .logLevel => 17
  | .logFile => 18
  | .securityEnabled => 21
  | .realtimeEnabled => 24
  | .rtPriority => 25
  | .rtScheduling => 26
  | .lockMemory => 27
  | .isolateCpu => 28

theorem saveLines_position (cfg : AppConfig) (k : Key) :
    (saveLines cfg)[position k]? = some (k.line cfg) := by
  cases k <;> rfl

theorem rewritten_eq_iff {a b : AppConfig} (ha : Printable a) (hb : Printable b) :
    rewritten a = rewritten b ↔ ∀ k : Key, k.print a = k.print b := by
  constructor
  · intro h
    have hlines : (saveLines a).map (· ++ [lf]) = (saveLines b).map (· ++ [lf]) := by
      rw [← fgetsAll_lines _ (saveLines_short ha), ← fgetsAll_lines _ (saveLines_short hb)]
      exact congrArg (fgetsAll 512) h
    have hsame : saveLines a = saveLines b :=
      List.map_injective_iff.mpr (fun x y hxy => List.append_cancel_right hxy) hlines
    intro k
    have hline : k.line a = k.line b := by
      rw [← Option.some_inj, ← saveLines_position, ← saveLines_position, hsame]
    rw [Key.line, Key.line] at hline
    exact List.tail_eq_of_cons_eq (List.append_cancel_left hline)
  · intro h
    rw [rewritten, saveLines_congr h, rewritten]

theorem loadedFrom_printable : Printable (loadedFrom path file) := loaded_printable path file

theorem print_again (k : Key) :
    k.print (loadedFrom path (rewritten (loadedFrom path file))) =
      trim (k.print (loadedFrom path file)) := by
  have hprintable := loadedFrom_printable path file
  by_cases hk : kindOf k = .text
  · have hshort : (trim (k.print (loadedFrom path file))).length ≤ capacity k := by
      have htaken : (k.print (loadedFrom path file)).length ≤ capacity k := by
        rw [loadedFrom, print_loaded path file hk]
        exact List.length_take_le _ _
      exact (trim_sublist _).length_le.trans htaken
    rw [loadedFrom, print_rewritten path hprintable hk, List.take_of_length_le hshort]
  · have hplain : PlainText (k.print (loadedFrom path file)) := print_value_plain hk
    have htrim := hplain.trimmed.trim_eq
    rw [htrim]
    refine print_of_same_setting ?_
    rw [loadedFrom, setting_assigned, settled_rewritten hprintable, htrim, reading_print hk]

theorem rewrite_twice (k : Key) :
    Trimmed (k.print (loadedFrom path (rewritten (loadedFrom path file)))) := by
  rw [print_again]
  exact trimmed_trim _

/-- One rewriting is enough exactly when no text is cut behind a blank, and two are
always: all later ones write the same file again. -/
theorem rewriting_settles :
    (rewrite old path (rewrite old path file) = rewrite old path file ↔ CutsBehindText file) ∧
    ∀ n, (rewrite old path)^[n + 2] file = (rewrite old path)^[2] file := by
  have hfix (file : Text) (h : ∀ k : Key, Trimmed (k.print (loadedFrom path file))) :
      rewrite old path (rewrite old path file) = rewrite old path file := by
    rw [rewrite_eq, rewrite_eq, rewritten_eq_iff (loadedFrom_printable path _)
      (loadedFrom_printable path _)]
    intro k
    rw [print_again, (h k).trim_eq]
  constructor
  · constructor
    · intro hsame
      rw [rewrite_eq, rewrite_eq, rewritten_eq_iff (loadedFrom_printable path _)
        (loadedFrom_printable path _)] at hsame
      rw [cutsBehindText_iff path]
      intro k _
      have htrimmed := rewrite_twice path file k
      rwa [hsame k] at htrimmed
    · intro hcuts
      refine hfix file fun k => ?_
      by_cases hk : kindOf k = .text
      · exact (cutsBehindText_iff path file).mp hcuts k hk
      · exact (print_value_plain hk).trimmed
  · intro n
    induction n with
    | zero => rfl
    | succ n ih =>
      rw [Function.iterate_succ_apply', ih]
      change rewrite old path (rewrite old path (rewrite old path file)) = _
      rw [hfix]
      · rfl
      · rw [rewrite_eq]
        exact rewrite_twice path file

end PnetManager.RewritingSettles
