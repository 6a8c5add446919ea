import PnetManager.LongLines

/-!
# What a numeric setting is set to

`strtoul` and `atoi` take what they can from the front of a value, saturate at the
bounds of `long`, and the assignment cuts the result to the type of the field.
Validation sees only what is left.
-/

namespace PnetManager.NumericValues
open CText CStdio CNumber ConfigFile PhysicalLines ConfigRoundTrip ConfigKeys ConfigReadings
open LongLines

set_option maxRecDepth 2000

/-- A C constant without a sign, in base 16, 8 or 10, and its value. -/
inductive UnsignedNumeral : Text → ℕ → Prop
  | hex {x : Byte} {ds : Text} (hx : x = 120 ∨ x = 88) (hne : ds ≠ [])
      (h : ∀ b ∈ ds, isDigitOf 16 b = true) : UnsignedNumeral (48 :: x :: ds) (valueOf 16 ds)
  | octal {ds : Text} (h : ∀ b ∈ ds, isDigitOf 8 b = true) :
      UnsignedNumeral (48 :: ds) (valueOf 8 ds)
  | decimal {ds : Text} (hne : ds ≠ []) (hlead : ∀ b ∈ ds.head?, b ≠ 48)
      (h : ∀ b ∈ ds, isDigitOf 10 b = true) : UnsignedNumeral ds (valueOf 10 ds)

/-- Decimal digits behind at most one sign, and their value. -/
inductive SignedNumeral : Text → ℤ → Prop
  | plain {ds : Text} (hne : ds ≠ []) (h : ∀ b ∈ ds, isDigitOf 10 b = true) :
      SignedNumeral ds (valueOf 10 ds)
  | plus {ds : Text} (hne : ds ≠ []) (h : ∀ b ∈ ds, isDigitOf 10 b = true) :
      SignedNumeral (43 :: ds) (valueOf 10 ds)
  | minus {ds : Text} (hne : ds ≠ []) (h : ∀ b ∈ ds, isDigitOf 10 b = true) :
      SignedNumeral (45 :: ds) (-valueOf 10 ds)

theorem toUlong_unsigned (v : ℕ) : toUlong false v = min v ulongMax := by
  rw [toUlong, if_neg Bool.false_ne_true]
  split_ifs with hbig
  · exact (min_eq_right hbig.le).symm
  · exact (min_eq_left (Nat.le_of_not_lt hbig)).symm

theorem detectBase_octal {ds : Text} (h : ∀ b ∈ ds, isDigitOf 8 b = true) :
    detectBase (48 :: ds) = (8, 48 :: ds) := by
  rcases ds with _ | ⟨x, _ | ⟨d, ds⟩⟩
  · rfl
  · rfl
  · have hx := h x List.mem_cons_self
    have h120 : x ≠ 120 := fun he => absurd (he ▸ hx) (by decide)
    have h88 : x ≠ 88 := fun he => absurd (he ▸ hx) (by decide)
    simp [detectBase, h120, h88]

theorem strtoul_numeral {v : Text} {n : ℕ} (h : UnsignedNumeral v n) :
    strtoul v = min n ulongMax := by
  have hzero (s : Text) : (48 :: s : Text).dropWhile isspace = 48 :: s ∧
      splitSign (48 :: s) = (false, 48 :: s) := ⟨rfl, rfl⟩
  rw [← toUlong_unsigned]
  cases h with
  | hex hx hne hdigits =>
    obtain ⟨d, ds, rfl⟩ := List.exists_cons_of_ne_nil hne
    have hd := hdigits d List.mem_cons_self
    simp only [strtoul, hzero, detectBase, hx, hd, and_self, if_true, digitRun_all hdigits]
  | octal hdigits =>
    rename_i ds
    have hall : ∀ b ∈ (48 :: ds : Text), isDigitOf 8 b = true :=
      List.forall_mem_cons.mpr ⟨by decide, hdigits⟩
    simp only [strtoul, hzero, detectBase_octal hdigits, digitRun_all hall]
    rfl
  | decimal hne hlead hdigits =>
    obtain ⟨hdrop, hsign⟩ := digits_start (t := []) hne hdigits
    rw [List.append_nil] at hdrop hsign
    simp only [strtoul, hdrop, hsign, detectBase_of_head hlead, digitRun_all hdigits]

theorem strtol_numeral {v : Text} {i : ℤ} (h : SignedNumeral v i) :
    strtol v = max longMin (min longMax i) := by
  cases h with
  | plain hne hdigits =>
    obtain ⟨hdrop, hsign⟩ := digits_start (t := []) hne hdigits
    rw [List.append_nil] at hdrop hsign
    simp only [strtol, hdrop, hsign, digitRun_all hdigits, Bool.false_eq_true, if_false]
  | plus hne hdigits =>
    rename_i ds
    have hdrop : (43 :: ds : Text).dropWhile isspace = 43 :: ds := rfl
    simp only [strtol, hdrop, splitSign, digitRun_all hdigits, Bool.false_eq_true, if_false]
  | minus hne hdigits =>
    rename_i ds
    have hdrop : (45 :: ds : Text).dropWhile isspace = 45 :: ds := rfl
    simp only [strtol, hdrop, splitSign, digitRun_all hdigits, if_true]

theorem cast_unsigned_iff {w n : ℕ} (hw : w ≤ 32) :
    min n ulongMax % 2 ^ w = n ↔ n < 2 ^ w := by
  have hpow : 2 ^ w ≤ 2 ^ 32 := Nat.pow_le_pow_right (by norm_num) hw
  constructor
  · intro h
    rw [← h]
    exact Nat.mod_lt _ (by positivity)
  · intro h
    rw [min_eq_left (by rw [ulongMax]; omega), Nat.mod_eq_of_lt h]

theorem cast_signed_iff {i : ℤ} :
    (Int32.ofInt (max longMin (min longMax i))).toInt = i ↔ -2 ^ 31 ≤ i ∧ i < 2 ^ 31 := by
  constructor
  · intro h
    rw [← h]
    exact ⟨Int32.le_toInt _, Int32.toInt_lt _⟩
  · intro h
    have hsame : max longMin (min longMax i) = i := by
      rw [longMin, longMax]
      omega
    rw [hsame]
    exact Int32.toInt_ofInt_of_le h.1 h.2

inductive NumericKey
  | vendorId
  | deviceId
  | tickUs
  | logLevel
  | rtPriority
  | isolateCpu

namespace NumericKey

def key : NumericKey → Key
  | .vendorId => .vendorId
  | .deviceId => .deviceId
  | .tickUs => .tickUs
  | .logLevel => .logLevel
  | .rtPriority => .rtPriority
  | .isolateCpu => .isolateCpu

def Numeral : NumericKey → Text → ℤ → Prop
  | .vendorId, v, n | .deviceId, v, n | .tickUs, v, n => ∃ m : ℕ, n = m ∧ UnsignedNumeral v m
  | .logLevel, v, n | .rtPriority, v, n | .isolateCpu, v, n => SignedNumeral v n

def InRange : NumericKey → ℤ → Prop
  | .vendorId, n | .deviceId, n => 0 ≤ n ∧ n < 2 ^ 16
  | .tickUs, n => 0 ≤ n ∧ n < 2 ^ 32
  | .logLevel, n | .rtPriority, n | .isolateCpu, n => -2 ^ 31 ≤ n ∧ n < 2 ^ 31

def stored (cfg : AppConfig) : NumericKey → ℤ
  | .vendorId => cfg.device.vendorId.toNat
  | .deviceId => cfg.device.deviceId.toNat
  | .tickUs => cfg.device.tickUs.toNat
  | .logLevel => cfg.logLevel.toInt
  | .rtPriority => cfg.realtime.rtPriority.toInt
  | .isolateCpu => cfg.realtime.isolateCpu.toInt

def read (v : Text) : NumericKey → ℤ
  | .vendorId | .deviceId => (UInt16.ofNat (strtoul v)).toNat
  | .tickUs => (UInt32.ofNat (strtoul v)).toNat
  | .logLevel | .rtPriority | .isolateCpu => (atoi v).toInt

theorem stored_of_setting {cfg : AppConfig} {k : NumericKey} {v : Text}
    (h : setting cfg k.key = reading v k.key) : stored cfg k = read v k := by
  cases k with
  | vendorId => exact congrArg (fun n : UInt16 => (n.toNat : ℤ)) (Reading.half.inj h)
  | deviceId => exact congrArg (fun n : UInt16 => (n.toNat : ℤ)) (Reading.half.inj h)
  | tickUs => exact congrArg (fun n : UInt32 => (n.toNat : ℤ)) (Reading.word.inj h)
  | logLevel => exact congrArg Int32.toInt (Reading.int.inj h)
  | rtPriority => exact congrArg Int32.toInt (Reading.int.inj h)
  | isolateCpu => exact congrArg Int32.toInt (Reading.int.inj h)

theorem read_eq_iff {k : NumericKey} {v : Text} {n : ℤ} (h : k.Numeral v n) :
    read v k = n ↔ k.InRange n := by
  have hunsigned {m w : ℕ} (hm : UnsignedNumeral v m) (hw : w ≤ 32) :
      ((strtoul v % 2 ^ w : ℕ) : ℤ) = m ↔ 0 ≤ (m : ℤ) ∧ (m : ℤ) < 2 ^ w := by
    rw [strtoul_numeral hm, Nat.cast_inj, cast_unsigned_iff hw]
    exact ⟨fun hlt => ⟨Int.natCast_nonneg m, by exact_mod_cast hlt⟩,
      fun hlt => by exact_mod_cast hlt.2⟩
  have hsigned (hs : SignedNumeral v n) : (atoi v).toInt = n ↔ -2 ^ 31 ≤ n ∧ n < 2 ^ 31 := by
    rw [atoi, strtol_numeral hs, cast_signed_iff]
  cases k with
  | vendorId =>
    obtain ⟨m, rfl, hm⟩ := h
    exact hunsigned hm (by norm_num)
  | deviceId =>
    obtain ⟨m, rfl, hm⟩ := h
    exact hunsigned hm (by norm_num)
  | tickUs =>
    obtain ⟨m, rfl, hm⟩ := h
    exact hunsigned hm (by norm_num)
  | logLevel => exact hsigned h
  | rtPriority => exact hsigned h
  | isolateCpu => exact hsigned h

theorem stored_inRange (cfg : AppConfig) (k : NumericKey) : k.InRange (stored cfg k) := by
  have hunsigned {w n : ℕ} (h : n < 2 ^ w) : (0 : ℤ) ≤ n ∧ (n : ℤ) < 2 ^ w :=
    ⟨Int.natCast_nonneg n, by exact_mod_cast h⟩
  cases k with
  | vendorId => exact hunsigned cfg.device.vendorId.toNat_lt
  | deviceId => exact hunsigned cfg.device.deviceId.toNat_lt
  | tickUs => exact hunsigned cfg.device.tickUs.toNat_lt
  | logLevel => exact ⟨Int32.le_toInt _, Int32.toInt_lt _⟩
  | rtPriority => exact ⟨Int32.le_toInt _, Int32.toInt_lt _⟩
  | isolateCpu => exact ⟨Int32.le_toInt _, Int32.toInt_lt _⟩

theorem stored_applyKv (cfg : AppConfig) (k : NumericKey) (v : Text) :
    stored (applyKv cfg k.key.name v) k = read v k := by
  rw [applyKv, ofText_name]
  cases k <;> rfl

/-- The field is the number that the value is as a whole. -/
def Spelled (k : NumericKey) (v : Text) (cfg : AppConfig) : Prop :=
  ∃ n, k.Numeral v n ∧ stored cfg k = n

def Fits (k : NumericKey) (v : Text) : Prop := ∃ n, k.Numeral v n ∧ k.InRange n

theorem Spelled.fits {k : NumericKey} {v : Text} {cfg : AppConfig} (h : Spelled k v cfg) :
    Fits k v := by
  obtain ⟨n, hn, hstored⟩ := h
  exact ⟨n, hn, hstored ▸ stored_inRange cfg k⟩

theorem spelled_of_stored {k : NumericKey} {v : Text} {cfg : AppConfig}
    (h : stored cfg k = read v k) : Spelled k v cfg ↔ Fits k v := by
  rw [Spelled, h]
  exact exists_congr fun n => and_congr_right fun hn => read_eq_iff hn

theorem settled_of_last {k : Key} {v : Text} {ps : List (Text × Text)}
    (h : lastValue k ps = some v) : settled k ps = reading v k := by
  rw [settled, h]
  rfl

theorem stored_of_settled {k : NumericKey} {v file : Text} (old : AppConfig) (path : Text)
    (h : settled k.key (assignments file) = reading v k.key) :
    stored (appConfigLoad old path (some file)).2 k = read v k := by
  rw [appConfigLoad_eq]
  exact stored_of_setting ((setting_assigned _ _ _).trans h)

end NumericKey

open NumericKey

/-- Whatever a value is, `apply_kv` stores the number that it spells exactly when it is a
numeral as a whole and the field has room for its number, and so does the loader with the
last value it finds in a file. That is the value of the last line of the key, unless the
pieces of a long line set the key to something else. -/
theorem numeric_setting_iff (k : NumericKey) (v : Text) :
    (∀ cfg, Spelled k v (applyKv cfg k.key.name v) ↔ Fits k v) ∧
    ∀ old path file,
      let cfg := (appConfigLoad old path (some file)).2
      (lastValue k.key (assignments file) = some v → (Spelled k v cfg ↔ Fits k v)) ∧
      (nul ∉ file → lastValue k.key (referenceAssignments file) = some v →
        (Spelled k v cfg → Fits k v) ∧
        ((∀ l ∈ file.splitOn lf, 511 < l.length →
          pieceReading k.key l = lineReading k.key l) → (Spelled k v cfg ↔ Fits k v))) := by
  refine ⟨fun cfg => spelled_of_stored (stored_applyKv cfg k v), ?_⟩
  intro old path file cfg
  refine ⟨fun hlast => ?_, fun hnul hlast => ⟨Spelled.fits, fun hlong => ?_⟩⟩
  · exact spelled_of_stored (stored_of_settled old path (settled_of_last hlast))
  · have hsettled := (settled_of_lines hnul hlong).trans (settled_of_last hlast)
    exact spelled_of_stored (stored_of_settled old path hsettled)

theorem numeric_setting_iff_hex :
    let file := ascii "vendor_id = 0x0493"
    Spelled .vendorId (ascii "0x0493") (appConfigLoad appConfigDefault [] (some file)).2 := by
  intro file
  have hlines : file.splitOn lf = [file] := List.splitOn_eq_singleton (by decide)
  have hlast : lastValue .vendorId (referenceAssignments file) = some (ascii "0x0493") := by
    rw [referenceAssignments, hlines]
    decide
  have hfile := (numeric_setting_iff .vendorId (ascii "0x0493")).2 appConfigDefault [] file
  refine ((hfile.2 (by decide) hlast).2 ?_).mpr ⟨0x0493, ⟨0x0493, rfl, ?_⟩, by decide, by decide⟩
  · intro l hl hlong
    rw [hlines, List.mem_singleton] at hl
    subst hl
    exact absurd hlong (by decide)
  · exact UnsignedNumeral.hex (Or.inl rfl : (120 : Byte) = 120 ∨ _)
      (by decide : ascii "0493" ≠ []) (by decide)

theorem vendor_id_wraps :
    let file := ascii "vendor_id = 65537"
    let cfg := (appConfigLoad appConfigDefault [] (some file)).2
    nul ∉ file ∧ lastValue .vendorId (referenceAssignments file) = some (ascii "65537") ∧
      (appConfigLoad appConfigDefault [] (some file)).1 = 0 ∧ appConfigValidate cfg = 0 ∧
      stored cfg .vendorId = 1 ∧ ¬ Spelled .vendorId (ascii "65537") cfg := by
  intro file cfg
  have hstored : stored cfg .vendorId = 1 := by decide
  have hlast : lastValue .vendorId (referenceAssignments file) = some (ascii "65537") := by
    rw [referenceAssignments, List.splitOn_eq_singleton (by decide : lf ∉ file)]
    decide
  refine ⟨by decide, hlast, by decide, by decide, hstored, fun h => ?_⟩
  obtain ⟨n, hn, heq⟩ := h
  obtain ⟨m, rfl, hm⟩ := hn
  have hread := strtoul_numeral hm
  have htext : strtoul (ascii "65537") = 65537 := by decide
  rw [htext, ulongMax] at hread
  omega

end PnetManager.NumericValues
