import PnetManager.PhysicalLines

/-!
# Saving and loading a configuration

Every value is printed as a text that the loading loop reads back as one
assignment, and every field parses to what it was printed from.
-/

namespace PnetManager.ConfigRoundTrip
open CText CNumber CStdio Word32 NetworkConfig ConfigFile PhysicalLines

set_option maxRecDepth 2000

/-- A text that a line of the file hands over as it is. -/
structure PlainText (t : Text) : Prop where
  ne_nil : t ≠ []
  trimmed : Trimmed t
  no_nul : nul ∉ t
  no_cr : cr ∉ t
  no_lf : lf ∉ t

instance (t : Text) : Decidable (Trimmed t) :=
  decidable_of_iff (t.head?.all (!isspace ·) ∧ t.getLast?.all (!isspace ·))
    (by simp [Trimmed, Option.all_eq_true])

theorem graphic_of_all {t : Text} (h : t.all fun b => !isspace b && b != nul) :
    ∀ b ∈ t, isspace b = false ∧ b ≠ nul := by
  simpa using h

theorem plainText_of_graphic {t : Text} (hne : t ≠ [])
    (h : ∀ b ∈ t, isspace b = false ∧ b ≠ nul) : PlainText t where
  ne_nil := hne
  trimmed := ⟨fun b hb => (h b (List.mem_of_mem_head? hb)).1,
    fun b hb => (h b (List.mem_of_getLast? hb)).1⟩
  no_nul := fun hm => (h nul hm).2 rfl
  no_cr := fun hm => absurd (h cr hm).1 (by decide)
  no_lf := fun hm => absurd (h lf hm).1 (by decide)

structure LineText (t : Text) : Prop where
  not_blank : trim t ≠ []
  no_nul : nul ∉ t
  no_cr : cr ∉ t
  no_lf : lf ∉ t

theorem PlainText.lineText {t : Text} (h : PlainText t) : LineText t :=
  ⟨by rw [h.trimmed.trim_eq]; exact h.ne_nil, h.no_nul, h.no_cr, h.no_lf⟩

structure IsOctet (t : Text) (o : Byte) : Prop where
  ne_nil : t ≠ []
  digits : ∀ b ∈ t, isDigitOf 10 b = true
  value : valueOf 10 t = o.toNat

theorem isOctet_fmtU {n : ℕ} (h : n < 256) : IsOctet (fmtU n) (UInt8.ofNat n) where
  ne_nil := fmtU_ne_nil n
  digits := fmtU_digits n
  value := by simp [valueOf_fmtU, Nat.mod_eq_of_lt h]

theorem IsOctet.scan {t rest : Text} {o : Byte} (h : IsOctet t o)
    (hrest : ∀ b ∈ rest.head?, isDigitOf 10 b = false) :
    scanU (t ++ rest) = some (o.toUInt32, rest) := by
  have ho := o.toNat_lt
  have hcast : UInt32.ofNat o.toNat = o.toUInt32 := by
    apply UInt32.toNat_inj.mp
    simp only [UInt32.toNat_ofNat', UInt8.toNat_toUInt32]
    omega
  rw [scanU_digits h.ne_nil h.digits hrest (by rw [h.value, ulongMax]; omega), h.value, hcast]

def dotted (a b c d : Text) : Text := a ++ 46 :: (b ++ 46 :: (c ++ 46 :: d))

theorem parseIp_dotted {ta tb tc td : Text} {a b c d : Byte} (ha : IsOctet ta a)
    (hb : IsOctet tb b) (hc : IsOctet tc c) (hd : IsOctet td d) :
    parseIp (dotted ta tb tc td) = ofOctets a b c d := by
  have hdot (s : Text) : ∀ x ∈ (46 :: s : Text).head?, isDigitOf 10 x = false := by
    intro x hx
    obtain rfl : 46 = x := by simpa using hx
    decide
  have h4 : scanU td = some (d.toUInt32, []) := by
    have hend := hd.scan (t := td) (by simp : ∀ b ∈ ([] : Text).head?, isDigitOf 10 b = false)
    rwa [List.append_nil] at hend
  have hscan : scanQuad (dotted ta tb tc td) =
      some (a.toUInt32, b.toUInt32, c.toUInt32, d.toUInt32) := by
    simp only [scanQuad, dotted, ha.scan (hdot _), Option.bind_eq_bind, Option.bind_some,
      scanChar, if_true, hb.scan (hdot _), hc.scan (hdot _), h4]
    rfl
  have hle (x : Byte) : ¬ 255 < x.toUInt32 := by
    have hx := x.toNat_lt
    rw [UInt32.lt_iff_toNat_lt]
    simp only [UInt32.reduceToNat, UInt8.toNat_toUInt32]
    omega
  simp only [parseIp, hscan, hle, or_self, if_false]
  rfl

theorem fmtU_field_length (v k : UInt32) : (fmtU (field v k).toNat).length ≤ 3 :=
  fmtU_length_le (by norm_num) (by have h := toNat_field_lt v k; omega)

theorem formatIp_eq (ip : UInt32) :
    formatIp ip = dotted (fmtU (field ip 24).toNat) (fmtU (field ip 16).toNat)
      (fmtU (field ip 8).toNat) (fmtU (field ip 0).toNat) := by
  have h1 := fmtU_field_length ip 24
  have h2 := fmtU_field_length ip 16
  have h3 := fmtU_field_length ip 8
  have h4 := fmtU_field_length ip 0
  apply List.take_of_length_le
  simp only [fmtQuad, List.length_append, List.length_cons]
  omega

theorem parseIp_formatIp (ip : UInt32) : parseIp (formatIp ip) = ip := by
  have hoct (k : UInt32) : IsOctet (fmtU (field ip k).toNat) (field ip k).toUInt8 := by
    simpa using isOctet_fmtU (toNat_field_lt ip k)
  rw [formatIp_eq, parseIp_dotted (hoct 24) (hoct 16) (hoct 8) (hoct 0), ofOctets]
  simp only [field_toUInt8_toUInt32, quad_fields]

theorem parseBool_formatBool (b : Bool) : parseBool (formatBool b) = b := by
  cases b <;> decide

theorem graphic_digit {base : ℕ} (hbase : base ≤ 36) {b : Byte} (h : isDigitOf base b = true) :
    isspace b = false ∧ b ≠ nul := by
  refine ⟨isspace_of_digit hbase h, fun he => ?_⟩
  have hb := digit_lower hbase h
  simp [he] at hb

theorem formatBool_plain (b : Bool) : PlainText (formatBool b) :=
  plainText_of_graphic (by cases b <;> decide) (graphic_of_all (by cases b <;> decide))

theorem fmtU_plain (n : ℕ) : PlainText (fmtU n) :=
  plainText_of_graphic (fmtU_ne_nil n) fun b hb => graphic_digit (by norm_num) (fmtU_digits n b hb)

theorem fmtD_plain (i : ℤ) : PlainText (fmtD i) := by
  have hdig : ∀ b ∈ fmtU i.natAbs, isspace b = false ∧ b ≠ nul := fun b hb =>
    graphic_digit (by norm_num) (fmtU_digits _ b hb)
  rw [fmtD]
  split_ifs
  · refine plainText_of_graphic (by simp) fun b hb => ?_
    rcases List.mem_cons.mp hb with rfl | hb
    · decide
    · exact hdig b hb
  · exact plainText_of_graphic (fmtU_ne_nil _) hdig

theorem hex_plain (n : ℕ) : PlainText (48 :: 120 :: fmtX4 n) := by
  refine plainText_of_graphic (by simp) fun b hb => ?_
  rcases List.mem_cons.mp hb with rfl | hb
  · decide
  rcases List.mem_cons.mp hb with rfl | hb
  · decide
  · exact graphic_digit (by norm_num) (fmtX4_digits n b hb)

theorem formatIp_plain (ip : UInt32) : PlainText (formatIp ip) := by
  rw [formatIp_eq]
  refine plainText_of_graphic (by simp [dotted]) fun b hb => ?_
  have hdig (n : ℕ) (h : b ∈ fmtU n) : isspace b = false ∧ b ≠ nul :=
    graphic_digit (by norm_num) (fmtU_digits n b h)
  simp only [dotted, List.mem_append, List.mem_cons] at hb
  rcases hb with h | rfl | h | rfl | h | rfl | h
  · exact hdig _ h
  · decide
  · exact hdig _ h
  · decide
  · exact hdig _ h
  · decide
  · exact hdig _ h

inductive Kind
  | text
  | boolean
  | number
  | address
deriving DecidableEq

def kindOf : Key → Kind
  | .productName | .stationName | .interface | .fileDirectory | .logFile => .text
  | .ipAddr | .netmask | .gateway => .address
  | .vendorId | .deviceId | .tickUs | .logLevel | .rtPriority | .isolateCpu => .number
  | .sendHello | .securityEnabled | .realtimeEnabled | .rtScheduling | .lockMemory => .boolean

variable {cfg : AppConfig}

theorem print_value_plain {k : Key} (hk : kindOf k ≠ .text) : PlainText (k.print cfg) := by
  cases k with
  | ipAddr => exact formatIp_plain _
  | netmask => exact formatIp_plain _
  | gateway => exact formatIp_plain _
  | vendorId => exact hex_plain _
  | deviceId => exact hex_plain _
  | tickUs => exact fmtU_plain _
  | sendHello => exact formatBool_plain _
  | logLevel => exact fmtD_plain _
  | securityEnabled => exact formatBool_plain _
  | realtimeEnabled => exact formatBool_plain _
  | rtPriority => exact fmtD_plain _
  | rtScheduling => exact formatBool_plain _
  | lockMemory => exact formatBool_plain _
  | isolateCpu => exact fmtD_plain _
  | _ => exact absurd rfl hk

theorem formatBool_length (b : Bool) : (formatBool b).length ≤ 5 := by
  cases b <;> decide

theorem fmtX4_length (v : UInt16) : (fmtX4 v.toNat).length ≤ 4 := by
  have hv := v.toNat_lt
  have hl : (numeral hexDigit 16 v.toNat).length ≤ 4 :=
    numeral_length_le (by norm_num) (by norm_num) (by omega)
  simp only [fmtX4, List.length_append, List.length_replicate]
  omega

theorem formatIp_length (ip : UInt32) : (formatIp ip).length ≤ 15 := List.length_take_le _ _

theorem print_value_length {k : Key} (hk : kindOf k ≠ .text) : (k.print cfg).length < 256 := by
  have hb (b : Bool) : (formatBool b).length < 256 := (formatBool_length b).trans_lt (by norm_num)
  have hd (i : Int32) : (fmtD i.toInt).length < 256 := (fmtD_length i).trans_lt (by norm_num)
  have hx (v : UInt16) : (48 :: 120 :: fmtX4 v.toNat : Text).length < 256 := by
    have hl := fmtX4_length v
    simp only [List.length_cons]
    omega
  have hip (ip : UInt32) : (formatIp ip).length < 256 := (formatIp_length ip).trans_lt (by norm_num)
  cases k with
  | ipAddr => exact hip _
  | netmask => exact hip _
  | gateway => exact hip _
  | vendorId => exact hx _
  | deviceId => exact hx _
  | tickUs =>
    have ht := cfg.device.tickUs.toNat_lt
    have hl : (fmtU cfg.device.tickUs.toNat).length ≤ 10 :=
      fmtU_length_le (by norm_num) (by omega)
    exact hl.trans_lt (by norm_num)
  | sendHello => exact hb _
  | logLevel => exact hd _
  | securityEnabled => exact hb _
  | realtimeEnabled => exact hb _
  | rtPriority => exact hd _
  | rtScheduling => exact hb _
  | lockMemory => exact hb _
  | isolateCpu => exact hd _
  | _ => exact absurd rfl hk

structure PlainArray {n : ℕ} (a : CharArray n) : Prop where
  terminated : a.Terminated
  ne_nil : a.text ≠ []
  trimmed : Trimmed a.text
  no_cr : cr ∉ a.text
  no_lf : lf ∉ a.text

theorem PlainArray.plainText {n : ℕ} {a : CharArray n} (h : PlainArray a) : PlainText a.text :=
  ⟨h.ne_nil, h.trimmed, a.nul_not_mem_text, h.no_cr, h.no_lf⟩

/-- The five text fields that have a key are plain. -/
structure Savable (cfg : AppConfig) : Prop where
  productName : PlainArray cfg.device.productName
  stationName : PlainArray cfg.device.stationName
  interfaceName : PlainArray cfg.device.interfaceName
  fileDirectory : PlainArray cfg.device.fileDirectory
  logFile : PlainArray cfg.logFile

theorem print_plain (h : Savable cfg) (k : Key) : PlainText (k.print cfg) := by
  cases k with
  | productName => exact h.productName.plainText
  | stationName => exact h.stationName.plainText
  | interface => exact h.interfaceName.plainText
  | fileDirectory => exact h.fileDirectory.plainText
  | logFile => exact h.logFile.plainText
  | _ => exact print_value_plain (by decide)

structure Printable (cfg : AppConfig) : Prop where
  lineText : ∀ k : Key, LineText (k.print cfg)
  short : ∀ k : Key, (k.print cfg).length < 256

theorem Savable.printable (h : Savable cfg) : Printable cfg where
  lineText k := (print_plain h k).lineText
  short k := by
    cases k with
    | productName => exact h.productName.terminated.length_lt.trans (by norm_num)
    | stationName => exact h.stationName.terminated.length_lt.trans (by norm_num)
    | interface => exact h.interfaceName.terminated.length_lt.trans (by norm_num)
    | fileDirectory => exact h.fileDirectory.terminated.length_lt.trans (by norm_num)
    | logFile => exact h.logFile.terminated.length_lt
    | _ => exact print_value_length (by decide)

theorem name_plain (k : Key) : PlainText k.name :=
  plainText_of_graphic (by cases k <;> decide) (graphic_of_all (by cases k <;> decide))

theorem name_length (k : Key) : k.name.length ≤ 16 := by
  cases k <;> decide

theorem name_is_key (k : Key) : 61 ∉ k.name ∧ ∀ b ∈ k.name.head?, b ≠ 35 ∧ b ≠ 59 := by
  have hhead : k.name.head?.all fun b => b != 35 && b != 59 := by
    cases k <;> decide
  exact ⟨by cases k <;> decide, by simpa [Option.all_eq_true] using hhead⟩

theorem ofText_name (k : Key) : Key.ofText k.name = some k := by
  cases k <;> decide

theorem name_opensKey (k : Key) : OpensKey k.name k.name where
  clean _ hb :=
    ⟨fun he => (name_plain k).no_nul (he ▸ hb), fun he => (name_plain k).no_cr (he ▸ hb),
      fun he => (name_plain k).no_lf (he ▸ hb), fun he => (name_is_key k).1 (he ▸ hb)⟩
  trimmed := (name_plain k).trimmed.trim_eq
  ne_nil := (name_plain k).ne_nil
  no_comment := (name_is_key k).2

theorem splitLine_line (h : Printable cfg) (k : Key) :
    splitLine (k.line cfg ++ [lf]) = some (k.name, trim (k.print cfg)) := by
  obtain ⟨hblank, hnul, hcr, hlf⟩ := h.lineText k
  rw [splitLine_lf, Key.line, splitLine_opensKey (name_opensKey k), cutLine_of_clean hnul hcr hlf,
    if_neg hblank]

theorem line_fits (h : Printable cfg) (k : Key) :
    lf ∉ k.line cfg ∧ (k.line cfg).length + 2 ≤ 512 := by
  have hn := name_length k
  have hp := h.short k
  have heq : lf ≠ 61 := by decide
  refine ⟨by simp [Key.line, (name_plain k).no_lf, (h.lineText k).no_lf, heq], ?_⟩
  simp only [Key.line, List.length_append, List.length_cons]
  omega

def saveComments : List Text :=
  [ascii "# p-net IO Device Manager Configuration", ascii "# Auto-generated - edit with care", [],
   ascii "# IO Device", ascii "# Logging", ascii "# Security", ascii "# Real-time"]

theorem comment_fits : ∀ l ∈ saveComments, lf ∉ l ∧ l.length + 2 ≤ 512 := by
  decide

theorem splitLine_comment : ∀ l ∈ saveComments, splitLine (l ++ [lf]) = none := by
  decide

theorem mem_saveLines {l : Text} (hl : l ∈ saveLines cfg) :
    l ∈ saveComments ∨ ∃ k : Key, l = k.line cfg := by
  simp only [saveLines, List.mem_cons, List.not_mem_nil, or_false] at hl
  simp only [saveComments, List.mem_cons, List.not_mem_nil, or_false]
  grind

theorem assignments_saved (h : Printable cfg) :
    assignments ((saveLines cfg).flatMap fun l => l ++ [lf]) =
      Key.all.map fun k => (k.name, trim (k.print cfg)) := by
  have hfits : ∀ l ∈ saveLines cfg, lf ∉ l ∧ l.length + 2 ≤ 512 := by
    intro l hl
    rcases mem_saveLines hl with hc | ⟨k, rfl⟩
    · exact comment_fits l hc
    · exact line_fits h k
  have hcom := splitLine_comment
  simp only [saveComments, List.forall_mem_cons, List.not_mem_nil, false_imp_iff, implies_true,
    and_true] at hcom
  obtain ⟨h1, h2, h3, h4, h5, h6, h7⟩ := hcom
  rw [assignments, fgetsAll_lines _ hfits]
  simp only [saveLines, List.map_cons, List.map_nil, List.filterMap_cons, List.filterMap_nil,
    h1, h2, h3, h4, h5, h6, h7, splitLine_line h, Key.all]

theorem zeroed_strncpy_capped {n : ℕ} (hn : 0 < n) (src : Text) :
    ((CharArray.zeroed n).strncpy src (n - 1)).Capped := by
  rw [CharArray.strncpy_capped (CharArray.zeroed_capped hn)]
  exact CharArray.ofText_capped hn src

theorem strncpy_text {n : ℕ} {a : CharArray n} (ha : a.Terminated) {dst : CharArray n}
    (hdst : dst.Capped) : (dst.strncpy a.text (n - 1)).text = a.text := by
  have hlt := ha.length_lt
  rw [CharArray.strncpy_capped hdst]
  exact CharArray.ofText_text_of_fits a.nul_not_mem_text (by omega)

structure SameSettings (a b : AppConfig) : Prop where
  productName : a.device.productName.text = b.device.productName.text
  stationName : a.device.stationName.text = b.device.stationName.text
  interfaceName : a.device.interfaceName.text = b.device.interfaceName.text
  ipAddr : a.device.ipAddr = b.device.ipAddr
  netmask : a.device.netmask = b.device.netmask
  gateway : a.device.gateway = b.device.gateway
  vendorId : a.device.vendorId = b.device.vendorId
  deviceId : a.device.deviceId = b.device.deviceId
  tickUs : a.device.tickUs = b.device.tickUs
  sendHello : a.device.sendHello = b.device.sendHello
  fileDirectory : a.device.fileDirectory.text = b.device.fileDirectory.text
  logLevel : a.logLevel = b.logLevel
  logFile : a.logFile.text = b.logFile.text
  securityEnabled : a.securityEnabled = b.securityEnabled
  realtimeEnabled : a.realtimeEnabled = b.realtimeEnabled
  rtPriority : a.realtime.rtPriority = b.realtime.rtPriority
  useRtScheduling : a.realtime.useRtScheduling = b.realtime.useRtScheduling
  lockMemory : a.realtime.lockMemory = b.realtime.lockMemory
  isolateCpu : a.realtime.isolateCpu = b.realtime.isolateCpu

structure NetworkMirrors (cfg : AppConfig) : Prop where
  ifName : cfg.network.ifName.text = cfg.device.interfaceName.text
  ipAddr : cfg.network.ipAddr = cfg.device.ipAddr
  netmask : cfg.network.netmask = cfg.device.netmask
  gateway : cfg.network.gateway = cfg.device.gateway

def reapplied (base cfg : AppConfig) : AppConfig :=
  Key.all.foldl (fun c k => k.apply c (k.print cfg)) base

theorem foldl_applyKv_names (base cfg : AppConfig) :
    (Key.all.map fun k => (k.name, k.print cfg)).foldl (fun c p => applyKv c p.1 p.2) base =
      reapplied base cfg := by
  rw [List.foldl_map, reapplied]
  refine congrArg (fun f => Key.all.foldl f base) (funext₂ fun c k => ?_)
  rw [applyKv, ofText_name]

theorem parse_fmtX4 (v : UInt16) : UInt16.ofNat (strtoul (48 :: 120 :: fmtX4 v.toNat)) = v := by
  have hv := v.toNat_lt
  rw [strtoul_hex (by unfold ulongMax; omega), UInt16.ofNat_toNat]

theorem parse_fmtU (v : UInt32) : UInt32.ofNat (strtoul (fmtU v.toNat)) = v := by
  have hv := v.toNat_lt
  rw [strtoul_fmtU (by unfold ulongMax; omega), UInt32.ofNat_toNat]

theorem reapplied_same (h : Savable cfg) (path : Text) :
    SameSettings cfg (reapplied { appConfigDefault with
      configFile := appConfigDefault.configFile.strncpy path 255 } cfg) where
  productName := (strncpy_text h.productName.terminated
    (zeroed_strncpy_capped (by norm_num) _)).symm
  stationName := (strncpy_text h.stationName.terminated
    (zeroed_strncpy_capped (by norm_num) _)).symm
  interfaceName := (strncpy_text h.interfaceName.terminated
    (zeroed_strncpy_capped (by norm_num) _)).symm
  ipAddr := (parseIp_formatIp _).symm
  netmask := (parseIp_formatIp _).symm
  gateway := (parseIp_formatIp _).symm
  vendorId := (parse_fmtX4 _).symm
  deviceId := (parse_fmtX4 _).symm
  tickUs := (parse_fmtU _).symm
  sendHello := (parseBool_formatBool _).symm
  fileDirectory := (strncpy_text h.fileDirectory.terminated
    (zeroed_strncpy_capped (by norm_num) _)).symm
  logLevel := (atoi_fmtD _).symm
  logFile := (strncpy_text h.logFile.terminated (zeroed_strncpy_capped (by norm_num) _)).symm
  securityEnabled := (parseBool_formatBool _).symm
  realtimeEnabled := (parseBool_formatBool _).symm
  rtPriority := (atoi_fmtD _).symm
  useRtScheduling := (parseBool_formatBool _).symm
  lockMemory := (parseBool_formatBool _).symm
  isolateCpu := (atoi_fmtD _).symm

theorem reapplied_mirrors (h : Savable cfg) (path : Text) :
    NetworkMirrors (reapplied { appConfigDefault with
      configFile := appConfigDefault.configFile.strncpy path 255 } cfg) where
  ifName := (strncpy_text h.interfaceName.terminated
    (zeroed_strncpy_capped (by norm_num) _)).trans
      (strncpy_text h.interfaceName.terminated (zeroed_strncpy_capped (by norm_num) _)).symm
  ipAddr := rfl
  netmask := rfl
  gateway := rfl

/-- Loading what was saved gives back every field that has a key, and the network
settings follow the device. -/
theorem load_save (cfg old : AppConfig) (h : Savable cfg) (path : Text) (file : Option Text) :
    let saved := appConfigSave cfg true file
    let loaded := appConfigLoad old path saved.2
    saved.1 = 0 ∧ loaded.1 = 0 ∧ SameSettings cfg loaded.2 ∧ NetworkMirrors loaded.2 := by
  have hload := appConfigLoad_assignments old path ((saveLines cfg).flatMap fun l => l ++ [lf])
  have htrim : (fun k : Key => (k.name, trim (k.print cfg))) = fun k => (k.name, k.print cfg) :=
    funext fun k => by rw [(print_plain h k).trimmed.trim_eq]
  rw [assignments_saved h.printable, htrim, foldl_applyKv_names] at hload
  simp only [appConfigSave, if_true, hload]
  exact ⟨trivial, trivial, reapplied_same h path, reapplied_mirrors h path⟩

instance {n : ℕ} (a : CharArray n) : Decidable (PlainArray a) :=
  decidable_of_iff (a.Terminated ∧ a.text ≠ [] ∧ Trimmed a.text ∧ cr ∉ a.text ∧ lf ∉ a.text)
    ⟨fun ⟨h1, h2, h3, h4, h5⟩ => ⟨h1, h2, h3, h4, h5⟩,
      fun ⟨h1, h2, h3, h4, h5⟩ => ⟨h1, h2, h3, h4, h5⟩⟩

def pressConfig : AppConfig :=
  { appConfigDefault with
    device :=
      { appConfigDefault.device with
        productName := .ofText 26 (ascii "# 3 = left press")
        stationName := .ofText 241 (ascii "press; hall = 2 # left")
        interfaceName := .ofText 16 (ascii "enp3s0")
        ipAddr := 0x0A000003
        netmask := 0xFF000000
        gateway := 0
        vendorId := 0x0493
        deviceId := 0xFFFF
        tickUs := 500
        sendHello := false
        fileDirectory := .ofText 240 (ascii "/srv/press data/a=b") }
    logLevel := -1
    logFile := .ofText 256 (ascii "/var/log/press = 3.log")
    securityEnabled := false
    realtime := ⟨false, 50, false, true, 2, true⟩
    realtimeEnabled := false }

theorem load_save_press :
    let loaded := (appConfigLoad appConfigDefault (ascii "pnet.conf")
      (appConfigSave pressConfig true none).2).2
    SameSettings pressConfig loaded ∧ NetworkMirrors loaded :=
  (load_save pressConfig appConfigDefault ⟨by decide, by decide, by decide, by decide, by decide⟩
    (ascii "pnet.conf") none).2.2

end PnetManager.ConfigRoundTrip
