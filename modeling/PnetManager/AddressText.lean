import PnetManager.ByteOrder
import PnetManager.RuleMeaning

/-!
# Addresses as text

`net_ip_from_string`, `net_ip_to_string` and `net_ip_is_valid`. The C library reads an
address in one spelling only, the one that it prints.
-/

namespace PnetManager.AddressText
open CText CNumber Word32 ConfigFile ConfigRoundTrip FirewallScript ByteOrder

/-- Inside the loop of `inet_pton(AF_INET, …)`: the octets in front of the last dot,
and the one that is being read, if a digit of it was seen. -/
structure Pton where
  octets : List Byte
  current : Option Byte

def Pton.digit (s : Pton) (d : ℕ) : Option Pton :=
  let tp := (s.current.getD 0).toNat
  let new := tp * 10 + d
  -- a zero is not followed by another digit
  if s.current.isSome ∧ tp = 0 then none
  else if 255 < new then none
  else if s.current = none ∧ 4 < s.octets.length + 1 then none
  else some ⟨s.octets, some (UInt8.ofNat new)⟩

def Pton.dot (s : Pton) : Option Pton :=
  s.current.bind fun v => if s.octets.length + 1 = 4 then none else some ⟨s.octets ++ [v], none⟩

def Pton.read (s : Pton) (ch : Byte) : Option Pton :=
  if isDigitOf 10 ch then s.digit (digitVal ch) else if ch = 46 then s.dot else none

def inetPton (src : Text) : Option UInt32 :=
  (src.foldlM Pton.read ⟨[], none⟩).bind fun s =>
    match s.octets ++ s.current.toList with
    | [a, b, c, d] => some (ofOctets d c b a)
    | _ => none

def netIpFromString (str : Text) : UInt32 := (inetPton str).getD 0

def writeNul {n : ℕ} (a : CharArray n) (i : ℕ) : CharArray n :=
  ⟨a.bytes.set i nul, by rw [List.length_set, a.size_eq]⟩

/-- `net_ip_to_string` into a buffer of `n` bytes; `inet_ntop` gets the size as a
`socklen_t`. -/
def netIpToString {n : ℕ} (ip : UInt32) (buf : CharArray n) : CharArray n :=
  if n = 0 then buf
  else if n % 2 ^ 32 ≤ (inetNtop ip).length then
    writeNul (buf.strncpy (ascii "0.0.0.0") n) (n - 1)
  else buf.memcpy (inetNtop ip ++ [nul])

def netIpIsValid (ip : UInt32) : Bool :=
  let hostIp := htonl ip
  if hostIp = 0 then false
  else if hostIp = 0xFFFFFFFF then false
  else if hostIp &&& 0xFF000000 = 0 then false
  else if hostIp &&& 0xF0000000 = 0xF0000000 then false
  else true

theorem fmtU_digit {d : ℕ} (hd : d < 10) : fmtU d = [decDigit d] := by
  rw [fmtU, numeral]
  split_ifs with hzero
  · rw [hzero]
  · rw [Nat.digits_of_lt 10 d hzero hd]
    rfl

theorem fmtU_snoc {q d : ℕ} (hq : 0 < q) (hd : d < 10) :
    fmtU (q * 10 + d) = fmtU q ++ [decDigit d] := by
  have hdigits : Nat.digits 10 (q * 10 + d) = d :: Nat.digits 10 q := by
    rw [Nat.add_comm, Nat.mul_comm]
    exact Nat.digits_add 10 (by norm_num) d q hd (Or.inr hq.ne')
  rw [fmtU, fmtU, numeral, numeral, if_neg (by omega), if_neg hq.ne', hdigits]
  simp

theorem decDigit_digitVal {ch : Byte} (h : isDigitOf 10 ch = true) :
    decDigit (digitVal ch) = ch := by
  have hb := digit_bounds h
  have hrange : 48 ≤ ch ∧ ch ≤ 57 := by
    rw [UInt8.le_iff_toNat_le, UInt8.le_iff_toNat_le]
    exact hb
  apply UInt8.toNat_inj.mp
  rw [decDigit, digitVal, if_pos hrange, UInt8.toNat_ofNat']
  omega

theorem isDigitOf_decDigit {d : ℕ} (hd : d < 10) : isDigitOf 10 (decDigit d) = true :=
  fmtU_digits d _ (by simp [fmtU_digit hd])

def octetText (o : Byte) : Text := fmtU o.toNat

def Pton.consumed (s : Pton) : Text :=
  s.octets.flatMap (fun o => octetText o ++ [46]) ++ (s.current.map octetText).getD []

theorem Pton.digit_consumed {s s' : Pton} {d : ℕ} (hd : d < 10) (h : s.digit d = some s') :
    s'.octets = s.octets ∧ s'.consumed = s.consumed ++ [decDigit d] := by
  obtain ⟨octets, current⟩ := s
  rw [Pton.digit] at h
  dsimp only at h
  split_ifs at h with hzero hbig hcount
  obtain rfl := Option.some.inj h
  refine ⟨rfl, ?_⟩
  cases current with
  | none =>
    have hval : (UInt8.ofNat ((Option.getD none (0 : Byte)).toNat * 10 + d)).toNat = d := by
      simp
      omega
    simp only [Pton.consumed, octetText, Option.map_some, Option.map_none, Option.getD_some,
      Option.getD_none, List.append_nil] at hval ⊢
    rw [hval, fmtU_digit hd]
  | some v =>
    have hpos : 0 < v.toNat := by
      simp only [Option.isSome_some, Option.getD_some, true_and] at hzero
      exact Nat.pos_of_ne_zero hzero
    have hval : (UInt8.ofNat (v.toNat * 10 + d)).toNat = v.toNat * 10 + d := by
      simp only [Option.getD_some, not_lt] at hbig
      rw [UInt8.toNat_ofNat']
      omega
    simp only [Pton.consumed, octetText, Option.map_some, Option.getD_some, hval]
    rw [fmtU_snoc hpos hd, List.append_assoc]

theorem Pton.dot_consumed {s s' : Pton} (hs : s.octets.length ≤ 3) (h : s.dot = some s') :
    s'.octets.length ≤ 3 ∧ s'.consumed = s.consumed ++ [46] := by
  obtain ⟨v, hv, hdot⟩ := Option.bind_eq_some_iff.mp h
  split_ifs at hdot with hfour
  obtain rfl := Option.some.inj hdot
  refine ⟨?_, ?_⟩
  · rw [List.length_append, List.length_singleton]
    omega
  · simp [Pton.consumed, hv]

theorem Pton.read_consumed {s s' : Pton} {ch : Byte} (hs : s.octets.length ≤ 3)
    (h : s.read ch = some s') : s'.octets.length ≤ 3 ∧ s'.consumed = s.consumed ++ [ch] := by
  rw [Pton.read] at h
  split_ifs at h with hdigit hdot
  · have hval : digitVal ch < 10 := by simpa [isDigitOf] using hdigit
    obtain ⟨hsame, hconsumed⟩ := Pton.digit_consumed hval h
    rw [hsame, hconsumed, decDigit_digitVal hdigit]
    exact ⟨hs, rfl⟩
  · rw [hdot]
    exact Pton.dot_consumed hs h

theorem scan_consumed {src : Text} {s s' : Pton} (hs : s.octets.length ≤ 3)
    (h : src.foldlM Pton.read s = some s') :
    s'.octets.length ≤ 3 ∧ s'.consumed = s.consumed ++ src := by
  induction src generalizing s with
  | nil =>
    obtain rfl : s = s' := by simpa using h
    exact ⟨hs, (List.append_nil _).symm⟩
  | cons ch src ih =>
    rw [List.foldlM_cons] at h
    obtain ⟨t, hread, hrest⟩ := Option.bind_eq_some_iff.mp h
    obtain ⟨ht, hconsumed⟩ := Pton.read_consumed hs hread
    obtain ⟨hs', hrest'⟩ := ih ht hrest
    refine ⟨hs', ?_⟩
    rw [hrest', hconsumed, List.append_assoc, List.singleton_append]

theorem scan_octet {octets : List Byte} (h : octets.length ≤ 3) (o : Byte) :
    (octetText o).foldlM Pton.read ⟨octets, none⟩ = some ⟨octets, some o⟩ := by
  induction hn : o.toNat using Nat.strong_induction_on generalizing o with
  | h n ih =>
    have ho := o.toNat_lt
    have hread (s : Pton) {d : ℕ} (hd : d < 10) : s.read (decDigit d) = s.digit d := by
      have hval : digitVal (decDigit d) = d := by
        have hsame := valueOf_fmtU d
        simpa [fmtU_digit hd, valueOf, valueFrom] using hsame
      rw [Pton.read, if_pos (isDigitOf_decDigit hd), hval]
    by_cases hsmall : o.toNat < 10
    · have hcount : ¬ 4 < octets.length + 1 := by omega
      have hbig : ¬ 255 < o.toNat := by omega
      rw [octetText, fmtU_digit hsmall, List.foldlM_cons, hread _ hsmall, Pton.digit]
      simp [hcount, hbig]
    · have hq : (UInt8.ofNat (o.toNat / 10)).toNat = o.toNat / 10 := by
        rw [UInt8.toNat_ofNat']
        omega
      have hprefix := ih (o.toNat / 10) (by omega) (UInt8.ofNat (o.toNat / 10)) hq
      have hsplit : octetText o =
          octetText (UInt8.ofNat (o.toNat / 10)) ++ [decDigit (o.toNat % 10)] := by
        rw [octetText, octetText, hq, ← fmtU_snoc (by omega) (Nat.mod_lt _ (by norm_num))]
        congr 1
        omega
      have hnew : o.toNat / 10 * 10 + o.toNat % 10 = o.toNat := by omega
      have hne : ¬ o.toNat / 10 = 0 := by omega
      have hbig : ¬ 255 < o.toNat := by omega
      rw [hsplit, List.foldlM_append, hprefix]
      change List.foldlM Pton.read _ [_] = _
      rw [List.foldlM_cons, hread _ (Nat.mod_lt _ (by norm_num)), Pton.digit]
      simp [hq, hnew, hne, hbig]

theorem scan_octet_dot {octets : List Byte} (h : octets.length < 3) (o : Byte) (rest : Text) :
    (octetText o ++ 46 :: rest).foldlM Pton.read ⟨octets, none⟩ =
      rest.foldlM Pton.read ⟨octets ++ [o], none⟩ := by
  have hdot : Pton.read ⟨octets, some o⟩ 46 = some ⟨octets ++ [o], none⟩ := by
    have hdigit : isDigitOf 10 46 = false := by decide
    have hfour : ¬ octets.length + 1 = 4 := by omega
    simp [Pton.read, Pton.dot, hdigit, hfour]
  rw [List.foldlM_append, scan_octet h.le o]
  change List.foldlM Pton.read _ (46 :: rest) = _
  rw [List.foldlM_cons, hdot]
  rfl

theorem inetPton_dotted (a b c d : Byte) :
    inetPton (dotted (octetText a) (octetText b) (octetText c) (octetText d)) =
      some (ofOctets d c b a) := by
  have h1 := scan_octet_dot (show ([] : List Byte).length < 3 by simp) a
  have h2 := scan_octet_dot (show [a].length < 3 by simp) b
  have h3 := scan_octet_dot (show [a, b].length < 3 by simp) c
  have h4 := scan_octet (show [a, b, c].length ≤ 3 by simp) d
  simp only [List.nil_append, List.cons_append] at h1 h2 h3
  rw [inetPton, dotted, h1, h2, h3, h4]
  rfl

theorem inetPton_eq_some {s : Text} {v : UInt32} (h : inetPton s = some v) :
    ∃ a b c d : Byte, v = ofOctets d c b a ∧
      s = dotted (octetText a) (octetText b) (octetText c) (octetText d) := by
  obtain ⟨p, hscan, hend⟩ := Option.bind_eq_some_iff.mp h
  obtain ⟨hlength, hconsumed⟩ := scan_consumed (by simp) hscan
  obtain ⟨octets, current⟩ := p
  dsimp only at hend hlength
  split at hend
  · rename_i a b c d heq
    obtain rfl := Option.some.inj hend
    refine ⟨a, b, c, d, rfl, ?_⟩
    cases current with
    | none =>
      rw [Option.toList_none, List.append_nil] at heq
      rw [heq] at hlength
      simp at hlength
    | some o =>
      obtain ⟨rfl, rfl⟩ : octets = [a, b, c] ∧ o = d := by
        rw [Option.toList_some] at heq
        have hinj : octets = [a, b, c] ∧ [o] = [d] := List.append_inj' heq rfl
        simpa using hinj
      simp only [Pton.consumed, List.flatMap_nil, Option.map_none, Option.getD_none,
        List.append_nil, List.nil_append] at hconsumed
      rw [← hconsumed, dotted]
      simp
  · exact absurd hend (by simp)

theorem toNat_field_toUInt8 (v k : UInt32) : (field v k).toUInt8.toNat = (field v k).toNat := by
  simp [Nat.mod_eq_of_lt (toNat_field_lt v k)]

theorem inetNtop_ofOctets (a b c d : Byte) :
    inetNtop (ofOctets d c b a) =
      dotted (octetText a) (octetText b) (octetText c) (octetText d) := by
  obtain ⟨h24, h16, h8, h0⟩ := ofOctets_fields d c b a
  rw [inetNtop, fmtQuad, dotted, octetText, octetText, octetText, octetText]
  simp only [← toNat_field_toUInt8, h24, h16, h8, h0]

theorem exists_ofOctets (v : UInt32) : ∃ a b c d : Byte, v = ofOctets d c b a :=
  ⟨(field v 0).toUInt8, (field v 8).toUInt8, (field v 16).toUInt8, (field v 24).toUInt8, by
    simp only [ofOctets, field_toUInt8_toUInt32, quad_fields]⟩

theorem inetPton_eq_some_iff {s : Text} {v : UInt32} : inetPton s = some v ↔ s = inetNtop v := by
  constructor
  · intro h
    obtain ⟨a, b, c, d, rfl, rfl⟩ := inetPton_eq_some h
    exact (inetNtop_ofOctets a b c d).symm
  · intro h
    obtain ⟨a, b, c, d, rfl⟩ := exists_ofOctets v
    rw [h, inetNtop_ofOctets, inetPton_dotted]

theorem netIpFromString_inetNtop (v : UInt32) : netIpFromString (inetNtop v) = v := by
  rw [netIpFromString, inetPton_eq_some_iff.mpr rfl, Option.getD_some]

theorem netIpFromString_cases (s : Text) :
    netIpFromString s = 0 ∧ inetPton s = none ∨
      ∃ a b c d : Byte, s = dotted (octetText a) (octetText b) (octetText c) (octetText d) ∧
        netIpFromString s = ofOctets d c b a := by
  cases h : inetPton s with
  | none => exact Or.inl ⟨by rw [netIpFromString, h]; rfl, rfl⟩
  | some v =>
    obtain ⟨a, b, c, d, rfl, hs⟩ := inetPton_eq_some h
    exact Or.inr ⟨a, b, c, d, hs, by rw [netIpFromString, h]; rfl⟩

theorem inetNtop_length_le (v : UInt32) : (inetNtop v).length ≤ 15 := by
  have h1 := fmtU_field_length v 0
  have h2 := fmtU_field_length v 8
  have h3 := fmtU_field_length v 16
  have h4 := fmtU_field_length v 24
  simp only [inetNtop, fmtQuad, List.length_append, List.length_cons]
  omega

theorem nul_not_mem_inetNtop (v : UInt32) : nul ∉ inetNtop v :=
  Iptables.not_mem_fmtQuad (by decide) (by decide) _ _ _ _

theorem writeNul_strncpy {n : ℕ} (hn : 0 < n) (buf : CharArray n) (src : Text) :
    writeNul (buf.strncpy src n) (n - 1) = CharArray.ofText n src := by
  have hdrop : buf.bytes.drop n = [] := List.drop_of_length_le buf.size_eq.le
  apply CharArray.ext
  change ((src.take n ++ List.replicate (n - src.length) nul ++ buf.bytes.drop n).take n).set
    (n - 1) nul = src.take (n - 1) ++ List.replicate (n - (src.take (n - 1)).length) nul
  rw [hdrop, List.append_nil]
  apply List.ext_getElem
  · simp
    omega
  · intro i hi hi'
    simp only [List.getElem_set, List.getElem_take, List.getElem_append, List.length_take,
      List.getElem_replicate]
    grind

theorem ofText_terminated {n : ℕ} (hn : 0 < n) (src : Text) :
    (CharArray.ofText n src).Terminated := by
  refine List.mem_append_right _ (List.mem_replicate.mpr ⟨?_, rfl⟩)
  rw [List.length_take]
  omega

theorem netIpToString_text {n : ℕ} (hn : 0 < n) (ip : UInt32) (buf : CharArray n) :
    (netIpToString ip buf).Terminated ∧ (netIpToString ip buf).text =
      if (inetNtop ip).length < n % 2 ^ 32 then inetNtop ip
      else (ascii "0.0.0.0").take (n - 1) := by
  have hno := nul_not_mem_inetNtop ip
  have hmod := Nat.mod_le n (2 ^ 32)
  rw [netIpToString, if_neg hn.ne']
  by_cases hfits : (inetNtop ip).length < n % 2 ^ 32
  · have hbytes : (buf.memcpy (inetNtop ip ++ [nul])).bytes =
        inetNtop ip ++ nul :: (buf.bytes.drop ((inetNtop ip).length + 1)) := by
      have hsize := buf.size_eq
      change ((inetNtop ip ++ [nul]) ++ buf.bytes.drop (inetNtop ip ++ [nul]).length).take n = _
      rw [List.take_of_length_le, List.append_assoc, List.length_append, List.length_singleton]
      · rfl
      · simp only [List.length_append, List.length_drop, List.length_singleton]
        omega
    rw [if_neg hfits.not_ge, if_pos hfits, CharArray.Terminated, CharArray.text, hbytes,
      cstr_append_nul hno]
    exact ⟨by simp, rfl⟩
  · rw [if_pos (not_lt.mp hfits), if_neg hfits, writeNul_strncpy hn]
    exact ⟨ofText_terminated hn _, CharArray.ofText_text (by decide)⟩

/-- An address comes back from a buffer of any size that `inet_ntop` can use, and 0 from
every other; the sixteen bytes of `INET_ADDRSTRLEN` are always enough. A buffer of
`2 ^ 32` bytes is as good as none. -/
theorem string_round_trip {n : ℕ} (ip : UInt32) (buf : CharArray n) :
    (netIpFromString (netIpToString ip buf).text =
      if (inetNtop ip).length < n % 2 ^ 32 then ip else 0) ∧
    (0 < n → (netIpToString ip buf).Terminated) ∧
    (16 ≤ n % 2 ^ 32 → netIpFromString (netIpToString ip buf).text = ip) := by
  have hread : netIpFromString (netIpToString ip buf).text =
      if (inetNtop ip).length < n % 2 ^ 32 then ip else 0 := by
    rcases Nat.eq_zero_or_pos n with rfl | hn
    · have hempty : (netIpToString ip buf).text = [] := by
        rw [CharArray.text, List.eq_nil_of_length_eq_zero (netIpToString ip buf).size_eq]
        rfl
      rw [hempty, if_neg (by simp)]
      rfl
    · rw [(netIpToString_text hn ip buf).2]
      split_ifs
      · exact netIpFromString_inetNtop ip
      · -- a beginning of `0.0.0.0` is the address 0 or none
        have hzero : ∀ k ≤ 7, netIpFromString ((ascii "0.0.0.0").take k) = 0 := by
          decide
        rcases Nat.le_total (n - 1) 7 with hk | hk
        · exact hzero (n - 1) hk
        · rw [List.take_of_length_le hk]
          exact hzero 7 (Nat.le_refl 7)
  refine ⟨hread, fun hn => (netIpToString_text hn ip buf).1, fun hsize => ?_⟩
  have hlength := inetNtop_length_le ip
  rw [hread, if_pos (by omega)]

theorem isOctet_octetText (o : Byte) : IsOctet (octetText o) o := by
  rw [octetText]
  simpa using isOctet_fmtU o.toNat_lt

theorem parseIp_octets (a b c d : Byte) :
    parseIp (dotted (octetText a) (octetText b) (octetText c) (octetText d)) = ofOctets a b c d :=
  parseIp_dotted (isOctet_octetText a) (isOctet_octetText b) (isOctet_octetText c)
    (isOctet_octetText d)

theorem htonl_ofOctets (a b c d : Byte) : htonl (ofOctets d c b a) = ofOctets a b c d := by
  obtain ⟨h24, h16, h8, h0⟩ := ofOctets_fields d c b a
  rw [htonl_eq_ofOctets, h24, h16, h8, h0]

theorem ofOctets_inj {a b c d a' b' c' d' : Byte} (h : ofOctets a b c d = ofOctets a' b' c' d') :
    a = a' ∧ b = b' ∧ c = c' ∧ d = d' := by
  have hbytes := congrArg leBytes h
  rw [leBytes_ofOctets, leBytes_ofOctets] at hbytes
  simp only [List.cons.injEq, and_true] at hbytes
  exact ⟨hbytes.2.2.2, hbytes.2.2.1, hbytes.2.1, hbytes.1⟩

/-- What the network module reads as an address, the configuration reads as the same
one in the other byte order. The two agree on what the configuration does not take and
on the quads that read the same backwards. -/
theorem readers_agree_iff (s : Text) :
    (netIpFromString s ≠ 0 → parseIp s = htonl (netIpFromString s)) ∧
    (parseIp s = netIpFromString s ↔ parseIp s = 0 ∨
      ∃ a b : Byte, s = dotted (octetText a) (octetText b) (octetText b) (octetText a)) := by
  rcases netIpFromString_cases s with ⟨hzero, hnone⟩ | ⟨a, b, c, d, rfl, hread⟩
  · rw [hzero]
    refine ⟨fun h => absurd rfl h, ⟨Or.inl, fun h => h.resolve_right ?_⟩⟩
    intro hquad
    obtain ⟨a, b, rfl⟩ := hquad
    rw [inetPton_dotted] at hnone
    exact absurd hnone (by simp)
  · rw [hread, parseIp_octets, htonl_ofOctets]
    refine ⟨fun _ => rfl, ?_⟩
    constructor
    · intro h
      obtain ⟨rfl, rfl, -, -⟩ := ofOctets_inj h
      exact Or.inr ⟨a, b, rfl⟩
    · intro h
      have hends : a = d ∧ b = c := by
        rcases h with hz | ⟨x, y, hxy⟩
        · obtain ⟨rfl, rfl, rfl, rfl⟩ : a = 0 ∧ b = 0 ∧ c = 0 ∧ d = 0 := ofOctets_inj hz
          exact ⟨rfl, rfl⟩
        · have hsame : ofOctets d c b a = ofOctets x y y x := by
            rw [← Option.some_inj, ← inetPton_dotted, ← inetPton_dotted, hxy]
          obtain ⟨rfl, rfl, rfl, rfl⟩ := ofOctets_inj hsame
          exact ⟨rfl, rfl⟩
      rw [hends.1, hends.2]

theorem and_high_byte (v : UInt32) : v &&& 0xFF000000 = 0 ↔ v.toNat / 2 ^ 24 = 0 := by
  have hv := v.toNat_lt
  have hdiv : (v &&& 0xFF000000).toNat / 2 ^ 24 = v.toNat / 2 ^ 24 := by
    rw [UInt32.toNat_and, Nat.and_div_two_pow]
    exact Nat.and_two_pow_sub_one_of_lt_two_pow (n := 8) (by omega)
  have hmod : (v &&& 0xFF000000).toNat % 2 ^ 24 = 0 := by
    rw [UInt32.toNat_and, Nat.and_mod_two_pow]
    exact Nat.and_zero _
  rw [← UInt32.toNat_inj, UInt32.toNat_zero]
  omega

theorem and_high_nibble (v : UInt32) :
    v &&& 0xF0000000 = 0xF0000000 ↔ v.toNat / 2 ^ 28 = 15 := by
  have hv := v.toNat_lt
  have hdiv : (v &&& 0xF0000000).toNat / 2 ^ 28 = v.toNat / 2 ^ 28 := by
    rw [UInt32.toNat_and, Nat.and_div_two_pow]
    exact Nat.and_two_pow_sub_one_of_lt_two_pow (n := 4) (by omega)
  have hmod : (v &&& 0xF0000000).toNat % 2 ^ 28 = 0 := by
    rw [UInt32.toNat_and, Nat.and_mod_two_pow]
    exact Nat.and_zero _
  have hconst : (0xF0000000 : UInt32).toNat = 15 * 2 ^ 28 := rfl
  rw [← UInt32.toNat_inj, hconst]
  omega

theorem netIpIsValid_ofOctets (a b c d : Byte) :
    netIpIsValid (ofOctets d c b a) = true ↔ 1 ≤ a ∧ a ≤ 239 := by
  have ha := a.toNat_lt
  have hb := b.toNat_lt
  have hc := c.toNat_lt
  have hd := d.toNat_lt
  have hvalue := toNat_ofOctets a b c d
  have hconst : (0xFFFFFFFF : UInt32).toNat = 4294967295 := rfl
  have hone : (1 : Byte).toNat = 1 := rfl
  have htop : (239 : Byte).toNat = 239 := rfl
  rw [netIpIsValid, htonl_ofOctets]
  rw [UInt8.le_iff_toNat_le, UInt8.le_iff_toNat_le, hone, htop]
  split_ifs with hzero hones hbyte hnibble
  · rw [← UInt32.toNat_inj, UInt32.toNat_zero] at hzero
    refine iff_of_false not_false ?_
    omega
  · rw [← UInt32.toNat_inj, hconst] at hones
    refine iff_of_false not_false ?_
    omega
  · rw [and_high_byte] at hbyte
    refine iff_of_false not_false ?_
    omega
  · rw [and_high_nibble] at hnibble
    refine iff_of_false not_false ?_
    omega
  · rw [and_high_byte] at hbyte
    rw [and_high_nibble] at hnibble
    refine iff_of_true rfl ?_
    omega

/-- A text is the spelling of a valid address when it is four plain octets of which the
first is neither 0 nor above 239. The same text read by the configuration is judged by
its last octet. -/
theorem valid_text_iff (s : Text) :
    (netIpIsValid (netIpFromString s) = true ↔ ∃ a b c d : Byte,
      s = dotted (octetText a) (octetText b) (octetText c) (octetText d) ∧ 1 ≤ a ∧ a ≤ 239) ∧
    ∀ a b c d : Byte, s = dotted (octetText a) (octetText b) (octetText c) (octetText d) →
      (netIpIsValid (parseIp s) = true ↔ 1 ≤ d ∧ d ≤ 239) := by
  constructor
  · rcases netIpFromString_cases s with ⟨hzero, hnone⟩ | ⟨a, b, c, d, rfl, hread⟩
    · have hbad : ¬ netIpIsValid 0 = true := by decide
      rw [hzero]
      refine iff_of_false hbad ?_
      intro hquad
      obtain ⟨a, b, c, d, rfl, -⟩ := hquad
      rw [inetPton_dotted] at hnone
      exact absurd hnone (by simp)
    · rw [hread, netIpIsValid_ofOctets]
      constructor
      · intro h
        exact ⟨a, b, c, d, rfl, h⟩
      · intro hquad
        obtain ⟨a', b', c', d', hsame, h⟩ := hquad
        have hoctets : ofOctets d c b a = ofOctets d' c' b' a' := by
          rw [← Option.some_inj, ← inetPton_dotted, ← inetPton_dotted, hsame]
        obtain ⟨-, -, -, rfl⟩ := ofOctets_inj hoctets
        exact h
  · intro a b c d hs
    rw [hs, parseIp_octets]
    exact netIpIsValid_ofOctets d c b a

end PnetManager.AddressText
