import PnetManager.ConfigRoundTrip
import PnetManager.NumberSpellings

/-!
# The addresses that `parse_ip` takes

Four numbers of one to three digits with a dot between them are taken for the
address that they spell. So is every text that `sscanf` reads four small numbers
from, with white space or a sign in front of a number, any number of digits and
anything behind the last one.
-/

namespace PnetManager.DottedQuads
open CText CNumber Word32 ConfigFile ConfigRoundTrip NumberSpellings

set_option maxRecDepth 2000

structure OctetText (t : Text) : Prop where
  ne_nil : t ≠ []
  length_le : t.length ≤ 3
  digits : ∀ b ∈ t, isDigitOf 10 b = true
  value_le : valueOf 10 t ≤ 255

/-- The text is four such numbers with single dots between them, for the address `v`. -/
def DottedQuad (s : Text) (v : ℕ) : Prop :=
  ∃ a b c d, (∀ t ∈ [a, b, c, d], OctetText t) ∧ s = dotted a b c d ∧
    v = valueOf 10 a * 2 ^ 24 + valueOf 10 b * 2 ^ 16 + valueOf 10 c * 2 ^ 8 + valueOf 10 d

structure QuadSpelling where
  a : Spelling
  b : Spelling
  c : Spelling
  d : Spelling
  rest : Text

namespace QuadSpelling

variable (q : QuadSpelling)

def numbers : List Spelling := [q.a, q.b, q.c, q.d]

def text : Text :=
  q.a.text ++ 46 :: (q.b.text ++ 46 :: (q.c.text ++ 46 :: (q.d.text ++ q.rest)))

def address : UInt32 := quad q.a.value q.b.value q.c.value q.d.value

structure WellFormed : Prop where
  numbers : ∀ p ∈ q.numbers, p.WellFormed
  rest : NoDigit q.rest

structure Accepted : Prop where
  octets : ∀ p ∈ q.numbers, p.value ≤ 255
  address_ne_zero : q.address ≠ 0

structure Strict : Prop where
  plain : ∀ p ∈ q.numbers, p.Plain
  short : ∀ p ∈ q.numbers, p.digits.length ≤ 3
  rest : q.rest = []

variable {q}

theorem forall_numbers {P : Spelling → Prop} :
    (∀ p ∈ q.numbers, P p) ↔ P q.a ∧ P q.b ∧ P q.c ∧ P q.d := by
  simp [numbers]

theorem WellFormed.scanQuad (h : q.WellFormed) :
    scanQuad q.text = some (q.a.value, q.b.value, q.c.value, q.d.value) := by
  obtain ⟨ha, hb, hc, hd⟩ := forall_numbers.mp h.numbers
  simp only [ConfigFile.scanQuad, text, scanU_text ha (noDigit_dot _),
    scanU_text hb (noDigit_dot _), scanU_text hc (noDigit_dot _), scanU_text hd h.rest, scanChar,
    if_true, Option.bind_eq_bind, Option.bind_some]
  rfl

theorem WellFormed.parseIp (h : q.WellFormed) (hq : ∀ p ∈ q.numbers, p.value ≤ 255) :
    parseIp q.text = q.address := by
  obtain ⟨ha, hb, hc, hd⟩ := forall_numbers.mp hq
  rw [ConfigFile.parseIp, h.scanQuad]
  dsimp only
  rw [if_neg, address]
  simp only [not_or, UInt32.not_lt]
  exact ⟨ha, hb, hc, hd⟩

theorem scanChar_eq_some {c : Byte} {s t : Text} (h : scanChar c s = some t) : s = c :: t := by
  cases s with
  | nil => simp [scanChar] at h
  | cons b s =>
    rw [scanChar] at h
    split_ifs at h with hb
    rw [hb, Option.some.inj h]

theorem exists_quad {s : Text} {a b c d : UInt32}
    (h : ConfigFile.scanQuad s = some (a, b, c, d)) :
    ∃ q : QuadSpelling, q.WellFormed ∧ s = q.text ∧ a = q.a.value ∧ b = q.b.value ∧
      c = q.c.value ∧ d = q.d.value := by
  simp only [ConfigFile.scanQuad, Option.bind_eq_bind, Option.bind_eq_some_iff] at h
  obtain ⟨⟨a', s1⟩, h1, s2, hdot1, ⟨b', s3⟩, h2, s4, hdot2, ⟨c', s5⟩, h3, s6, hdot3, ⟨d', s7⟩, h4,
    heq⟩ := h
  obtain ⟨pa, hpa, rfl, rfl, -⟩ := exists_spelling h1
  obtain ⟨pb, hpb, rfl, rfl, -⟩ := exists_spelling h2
  obtain ⟨pc, hpc, rfl, rfl, -⟩ := exists_spelling h3
  obtain ⟨pd, hpd, rfl, rfl, hrest⟩ := exists_spelling h4
  obtain rfl := scanChar_eq_some hdot1
  obtain rfl := scanChar_eq_some hdot2
  obtain rfl := scanChar_eq_some hdot3
  obtain ⟨rfl, rfl, rfl, rfl⟩ : pa.value = a ∧ pb.value = b ∧ pc.value = c ∧ pd.value = d := by
    simpa using heq
  exact ⟨⟨pa, pb, pc, pd, s7⟩, ⟨forall_numbers.mpr ⟨hpa, hpb, hpc, hpd⟩, hrest⟩, rfl, rfl, rfl, rfl,
    rfl⟩

theorem parseIp_eq_iff {s : Text} {v : UInt32} (hv : v ≠ 0) :
    ConfigFile.parseIp s = v ↔
      ∃ q : QuadSpelling, q.WellFormed ∧ s = q.text ∧ q.Accepted ∧ q.address = v := by
  constructor
  · intro h
    rw [ConfigFile.parseIp] at h
    cases hscan : ConfigFile.scanQuad s with
    | none => exact absurd (by simpa [hscan] using h.symm) hv
    | some r =>
      obtain ⟨a, b, c, d⟩ := r
      obtain ⟨q, hq, hs, ha, hb, hc, hd⟩ := exists_quad hscan
      simp only [hscan] at h
      split_ifs at h with hbig
      · exact absurd h.symm hv
      · simp only [not_or, UInt32.not_lt, ha, hb, hc, hd] at hbig
        have haddress : q.address = v := by rw [address, ← ha, ← hb, ← hc, ← hd, h]
        exact ⟨q, hq, hs, ⟨forall_numbers.mpr hbig, haddress ▸ hv⟩, haddress⟩
  · intro h
    obtain ⟨q, hq, rfl, haccepted, rfl⟩ := h
    exact hq.parseIp haccepted.octets

theorem address_toNat (h : ∀ p ∈ q.numbers, p.value ≤ 255) :
    q.address.toNat = q.a.value.toNat * 2 ^ 24 + q.b.value.toNat * 2 ^ 16 +
      q.c.value.toNat * 2 ^ 8 + q.d.value.toNat := by
  have hlt {p : Spelling} (hp : p.value ≤ 255) : p.value.toNat < 256 := by
    rw [UInt32.le_iff_toNat_le] at hp
    exact Nat.lt_succ_of_le hp
  obtain ⟨ha, hb, hc, hd⟩ := forall_numbers.mp h
  exact toNat_quad (hlt ha) (hlt hb) (hlt hc) (hlt hd)

theorem Strict.value_eq (h : q.Strict) (hq : q.WellFormed) :
    ∀ p ∈ q.numbers, p.value.toNat = valueOf 10 p.digits := by
  intro p hp
  have hshort := h.short p hp
  exact Spelling.value_of_short (hq.numbers p hp) (h.plain p hp) (by omega)

theorem Strict.octetText (h : q.Strict) (hq : q.WellFormed) (haccepted : q.Accepted) :
    ∀ p ∈ q.numbers, OctetText p.digits := by
  intro p hp
  have hle := haccepted.octets p hp
  rw [UInt32.le_iff_toNat_le, h.value_eq hq p hp] at hle
  exact ⟨(hq.numbers p hp).digits_ne_nil, h.short p hp, (hq.numbers p hp).digits, hle⟩

theorem Strict.dottedQuad (h : q.Strict) (hq : q.WellFormed) (haccepted : q.Accepted) :
    DottedQuad q.text q.address.toNat := by
  obtain ⟨pa, pb, pc, pd⟩ := forall_numbers.mp h.plain
  obtain ⟨va, vb, vc, vd⟩ := forall_numbers.mp (h.value_eq hq)
  obtain ⟨ha, hb, hc, hd⟩ := forall_numbers.mp (h.octetText hq haccepted)
  refine ⟨q.a.digits, q.b.digits, q.c.digits, q.d.digits, ?_, ?_, ?_⟩
  · simpa using ⟨ha, hb, hc, hd⟩
  · rw [text, h.rest, List.append_nil, pa.text_eq, pb.text_eq, pc.text_eq, pd.text_eq, dotted]
  · rw [address_toNat haccepted.octets, va, vb, vc, vd]

end QuadSpelling

open QuadSpelling

def plainSpelling (t : Text) : Spelling := ⟨[], [], t⟩

theorem OctetText.wellFormed {t : Text} (h : OctetText t) : (plainSpelling t).WellFormed :=
  ⟨by simp [plainSpelling], Or.inl rfl, h.ne_nil, h.digits⟩

theorem exists_quad_of_dottedQuad {s : Text} {v : UInt32} (hv : v ≠ 0)
    (h : DottedQuad s v.toNat) :
    ∃ q : QuadSpelling, q.WellFormed ∧ s = q.text ∧ q.Accepted ∧ q.address = v := by
  obtain ⟨a, b, c, d, hoctets, rfl, hvalue⟩ := h
  obtain ⟨ha, hb, hc, hd⟩ : OctetText a ∧ OctetText b ∧ OctetText c ∧ OctetText d := by
    simpa using hoctets
  have hval {t : Text} (ht : OctetText t) :
      (plainSpelling t).value.toNat = valueOf 10 t := by
    have hshort : t.length ≤ 9 := ht.length_le.trans (by norm_num)
    exact Spelling.value_of_short ht.wellFormed ⟨rfl, rfl⟩ hshort
  have hle {t : Text} (ht : OctetText t) : (plainSpelling t).value ≤ 255 := by
    rw [UInt32.le_iff_toNat_le, hval ht]
    exact ht.value_le
  let q : QuadSpelling :=
    ⟨plainSpelling a, plainSpelling b, plainSpelling c, plainSpelling d, []⟩
  have hq : q.WellFormed :=
    ⟨forall_numbers.mpr ⟨ha.wellFormed, hb.wellFormed, hc.wellFormed, hd.wellFormed⟩, noDigit_nil⟩
  have hsmall : ∀ p ∈ q.numbers, p.value ≤ 255 :=
    forall_numbers.mpr ⟨hle ha, hle hb, hle hc, hle hd⟩
  have haddress : q.address = v := by
    apply UInt32.toNat_inj.mp
    rw [address_toNat hsmall, hval ha, hval hb, hval hc, hval hd, hvalue]
  refine ⟨q, hq, ?_, ⟨hsmall, haddress ▸ hv⟩, haddress⟩
  simp [q, QuadSpelling.text, plainSpelling, Spelling.text, dotted]

theorem strict_of_dottedQuad {q : QuadSpelling} (hq : q.WellFormed) {v : ℕ}
    (h : DottedQuad q.text v) : q.Strict := by
  obtain ⟨a, b, c, d, hoctets, htext, -⟩ := h
  obtain ⟨ha, hb, hc, hd⟩ : OctetText a ∧ OctetText b ∧ OctetText c ∧ OctetText d := by
    simpa using hoctets
  obtain ⟨wa, wb, wc, wd⟩ := forall_numbers.mp hq.numbers
  rw [QuadSpelling.text, dotted] at htext
  obtain ⟨pa, da, htext⟩ :=
    plain_of_digits wa (noDigit_dot _) ha.ne_nil ha.digits (noDigit_dot _) htext
  obtain ⟨pb, db, htext⟩ := plain_of_digits wb (noDigit_dot _) hb.ne_nil hb.digits (noDigit_dot _)
    (List.cons.inj htext).2
  obtain ⟨pc, dc, htext⟩ := plain_of_digits wc (noDigit_dot _) hc.ne_nil hc.digits (noDigit_dot _)
    (List.cons.inj htext).2
  obtain ⟨pd, dd, hrest⟩ := plain_of_digits wd hq.rest hd.ne_nil hd.digits noDigit_nil
    ((List.cons.inj htext).2.trans (List.append_nil d).symm)
  refine ⟨forall_numbers.mpr ⟨pa, pb, pc, pd⟩, forall_numbers.mpr ?_, hrest⟩
  rw [da, db, dc, dd]
  exact ⟨ha.length_le, hb.length_le, hc.length_le, hd.length_le⟩

/-- `parse_ip` takes dotted quads and nothing else exactly for the texts in which
whatever `sscanf` reads as an address is spelled strictly. -/
theorem parseIp_dotted_quads_iff (s : Text) :
    (∀ v : UInt32, v ≠ 0 → (parseIp s = v ↔ DottedQuad s v.toNat)) ↔
      ∀ q : QuadSpelling, q.WellFormed → s = q.text → q.Accepted → q.Strict := by
  constructor
  · intro h q hq hs haccepted
    subst hs
    have hparse := hq.parseIp haccepted.octets
    exact strict_of_dottedQuad hq ((h _ haccepted.address_ne_zero).mp hparse)
  · intro h v hv
    rw [parseIp_eq_iff hv]
    constructor
    · intro hread
      obtain ⟨q, hq, hs, haccepted, rfl⟩ := hread
      have hstrict := h q hq hs haccepted
      rw [hs]
      exact hstrict.dottedQuad hq haccepted
    · exact exists_quad_of_dottedQuad hv

theorem trailing_text_is_taken :
    let s := ascii "10.0.0.1x"
    parseIp s = 0x0A000001 ∧ ¬ DottedQuad s (0x0A000001 : UInt32).toNat := by
  intro s
  refine ⟨by decide, fun h => ?_⟩
  have h0 : OctetText (ascii "0") := ⟨by decide, by decide, by decide, by decide⟩
  have h1 : OctetText (ascii "1") := ⟨by decide, by decide, by decide, by decide⟩
  have h10 : OctetText (ascii "10") := ⟨by decide, by decide, by decide, by decide⟩
  let q : QuadSpelling := ⟨plainSpelling (ascii "10"), plainSpelling (ascii "0"),
    plainSpelling (ascii "0"), plainSpelling (ascii "1"), ascii "x"⟩
  have hq : q.WellFormed := ⟨forall_numbers.mpr
    ⟨h10.wellFormed, h0.wellFormed, h0.wellFormed, h1.wellFormed⟩, show NoDigit _ by decide⟩
  have hrest : ascii "x" = [] := (strict_of_dottedQuad hq h).rest
  exact absurd hrest (by decide)

end PnetManager.DottedQuads
