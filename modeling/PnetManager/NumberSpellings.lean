import PnetManager.CNumber

/-!
# Spellings of a number

What the `%u` conversion takes for a number: white space, a sign and any number of
digits, up to the first character that is no digit.
-/

namespace PnetManager.NumberSpellings
open CText CNumber

structure Spelling where
  space : Text
  sign : Text
  digits : Text

def Spelling.text (p : Spelling) : Text := p.space ++ (p.sign ++ p.digits)

structure Spelling.WellFormed (p : Spelling) : Prop where
  space : ∀ b ∈ p.space, isspace b = true
  sign : p.sign = [] ∨ p.sign = [43] ∨ p.sign = [45]
  digits_ne_nil : p.digits ≠ []
  digits : ∀ b ∈ p.digits, isDigitOf 10 b = true

def Spelling.value (p : Spelling) : UInt32 :=
  UInt32.ofNat (toUlong (p.sign = [45]) (valueOf 10 p.digits))

structure Spelling.Plain (p : Spelling) : Prop where
  space : p.space = []
  sign : p.sign = []

theorem Spelling.Plain.text_eq {p : Spelling} (h : p.Plain) : p.text = p.digits := by
  rw [Spelling.text, h.space, h.sign]
  rfl

def NoDigit (t : Text) : Prop := ∀ b ∈ t.head?, isDigitOf 10 b = false

instance (t : Text) : Decidable (NoDigit t) :=
  inferInstanceAs (Decidable (∀ b ∈ t.head?, isDigitOf 10 b = false))

theorem noDigit_nil : NoDigit [] := by simp [NoDigit]

theorem noDigit_dot (t : Text) : NoDigit (46 :: t) := by
  intro b hb
  obtain rfl : 46 = b := by simpa using hb
  decide

theorem noDigit_dropWhile (t : Text) : NoDigit (t.dropWhile (isDigitOf 10)) := by
  intro b hb
  have hhead := List.head?_dropWhile_not (isDigitOf 10) t
  rw [Option.mem_def.mp hb] at hhead
  exact hhead

theorem head_digits {ds : Text} (hne : ds ≠ []) (h : ∀ b ∈ ds, isDigitOf 10 b = true)
    (rest : Text) : ∀ b ∈ (ds ++ rest).head?, isDigitOf 10 b = true := by
  obtain ⟨c, ds, rfl⟩ := List.exists_cons_of_ne_nil hne
  intro b hb
  obtain rfl : c = b := by simpa using hb
  exact h c List.mem_cons_self

theorem splitSign_text {p : Spelling} (h : p.WellFormed) (rest : Text) :
    splitSign (p.sign ++ (p.digits ++ rest)) = (decide (p.sign = [45]), p.digits ++ rest) := by
  rcases h.sign with hsign | hsign | hsign
  · rw [hsign]
    refine splitSign_of_head fun b hb => ?_
    have hlow := digit_bounds (head_digits h.digits_ne_nil h.digits rest b hb)
    constructor <;> intro he <;> subst he <;> simp at hlow
  · rw [hsign]
    rfl
  · rw [hsign]
    rfl

theorem dropSpace_text {p : Spelling} (h : p.WellFormed) (rest : Text) :
    (p.text ++ rest).dropWhile isspace = p.sign ++ (p.digits ++ rest) := by
  rw [Spelling.text, List.append_assoc, List.append_assoc,
    List.dropWhile_append_of_pos h.space]
  apply dropWhile_of_head
  rcases h.sign with hsign | hsign | hsign
  · rw [hsign]
    exact fun b hb => isspace_of_digit (by norm_num)
      (head_digits h.digits_ne_nil h.digits rest b hb)
  · rw [hsign]
    intro b hb
    obtain rfl : 43 = b := by simpa using hb
    decide
  · rw [hsign]
    intro b hb
    obtain rfl : 45 = b := by simpa using hb
    decide

theorem scanU_text {p : Spelling} (h : p.WellFormed) {rest : Text} (hrest : NoDigit rest) :
    scanU (p.text ++ rest) = some (p.value, rest) := by
  obtain ⟨d, ds, hds⟩ := List.exists_cons_of_ne_nil h.digits_ne_nil
  have hrun := digitRun_append h.digits hrest
  have hdrop := dropDigits_append h.digits hrest
  rw [scanU, dropSpace_text h, splitSign_text h]
  dsimp only
  rw [hrun, hdrop, hds, Spelling.value, hds]

theorem splitSign_cases (s : Text) :
    ∃ sign, s = sign ++ (splitSign s).2 ∧ (splitSign s).1 = decide (sign = [45]) ∧
      (sign = [] ∨ sign = [43] ∨ sign = [45]) := by
  simp only [splitSign]
  split
  · exact ⟨[45], rfl, rfl, Or.inr (Or.inr rfl)⟩
  · exact ⟨[43], rfl, rfl, Or.inr (Or.inl rfl)⟩
  · exact ⟨[], rfl, rfl, Or.inl rfl⟩

theorem exists_spelling {s rest : Text} {n : UInt32} (h : scanU s = some (n, rest)) :
    ∃ p : Spelling, p.WellFormed ∧ s = p.text ++ rest ∧ n = p.value ∧ NoDigit rest := by
  obtain ⟨sign, htext, hneg, hsign⟩ := splitSign_cases (s.dropWhile isspace)
  rw [scanU] at h
  generalize splitSign (s.dropWhile isspace) = st at htext hneg h
  obtain ⟨neg, t⟩ := st
  dsimp only at htext hneg h
  rw [hneg] at h
  cases hrun : digitRun 10 t with
  | nil => simp [hrun] at h
  | cons d ds =>
    rw [hrun] at h
    simp only [Option.some.injEq, Prod.mk.injEq] at h
    obtain ⟨rfl, rfl⟩ := h
    have hdigits : digitRun 10 t ++ t.dropWhile (isDigitOf 10) = t :=
      List.takeWhile_append_dropWhile
    rw [hrun] at hdigits
    refine ⟨⟨s.takeWhile isspace, sign, d :: ds⟩, ?_, ?_, rfl, noDigit_dropWhile t⟩
    · refine ⟨fun b hb => List.mem_takeWhile_imp hb, hsign, List.cons_ne_nil _ _, ?_⟩
      exact fun b hb => List.mem_takeWhile_imp (hrun ▸ hb)
    · rw [Spelling.text, List.append_assoc, List.append_assoc, hdigits, ← htext,
        List.takeWhile_append_dropWhile]

theorem plain_of_digits {p : Spelling} (h : p.WellFormed) {ds rest tail : Text}
    (hrest : NoDigit rest) (hne : ds ≠ []) (hds : ∀ b ∈ ds, isDigitOf 10 b = true)
    (htail : NoDigit tail) (heq : p.text ++ rest = ds ++ tail) :
    p.Plain ∧ p.digits = ds ∧ rest = tail := by
  have hhead := head_digits hne hds tail
  rw [← heq, Spelling.text] at hhead
  have hspace : p.space = [] := by
    cases hsp : p.space with
    | nil => rfl
    | cons c sp =>
      have hdigit := hhead c (by simp [hsp])
      have hwhite := h.space c (by simp [hsp])
      rw [isspace_of_digit (by norm_num) hdigit] at hwhite
      exact absurd hwhite Bool.false_ne_true
  have hsign : p.sign = [] := by
    rcases h.sign with hsg | hsg | hsg
    · exact hsg
    · exact absurd (hhead 43 (by simp [hspace, hsg])) (by decide)
    · exact absurd (hhead 45 (by simp [hspace, hsg])) (by decide)
  have hplain : p.Plain := ⟨hspace, hsign⟩
  rw [hplain.text_eq] at heq
  have hrun := congrArg (digitRun 10) heq
  rw [digitRun_append h.digits hrest, digitRun_append hds htail] at hrun
  rw [hrun] at heq
  exact ⟨hplain, hrun, List.append_cancel_left heq⟩

theorem valueOf_lt {base : ℕ} {t : Text} (h : ∀ b ∈ t, isDigitOf base b = true) :
    valueOf base t < base ^ t.length := by
  induction t using List.reverseRecOn with
  | nil => simp [valueOf, valueFrom]
  | append_singleton t b ih =>
    have hi := ih fun c hc => h c (List.mem_append_left _ hc)
    have hb : digitVal b < base := by simpa [isDigitOf] using h b (by simp)
    rw [valueOf, valueFrom_append, ← valueOf, List.length_append, List.length_singleton, pow_succ]
    calc valueFrom base (valueOf base t) [b]
        = base * valueOf base t + digitVal b := rfl
      _ < base * valueOf base t + base := Nat.add_lt_add_left hb _
      _ = base * (valueOf base t + 1) := by ring
      _ ≤ base * base ^ t.length := Nat.mul_le_mul_left base hi
      _ = base ^ t.length * base := Nat.mul_comm _ _

theorem Spelling.value_of_short {p : Spelling} (h : p.WellFormed) (hplain : p.Plain)
    (hshort : p.digits.length ≤ 9) : p.value.toNat = valueOf 10 p.digits := by
  have hlt := valueOf_lt h.digits
  have hpow : 10 ^ p.digits.length ≤ 10 ^ 9 := Nat.pow_le_pow_right (by norm_num) hshort
  have hle : valueOf 10 p.digits ≤ ulongMax := by
    rw [ulongMax]
    omega
  have hsign : decide (p.sign = [45]) = false := by simp [hplain.sign]
  rw [Spelling.value, hsign, toUlong_of_le hle, UInt32.toNat_ofNat_of_lt']
  exact hlt.trans_le (hpow.trans (by decide))

end PnetManager.NumberSpellings
