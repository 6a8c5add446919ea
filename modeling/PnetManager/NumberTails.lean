import PnetManager.CNumber

/-!
# What the number parsers leave unread

`strtoul`, `atoi` and the `%u` conversion stop at the first character they have
no use for. White space with a `#` behind it is such a tail: it changes none of
their results.
-/

namespace PnetManager.NumberTails
open CText CNumber

def Tail (t : Text) : Prop := ∃ sp u, t = sp ++ 35 :: u ∧ ∀ b ∈ sp, isspace b = true

theorem isspace_le {b : Byte} (h : isspace b = true) : b.toNat ≤ 32 := by
  have hcases : b = 32 ∨ 9 ≤ b ∧ b ≤ 13 := by simpa [isspace] using h
  rcases hcases with rfl | ⟨-, hle⟩
  · decide
  · rw [UInt8.le_iff_toNat_le] at hle
    simp only [UInt8.reduceToNat] at hle
    omega

theorem Tail.head_le {t : Text} (h : Tail t) : ∀ b ∈ t.head?, b.toNat ≤ 35 := by
  obtain ⟨sp, u, rfl, hsp⟩ := h
  intro b hb
  cases sp with
  | nil =>
    obtain rfl : 35 = b := by simpa using hb
    decide
  | cons c sp =>
    obtain rfl : c = b := by simpa using hb
    have hle := isspace_le (hsp c List.mem_cons_self)
    omega

theorem dropSpace_append {t : Text} (h : Tail t) (s : Text) :
    ∃ t', Tail t' ∧ (s ++ t).dropWhile isspace = s.dropWhile isspace ++ t' := by
  by_cases hs : s.dropWhile isspace = []
  · obtain ⟨sp, u, rfl, hsp⟩ := h
    refine ⟨35 :: u, ⟨[], u, rfl, by simp⟩, ?_⟩
    rw [List.dropWhile_append_of_pos (List.dropWhile_eq_nil_iff.mp hs),
      List.dropWhile_append_of_pos hsp, hs]
    rfl
  · refine ⟨t, h, ?_⟩
    rw [List.dropWhile_append, if_neg (by simpa using hs)]

section Steps

variable {t : Text} (h : ∀ b ∈ t.head?, b.toNat ≤ 35)

include h

theorem not_digit_head {base : ℕ} (hbase : base ≤ 36) :
    ∀ b ∈ t.head?, isDigitOf base b = false := by
  intro b hb
  by_contra hdigit
  have hlow := digit_lower hbase (by simpa using hdigit)
  have hle := h b hb
  omega

theorem digitRun_tail {base : ℕ} (hbase : base ≤ 36) (s : Text) :
    digitRun base (s ++ t) = digitRun base s := by
  induction s with
  | nil => exact digitRun_append (s := []) (by simp) (not_digit_head h hbase)
  | cons c s ih =>
    rw [digitRun] at ih ⊢
    rw [List.cons_append, List.takeWhile_cons, ih, digitRun, digitRun, List.takeWhile_cons]

theorem dropDigits_tail {base : ℕ} (hbase : base ≤ 36) (s : Text) :
    (s ++ t).dropWhile (isDigitOf base) = s.dropWhile (isDigitOf base) ++ t := by
  induction s with
  | nil => exact dropDigits_append (s := []) (by simp) (not_digit_head h hbase)
  | cons c s ih =>
    rw [List.cons_append, List.dropWhile_cons, ih, List.dropWhile_cons]
    split_ifs <;> rfl

theorem splitSign_tail (s : Text) :
    splitSign (s ++ t) = ((splitSign s).1, (splitSign s).2 ++ t) := by
  cases s with
  | nil =>
    refine splitSign_of_head fun b hb => ?_
    have hle := h b hb
    constructor <;> intro he <;> subst he <;> simp at hle
  | cons c s =>
    by_cases h45 : c = 45
    · subst h45
      rfl
    by_cases h43 : c = 43
    · subst h43
      rfl
    · have hhead (r : Text) : splitSign (c :: r) = (false, c :: r) := by
        refine splitSign_of_head fun b hb => ?_
        obtain rfl : c = b := by simpa using hb
        exact ⟨h45, h43⟩
      rw [List.cons_append, hhead, hhead]
      rfl

theorem scanChar_tail {c : Byte} (hc : 35 < c.toNat) (s : Text) :
    scanChar c (s ++ t) = (scanChar c s).map (· ++ t) := by
  cases s with
  | nil =>
    cases t with
    | nil => rfl
    | cons b u =>
      have hle := h b rfl
      have hne : b ≠ c := fun he => by rw [he] at hle; omega
      simp [scanChar, hne]
  | cons b s =>
    rw [List.cons_append, scanChar, scanChar]
    split_ifs <;> rfl

theorem detectBase_tail (s : Text) :
    detectBase (s ++ t) = ((detectBase s).1, (detectBase s).2 ++ t) := by
  have hne {b c : Byte} (hb : b ∈ t.head?) (hc : 35 < c.toNat) : b ≠ c := fun he => by
    have hle := h b hb
    rw [he] at hle
    omega
  rcases s with _ | ⟨c, s⟩
  · exact detectBase_of_head fun b hb => hne hb (by decide)
  by_cases h48 : c = 48
  · subst h48
    rcases s with _ | ⟨x, _ | ⟨d, s⟩⟩
    · -- `0` alone: the character behind it is no `x`
      rcases t with _ | ⟨x, _ | ⟨d, u⟩⟩
      · rfl
      · rfl
      · have h120 : x ≠ 120 := hne rfl (by decide)
        have h88 : x ≠ 88 := hne rfl (by decide)
        simp [detectBase, h120, h88]
    · -- `0x` alone: the character behind it is no digit
      rcases t with _ | ⟨d, u⟩
      · rfl
      · have hd : isDigitOf 16 d = false := not_digit_head h (by norm_num) d rfl
        simp [detectBase, hd]
    · simp only [List.cons_append, detectBase]
      split_ifs <;> rfl
  · have hhead (r : Text) : detectBase (c :: r) = (10, c :: r) := by
      refine detectBase_of_head fun b hb => ?_
      obtain rfl : c = b := by simpa using hb
      exact h48
    rw [List.cons_append, hhead, hhead]
    rfl

end Steps

theorem detectBase_le (s : Text) : (detectBase s).1 ≤ 36 := by
  simp only [detectBase]
  split
  · split_ifs <;> norm_num
  · norm_num
  · norm_num

theorem strtoul_tail {t : Text} (h : Tail t) (s : Text) : strtoul (s ++ t) = strtoul s := by
  obtain ⟨t', ht', hdrop⟩ := dropSpace_append h s
  have hlow := ht'.head_le
  simp only [strtoul, hdrop, splitSign_tail hlow, detectBase_tail hlow,
    digitRun_tail hlow (detectBase_le _)]

theorem atoi_tail {t : Text} (h : Tail t) (s : Text) : atoi (s ++ t) = atoi s := by
  obtain ⟨t', ht', hdrop⟩ := dropSpace_append h s
  have hlow := ht'.head_le
  simp only [atoi, strtol, hdrop, splitSign_tail hlow,
    digitRun_tail hlow (show 10 ≤ 36 by norm_num)]

theorem scanU_tail {t : Text} (h : Tail t) (s : Text) :
    ∃ t', Tail t' ∧ scanU (s ++ t) = (scanU s).map fun r => (r.1, r.2 ++ t') := by
  obtain ⟨t', ht', hdrop⟩ := dropSpace_append h s
  have hlow := ht'.head_le
  refine ⟨t', ht', ?_⟩
  simp only [scanU, hdrop, splitSign_tail hlow, digitRun_tail hlow (show 10 ≤ 36 by norm_num),
    dropDigits_tail hlow (show 10 ≤ 36 by norm_num)]
  cases digitRun 10 (splitSign (s.dropWhile isspace)).2 <;> rfl

theorem scanU_bind_tail {β : Type*} {f : UInt32 × Text → Option β}
    (hf : ∀ n r t, Tail t → f (n, r ++ t) = f (n, r)) {t : Text} (h : Tail t) (s : Text) :
    (scanU (s ++ t)).bind f = (scanU s).bind f := by
  obtain ⟨t', ht', hscan⟩ := scanU_tail h s
  rw [hscan]
  cases scanU s with
  | none => rfl
  | some r => exact hf r.1 r.2 t' ht'

theorem scanChar_bind_tail {β : Type*} {c : Byte} (hc : 35 < c.toNat) {f : Text → Option β}
    (hf : ∀ r t, Tail t → f (r ++ t) = f r) {t : Text} (h : Tail t) (s : Text) :
    (scanChar c (s ++ t)).bind f = (scanChar c s).bind f := by
  rw [scanChar_tail h.head_le hc]
  cases scanChar c s with
  | none => rfl
  | some r => exact hf r t h

end PnetManager.NumberTails
