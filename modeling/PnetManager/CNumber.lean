import PnetManager.CText

/-!
# Printing and parsing C integers

The `%u`, `%d` and `%04X` conversions of `printf` on one side, `strtoul` with
base detection, `atoi` and the `%u` conversion of `sscanf` on the other, for a
64-bit `long`. Out of range input saturates at the bound of `long`, and is then
reduced by the cast to the type it is stored in. Every printed form is read
back to the number it was printed from.
-/

namespace PnetManager.CNumber
open CText

def numeral (digit : ℕ → Byte) (base n : ℕ) : Text :=
  if n = 0 then [digit 0] else (Nat.digits base n).reverse.map digit

def decDigit (d : ℕ) : Byte := UInt8.ofNat (48 + d)
def hexDigit (d : ℕ) : Byte := UInt8.ofNat (if d < 10 then 48 + d else 55 + d)

def fmtU (n : ℕ) : Text := numeral decDigit 10 n

def fmtD (i : ℤ) : Text := if i < 0 then 45 :: fmtU i.natAbs else fmtU i.natAbs

def fmtX4 (n : ℕ) : Text :=
  let s := numeral hexDigit 16 n
  List.replicate (4 - s.length) 48 ++ s

def fmtQuad (a b c d : ℕ) : Text :=
  fmtU a ++ 46 :: (fmtU b ++ 46 :: (fmtU c ++ 46 :: fmtU d))

def digitVal (b : Byte) : ℕ :=
  if 48 ≤ b ∧ b ≤ 57 then b.toNat - 48
  else if 65 ≤ b ∧ b ≤ 90 then b.toNat - 55
  else if 97 ≤ b ∧ b ≤ 122 then b.toNat - 87
  else 36

def isDigitOf (base : ℕ) (b : Byte) : Bool := digitVal b < base

def digitRun (base : ℕ) (s : Text) : Text := s.takeWhile (isDigitOf base)

def valueFrom (base acc : ℕ) (s : Text) : ℕ := s.foldl (fun a b => base * a + digitVal b) acc

def valueOf (base : ℕ) (s : Text) : ℕ := valueFrom base 0 s

def splitSign : Text → Bool × Text
  | 45 :: s => (true, s)
  | 43 :: s => (false, s)
  | s => (false, s)

/-- Base 0 of `strtoul`: `0x` in front of a hexadecimal digit, else a leading
zero for octal, else decimal. -/
def detectBase : Text → ℕ × Text
  | 48 :: x :: d :: s =>
    if (x = 120 ∨ x = 88) ∧ isDigitOf 16 d then (16, d :: s) else (8, 48 :: x :: d :: s)
  | 48 :: s => (8, 48 :: s)
  | s => (10, s)

def ulongMax : ℕ := 2 ^ 64 - 1
def longMax : ℤ := 2 ^ 63 - 1
def longMin : ℤ := -2 ^ 63

def toUlong (neg : Bool) (v : ℕ) : ℕ :=
  if ulongMax < v then ulongMax else if neg then (2 ^ 64 - v) % 2 ^ 64 else v

/-- `strtoul(s, NULL, 0)` -/
def strtoul (s : Text) : ℕ :=
  let (neg, s) := splitSign (s.dropWhile isspace)
  let (base, s) := detectBase s
  toUlong neg (valueOf base (digitRun base s))

def strtol (s : Text) : ℤ :=
  let (neg, s) := splitSign (s.dropWhile isspace)
  let v := valueOf 10 (digitRun 10 s)
  max longMin (min longMax (if neg then -(v : ℤ) else v))

def atoi (s : Text) : Int32 := Int32.ofInt (strtol s)

/-- The `%u` conversion of `sscanf`: the number and the rest of the input. -/
def scanU (s : Text) : Option (UInt32 × Text) :=
  let (neg, s) := splitSign (s.dropWhile isspace)
  match digitRun 10 s with
  | [] => none
  | d :: ds => some (UInt32.ofNat (toUlong neg (valueOf 10 (d :: ds))), s.dropWhile (isDigitOf 10))

def scanChar (c : Byte) : Text → Option Text
  | [] => none
  | b :: s => if b = c then some s else none

theorem valueFrom_append (base acc : ℕ) (s t : Text) :
    valueFrom base acc (s ++ t) = valueFrom base (valueFrom base acc s) t := by
  simp [valueFrom]

theorem valueOf_replicate_zero (base k : ℕ) (s : Text) :
    valueOf base (List.replicate k 48 ++ s) = valueOf base s := by
  induction k with
  | zero => simp
  | succ k ih =>
    have h : valueOf base (48 :: (List.replicate k 48 ++ s)) =
        valueFrom base 0 (List.replicate k 48 ++ s) := by
      simp [valueOf, valueFrom, digitVal]
    rw [List.replicate_succ, List.cons_append, h]
    exact ih

theorem valueOf_digits {digit : ℕ → Byte} {base : ℕ} (ds : List ℕ)
    (hd : ∀ d ∈ ds, digitVal (digit d) = d) :
    valueOf base (ds.reverse.map digit) = Nat.ofDigits base ds := by
  induction ds with
  | nil => rfl
  | cons d ds ih =>
    have hi := ih fun e he => hd e (List.mem_cons_of_mem _ he)
    rw [List.reverse_cons, List.map_append, valueOf, valueFrom_append]
    change valueFrom base (valueOf base _) _ = _
    rw [hi, Nat.ofDigits_cons]
    simp only [valueFrom, List.map_cons, List.map_nil, List.foldl_cons, List.foldl_nil,
      hd d (by simp)]
    omega

theorem valueOf_numeral {digit : ℕ → Byte} {base : ℕ} (hb : 1 < base)
    (hd : ∀ d < base, digitVal (digit d) = d) (n : ℕ) :
    valueOf base (numeral digit base n) = n := by
  rw [numeral]
  split_ifs with h0
  · simp [valueOf, valueFrom, hd 0 (by omega), h0]
  · rw [valueOf_digits _ fun d hm => hd d (Nat.digits_lt_base hb hm), Nat.ofDigits_digits]

theorem mem_numeral {digit : ℕ → Byte} {base n : ℕ} (hb : 1 < base) {b : Byte}
    (h : b ∈ numeral digit base n) : ∃ d < base, b = digit d := by
  unfold numeral at h
  split_ifs at h
  · exact ⟨0, by omega, by simpa using h⟩
  · obtain ⟨d, hm, rfl⟩ := List.mem_map.mp h
    exact ⟨d, Nat.digits_lt_base hb (List.mem_reverse.mp hm), rfl⟩

theorem numeral_ne_nil (digit : ℕ → Byte) (base n : ℕ) : numeral digit base n ≠ [] := by
  rw [numeral]
  split_ifs with h0
  · simp
  · simpa [Nat.digits_eq_nil_iff_eq_zero] using h0

theorem numeral_length_le {digit : ℕ → Byte} {base n k : ℕ} (hb : 1 < base) (hk : 0 < k)
    (h : n < base ^ k) : (numeral digit base n).length ≤ k := by
  rw [numeral]
  split_ifs with h0
  · simpa [Nat.one_le_iff_ne_zero] using hk.ne'
  · simpa using (Nat.digits_length_le_iff hb n).mpr h

theorem decDigit_val : ∀ d < 10, digitVal (decDigit d) = d := by decide

theorem hexDigit_val : ∀ d < 16, digitVal (hexDigit d) = d := by decide

theorem digitRun_append {base : ℕ} {s t : Text} (hs : ∀ b ∈ s, isDigitOf base b = true)
    (ht : ∀ b ∈ t.head?, isDigitOf base b = false) : digitRun base (s ++ t) = s := by
  rw [digitRun]
  rw [List.takeWhile_append_of_pos hs]
  cases t with
  | nil => simp
  | cons c t => simp [ht c (by simp)]

theorem dropDigits_append {base : ℕ} {s t : Text} (hs : ∀ b ∈ s, isDigitOf base b = true)
    (ht : ∀ b ∈ t.head?, isDigitOf base b = false) :
    (s ++ t).dropWhile (isDigitOf base) = t := by
  rw [List.dropWhile_append_of_pos hs]
  cases t with
  | nil => rfl
  | cons c t => simp [ht c (by simp)]

theorem numeral_digits {digit : ℕ → Byte} {base n : ℕ} (hb : 1 < base)
    (hd : ∀ d < base, digitVal (digit d) = d) :
    ∀ b ∈ numeral digit base n, isDigitOf base b = true := by
  intro b hm
  obtain ⟨d, hlt, rfl⟩ := mem_numeral hb hm
  simpa [isDigitOf, hd d hlt] using hlt

theorem digit_bounds {b : Byte} (h : isDigitOf 10 b = true) : 48 ≤ b.toNat ∧ b.toNat ≤ 57 := by
  simp only [isDigitOf, digitVal, UInt8.le_iff_toNat_le, UInt8.reduceToNat,
    decide_eq_true_eq] at h
  split_ifs at h <;> omega

theorem digit_lower {base : ℕ} (hbase : base ≤ 36) {b : Byte} (h : isDigitOf base b = true) :
    48 ≤ b.toNat := by
  simp only [isDigitOf, digitVal, UInt8.le_iff_toNat_le, UInt8.reduceToNat,
    decide_eq_true_eq] at h
  split_ifs at h <;> omega

theorem isspace_of_digit {base : ℕ} (hbase : base ≤ 36) {b : Byte}
    (h : isDigitOf base b = true) : isspace b = false := by
  have hb := digit_lower hbase h
  have h32 : b ≠ 32 := fun he => by simp [he] at hb
  have h13 : ¬ b ≤ 13 := by
    rw [UInt8.le_iff_toNat_le]
    simp only [UInt8.reduceToNat]
    omega
  simp [isspace, h32, h13]

theorem splitSign_of_head {s : Text} (h : ∀ b ∈ s.head?, b ≠ 45 ∧ b ≠ 43) :
    splitSign s = (false, s) := by
  simp only [splitSign]
  split
  · exact absurd rfl (h 45 (by simp)).1
  · exact absurd rfl (h 43 (by simp)).2
  · rfl

theorem digits_start {s t : Text} (hne : s ≠ []) (hs : ∀ b ∈ s, isDigitOf 10 b = true) :
    (s ++ t).dropWhile isspace = s ++ t ∧ splitSign (s ++ t) = (false, s ++ t) := by
  obtain ⟨c, s, rfl⟩ := List.exists_cons_of_ne_nil hne
  have hc := hs c (by simp)
  have hb := digit_bounds hc
  refine ⟨dropWhile_of_head (by simpa using isspace_of_digit (by norm_num) hc),
    splitSign_of_head ?_⟩
  intro b hm
  obtain rfl : c = b := by simpa using hm
  constructor <;> intro he <;> subst he <;> simp at hb

theorem toUlong_of_le {v : ℕ} (h : v ≤ ulongMax) : toUlong false v = v := by
  simp [toUlong, Nat.not_lt.mpr h]

theorem scanU_digits {s t : Text} (hne : s ≠ []) (hs : ∀ b ∈ s, isDigitOf 10 b = true)
    (ht : ∀ b ∈ t.head?, isDigitOf 10 b = false) (hv : valueOf 10 s ≤ ulongMax) :
    scanU (s ++ t) = some (UInt32.ofNat (valueOf 10 s), t) := by
  obtain ⟨hd, hg⟩ := digits_start (t := t) hne hs
  obtain ⟨c, s, rfl⟩ := List.exists_cons_of_ne_nil hne
  simp only [scanU, hd, hg, digitRun_append hs ht, toUlong_of_le hv, dropDigits_append hs ht]

theorem fmtU_digits (n : ℕ) : ∀ b ∈ fmtU n, isDigitOf 10 b = true :=
  numeral_digits (by norm_num) decDigit_val

theorem fmtU_ne_nil (n : ℕ) : fmtU n ≠ [] := numeral_ne_nil _ _ _

theorem valueOf_fmtU (n : ℕ) : valueOf 10 (fmtU n) = n :=
  valueOf_numeral (by norm_num) decDigit_val n

theorem fmtU_length_le {n k : ℕ} (hk : 0 < k) (h : n < 10 ^ k) : (fmtU n).length ≤ k :=
  numeral_length_le (by norm_num) hk h

theorem fmtD_length (i : Int32) : (fmtD i.toInt).length ≤ 11 := by
  have hlo := i.le_toInt
  have hhi := i.toInt_lt
  have hl : (fmtU i.toInt.natAbs).length ≤ 10 := fmtU_length_le (by norm_num) (by omega)
  rw [fmtD]
  split_ifs
  · simp only [List.length_cons]
    omega
  · omega

theorem fmtU_head {n : ℕ} (hn : n ≠ 0) : ∀ b ∈ (fmtU n).head?, b ≠ 48 := by
  have hne : Nat.digits 10 n ≠ [] := Nat.digits_ne_nil_iff_ne_zero.mpr hn
  have hlast := Nat.getLast_digit_ne_zero 10 hn
  have hlt := Nat.digits_lt_base (by norm_num) (List.getLast_mem hne)
  intro b hb
  simp only [fmtU, numeral, hn, if_false, List.head?_map, List.head?_reverse,
    List.getLast?_eq_some_getLast hne, Option.map_some, Option.mem_some_iff] at hb
  intro hzero
  subst hzero
  have hval := decDigit_val _ hlt
  rw [hb] at hval
  exact hlast (by simpa [digitVal] using hval.symm)

theorem detectBase_of_head {s : Text} (h : ∀ b ∈ s.head?, b ≠ 48) : detectBase s = (10, s) := by
  simp only [detectBase]
  split
  · exact absurd rfl (h 48 (by simp))
  · exact absurd rfl (h 48 (by simp))
  · rfl

theorem digitRun_all {base : ℕ} {s : Text} (hs : ∀ b ∈ s, isDigitOf base b = true) :
    digitRun base s = s := by
  simpa using digitRun_append (t := []) hs (by simp)

theorem strtoul_fmtU {n : ℕ} (h : n ≤ ulongMax) : strtoul (fmtU n) = n := by
  by_cases hn : n = 0
  · subst hn
    decide
  · obtain ⟨hd, hg⟩ := digits_start (t := []) (fmtU_ne_nil n) (fmtU_digits n)
    rw [List.append_nil] at hd hg
    simp only [strtoul, hd, hg, detectBase_of_head (fmtU_head hn), digitRun_all (fmtU_digits n),
      valueOf_fmtU, toUlong_of_le h]

theorem fmtX4_digits (n : ℕ) : ∀ b ∈ fmtX4 n, isDigitOf 16 b = true := by
  intro b hb
  rcases List.mem_append.mp hb with hb | hb
  · rw [(List.mem_replicate.mp hb).2]
    decide
  · exact numeral_digits (by norm_num) hexDigit_val b hb

theorem valueOf_fmtX4 (n : ℕ) : valueOf 16 (fmtX4 n) = n := by
  rw [fmtX4, valueOf_replicate_zero, valueOf_numeral (by norm_num) hexDigit_val]

theorem fmtX4_ne_nil (n : ℕ) : fmtX4 n ≠ [] := by
  simp [fmtX4, numeral_ne_nil]

theorem strtoul_hex {n : ℕ} (h : n ≤ ulongMax) : strtoul (48 :: 120 :: fmtX4 n) = n := by
  have hdig := fmtX4_digits n
  have hval := valueOf_fmtX4 n
  obtain ⟨d, s, hs⟩ := List.exists_cons_of_ne_nil (fmtX4_ne_nil n)
  rw [hs] at hdig hval ⊢
  have hd : isDigitOf 16 d = true := hdig d (by simp)
  have hstart : (48 :: 120 :: d :: s : Text).dropWhile isspace = 48 :: 120 :: d :: s := rfl
  have hsign : splitSign (48 :: 120 :: d :: s) = (false, 48 :: 120 :: d :: s) := rfl
  simp only [strtoul, hstart, hsign, detectBase, hd, true_or, and_self, if_true,
    digitRun_all hdig, hval, toUlong_of_le h]

theorem strtol_fmtD {i : ℤ} (hlo : longMin ≤ i) (hhi : i ≤ longMax) : strtol (fmtD i) = i := by
  obtain ⟨hd, hg⟩ := digits_start (t := []) (fmtU_ne_nil i.natAbs) (fmtU_digits i.natAbs)
  rw [List.append_nil] at hd hg
  rw [fmtD]
  split_ifs with hneg
  · have hstart : (45 :: fmtU i.natAbs : Text).dropWhile isspace = 45 :: fmtU i.natAbs := rfl
    have habs : -(i.natAbs : ℤ) = i := by omega
    simp only [strtol, hstart, splitSign, digitRun_all (fmtU_digits _), valueOf_fmtU, if_true,
      habs, min_eq_right hhi, max_eq_right hlo]
  · have habs : (i.natAbs : ℤ) = i := by omega
    simp only [strtol, hd, hg, digitRun_all (fmtU_digits _), valueOf_fmtU, Bool.false_eq_true,
      if_false, habs, min_eq_right hhi, max_eq_right hlo]

theorem atoi_fmtD (i : Int32) : atoi (fmtD i.toInt) = i := by
  have hlo := i.le_toInt
  have hhi := i.toInt_lt
  rw [atoi, strtol_fmtD (by unfold longMin; omega) (by unfold longMax; omega), Int32.ofInt_toInt]

end PnetManager.CNumber
