import Mathlib

/-!
# C texts and `char` arrays

A text is the list of bytes in front of the terminating NUL. A `char` array
keeps all of its bytes, so that what `strncpy` leaves behind the terminator is
part of the state. Character classes are those of the C locale.
-/

namespace PnetManager.CText

abbrev Byte := UInt8
abbrev Text := List Byte

abbrev nul : Byte := 0
abbrev lf : Byte := 10
abbrev cr : Byte := 13

def ascii (s : String) : Text := s.toList.map fun c => UInt8.ofNat c.toNat

def isspace (b : Byte) : Bool := b == 32 || (9 ≤ b && b ≤ 13)

/-- The characters up to the first NUL: what a `%s` or `strcmp` sees. -/
def cstr (t : Text) : Text := t.takeWhile (· ≠ nul)

theorem nul_not_mem_cstr (t : Text) : nul ∉ cstr t := by
  intro h
  simpa using List.mem_takeWhile_imp h

theorem cstr_of_nul_not_mem {t : Text} (h : nul ∉ t) : cstr t = t :=
  List.takeWhile_eq_self_iff.mpr fun b hb => by
    have hne : b ≠ nul := fun he => h (he ▸ hb)
    simpa using hne

theorem cstr_append_nul {t : Text} (h : nul ∉ t) (u : Text) : cstr (t ++ nul :: u) = t := by
  have hall : ∀ b ∈ t, decide (b ≠ nul) = true := fun b hb => by
    have hne : b ≠ nul := fun he => h (he ▸ hb)
    simpa using hne
  rw [cstr]
  rw [List.takeWhile_append_of_pos hall]
  simp

theorem cstr_length_lt {t : Text} (h : nul ∈ t) : (cstr t).length < t.length := by
  obtain ⟨a, b, rfl⟩ := List.append_of_mem h
  induction a with
  | nil => simp [cstr]
  | cons c a ih =>
    by_cases hc : c = nul
    · simp [cstr, hc]
    · have hi := ih (by simp)
      simp only [cstr, ne_eq, decide_not, List.cons_append, List.length_cons] at hi ⊢
      simp only [List.takeWhile_cons, hc, decide_false, Bool.not_false, if_true,
        List.length_cons]
      omega

def trim (s : Text) : Text := (s.dropWhile isspace).rdropWhile isspace

def Trimmed (s : Text) : Prop :=
  (∀ b ∈ s.head?, isspace b = false) ∧ ∀ b ∈ s.getLast?, isspace b = false

theorem dropWhile_of_head {s : Text} (h : ∀ b ∈ s.head?, isspace b = false) :
    s.dropWhile isspace = s := by
  cases s with
  | nil => rfl
  | cons c s => simp [h c (by simp)]

theorem rdropWhile_of_last {s : Text} (h : ∀ b ∈ s.getLast?, isspace b = false) :
    s.rdropWhile isspace = s := by
  rw [List.rdropWhile_eq_self_iff]
  intro hne
  simp [h _ (List.getLast?_eq_some_getLast hne)]

theorem Trimmed.trim_eq {s : Text} (h : Trimmed s) : trim s = s := by
  rw [trim, dropWhile_of_head h.1, rdropWhile_of_last h.2]

theorem takeWhile_ne_append {b : Byte} {a : Text} (h : b ∉ a) (r : Text) :
    (a ++ b :: r).takeWhile (· ≠ b) = a ∧ (a ++ b :: r).dropWhile (· ≠ b) = b :: r := by
  have hall : ∀ x ∈ a, decide (x ≠ b) = true := fun x hx => by
    have hne : x ≠ b := fun he => h (he ▸ hx)
    simpa using hne
  rw [List.takeWhile_append_of_pos hall, List.dropWhile_append_of_pos hall]
  simp

@[ext]
structure CharArray (n : ℕ) where
  bytes : Text
  size_eq : bytes.length = n
deriving DecidableEq

namespace CharArray

variable {n : ℕ}

def zeroed (n : ℕ) : CharArray n := ⟨List.replicate n nul, by simp⟩

def text (a : CharArray n) : Text := cstr a.bytes

def Terminated (a : CharArray n) : Prop := nul ∈ a.bytes

instance (a : CharArray n) : Decidable a.Terminated := inferInstanceAs (Decidable (nul ∈ a.bytes))

def memcpy (dst : CharArray n) (src : Text) : CharArray n :=
  ⟨(src ++ dst.bytes.drop src.length).take n, by
    have h := dst.size_eq
    simp only [List.length_take, List.length_append, List.length_drop]
    omega⟩

/-- `strncpy(dst, src, k)`: `k` bytes are written, padded with NULs. -/
def strncpy (dst : CharArray n) (src : Text) (k : ℕ) : CharArray n :=
  ⟨(src.take k ++ List.replicate (k - src.length) nul ++ dst.bytes.drop k).take n, by
    have h := dst.size_eq
    simp only [List.length_take, List.length_append, List.length_replicate, List.length_drop]
    omega⟩

def ofText (n : ℕ) (src : Text) : CharArray n :=
  ⟨src.take (n - 1) ++ List.replicate (n - (src.take (n - 1)).length) nul, by
    simp only [List.length_append, List.length_replicate, List.length_take]
    omega⟩

theorem memcpy_take (a : CharArray n) {src : Text} (h : src.length ≤ n) :
    (a.memcpy src).bytes.take src.length = src := by
  rw [memcpy, List.take_take, min_eq_left h, List.take_left]

theorem memcpy_eq_self_iff {a : CharArray n} {src : Text} (h : src.length ≤ n) :
    a.memcpy src = a ↔ a.bytes.take src.length = src := by
  constructor
  · intro hsame
    have htake := memcpy_take a h
    rwa [hsame] at htake
  · intro htake
    apply CharArray.ext
    rw [memcpy]
    dsimp only
    nth_rewrite 1 [← htake]
    rw [List.take_append_drop, List.take_of_length_le a.size_eq.le]

def Capped (a : CharArray n) : Prop := a.bytes.drop (n - 1) = [nul]

theorem zeroed_capped (hn : 0 < n) : (zeroed n).Capped := by
  have h : n - (n - 1) = 1 := by omega
  simp [Capped, zeroed, h]

theorem ofText_capped (hn : 0 < n) (src : Text) : (ofText n src).Capped := by
  have hl : (src.take (n - 1)).length ≤ n - 1 := by simp
  simp only [Capped, ofText]
  rw [List.drop_append, List.drop_of_length_le hl, List.drop_replicate, List.nil_append]
  have h : n - (src.take (n - 1)).length - (n - 1 - (src.take (n - 1)).length) = 1 := by omega
  rw [h]
  rfl

theorem strncpy_capped {dst : CharArray n} (h : dst.Capped) (src : Text) :
    dst.strncpy src (n - 1) = ofText n src := by
  have hn : 0 < n := by
    have hl := congrArg List.length h
    have hs := dst.size_eq
    simp only [List.length_drop, List.length_singleton] at hl
    omega
  have hb : src.take (n - 1) ++ List.replicate (n - 1 - src.length) nul ++ [nul] =
      (ofText n src).bytes := by
    simp only [ofText, List.length_take, List.append_assoc]
    rw [← List.replicate_succ']
    congr 2
    omega
  apply CharArray.ext
  change (_ ++ dst.bytes.drop (n - 1)).take n = _
  rw [h, hb, List.take_of_length_le (ofText n src).size_eq.le]

theorem ofText_text {src : Text} (h : nul ∉ src) : (ofText n src).text = src.take (n - 1) := by
  have hno : nul ∉ src.take (n - 1) := fun hm => h (List.mem_of_mem_take hm)
  change cstr (src.take (n - 1) ++ List.replicate (n - (src.take (n - 1)).length) nul) = _
  cases n - (src.take (n - 1)).length with
  | zero => simp [cstr_of_nul_not_mem hno]
  | succ k => rw [List.replicate_succ, cstr_append_nul hno]

theorem ofText_text_of_fits {src : Text} (h : nul ∉ src) (hfit : src.length ≤ n - 1) :
    (ofText n src).text = src := by
  rw [ofText_text h, List.take_of_length_le hfit]

theorem Terminated.length_lt {a : CharArray n} (h : a.Terminated) : a.text.length < n := by
  have hl := cstr_length_lt h
  rw [a.size_eq] at hl
  exact hl

theorem bytes_ne_nil (a : CharArray (n + 1)) : a.bytes ≠ [] := by
  intro hnil
  have hsize := a.size_eq
  simp [hnil] at hsize

theorem nul_not_mem_text (a : CharArray n) : nul ∉ a.text := nul_not_mem_cstr _

end CharArray

end PnetManager.CText
