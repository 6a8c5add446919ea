import PnetManager.CText

/-!
# Line input and bounded output of C

`fgets` hands out the input in pieces that end at a line feed or where the
buffer is full; `snprintf` stores as much of a text as the buffer holds in
front of a NUL and returns the length it wanted to store.
-/

namespace PnetManager.CStdio
open CText

def eperm : ℤ := 1
def eio : ℤ := 5
def einval : ℤ := 22
def enospc : ℤ := 28
def erange : ℤ := 34

def takeLine : ℕ → Text → Text × Text
  | 0, s => ([], s)
  | _ + 1, [] => ([], [])
  | n + 1, c :: s =>
    if c = lf then ([c], s)
    else ((c :: (takeLine n s).1), (takeLine n s).2)

/-- `fgets` into a buffer of `size` bytes; `none` at the end of the file. -/
def fgets (size : ℕ) (s : Text) : Option (Text × Text) :=
  if s = [] then none else some (takeLine (size - 1) s)

def fgetsLoop (size : ℕ) : ℕ → Text → List Text
  | 0, _ => []
  | fuel + 1, s =>
    match fgets size s with
    | none => []
    | some (line, rest) => line :: fgetsLoop size fuel rest

def fgetsAll (size : ℕ) (s : Text) : List Text := fgetsLoop size s.length s

theorem takeLine_append (n : ℕ) (s : Text) : (takeLine n s).1 ++ (takeLine n s).2 = s := by
  induction n generalizing s with
  | zero => rfl
  | succ n ih =>
    cases s with
    | nil => rfl
    | cons c s =>
      simp only [takeLine]
      split_ifs
      · rfl
      · simp [ih s]

theorem takeLine_rest_length {n : ℕ} {s : Text} (hn : 0 < n) (hs : s ≠ []) :
    (takeLine n s).2.length < s.length := by
  obtain ⟨n, rfl⟩ := Nat.exists_eq_succ_of_ne_zero hn.ne'
  obtain ⟨c, s, rfl⟩ := List.exists_cons_of_ne_nil hs
  have h := congrArg List.length (takeLine_append n s)
  simp only [List.length_append] at h
  simp only [takeLine]
  split_ifs
  · simp
  · simp only [List.length_cons]
    omega

theorem takeLine_line {n : ℕ} {l : Text} (hl : lf ∉ l) (hn : l.length < n) (rest : Text) :
    takeLine n (l ++ lf :: rest) = (l ++ [lf], rest) := by
  induction l generalizing n with
  | nil =>
    obtain ⟨n, rfl⟩ := Nat.exists_eq_succ_of_ne_zero (Nat.ne_of_gt hn)
    simp [takeLine]
  | cons c l ih =>
    obtain ⟨n, rfl⟩ := Nat.exists_eq_succ_of_ne_zero (Nat.ne_of_gt (Nat.zero_lt_of_lt hn))
    have hc : c ≠ lf := fun he => hl (he ▸ List.mem_cons_self)
    have hi := ih (fun hm => hl (List.mem_cons_of_mem _ hm)) (by simpa using hn)
    simp [takeLine, hc, hi]

theorem takeLine_append_of {n : ℕ} {a : Text} (h : lf ∈ a ∨ n ≤ a.length) (s : Text) :
    takeLine n (a ++ s) = ((takeLine n a).1, (takeLine n a).2 ++ s) := by
  induction n generalizing a with
  | zero => rfl
  | succ n ih =>
    cases a with
    | nil => simp at h
    | cons c a =>
      by_cases hc : c = lf
      · simp [takeLine, hc]
      · have ha : lf ∈ a ∨ n ≤ a.length := by
          rcases h with h | h
          · exact Or.inl ((List.mem_cons.mp h).resolve_left (Ne.symm hc))
          · exact Or.inr (by simpa using h)
        simp [takeLine, hc, ih ha]

theorem takeLine_of_no_lf (n : ℕ) {a : Text} (ha : lf ∉ a) :
    takeLine n a = (a.take n, a.drop n) := by
  induction n generalizing a with
  | zero => rfl
  | succ n ih =>
    cases a with
    | nil => rfl
    | cons c a =>
      have hc : c ≠ lf := fun he => ha (he ▸ List.mem_cons_self)
      simp [takeLine, hc, ih fun hm => ha (List.mem_cons_of_mem _ hm)]

theorem fgetsLoop_fuel {size : ℕ} (hsize : 2 ≤ size) {s : Text} {fuel : ℕ}
    (hf : s.length ≤ fuel) : fgetsLoop size fuel s = fgetsAll size s := by
  induction fuel using Nat.strong_induction_on generalizing s with
  | _ fuel ih =>
    by_cases hs : s = []
    · subst hs
      cases fuel <;> rfl
    · have hlt := takeLine_rest_length (show 0 < size - 1 by omega) hs
      obtain ⟨k, hk⟩ := Nat.exists_eq_succ_of_ne_zero (Nat.ne_of_gt (List.length_pos_iff.mpr hs))
      obtain ⟨m, rfl⟩ := Nat.exists_eq_succ_of_ne_zero (show fuel ≠ 0 by omega)
      -- both sides read the same first line; the rest is shorter than either fuel
      simp only [fgetsAll, hk, Nat.succ_eq_add_one, fgetsLoop, fgets, hs, if_false]
      rw [ih m (by omega) (by omega), ← ih k (by omega) (by omega)]

theorem fgetsAll_cons {size : ℕ} (hsize : 2 ≤ size) {s : Text} (hs : s ≠ []) :
    fgetsAll size s =
      (takeLine (size - 1) s).1 :: fgetsAll size (takeLine (size - 1) s).2 := by
  have hlt := takeLine_rest_length (show 0 < size - 1 by omega) hs
  obtain ⟨k, hk⟩ := Nat.exists_eq_succ_of_ne_zero (Nat.ne_of_gt (List.length_pos_iff.mpr hs))
  rw [fgetsAll, hk, ← fgetsLoop_fuel hsize (show _ ≤ k by omega)]
  simp [fgetsLoop, fgets, hs]

theorem fgetsAll_line {size : ℕ} {l : Text} (hl : lf ∉ l) (hsize : l.length + 2 ≤ size)
    (rest : Text) : fgetsAll size (l ++ lf :: rest) = (l ++ [lf]) :: fgetsAll size rest := by
  rw [fgetsAll_cons (by omega) (by simp), takeLine_line hl (by omega)]

theorem fgetsAll_lines {size : ℕ} (ls : List Text)
    (h : ∀ l ∈ ls, lf ∉ l ∧ l.length + 2 ≤ size) :
    fgetsAll size (ls.flatMap (· ++ [lf])) = ls.map (· ++ [lf]) := by
  induction ls with
  | nil => rfl
  | cons l ls ih =>
    obtain ⟨hl, hsize⟩ := h l (by simp)
    have hi := ih fun m hm => h m (List.mem_cons_of_mem _ hm)
    simp only [List.flatMap_cons, List.map_cons, List.append_assoc, List.cons_append,
      List.nil_append]
    rw [fgetsAll_line hl hsize, hi]

/-- `snprintf(buf + offset, size, …)` printing `text`. -/
def snprintf (buf : Text) (offset size : ℕ) (text : Text) : Text :=
  if size = 0 then buf
  else
    let stored := text.take (size - 1) ++ [nul]
    buf.take offset ++ stored ++ buf.drop (offset + stored.length)

theorem snprintf_fits {buf pre text : Text} (hpre : pre <+: buf)
    (hfit : pre.length + text.length < buf.length) :
    pre ++ text ++ [nul] <+: snprintf buf pre.length (buf.length - pre.length) text := by
  obtain ⟨rest, rfl⟩ := hpre
  have hsize : (pre ++ rest).length - pre.length ≠ 0 := by
    simp only [List.length_append] at hfit ⊢
    omega
  have htake : text.take ((pre ++ rest).length - pre.length - 1) = text := by
    apply List.take_of_length_le
    simp only [List.length_append] at hfit ⊢
    omega
  simp only [snprintf, hsize, if_false, htake, List.take_left, ← List.append_assoc]
  exact List.prefix_append _ _

theorem snprintf_length {buf : Text} {offset : ℕ} (ho : offset ≤ buf.length) (text : Text) :
    (snprintf buf offset (buf.length - offset) text).length = buf.length := by
  rw [snprintf]
  split_ifs with h0
  · rfl
  · simp only [List.length_append, List.length_take, List.length_drop, List.length_singleton]
    omega

/-- A buffer that texts are printed into one after the other. A text that does
not fit is cut off, and nothing is printed after it. -/
structure Out where
  buf : Text
  offset : ℕ
  failed : Bool

def Out.start (buf : Text) : Out := ⟨buf, 0, false⟩

def Out.printf (out : Out) (text : Text) : Out :=
  if out.failed then out
  else
    let buf := snprintf out.buf out.offset (out.buf.length - out.offset) text
    if out.buf.length ≤ out.offset + text.length then { out with buf := buf, failed := true }
    else { out with buf := buf, offset := out.offset + text.length }

/-- Printing without a look at the room that is left; past the end of the buffer,
where C goes wrong, nothing is stored. -/
def Out.print (out : Out) (text : Text) : Out :=
  { out with
    buf := snprintf out.buf out.offset (out.buf.length - out.offset) text
    offset := out.offset + text.length }

structure Out.Holds (out : Out) (t : Text) : Prop where
  failed_eq : out.failed = false
  offset_eq : out.offset = t.length
  is_prefix : t <+: out.buf

theorem Out.start_holds (buf : Text) : (Out.start buf).Holds [] := ⟨rfl, rfl, List.nil_prefix⟩

theorem Out.printf_failed {out : Out} (h : out.failed = true) (text : Text) :
    out.printf text = out := by
  rw [Out.printf, if_pos h]

theorem Out.Holds.printf {out : Out} {t : Text} (h : out.Holds t) (text : Text) :
    let out' := out.printf text
    out'.buf.length = out.buf.length ∧
      (out.buf.length ≤ t.length + text.length ∧ out'.failed = true ∨
        t.length + text.length < out.buf.length ∧ out'.Holds (t ++ text) ∧
          t ++ text ++ [nul] <+: out'.buf) := by
  have hle : out.offset ≤ out.buf.length := h.offset_eq ▸ h.is_prefix.length_le
  have hlen := snprintf_length hle text
  simp only [Out.printf, h.failed_eq, Bool.false_eq_true, if_false, h.offset_eq] at hlen ⊢
  by_cases hfit : out.buf.length ≤ t.length + text.length
  · rw [if_pos hfit]
    exact ⟨hlen, Or.inl ⟨hfit, rfl⟩⟩
  · have hpre := snprintf_fits h.is_prefix (Nat.lt_of_not_le hfit)
    rw [if_neg hfit]
    refine ⟨hlen, Or.inr ⟨Nat.lt_of_not_le hfit, ⟨rfl, by simp, ?_⟩, hpre⟩⟩
    exact (List.prefix_append _ _).trans hpre

theorem Out.Holds.print {out : Out} {t : Text} (h : out.Holds t) (text : Text)
    (hfits : t.length + text.length < out.buf.length) : out.print text = out.printf text := by
  have hroom : ¬ out.buf.length ≤ out.offset + text.length := by
    rw [h.offset_eq]
    omega
  simp only [Out.print, Out.printf, h.failed_eq, Bool.false_eq_true, if_false, if_neg hroom]

theorem Out.foldl_printf_failed {out : Out} (h : out.failed = true) (ts : List Text) :
    ts.foldl Out.printf out = out := by
  induction ts with
  | nil => rfl
  | cons t ts ih => rw [List.foldl_cons, Out.printf_failed h, ih]

theorem Out.Holds.foldl_printf {out : Out} {t : Text} (h : out.Holds t) (ts : List Text)
    (hts : ts ≠ []) :
    let out' := ts.foldl Out.printf out
    (out'.failed = false ↔ t.length + ts.flatten.length < out.buf.length) ∧
      (out'.failed = false → t ++ ts.flatten ++ [nul] <+: out'.buf) := by
  induction ts generalizing out t with
  | nil => exact absurd rfl hts
  | cons text ts ih =>
    obtain ⟨hlen, hcase⟩ := h.printf text
    rw [List.foldl_cons, List.flatten_cons, List.length_append]
    rcases hcase with ⟨hfull, hfail⟩ | ⟨hfit, hholds, hpre⟩
    · dsimp only
      rw [Out.foldl_printf_failed hfail, hfail]
      exact ⟨iff_of_false (by simp) (by omega), by simp⟩
    · by_cases hnil : ts = []
      · subst hnil
        simpa [hholds.failed_eq, hfit] using hpre
      · obtain ⟨hiff, hbuf⟩ := ih hholds hnil
        rw [hlen, List.length_append, Nat.add_assoc] at hiff
        exact ⟨hiff, by simpa only [List.append_assoc] using hbuf⟩

end PnetManager.CStdio
