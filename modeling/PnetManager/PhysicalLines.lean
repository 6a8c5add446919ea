import PnetManager.ConfigFile

/-!
# Assignments line by line

The loading loop reads a file line feed by line feed, and a line that is longer
than its buffer in several pieces. What a line assigns is read off from the
texts on both sides of its first `=`.
-/

namespace PnetManager.PhysicalLines
open CText CNumber CStdio ConfigFile

theorem rdropWhile_append_of_nil {a b : Text} (h : b.rdropWhile isspace = []) :
    (a ++ b).rdropWhile isspace = a.rdropWhile isspace := by
  have hb : b.reverse.dropWhile isspace = [] := by simpa [List.rdropWhile] using h
  simp [List.rdropWhile, List.dropWhile_append, hb]

theorem rdropWhile_append_of_ne_nil {a b : Text} (h : b.rdropWhile isspace ≠ []) :
    (a ++ b).rdropWhile isspace = a ++ b.rdropWhile isspace := by
  have hb : b.reverse.dropWhile isspace ≠ [] := by simpa [List.rdropWhile] using h
  simp [List.rdropWhile, List.dropWhile_append, hb]

theorem rdropWhile_cons {c : Byte} (hc : isspace c = false) (s : Text) :
    (c :: s).rdropWhile isspace = c :: s.rdropWhile isspace := by
  by_cases hs : s.rdropWhile isspace = []
  · have happ := rdropWhile_append_of_nil (a := [c]) hs
    rw [List.singleton_append] at happ
    rw [happ, hs]
    simp [List.rdropWhile, hc]
  · exact rdropWhile_append_of_ne_nil (a := [c]) hs

theorem trim_of_dropWhile {s q : Text} {c : Byte} (h : s.dropWhile isspace = c :: q) :
    isspace c = false ∧ trim s = c :: q.rdropWhile isspace := by
  have hc : isspace c = false := by
    have hne : s.dropWhile isspace ≠ [] := by simp [h]
    have hhead := List.head_dropWhile_not isspace hne
    simpa [h] using hhead
  exact ⟨hc, by rw [trim, h, rdropWhile_cons hc]⟩

theorem strip_eq_trim (s : Text) : strip s = trim s := by
  rw [strip]
  cases h : s.dropWhile isspace with
  | nil =>
    rw [trim, h]
    rfl
  | cons c rest => exact (trim_of_dropWhile h).2.symm

theorem dropWhile_rdropWhile (s : Text) :
    (s.rdropWhile isspace).dropWhile isspace = trim s := by
  induction s with
  | nil => rfl
  | cons c s ih =>
    cases hc : isspace c with
    | false =>
      rw [trim, rdropWhile_cons hc, List.dropWhile_cons_of_neg (by simp [hc]),
        List.dropWhile_cons_of_neg (by simp [hc]), rdropWhile_cons hc]
    | true =>
      have htrim : trim (c :: s) = trim s := by
        rw [trim, List.dropWhile_cons_of_pos hc, trim]
      rw [htrim, ← ih]
      by_cases hs : s.rdropWhile isspace = []
      · have happ := rdropWhile_append_of_nil (a := [c]) hs
        rw [List.singleton_append] at happ
        rw [happ, hs]
        simp [List.rdropWhile, hc]
      · have happ := rdropWhile_append_of_ne_nil (a := [c]) hs
        rw [List.singleton_append] at happ
        rw [happ, List.singleton_append, List.dropWhile_cons_of_pos hc]

theorem trim_rdropWhile (s : Text) : trim (s.rdropWhile isspace) = trim s := by
  rw [trim, dropWhile_rdropWhile, trim, List.rdropWhile_idempotent]

theorem trim_dropWhile (s : Text) : trim (s.dropWhile isspace) = trim s := by
  rw [trim, List.dropWhile_idempotent, trim]

theorem trim_eq_nil_iff (s : Text) : trim s = [] ↔ ∀ b ∈ s, isspace b = true := by
  rw [trim, List.rdropWhile_eq_nil_iff]
  constructor
  · intro h b hb
    by_contra hspace
    have hne : s.dropWhile isspace ≠ [] := by
      rw [ne_eq, List.dropWhile_eq_nil_iff]
      exact fun hall => hspace (hall b hb)
    have hhead := h _ (List.head_mem hne)
    simp [List.head_dropWhile_not isspace hne] at hhead
  · intro h b hb
    exact h b ((List.dropWhile_sublist _).subset hb)

theorem cutLine_append {p : Text} (h : ∀ b ∈ p, b ≠ nul ∧ b ≠ cr ∧ b ≠ lf) (r : Text) :
    cutLine (p ++ r) = p ++ cutLine r := by
  have hnul : ∀ b ∈ p, decide (b ≠ nul) = true := fun b hb => by simpa using (h b hb).1
  have hcut : ∀ b ∈ p, decide (b ≠ cr ∧ b ≠ lf) = true := fun b hb => by simpa using (h b hb).2
  rw [cutLine, cstr, List.takeWhile_append_of_pos hnul, List.takeWhile_append_of_pos hcut]
  rfl

theorem cutLine_of_clean {l : Text} (hnul : nul ∉ l) (hcr : cr ∉ l) (hlf : lf ∉ l) :
    cutLine l = l := by
  have hclean : ∀ b ∈ l, b ≠ nul ∧ b ≠ cr ∧ b ≠ lf := fun b hb =>
    ⟨fun he => hnul (he ▸ hb), fun he => hcr (he ▸ hb), fun he => hlf (he ▸ hb)⟩
  have happ := cutLine_append hclean []
  rwa [List.append_nil, show cutLine [] = [] from rfl, List.append_nil] at happ

theorem mem_cutLine {l : Text} {b : Byte} (h : b ∈ cutLine l) : b ≠ nul ∧ b ≠ cr ∧ b ≠ lf := by
  have hcut : b ≠ cr ∧ b ≠ lf := by
    simpa using List.mem_takeWhile_imp h
  have hnul : b ≠ nul := fun he =>
    nul_not_mem_cstr l (he ▸ (List.takeWhile_sublist _).subset h)
  exact ⟨hnul, hcut⟩

theorem cutLine_cutLine (l : Text) : cutLine (cutLine l) = cutLine l :=
  cutLine_of_clean (fun h => (mem_cutLine h).1 rfl) (fun h => (mem_cutLine h).2.1 rfl)
    fun h => (mem_cutLine h).2.2 rfl

theorem cutLine_cons_stop {c : Byte} (h : c = nul ∨ c = cr ∨ c = lf) (r : Text) :
    cutLine (c :: r) = [] := by
  rcases h with rfl | rfl | rfl <;> rfl

theorem cutLine_append_stop {c : Byte} (h : c = nul ∨ c = cr ∨ c = lf) (l r : Text) :
    cutLine (l ++ c :: r) = cutLine l := by
  induction l with
  | nil => rw [List.nil_append, cutLine_cons_stop h]; rfl
  | cons d l ih =>
    by_cases hd : d = nul ∨ d = cr ∨ d = lf
    · rw [List.cons_append, cutLine_cons_stop hd, cutLine_cons_stop hd]
    · have hclean : ∀ b ∈ [d], b ≠ nul ∧ b ≠ cr ∧ b ≠ lf := by
        simpa [not_or] using hd
      have h1 := cutLine_append hclean (l ++ c :: r)
      have h2 := cutLine_append hclean l
      rw [List.singleton_append] at h1 h2
      rw [List.cons_append, h1, h2, ih]

theorem splitLine_congr {l l' : Text} (h : cutLine l = cutLine l') :
    splitLine l = splitLine l' := by
  rw [splitLine, h, splitLine]

theorem splitLine_of_head {l q : Text} {c : Byte}
    (h : (cutLine l).dropWhile isspace = c :: q) (hc : c = 35 ∨ c = 59 ∨ c = 61) :
    splitLine l = none := by
  rw [splitLine, strip_eq_trim, (trim_of_dropWhile h).2]
  rcases hc with rfl | rfl | rfl
  · rfl
  · rfl
  · simp [show strip [] = [] from rfl]

theorem splitLine_of_blank {l : Text} (h : (cutLine l).dropWhile isspace = []) :
    splitLine l = none := by
  rw [splitLine, strip_eq_trim, trim, h]
  rfl

theorem splitLine_of_no_eq {l : Text} (h : 61 ∉ cutLine l) : splitLine l = none := by
  have hno : ∀ b ∈ trim (cutLine l), decide (b ≠ 61) = true := by
    intro b hb
    have hmem : b ∈ cutLine l :=
      (List.dropWhile_sublist _).subset ((List.rdropWhile_prefix _ _).subset hb)
    have hne : b ≠ 61 := fun he => h (he ▸ hmem)
    simpa using hne
  have hdrop : (trim (cutLine l)).dropWhile (· ≠ 61) = [] := List.dropWhile_eq_nil_iff.mpr hno
  rw [splitLine, strip_eq_trim, hdrop]
  cases (trim (cutLine l)).head? with
  | none => rfl
  | some c =>
    dsimp only
    split_ifs <;> rfl

theorem splitLine_lf (l : Text) : splitLine (l ++ [lf]) = splitLine l :=
  splitLine_congr (cutLine_append_stop (by simp) l [])

structure OpensKey (p key : Text) : Prop where
  clean : ∀ b ∈ p, b ≠ nul ∧ b ≠ cr ∧ b ≠ lf ∧ b ≠ 61
  trimmed : trim p = key
  ne_nil : key ≠ []
  no_comment : ∀ b ∈ key.head?, b ≠ 35 ∧ b ≠ 59

theorem splitLine_opensKey {p key : Text} (h : OpensKey p key) (r : Text) :
    splitLine (p ++ 61 :: r) =
      if trim (cutLine r) = [] then none else some (key, trim (cutLine r)) := by
  have hcut : cutLine (p ++ 61 :: r) = p ++ 61 :: cutLine r := by
    have h1 := cutLine_append (p := p ++ [61]) (by
      intro b hb
      rcases List.mem_append.mp hb with hb | hb
      · obtain ⟨h1, h2, h3, -⟩ := h.clean b hb
        exact ⟨h1, h2, h3⟩
      · rw [List.mem_singleton.mp hb]
        decide) r
    simpa only [List.append_assoc, List.singleton_append] using h1
  obtain ⟨c, q, hq⟩ : ∃ c q, p.dropWhile isspace = c :: q := by
    refine List.exists_cons_of_ne_nil fun hnil => h.ne_nil ?_
    rw [← h.trimmed, trim, hnil, List.rdropWhile_nil]
  have hsuffix : p.dropWhile isspace <:+ p := List.dropWhile_suffix _
  have htrim : strip (p ++ 61 :: cutLine r) = c :: (q ++ 61 :: (cutLine r).rdropWhile isspace) := by
    have hne : p.dropWhile isspace ≠ [] := by simp [hq]
    have hdrop : (p ++ 61 :: cutLine r).dropWhile isspace = (c :: q) ++ 61 :: cutLine r := by
      rw [List.dropWhile_append, if_neg (by simpa using hne), hq]
    have heq : (61 :: cutLine r).rdropWhile isspace = 61 :: (cutLine r).rdropWhile isspace :=
      rdropWhile_cons (by decide) _
    rw [strip_eq_trim, trim, hdrop, rdropWhile_append_of_ne_nil (by simp [heq]), heq]
    rfl
  have hno : ∀ b ∈ c :: q, decide (b ≠ 61) = true := by
    intro b hb
    simpa using (h.clean b (hsuffix.subset (hq ▸ hb))).2.2.2
  have hcomment : c ≠ 35 ∧ c ≠ 59 := by
    refine h.no_comment c ?_
    rw [← h.trimmed, (trim_of_dropWhile hq).2]
    rfl
  have hkey' : strip (c :: q) = key := by
    rw [strip_eq_trim, ← hq, trim_dropWhile, h.trimmed]
  have hval : strip ((cutLine r).rdropWhile isspace) = trim (cutLine r) := by
    rw [strip_eq_trim, trim_rdropWhile]
  have htake : (c :: (q ++ 61 :: (cutLine r).rdropWhile isspace)).takeWhile (· ≠ 61) = c :: q := by
    rw [← List.cons_append, List.takeWhile_append_of_pos hno]
    simp
  have hrest : (c :: (q ++ 61 :: (cutLine r).rdropWhile isspace)).dropWhile (· ≠ 61) =
      61 :: (cutLine r).rdropWhile isspace := by
    rw [← List.cons_append, List.dropWhile_append_of_pos hno]
    simp
  simp only [splitLine, hcut, htrim, List.head?_cons, hcomment.1, hcomment.2, or_self, if_false,
    htake, hrest, hkey', hval, ne_eq, h.ne_nil, not_false_eq_true, true_and]
  split_ifs <;> rfl

theorem assignments_cons {s : Text} (hs : s ≠ []) :
    assignments s =
      (splitLine (takeLine 511 s).1).toList ++ assignments (takeLine 511 s).2 := by
  rw [assignments, fgetsAll_cons (by norm_num) hs, List.filterMap_cons]
  cases splitLine (takeLine (512 - 1) s).1 <;> rfl

theorem assignments_short {l : Text} (h : lf ∉ l) (hlen : l.length ≤ 511) :
    assignments l = (splitLine l).toList := by
  by_cases hnil : l = []
  · subst hnil
    rfl
  · rw [assignments_cons hnil, takeLine_of_no_lf 511 h, List.take_of_length_le hlen,
      List.drop_of_length_le hlen]
    exact List.append_nil _

theorem assignments_append_lf (a b : Text) :
    assignments (a ++ lf :: b) = assignments a ++ assignments b := by
  induction hk : a.length using Nat.strong_induction_on generalizing a with
  | _ k ih =>
    by_cases hwithin : lf ∈ a ∨ 511 ≤ a.length
    · -- the buffer is filled from `a` alone
      have hnil : a ≠ [] := by
        intro hnil
        simp [hnil] at hwithin
      have hlt := takeLine_rest_length (n := 511) (by norm_num) hnil
      rw [assignments_cons (by simp), takeLine_append_of hwithin, ih _ (by omega) _ rfl,
        assignments_cons hnil, List.append_assoc]
    · rw [not_or, not_le] at hwithin
      obtain ⟨hlf, hlen⟩ := hwithin
      rw [assignments_cons (by simp), takeLine_line hlf hlen, assignments_short hlf hlen.le,
        splitLine_lf]

def around (before after : Option Text) (line : Text) : Text :=
  before.elim [] (· ++ [lf]) ++ line ++ after.elim [] (lf :: ·)

theorem assignments_around (before after : Option Text) {line : Text} (h : lf ∉ line)
    (hlen : line.length ≤ 511) :
    assignments (around before after line) =
      before.elim [] assignments ++ (splitLine line).toList ++ after.elim [] assignments := by
  have hline := assignments_short h hlen
  have hafter : assignments (line ++ after.elim [] (lf :: ·)) =
      (splitLine line).toList ++ after.elim [] assignments := by
    cases after with
    | none => simpa using hline
    | some q => rw [Option.elim, assignments_append_lf, hline, Option.elim]
  cases before with
  | none => exact hafter
  | some p =>
    rw [around, Option.elim, List.append_assoc, List.append_assoc, List.singleton_append,
      assignments_append_lf, hafter, ← List.append_assoc]
    rfl

theorem line_induction {P : Text → Prop} (hlast : ∀ l, lf ∉ l → P l)
    (hline : ∀ l s, lf ∉ l → P s → P (l ++ lf :: s)) (s : Text) : P s := by
  induction hk : s.length using Nat.strong_induction_on generalizing s with
  | _ k ih =>
    by_cases hlf : lf ∈ s
    · obtain ⟨l, r, rfl, hl⟩ := List.eq_append_cons_of_mem hlf
      rw [List.length_append, List.length_cons] at hk
      exact hline l r hl (ih _ (by omega) r rfl)
    · exact hlast s hlf

theorem lf_not_mem_line (file : Text) : ∀ l ∈ file.splitOn lf, lf ∉ l := by
  induction file using line_induction with
  | hlast l hl =>
    rw [List.splitOn_eq_singleton hl]
    simpa using hl
  | hline l s hl ih =>
    rw [List.splitOn_append_cons_self_of_not_mem hl]
    exact List.forall_mem_cons.mpr ⟨hl, ih⟩

theorem assignments_lines (file : Text) :
    assignments file = (file.splitOn lf).flatMap assignments := by
  induction file using line_induction with
  | hlast l hl => rw [List.splitOn_eq_singleton hl, List.flatMap_singleton]
  | hline l s hl ih =>
    rw [assignments_append_lf, ih, List.splitOn_append_cons_self_of_not_mem hl, List.flatMap_cons]

end PnetManager.PhysicalLines
