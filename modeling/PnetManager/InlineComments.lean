import PnetManager.ConfigReadings
import PnetManager.NumberTails
import PnetManager.PhysicalLines

/-!
# Comments behind values

The loader knows comment lines only: a `#` behind a value belongs to the value.
The number and address parsers leave it unread. A boolean is compared as a whole,
so that `true` with a comment is false, and a comment in the place of a value is
one.
-/

namespace PnetManager.InlineComments
open CText CNumber CStdio ConfigFile ConfigRoundTrip ConfigKeys ConfigReadings NumberTails
  PhysicalLines

set_option maxRecDepth 2000

theorem scanQuad_tail {t : Text} (h : Tail t) (s : Text) : scanQuad (s ++ t) = scanQuad s := by
  have hdot : 35 < (46 : Byte).toNat := by decide
  refine scanU_bind_tail (fun a r t h => ?_) h s
  refine scanChar_bind_tail hdot (fun r t h => ?_) h r
  refine scanU_bind_tail (fun b r t h => ?_) h r
  refine scanChar_bind_tail hdot (fun r t h => ?_) h r
  refine scanU_bind_tail (fun c r t h => ?_) h r
  refine scanChar_bind_tail hdot (fun r t h => ?_) h r
  exact scanU_bind_tail (fun d r t _ => rfl) h r

theorem parseIp_tail {t : Text} (h : Tail t) (s : Text) : parseIp (s ++ t) = parseIp s := by
  rw [parseIp, scanQuad_tail h, parseIp]

theorem parseBool_tail {t : Text} (h : Tail t) (s : Text) : parseBool (s ++ t) = false := by
  obtain ⟨sp, u, rfl, -⟩ := h
  have hno : ∀ w ∈ [ascii "true", ascii "1"], 35 ∉ w := by decide
  have hmem : 35 ∈ s ++ (sp ++ 35 :: u) := by simp
  rw [parseBool, decide_eq_false_iff_not]
  intro heq
  rcases heq with heq | heq
  · exact hno _ (by simp) (heq ▸ hmem)
  · exact hno _ (by simp) (heq ▸ hmem)

theorem reading_tail {t : Text} (h : Tail t) (s : Text) {k : Key} (hk : kindOf k ≠ .text) :
    reading (s ++ t) k = if kindOf k = .boolean then .bool false else reading s k := by
  cases k <;>
    first
    | exact absurd rfl hk
    | simp [reading, kindOf, strtoul_tail h, atoi_tail h, parseIp_tail h, parseBool_tail h]

def plainLine (k : Key) (v : Text) : Text := k.name ++ ascii " = " ++ v

theorem lf_not_mem_plainLine (k : Key) {v : Text} (hv : lf ∉ v) : lf ∉ plainLine k v := by
  have hname := (name_plain k).no_lf
  have heq : lf ∉ ascii " = " := by decide
  simp [plainLine, hname, heq, hv]

def commentedLine (k : Key) (v : Text) (n : ℕ) (c : Text) : Text :=
  plainLine k v ++ List.replicate (n + 1) 32 ++ 35 :: c

theorem opensKey_name (k : Key) : OpensKey (k.name ++ [32]) k.name where
  clean b hb := by
    rcases List.mem_append.mp hb with hb | hb
    · exact (name_opensKey k).clean b hb
    · rw [List.mem_singleton.mp hb]
      decide
  trimmed := by
    rw [← dropWhile_rdropWhile, rdropWhile_append_of_nil (by decide), dropWhile_rdropWhile,
      (name_plain k).trimmed.trim_eq]
  ne_nil := (name_opensKey k).ne_nil
  no_comment := (name_opensKey k).no_comment

theorem trim_space (s : Text) : trim (32 :: s) = trim s := by
  rw [trim, List.dropWhile_cons_of_pos (by decide), trim]

theorem splitLine_plainLine (k : Key) (v : Text) :
    splitLine (plainLine k v) =
      if trim (cutLine v) = [] then none else some (k.name, trim (cutLine v)) := by
  have hline : plainLine k v = (k.name ++ [32]) ++ 61 :: 32 :: v := by
    rw [plainLine, List.append_assoc, List.append_assoc]
    rfl
  have hcut : cutLine (32 :: v) = 32 :: cutLine v := cutLine_append (p := [32]) (by decide) v
  rw [hline, splitLine_opensKey (opensKey_name k), hcut, trim_space]

theorem commentedLine_eq (k : Key) (v : Text) (n : ℕ) (c : Text) :
    commentedLine k v n c = plainLine k (v ++ (List.replicate (n + 1) 32 ++ 35 :: c)) := by
  simp only [commentedLine, plainLine, List.append_assoc]

theorem cutLine_of_stop {v : Text} (h : cr ∈ v ∨ nul ∈ v) (r : Text) :
    cutLine (v ++ r) = cutLine v := by
  have hstop {b : Byte} (hb : b ∈ v) (hbstop : b = nul ∨ b = cr ∨ b = lf) :
      cutLine (v ++ r) = cutLine v := by
    obtain ⟨l, m, rfl⟩ := List.append_of_mem hb
    rw [List.append_assoc, List.cons_append, cutLine_append_stop hbstop,
      cutLine_append_stop hbstop]
  rcases h with h | h
  · exact hstop h (by simp)
  · exact hstop h (by simp)

theorem trim_tail {t : Text} (h : Tail t) (v : Text) :
    ∃ t', Tail t' ∧ trim (v ++ t) = trim v ++ t' := by
  obtain ⟨t', ht', hdrop⟩ := dropSpace_append h v
  obtain ⟨sp, u, rfl, hsp⟩ := ht'
  have hhash : (35 :: u).rdropWhile isspace = 35 :: u.rdropWhile isspace :=
    rdropWhile_cons (by decide) u
  have hsplit : v.dropWhile isspace = trim v ++ (v.dropWhile isspace).rtakeWhile isspace :=
    List.rdropWhile_append_rtakeWhile.symm
  refine ⟨(v.dropWhile isspace).rtakeWhile isspace ++ sp ++ 35 :: u.rdropWhile isspace,
    ⟨_, _, rfl, ?_⟩, ?_⟩
  · intro b hb
    rcases List.mem_append.mp hb with hb | hb
    · exact List.mem_rtakeWhile_imp hb
    · exact hsp b hb
  · calc
      trim (v ++ t) = v.dropWhile isspace ++ sp ++ 35 :: u.rdropWhile isspace := by
        rw [trim, hdrop, ← List.append_assoc, rdropWhile_append_of_ne_nil (by simp [hhash]), hhash]
      _ = trim v ++ (v.dropWhile isspace).rtakeWhile isspace ++ sp ++
          35 :: u.rdropWhile isspace := by
        rw [← hsplit]
      _ = _ := by
        simp only [List.append_assoc]

theorem splitLine_commentedLine {v : Text} (hcr : cr ∉ v) (hnul : nul ∉ v) (hlf : lf ∉ v)
    (k : Key) (n : ℕ) (c : Text) :
    ∃ t, Tail t ∧ splitLine (commentedLine k v n c) = some (k.name, trim v ++ t) := by
  have hclean (sp : Text) (hsp : ∀ b ∈ sp, b = 32) :
      ∀ b ∈ v ++ sp, b ≠ nul ∧ b ≠ cr ∧ b ≠ lf := by
    intro b hb
    rcases List.mem_append.mp hb with hb | hb
    · exact ⟨fun he => hnul (he ▸ hb), fun he => hcr (he ▸ hb), fun he => hlf (he ▸ hb)⟩
    · rw [hsp b hb]
      decide
  have hcut : cutLine (v ++ (List.replicate (n + 1) 32 ++ 35 :: c)) =
      v ++ (List.replicate (n + 1) 32 ++ 35 :: cutLine c) := by
    have hhash : cutLine (35 :: c) = 35 :: cutLine c := cutLine_append (p := [35]) (by decide) c
    rw [← List.append_assoc,
      cutLine_append (hclean _ fun b hb => List.eq_of_mem_replicate hb), hhash, List.append_assoc]
  have htail : Tail (List.replicate (n + 1) 32 ++ 35 :: cutLine c) :=
    ⟨_, _, rfl, fun b hb => by rw [List.eq_of_mem_replicate hb]; decide⟩
  obtain ⟨t, ht, htrim⟩ := trim_tail htail v
  have hne : trim v ++ t ≠ [] := by
    obtain ⟨sp, u, rfl, -⟩ := ht
    simp
  refine ⟨t, ht, ?_⟩
  rw [commentedLine_eq, splitLine_plainLine, hcut, htrim, if_neg hne]

/-- The values whose comments the loader ignores. -/
def Ignored (k : Key) (v : Text) : Prop :=
  cr ∈ v ∨ nul ∈ v ∨
    trim v ≠ [] ∧ (kindOf k = .boolean → trim v ≠ ascii "true" ∧ trim v ≠ ascii "1")

def sampleValue (k : Key) : Text := if kindOf k = .address then ascii "1.1.1.1" else ascii "1"

theorem reading_sampleValue {k : Key} (hk : kindOf k ≠ .text) :
    reading (sampleValue k) k ≠ if kindOf k = .boolean then .bool false else reading [] k := by
  cases k <;> first | exact absurd rfl hk | decide

theorem sampleValue_plain (k : Key) : PlainText (sampleValue k) := by
  rw [sampleValue]
  split_ifs
  · exact plainText_of_graphic (by decide) (graphic_of_all (by decide))
  · exact plainText_of_graphic (by decide) (graphic_of_all (by decide))

theorem sampleLine_spec (k : Key) :
    assignments (plainLine k (sampleValue k)) = [(k.name, sampleValue k)] := by
  have hplain := sampleValue_plain k
  have hlen : (plainLine k (sampleValue k)).length ≤ 511 := by
    have hname := name_length k
    have heq : (ascii " = ").length = 3 := rfl
    have hvalue : (sampleValue k).length ≤ 7 := by
      rw [sampleValue]
      split_ifs <;> decide
    simp only [plainLine, List.length_append]
    omega
  rw [assignments_short (lf_not_mem_plainLine k hplain.no_lf) hlen, splitLine_plainLine,
    cutLine_of_clean hplain.no_nul hplain.no_cr hplain.no_lf, hplain.trimmed.trim_eq,
    if_neg hplain.ne_nil]
  rfl

theorem reading_boolean {k : Key} (hk : kindOf k = .boolean) (v : Text) :
    reading v k = .bool (parseBool v) := by
  cases k <;> first | rfl | simp [kindOf] at hk

theorem reading_tail_iff {t : Text} (ht : Tail t) (s : Text) {k : Key} (hk : kindOf k ≠ .text) :
    reading (s ++ t) k = reading s k ↔
      (kindOf k = .boolean → s ≠ ascii "true" ∧ s ≠ ascii "1") := by
  rw [reading_tail ht s hk]
  by_cases hbool : kindOf k = .boolean
  · rw [if_pos hbool, reading_boolean hbool, imp_iff_right hbool, Reading.bool.injEq, parseBool,
      eq_comm, decide_eq_false_iff_not, not_or]
  · rw [if_neg hbool]
    exact iff_of_true rfl fun h => absurd h hbool

theorem settled_around_iff (k : Key) (u v : Text) :
    (∀ (before after : Option Text) k',
        settled k' (before.elim [] assignments ++ [(k.name, u)] ++ after.elim [] assignments) =
          settled k' (before.elim [] assignments ++ [(k.name, v)] ++ after.elim [] assignments)) ↔
      reading u k = reading v k := by
  constructor
  · intro h
    have halone := h none none k
    simpa only [Option.elim, List.append_nil, settled_last] using halone
  · intro h before after k'
    exact settled_congr h _ _ k'

theorem tail_counts {t : Text} (ht : Tail t) {k : Key} (hk : kindOf k ≠ .text) :
    ¬ ∀ (before after : Option Text) k',
      settled k' (before.elim [] assignments ++ [(k.name, t)] ++ after.elim [] assignments) =
        settled k' (before.elim [] assignments ++ [] ++ after.elim [] assignments) := by
  intro h
  have hsample := h (some (plainLine k (sampleValue k))) none k
  simp only [Option.elim, sampleLine_spec, List.append_nil, settled_last] at hsample
  have hone : settled k [(k.name, sampleValue k)] = reading (sampleValue k) k :=
    settled_last k [] (sampleValue k)
  have htail := reading_tail ht [] hk
  rw [List.nil_append, hsample, hone] at htail
  exact reading_sampleValue hk htail

/-- A comment behind a value is ignored, whatever stands in the other lines, exactly
for values that are there and are neither `true` nor `1` for a boolean key. -/
theorem comment_ignored_iff (old : AppConfig) (path : Text) (k : Key) (hk : kindOf k ≠ .text)
    (v : Text) (hv : lf ∉ v) (n : ℕ) (c : Text) (hc : lf ∉ c)
    (hlen : (commentedLine k v n c).length ≤ 510) :
    (∀ before after, appConfigLoad old path (some (around before after (commentedLine k v n c))) =
        appConfigLoad old path (some (around before after (plainLine k v)))) ↔ Ignored k v := by
  have hplain := lf_not_mem_plainLine k hv
  have hcommented : lf ∉ commentedLine k v n c := by
    have h32 : lf ≠ 32 := by decide
    have h35 : lf ≠ 35 := by decide
    simp [commentedLine, hplain, hc, h32, h35]
  have hshort : (plainLine k v).length ≤ 511 := by
    simp only [commentedLine, List.length_append] at hlen
    omega
  simp only [appConfigLoad_eq, Prod.mk.injEq, true_and, assigned_eq_iff,
    assignments_around _ _ hplain hshort,
    assignments_around _ _ hcommented (hlen.trans (by norm_num))]
  by_cases hstop : cr ∈ v ∨ nul ∈ v
  · have hsame : splitLine (commentedLine k v n c) = splitLine (plainLine k v) := by
      rw [commentedLine_eq, splitLine_plainLine, splitLine_plainLine, cutLine_of_stop hstop]
    rw [hsame]
    refine iff_of_true (fun _ _ _ => rfl) ?_
    rcases hstop with hstop | hstop
    · exact Or.inl hstop
    · exact Or.inr (Or.inl hstop)
  · obtain ⟨hcr, hnul⟩ := not_or.mp hstop
    obtain ⟨t, ht, hline⟩ := splitLine_commentedLine hcr hnul hv k n c
    have hignored : Ignored k v ↔
        trim v ≠ [] ∧ (kindOf k = .boolean → trim v ≠ ascii "true" ∧ trim v ≠ ascii "1") := by
      simp only [Ignored, hcr, hnul, false_or]
    rw [hline, splitLine_plainLine, cutLine_of_clean hnul hcr hv, hignored]
    by_cases hblank : trim v = []
    · -- the comment is the value of the one file, the other one keeps an earlier value
      refine iff_of_false (fun h => tail_counts ht hk ?_) fun h => h.1 hblank
      rw [if_pos hblank, hblank, List.nil_append] at h
      exact h
    · rw [if_neg hblank]
      simp only [Option.toList_some]
      rw [settled_around_iff, reading_tail_iff ht _ hk]
      exact (and_iff_right hblank).symm

theorem comment_ignored_iff_tick :
    let line := commentedLine .tickUs (ascii "1000") 0 (ascii " 1 ms")
    let plain := plainLine .tickUs (ascii "1000")
    appConfigLoad appConfigDefault [] (some (around none none line)) =
      appConfigLoad appConfigDefault [] (some (around none none plain)) :=
  (comment_ignored_iff appConfigDefault [] .tickUs (by decide) (ascii "1000") (by decide) 0
    (ascii " 1 ms") (by decide) (by decide)).mpr (Or.inr (Or.inr (by decide))) none none

/-- Like the line of the reference configuration that locks the memory. -/
theorem lock_memory_comment_disables :
    let line := commentedLine .lockMemory (ascii "1") 8 (ascii " mlockall")
    line = ascii "lock_memory = 1         # mlockall" ∧
      (appConfigLoad appConfigDefault [] (some line)).2.realtime.lockMemory = false ∧
      (appConfigLoad appConfigDefault []
        (some (plainLine .lockMemory (ascii "1")))).2.realtime.lockMemory = true := by
  decide

end PnetManager.InlineComments
