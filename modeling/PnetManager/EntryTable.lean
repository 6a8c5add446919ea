import Mathlib

/-!
# Tables of entries that stay

Entries are added at the end of a list and never leave it; an entry that is no
longer live is passed over. Such a table shows the finite map of its live entries.
-/

namespace PnetManager.EntryTable

variable {K E : Type*} (key : E → K) (live : E → Bool)

def liveKeys (es : List E) : List K := (es.filter live).map key

section

variable {key live} {e : E}

theorem liveKeys_append (es fs : List E) :
    liveKeys key live (es ++ fs) = liveKeys key live es ++ liveKeys key live fs := by
  simp [liveKeys]

theorem liveKeys_cons_live (h : live e = true) (es : List E) :
    liveKeys key live (e :: es) = key e :: liveKeys key live es := by
  simp [liveKeys, h]

theorem liveKeys_cons_dead (h : live e = false) (es : List E) :
    liveKeys key live (e :: es) = liveKeys key live es := by
  simp [liveKeys, h]

end

def modifyFirst (p : E → Bool) (f : E → E) : List E → Option (List E)
  | [] => none
  | e :: es => if p e then some (f e :: es) else (modifyFirst p f es).map (e :: ·)

theorem modifyFirst_cases (p : E → Bool) (f : E → E) (es : List E) :
    (es.find? p = none ∧ modifyFirst p f es = none) ∨
      ∃ pre e post, es = pre ++ e :: post ∧ es.find? p = some e ∧ (∀ x ∈ pre, p x = false) ∧
        modifyFirst p f es = some (pre ++ f e :: post) := by
  induction es with
  | nil => exact Or.inl ⟨rfl, rfl⟩
  | cons x es ih =>
    by_cases hx : p x = true
    · exact Or.inr ⟨[], x, es, rfl, by rw [List.find?_cons_of_pos hx], by simp,
        by rw [modifyFirst, if_pos hx]; rfl⟩
    · have hfind : (x :: es).find? p = es.find? p := List.find?_cons_of_neg hx
      rw [modifyFirst, if_neg hx, hfind]
      rcases ih with ih | ih
      · exact Or.inl ⟨ih.1, by rw [ih.2]; rfl⟩
      · obtain ⟨pre, e, post, hes, hfound, hpre, hmod⟩ := ih
        refine Or.inr ⟨x :: pre, e, post, by rw [hes]; rfl, hfound, ?_, by rw [hmod]; rfl⟩
        simpa [hx] using hpre

variable [DecidableEq K]

def find (k : K) (es : List E) : Option E := es.find? fun e => key e = k ∧ live e

/-- `m` holds the live entries of `es`, and no two of these have one key. -/
structure Shows (es : List E) (m : Finmap fun _ : K => E) : Prop where
  lookup : ∀ k, find key live k es = m.lookup k
  nodup : (liveKeys key live es).Nodup

variable {key live} {es pre post : List E} {e e' : E} {k : K} {m : Finmap fun _ : K => E}

theorem find_eq_none_iff : find key live k es = none ↔ k ∉ liveKeys key live es := by
  simp only [find, liveKeys, List.find?_eq_none, List.mem_map, List.mem_filter]
  constructor
  · intro h hmem
    obtain ⟨e, he, hkey⟩ := hmem
    exact h e he.1 (by simp [hkey, he.2])
  · intro h e he hfound
    obtain ⟨hkey, hlive⟩ := of_decide_eq_true hfound
    exact h ⟨e, ⟨he, hlive⟩, hkey⟩

theorem find_append (k : K) (es fs : List E) :
    find key live k (es ++ fs) = (find key live k es).or (find key live k fs) :=
  List.find?_append

theorem find_cons_of_not (h : ¬ (key e = k ∧ live e = true)) (es : List E) :
    find key live k (e :: es) = find key live k es :=
  List.find?_cons_of_neg (by simpa using h)

theorem find_cons_of (hkey : key e = k) (hlive : live e = true) (es : List E) :
    find key live k (e :: es) = some e :=
  List.find?_cons_of_pos (by simp [hkey, hlive])

theorem find_replace (h : ¬ (key e = k ∧ live e = true)) (h' : ¬ (key e' = k ∧ live e' = true)) :
    find key live k (pre ++ e' :: post) = find key live k (pre ++ e :: post) := by
  rw [find_append, find_append, find_cons_of_not h, find_cons_of_not h']

namespace Shows

theorem empty : Shows key live ([] : List E) ∅ where
  lookup k := by
    rw [Finmap.lookup_empty]
    rfl
  nodup := List.nodup_nil

theorem mem_iff (h : Shows key live es m) (k : K) : k ∈ m ↔ k ∈ liveKeys key live es := by
  rw [← not_iff_not, ← find_eq_none_iff, h.lookup, Finmap.lookup_eq_none]

theorem card (h : Shows key live es m) : m.keys.card = (es.filter live).length := by
  have hkeys : m.keys = (liveKeys key live es).toFinset := by
    ext k
    rw [Finmap.mem_keys, h.mem_iff, List.mem_toFinset]
  rw [hkeys, List.toFinset_card_of_nodup h.nodup, liveKeys, List.length_map]

theorem snoc (h : Shows key live es m) (hkey : key e = k) (hlive : live e = true) (hk : k ∉ m) :
    Shows key live (es ++ [e]) (m.insert k e) where
  lookup k' := by
    rw [find_append, h.lookup]
    by_cases hk' : k' = k
    · rw [hk', Finmap.lookup_insert, Finmap.lookup_eq_none.mpr hk, find_cons_of hkey hlive]
      rfl
    · rw [Finmap.lookup_insert_of_ne _ hk', find_cons_of_not fun he => hk' (he.1.symm.trans hkey)]
      exact Option.or_none
  nodup := by
    have hmem : k ∉ liveKeys key live es := fun hmem => hk ((h.mem_iff k).mpr hmem)
    rw [liveKeys_append, liveKeys_cons_live hlive, hkey, List.nodup_append_comm]
    exact List.nodup_cons.mpr ⟨hmem, h.nodup⟩

theorem alone (h : Shows key live (pre ++ e :: post) m) (hkey : key e = k)
    (hlive : live e = true) :
    k ∉ liveKeys key live pre ++ liveKeys key live post ∧
      (liveKeys key live pre ++ liveKeys key live post).Nodup := by
  have hnodup := h.nodup
  rw [liveKeys_append, liveKeys_cons_live hlive, hkey, List.nodup_middle] at hnodup
  exact List.nodup_cons.mp hnodup

theorem update (h : Shows key live (pre ++ e :: post) m) (hkey : key e = k)
    (hlive : live e = true) (hkey' : key e' = k) (hlive' : live e' = true) :
    Shows key live (pre ++ e' :: post) (m.insert k e') := by
  obtain ⟨hk, hrest⟩ := h.alone hkey hlive
  have hfirst : find key live k pre = none :=
    find_eq_none_iff.mpr fun hmem => hk (List.mem_append_left _ hmem)
  constructor
  · intro k'
    by_cases hk' : k' = k
    · rw [hk', find_append, hfirst, find_cons_of hkey' hlive', Finmap.lookup_insert]
      rfl
    · rw [Finmap.lookup_insert_of_ne _ hk', ← h.lookup]
      exact find_replace (fun he => hk' (he.1.symm.trans hkey))
        fun he => hk' (he.1.symm.trans hkey')
  · rw [liveKeys_append, liveKeys_cons_live hlive', hkey', List.nodup_middle]
    exact List.nodup_cons.mpr ⟨hk, hrest⟩

theorem kill (h : Shows key live (pre ++ e :: post) m) (hkey : key e = k)
    (hlive : live e = true) (hdead : live e' = false) :
    Shows key live (pre ++ e' :: post) (m.erase k) := by
  obtain ⟨hk, hrest⟩ := h.alone hkey hlive
  have hkeys : liveKeys key live (pre ++ e' :: post) =
      liveKeys key live pre ++ liveKeys key live post := by
    rw [liveKeys_append, liveKeys_cons_dead hdead]
  constructor
  · intro k'
    by_cases hk' : k' = k
    · rw [hk', Finmap.lookup_erase, find_eq_none_iff, hkeys]
      exact hk
    · rw [Finmap.lookup_erase_ne hk', ← h.lookup]
      exact find_replace (fun he => hk' (he.1.symm.trans hkey)) fun he => by simp [hdead] at he
  · rw [hkeys]
    exact hrest

end Shows

end PnetManager.EntryTable
