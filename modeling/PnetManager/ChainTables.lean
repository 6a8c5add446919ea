import Mathlib

/-!
# Appending to and flushing named lists

What a sequence of operations does to one list is to put something behind it, or,
once the list has been flushed, to make it something fixed. A sequence run after
another one forgets it exactly when it flushes every list that the other touches.
-/

namespace PnetManager.ChainTables

variable {C R : Type*} [DecidableEq C]

abbrev Tables (C R : Type*) := C → Option (List R)

inductive Op (C R : Type*)
  | append (c : C) (r : R)
  | flush (c : C)
deriving DecidableEq

def Op.chain : Op C R → C
  | .append c _ => c
  | .flush c => c

def Op.on (c : C) (l : List R) : Op C R → List R
  | .append d r => if d = c then l ++ [r] else l
  | .flush d => if d = c then [] else l

def content (c : C) (ops : List (Op C R)) (l : List R) : List R := ops.foldl (Op.on c) l

def applyOps (ops : List (Op C R)) (t : Tables C R) : Tables C R := fun c =>
  (t c).map (content c ops)

def Present (ops : List (Op C R)) (t : Tables C R) : Prop := ∀ op ∈ ops, (t op.chain).isSome

def Flushes (ops : List (Op C R)) (c : C) : Prop := Op.flush c ∈ ops

def Touches (ops : List (Op C R)) (c : C) : Prop := ∃ op ∈ ops, op.chain = c

instance (ops : List (Op C R)) (t : Tables C R) : Decidable (Present ops t) :=
  inferInstanceAs (Decidable (∀ op ∈ ops, (t op.chain).isSome))

theorem applyOps_nil (t : Tables C R) : applyOps [] t = t := by
  funext c
  cases hc : t c <;> simp [applyOps, content, hc]

theorem applyOps_append (ops ops' : List (Op C R)) (t : Tables C R) :
    applyOps (ops ++ ops') t = applyOps ops' (applyOps ops t) := by
  funext c
  cases hc : t c <;> simp [applyOps, content, hc]

theorem applyOps_isSome (ops : List (Op C R)) (t : Tables C R) (c : C) :
    (applyOps ops t c).isSome = (t c).isSome := by
  simp [applyOps]

theorem present_applyOps_iff {ops ops' : List (Op C R)} {t : Tables C R} :
    Present ops (applyOps ops' t) ↔ Present ops t := by
  simp only [Present, applyOps_isSome]

omit [DecidableEq C] in
theorem present_append_iff {ops ops' : List (Op C R)} {t : Tables C R} :
    Present (ops ++ ops') t ↔ Present ops t ∧ Present ops' t := by
  simp only [Present, List.mem_append, or_imp, forall_and]

theorem applyOps_flush_of_absent {c : C} {t : Tables C R} (h : (t c).isSome = false) :
    applyOps [.flush c] t = t := by
  funext d
  cases hd : t d with
  | none => simp [applyOps, hd]
  | some l =>
    have hne : c ≠ d := fun he => by simp [he, hd] at h
    simp [applyOps, content, Op.on, hd, hne]

theorem content_cons (c : C) (op : Op C R) (ops : List (Op C R)) (l : List R) :
    content c (op :: ops) l = content c ops (op.on c l) := rfl

theorem Op.on_of_ne {c : C} {op : Op C R} (h : op.chain ≠ c) (l : List R) : op.on c l = l := by
  cases op <;> exact if_neg h

theorem content_of_not_touches {ops : List (Op C R)} {c : C} (h : ¬ Touches ops c) (l : List R) :
    content c ops l = l := by
  induction ops with
  | nil => rfl
  | cons op ops ih =>
    have hop : op.chain ≠ c := fun he => h ⟨op, by simp, he⟩
    have hops : ¬ Touches ops c := fun ⟨o, ho, hc⟩ => h ⟨o, List.mem_cons_of_mem _ ho, hc⟩
    rw [content_cons, Op.on_of_ne hop, ih hops]

theorem content_of_flushes {ops : List (Op C R)} {c : C} (h : Flushes ops c) (l l' : List R) :
    content c ops l = content c ops l' := by
  induction ops generalizing l l' with
  | nil => simp [Flushes] at h
  | cons op ops ih =>
    by_cases hflush : op = .flush c
    · subst hflush
      simp [content_cons, Op.on]
    · have hops : Flushes ops c := (List.mem_cons.mp h).resolve_left (Ne.symm hflush)
      exact ih hops _ _

theorem content_of_not_flushes {ops : List (Op C R)} {c : C} (h : ¬ Flushes ops c) (l : List R) :
    content c ops l = l ++ content c ops [] := by
  induction ops generalizing l with
  | nil => simp [content]
  | cons op ops ih =>
    have hops : ¬ Flushes ops c := fun hm => h (List.mem_cons_of_mem _ hm)
    rw [content_cons, content_cons]
    cases op with
    | append d r =>
      by_cases hd : d = c
      · simp only [Op.on, hd, if_true]
        rw [ih hops, ih hops ([] ++ [r]), List.nil_append, List.append_assoc]
      · simp only [Op.on, hd, if_false]
        exact ih hops l
    | flush d =>
      have hd : d ≠ c := fun he => h (he ▸ List.mem_cons_self)
      simp only [Op.on, hd, if_false]
      exact ih hops l

theorem exists_content_ne [Inhabited R] {ops : List (Op C R)} {c : C} (h : Touches ops c) :
    ∃ l, content c ops l ≠ l := by
  by_cases hflush : Flushes ops c
  · refine ⟨content c ops [] ++ [default], fun he => ?_⟩
    rw [content_of_flushes hflush _ []] at he
    simp at he
  · refine ⟨[], fun hnil => ?_⟩
    obtain ⟨op, hop, hc⟩ := h
    obtain ⟨pre, post, rfl⟩ := List.append_of_mem hop
    cases op with
    | flush d => exact hflush (by rw [Flushes, ← hc]; exact hop)
    | append d r =>
      obtain rfl : d = c := hc
      have hpost : ¬ Flushes post d := fun hm => hflush (by simp [Flushes] at hm ⊢; simp [hm])
      rw [content, List.foldl_append, List.foldl_cons] at hnil
      change content d post (Op.on d (content d pre []) (.append d r)) = [] at hnil
      rw [content_of_not_flushes hpost] at hnil
      simp [Op.on] at hnil

/-- `last` after `earlier` does what `last` does alone, on all tables with `P`,
exactly when `last` flushes every list that `earlier` touches. -/
theorem replaces_iff [Inhabited R] {earlier last : List (Op C R)} {P : Tables C R → Prop}
    (hP : ∀ t, (∀ c, (t c).isSome) → P t) :
    (∀ t, P t → applyOps (earlier ++ last) t = applyOps last t) ↔
      ∀ c, Flushes last c ∨ ¬ Touches earlier c := by
  constructor
  · intro h c
    by_contra hnot
    obtain ⟨hflush, htouch⟩ := not_or.mp hnot
    obtain ⟨l, hl⟩ := exists_content_ne (not_not.mp htouch)
    have ht := congrFun (h (fun _ => some l) (hP _ fun _ => rfl)) c
    rw [applyOps_append] at ht
    simp only [applyOps, Option.map_some, Option.some.injEq] at ht
    rw [content_of_not_flushes hflush, content_of_not_flushes hflush l] at ht
    exact hl (List.append_cancel_right ht)
  · intro h t _
    rw [applyOps_append]
    funext c
    cases hc : t c with
    | none => simp [applyOps, hc]
    | some l =>
      simp only [applyOps, hc, Option.map_some, Option.some.injEq]
      rcases h c with hflush | htouch
      · exact content_of_flushes hflush _ _
      · rw [content_of_not_touches htouch]

end PnetManager.ChainTables
