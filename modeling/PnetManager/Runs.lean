import Mathlib

/-!
# Runs of a state machine

A deterministic step is iterated over a finite list of inputs. Invariants and
simulations lift from one step to a run. A property of histories holds after
every prefix exactly when every step meets the condition under which one step
keeps it.
-/

namespace PnetManager.Runs

variable {σ τ ι : Type*}

def run (step : σ → ι → σ) (s : σ) (es : List ι) : σ := es.foldl step s

@[simp] theorem run_nil (step : σ → ι → σ) (s : σ) : run step s [] = s := rfl

@[simp] theorem run_cons (step : σ → ι → σ) (s : σ) (e : ι) (es : List ι) :
    run step s (e :: es) = run step (step s e) es := rfl

theorem run_append (step : σ → ι → σ) (s : σ) (es fs : List ι) :
    run step s (es ++ fs) = run step (run step s es) fs := List.foldl_append

theorem run_snoc (step : σ → ι → σ) (s : σ) (es : List ι) (e : ι) :
    run step s (es ++ [e]) = step (run step s es) e := run_append step s es [e]

theorem run_invariant {step : σ → ι → σ} {P : σ → Prop}
    (hstep : ∀ s e, P s → P (step s e)) {s : σ} (h : P s) (es : List ι) :
    P (run step s es) := by
  induction es generalizing s with
  | nil => exact h
  | cons e es ih => exact ih (hstep s e h)

theorem run_invariant_of_mem {step : σ → ι → σ} {P : σ → Prop} {es : List ι}
    (hstep : ∀ s, ∀ e ∈ es, P s → P (step s e)) {s : σ} (h : P s) :
    P (run step s es) := by
  induction es generalizing s with
  | nil => exact h
  | cons e es ih =>
    exact ih (fun t f hf => hstep t f (List.mem_cons_of_mem _ hf)) (hstep s e (by simp) h)

theorem scanl_invariant {step : σ → ι → σ} {P : σ → Prop}
    (hstep : ∀ s e, P s → P (step s e)) {s : σ} (h : P s) (es : List ι) :
    ∀ t ∈ es.scanl step s, P t := by
  induction es generalizing s with
  | nil => simpa using h
  | cons e es ih =>
    rw [List.scanl_cons]
    intro t ht
    rcases List.mem_cons.mp ht with rfl | ht
    · exact h
    · exact ih (hstep s e h) t ht

theorem run_simulation {step : σ → ι → σ} {step' : τ → ι → τ} {R : σ → τ → Prop}
    (hstep : ∀ s t e, R s t → R (step s e) (step' t e)) {s : σ} {t : τ} (h : R s t)
    (es : List ι) : R (run step s es) (run step' t es) := by
  induction es generalizing s t with
  | nil => exact h
  | cons e es ih => exact ih (hstep s t e h)

/-- `C` is the exact condition on a step that keeps `P`, where the steps so far have
kept `I` as well; `P` then holds of every prefix of a history if and only if each of
its steps meets `C`. -/
theorem always_iff_steps_of_invariant {P I : List ι → Prop} {C : List ι → ι → Prop} {es : List ι}
    (h0 : P [] ∧ I [])
    (hkeeps : ∀ pre e, pre ++ [e] <+: es → P pre → I pre → C pre e →
      P (pre ++ [e]) ∧ I (pre ++ [e]))
    (hmeets : ∀ pre e, pre ++ [e] <+: es → P pre → I pre → P (pre ++ [e]) → C pre e) :
    (∀ pre, pre <+: es → P pre) ↔ ∀ pre e, pre ++ [e] <+: es → C pre e := by
  constructor
  · intro h
    have hinv : ∀ pre, pre <+: es → I pre := by
      intro pre
      induction pre using List.reverseRecOn with
      | nil => exact fun _ => h0.2
      | append_singleton pre e ih =>
        intro hpre
        have hp : pre <+: es := (List.prefix_append pre [e]).trans hpre
        have hc := hmeets pre e hpre (h pre hp) (ih hp) (h _ hpre)
        exact (hkeeps pre e hpre (h pre hp) (ih hp) hc).2
    intro pre e hpre
    have hp : pre <+: es := (List.prefix_append pre [e]).trans hpre
    exact hmeets pre e hpre (h pre hp) (hinv pre hp) (h _ hpre)
  · intro h
    have hboth : ∀ pre, pre <+: es → P pre ∧ I pre := by
      intro pre
      induction pre using List.reverseRecOn with
      | nil => exact fun _ => h0
      | append_singleton pre e ih =>
        intro hpre
        have hp : pre <+: es := (List.prefix_append pre [e]).trans hpre
        exact hkeeps pre e hpre (ih hp).1 (ih hp).2 (h pre e hpre)
    exact fun pre hpre => (hboth pre hpre).1

theorem always_iff_steps {P : List ι → Prop} {C : List ι → ι → Prop} {es : List ι} (h0 : P [])
    (hstep : ∀ pre e, pre ++ [e] <+: es → P pre → (P (pre ++ [e]) ↔ C pre e)) :
    (∀ pre, pre <+: es → P pre) ↔ ∀ pre e, pre ++ [e] <+: es → C pre e :=
  always_iff_steps_of_invariant (I := fun _ => True) ⟨h0, trivial⟩
    (fun pre e hpre h _ hc => ⟨(hstep pre e hpre h).mpr hc, trivial⟩)
    fun pre e hpre h _ hp => (hstep pre e hpre h).mp hp

theorem steps_nil {C : List ι → ι → Prop} (pre : List ι) (e : ι) (h : pre ++ [e] <+: []) :
    C pre e := by
  simp at h

theorem steps_snoc {C : List ι → ι → Prop} (es : List ι) (x : ι) :
    (∀ pre e, pre ++ [e] <+: es ++ [x] → C pre e) ↔
      (∀ pre e, pre ++ [e] <+: es → C pre e) ∧ C es x := by
  constructor
  · intro h
    exact ⟨fun pre e hpre => h pre e (hpre.trans (List.prefix_append es [x])),
      h es x List.prefix_rfl⟩
  · intro h pre e hpre
    rcases List.prefix_concat_iff.mp hpre with hlast | hbefore
    · obtain ⟨rfl, he⟩ := List.append_inj' hlast rfl
      obtain rfl := List.singleton_inj.mp he
      exact h.2
    · exact h.1 pre e hbefore

def Since (es : List ι) (x y : ι) : Prop := ∃ pre post, es = pre ++ x :: post ∧ y ∉ post

theorem not_since_nil (x y : ι) : ¬ Since [] x y := by
  intro hsince
  obtain ⟨pre, post, h, -⟩ := hsince
  simp at h

theorem since_snoc {es : List ι} {e x y : ι} :
    Since (es ++ [e]) x y ↔ e = x ∨ Since es x y ∧ e ≠ y := by
  constructor
  · intro hsince
    obtain ⟨pre, post, h, hy⟩ := hsince
    induction post using List.reverseRecOn with
    | nil => exact Or.inl (List.append_inj_right' h rfl |> List.singleton_inj.mp)
    | append_singleton post f _ =>
      rw [← List.cons_append, ← List.append_assoc] at h
      obtain ⟨he, hf⟩ := List.append_inj' h rfl
      obtain rfl : e = f := List.singleton_inj.mp hf
      exact Or.inr ⟨⟨pre, post, he, fun hm => hy (List.mem_append_left _ hm)⟩,
        fun hey => hy (by simp [hey])⟩
  · intro hlast
    rcases hlast with rfl | ⟨⟨pre, post, rfl, hy⟩, hne⟩
    · exact ⟨es, [], rfl, by simp⟩
    · exact ⟨pre, post ++ [e], by simp, by simp [hy, hne.symm]⟩

end PnetManager.Runs
