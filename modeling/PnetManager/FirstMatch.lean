import Mathlib.Data.List.Basic

/-!
# Lists of rules of which the first match decides

A rule says what becomes of an input, that the list is left, or nothing, and then the
rest of the list is asked.
-/

namespace PnetManager.FirstMatch

variable {R S V : Type*}

inductive Outcome (V : Type*)
  | decided (v : V)
  | returned
  | passed
deriving DecidableEq

def Outcome.andThen : Outcome V → Outcome V → Outcome V
  | .passed, o => o
  | o, _ => o

@[simp] theorem Outcome.passed_andThen (o : Outcome V) : Outcome.passed.andThen o = o := rfl

theorem Outcome.andThen_assoc (o o' o'' : Outcome V) :
    (o.andThen o').andThen o'' = o.andThen (o'.andThen o'') := by
  cases o <;> rfl

theorem Outcome.andThen_eq_passed_iff {o o' : Outcome V} :
    o.andThen o' = .passed ↔ o = .passed ∧ o' = .passed := by
  cases o <;> simp [Outcome.andThen]

def walk (f : R → Outcome V) : List R → Outcome V
  | [] => .passed
  | r :: rules => (f r).andThen (walk f rules)

variable {f g : R → Outcome V}

theorem walk_append (f : R → Outcome V) (rules rules' : List R) :
    walk f (rules ++ rules') = (walk f rules).andThen (walk f rules') := by
  induction rules with
  | nil => rfl
  | cons r rules ih => rw [List.cons_append, walk, walk, ih, Outcome.andThen_assoc]

theorem walk_congr {rules : List R} (h : ∀ r ∈ rules, f r = g r) : walk f rules = walk g rules := by
  induction rules with
  | nil => rfl
  | cons r rules ih =>
    rw [walk, walk, h r List.mem_cons_self, ih fun q hq => h q (List.mem_cons_of_mem _ hq)]

theorem walk_filterMap (f : S → Outcome V) (select : R → Option S) (rules : List R) :
    walk f (rules.filterMap select) = walk (fun r => ((select r).map f).getD .passed) rules := by
  induction rules with
  | nil => rfl
  | cons r rules ih =>
    cases hr : select r with
    | none => simp [walk, hr, ih]
    | some s => simp [walk, hr, ih]

theorem walk_eq_passed_iff {rules : List R} :
    walk f rules = .passed ↔ ∀ r ∈ rules, f r = .passed := by
  induction rules with
  | nil => simp [walk]
  | cons r rules ih => rw [walk, Outcome.andThen_eq_passed_iff, ih, List.forall_mem_cons]

theorem walk_append_of_subset {rules rules' : List R} (h : ∀ r ∈ rules', r ∈ rules) :
    walk f (rules ++ rules') = walk f rules := by
  rw [walk_append]
  cases hwalk : walk f rules with
  | decided v => rfl
  | returned => rfl
  | passed =>
    rw [Outcome.passed_andThen, walk_eq_passed_iff]
    exact fun r hr => walk_eq_passed_iff.mp hwalk r (h r hr)

end PnetManager.FirstMatch
