import PnetManager.CText

/-!
# The command line

The options of `main`: `getopt` with `"c:vh"`, which passes over operands and stops
at `--`, and the loop over its answers. A line is accepted exactly when it consists
of the words listed here.
-/

namespace PnetManager.CommandLine
open CText

def defaultConfigFile : Text := ascii "/etc/pnet-manager/config.conf"
def exitSuccess : ℤ := 0
def exitFailure : ℤ := 1

def dash : Byte := 45

inductive Opt
  | c (optarg : Text)
  | v
  | h
  | unknown
deriving DecidableEq

def optOf (ch : Byte) : Opt := if ch = 118 then .v else if ch = 104 then .h else .unknown

def cluster : Text → List Opt × Bool
  | [] => ([], false)
  | ch :: chs =>
    if ch = 99 then if chs = [] then ([], true) else ([.c chs], false)
    else
      let (opts, awaited) := cluster chs
      (optOf ch :: opts, awaited)

def getopt : Bool → List Text → List Opt
  | true, [] => [.unknown]
  | true, arg :: args => .c arg :: getopt false args
  | false, [] => []
  | false, arg :: args =>
    if arg = [dash, dash] then []
    else if arg.head? = some dash ∧ arg ≠ [dash] then
      let (opts, awaited) := cluster arg.tail
      opts ++ getopt awaited args
    else getopt false args

/-- How the loop over the options ends: `main` goes on, or it has printed its usage
and returns. -/
inductive Parsed
  | run (configPath : Text) (verbose : Bool)
  | usage (status : ℤ)
deriving DecidableEq

def parseOptions : List Opt → Text → Bool → Parsed
  | [], configPath, verbose => .run configPath verbose
  | .c optarg :: opts, _, verbose => parseOptions opts optarg verbose
  | .v :: opts, configPath, _ => parseOptions opts configPath true
  | .h :: _, _, _ => .usage exitSuccess
  | .unknown :: _, _, _ => .usage exitFailure

def parseArguments (args : List Text) : Parsed :=
  parseOptions (getopt false args) defaultConfigFile false

/-- What an accepted line consists of. The switches in front of a `c` are `v`s; its
path is the rest of the word or the next word. -/
inductive Word
  | operand (t : Text)
  | switches (n : ℕ)
  | path (n : ℕ) (t : Text)
  | joined (n : ℕ) (t : Text)

def vs (n : ℕ) : Text := List.replicate n 118

def Word.spell : Word → List Text
  | .operand t => [t]
  | .switches n => [dash :: vs (n + 1)]
  | .path n t => [dash :: (vs n ++ [99]), t]
  | .joined n t => [dash :: (vs n ++ 99 :: t)]

def Word.WellFormed : Word → Prop
  | .operand t => ¬ (t.head? = some dash ∧ t ≠ [dash])
  | .switches _ => True
  | .path _ _ => True
  | .joined _ t => t ≠ []

def Word.settle (s : Text × Bool) : Word → Text × Bool
  | .operand _ => s
  | .switches _ => (s.1, true)
  | .path n t => (t, s.2 || 0 < n)
  | .joined n t => (t, s.2 || 0 < n)

def spell (ws : List Word) : List Text := ws.flatMap Word.spell

def Ends (rest : List Text) : Prop := rest = [] ∨ rest.head? = some [dash, dash]

theorem optOf_v : optOf 118 = .v := rfl

theorem cluster_vs (n : ℕ) (chs : Text) :
    cluster (vs n ++ chs) = (List.replicate n .v ++ (cluster chs).1, (cluster chs).2) := by
  induction n with
  | zero => rfl
  | succ n ih =>
    have hcons : vs (n + 1) ++ chs = 118 :: (vs n ++ chs) := rfl
    rw [hcons, cluster, if_neg (by decide), ih, optOf_v]
    rfl

theorem parseOptions_vs (n : ℕ) (opts : List Opt) (path : Text) (verbose : Bool) :
    parseOptions (List.replicate n .v ++ opts) path verbose =
      parseOptions opts path (verbose || 0 < n) := by
  induction n generalizing verbose with
  | zero => simp
  | succ n ih =>
    rw [List.replicate_succ, List.cons_append, parseOptions, ih]
    simp

theorem getopt_cluster {chs : Text} (hne : chs ≠ []) (hdash : chs ≠ [dash]) (args : List Text) :
    getopt false ((dash :: chs) :: args) = (cluster chs).1 ++ getopt (cluster chs).2 args := by
  rw [getopt, if_neg (by simpa using hdash), if_pos ⟨rfl, by simpa using hne⟩]
  rfl

theorem vs_append_ne_dash (n : ℕ) (chs : Text) (h : chs ≠ [dash]) : vs n ++ chs ≠ [dash] := by
  cases n with
  | zero => exact h
  | succ n =>
    intro he
    exact absurd (List.cons.inj he).1 (by decide)

theorem parse_word {w : Word} (hw : w.WellFormed) (args : List Text) (s : Text × Bool) :
    parseOptions (getopt false (w.spell ++ args)) s.1 s.2 =
      parseOptions (getopt false args) (w.settle s).1 (w.settle s).2 := by
  cases w with
  | operand t =>
    have hdashes : t ≠ [dash, dash] := by
      intro he
      subst he
      exact hw ⟨rfl, by decide⟩
    change parseOptions (getopt false (t :: args)) _ _ = _
    rw [getopt, if_neg hdashes, if_neg hw]
    rfl
  | switches n =>
    have hread := cluster_vs (n + 1) []
    rw [List.append_nil] at hread
    change parseOptions (getopt false ((dash :: vs (n + 1)) :: args)) _ _ = _
    rw [getopt_cluster (by simp [vs]) (by
      intro he
      exact absurd (List.cons.inj he).1 (by decide)), hread]
    dsimp only [cluster]
    rw [List.append_nil, parseOptions_vs]
    simp [Word.settle]
  | path n t =>
    have hread := cluster_vs n [99]
    change parseOptions (getopt false ((dash :: (vs n ++ [99])) :: t :: args)) _ _ = _
    rw [getopt_cluster (by simp) (vs_append_ne_dash n _ (by decide)), hread]
    change parseOptions (List.replicate n Opt.v ++ [] ++ (Opt.c t :: getopt false args)) _ _ = _
    rw [List.append_nil, parseOptions_vs]
    rfl
  | joined n t =>
    have hread := cluster_vs n (99 :: t)
    have hc : cluster (99 :: t) = ([.c t], false) := by
      rw [cluster, if_pos rfl, if_neg hw]
    rw [hc] at hread
    change parseOptions (getopt false ((dash :: (vs n ++ 99 :: t)) :: args)) _ _ = _
    rw [getopt_cluster (by simp) (vs_append_ne_dash n _ (by simp [dash])), hread]
    dsimp only
    rw [List.append_assoc, parseOptions_vs]
    rfl

theorem getopt_of_ends {rest : List Text} (h : Ends rest) : getopt false rest = [] := by
  rcases h with rfl | h
  · rfl
  · cases rest with
    | nil => rfl
    | cons arg args =>
      obtain rfl : arg = [dash, dash] := by simpa using h
      rw [getopt, if_pos rfl]

theorem cluster_cases (chs : Text) :
    (∃ n, chs = vs n) ∨ (∃ n, chs = vs n ++ [99]) ∨ (∃ n t, t ≠ [] ∧ chs = vs n ++ 99 :: t) ∨
      ∃ n o opts, (o = .h ∨ o = .unknown) ∧ (cluster chs).1 = List.replicate n .v ++ o :: opts := by
  induction chs with
  | nil => exact Or.inl ⟨0, rfl⟩
  | cons ch chs ih =>
    by_cases hc : ch = 99
    · subst hc
      by_cases ht : chs = []
      · exact Or.inr (Or.inl ⟨0, by rw [ht]; rfl⟩)
      · exact Or.inr (Or.inr (Or.inl ⟨0, chs, ht, rfl⟩))
    by_cases hv : ch = 118
    · subst hv
      rcases ih with ⟨n, rfl⟩ | ⟨n, rfl⟩ | ⟨n, t, ht, rfl⟩ | ⟨n, o, opts, ho, hread⟩
      · exact Or.inl ⟨n + 1, rfl⟩
      · exact Or.inr (Or.inl ⟨n + 1, rfl⟩)
      · exact Or.inr (Or.inr (Or.inl ⟨n + 1, t, ht, rfl⟩))
      · refine Or.inr (Or.inr (Or.inr ⟨n + 1, o, opts, ho, ?_⟩))
        rw [cluster, if_neg hc]
        dsimp only
        rw [hread, optOf_v]
        rfl
    · refine Or.inr (Or.inr (Or.inr ⟨0, optOf ch, (cluster chs).1, ?_, ?_⟩))
      · rw [optOf, if_neg hv]
        split_ifs
        · exact Or.inl rfl
        · exact Or.inr rfl
      · rw [cluster, if_neg hc]
        rfl

theorem parseOptions_ending {o : Opt} (ho : o = .h ∨ o = .unknown) (n : ℕ) (opts : List Opt)
    (path path' : Text) (verbose verbose' : Bool) :
    parseOptions (List.replicate n .v ++ o :: opts) path verbose ≠ .run path' verbose' := by
  rw [parseOptions_vs]
  rcases ho with rfl | rfl <;> simp [parseOptions]

theorem words_of_run {args : List Text} {s : Text × Bool} {path : Text} {verbose : Bool}
    (h : parseOptions (getopt false args) s.1 s.2 = .run path verbose) :
    ∃ ws rest, (∀ w ∈ ws, w.WellFormed) ∧ Ends rest ∧ args = spell ws ++ rest ∧
      ws.foldl Word.settle s = (path, verbose) := by
  induction hlen : args.length using Nat.strong_induction_on generalizing args s with
  | _ len ih =>
    -- a first word in front of shorter arguments, which the induction has split
    have hword : ∀ w rest, w.WellFormed → args = Word.spell w ++ rest →
        rest.length < args.length → ∃ ws rest, (∀ w ∈ ws, w.WellFormed) ∧ Ends rest ∧
          args = spell ws ++ rest ∧ ws.foldl Word.settle s = (path, verbose) := by
      intro w rest hw hargs hshort
      rw [hargs, parse_word hw] at h
      obtain ⟨ws, last, hws, hlast, hrest, hfold⟩ := ih rest.length (hlen ▸ hshort) h rfl
      refine ⟨w :: ws, last, List.forall_mem_cons.mpr ⟨hw, hws⟩, hlast, ?_, hfold⟩
      rw [hargs, hrest, spell, spell, List.flatMap_cons, List.append_assoc]
    cases args with
    | nil =>
      refine ⟨[], [], by simp, Or.inl rfl, rfl, ?_⟩
      simpa [getopt, parseOptions, Prod.ext_iff] using h
    | cons arg args =>
      by_cases hdashes : arg = [dash, dash]
      · refine ⟨[], arg :: args, by simp, Or.inr (by rw [hdashes]; rfl), rfl, ?_⟩
        rw [getopt, if_pos hdashes] at h
        simpa [parseOptions, Prod.ext_iff] using h
      by_cases hopt : arg.head? = some dash ∧ arg ≠ [dash]
      · obtain ⟨chs, rfl⟩ := List.head?_eq_some_iff.mp hopt.1
        have hne : chs ≠ [] := fun he => hopt.2 (by rw [he])
        have hdash : chs ≠ [dash] := fun he => hdashes (by rw [he])
        rcases cluster_cases chs with ⟨n, rfl⟩ | ⟨n, rfl⟩ | ⟨n, t, ht, rfl⟩ |
          ⟨n, o, opts, ho, hread⟩
        · cases n with
          | zero => exact absurd rfl hne
          | succ n => exact hword (.switches n) args trivial rfl (by simp)
        · cases args with
          | nil =>
            rw [getopt_cluster hne hdash, cluster_vs] at h
            change parseOptions (List.replicate n Opt.v ++ [] ++ [Opt.unknown]) _ _ = _ at h
            rw [List.append_nil] at h
            exact absurd h (parseOptions_ending (Or.inr rfl) n [] _ _ _ _)
          | cons t args => exact hword (.path n t) args trivial rfl (by simp)
        · exact hword (.joined n t) args ht rfl (by simp)
        · rw [getopt_cluster hne hdash, hread, List.append_assoc, List.cons_append] at h
          exact absurd h (parseOptions_ending ho n _ _ _ _ _)
      · exact hword (.operand arg) args hopt rfl (by simp)

theorem parse_words {ws : List Word} (hws : ∀ w ∈ ws, w.WellFormed) {rest : List Text}
    (hrest : Ends rest) (s : Text × Bool) :
    parseOptions (getopt false (spell ws ++ rest)) s.1 s.2 =
      .run (ws.foldl Word.settle s).1 (ws.foldl Word.settle s).2 := by
  induction ws generalizing s with
  | nil =>
    rw [spell, List.flatMap_nil, List.nil_append, getopt_of_ends hrest]
    rfl
  | cons w ws ih =>
    obtain ⟨hw, hws⟩ := List.forall_mem_cons.mp hws
    rw [spell, List.flatMap_cons, List.append_assoc, ← spell, parse_word hw, ih hws]
    rfl

/-- `main` goes on from its command line, with this path and this verbosity, exactly
where the line is spelled in words whose last path and whose switches are these. -/
theorem parseArguments_run_iff (args : List Text) (path : Text) (verbose : Bool) :
    parseArguments args = .run path verbose ↔
      ∃ ws rest, (∀ w ∈ ws, w.WellFormed) ∧ Ends rest ∧ args = spell ws ++ rest ∧
        ws.foldl Word.settle (defaultConfigFile, false) = (path, verbose) := by
  constructor
  · intro h
    exact words_of_run (s := (defaultConfigFile, false)) h
  · intro h
    obtain ⟨ws, rest, hws, hrest, rfl, hsettled⟩ := h
    have hparse := parse_words hws hrest (defaultConfigFile, false)
    rw [hsettled] at hparse
    exact hparse

example : parseArguments [ascii "x", ascii "-vc", ascii "a.conf", ascii "--", ascii "-h"] =
    .run (ascii "a.conf") true := by decide

end PnetManager.CommandLine
