import Mathlib.Data.List.Basic

/-!
# Files of sections

A file is read line by line. A line opens a section, is an entry of the section
above it, or is blank; a file with any other line, or with an entry above the first
section, is not read at all.
-/

namespace PnetManager.Sections

variable {L N E : Type*}

inductive Line (N E : Type*)
  | blank
  | header (name : N)
  | entry (e : E)
  | bad

structure Section (N E : Type*) where
  name : N
  entries : List E
deriving DecidableEq

variable (kind : L → Line N E)

def readFrom : List L → Option (List E × List (Section N E))
  | [] => some ([], [])
  | l :: ls =>
    match readFrom ls with
    | none => none
    | some (entries, sections) =>
      match kind l with
      | .blank => some (entries, sections)
      | .header n => some ([], ⟨n, entries⟩ :: sections)
      | .entry e => some (e :: entries, sections)
      | .bad => none

def readSections (ls : List L) : Option (List (Section N E)) :=
  match readFrom kind ls with
  | some ([], sections) => some sections
  | _ => none

variable {kind} {ls rest : List L} {l : L} {n : N}

theorem readFrom_blank (h : ∀ l ∈ ls, kind l = .blank) : readFrom kind ls = some ([], []) := by
  induction ls with
  | nil => rfl
  | cons l ls ih =>
    obtain ⟨hl, hls⟩ := List.forall_mem_cons.mp h
    simp only [readFrom, ih hls, hl]

theorem readFrom_entries {es : List E} (h : ls.map kind = es.map .entry)
    {entries : List E} {sections : List (Section N E)}
    (hrest : readFrom kind rest = some (entries, sections)) :
    readFrom kind (ls ++ rest) = some (es ++ entries, sections) := by
  induction ls generalizing es with
  | nil =>
    obtain rfl := List.map_eq_nil_iff.mp h.symm
    exact hrest
  | cons l ls ih =>
    obtain ⟨e, es, rfl, hl, hls⟩ := List.map_eq_cons_iff.mp h.symm
    simp only [List.cons_append, readFrom, ih hls.symm, ← hl]

theorem readSections_one {es : List E} (hl : kind l = .header n)
    (hls : ls.map kind = es.map .entry) (hrest : ∀ l ∈ rest, kind l = .blank) :
    readSections kind (l :: (ls ++ rest)) = some [⟨n, es⟩] := by
  have hentries := readFrom_entries hls (readFrom_blank hrest)
  simp only [readSections, readFrom, hentries, hl, List.append_nil]

theorem readSections_head {sections : List (Section N E)} (hl : kind l = .header n)
    (h : readSections kind (l :: ls) = some sections) :
    sections.head?.map Section.name = some n := by
  rw [readSections, readFrom] at h
  cases hls : readFrom kind ls with
  | none => simp [hls] at h
  | some r =>
    obtain ⟨entries, others⟩ := r
    simp only [hls, hl, Option.some.injEq] at h
    rw [← h]
    rfl

theorem readSections_bad (hl : kind l = .bad) : readSections kind (l :: ls) = none := by
  rw [readSections, readFrom]
  cases readFrom kind ls <;> simp [hl]

end PnetManager.Sections
