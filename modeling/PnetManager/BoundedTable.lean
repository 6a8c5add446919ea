import Mathlib

/-!
# A fixed table that represents a list

The first `count` slots of an array hold a list in order, the others are blank.
Appending writes the first blank slot; removing shifts the later slots down and
blanks the one that becomes vacant.
-/

namespace PnetManager.BoundedTable

variable {α : Type*} {cap : ℕ}

def pullSlot (v : Vector α cap) (i : ℕ) : Vector α cap :=
  if h : i + 1 < cap then v.setIfInBounds i v[i + 1] else v

def shiftDown : ℕ → ℕ → Vector α cap → Vector α cap
  | 0, _, v => v
  | steps + 1, i, v => shiftDown steps (i + 1) (pullSlot v i)

structure Represents (blank : α) (v : Vector α cap) (count : ℤ) (L : List α) : Prop where
  count_eq : count = L.length
  fits : L.length ≤ cap
  slots : v.toList = L ++ List.replicate (cap - L.length) blank

theorem toList_pullSlot {v : Vector α cap} {pre rest : List α} {x y : α}
    (h : v.toList = pre ++ x :: y :: rest) :
    (pullSlot v pre.length).toList = pre ++ y :: y :: rest := by
  have hlen : pre.length + 1 < cap := by
    have hl := congrArg List.length h
    simp only [Vector.length_toList, List.length_append, List.length_cons] at hl
    omega
  have hy : v[pre.length + 1] = y := by
    rw [← Vector.getElem_toList (by simpa using hlen)]
    simp [h, List.getElem_append_right]
  simp only [pullSlot, hlen, dif_pos, hy, Vector.toList_setIfInBounds, h]
  simp

theorem toList_shiftDown {steps : ℕ} {v : Vector α cap} {pre rest : List α} {x : α}
    (h : v.toList = pre ++ x :: rest) (hs : steps ≤ rest.length) :
    (shiftDown steps pre.length v).toList =
      pre ++ rest.take steps ++ (x :: rest).drop steps := by
  induction steps generalizing v pre x rest with
  | zero => simpa [shiftDown] using h
  | succ steps ih =>
    cases rest with
    | nil => simp at hs
    | cons y rest =>
      have hpull : (pullSlot v pre.length).toList = (pre ++ [y]) ++ y :: rest := by
        simpa using toList_pullSlot h
      have hi := ih hpull (by simpa using hs)
      simpa [shiftDown] using hi

theorem represents_nil (blank : α) : Represents blank (Vector.replicate cap blank) 0 [] :=
  ⟨rfl, Nat.zero_le _, by simp⟩

variable {blank : α} {v : Vector α cap} {count : ℤ} {L : List α}

theorem Represents.push (h : Represents blank v count L) (hlt : L.length < cap) (x : α) :
    Represents blank (v.setIfInBounds count.toNat x) (count + 1) (L ++ [x]) := by
  have hnat : count.toNat = L.length := by
    have hc := h.count_eq
    omega
  refine ⟨by simp [h.count_eq], by simpa using hlt, ?_⟩
  obtain ⟨k, hk⟩ := Nat.exists_eq_succ_of_ne_zero (show cap - L.length ≠ 0 by omega)
  rw [Vector.toList_setIfInBounds, h.slots, hk, hnat]
  simp [List.replicate_succ, show cap - (L.length + 1) = k by omega]

theorem Represents.remove (h : Represents blank v count L) {i : ℕ} (hi : i < L.length) :
    Represents blank
      ((shiftDown (count - 1 - i).toNat i v).setIfInBounds (count - 1).toNat blank)
      (count - 1) (L.eraseIdx i) := by
  have hc := h.count_eq
  have hf := h.fits
  -- split the list at the removed element
  obtain ⟨pre, x, post, rfl, rfl⟩ : ∃ pre x post, L = pre ++ x :: post ∧ pre.length = i :=
    ⟨L.take i, L[i], L.drop (i + 1), by simp, by simp; omega⟩
  simp only [List.length_append, List.length_cons] at hc hf hi
  have hsteps : (count - 1 - pre.length).toNat = post.length := by omega
  have hlast : (count - 1).toNat = pre.length + post.length := by omega
  have herase : (pre ++ x :: post).eraseIdx pre.length = pre ++ post := by
    rw [List.eraseIdx_append_of_length_le le_rfl]
    simp
  have hv : v.toList = pre ++ x :: (post ++
      List.replicate (cap - (pre ++ x :: post).length) blank) := by
    simpa using h.slots
  refine ⟨by rw [herase, List.length_append]; omega, by rw [herase, List.length_append]; omega, ?_⟩
  have htake : (post ++ List.replicate (cap - (pre ++ x :: post).length) blank).take post.length =
      post := List.take_left
  rw [Vector.toList_setIfInBounds, hsteps, toList_shiftDown hv (by simp), hlast, herase, htake]
  -- one old element is left between the shifted ones and the blanks
  obtain ⟨z, hz⟩ : ∃ z, (x :: (post ++
      List.replicate (cap - (pre ++ x :: post).length) blank)).drop post.length =
        z :: List.replicate (cap - (pre ++ x :: post).length) blank := by
    rw [← List.cons_append, List.drop_append_of_le_length (by simp)]
    obtain ⟨z, hz⟩ := List.length_eq_one_iff.mp
      (show ((x :: post).drop post.length).length = 1 by simp)
    exact ⟨z, by rw [hz]; rfl⟩
  have hblanks : cap - (pre ++ post).length = cap - (pre ++ x :: post).length + 1 := by
    simp only [List.length_append, List.length_cons]
    omega
  rw [hz, List.set_append_right _ _ (by simp), hblanks, List.replicate_succ]
  simp

end PnetManager.BoundedTable
