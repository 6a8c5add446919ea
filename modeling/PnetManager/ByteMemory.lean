import PnetManager.CStdio

/-!
# Bytes in memory

Addresses count from the start of a buffer and go on behind its end, so that a
store past the end can be told from one inside. The window of a memory is what a
buffer of that many bytes holds. A report is printed piece by piece, each behind the
length that the ones before it would have had.
-/

namespace PnetManager.ByteMemory
open CText CStdio

abbrev Mem := ℕ → Byte

def store (mem : Mem) (a : ℕ) (bytes : Text) : Mem := fun b =>
  if a ≤ b then bytes.getD (b - a) (mem b) else mem b

def window (mem : Mem) (n : ℕ) : Text := (List.range n).map mem

@[simp] theorem window_length (mem : Mem) (n : ℕ) : (window mem n).length = n := by
  simp [window]

theorem store_outside {mem : Mem} {a b : ℕ} {bytes : Text}
    (h : b < a ∨ a + bytes.length ≤ b) : store mem a bytes b = mem b := by
  rw [store]
  split_ifs with hab
  · rw [List.getD_eq_default _ _ (by omega)]
  · rfl

theorem store_inside {mem : Mem} {a i : ℕ} {bytes : Text} (h : i < bytes.length) :
    store mem a bytes (a + i) = bytes[i] := by
  rw [store, if_pos (Nat.le_add_right a i), Nat.add_sub_cancel_left, List.getD_eq_getElem _ _ h]

theorem window_store_behind {mem : Mem} {a n : ℕ} (h : n ≤ a) (bytes : Text) :
    window (store mem a bytes) n = window mem n := by
  apply List.map_congr_left
  intro b hb
  exact store_outside (Or.inl (by rw [List.mem_range] at hb; omega))

theorem window_store {mem : Mem} {a n : ℕ} {bytes : Text} (h : a + bytes.length ≤ n) :
    window (store mem a bytes) n =
      (window mem n).take a ++ bytes ++ (window mem n).drop (a + bytes.length) := by
  apply List.ext_getElem
  · simp only [List.length_append, List.length_take, List.length_drop, window_length]
    omega
  · intro i hi hi'
    simp only [window, List.getElem_map, List.getElem_range, List.getElem_append,
      List.length_take, List.length_map, List.length_range, List.getElem_take, List.getElem_drop,
      List.length_append]
    simp only [window_length] at hi
    split_ifs with hin hbefore
    · exact store_outside (Or.inl (by omega))
    · obtain ⟨j, rfl⟩ := Nat.exists_eq_add_of_le (show a ≤ i by omega)
      rw [store_inside (by omega)]
      congr 1
      omega
    · rw [store_outside (Or.inr (by omega))]
      congr 1
      omega

/-- `snprintf(buf + offset, size, …)` printing `text`, wherever that is. -/
def snprintfAt (mem : Mem) (offset size : ℕ) (text : Text) : Mem :=
  if size = 0 then mem else store mem offset (text.take (size - 1) ++ [nul])

theorem snprintfAt_outside {mem : Mem} {offset size b : ℕ} (text : Text)
    (h : b < offset ∨ offset + size ≤ b) : snprintfAt mem offset size text b = mem b := by
  rw [snprintfAt]
  split_ifs with hsize
  · rfl
  · apply store_outside
    simp only [List.length_append, List.length_take, List.length_singleton]
    omega

theorem snprintfAt_first {mem : Mem} {offset size : ℕ} (c : Byte) (text : Text)
    (h : 2 ≤ size) : snprintfAt mem offset size (c :: text) offset = c := by
  obtain ⟨k, rfl⟩ := Nat.exists_eq_add_of_le h
  have htake : (c :: text).take (2 + k - 1) ++ [nul] = c :: (text.take k ++ [nul]) := by
    rw [show 2 + k - 1 = k + 1 by omega]
    rfl
  have hstore : store mem offset (c :: (text.take k ++ [nul])) (offset + 0) = c :=
    store_inside (by simp)
  rw [snprintfAt, if_neg (by omega), htake]
  exact hstore

theorem window_snprintfAt {mem : Mem} {offset n : ℕ} (text : Text) :
    window (snprintfAt mem offset (n - offset) text) n =
      snprintf (window mem n) offset (n - offset) text := by
  rw [snprintfAt, snprintf]
  split_ifs with hsize
  · rfl
  · apply window_store
    simp only [List.length_append, List.length_take, List.length_singleton]
    omega

theorem window_snprintfAt_behind {mem : Mem} {offset n : ℕ} (h : n ≤ offset) (size : ℕ)
    (text : Text) : window (snprintfAt mem offset size text) n = window mem n := by
  rw [snprintfAt]
  split_ifs
  · rfl
  · exact window_store_behind h _

theorem snprintfAt_terminated {mem : Mem} {offset n : ℕ} (h : offset < n) (text : Text) :
    nul ∈ window (snprintfAt mem offset (n - offset) text) n := by
  have hsize : (text.take (n - offset - 1)).length ≤ n - offset - 1 := List.length_take_le _ _
  have hnul : store mem offset (text.take (n - offset - 1) ++ [nul])
      (offset + (text.take (n - offset - 1)).length) = nul := by
    rw [store_inside (by simp)]
    simp
  rw [snprintfAt, if_neg (by omega), window, List.mem_map]
  exact ⟨_, List.mem_range.mpr (by omega), hnul⟩

def room (len : UInt64) (offset : ℕ) : ℕ := (len - UInt64.ofNat offset).toNat

/-- The memory from `report` on, and where each `snprintf` so far has started. -/
structure Report where
  mem : Mem
  offset : ℕ
  starts : List ℕ

def Report.print (len : UInt64) (r : Report) (text : Text) : Report where
  mem := snprintfAt r.mem r.offset (room len r.offset) text
  offset := r.offset + text.length
  starts := r.starts ++ [r.offset]

theorem room_of_le {len : UInt64} {offset : ℕ} (h : offset ≤ len.toNat) :
    room len offset = len.toNat - offset := by
  have hlt := len.toNat_lt
  have hof : (UInt64.ofNat offset).toNat = offset :=
    UInt64.toNat_ofNat_of_lt' (h.trans_lt hlt)
  rw [room, UInt64.toNat_sub_of_le _ _ (by rw [UInt64.le_iff_toNat_le]; omega), hof]

theorem room_of_gt {len : UInt64} {offset : ℕ} (h : len.toNat < offset) (hlt : offset < 2 ^ 64) :
    room len offset = 2 ^ 64 + len.toNat - offset := by
  have hof : (UInt64.ofNat offset).toNat = offset := UInt64.toNat_ofNat_of_lt' hlt
  rw [room, UInt64.toNat_sub, hof]
  omega

theorem print_outside {len : UInt64} {r : Report} (h : r.offset ≤ len.toNat) (text : Text) {a : ℕ}
    (ha : len.toNat ≤ a) : (r.print len text).mem a = r.mem a := by
  apply snprintfAt_outside
  rw [room_of_le h]
  omega

end PnetManager.ByteMemory
