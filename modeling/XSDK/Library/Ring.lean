import Mathlib.Data.List.Basic

/-! A circular buffer with one cell kept free: the positions of the next cell to read and
to write, and the list of what is between them. -/
namespace XSDK.Library.Ring

variable {α : Type} {capacity read write n i : Nat} {buffer : Nat → α} {x : α}

/-- Cells between the two positions. -/
def used (capacity read write : Nat) : Nat := if read ≤ write then write - read else capacity - (read - write)

/-- Cells that can be read before the buffer's end. -/
def contiguous (capacity read write : Nat) : Nat := if read < write then write - read else capacity - read

/-- A piece of the buffer that does not wrap. -/
def slice (buffer : Nat → α) (start length : Nat) : List α := (List.range length).map fun i => buffer (start + i)

def contents (buffer : Nat → α) (capacity read write : Nat) : List α :=
  (List.range (used capacity read write)).map fun i => buffer ((read + i) % capacity)

def store (buffer : Nat → α) (k : Nat) (x : α) : Nat → α := fun j => if j = k then x else buffer j

@[simp] theorem length_contents : (contents buffer capacity read write).length = used capacity read write := by
  simp [contents]

@[simp] theorem length_slice : (slice buffer read n).length = n := by
  simp [slice]

theorem mod_of_lt (h : i < 2 * capacity) : i % capacity = if i < capacity then i else i - capacity := by
  split
  · next lt => exact Nat.mod_eq_of_lt lt
  · next ge =>
    rw [Nat.mod_eq_sub_mod (by omega)]
    exact Nat.mod_eq_of_lt (by omega)

theorem used_lt (hw : write < capacity) : used capacity read write < capacity := by
  rw [used]
  split <;> omega

theorem contiguous_le_used (hr : read < capacity) (hw : write < capacity) (h : read ≠ write) :
    contiguous capacity read write ≤ used capacity read write := by
  rw [contiguous, used]
  split <;> split <;> omega

theorem contiguous_end (hr : read < capacity) (hw : write < capacity) :
    read + contiguous capacity read write ≤ capacity := by
  rw [contiguous]
  split <;> omega

theorem contiguous_pos (hr : read < capacity) : 0 < contiguous capacity read write := by
  rw [contiguous]
  split <;> omega

theorem next_lt (hw : write < capacity) : (write + 1) % capacity < capacity := Nat.mod_lt _ (by omega)

section

variable (hr : read < capacity)
include hr

theorem write_apart (hw : write < capacity) (hi : i < used capacity read write) : (read + i) % capacity ≠ write := by
  rw [used] at hi
  rw [mod_of_lt (by split at hi <;> omega)]
  split at hi <;> split <;> omega

theorem used_put (hw : write < capacity) (room : used capacity read write + 1 < capacity) :
    used capacity read ((write + 1) % capacity) = used capacity read write + 1 := by
  rw [used] at room
  rw [used, used, mod_of_lt (by omega)]
  split at room <;> split <;> split <;> omega

theorem write_position (hw : write < capacity) : (read + used capacity read write) % capacity = write := by
  rw [used]
  split
  · next le => rw [Nat.add_sub_cancel' le, Nat.mod_eq_of_lt hw]
  · rw [mod_of_lt (by omega)]
    split <;> omega

theorem contents_put (hw : write < capacity) (room : used capacity read write + 1 < capacity) :
    contents (store buffer write x) capacity read ((write + 1) % capacity) =
      contents buffer capacity read write ++ [x] := by
  rw [contents, used_put hr hw room, List.range_succ, List.map_append, contents]
  congr 1
  · apply List.map_congr_left
    intro i mem
    rw [store, if_neg (write_apart hr hw (List.mem_range.mp mem))]
  · rw [List.map_singleton, write_position hr hw, store, if_pos rfl]

theorem used_advance (hw : write < capacity) (le : n ≤ used capacity read write) :
    used capacity ((read + n) % capacity) write = used capacity read write - n := by
  rw [used] at le
  rw [used, used, mod_of_lt (by split at le <;> omega)]
  split at le <;> split <;> split <;> omega

theorem contents_advance (hw : write < capacity) (le : n ≤ used capacity read write) :
    contents buffer capacity ((read + n) % capacity) write = (contents buffer capacity read write).drop n := by
  apply List.ext_getElem
  · rw [length_contents, List.length_drop, length_contents, used_advance hr hw le]
  · intro i _ _
    simp only [contents, List.getElem_map, List.getElem_range, List.getElem_drop]
    rw [Nat.mod_add_mod, Nat.add_assoc]

end

theorem slice_eq_take (there : n ≤ used capacity read write) (before_end : read + n ≤ capacity) :
    slice buffer read n = (contents buffer capacity read write).take n := by
  apply List.ext_getElem
  · rw [length_slice, List.length_take, length_contents]
    omega
  · intro i hi _
    have lt : read + i < capacity := by
      rw [length_slice] at hi
      omega
    simp only [slice, contents, List.getElem_map, List.getElem_range, List.getElem_take, Nat.mod_eq_of_lt lt]

theorem contents_self : contents buffer capacity read read = [] := by
  simp [contents, used]

end XSDK.Library.Ring
