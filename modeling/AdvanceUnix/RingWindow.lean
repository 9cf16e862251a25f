import Mathlib.Data.List.Range
import Mathlib.Logic.Function.Basic

namespace RingWindow

/-!
# The occupied window of a ring of slots

A ring of `capacity` slots holds a queue in the `count` slots that start at
`head` and wrap around.  Appending at the first free slot and removing at
`head` are list append and list tail on the window.
-/

/-- The values of `count` slots starting at `head`, in ring order. -/
def window
    (slots : Nat → α)
    (capacity head count : Nat) : List α :=
  (List.range count).map fun offset =>
    slots ((head + offset) % capacity)

/-- Two offsets less than one revolution apart denote different slots. -/
theorem slot_ne
    {capacity head first second : Nat}
    (ordered : first < second)
    (bounded : second < first + capacity) :
    (head + first) % capacity ≠ (head + second) % capacity := by
  intro same
  have remainder :
      (head + second - (head + first)) % capacity = 0 :=
    Nat.sub_mod_eq_zero_of_mod_eq same.symm
  have small : head + second - (head + first) < capacity := by
    omega
  rw [Nat.mod_eq_of_lt small] at remainder
  omega

/-- The first free slot is none of the occupied ones. -/
theorem free_slot_ne
    {capacity head count offset : Nat}
    (space : count < capacity)
    (occupied : offset < count) :
    (head + count) % capacity ≠ (head + offset) % capacity :=
  (slot_ne occupied (by omega)).symm

/-- Filling the first free slot appends to the window. -/
theorem window_push
    (slots : Nat → α)
    {capacity head count : Nat}
    (space : count < capacity)
    (value : α) :
    window (Function.update slots ((head + count) % capacity) value)
        capacity head (count + 1) =
      window slots capacity head count ++ [value] := by
  unfold window
  rw [List.range_succ, List.map_append]
  congr 1
  · apply List.map_congr_left
    intro offset member
    have occupied : offset < count := List.mem_range.mp member
    exact Function.update_of_ne
      (free_slot_ne space occupied).symm value slots
  · simp

/-- Advancing the head removes the first value of the window. -/
theorem window_pop
    (slots : Nat → α)
    {capacity head : Nat}
    (inRange : head < capacity)
    (count : Nat) :
    window slots capacity head (count + 1) =
      slots head ::
        window slots capacity ((head + 1) % capacity) count := by
  unfold window
  rw [List.range_succ_eq_map, List.map_cons, List.map_map]
  congr 1
  · simp [Nat.mod_eq_of_lt inRange]
  · apply List.map_congr_left
    intro offset _
    have sameSlot :
        (head + (offset + 1)) % capacity =
          ((head + 1) % capacity + offset) % capacity := by
      rw [Nat.mod_add_mod]
      congr 1
      omega
    simp [sameSlot]

end RingWindow
