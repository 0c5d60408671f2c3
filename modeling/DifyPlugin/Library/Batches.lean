import Mathlib.Data.List.Basic

/-!
# Consecutive batches

A sequence is cut into batches of a fixed size, the last one being shorter when the size does
not divide its length. The batches are not empty, and joined they are the sequence.
-/

namespace DifyPlugin

variable {α : Type}

/-- `[items[i : i + size] for i in range(0, len(items), size)]`. -/
def batches (size : Nat) (items : List α) : List (List α) :=
  (List.range ((items.length + size - 1) / size)).map fun index =>
    (items.drop (index * size)).take size

/-- The first batches are the first items. -/
theorem flatten_range_batches (size count : Nat) (items : List α) :
    ((List.range count).map fun index => (items.drop (index * size)).take size).flatten =
      items.take (count * size) := by
  induction count with
  | zero => simp
  | succ count ih =>
    rw [List.range_succ, List.map_append, List.flatten_append, ih, Nat.succ_mul, List.take_add]
    simp

/-- Joined, the batches are the sequence. -/
theorem flatten_batches {size : Nat} (positive : 0 < size) (items : List α) :
    (batches size items).flatten = items := by
  rw [batches, flatten_range_batches]
  apply List.take_of_length_le
  have whole := Nat.div_add_mod (items.length + size - 1) size
  have rest := Nat.mod_lt (items.length + size - 1) positive
  rw [Nat.mul_comm] at whole
  omega

/-- A batch is not empty and not longer than the size. -/
theorem mem_batches {size : Nat} (positive : 0 < size) {items batch : List α}
    (listed : batch ∈ batches size items) : batch ≠ [] ∧ batch.length ≤ size := by
  obtain ⟨index, inside, rfl⟩ := List.mem_map.mp listed
  have within : index + 1 ≤ (items.length + size - 1) / size := List.mem_range.mp inside
  have bound : (index + 1) * size ≤ items.length + size - 1 :=
    (Nat.le_div_iff_mul_le positive).mp within
  rw [Nat.succ_mul] at bound
  constructor
  · intro empty
    have length := congrArg List.length empty
    rw [List.length_take, List.length_drop, List.length_nil] at length
    omega
  · rw [List.length_take]
    omega

end DifyPlugin
