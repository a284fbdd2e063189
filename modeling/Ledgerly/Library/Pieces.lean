/-
This file is about cutting a length into pieces of one size, of which the last one may be
shorter. The pieces are counted from zero; there are as many as the quotient, rounded up.

The pieces follow one another without a gap, every position lies in exactly one of them, their
lengths add up to the whole, and the contents of a list, read piece by piece, are the list.
-/

import Mathlib.Algebra.BigOperators.Group.List.Basic
import Mathlib.Algebra.Order.Floor.Div
import Mathlib.Algebra.Order.Group.Nat

namespace Pieces

/-- The number of pieces. -/
def count (size length : Nat) : Nat := length ⌈/⌉ size

/-- Where a piece starts. -/
def start (size index : Nat) : Nat := index * size

/-- Where a piece ends. -/
def stop (size length index : Nat) : Nat := min (index * size + size) length

variable {size length index : Nat}

/-- There is a piece for every index whose start is inside. -/
theorem lt_count_iff (positive : 0 < size) :
    index < count size length ↔ start size index < length := by
  rw [count, start, ← not_le, ceilDiv_le_iff_le_mul positive, not_le, mul_comm]

theorem stop_eq_start (more : index + 1 < count size length) (positive : 0 < size) :
    stop size length index = start size (index + 1) := by
  have inside := (lt_count_iff positive).mp more
  rw [start, Nat.succ_mul] at inside
  rw [stop, min_eq_left inside.le, start, Nat.succ_mul]

/-- The last piece ends where the whole does. -/
theorem stop_last (last : index + 1 = count size length) (positive : 0 < size) :
    stop size length index = length := by
  have outside : ¬index + 1 < count size length := by omega
  rw [lt_count_iff positive, start, Nat.succ_mul, not_lt] at outside
  exact min_eq_right outside

/-- No piece is empty. -/
theorem start_lt_stop (inside : index < count size length) (positive : 0 < size) :
    start size index < stop size length index :=
  lt_min (Nat.lt_add_of_pos_right positive) ((lt_count_iff positive).mp inside)

/-- A position inside lies in the piece that its quotient names, and in no other one. -/
theorem mem_piece_iff {position : Nat} (inside : position < length) (positive : 0 < size) :
    start size index ≤ position ∧ position < stop size length index ↔ index = position / size := by
  rw [start, stop, lt_min_iff]
  constructor
  · rintro ⟨lower, upper, -⟩
    exact ((Nat.div_eq_iff positive).mpr ⟨lower, by omega⟩).symm
  · rintro rfl
    have rest := Nat.mod_lt position positive
    have parts := Nat.div_add_mod' position size
    exact ⟨by omega, by omega, inside⟩

theorem div_lt_count {position : Nat} (inside : position < length) (positive : 0 < size) :
    position / size < count size length :=
  (lt_count_iff positive).mpr ((Nat.div_mul_le_self position size).trans_lt inside)

/-- The first pieces together end where the next one starts, or at the end of the whole. -/
theorem sum_lengths_min (size length upTo : Nat) :
    ((List.range upTo).map fun (i : Nat) => stop size length i - start size i).sum =
      min (upTo * size) length := by
  induction upTo with
  | zero => simp
  | succ upTo inductionHypothesis =>
    rw [List.range_succ, List.map_append, List.sum_append, inductionHypothesis, List.map_singleton,
      List.sum_singleton, stop, start, Nat.succ_mul]
    omega

theorem length_le_count_mul (positive : 0 < size) : length ≤ count size length * size := by
  have outside : ¬count size length < count size length := lt_irrefl _
  rwa [lt_count_iff positive, start, not_lt] at outside

/-- The lengths of the pieces add up to the whole. -/
theorem sum_lengths (positive : 0 < size) :
    ((List.range (count size length)).map fun (i : Nat) =>
      stop size length i - start size i).sum = length := by
  rw [sum_lengths_min, min_eq_right (length_le_count_mul positive)]

section Contents

variable {Item : Type*}

/-- The contents of a list from one position to another. -/
def slice (items : List Item) (first last : Nat) : List Item :=
  (items.drop first).take (last - first)

/-- The first contents and those that follow them. -/
theorem take_append_slice (items : List Item) {first last : Nat} (ordered : first ≤ last) :
    items.take first ++ slice items first last = items.take last := by
  rw [slice, ← List.take_add, Nat.add_sub_cancel' ordered]

theorem flatten_take (items : List Item) (size upTo : Nat) :
    ((List.range upTo).map fun (i : Nat) =>
      slice items (start size i) (stop size items.length i)).flatten =
        items.take (upTo * size) := by
  induction upTo with
  | zero => simp
  | succ upTo inductionHypothesis =>
    rw [List.range_succ, List.map_append, List.flatten_append, inductionHypothesis,
      List.map_singleton, List.flatten_singleton, start, stop, Nat.succ_mul]
    rcases Nat.le_total (upTo * size) items.length with before | past
    · rw [take_append_slice items (le_min (Nat.le_add_right _ _) before), List.take_eq_take_iff,
        min_assoc, min_self]
    · rw [slice, List.drop_of_length_le past, List.take_nil, List.append_nil,
        List.take_of_length_le past, List.take_of_length_le (past.trans (Nat.le_add_right _ _))]

/-- Read piece by piece, a list is itself. -/
theorem flatten_slices (items : List Item) (positive : 0 < size) :
    ((List.range (count size items.length)).map fun (i : Nat) =>
      slice items (start size i) (stop size items.length i)).flatten = items := by
  rw [flatten_take, List.take_of_length_le (length_le_count_mul positive)]

end Contents

end Pieces
