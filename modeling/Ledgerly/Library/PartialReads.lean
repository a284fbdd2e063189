/-
This file is about items that are read in pieces: a read gives some of the items that are left, at
least one if there are any, but perhaps fewer than there is room for. A loop that reads until its
room is full or nothing is left takes the same items however the reads fall.
-/

import Mathlib.Data.List.Basic

/-- What is left to read, and how many items each of the next reads may give beyond its first. -/
structure PartialReader (Item : Type*) where
  left : List Item
  spare : Nat → Nat

namespace PartialReader

variable {Item : Type*}

/-- One read. -/
def read (reader : PartialReader Item) (room : Nat) : List Item × PartialReader Item :=
  let count := min room (reader.spare 0 + 1)
  (reader.left.take count, ⟨reader.left.drop count, fun later => reader.spare (later + 1)⟩)

variable (reader : PartialReader Item)

theorem read_append (room : Nat) :
    (reader.read room).1 ++ (reader.read room).2.left = reader.left := List.take_append_drop _ _

theorem length_read_le (room : Nat) : (reader.read room).1.length ≤ room :=
  Nat.le_trans (List.length_take_le _ _) (Nat.min_le_left _ _)

/-- A read gives nothing only where there is no room or nothing is left. -/
theorem left_of_read_eq_nil {reader : PartialReader Item} {room : Nat} (positive : 0 < room)
    (nothing : (reader.read room).1 = []) : reader.left = [] := by
  rcases List.take_eq_nil_iff.mp nothing with noRoom | none
  · omega
  · exact none

theorem length_read_pos {reader : PartialReader Item} {room : Nat}
    (some : (reader.read room).1 ≠ []) : 0 < (reader.read room).1.length :=
  List.length_pos_of_ne_nil some

/-- Reads until the room is full or nothing is left. -/
def fill (reader : PartialReader Item) (room : Nat) : List Item × PartialReader Item :=
  if (reader.read room).1 = [] then reader.read room
  else
    let filled := (reader.read room).2.fill (room - (reader.read room).1.length)
    ((reader.read room).1 ++ filled.1, filled.2)
termination_by room
decreasing_by
  rename_i some
  have := length_read_pos some
  have := reader.length_read_le room
  omega

/-- What is filled does not depend on how the reads fall. -/
theorem fill_eq (room : Nat) :
    (reader.fill room).1 = reader.left.take room ∧
      (reader.fill room).2.left = reader.left.drop room := by
  induction reader, room using fill.induct with
  | case1 reader room nothing =>
    have split := reader.read_append room
    rw [nothing, List.nil_append] at split
    rw [fill, if_pos nothing, nothing, split]
    rcases Nat.eq_zero_or_pos room with rfl | positive
    · exact ⟨rfl, rfl⟩
    · rw [left_of_read_eq_nil positive nothing, List.take_nil, List.drop_nil]
      exact ⟨rfl, rfl⟩
  | case2 reader room some inductionHypothesis =>
    have split := reader.read_append room
    have bound := reader.length_read_le room
    rw [fill, if_neg some]
    dsimp only
    rw [inductionHypothesis.1, inductionHypothesis.2, ← split, List.take_append, List.drop_append,
      List.take_of_length_le bound, List.drop_of_length_le bound, List.nil_append]
    exact ⟨rfl, rfl⟩

/-- As many items as are asked for, or none. -/
def exactly (reader : PartialReader Item) (count : Nat) : Option (List Item × PartialReader Item) :=
  let (items, after) := reader.fill count
  if items.length < count then none else some (items, after)

theorem exactly_eq_some_iff {reader after : PartialReader Item} {count : Nat} {items : List Item} :
    reader.exactly count = some (items, after) ↔
      items.length = count ∧ reader.left = items ++ after.left ∧ after = (reader.fill count).2 := by
  obtain ⟨taken, dropped⟩ := reader.fill_eq count
  unfold exactly
  dsimp only
  rw [taken, List.length_take]
  constructor
  · intro found
    split at found
    · cases found
    · obtain ⟨rfl, rfl⟩ := Prod.mk.inj (Option.some.inj found)
      refine ⟨?_, ?_, rfl⟩
      · rw [List.length_take]
        omega
      · rw [dropped, List.take_append_drop]
  · rintro ⟨rfl, whole, rfl⟩
    have long : items.length ≤ reader.left.length := by
      rw [whole, List.length_append]
      omega
    rw [if_neg (by omega)]
    congr 2
    rw [whole, List.take_left]

/-- The same is read from readers with the same left, and the same is left after it. -/
theorem exactly_of_left {one two : PartialReader Item} (same : one.left = two.left) (count : Nat) :
    (one.exactly count = none ∧ two.exactly count = none) ∨
      ∃ items afterOne afterTwo, one.exactly count = some (items, afterOne) ∧
        two.exactly count = some (items, afterTwo) ∧ afterOne.left = afterTwo.left := by
  obtain ⟨takenOne, droppedOne⟩ := one.fill_eq count
  obtain ⟨takenTwo, droppedTwo⟩ := two.fill_eq count
  unfold exactly
  dsimp only
  rw [takenOne, takenTwo, ← same]
  by_cases short : (one.left.take count).length < count
  · rw [if_pos short, if_pos short]
    exact Or.inl ⟨rfl, rfl⟩
  · rw [if_neg short, if_neg short]
    exact Or.inr ⟨_, _, _, rfl, rfl, by rw [droppedOne, droppedTwo, same]⟩

/-- Reads until nothing is left, with the same room each time. -/
def drain (reader : PartialReader Item) (room : Nat) : List Item :=
  if (reader.read room).1 = [] then []
  else (reader.read room).1 ++ (reader.read room).2.drain room
termination_by reader.left.length
decreasing_by
  rename_i some
  have := length_read_pos some
  have split := congrArg List.length (reader.read_append room)
  rw [List.length_append] at split
  omega

/-- All that is left is read. -/
theorem drain_eq {room : Nat} (positive : 0 < room) : reader.drain room = reader.left := by
  fun_induction drain reader room with
  | case1 reader nothing =>
    rw [left_of_read_eq_nil positive nothing]
  | case2 reader some inductionHypothesis =>
    rw [inductionHypothesis, reader.read_append]

end PartialReader
