/-
This file is about cutting a list of items of different sizes, such as the characters of a text with
the bytes that encode them, where the items before the cut have a given size in all. There may be no
such place: the cut then falls inside an item.
-/

import Mathlib.Algebra.BigOperators.Group.List.Basic
import Mathlib.Algebra.GroupWithZero.Nat
import Mathlib.Data.Option.Basic

namespace Cutting

variable {α : Type*} (size : α → Nat)

/-- The size of all items. -/
def total (items : List α) : Nat := (items.map size).sum

/-- The items before and after the cut. -/
def cutAt : Nat → List α → Option (List α × List α)
  | 0, items => some ([], items)
  | _ + 1, [] => none
  | place + 1, item :: rest =>
    if size item ≤ place + 1 then
      (cutAt (place + 1 - size item) rest).map fun cut => (item :: cut.1, cut.2)
    else none

variable {size}

theorem total_nil : total size [] = 0 := rfl

theorem total_cons (item : α) (rest : List α) :
    total size (item :: rest) = size item + total size rest := by
  rw [total, List.map_cons, List.sum_cons]
  rfl

/-- A cut is where the items before it have the size, and there is one such place. -/
theorem cutAt_eq_some_iff (positive : ∀ item, 0 < size item) {place : Nat}
    {items front rest : List α} :
    cutAt size place items = some (front, rest) ↔
      front ++ rest = items ∧ total size front = place := by
  induction items generalizing place front with
  | nil =>
    cases place with
    | zero =>
      rw [cutAt, Option.some.injEq, Prod.mk.injEq]
      constructor
      · rintro ⟨rfl, rfl⟩
        exact ⟨rfl, rfl⟩
      · rintro ⟨none, -⟩
        obtain ⟨rfl, rfl⟩ := List.append_eq_nil_iff.mp none
        exact ⟨rfl, rfl⟩
    | succ place =>
      rw [cutAt]
      constructor
      · intro impossible
        cases impossible
      · rintro ⟨none, sized⟩
        obtain ⟨rfl, rfl⟩ := List.append_eq_nil_iff.mp none
        cases sized
  | cons item others inductionHypothesis =>
    cases place with
    | zero =>
      rw [cutAt, Option.some.injEq, Prod.mk.injEq]
      constructor
      · rintro ⟨rfl, rfl⟩
        exact ⟨rfl, rfl⟩
      · rintro ⟨whole, sized⟩
        cases front with
        | nil => exact ⟨rfl, whole.symm⟩
        | cons first tail =>
          have := positive first
          rw [total_cons] at sized
          omega
    | succ place =>
      rw [cutAt]
      constructor
      · intro cut
        split at cut
        · next fits =>
          obtain ⟨⟨before, after⟩, inner, same⟩ := Option.map_eq_some_iff.mp cut
          obtain ⟨rfl, rfl⟩ := Prod.mk.inj same
          obtain ⟨whole, sized⟩ := inductionHypothesis.mp inner
          refine ⟨congrArg (item :: ·) whole, ?_⟩
          rw [total_cons, sized]
          omega
        · cases cut
      · rintro ⟨whole, sized⟩
        cases front with
        | nil => cases sized
        | cons first tail =>
          obtain ⟨rfl, others⟩ := List.cons.inj whole
          rw [total_cons] at sized
          have tailSized : total size tail = place + 1 - size first := by omega
          have inner := inductionHypothesis.mpr ⟨others, tailSized⟩
          rw [if_pos (by omega), inner]
          rfl

/-- Items of the same sizes are cut at the same place. -/
theorem cutAt_map {change : α → α} (same : ∀ item, size (change item) = size item) (place : Nat)
    (items : List α) :
    cutAt size place (items.map change) =
      (cutAt size place items).map fun cut => (cut.1.map change, cut.2.map change) := by
  induction items generalizing place with
  | nil => cases place <;> rfl
  | cons item rest inductionHypothesis =>
    cases place with
    | zero => rfl
    | succ place =>
      rw [List.map_cons, cutAt, cutAt, same]
      split
      · rw [inductionHypothesis, Option.map_map, Option.map_map]
        rfl
      · rfl

theorem total_map {change : α → α} (same : ∀ item, size (change item) = size item)
    (items : List α) : total size (items.map change) = total size items := by
  rw [total, List.map_map, total]
  exact congrArg List.sum (List.map_congr_left fun item _ => same item)

end Cutting
