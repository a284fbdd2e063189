/-
This file is about a list of items that is served in the order of their dates, a bounded number at a
time, where an item that is served moves to a later date.

An item that is not served yields to one with a date that is no later than its own. So what the
items are behind its date, all taken together, falls with every service until it is served, and it
waits only for so long.
-/

import Mathlib.Algebra.GroupWithZero.Nat
import Mathlib.Algebra.Order.BigOperators.Group.List
import Mathlib.Algebra.Order.Group.Nat
import Mathlib.Data.List.Sort

namespace Backlog

section Order

variable {Item : Type*} (before : Item → Item → Prop) [DecidableRel before] [Std.Total before]
  [IsTrans Item before]

/-- An item that is not among the first of its list comes after one of them. -/
theorem exists_before {items : List Item} {item : Item} {count : Nat} (positive : 0 < count)
    (member : item ∈ items) (waits : item ∉ (items.insertionSort before).take count) :
    ∃ first ∈ (items.insertionSort before).take count, before first item := by
  have inOrder := List.pairwise_insertionSort before items
  have inSorted := (List.mem_insertionSort before).mpr member
  rw [← List.take_append_drop count (items.insertionSort before)] at inSorted inOrder
  have later := (List.mem_append.mp inSorted).resolve_left waits
  have nonempty : (items.insertionSort before).take count ≠ [] := by
    intro isEmpty
    rcases List.take_eq_nil_iff.mp isEmpty with zero | noItems
    · exact positive.ne' zero
    · rw [noItems, List.drop_nil] at later
      exact List.not_mem_nil later
  obtain ⟨first, isFirst⟩ := List.exists_mem_of_ne_nil _ nonempty
  exact ⟨first, isFirst, (List.pairwise_append.mp inOrder).2.2 first isFirst item later⟩

end Order

section Behind

variable {Key : Type*} {keys : List Key} {date next : Key → Int} {limit : Int}

/-- What the items are behind the date after the limit, all taken together. -/
def behind (keys : List Key) (date : Key → Int) (limit : Int) : Nat :=
  (keys.map fun key => (limit + 1 - date key).toNat).sum

/-- If no item moves to an earlier date, and one that is not past the limit moves to a later one, the
items are less behind. -/
theorem behind_lt (later : ∀ key ∈ keys, date key ≤ next key) {served : Key} (member : served ∈ keys)
    (due : date served ≤ limit) (moved : date served < next served) :
    behind keys next limit < behind keys date limit := by
  refine List.sum_lt_sum _ _ (fun key inKeys => ?_) ⟨served, member, ?_⟩
  · have := later key inKeys
    omega
  · omega

end Behind

end Backlog
