/-
This file is about sums that are accumulated in a fixed number of bits and wrap around.

However often a sum has wrapped around, it is the exact sum, wrapped once. So it is the exact sum
if that one fits, and only then, and terms that add up to a multiple of the modulus make no
difference. The same holds key by key where a map of sums is accumulated.
-/

import Mathlib.Algebra.BigOperators.Group.List.Basic
import Mathlib.Algebra.Order.Ring.Int
import Ledgerly.Library.KeyMap

namespace WrappedSum

variable {Item Key : Type*} {modulus : Nat}

/-- A number is itself in the bits that hold it, and nothing else is. -/
theorem bmod_eq_self_iff (positive : 0 < modulus) {value : Int} :
    value.bmod modulus = value ↔ -(modulus / 2) ≤ value ∧ value < (modulus + 1) / 2 := by
  constructor
  · intro same
    rw [← same]
    exact ⟨Int.le_bmod positive, Int.bmod_lt positive⟩
  · rintro ⟨lower, upper⟩
    exact Int.bmod_eq_of_le lower upper

/-- What makes no difference to a wrapped number. -/
theorem bmod_add_eq_iff {value more : Int} :
    (value + more).bmod modulus = value.bmod modulus ↔ (modulus : Int) ∣ more := by
  rw [Int.bmod_eq_bmod_iff_bmod_sub_eq_zero, add_sub_cancel_left, Int.dvd_iff_bmod_eq_zero]

/-- A sum that wraps around after every term. -/
theorem foldl_bmod (value : Item → Int) (items : List Item) (start : Int) :
    items.foldl (fun total item => (total + value item).bmod modulus) (start.bmod modulus) =
      (start + (items.map value).sum).bmod modulus := by
  induction items generalizing start with
  | nil => simp
  | cons item items inductionHypothesis =>
    rw [List.foldl_cons, Int.bmod_add_bmod, inductionHypothesis, List.map_cons, List.sum_cons,
      add_assoc]

section Groups

variable [DecidableEq Key] (keyOf : Item → Key) (value : Item → Int)

/-- The items under a key. -/
def group (key : Key) (items : List Item) : List Item := items.filter fun item => keyOf item = key

/-- A map of sums of which the one under the key of an item wraps around after the item. -/
def sums (modulus : Nat) (items : List Item) (start : KeyMap Key Int) : KeyMap Key Int :=
  items.foldl (fun sums item =>
    sums.insert (keyOf item) (((sums.lookup (keyOf item)).getD 0 + value item).bmod modulus)) start

theorem sums_cons (item : Item) (items : List Item) (start : KeyMap Key Int) :
    sums keyOf value modulus (item :: items) start =
      sums keyOf value modulus items (start.insert (keyOf item)
        (((start.lookup (keyOf item)).getD 0 + value item).bmod modulus)) := rfl

/-- The sum under a key is the sum of the items under it. -/
theorem lookup_sums (items : List Item) (start : KeyMap Key Int) (key : Key) :
    (sums keyOf value modulus items start).lookup key =
      if group keyOf key items = [] then start.lookup key
      else some (((start.lookup key).getD 0 +
        ((group keyOf key items).map value).sum).bmod modulus) := by
  induction items generalizing start with
  | nil => exact (if_pos rfl).symm
  | cons item items inductionHypothesis =>
    rw [sums_cons, inductionHypothesis, KeyMap.lookup_insert_eq]
    by_cases here : keyOf item = key
    · have found : group keyOf key (item :: items) = item :: group keyOf key items :=
        List.filter_cons_of_pos (decide_eq_true here)
      rw [found, if_neg (List.cons_ne_nil _ _), if_pos here.symm, List.map_cons, List.sum_cons, here]
      by_cases last : group keyOf key items = []
      · rw [if_pos last, last, List.map_nil, List.sum_nil, add_zero]
      · rw [if_neg last, Option.getD_some, Int.bmod_add_bmod, add_assoc]
    · have skipped : group keyOf key (item :: items) = group keyOf key items :=
        List.filter_cons_of_neg (by simpa using here)
      rw [skipped, if_neg (Ne.symm here)]

end Groups

end WrappedSum
