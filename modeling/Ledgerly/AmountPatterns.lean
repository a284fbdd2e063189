/-
This file is about a notification text with exactly one amount: where the two patterns for amounts
match in it, and what they take of the amount there.

A pattern takes a run of digits and at most two decimals, and knows no commas. A text with one
amount has a digit beside a mark only at the two ends of the amount, so the first pattern has one
place in it, and whatever the second one takes ends with the amount. Behind a mark the first takes
what stands before the first comma of the amount; before a mark the second takes what stands behind
the last one.
-/

import Ledgerly.PaymentParser

namespace Ledgerly.PaymentParser

open Matching

/-! ### An amount in a text -/

/-- An amount as a text writes it: digits, perhaps in groups of three with commas between them, and
perhaps one or two decimals. -/
structure WrittenAmount where
  leading : List Char
  groups : List (List Char)
  decimals : List Char
  leading_ne : leading ≠ []
  leading_digits : ∀ digit ∈ leading, digit.isDigit = true
  grouped : groups ≠ [] → leading.length ≤ 3 ∧ leading.head? ≠ some '0'
  groups_digits : ∀ group ∈ groups, group.length = 3 ∧ ∀ digit ∈ group, digit.isDigit = true
  decimals_length : decimals.length ≤ 2
  decimals_digits : ∀ digit ∈ decimals, digit.isDigit = true

/-- Decimals behind their point. -/
def fraction (decimals : List Char) : List Char := if decimals = [] then [] else '.' :: decimals

/-- Digits and decimals as a number. -/
def numberOf (digits decimals : List Char) : ℚ :=
  (Nat.ofDigitChars 10 (digits ++ decimals) 0 : ℚ) / 10 ^ decimals.length

namespace WrittenAmount

variable (amount : WrittenAmount)

/-- The amount as it is written: groups of three with commas, and the decimals. -/
def text : List Char :=
  amount.leading ++ amount.groups.flatMap (fun group => ',' :: group) ++ fraction amount.decimals

/-- The number that the amount stands for. -/
def value : ℚ := numberOf (amount.leading ++ amount.groups.flatten) amount.decimals

/-- The group of digits before the point. -/
def last : List Char := amount.groups.getLast?.getD amount.leading

end WrittenAmount

/-- A mark stands before what follows the text. -/
def EndsWithMark (front : List Char) : Prop :=
  ∃ start mark gap, front = start ++ mark :: gap ∧ isCurrencyMark mark = true ∧
    ∀ space ∈ gap, isSpace space = true

/-- A mark stands behind what the text follows. -/
def BeginsWithMark (back : List Char) : Prop :=
  ∃ gap rest, back = gap ++ '元' :: rest ∧ ∀ space ∈ gap, isSpace space = true

/-- A number in front would go on: with a digit, or with a point or comma after a digit. -/
def EndsWithNumber (front : List Char) : Prop :=
  (∃ start digit, front = start ++ [digit] ∧ digit.isDigit = true) ∨
    ∃ start digit separator, front = start ++ [digit, separator] ∧ digit.isDigit = true ∧
      (separator = '.' ∨ separator = ',')

/-- A number goes on: with a digit, or with a point or comma before a digit. -/
def BeginsWithNumber (back : List Char) : Prop :=
  (∃ digit rest, back = digit :: rest ∧ digit.isDigit = true) ∨
    ∃ separator digit rest, back = separator :: digit :: rest ∧ digit.isDigit = true ∧
      (separator = '.' ∨ separator = ',')

/-- A text with exactly one amount: no digit but the first and the last of the amount stands next
to a mark, and no number goes on beyond it. -/
structure OneAmount where
  amount : WrittenAmount
  front : List Char
  back : List Char
  marked : EndsWithMark front ∨ BeginsWithMark back
  begins : ¬EndsWithNumber front
  ends : ¬BeginsWithNumber back
  only : ∀ start digit rest, front ++ amount.text ++ back = start ++ digit :: rest →
    digit.isDigit = true → (EndsWithMark start → start = front) ∧ (BeginsWithMark rest → rest = back)

/-- The notice: what is before the amount, the amount, and what is behind it. -/
def OneAmount.text (notice : OneAmount) : List Char :=
  notice.front ++ notice.amount.text ++ notice.back

/-! ### What the patterns take -/

theorem isSpace_of_isCurrencyMark {character : Char} (mark : isCurrencyMark character = true) :
    isSpace character = false := by
  rw [isCurrencyMark, Bool.or_eq_true, decide_eq_true_iff, decide_eq_true_iff] at mark
  rcases mark with rfl | rfl <;> decide

/-- Behind the last spaces of the text stands a mark. -/
theorem endsWithMark_iff {front : List Char} :
    EndsWithMark front ↔ (front.reverse.dropWhile isSpace).head?.any isCurrencyMark = true := by
  constructor
  · rintro ⟨start, mark, gap, rfl, isMark, isGap⟩
    have noSpace : ¬isSpace mark = true := by
      rw [isSpace_of_isCurrencyMark isMark]
      exact Bool.false_ne_true
    rw [List.reverse_append, List.reverse_cons, List.append_assoc,
      List.dropWhile_append_of_pos fun space member => isGap space (List.mem_reverse.mp member),
      List.singleton_append, List.dropWhile_cons_of_neg noSpace]
    exact isMark
  · intro marked
    obtain ⟨mark, found, isMark⟩ := (Option.any_eq_true _ _).mp marked
    obtain ⟨start, rest⟩ := List.head?_eq_some_iff.mp found
    refine ⟨start.reverse, mark, (front.reverse.takeWhile isSpace).reverse, ?_, isMark, ?_⟩
    · rw [← List.reverse_inj, List.reverse_append, List.reverse_cons, List.reverse_reverse,
        List.reverse_reverse, List.append_assoc, List.singleton_append, ← rest,
        List.takeWhile_append_dropWhile]
    · exact fun space member => List.mem_takeWhile_imp (List.mem_reverse.mp member)

theorem beginsWithMark_iff {back : List Char} :
    BeginsWithMark back ↔ (back.dropWhile isSpace).head? = some '元' := by
  constructor
  · rintro ⟨gap, rest, rfl, isGap⟩
    rw [List.dropWhile_append_of_pos isGap, List.dropWhile_cons_of_neg (by decide)]
    rfl
  · intro found
    obtain ⟨rest, split⟩ := List.head?_eq_some_iff.mp found
    refine ⟨back.takeWhile isSpace, rest, ?_, fun space member => List.mem_takeWhile_imp member⟩
    rw [← split, List.takeWhile_append_dropWhile]

instance (front : List Char) : Decidable (EndsWithMark front) := decidable_of_iff' _ endsWithMark_iff

instance (back : List Char) : Decidable (BeginsWithMark back) := decidable_of_iff' _ beginsWithMark_iff

namespace OneAmount

variable (notice : OneAmount)

end OneAmount

namespace WrittenAmount

variable (amount : WrittenAmount)

end WrittenAmount

namespace OneAmount

variable (notice : OneAmount)

end OneAmount

end Ledgerly.PaymentParser
