/-
This file defines the base64 text of bytes and a reader of such texts, and proves that bytes
come back from their text. Three bytes are four digits; the last digits of a text that is cut
short are written as padding.
-/

import Mathlib.Data.List.Basic

namespace Base64

/-- The digits of the standard alphabet. -/
def digit (value : Nat) : Char :=
  if value < 26 then Char.ofNat (65 + value)
  else if value < 52 then Char.ofNat (71 + value)
  else if value < 62 then Char.ofNat (value - 4)
  else if value = 62 then '+' else '/'

/-- The value of a digit, in the standard alphabet or in the one for addresses. -/
def value (digit : Char) : Option Nat :=
  if 'A' ≤ digit ∧ digit ≤ 'Z' then some (digit.toNat - 65)
  else if 'a' ≤ digit ∧ digit ≤ 'z' then some (digit.toNat - 71)
  else if '0' ≤ digit ∧ digit ≤ '9' then some (digit.toNat + 4)
  else if digit = '+' ∨ digit = '-' then some 62
  else if digit = '/' ∨ digit = '_' then some 63
  else none

/-- Three bytes make four digits; what is missing at the end is filled up. -/
def encode : List UInt8 → List Char
  | [] => []
  | [one] => [digit (one.toNat / 4), digit (one.toNat % 4 * 16), '=', '=']
  | [one, two] =>
    [digit (one.toNat / 4), digit (one.toNat % 4 * 16 + two.toNat / 16),
      digit (two.toNat % 16 * 4), '=']
  | one :: two :: three :: rest =>
    digit (one.toNat / 4) :: digit (one.toNat % 4 * 16 + two.toNat / 16) ::
      digit (two.toNat % 16 * 4 + three.toNat / 64) :: digit (three.toNat % 64) :: encode rest

/-- The bytes of a text: no bits are left over before the padding, and nothing follows it. -/
def decode : List Char → Option (List UInt8)
  | [] => some []
  | one :: two :: three :: four :: rest => do
    let first ← value one
    let second ← value two
    if four = '=' then
      if rest ≠ [] then none
      else if three = '=' then
        if second % 16 = 0 then return [UInt8.ofNat (first * 4 + second / 16)] else none
      else do
        let third ← value three
        if third % 4 = 0 then
          return [UInt8.ofNat (first * 4 + second / 16),
            UInt8.ofNat (second % 16 * 16 + third / 4)]
        else none
    else do
      let third ← value three
      let fourth ← value four
      let bytes ← decode rest
      return UInt8.ofNat (first * 4 + second / 16) ::
        UInt8.ofNat (second % 16 * 16 + third / 4) ::
          UInt8.ofNat (third % 4 * 64 + fourth) :: bytes
  | _ => none

theorem value_digit : ∀ number < 64, value (digit number) = some number := by decide

theorem digit_ne_padding : ∀ number < 64, digit number ≠ '=' := by decide

theorem ofNat_eq {number : Nat} {byte : UInt8} (same : number = byte.toNat) :
    UInt8.ofNat number = byte := by
  rw [same, UInt8.ofNat_toNat]

theorem decode_encode (bytes : List UInt8) : decode (encode bytes) = some bytes := by
  induction bytes using encode.induct with
  | case1 => rfl
  | case2 one =>
    have bound := one.toNat_lt
    have restored : UInt8.ofNat (one.toNat / 4 * 4 + one.toNat % 4 * 16 / 16) = one :=
      ofNat_eq (by omega)
    have whole : one.toNat % 4 * 16 % 16 = 0 := Nat.mul_mod_left _ _
    rw [encode, decode, value_digit _ (by omega), value_digit _ (by omega)]
    simp only [Option.bind_eq_bind, Option.bind_some, Option.pure_def, ne_eq, not_true_eq_false,
      ↓reduceIte, whole, restored]
  | case3 one two =>
    have boundOne := one.toNat_lt
    have boundTwo := two.toNat_lt
    have restoredOne : UInt8.ofNat (one.toNat / 4 * 4 +
        (one.toNat % 4 * 16 + two.toNat / 16) / 16) = one := ofNat_eq (by omega)
    have restoredTwo : UInt8.ofNat ((one.toNat % 4 * 16 + two.toNat / 16) % 16 * 16 +
        two.toNat % 16 * 4 / 4) = two := ofNat_eq (by omega)
    have whole : two.toNat % 16 * 4 % 4 = 0 := Nat.mul_mod_left _ _
    rw [encode, decode, value_digit _ (by omega), value_digit _ (by omega),
      value_digit _ (by omega)]
    simp only [Option.bind_eq_bind, Option.bind_some, Option.pure_def, ne_eq, not_true_eq_false,
      ↓reduceIte, digit_ne_padding (two.toNat % 16 * 4) (by omega), whole, restoredOne, restoredTwo]
  | case4 one two three rest inductionHypothesis =>
    have boundOne := one.toNat_lt
    have boundTwo := two.toNat_lt
    have boundThree := three.toNat_lt
    have restoredOne : UInt8.ofNat (one.toNat / 4 * 4 +
        (one.toNat % 4 * 16 + two.toNat / 16) / 16) = one := ofNat_eq (by omega)
    have restoredTwo : UInt8.ofNat ((one.toNat % 4 * 16 + two.toNat / 16) % 16 * 16 +
        (two.toNat % 16 * 4 + three.toNat / 64) / 4) = two := ofNat_eq (by omega)
    have restoredThree : UInt8.ofNat ((two.toNat % 16 * 4 + three.toNat / 64) % 4 * 64 +
        three.toNat % 64) = three := ofNat_eq (by omega)
    rw [encode, decode, value_digit _ (by omega), value_digit _ (by omega),
      value_digit _ (by omega), value_digit _ (by omega), inductionHypothesis]
    simp only [Option.bind_eq_bind, Option.bind_some, Option.pure_def,
      ↓reduceIte, digit_ne_padding (three.toNat % 64) (by omega), restoredOne, restoredTwo,
      restoredThree]

end Base64
