/-
This file is about numbers written with digits in a base of up to 36: a digit is a decimal digit
or a letter of either case, and a numeral is one digit or more.
-/

import Mathlib.Data.Nat.Digits.Defs
import Mathlib.Data.Option.Basic

namespace Numerals

/-! ### Small and capital letters -/

/-- What holds of the twenty-six capitals holds of each. -/
theorem forall_capital {holds : Char → Prop}
    (each : ∀ code ∈ List.range' 65 26, holds (Char.ofNat code)) {character : Char}
    (isCapital : character.val ≥ 'A'.val ∧ character.val ≤ 'Z'.val) : holds character := by
  have low : 65 ≤ character.val.toNat := UInt32.le_iff_toNat_le.mp isCapital.1
  have high : character.val.toNat ≤ 90 := UInt32.le_iff_toNat_le.mp isCapital.2
  have found := each character.toNat (List.mem_range'_1.mpr ⟨low, Nat.lt_succ_of_le high⟩)
  rwa [Char.ofNat_toNat] at found

theorem toLower_toLower (character : Char) : character.toLower.toLower = character.toLower := by
  by_cases isCapital : character.val ≥ 'A'.val ∧ character.val ≤ 'Z'.val
  · exact @forall_capital (fun capital => capital.toLower.toLower = capital.toLower) (by decide) _
      isCapital
  · rw [show character.toLower = character from dif_neg isCapital]
    exact dif_neg isCapital

/-- Only small letters have a capital. -/
theorem toLower_eq_iff {character other : Char} (plain : other.isLower = false)
    (small : other.toLower = other) : character.toLower = other ↔ character = other := by
  constructor
  · intro same
    by_cases isCapital : character.val ≥ 'A'.val ∧ character.val ≤ 'Z'.val
    · have isLower := @forall_capital (fun capital => capital.toLower.isLower = true) (by decide) _
        isCapital
      rw [same, plain] at isLower
      cases isLower
    · rwa [show character.toLower = character from dif_neg isCapital] at same
  · rintro rfl
    exact small

/-! ### Digits -/

/-- What a digit counts; 36 for a character that is no digit of any base. -/
def digitValue (digit : Char) : Nat :=
  if digit.isDigit then digit.toNat - 48
  else if digit.isLower then digit.toNat - 87
  else if digit.isUpper then digit.toNat - 55
  else 36

theorem digitValue_toLower (digit : Char) : digitValue digit.toLower = digitValue digit := by
  by_cases isCapital : digit.val ≥ 'A'.val ∧ digit.val ≤ 'Z'.val
  · exact @forall_capital (fun capital => digitValue capital.toLower = digitValue capital)
      (by decide) _ isCapital
  · rw [show digit.toLower = digit from dif_neg isCapital]

/-- Digits stand between `0` and `z`. -/
theorem code_of_digit {digit : Char} (isDigit : digitValue digit < 36) :
    48 ≤ digit.toNat ∧ digit.toNat < 48 + 75 := by
  unfold digitValue at isDigit
  split at isDigit
  · next decimal =>
    obtain ⟨low, high⟩ := Bool.and_eq_true_iff.mp decimal
    exact ⟨of_decide_eq_true low, Nat.lt_of_le_of_lt (of_decide_eq_true high) (by decide)⟩
  · split at isDigit
    · next lower =>
      obtain ⟨low, high⟩ := Bool.and_eq_true_iff.mp lower
      exact ⟨Nat.le_trans (by decide) (UInt32.le_iff_toNat_le.mp (of_decide_eq_true low)),
        Nat.lt_of_le_of_lt (UInt32.le_iff_toNat_le.mp (of_decide_eq_true high)) (by decide)⟩
    · split at isDigit
      · next upper =>
        obtain ⟨low, high⟩ := of_decide_eq_true upper
        exact ⟨Nat.le_trans (by decide) (UInt32.le_iff_toNat_le.mp low),
          Nat.lt_of_le_of_lt (UInt32.le_iff_toNat_le.mp high) (by decide)⟩
      · exact absurd isDigit (lt_irrefl 36)

theorem digitValue_digitChar : ∀ {value : Nat}, value < 16 →
    digitValue (Nat.digitChar value) = value := by
  decide

/-! ### Numerals -/

/-- The number some digits spell, after the number `before`. -/
def valueFrom (base : Nat) (before : Nat) (digits : List Char) : Nat :=
  digits.foldl (fun value digit => value * base + digitValue digit) before

/-- The number a numeral of a base spells. -/
def readDigits (base : Nat) (digits : List Char) : Option Nat :=
  if digits ≠ [] ∧ digits.all (digitValue · < base) then some (valueFrom base 0 digits) else none

theorem readDigits_eq_some_iff {base value : Nat} {digits : List Char} :
    readDigits base digits = some value ↔
      (digits ≠ [] ∧ ∀ digit ∈ digits, digitValue digit < base) ∧
        valueFrom base 0 digits = value := by
  rw [readDigits, Option.ite_none_right_eq_some, Option.some.injEq]
  simp only [List.all_eq_true, decide_eq_true_eq]

theorem readDigits_eq_none {base : Nat} {digits : List Char} {character : Char}
    (member : character ∈ digits) (noDigit : base ≤ digitValue character) :
    readDigits base digits = none := by
  rw [Option.eq_none_iff_forall_ne_some]
  intro value read
  have isDigit := (readDigits_eq_some_iff.mp read).1.2 character member
  exact absurd isDigit (Nat.not_lt.mpr noDigit)

/-- The case of the letters makes no difference. -/
theorem readDigits_map_toLower (base : Nat) (digits : List Char) :
    readDigits base (digits.map Char.toLower) = readDigits base digits := by
  have values : ∀ before : Nat,
      valueFrom base before (digits.map Char.toLower) = valueFrom base before digits := by
    intro before
    rw [valueFrom, List.foldl_map]
    simp only [digitValue_toLower]
    rfl
  unfold readDigits
  rw [values]
  simp only [ne_eq, List.map_eq_nil_iff, List.all_map, Function.comp_def, digitValue_toLower]

theorem valueFrom_lt {base : Nat} {digits : List Char}
    (all : ∀ digit ∈ digits, digitValue digit < base) (before : Nat) :
    valueFrom base before digits < base ^ digits.length * (before + 1) := by
  induction digits generalizing before with
  | nil => simp [valueFrom]
  | cons digit digits inductionHypothesis =>
    have next := inductionHypothesis (fun other member => all other (List.mem_cons_of_mem _ member))
      (before * base + digitValue digit)
    have isDigit := all digit List.mem_cons_self
    calc valueFrom base before (digit :: digits)
        < base ^ digits.length * (before * base + digitValue digit + 1) := next
      _ ≤ base ^ digits.length * (base * (before + 1)) := by
        refine Nat.mul_le_mul_left _ ?_
        rw [Nat.mul_comm base, Nat.add_mul, Nat.one_mul]
        omega
      _ = base ^ (digit :: digits).length * (before + 1) := by
        rw [List.length_cons, pow_succ, Nat.mul_assoc]

/-- So many digits are a number with so many digits. -/
theorem readDigits_lt {base value : Nat} {digits : List Char}
    (read : readDigits base digits = some value) : value < base ^ digits.length := by
  obtain ⟨⟨-, all⟩, rfl⟩ := readDigits_eq_some_iff.mp read
  have bound := valueFrom_lt all 0
  rwa [Nat.zero_add, Nat.mul_one] at bound

/-- The digits of a number are read as the number. -/
theorem readDigits_toDigits {base : Nat} (two : 1 < base) (few : base ≤ 16) (value : Nat) :
    readDigits base (Nat.toDigits base value) = some value := by
  have read : (∀ digit ∈ Nat.toDigits base value, digitValue digit < base) ∧
      valueFrom base 0 (Nat.toDigits base value) = value := by
    induction value using Nat.base_induction base two with
    | single value small =>
      rw [Nat.toDigits_of_lt_base small]
      refine ⟨fun digit member => ?_, ?_⟩
      · rw [List.mem_singleton.mp member, digitValue_digitChar (lt_of_lt_of_le small few)]
        exact small
      · show 0 * base + digitValue (Nat.digitChar value) = value
        rw [digitValue_digitChar (lt_of_lt_of_le small few), Nat.zero_mul, Nat.zero_add]
    | digit front last isLast positive inductionHypothesis =>
      rw [← Nat.toDigits_append_toDigits two positive isLast, Nat.toDigits_of_lt_base isLast]
      have lastValue := digitValue_digitChar (lt_of_lt_of_le isLast few)
      refine ⟨fun digit member => ?_, ?_⟩
      · rcases List.mem_append.mp member with inFront | atEnd
        · exact inductionHypothesis.1 digit inFront
        · rw [List.mem_singleton.mp atEnd, lastValue]
          exact isLast
      · have values : valueFrom base 0 (Nat.toDigits base front) = front := inductionHypothesis.2
        rw [valueFrom, List.foldl_append]
        show valueFrom base 0 (Nat.toDigits base front) * base + _ = _
        rw [values, lastValue, Nat.mul_comm]
  exact readDigits_eq_some_iff.mpr ⟨⟨Nat.toDigits_ne_nil, read.1⟩, read.2⟩

end Numerals
