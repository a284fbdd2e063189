/-
This file proves that an amount on display, `formatDisplayMinor`, is read back by
`parseImportAmountMinor` and, where it is positive and stands without the currency, by
`parsePositiveAmountMinor`.

Both readers drop the commas between the groups of digits first, and with them the only part of the
text whose place depends on the length of the number.
-/

import Ledgerly.CsvColumns

namespace Ledgerly.Csv

open DelimitedText

/-- `parsePositiveAmountMinor`. -/
def parsePositiveAmountMinor (raw : String) : Option Int :=
  let value := (dartTrim raw).toList.filter fun character => character ≠ ','
  match decimalNat (value.takeWhile Char.isDigit), centsOf (value.dropWhile Char.isDigit) with
  | some yuan, some cents =>
    let amount : Int := yuan * 100 + cents
    if amount > 0 then some amount else none
  | _, _ => none

/-! ### The text of an amount -/

/-- Without its commas a grouped number is its digits. -/
theorem filter_groupThousands {keep : Char → Bool} (dropsComma : keep ',' = false)
    (digits : List Char) : (groupThousands digits).filter keep = digits.filter keep := by
  have noComma : ¬keep ',' = true := by
    rw [dropsComma]
    decide
  induction digits with
  | nil => rfl
  | cons digit digits inductionHypothesis =>
    rw [groupThousands]
    split
    · rw [List.filter_cons, List.filter_cons_of_neg noComma, inductionHypothesis, ← List.filter_cons]
    · rw [List.filter_cons, inductionHypothesis, ← List.filter_cons]

/-- The digits of an amount and its cents. -/
def amountDigits (amount : Nat) : List Char :=
  Nat.toDigits 10 (amount / 100) ++ '.' :: padded 2 (amount % 100)

theorem mem_amountDigits {amount : Nat} {character : Char} (member : character ∈ amountDigits amount) :
    character.isDigit = true ∨ character = '.' := by
  rcases List.mem_append.mp member with digit | cents
  · exact Or.inl (Nat.isDigit_of_mem_toDigits (by decide) (by decide) digit)
  · rcases List.mem_cons.mp cents with rfl | digit
    · exact Or.inr rfl
    · exact Or.inl (isDigit_of_mem_padded digit)

/-- An amount on display, of which only the digits, the point and the sign are kept. -/
theorem filter_formatDisplayMinor {keep : Char → Bool} (dropsComma : keep ',' = false)
    (keepsDigits : ∀ character : Char, character.isDigit = true ∨ character = '.' →
      keep character = true) (amount : Int) (symbol : Bool) :
    (formatDisplayMinor amount symbol).filter keep =
      (if amount < 0 then ['-'] else []).filter keep ++
        ((if symbol then ['¥'] else []).filter keep ++ amountDigits amount.natAbs) := by
  have all : (amountDigits amount.natAbs).filter keep = amountDigits amount.natAbs :=
    List.filter_eq_self.mpr fun character member => keepsDigits character (mem_amountDigits member)
  have grouped : (groupThousands (Nat.toDigits 10 (amount.natAbs / 100)) ++
      '.' :: padded 2 (amount.natAbs % 100)).filter keep = amountDigits amount.natAbs := by
    rw [List.filter_append, filter_groupThousands dropsComma, ← List.filter_append]
    exact all
  rw [formatDisplayMinor, List.filter_append, List.filter_append, grouped, List.append_assoc]

/-- An amount on display has no blanks. -/
theorem strip_formatDisplayMinor (amount : Int) (symbol : Bool) :
    strip isBlank (formatDisplayMinor amount symbol) = formatDisplayMinor amount symbol := by
  refine strip_of_sharp fun character member => ?_
  rcases List.mem_append.mp member with front | unsigned
  · rcases List.mem_append.mp front with sign | currency
    · split at sign
      · rw [List.mem_singleton.mp sign]
        decide
      · cases sign
    · split at currency
      · rw [List.mem_singleton.mp currency]
        decide
      · cases currency
  · rcases List.mem_append.mp unsigned with yuan | cents
    · rcases mem_groupThousands yuan with digit | rfl
      · have isDigit := Nat.isDigit_of_mem_toDigits (by decide) (by decide) digit
        exact (isFigure_spec (isFigure_of_isDigit isDigit)).1
      · decide
    · rcases List.mem_cons.mp cents with rfl | digit
      · decide
      · exact (isFigure_spec (padded_figures _ digit)).1

theorem centsOf_amount (amount : Nat) :
    centsOf ('.' :: padded 2 (amount % 100)) = some (amount % 100) := by
  have length := length_padded (show 0 < 2 by decide) (show amount % 100 < 10 ^ 2 by omega)
  rw [centsOf, length, if_pos (Or.inr rfl), List.replicate_zero, List.append_nil, decimalNat_padded]

theorem head_cents {cents : List Char} {first : Char} (isFirst : first ∈ ('.' :: cents).head?) :
    first.isDigit = false := by
  obtain rfl := Option.some.inj isFirst
  decide

/-! ### Reading it back -/

/-- The reader of bills reads every amount but zero. -/
theorem parseImportAmountMinor_formatDisplayMinor (amount : Int) (symbol : Bool) :
    parseImportAmountMinor (String.ofList (formatDisplayMinor amount symbol)) =
      if amount = 0 then none else some amount := by
  have keepsDigits : ∀ character : Char, character.isDigit = true ∨ character = '.' →
      isKept character = true := by
    rintro character (digit | rfl)
    · have figure := isFigure_spec (isFigure_of_isDigit digit)
      refine decide_eq_true ⟨(figure_ordinary (isFigure_of_isDigit digit)).2, figure.2.2.2.2.2.2,
        figure.2.2.2.2.1, figure.2.2.2.2.2.1, ?_⟩
      rintro rfl
      exact absurd digit (by decide)
    · decide
  have currency : (if symbol then ['¥'] else []).filter isKept = [] := by
    cases symbol <;> decide
  have sign : (if amount < 0 then ['-'] else []).filter isKept =
      if decide (amount < 0) then ['-'] else [] := by
    by_cases negative : amount < 0
    · rw [if_pos negative, if_pos (decide_eq_true negative)]
      decide
    · rw [if_neg negative, if_neg (by simpa using negative)]
      rfl
  have kept : (strip isBlank (formatDisplayMinor amount symbol)).filter isKept =
      (if decide (amount < 0) then ['-'] else []) ++ (Nat.toDigits 10 (amount.natAbs / 100) ++
        '.' :: padded 2 (amount.natAbs % 100)) := by
    rw [strip_formatDisplayMinor, filter_formatDisplayMinor (by decide) keepsDigits, currency, sign,
      List.nil_append]
    rfl
  rw [parseImportAmountMinor_kept kept (decimalNat_toDigits _) (centsOf_amount _)
    fun first isFirst => head_cents isFirst, show amount.natAbs / 100 * 100 + amount.natAbs % 100 =
      amount.natAbs by omega]
  by_cases zero : amount = 0
  · rw [if_pos zero, if_pos (Int.natAbs_eq_zero.mpr zero)]
  · rw [if_neg zero, if_neg fun none => zero (Int.natAbs_eq_zero.mp none)]
    congr 1
    simp only [decide_eq_true_eq]
    split <;> omega

/-- The reader of amounts that the user enters reads every positive amount. -/
theorem parsePositiveAmountMinor_formatDisplayMinor {amount : Int} (positive : 0 < amount) :
    parsePositiveAmountMinor (String.ofList (formatDisplayMinor amount false)) = some amount := by
  have keepsDigits : ∀ character : Char, character.isDigit = true ∨ character = '.' →
      (decide (character ≠ ',')) = true := by
    rintro character (digit | rfl)
    · exact decide_eq_true (figure_ordinary (isFigure_of_isDigit digit)).2
    · decide
  have kept : (strip isBlank (formatDisplayMinor amount false)).filter
      (fun character => decide (character ≠ ',')) = amountDigits amount.natAbs := by
    rw [strip_formatDisplayMinor, filter_formatDisplayMinor (by decide) keepsDigits,
      if_neg (by omega), if_neg Bool.false_ne_true]
    rfl
  obtain ⟨taken, dropped⟩ := @takeWhile_digits (Nat.toDigits 10 (amount.natAbs / 100))
    ('.' :: padded 2 (amount.natAbs % 100))
    (fun digit member => Nat.isDigit_of_mem_toDigits (by decide) (by decide) member)
    fun first isFirst => head_cents isFirst
  have value : ((amount.natAbs / 100 : Nat) : Int) * 100 + (amount.natAbs % 100 : Nat) = amount := by
    omega
  unfold parsePositiveAmountMinor
  rw [dartTrim_ofList, String.toList_ofList, kept]
  simp only [amountDigits, taken, dropped, decimalNat_toDigits, centsOf_amount, value,
    gt_iff_lt, if_pos positive]

/-- Amounts on display are read back, and no two amounts look the same. -/
theorem displayed_amounts_read_back :
    (∀ (amount : Int) (symbol : Bool), amount ≠ 0 →
      parseImportAmountMinor (String.ofList (formatDisplayMinor amount symbol)) = some amount) ∧
    (∀ amount : Int, 0 < amount →
      parsePositiveAmountMinor (String.ofList (formatDisplayMinor amount false)) = some amount) ∧
    ∀ symbol : Bool, Function.Injective fun amount : Int => formatDisplayMinor amount symbol := by
  refine ⟨?_, fun amount => parsePositiveAmountMinor_formatDisplayMinor, ?_⟩
  · intro amount symbol notZero
    rw [parseImportAmountMinor_formatDisplayMinor, if_neg notZero]
  · intro symbol first second same
    have read : (if first = 0 then none else some first) =
        if second = 0 then none else some second := by
      rw [← parseImportAmountMinor_formatDisplayMinor first symbol,
        ← parseImportAmountMinor_formatDisplayMinor second symbol]
      exact congrArg (fun text => parseImportAmountMinor (String.ofList text)) same
    by_cases firstZero : first = 0
    · rw [if_pos firstZero] at read
      by_contra apart
      rw [if_neg fun secondZero => apart (firstZero.trans secondZero.symm)] at read
      cases read
    · rw [if_neg firstZero] at read
      by_cases secondZero : second = 0
      · rw [if_pos secondZero] at read
        cases read
      · rw [if_neg secondZero] at read
        exact Option.some.inj read

theorem displayed_amounts_read_back_million :
    parseImportAmountMinor (String.ofList (formatDisplayMinor (-123456789) true)) =
        some (-123456789) ∧
      parsePositiveAmountMinor (String.ofList (formatDisplayMinor 123456789 false)) =
        some 123456789 ∧
      formatDisplayMinor (-123456789) true ≠ formatDisplayMinor 123456789 true := by
  obtain ⟨imported, positive, injective⟩ := displayed_amounts_read_back
  exact ⟨imported (-123456789) true (by decide), positive 123456789 (by decide),
    fun same => absurd (injective true same) (by decide)⟩

end Ledgerly.Csv
