/-
This file settles which months the server can report.

`parse_month` takes any year of 32 bits. The dates of the `time` crate end with the year 9999,
and its RFC 3339 texts begin with the year 0, so that `month_range` has bounds with a text from
the January of year 0 to the November of 9999. `subtract_months` counts in 32 bits and ends in a
date of the crate, or panics.
-/

import Mathlib.Algebra.Order.Group.Nat
import Mathlib.Order.Bounds.Basic
import Ledgerly.Library.CalendarMonths
import Ledgerly.ServerReports

namespace Ledgerly

open CivilDate

/-! ### The months of the server -/

/-- The conversion to `i32`, which wraps around. -/
def asI32 (value : Int) : Int := value.bmod (2 ^ 32)

/-- `str::parse::<i32>`, with the kind of the error dropped. -/
def parseI32 (text : String) : Option Int :=
  (decimalInt text).filter fun value => -2 ^ 31 ≤ value ∧ value < 2 ^ 31

/-- `str::parse::<u8>`, with the kind of the error dropped. -/
def parseU8 (text : String) : Option Nat :=
  (match text.toList with
    | '+' :: digits => decimalNat digits
    | digits => decimalNat digits).filter fun value => value < 2 ^ 8

/-- The error for a month that cannot be read. -/
def invalidMonth (message : String) : ApiError := ⟨400, "INVALID_MONTH", message⟩

/-- The date of an instant in UTC, given in nanoseconds since the Unix epoch. -/
def dateAt (instant : Int) : CivilDate := ofDays (instant / 86400000000000)

/-- `parse_month`: a year and a month from 1 to 12. -/
def parseMonth (now : Int) (month : Option String) : Except ApiError (Int × Int) :=
  let text := month.getD "current"
  if text = "current" then .ok ((dateAt now).year, (dateAt now).month)
  else
    match text.toList.splitOn '-' with
    | [year, month] =>
      match parseI32 (String.ofList year), parseU8 (String.ofList month) with
      | none, _ => .error (invalidMonth "invalid year")
      | some _, none => .error (invalidMonth "invalid month")
      | some year, some month =>
        if 1 ≤ month ∧ month ≤ 12 then .ok (year, month)
        else .error (invalidMonth "month must be 01-12")
    | _ => .error (invalidMonth "month must be in YYYY-MM format")

/-- `from_calendar_date(year, month, 1).unwrap()` at midnight in UTC: a year that the crate has no
dates of panics. -/
def firstMidnight (year month : Int) : Option Int :=
  if -9999 ≤ year ∧ year ≤ 9999 then some (monthStart year month) else none

/-- The year and the month that `month_range` takes for the next one. -/
def nextMonth (year month : Int) : Int × Int :=
  if month = 12 then (asI32 (year + 1), 1) else (year, month + 1)

/-- `month_range` with its panics. -/
def monthRange? (year month : Int) : Option (Int × Int) :=
  let next := nextMonth year month
  match firstMidnight year month, firstMidnight next.1 next.2 with
  | some start, some stop => some (start, stop)
  | _, _ => none

/-- The instants that `format(&Rfc3339)` has a text for. -/
def inRfc3339 (instant : Int) : Option Timestamp :=
  if inRange : -62167219200000000000 ≤ instant ∧ instant ≤ 253402300799999999999 then
    some ⟨instant, inRange⟩
  else none

/-- The bounds of a month as they are formatted, if nothing panics. -/
def formattedRange (year month : Int) : Option (Timestamp × Timestamp) :=
  (monthRange? year month).bind fun range =>
    (inRfc3339 range.1).bind fun start => (inRfc3339 range.2).map fun stop => (start, stop)

/-- `budget` as far as its bounds, which are missing where it panics. -/
def budgetBounds (now : Int) (month : Option String) :
    Except ApiError (Option (Timestamp × Timestamp)) :=
  match parseMonth now month with
  | .error error => .error error
  | .ok (year, month) => .ok (formattedRange year month)

/-- One round of the loop of `subtract_months`. -/
def previousMonth (date : Int × Int) : Int × Int :=
  if date.2 = 1 then (asI32 (date.1 - 1), 12) else (date.1, date.2 - 1)

/-- `subtract_months` with its panic. -/
def subtractMonths? (date : Int) (count : Nat) : Option Int :=
  let earlier := previousMonth^[count] ((dateAt date).year, (dateAt date).month)
  firstMidnight earlier.1 earlier.2

/-! ### First instants -/

/-- The number of the month of an instant. -/
def monthAt (instant : Int) : Int := monthOf (instant / 86400000000000)

/-- The first instant of a month. -/
def IsFirstOf (number instant : Int) : Prop := IsLeast {time | monthAt time = number} instant

/-- Midnight of the first of the month is its first instant. -/
theorem isFirstOf_iff {number instant : Int} :
    IsFirstOf number instant ↔ instant = firstOfMonth number * 86400000000000 := by
  have midnight : IsFirstOf number (firstOfMonth number * 86400000000000) := by
    constructor
    · show monthOf (firstOfMonth number * 86400000000000 / 86400000000000) = number
      rw [Int.mul_ediv_cancel _ (by decide), monthOf_firstOfMonth]
    · rintro time rfl
      have lower := (firstOfMonth_monthOf (time / 86400000000000)).1
      show firstOfMonth (monthOf (time / 86400000000000)) * 86400000000000 ≤ time
      omega
  constructor
  · exact fun first => first.unique midnight
  · rintro rfl
    exact midnight

theorem monthStart_eq {year month : Int} (lower : 1 ≤ month) (upper : month ≤ 12) :
    monthStart year month = firstOfMonth (monthNumber year month) * 86400000000000 := by
  rw [monthStart, firstOfMonth_monthNumber lower upper]

theorem dateAt_month (instant : Int) : 1 ≤ (dateAt instant).month ∧ (dateAt instant).month ≤ 12 := by
  obtain ⟨lower, upper, -⟩ := ofDays_ranges (instant / 86400000000000)
  exact ⟨lower, upper⟩

/-- What is accepted is a month of a year. -/
theorem parseMonth_ok {now : Int} {text : Option String} {year month : Int}
    (accepted : parseMonth now text = .ok (year, month)) : 1 ≤ month ∧ month ≤ 12 := by
  unfold parseMonth at accepted
  simp only at accepted
  split at accepted
  · cases accepted
    exact dateAt_month now
  · split at accepted
    · split at accepted
      · cases accepted
      · cases accepted
      · split at accepted
        · rename_i range
          cases accepted
          exact ⟨by omega, by omega⟩
        · cases accepted
    · cases accepted

/-! ### The range of a month -/

theorem asI32_of_fits {value : Int} (lower : -2 ^ 31 ≤ value) (upper : value < 2 ^ 31) :
    asI32 value = value :=
  Int.bmod_eq_of_le (by omega) (by omega)

theorem firstMidnight_eq_some {year month instant : Int} :
    firstMidnight year month = some instant ↔
      -9999 ≤ year ∧ year ≤ 9999 ∧ instant = monthStart year month := by
  unfold firstMidnight
  split
  · rename_i inRange
    simp [inRange, eq_comm]
  · rename_i outside
    simp only [reduceCtorEq, false_iff]
    rintro ⟨lower, upper, -⟩
    exact outside ⟨lower, upper⟩

/-- The next month, while the year is one of the crate. -/
theorem nextMonth_eq {year month : Int} (lower : 1 ≤ month) (upper : month ≤ 12)
    (yearLower : -9999 ≤ year) (yearUpper : year ≤ 9999) :
    monthNumber (nextMonth year month).1 (nextMonth year month).2 = monthNumber year month + 1 ∧
      1 ≤ (nextMonth year month).2 ∧ (nextMonth year month).2 ≤ 12 ∧
      year ≤ (nextMonth year month).1 := by
  unfold nextMonth
  simp only [monthNumber]
  by_cases december : month = 12
  · rw [if_pos december, asI32_of_fits (by omega) (by omega)]
    dsimp only
    omega
  · rw [if_neg december]
    dsimp only
    omega

/-- `month_range` returns from the January of year -9999 to the November of 9999, with the first
of the month and the first of the next one. -/
theorem monthRange?_eq_some {year month start stop : Int} (lower : 1 ≤ month) (upper : month ≤ 12) :
    monthRange? year month = some (start, stop) ↔
      -9999 ≤ year ∧ monthNumber year month < monthNumber 9999 12 ∧
        start = firstOfMonth (monthNumber year month) * 86400000000000 ∧
        stop = firstOfMonth (monthNumber year month + 1) * 86400000000000 := by
  have read : monthRange? year month = some (start, stop) ↔
      firstMidnight year month = some start ∧
        firstMidnight (nextMonth year month).1 (nextMonth year month).2 = some stop := by
    unfold monthRange?
    simp only
    split
    · rename_i first second
      rw [first, second, Option.some.injEq, Option.some.injEq, Option.some.injEq, Prod.mk.injEq]
    · rename_i missing
      simp only [reduceCtorEq, false_iff]
      rintro ⟨first, second⟩
      exact missing _ _ first second
  rw [read, firstMidnight_eq_some, firstMidnight_eq_some]
  constructor
  · rintro ⟨⟨yearLower, yearUpper, rfl⟩, nextLower, nextUpper, rfl⟩
    obtain ⟨number, nextMonthLower, nextMonthUpper, -⟩ :=
      nextMonth_eq lower upper yearLower yearUpper
    refine ⟨yearLower, ?_, monthStart_eq lower upper, ?_⟩
    · simp only [monthNumber] at number ⊢
      omega
    · rw [monthStart_eq nextMonthLower nextMonthUpper, number]
  · rintro ⟨yearLower, before, rfl, rfl⟩
    have yearUpper : year ≤ 9999 := by
      simp only [monthNumber] at before
      omega
    obtain ⟨number, nextMonthLower, nextMonthUpper, later⟩ :=
      nextMonth_eq lower upper yearLower yearUpper
    refine ⟨⟨yearLower, yearUpper, (monthStart_eq lower upper).symm⟩, yearLower.trans later, ?_, ?_⟩
    · simp only [monthNumber] at number before
      omega
    · rw [monthStart_eq nextMonthLower nextMonthUpper, number]

theorem firstOfMonth_zero : firstOfMonth 0 = -719528 := by decide

theorem firstOfMonth_last : firstOfMonth 119999 = 2932866 := by decide

theorem inRfc3339_eq_some {instant : Int} {written : Timestamp} :
    inRfc3339 instant = some written ↔ written.val = instant := by
  unfold inRfc3339
  split
  · exact ⟨fun same => (congrArg Subtype.val (Option.some.inj same)).symm,
      fun same => congrArg some (Subtype.ext same.symm)⟩
  · rename_i outside
    refine ⟨fun missing => absurd missing (by simp), ?_⟩
    rintro rfl
    exact absurd written.2 outside

/-- The first midnights that RFC 3339 can write. -/
theorem exists_first_iff {number : Int} (before : number < 120000) :
    (∃ written : Timestamp, written.val = firstOfMonth number * 86400000000000) ↔ 0 ≤ number := by
  constructor
  · rintro ⟨written, same⟩
    by_contra negative
    have early := firstOfMonth_lt (not_le.mp negative)
    have lower := written.2.1
    rw [firstOfMonth_zero] at early
    rw [same] at lower
    omega
  · intro nonneg
    have after : -719528 ≤ firstOfMonth number := by
      rcases nonneg.eq_or_lt with rfl | later
      · exact firstOfMonth_zero.ge
      · have apart := firstOfMonth_lt later
        rw [firstOfMonth_zero] at apart
        omega
    have late : firstOfMonth number ≤ 2932866 := by
      rcases (show number ≤ 119999 by omega).eq_or_lt with rfl | earlier
      · exact firstOfMonth_last.le
      · have apart := firstOfMonth_lt earlier
        rw [firstOfMonth_last] at apart
        omega
    exact ⟨⟨firstOfMonth number * 86400000000000, by omega, by omega⟩, rfl⟩

theorem formattedRange_eq_some {year month : Int} {start stop : Timestamp} :
    formattedRange year month = some (start, stop) ↔
      monthRange? year month = some (start.val, stop.val) := by
  constructor
  · intro formatted
    obtain ⟨range, returned, rest⟩ := Option.bind_eq_some_iff.mp formatted
    obtain ⟨first, firstWritten, rest⟩ := Option.bind_eq_some_iff.mp rest
    obtain ⟨second, secondWritten, same⟩ := Option.map_eq_some_iff.mp rest
    cases same
    rw [returned, inRfc3339_eq_some.mp firstWritten, inRfc3339_eq_some.mp secondWritten]
  · intro returned
    rw [formattedRange, returned, Option.bind_some, inRfc3339_eq_some.mpr rfl, Option.bind_some,
      inRfc3339_eq_some.mpr rfl, Option.map_some]

/-- A month is reported from its first instant to that of the next one, and both have a text. -/
def MonthReported (year month : Int) : Prop :=
  ∃ start stop, formattedRange year month = some (start, stop) ∧
    IsFirstOf (monthNumber year month) start.val ∧ IsFirstOf (monthNumber year month + 1) stop.val

theorem monthReported_iff {year month : Int} (lower : 1 ≤ month) (upper : month ≤ 12) :
    MonthReported year month ↔
      0 ≤ year ∧ monthNumber year month < monthNumber 9999 12 := by
  have last : monthNumber 9999 12 = 119999 := by decide
  have sign : 0 ≤ monthNumber year month ↔ 0 ≤ year := by
    simp only [monthNumber]
    omega
  constructor
  · rintro ⟨start, stop, formatted, -, -⟩
    obtain ⟨-, before, startAt, -⟩ :=
      (monthRange?_eq_some lower upper).mp (formattedRange_eq_some.mp formatted)
    exact ⟨sign.mp ((exists_first_iff (by omega)).mp ⟨start, startAt⟩), before⟩
  · rintro ⟨nonneg, before⟩
    have first := sign.mpr nonneg
    obtain ⟨start, startAt⟩ := (exists_first_iff (by omega)).mpr first
    obtain ⟨stop, stopAt⟩ : ∃ written : Timestamp,
        written.val = firstOfMonth (monthNumber year month + 1) * 86400000000000 :=
      (exists_first_iff (by omega)).mpr (by omega)
    refine ⟨start, stop, formattedRange_eq_some.mpr ?_, isFirstOf_iff.mpr startAt,
      isFirstOf_iff.mpr stopAt⟩
    exact (monthRange?_eq_some lower upper).mpr ⟨by omega, before, startAt, stopAt⟩

/-! ### Earlier months -/

section Earlier

variable {date : Int × Int}

/-- The month stays one of a year. -/
theorem previousMonth_month (lower : 1 ≤ date.2) (upper : date.2 ≤ 12) :
    1 ≤ (previousMonth date).2 ∧ (previousMonth date).2 ≤ 12 := by
  unfold previousMonth
  split
  · exact ⟨by omega, by omega⟩
  · exact ⟨by omega, by omega⟩

theorem iterate_previousMonth_month (lower : 1 ≤ date.2) (upper : date.2 ≤ 12) (count : Nat) :
    1 ≤ (previousMonth^[count] date).2 ∧ (previousMonth^[count] date).2 ≤ 12 := by
  induction count with
  | zero => exact ⟨lower, upper⟩
  | succ count inductionHypothesis =>
    rw [Function.iterate_succ_apply']
    exact previousMonth_month inductionHypothesis.1 inductionHypothesis.2

/-- As long as the year fits in 32 bits, each round goes back by one month. -/
theorem iterate_previousMonth (lower : 1 ≤ date.2) (upper : date.2 ≤ 12) (year : date.1 ≤ 9999)
    {count : Nat} (fits : -2 ^ 31 * 12 ≤ monthNumber date.1 date.2 - count) :
    monthNumber (previousMonth^[count] date).1 (previousMonth^[count] date).2 =
      monthNumber date.1 date.2 - count := by
  induction count with
  | zero => simp
  | succ count inductionHypothesis =>
    have before := inductionHypothesis (by omega)
    obtain ⟨monthLower, monthUpper⟩ := iterate_previousMonth_month lower upper count
    rw [Function.iterate_succ_apply', previousMonth]
    generalize previousMonth^[count] date = reached at *
    simp only [monthNumber] at before fits ⊢
    by_cases january : reached.2 = 1
    · rw [if_pos january, asI32_of_fits (by omega) (by omega)]
      dsimp only
      omega
    · rw [if_neg january]
      dsimp only
      omega

end Earlier

/-- `subtract_months` goes back to the January of year -9999. -/
theorem subtractMonths_iff {date : Int} (yearLower : -9999 ≤ (dateAt date).year)
    (yearUpper : (dateAt date).year ≤ 9999) (count : Nat) :
    (∃ instant, subtractMonths? date count = some instant ∧
        IsFirstOf (monthAt date - count) instant) ↔
      monthNumber (-9999) 1 ≤ monthAt date - count := by
  obtain ⟨lower, upper⟩ := dateAt_month date
  obtain ⟨earlierLower, earlierUpper⟩ :=
    @iterate_previousMonth_month ((dateAt date).year, (dateAt date).month) lower upper count
  have number : monthAt date = monthNumber (dateAt date).year (dateAt date).month := rfl
  constructor
  · rintro ⟨instant, returned, first⟩
    obtain ⟨reachedLower, -, rfl⟩ := firstMidnight_eq_some.mp returned
    rw [monthStart_eq earlierLower earlierUpper, isFirstOf_iff] at first
    have same := firstOfMonth_inj (mul_right_cancel₀ (by decide) first)
    rw [← same]
    simp only [monthNumber]
    omega
  · intro reaches
    have fits : -2 ^ 31 * 12 ≤ monthNumber (dateAt date).year (dateAt date).month - count := by
      rw [number] at reaches
      simp only [monthNumber] at reaches ⊢
      omega
    have exact_ := @iterate_previousMonth ((dateAt date).year, (dateAt date).month) lower upper
      yearUpper count fits
    refine ⟨_, firstMidnight_eq_some.mpr ⟨?_, ?_, rfl⟩, ?_⟩
    · rw [number, ← exact_] at reaches
      simp only [monthNumber] at reaches
      omega
    · simp only [monthNumber] at exact_
      omega
    · rw [monthStart_eq earlierLower earlierUpper, exact_, isFirstOf_iff, number]

/-- A month that `parse_month` accepts is reported exactly if it lies between the January of year
0 and the November of 9999. For every date of the crate, `subtract_months` is the first instant
of the earlier month exactly if that month is not before the January of year -9999. -/
theorem months_reported_iff {now : Int} {text : Option String} {year month : Int}
    (accepted : parseMonth now text = .ok (year, month)) {date : Int}
    (yearLower : -9999 ≤ (dateAt date).year) (yearUpper : (dateAt date).year ≤ 9999)
    (count : Nat) :
    (MonthReported year month ↔ 0 ≤ year ∧ monthNumber year month < monthNumber 9999 12) ∧
    ((∃ instant, subtractMonths? date count = some instant ∧
        IsFirstOf (monthAt date - count) instant) ↔
      monthNumber (-9999) 1 ≤ monthAt date - count) := by
  obtain ⟨lower, upper⟩ := parseMonth_ok accepted
  exact ⟨monthReported_iff lower upper, subtractMonths_iff yearLower yearUpper count⟩

theorem epoch_month_reported :
    MonthReported 2026 6 ∧
      ∃ instant, subtractMonths? 0 13 = some instant ∧ IsFirstOf (monthAt 0 - 13) instant := by
  have accepted : parseMonth 0 (some "2026-06") = .ok (2026, 6) := by decide
  obtain ⟨reported, earlier⟩ := @months_reported_iff _ _ _ _ accepted 0 (by decide) (by decide) 13
  exact ⟨reported.mpr (by decide), earlier.mpr (by decide)⟩

/-- The last month of 9999 and all months after it are accepted, and the request panics. So does
`subtract_months` once it leaves the years of the crate. -/
theorem december_9999_panics :
    parseMonth 0 (some "9999-12") = .ok (9999, 12) ∧ monthRange? 9999 12 = none ∧
      budgetBounds 0 (some "9999-12") = .ok none ∧
      budgetBounds 0 (some "2147483647-01") = .ok none ∧
      ¬(∀ (now : Int) (text : Option String) (year month : Int),
        parseMonth now text = .ok (year, month) → MonthReported year month) := by
  have accepted : parseMonth 0 (some "9999-12") = .ok (9999, 12) := by decide
  have panics : monthRange? 9999 12 = none := by decide
  refine ⟨accepted, panics, by decide, by decide, fun all => ?_⟩
  obtain ⟨start, stop, formatted, -⟩ := all 0 (some "9999-12") 9999 12 accepted
  rw [formattedRange_eq_some, panics] at formatted
  cases formatted

end Ledgerly
