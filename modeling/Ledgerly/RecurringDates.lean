/-
This file settles the dates of a monthly rule: its first date, and the dates that follow one another.

A date of a rule is the clamped day in a month, and the month after it is the next one whatever that
day was, so a short month leaves no trace in the later ones. The dates are kept as texts. The text of
a year before 0 begins with the sign that also parts the fields, and is not read back. Days are
counted without end here; the range that `DateTime` has is left out.
-/

import Ledgerly.ClientDate
import Ledgerly.RecurringScheduler
import Ledgerly.Library.CalendarMonths

namespace Ledgerly.RecurringDate

open CivilDate

/-! ### Texts of dates -/

/-- `RecurringDate.format`. -/
def format (date : Int) : String :=
  let civil := ofDays date
  decimalText civil.year ++ "-" ++ String.ofList (padded 2 civil.month.toNat) ++ "-" ++
    String.ofList (padded 2 civil.day.toNat)

/-- `RecurringDate.parse`; of the texts `int.parse` accepts those with a sign and digits. Months and
days beyond their range run over into the next ones. -/
def parse (value : String) : Option Int :=
  match value.toList.splitOn '-' with
  | year :: month :: day :: _ => do
    let year ← decimalInt (String.ofList year)
    let month ← decimalInt (String.ofList month)
    let day ← decimalInt (String.ofList day)
    return firstOfMonth (monthNumber year month) + (day - 1)
  | _ => none

/-- `RecurringDate.advanceOneMonth`, on the text of a date. -/
def advanceText (current : String) (dayOfMonth : Int) : Option String :=
  (parse current).map fun date => format (advanceOneMonth date dayOfMonth)

/-- The text of a date, advanced so many times. -/
def advanceTimes (start : String) (dayOfMonth : Int) : Nat → Option String
  | 0 => some start
  | times + 1 => (advanceTimes start dayOfMonth times).bind fun current =>
    advanceText current dayOfMonth

/-- The date of `RecurringDate.nextMonthlyDate`. -/
def nextMonthlyDay (fromDate dayOfMonth : Int) : Int :=
  let date := ofDays fromDate
  let wanted := max 1 (min dayOfMonth 31)
  let thisMonthDay := clampDay date.year date.month wanted
  if date.day > thisMonthDay then
    date.intoNextMonth fun year month => clampDay year month wanted
  else toDays ⟨date.year, date.month, clampDay date.year date.month wanted⟩

/-- `RecurringDate.nextMonthlyDate`. -/
def nextMonthlyDate (fromDate dayOfMonth : Int) : String :=
  format (nextMonthlyDay fromDate dayOfMonth)

/-! ### The clamped day of a month -/

theorem clampDay_eq (year month dayOfMonth : Int) :
    clampDay year month dayOfMonth =
      min (max 1 (min dayOfMonth 31)) (CivilDate.daysInMonth year month) := by
  unfold clampDay
  dsimp only
  split <;> omega

/-- A day that is clamped already is clamped to the same day. -/
theorem clampDay_wanted (year month dayOfMonth : Int) :
    clampDay year month (max 1 (min dayOfMonth 31)) = clampDay year month dayOfMonth := by
  rw [clampDay_eq, clampDay_eq]
  omega

/-- The day of a rule in a month. -/
def dayIn (number dayOfMonth : Int) : Int :=
  firstOfMonth number + (clampDay (number / 12) (number % 12 + 1) dayOfMonth - 1)

theorem dayIn_bounds (number dayOfMonth : Int) :
    firstOfMonth number ≤ dayIn number dayOfMonth ∧
      dayIn number dayOfMonth < firstOfMonth (number + 1) := by
  have positive := one_le_clampDay (number / 12) (number % 12 + 1) dayOfMonth
  have length := daysInMonth_eq number
  have clamped := clampDay_eq (number / 12) (number % 12 + 1) dayOfMonth
  rw [dayIn]
  omega

@[simp]
theorem monthOf_dayIn (number dayOfMonth : Int) : monthOf (dayIn number dayOfMonth) = number :=
  monthOf_eq (dayIn_bounds number dayOfMonth).1 (dayIn_bounds number dayOfMonth).2

/-- The date of a rule falls on its day, clamped to the length of the month. -/
def OnDay (dayOfMonth date : Int) : Prop :=
  (ofDays date).day = min (max 1 (min dayOfMonth 31))
    (CivilDate.daysInMonth (ofDays date).year (ofDays date).month)

theorem onDay_iff {dayOfMonth date : Int} :
    OnDay dayOfMonth date ↔ date = dayIn (monthOf date) dayOfMonth := by
  obtain ⟨year, month⟩ := ofDays_month date
  rw [OnDay, ofDays_day, year, month, ← clampDay_eq, dayIn]
  omega

theorem onDay_dayIn (number dayOfMonth : Int) : OnDay dayOfMonth (dayIn number dayOfMonth) := by
  rw [onDay_iff, monthOf_dayIn]

/-- The next month from a date on, on a day of it. -/
theorem intoNextMonth_eq (date : Int) (dayIn : Int → Int → Int) :
    (ofDays date).intoNextMonth dayIn = firstOfMonth (monthOf date + 1) +
      (dayIn ((monthOf date + 1) / 12) ((monthOf date + 1) % 12 + 1) - 1) := by
  obtain ⟨lower, upper, -, -⟩ := ofDays_ranges date
  obtain ⟨year, month⟩ := ofDays_month date
  simp only [intoNextMonth]
  by_cases december : (ofDays date).month + 1 > 12
  · have nextYear : (ofDays date).year + 1 = (monthOf date + 1) / 12 := by omega
    have january : (monthOf date + 1) % 12 = 0 := by omega
    rw [if_pos december, if_pos december, toDays_day, nextYear, firstOfMonth, january]
    rfl
  · have sameYear : (ofDays date).year = (monthOf date + 1) / 12 := by omega
    have nextMonth : (ofDays date).month + 1 = (monthOf date + 1) % 12 + 1 := by omega
    rw [if_neg december, if_neg december, toDays_day, sameYear, nextMonth]
    rfl

/-- A rule moves on to its day in the next month. -/
theorem advanceOneMonth_eq (current dayOfMonth : Int) :
    advanceOneMonth current dayOfMonth = dayIn (monthOf current + 1) dayOfMonth :=
  intoNextMonth_eq current fun year month => clampDay year month dayOfMonth

theorem nextMonthlyDay_eq (fromDate dayOfMonth : Int) :
    nextMonthlyDay fromDate dayOfMonth =
      if fromDate > dayIn (monthOf fromDate) dayOfMonth then
        dayIn (monthOf fromDate + 1) dayOfMonth
      else dayIn (monthOf fromDate) dayOfMonth := by
  obtain ⟨year, month⟩ := ofDays_month fromDate
  have day := ofDays_day fromDate
  have later : (ofDays fromDate).day > clampDay (ofDays fromDate).year (ofDays fromDate).month
      (max 1 (min dayOfMonth 31)) ↔ fromDate > dayIn (monthOf fromDate) dayOfMonth := by
    rw [clampDay_wanted, day, year, month, dayIn]
    omega
  unfold nextMonthlyDay
  dsimp only
  simp only [later]
  congr 1
  · rw [intoNextMonth_eq, clampDay_wanted]
    rfl
  · rw [toDays_day, clampDay_wanted, year, month]
    rfl

/-! ### Dates as texts -/

theorem decimalInt_padded (width value : Nat) :
    decimalInt (String.ofList (padded width value)) = some (value : Int) := by
  have read := decimalNat_padded width value
  cases digits : padded width value with
  | nil =>
    rw [digits] at read
    exact absurd read (by simp [decimalNat])
  | cons digit rest =>
    have isDigit : digit.isDigit = true :=
      isDigit_of_mem_padded (show digit ∈ padded width value by rw [digits]; exact List.mem_cons_self)
    rw [decimalInt_of_isDigit _ digit rest (String.toList_ofList) isDigit, ← digits, read]
    rfl

/-- A text of digits holds no dash. -/
theorem dash_not_mem_padded (width value : Nat) : '-' ∉ padded width value := fun member =>
  absurd (isDigit_of_mem_padded member) (by decide)

/-- The text of a date in a year from 0 on is read back. -/
theorem parse_format {date : Int} (common : 0 ≤ (ofDays date).year) :
    parse (format date) = some date := by
  obtain ⟨monthLower, -, dayLower, -⟩ := ofDays_ranges date
  have noSign : '-' ∉ (decimalText (ofDays date).year).toList := by
    rw [← Int.toNat_of_nonneg common]
    show '-' ∉ (Nat.repr _).toList
    rw [Nat.toList_repr]
    exact fun member =>
      absurd (Nat.isDigit_of_mem_toDigits (by decide) (by decide) member) (by decide)
  have fields : (format date).toList.splitOn '-' =
      [(decimalText (ofDays date).year).toList, padded 2 (ofDays date).month.toNat,
        padded 2 (ofDays date).day.toNat] := by
    have joined : (format date).toList = ['-'].intercalate
        [(decimalText (ofDays date).year).toList, padded 2 (ofDays date).month.toNat,
          padded 2 (ofDays date).day.toNat] := by
      simp [format, List.intercalate_cons_cons]
    rw [joined, List.splitOn_intercalate]
    · rintro field member
      simp only [List.mem_cons, List.not_mem_nil, or_false] at member
      rcases member with rfl | rfl | rfl
      · exact noSign
      · exact dash_not_mem_padded _ _
      · exact dash_not_mem_padded _ _
    · exact List.cons_ne_nil _ _
  have month : ((ofDays date).month.toNat : Int) = (ofDays date).month :=
    Int.toNat_of_nonneg (by omega)
  have day : ((ofDays date).day.toNat : Int) = (ofDays date).day := Int.toNat_of_nonneg (by omega)
  rw [parse, fields]
  simp only [String.ofList_toList, decimalInt_decimalText, decimalInt_padded, month, day,
    Option.bind_eq_bind, Option.bind_some, Option.pure_def, Option.some.injEq]
  have first : firstOfMonth (monthNumber (ofDays date).year (ofDays date).month) =
      firstOfMonth (monthOf date) := rfl
  rw [first, ofDays_day]
  omega

/-- A rule moves on so many months, to its day in the month it comes to. -/
theorem advanceTimes_succ {start : Int} (common : 0 ≤ (ofDays start).year) (dayOfMonth : Int)
    (times : Nat) :
    advanceTimes (format start) dayOfMonth (times + 1) =
      some (format (dayIn (monthOf start + (times + 1)) dayOfMonth)) := by
  -- the year of a month is a twelfth of its number
  have later : ∀ date, 0 ≤ monthOf date → 0 ≤ (ofDays date).year := by
    intro date positive
    have year := (ofDays_month date).1
    omega
  have positive : 0 ≤ monthOf start := by
    have year := (ofDays_month start).1
    omega
  induction times with
  | zero =>
    show (some (format start)).bind _ = _
    rw [Option.bind_some, advanceText, parse_format common, Option.map_some, advanceOneMonth_eq]
    rfl
  | succ times inductionHypothesis =>
    have reached : 0 ≤ (ofDays (dayIn (monthOf start + (times + 1)) dayOfMonth)).year := by
      refine later _ ?_
      rw [monthOf_dayIn]
      omega
    rw [advanceTimes, inductionHypothesis, Option.bind_some, advanceText, parse_format reached,
      Option.map_some, advanceOneMonth_eq, monthOf_dayIn]
    push_cast
    rw [add_assoc]

/-! ### The first date -/

/-- The date is the earliest one from another on that falls on the day of the rule. -/
structure IsFirst (fromDate dayOfMonth date : Int) : Prop where
  onDay : OnDay dayOfMonth date
  notBefore : fromDate ≤ date
  least : ∀ other, fromDate ≤ other → OnDay dayOfMonth other → date ≤ other

theorem isFirst_nextMonthlyDay (fromDate dayOfMonth : Int) :
    IsFirst fromDate dayOfMonth (nextMonthlyDay fromDate dayOfMonth) := by
  obtain ⟨lower, upper⟩ := firstOfMonth_monthOf fromDate
  -- a later date is in the same month or in a later one
  have apart : ∀ other, fromDate ≤ other → OnDay dayOfMonth other →
      other = dayIn (monthOf fromDate) dayOfMonth ∨
        dayIn (monthOf fromDate + 1) dayOfMonth ≤ other := by
    intro other notBefore onDay
    rw [onDay_iff] at onDay
    rcases (monthOf_le notBefore).eq_or_lt with same | less
    · left
      rw [same]
      exact onDay
    · right
      rcases (show monthOf fromDate + 1 = monthOf other ∨ monthOf fromDate + 1 < monthOf other by
        omega) with next | far
      · rw [next]
        exact onDay.ge
      · have bounds := dayIn_bounds (monthOf fromDate + 1) dayOfMonth
        have itself := dayIn_bounds (monthOf other) dayOfMonth
        rcases (show monthOf fromDate + 1 + 1 = monthOf other ∨
          monthOf fromDate + 1 + 1 < monthOf other by omega) with adjacent | further
        · rw [adjacent] at bounds
          omega
        · have order := firstOfMonth_lt further
          omega
  have nextBounds := dayIn_bounds (monthOf fromDate + 1) dayOfMonth
  have thisBounds := dayIn_bounds (monthOf fromDate) dayOfMonth
  rw [nextMonthlyDay_eq]
  split
  · rename_i passed
    refine ⟨onDay_dayIn _ _, by omega, fun other notBefore onDay => ?_⟩
    rcases apart other notBefore onDay with same | later
    · omega
    · exact later
  · rename_i ahead
    refine ⟨onDay_dayIn _ _, by omega, fun other notBefore onDay => ?_⟩
    rcases apart other notBefore onDay with same | later
    · exact same.ge
    · omega

/-- A rule that is advanced at least once has the date of its day in the month so many months after
the start, and its first date is the earliest one that falls on its day. -/
theorem monthly_dates_stay (dayOfMonth : Int) :
    (∀ start, 0 ≤ (ofDays start).year → ∀ times : Nat, ∃ date,
      advanceTimes (format start) dayOfMonth (times + 1) = some (format date) ∧
        monthOf date = monthOf start + (times + 1) ∧ OnDay dayOfMonth date) ∧
    ∀ fromDate, ∃ date, nextMonthlyDate fromDate dayOfMonth = format date ∧
      IsFirst fromDate dayOfMonth date := by
  constructor
  · intro start common times
    exact ⟨_, advanceTimes_succ common dayOfMonth times, monthOf_dayIn _ _, onDay_dayIn _ _⟩
  · intro fromDate
    exact ⟨_, rfl, isFirst_nextMonthlyDay fromDate dayOfMonth⟩

/-- A rule for the 31st that starts on the last of January 2028: its dates in the next two months are
the 29th and again the 31st, and its first date from the 30th of January on is the 31st. -/
theorem leap_february :
    let start := toDays ⟨2028, 1, 31⟩
    advanceTimes (format start) 31 1 = some "2028-02-29" ∧
      advanceTimes (format start) 31 2 = some "2028-03-31" ∧
      (∃ date, advanceTimes (format start) 31 (1 + 1) = some (format date) ∧
        monthOf date = monthOf start + (((1 : Nat) : Int) + 1) ∧ OnDay 31 date) ∧
      ∃ date, nextMonthlyDate (toDays ⟨2028, 1, 30⟩) 31 = format date ∧
        IsFirst (toDays ⟨2028, 1, 30⟩) 31 date := by
  intro start
  obtain ⟨advanced, first⟩ := monthly_dates_stay 31
  exact ⟨by decide +kernel, by decide +kernel, advanced start (by decide +kernel) 1, first _⟩

/-- A rule for the 31st that starts on the 15th is on the 15th as long as it is not advanced, and
the text of a date before the year 0 cannot be advanced. -/
theorem start_stays :
    (¬∃ date, advanceTimes (format (toDays ⟨2026, 1, 15⟩)) 31 0 = some (format date) ∧
        monthOf date = monthOf (toDays ⟨2026, 1, 15⟩) + ((0 : Nat) : Int) ∧ OnDay 31 date) ∧
      advanceTimes (format (toDays ⟨-1, 6, 15⟩)) 31 1 = none := by
  refine ⟨?_, by decide +kernel⟩
  rintro ⟨date, same, inMonth, onDay⟩
  have year : 0 ≤ (ofDays date).year := by
    have start : monthOf (toDays ⟨2026, 1, 15⟩) = 24312 := by decide +kernel
    have number := (ofDays_month date).1
    omega
  have read := congrArg parse (Option.some.inj same)
  rw [parse_format year, parse_format (by decide +kernel)] at read
  rw [← Option.some.inj read] at onDay
  exact absurd onDay (by unfold OnDay; decide +kernel)

end Ledgerly.RecurringDate
