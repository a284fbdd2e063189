/-
This file counts the months of the calendar: a month is its number from the January of year 0
on, so that the months before and after one are the numbers next to its own, across the years.

A month is the days from its first to the first of the next one. The firsts lie at least 28
days apart, so every day falls into one month.
-/

import Ledgerly.Library.CivilDate

namespace CivilDate

/-- The number of a month of a year. Months beyond the range of a year run over into the next
ones. -/
def monthNumber (year month : Int) : Int := year * 12 + month - 1

/-- The number of the month a day falls into. -/
def monthOf (days : Int) : Int := monthNumber (ofDays days).year (ofDays days).month

/-- The first day of a month. -/
def firstOfMonth (number : Int) : Int := toDays ⟨number / 12, number % 12 + 1, 1⟩

theorem monthNumber_add (year month later : Int) :
    monthNumber year (month + later) = monthNumber year month + later := by
  simp only [monthNumber]
  omega

theorem monthNumber_sub (year month earlier : Int) :
    monthNumber year (month - earlier) = monthNumber year month - earlier := by
  simp only [monthNumber]
  omega

/-- The number of a month gives its year and the month back. -/
theorem monthNumber_parts {year month : Int} (lower : 1 ≤ month) (upper : month ≤ 12) :
    monthNumber year month / 12 = year ∧ monthNumber year month % 12 + 1 = month := by
  simp only [monthNumber]
  omega

/-- The first of the month of a date. -/
theorem firstOfMonth_monthNumber {year month : Int} (lower : 1 ≤ month) (upper : month ≤ 12) :
    firstOfMonth (monthNumber year month) = toDays ⟨year, month, 1⟩ := by
  obtain ⟨quotient, remainder⟩ := @monthNumber_parts year month lower upper
  rw [firstOfMonth, quotient, remainder]

/-- A month has at least 28 days. -/
theorem firstOfMonth_succ (number : Int) : firstOfMonth number + 28 ≤ firstOfMonth (number + 1) := by
  have split := Int.mul_ediv_add_emod number 12
  have range : 0 ≤ number % 12 ∧ number % 12 ≤ 11 := by omega
  by_cases december : number % 12 = 11
  · have year : (number + 1) / 12 = number / 12 + 1 := by omega
    have january : (number + 1) % 12 = 0 := by omega
    rw [firstOfMonth, firstOfMonth, year, january, december]
    simp only [toDays]
    rw [if_neg (by decide), if_neg (by decide), if_pos (by decide), if_pos (by decide),
      add_sub_cancel_right]
    omega
  · have year : (number + 1) / 12 = number / 12 := by omega
    have month : (number + 1) % 12 = number % 12 + 1 := by omega
    rw [firstOfMonth, firstOfMonth, year, month]
    generalize number % 12 = month' at *
    generalize number / 12 = year' at *
    simp only [toDays]
    by_cases winter : month' + 1 ≤ 2
    · by_cases january : month' = 0
      · obtain rfl := january
        rw [if_pos (by decide), if_pos (by decide), if_pos (by decide), if_pos (by decide)]
        omega
      · obtain rfl : month' = 1 := by omega
        -- the year counted from March begins between the two firsts
        rw [if_pos (by decide), if_pos (by decide), if_neg (by decide), if_neg (by decide)]
        omega
    · rw [if_neg winter, if_neg winter, if_neg (by omega), if_neg (by omega)]
      omega

/-- So many months later. -/
theorem firstOfMonth_add (number : Int) (later : Nat) :
    firstOfMonth number + 28 * later ≤ firstOfMonth (number + later) := by
  induction later with
  | zero => simp
  | succ later inductionHypothesis =>
    have next := firstOfMonth_succ (number + later)
    rw [add_assoc] at next
    push_cast
    omega

/-- The firsts of two months lie apart in the order of the months. -/
theorem firstOfMonth_lt {number other : Int} (earlier : number < other) :
    firstOfMonth number + 28 ≤ firstOfMonth other := by
  have apart := firstOfMonth_add number (other - number).toNat
  have reached : number + ((other - number).toNat : Int) = other := by omega
  rw [reached] at apart
  omega

theorem firstOfMonth_inj {number other : Int} (same : firstOfMonth number = firstOfMonth other) :
    number = other := by
  rcases lt_trichotomy number other with earlier | equal | later
  · have apart := firstOfMonth_lt earlier
    omega
  · exact equal
  · have apart := firstOfMonth_lt later
    omega

/-- A day falls into its month. -/
theorem firstOfMonth_monthOf (days : Int) :
    firstOfMonth (monthOf days) ≤ days ∧ days < firstOfMonth (monthOf days + 1) := by
  obtain ⟨lower, upper, day, -⟩ := ofDays_ranges days
  have first : monthOf days = monthNumber (ofDays days).year (ofDays days).month := rfl
  have itself := toDays_ofDays days
  rw [show ofDays days = ⟨(ofDays days).year, (ofDays days).month, (ofDays days).day⟩ from rfl,
    toDays_day] at itself
  refine ⟨by rw [first, firstOfMonth_monthNumber lower upper]; omega, ?_⟩
  have next := lt_nextMonth days
  by_cases december : (ofDays days).month = 12
  · rw [december, toDays_thirteenth,
      ← firstOfMonth_monthNumber (by decide) (by decide)] at next
    have following : monthOf days + 1 = monthNumber ((ofDays days).year + 1) 1 := by
      rw [monthOf, december, monthNumber, monthNumber]
      omega
    rwa [following]
  · rw [← firstOfMonth_monthNumber (by omega) (by omega), monthNumber_add] at next
    exact next

/-- The month of a day is the one the day falls into. -/
theorem monthOf_eq {days number : Int} (lower : firstOfMonth number ≤ days)
    (upper : days < firstOfMonth (number + 1)) : monthOf days = number := by
  obtain ⟨from', before⟩ := firstOfMonth_monthOf days
  rcases lt_trichotomy (monthOf days) number with earlier | equal | later
  · rcases (show monthOf days + 1 = number ∨ monthOf days + 1 < number by omega) with next | apart
    · rw [next] at before
      omega
    · have apart' := firstOfMonth_lt apart
      omega
  · exact equal
  · rcases (show number + 1 = monthOf days ∨ number + 1 < monthOf days by omega) with next | apart
    · rw [next] at upper
      omega
    · have apart' := firstOfMonth_lt apart
      omega

theorem monthOf_firstOfMonth (number : Int) : monthOf (firstOfMonth number) = number := by
  have next := firstOfMonth_succ number
  exact monthOf_eq le_rfl (by omega)

/-- A later day falls into a later month or the same. -/
theorem monthOf_le {days other : Int} (earlier : days ≤ other) : monthOf days ≤ monthOf other := by
  obtain ⟨lower, -⟩ := firstOfMonth_monthOf days
  obtain ⟨-, upper⟩ := firstOfMonth_monthOf other
  by_contra later
  rcases (show monthOf other + 1 = monthOf days ∨ monthOf other + 1 < monthOf days by omega) with
    next | apart
  · rw [next] at upper
    omega
  · have apart' := firstOfMonth_lt apart
    omega

/-! ### Days of a month -/

/-- The year and the month that a day is written with are those of the number of its month. -/
theorem ofDays_month (days : Int) :
    (ofDays days).year = monthOf days / 12 ∧ (ofDays days).month = monthOf days % 12 + 1 := by
  obtain ⟨lower, upper, -, -⟩ := ofDays_ranges days
  simp only [monthOf, monthNumber]
  omega

/-- The day of the month counts from the first. -/
theorem ofDays_day (days : Int) :
    (ofDays days).day = days - firstOfMonth (monthOf days) + 1 := by
  obtain ⟨lower, upper, -, -⟩ := ofDays_ranges days
  have first : firstOfMonth (monthOf days) = toDays ⟨(ofDays days).year, (ofDays days).month, 1⟩ :=
    firstOfMonth_monthNumber lower upper
  have whole := toDays_ofDays days
  rw [show ofDays days = ⟨(ofDays days).year, (ofDays days).month, (ofDays days).day⟩ from rfl,
    toDays_day, ← first] at whole
  omega

/-- The first of the month after one is the first of its thirteenth month too. -/
theorem toDays_succ_month (number : Int) :
    toDays ⟨number / 12, number % 12 + 1 + 1, 1⟩ = firstOfMonth (number + 1) := by
  by_cases december : number % 12 = 11
  · have year : (number + 1) / 12 = number / 12 + 1 := by omega
    have january : (number + 1) % 12 = 0 := by omega
    rw [firstOfMonth, year, january, december]
    exact toDays_thirteenth (number / 12) 1
  · have year : (number + 1) / 12 = number / 12 := by omega
    have month : (number + 1) % 12 = number % 12 + 1 := by omega
    rw [firstOfMonth, year, month]

/-- The days a month has are those from its first to the first of the next one. -/
theorem daysInMonth_eq (number : Int) :
    daysInMonth (number / 12) (number % 12 + 1) =
      firstOfMonth (number + 1) - firstOfMonth number := by
  have longer := firstOfMonth_succ number
  have last : toDays ⟨number / 12, number % 12 + 1 + 1, 0⟩ = firstOfMonth (number + 1) - 1 := by
    rw [toDays_day, toDays_succ_month]
    omega
  have month : monthOf (firstOfMonth (number + 1) - 1) = number :=
    monthOf_eq (by omega) (by omega)
  rw [daysInMonth, last, ofDays_day, month]
  omega

end CivilDate
