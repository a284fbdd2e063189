/-
This file is about dates of the proleptic Gregorian calendar and the days they are from the
Unix epoch.

Years are counted from March, so that the leap day comes last, and in eras of 400 years,
which all have 146097 days. An era has four centuries, the last one a day longer, a century
has 25 groups of four years, the last one a day shorter, and a group has four years, the
last one a day longer.
-/

import Mathlib.Algebra.Order.Ring.Int

/-- A year, a month from 1 on and a day of the month from 1 on. -/
structure CivilDate where
  year : Int
  month : Int
  day : Int
  deriving DecidableEq

namespace CivilDate

/-- The days from 1970-01-01 to a date. Months and days beyond their range run over into the
next ones. -/
def toDays (date : CivilDate) : Int :=
  let year := if date.month ≤ 2 then date.year - 1 else date.year
  let month := if date.month ≤ 2 then date.month + 9 else date.month - 3
  let yearOfEra := year % 400
  let dayOfYear := (153 * month + 2) / 5 + date.day - 1
  year / 400 * 146097 + (yearOfEra * 365 + yearOfEra / 4 - yearOfEra / 100 + dayOfYear) - 719468

/-- The century of an era that a day of the era falls into. -/
def centuryOf (dayOfEra : Int) : Int := min (dayOfEra / 36524) 3

/-- The year of a group of four years that a day of the group falls into. -/
def yearOfGroup (dayOfGroup : Int) : Int := min (dayOfGroup / 365) 3

/-- The year of an era and the day of that year that a day of the era falls into. -/
def yearAndDay (dayOfEra : Int) : Int × Int :=
  let dayOfCentury := dayOfEra - centuryOf dayOfEra * 36524
  let dayOfGroup := dayOfCentury % 1461
  (centuryOf dayOfEra * 100 + dayOfCentury / 1461 * 4 + yearOfGroup dayOfGroup,
    dayOfGroup - yearOfGroup dayOfGroup * 365)

/-- The date a number of days after 1970-01-01. -/
def ofDays (days : Int) : CivilDate :=
  let era := (days + 719468) / 146097
  let yearDay := yearAndDay ((days + 719468) % 146097)
  let month := (5 * yearDay.2 + 2) / 153
  { year := yearDay.1 + era * 400 + if month < 10 then 0 else 1
    month := if month < 10 then month + 3 else month - 9
    day := yearDay.2 - (153 * month + 2) / 5 + 1 }

/-- The century of the era, the group of four years and the year of the group that a day of an era
falls into, and its day there. The last day of a century is a leap day, which only the last century
has. -/
structure InEra (dayOfEra century group year day : Int) : Prop where
  centuries : 0 ≤ century ∧ century ≤ 3
  groups : 0 ≤ group ∧ group ≤ 24
  years : 0 ≤ year ∧ year ≤ 3
  days : 0 ≤ day ∧ day ≤ 365
  whole : dayOfEra = century * 36524 + group * 1461 + year * 365 + day
  dayOfCentury : group * 1461 + year * 365 + day < 36524 + if century = 3 then 1 else 0
  dayOfGroup : year * 365 + day < 1461
  leap : day = 365 → year = 3

theorem exists_inEra {dayOfEra : Int} (lower : 0 ≤ dayOfEra) (upper : dayOfEra < 146097) :
    ∃ century group year day, yearAndDay dayOfEra = (century * 100 + group * 4 + year, day) ∧
      InEra dayOfEra century group year day := by
  have century : 0 ≤ centuryOf dayOfEra ∧ centuryOf dayOfEra ≤ 3 ∧
      0 ≤ dayOfEra - centuryOf dayOfEra * 36524 ∧
      dayOfEra - centuryOf dayOfEra * 36524 <
        36524 + if centuryOf dayOfEra = 3 then 1 else 0 := by
    unfold centuryOf
    omega
  refine ⟨_, _, _, _, rfl, ?_⟩
  generalize centuryOf dayOfEra = century' at *
  have group : 0 ≤ (dayOfEra - century' * 36524) / 1461 ∧
      (dayOfEra - century' * 36524) / 1461 ≤ 24 := by omega
  have whole := Int.mul_ediv_add_emod (dayOfEra - century' * 36524) 1461
  have remainder : 0 ≤ (dayOfEra - century' * 36524) % 1461 ∧
      (dayOfEra - century' * 36524) % 1461 < 1461 := by omega
  generalize (dayOfEra - century' * 36524) / 1461 = group' at *
  generalize (dayOfEra - century' * 36524) % 1461 = dayOfGroup at *
  have year : 0 ≤ yearOfGroup dayOfGroup ∧ yearOfGroup dayOfGroup ≤ 3 ∧
      0 ≤ dayOfGroup - yearOfGroup dayOfGroup * 365 ∧
      dayOfGroup - yearOfGroup dayOfGroup * 365 ≤ 365 ∧
      (dayOfGroup - yearOfGroup dayOfGroup * 365 = 365 → yearOfGroup dayOfGroup = 3) := by
    unfold yearOfGroup
    omega
  obtain ⟨yearLower, yearUpper, dayLower, dayUpper, leap⟩ := year
  generalize yearOfGroup dayOfGroup = year' at *
  exact
    { centuries := ⟨century.1, century.2.1⟩
      groups := group
      years := ⟨yearLower, yearUpper⟩
      days := ⟨dayLower, dayUpper⟩
      whole := by omega
      dayOfCentury := by omega
      dayOfGroup := by omega
      leap }

/-- A day of an era lies in one of its 400 years, after the days of the years before. -/
theorem yearAndDay_spec {dayOfEra : Int} (lower : 0 ≤ dayOfEra) (upper : dayOfEra < 146097) :
    0 ≤ (yearAndDay dayOfEra).1 ∧ (yearAndDay dayOfEra).1 < 400 ∧
      0 ≤ (yearAndDay dayOfEra).2 ∧ (yearAndDay dayOfEra).2 ≤ 365 ∧
      dayOfEra = (yearAndDay dayOfEra).1 * 365 + (yearAndDay dayOfEra).1 / 4 -
        (yearAndDay dayOfEra).1 / 100 + (yearAndDay dayOfEra).2 := by
  obtain ⟨century, group, year, day, parts, ⟨_, _, _, _, whole, -, -, -⟩⟩ :=
    exists_inEra lower upper
  rw [parts]
  dsimp only
  have quarter : (century * 100 + group * 4 + year) / 4 = century * 25 + group := by omega
  have hundredth : (century * 100 + group * 4 + year) / 100 = century := by omega
  rw [quarter, hundredth]
  omega

/-- The day of a date given by era, year of the era, and month and day counted from March. -/
theorem toDays_eq {era year month day : Int} (yearLower : 0 ≤ year) (yearUpper : year < 400)
    (monthLower : 0 ≤ month) (monthUpper : month ≤ 11) :
    toDays ⟨year + era * 400 + if month < 10 then 0 else 1,
      if month < 10 then month + 3 else month - 9, day⟩ =
      era * 146097 + (year * 365 + year / 4 - year / 100 + ((153 * month + 2) / 5 + day - 1)) -
        719468 := by
  have recovered : ∀ number : Int, number = year + era * 400 →
      number / 400 = era ∧ number % 400 = year := by omega
  simp only [toDays]
  by_cases inYear : month < 10
  · obtain ⟨quotient, remainder⟩ := recovered (year + era * 400 + 0) (by omega)
    rw [if_pos inYear, if_pos inYear, if_neg (by omega), if_neg (by omega), quotient, remainder,
      add_sub_cancel_right]
  · obtain ⟨quotient, remainder⟩ := recovered (year + era * 400 + 1 - 1) (by omega)
    rw [if_neg inYear, if_neg inYear, if_pos (by omega), if_pos (by omega), quotient, remainder,
      sub_add_cancel]

section OfDays

variable (days : Int)

theorem dayOfEra_bounds : 0 ≤ (days + 719468) % 146097 ∧ (days + 719468) % 146097 < 146097 := by
  omega

/-- Every day is the day of its date. -/
theorem toDays_ofDays : (ofDays days).toDays = days := by
  obtain ⟨lower, upper⟩ := dayOfEra_bounds days
  obtain ⟨yearLower, yearUpper, dayLower, dayUpper, split⟩ := yearAndDay_spec lower upper
  have whole := Int.mul_ediv_add_emod (days + 719468) 146097
  simp only [ofDays]
  rw [toDays_eq yearLower yearUpper (by omega) (by omega)]
  omega

/-- The month and the day of a date are in their ranges. -/
theorem ofDays_ranges : 1 ≤ (ofDays days).month ∧ (ofDays days).month ≤ 12 ∧
    1 ≤ (ofDays days).day ∧ (ofDays days).day ≤ 31 := by
  obtain ⟨lower, upper⟩ := dayOfEra_bounds days
  obtain ⟨-, -, dayLower, dayUpper, -⟩ := yearAndDay_spec lower upper
  simp only [ofDays]
  refine ⟨?_, ?_, ?_, ?_⟩
  · split <;> omega
  · split <;> omega
  · omega
  · omega

/-- The days of the years from 0 to 9999. -/
theorem ofDays_year (first : -719528 ≤ days) (last : days < 2932897) :
    0 ≤ (ofDays days).year ∧ (ofDays days).year ≤ 9999 := by
  obtain ⟨lower, upper⟩ := dayOfEra_bounds days
  obtain ⟨yearLower, yearUpper, dayLower, dayUpper, split⟩ := yearAndDay_spec lower upper
  have whole := Int.mul_ediv_add_emod (days + 719468) 146097
  simp only [ofDays]
  generalize yearAndDay ((days + 719468) % 146097) = yearDay at *
  -- the days before the first whole era lie in its last year
  have era : -1 ≤ (days + 719468) / 146097 ∧ (days + 719468) / 146097 ≤ 24 := by omega
  have last' : (days + 719468) / 146097 = -1 → yearDay.1 = 399 ∧ 306 ≤ yearDay.2 := by omega
  have first' : (days + 719468) / 146097 = 24 → yearDay.1 = 399 → yearDay.2 ≤ 305 := by omega
  constructor <;> split <;> omega

end OfDays

/-! ### Months -/

/-- A day of an era lies before the year after its own. -/
theorem yearAndDay_lt {dayOfEra : Int} (lower : 0 ≤ dayOfEra) (upper : dayOfEra < 146097) :
    (yearAndDay dayOfEra).1 = 399 ∨
      dayOfEra < ((yearAndDay dayOfEra).1 + 1) * 365 + ((yearAndDay dayOfEra).1 + 1) / 4 -
        ((yearAndDay dayOfEra).1 + 1) / 100 := by
  obtain ⟨century, group, year, day, parts,
    ⟨_, _, _, _, whole, dayOfCentury, dayOfGroup, leap⟩⟩ := exists_inEra lower upper
  rw [parts]
  dsimp only
  by_cases last : year = 3 ∧ group = 24
  · -- the last year of a century has a leap day in the last century of the era only
    obtain ⟨rfl, rfl⟩ := last
    omega
  · right
    have quarter : (century * 100 + group * 4 + year + 1) / 4 =
        century * 25 + group + if year = 3 then 1 else 0 := by
      split <;> omega
    have hundredth : (century * 100 + group * 4 + year + 1) / 100 = century := by omega
    rw [quarter, hundredth]
    split <;> omega

/-- A month after March of a year counted from March, when the year may have been left. -/
theorem toDays_fromMarch {era year month day : Int} (yearLower : 0 ≤ year) (yearUpper : year < 400)
    (monthLower : 3 ≤ month) :
    toDays ⟨year + era * 400, month, day⟩ =
      era * 146097 + (year * 365 + year / 4 - year / 100 + ((153 * (month - 3) + 2) / 5 + day - 1)) -
        719468 := by
  have quotient : (year + era * 400) / 400 = era := by omega
  have remainder : (year + era * 400) % 400 = year := by omega
  simp only [toDays]
  rw [if_neg (by omega), if_neg (by omega), quotient, remainder]

/-- A day lies before the first of the month after its own. -/
theorem lt_nextMonth (days : Int) :
    days < toDays ⟨(ofDays days).year, (ofDays days).month + 1, 1⟩ := by
  obtain ⟨lower, upper⟩ := dayOfEra_bounds days
  obtain ⟨yearLower, yearUpper, dayLower, dayUpper, split⟩ := yearAndDay_spec lower upper
  have nextYear := yearAndDay_lt lower upper
  have whole := Int.mul_ediv_add_emod (days + 719468) 146097
  simp only [ofDays]
  generalize yearAndDay ((days + 719468) % 146097) = yearDay at *
  generalize (days + 719468) % 146097 = dayOfEra at *
  generalize (days + 719468) / 146097 = era at *
  obtain ⟨year, day⟩ := yearDay
  dsimp only at *
  have month : 0 ≤ (5 * day + 2) / 153 ∧ (5 * day + 2) / 153 ≤ 11 ∧
      day < (153 * ((5 * day + 2) / 153 + 1) + 2) / 5 := by omega
  generalize (5 * day + 2) / 153 = month' at *
  by_cases inYear : month' < 10
  · -- December is followed by the thirteenth month of the same year
    rw [if_pos inYear, if_pos inYear, add_zero, toDays_fromMarch yearLower yearUpper (by omega)]
    omega
  · rw [if_neg inYear, if_neg inYear]
    by_cases last : month' = 11
    · obtain rfl := last
      by_cases lastYear : year = 399
      · have next : year + era * 400 + 1 = 0 + (era + 1) * 400 := by omega
        rw [next, toDays_fromMarch (by omega) (by omega) (by omega)]
        omega
      · have next : year + era * 400 + 1 = (year + 1) + era * 400 := by omega
        rw [next, toDays_fromMarch (by omega) (by omega) (by omega)]
        omega
    · have january : month' = 10 := by omega
      obtain rfl := january
      have next := @toDays_eq era year 11 1 yearLower yearUpper (by decide) le_rfl
      rw [if_neg (by decide), if_neg (by decide)] at next
      rw [show (10 : Int) - 9 + 1 = 11 - 9 from rfl, next]
      omega

/-- The days of a month follow its first. -/
theorem toDays_day (year month day : Int) :
    toDays ⟨year, month, day⟩ = toDays ⟨year, month, 1⟩ + (day - 1) := by
  simp only [toDays]
  omega

/-- A thirteenth month is the first of the next year. -/
theorem toDays_thirteenth (year day : Int) :
    toDays ⟨year, 12 + 1, day⟩ = toDays ⟨year + 1, 1, day⟩ := by
  simp only [toDays]
  rw [if_neg (by decide), if_neg (by decide), if_pos (by decide), if_pos (by decide),
    add_sub_cancel_right]
  rfl

/-- The days a month has. -/
def daysInMonth (year month : Int) : Int := (ofDays (toDays ⟨year, month + 1, 0⟩)).day

theorem one_le_daysInMonth (year month : Int) : 1 ≤ daysInMonth year month :=
  (ofDays_ranges _).2.2.1

/-- The month after a date, on the day of it that a choice gives. -/
def intoNextMonth (date : CivilDate) (dayIn : Int → Int → Int) : Int :=
  let year := if date.month + 1 > 12 then date.year + 1 else date.year
  let month := if date.month + 1 > 12 then 1 else date.month + 1
  toDays ⟨year, month, dayIn year month⟩

/-- Every day of the next month is a later one. -/
theorem lt_intoNextMonth (days : Int) (dayIn : Int → Int → Int)
    (positive : ∀ year month, 1 ≤ dayIn year month) :
    days < intoNextMonth (ofDays days) dayIn := by
  have next := lt_nextMonth days
  simp only [intoNextMonth]
  by_cases december : (ofDays days).month + 1 > 12
  · have inRange := (ofDays_ranges days).2.1
    have equal : (ofDays days).month = 12 := by omega
    rw [equal, toDays_thirteenth] at next
    rw [if_pos december, if_pos december, toDays_day]
    have day := positive ((ofDays days).year + 1) 1
    omega
  · rw [if_neg december, if_neg december, toDays_day]
    have day := positive (ofDays days).year ((ofDays days).month + 1)
    omega

end CivilDate
