/-
This file settles what interval a custom range of the Reports page is.

`resolve` ends every range at the midnight of the day after it, says its docstring. A custom range
it ends where one that is anchored to a month ends, at the first of the month after its last date,
so it is the range that was asked for exactly if its last date is the last one of a month.
-/

import Ledgerly.LocalReports

namespace Ledgerly.ReportsPage

open CivilDate

section Zone

variable [LocalDays]

namespace ReportsRange

/-- `ReportsRange.custom` of two instants, on the date of the clock. -/
def custom (now start stop : Int) : ReportsRange where
  kind := .custom
  anchor := nowMonth now
  customStart := some (LocalDays.dateOf start)
  customEnd := some (LocalDays.dateOf stop)

/-- `dayCount`: `inDays` counts days of 24 hours. -/
def dayCount (range : ReportsRange) (now : Int) : Int :=
  let r := range.resolve now
  if ¬r.start < r.stop then 1 else (r.stop - r.start).tdiv 86400

/-- The range consists of the days from one date to another, both included. How many they are is
said where no clock is put forward or back in between, and which instants they hold where dates
never go back. -/
structure Spans (range : ReportsRange) (now first last : Int) : Prop where
  interval : range.resolve now = ⟨LocalDays.midnight first, LocalDays.midnight (last + 1)⟩
  days : LocalDays.midnight (last + 1) - LocalDays.midnight first = (last + 1 - first) * 86400 →
    range.dayCount now = last + 1 - first
  instants : (∀ date instant, LocalDays.midnight date ≤ instant ↔
      date ≤ LocalDays.dateOf instant) →
    ∀ instant, (range.resolve now).holds instant = true ↔
      first ≤ LocalDays.dateOf instant ∧ LocalDays.dateOf instant ≤ last

/-- The interval decides the rest. -/
theorem spans_of_resolve {range : ReportsRange} {now first last : Int} (ordered : first ≤ last)
    (interval : range.resolve now =
      ⟨LocalDays.midnight first, LocalDays.midnight (last + 1)⟩) :
    range.Spans now first last where
  interval := interval
  days := by
    intro noShift
    have forward : LocalDays.midnight first < LocalDays.midnight (last + 1) := by omega
    rw [dayCount, interval]
    dsimp only
    rw [if_neg (not_not.mpr forward), noShift, Int.mul_tdiv_cancel _ (by decide)]
  instants := by
    intro inOrder instant
    rw [interval, Window.holds_iff, inOrder first instant, ← not_le, inOrder (last + 1) instant]
    omega

end ReportsRange

omit [LocalDays] in
/-- A date is the last one of its month if its day is the length of the month. -/
theorem lastOfMonth_iff {date : Int} :
    (ofDays date).day = daysInMonth (ofDays date).year (ofDays date).month ↔
      firstOfMonth (monthOf date + 1) = date + 1 := by
  obtain ⟨year, month⟩ := ofDays_month date
  rw [ofDays_day, year, month, daysInMonth_eq]
  omega

/-- A custom range consists of the days from its first date to its last one exactly if the last one
is the last of its month. -/
theorem custom_spans_iff (now start stop : Int)
    (ordered : LocalDays.dateOf start ≤ LocalDays.dateOf stop) :
    (ReportsRange.custom now start stop).Spans now (LocalDays.dateOf start)
        (LocalDays.dateOf stop) ↔
      (ofDays (LocalDays.dateOf stop)).day =
        daysInMonth (ofDays (LocalDays.dateOf stop)).year (ofDays (LocalDays.dateOf stop)).month := by
  have resolved : (ReportsRange.custom now start stop).resolve now =
      ⟨LocalDays.midnight (LocalDays.dateOf start),
        LocalDays.midnight (firstOfMonth (monthOf (LocalDays.dateOf stop) + 1))⟩ :=
    custom_resolve rfl rfl rfl
  rw [lastOfMonth_iff]
  constructor
  · intro spans
    exact midnight_inj (Window.mk.inj (resolved.symm.trans spans.interval)).2
  · intro last
    refine ReportsRange.spans_of_resolve ordered ?_
    rw [resolved, last]

end Zone

/-- January as a custom range. -/
theorem january_spans :
    let _ := utcDays
    let first := toDays ⟨2026, 1, 1⟩
    let last := toDays ⟨2026, 1, 31⟩
    (ReportsRange.custom last (first * 86400) (last * 86400)).Spans last first last := by
  intro _ first last
  exact (custom_spans_iff last (first * 86400) (last * 86400) (by decide +kernel)).mpr
    (by decide +kernel)

/-- The fifth to the tenth of January is a range of 27 days, which holds the twentieth. -/
theorem tenth_of_january_runs_on :
    let _ := utcDays
    let first := toDays ⟨2026, 1, 5⟩
    let last := toDays ⟨2026, 1, 10⟩
    let range := ReportsRange.custom last (first * 86400) (last * 86400)
    range.dayCount last = 27 ∧
      (range.resolve last).holds (toDays ⟨2026, 1, 20⟩ * 86400) = true ∧
      ¬range.Spans last first last := by
  intro _ first last range
  refine ⟨by decide +kernel, by decide +kernel, fun spans => ?_⟩
  exact absurd spans.interval (by decide +kernel)

end Ledgerly.ReportsPage
