/-
This file is about the dates of an imported bill: the numbers that a text says and the date
that `parseImportDate` makes of it. The date is the one the text says exactly if the numbers
that are read are those of a real date and time, nothing that is written is left unread, and the
clock of the device does not skip the time.

Both readers hand the numbers to a clock that lets them run over, and neither looks at the
numbers before or at the date after.
-/

import Ledgerly.CsvRoundTrip

namespace Ledgerly.Csv

open CivilDate

/-! ### The numbers of a text -/

/-- A date and time as it is read of a text, and the numbers that the text says of it, as many as
there are from the year to the second. -/
structure ImportedDate where
  year : Int
  month : Nat
  day : Nat
  hour : Nat
  minute : Nat
  second : Nat
  micros : Nat
  written : List Int

/-- The numbers that are read, down to the second. -/
def ImportedDate.fields (date : ImportedDate) : List Int :=
  [date.year, date.month, date.day, date.hour, date.minute, date.second]

/-- The time that the clock is set to. -/
def ImportedDate.time (date : ImportedDate) : Int :=
  timeOf date.year date.month date.day date.hour date.minute date.second date.micros

section Clock

variable {date : ImportedDate}

/-- How far the numbers of a text tell what was read of it: what comes after them was not read
and counts as nothing. -/
def ImportedDate.Tells (date : ImportedDate) (numbers : List Int) : Prop :=
  (date.hour = 0 ∧ date.minute = 0 ∧ date.second = 0 ∧
    [date.year, (date.month : Int)] <+: numbers) ∨
  (date.second = 0 ∧ [date.year, (date.month : Int), (date.day : Int), (date.hour : Int)] <+:
    numbers) ∨
  [date.year, (date.month : Int), (date.day : Int), (date.hour : Int), (date.minute : Int)] <+:
    numbers

end Clock

/-! ### Reading whole numbers -/

section Texts

variable {date : ImportedDate}

theorem ImportedDate.Tells.mono {numbers others : List Int} (tells : date.Tells numbers)
    (longer : numbers <+: others) : date.Tells others := by
  rcases tells with ⟨hour, minute, second, told⟩ | ⟨second, told⟩ | told
  · exact Or.inl ⟨hour, minute, second, told.trans longer⟩
  · exact Or.inr (Or.inl ⟨second, told.trans longer⟩)
  · exact Or.inr (Or.inr (told.trans longer))

end Texts

/-! ### The dates of a bill -/

section Reader

variable [LocalZone]

/-- How far the clock of the device is moved when it is set to a local time. It is moved where it
skips this time, because it is put forward there. -/
def LocalZone.jump (local' : Int) : Int :=
  ((LocalZone.ofLocal local').map LocalZone.toLocal).getD local' - local'

/-- A time that the clock of the device ever shows is not skipped. -/
theorem jump_of_shown (time : DateTime) : LocalZone.jump (LocalZone.toLocal time) = 0 := by
  obtain ⟨again, made, same⟩ := LocalZone.ofLocal_toLocal time
  rw [LocalZone.jump, made, Option.map_some, Option.getD_some, same, sub_self]

end Reader

end Ledgerly.Csv
