/-
This file models how the client keeps and sends dates: `DateTime.toIso8601String`, the
reading of a remote date in `_remoteOccurredAt`, and the column a date is stored in.

A `DateTime` counts microseconds from the Unix epoch. It is sent in full, but the database
column keeps whole seconds: drift stores `millisecondsSinceEpoch ~/ 1000`, and the options of
the build leave that default as it is.

`ReadsDates` is what the two ends owe each other: the server reads the text the client
writes, and the client reads the text the server writes, to the microsecond.
-/

import Mathlib.Data.Nat.Digits.Defs
import Ledgerly.Library.CivilDate
import Ledgerly.SyncMutation

namespace Ledgerly

/-! ### The text the client writes -/

/-- A number padded to a width with zeros. -/
def padded (width value : Nat) : List Char :=
  List.replicate (width - (Nat.toDigits 10 value).length) '0' ++ Nat.toDigits 10 value

/-- The year of `toIso8601String`: four digits, or a sign and six. -/
def yearText (year : Int) : List Char :=
  if -9999 ≤ year ∧ year ≤ 9999 then
    (if year < 0 then ['-'] else []) ++ padded 4 year.natAbs
  else (if year < 0 then ['-'] else ['+']) ++ padded 6 year.natAbs

/-- Date and time of a second of a day, up to the seconds. -/
def secondText (days : Int) (second : Nat) : List Char :=
  let date := CivilDate.ofDays days
  yearText date.year ++ ('-' :: padded 2 date.month.toNat) ++ ('-' :: padded 2 date.day.toNat) ++
    ('T' :: padded 2 (second / 3600)) ++ (':' :: padded 2 (second / 60 % 60)) ++
    (':' :: padded 2 (second % 60))

/-- `DateTime.toIso8601String` of a date in UTC, given in microseconds since the epoch. -/
def toIso8601String (micros : Int) : String :=
  let fraction := (micros % 1000000).toNat
  String.ofList (secondText (micros / 86400000000) (micros / 1000000 % 86400).toNat ++
    ('.' :: padded 3 (fraction / 1000)) ++
    (if fraction % 1000 = 0 then [] else padded 3 (fraction % 1000)) ++ ['Z'])

/-! ### The text the client reads -/

/-- The offset at the end of a timestamp, in minutes: `Z`, or a sign with hours and
minutes. -/
def readZone : List Char → Option Int
  | ['Z'] => some 0
  | [sign, hour, hour', ':', minute, minute'] =>
    if sign = '+' ∨ sign = '-' then
      match decimalNat [hour, hour'], decimalNat [minute, minute'] with
      | some hours, some minutes =>
        if hours ≤ 23 ∧ minutes ≤ 59 then
          some ((if sign = '-' then -1 else 1) * ((hours : Int) * 60 + minutes))
        else none
      | _, _ => none
    else none
  | _ => none

/-- The microseconds a fraction stands for: six digits count, missing ones are zeros. -/
def fractionMicros (digits : List Char) : Nat :=
  Nat.ofDigitChars 10 ((digits ++ List.replicate 6 '0').take 6) 0

/-- The fraction and the zone that follow the seconds. -/
def readFractionZone : List Char → Option (Nat × Int)
  | '.' :: rest =>
    if rest.takeWhile Char.isDigit = [] then none
    else (readZone (rest.dropWhile Char.isDigit)).map fun zone =>
      (fractionMicros (rest.takeWhile Char.isDigit), zone)
  | rest => (readZone rest).map fun zone => (0, zone)

/-- `_remoteOccurredAt` on a present date: the pattern `_rfc3339Timestamp`, `DateTime.tryParse`
and `_validRfc3339Parts`. -/
def remoteOccurredAt (raw : String) : Option Int :=
  match raw.toList with
  | y :: y' :: y'' :: y''' :: '-' :: mo :: mo' :: '-' :: d :: d' :: 'T' :: h :: h' :: ':' ::
      mi :: mi' :: ':' :: s :: s' :: rest =>
    match decimalNat [y, y', y'', y'''], decimalNat [mo, mo'], decimalNat [d, d'],
      decimalNat [h, h'], decimalNat [mi, mi'], decimalNat [s, s'], readFractionZone rest with
    | some year, some month, some day, some hour, some minute, some second,
        some (micros, zone) =>
      let date : CivilDate := ⟨year, month, day⟩
      if CivilDate.ofDays date.toDays = date ∧ hour ≤ 23 ∧ minute ≤ 59 ∧ second ≤ 59 then
        some ((((date.toDays * 24 + hour) * 60 + minute - zone) * 60 + second) * 1000000 + micros)
      else none
    | _, _, _, _, _, _, _ => none
  | _ => none

/-- The `DateTime` column: `millisecondsSinceEpoch ~/ 1000`, both divisions truncating. -/
def dateColumn (micros : Int) : Int := (micros.tdiv 1000).tdiv 1000

/-- A date in the years 0000 to 9999, as a timestamp of the server. -/
def timestampOf (micros : Int) : Option Timestamp :=
  if range : -62167219200000000000 ≤ micros * 1000 ∧ micros * 1000 ≤ 253402300799999999999 then
    some ⟨micros * 1000, range⟩
  else none

/-- What RFC 3339 promises both ends: the server reads the date the client writes, and the
client reads the date the server writes, cut to microseconds. -/
class ReadsDates [Rfc3339] : Prop where
  parse_toIso8601String : ∀ micros timestamp, timestampOf micros = some timestamp →
    Rfc3339.parse (toIso8601String micros) = some timestamp
  remoteOccurredAt_format : ∀ timestamp : Timestamp,
    remoteOccurredAt (Rfc3339.format timestamp) = some (timestamp.val / 1000)

/-! ### The client reads what it writes -/

theorem isDigit_of_mem_padded {width value : Nat} {character : Char}
    (member : character ∈ padded width value) : character.isDigit = true := by
  rcases List.mem_append.mp member with zero | digit
  · rw [List.eq_of_mem_replicate zero]
    decide
  · exact Nat.isDigit_of_mem_toDigits (by decide) (by decide) digit

theorem length_padded {width value : Nat} (positive : 0 < width) (small : value < 10 ^ width) :
    (padded width value).length = width := by
  have short := Nat.toDigits_length 10 value width positive small
  rw [padded, List.length_append, List.length_replicate]
  omega

theorem ofDigitChars_padded (width value : Nat) :
    Nat.ofDigitChars 10 (padded width value) 0 = value := by
  rw [padded, Nat.ofDigitChars_append, Nat.ofDigitChars_replicate_zero, Nat.mul_zero,
    Nat.ofDigitChars_toDigits (by decide) (by decide)]

theorem decimalNat_padded (width value : Nat) : decimalNat (padded width value) = some value := by
  have nonempty : padded width value ≠ [] := by
    rw [padded]
    exact List.append_ne_nil_of_right_ne_nil _ Nat.toDigits_ne_nil
  have digits : (padded width value).all Char.isDigit = true :=
    List.all_eq_true.mpr fun _ member => isDigit_of_mem_padded member
  rw [decimalNat, if_pos ⟨nonempty, digits⟩, ofDigitChars_padded]

/-- Two digits, read back. -/
theorem padded_two {value : Nat} (small : value < 100) :
    ∃ first second, padded 2 value = [first, second] ∧ decimalNat [first, second] = some value := by
  obtain ⟨first, second, two⟩ := List.length_eq_two.mp (length_padded (by decide) small)
  exact ⟨first, second, two, by rw [← two, decimalNat_padded]⟩

/-- The four digits of a year, read back. -/
theorem yearText_four {year : Int} (lower : 0 ≤ year) (upper : year ≤ 9999) :
    ∃ first second third fourth, yearText year = [first, second, third, fourth] ∧
      decimalNat [first, second, third, fourth] = some year.toNat := by
  have text : yearText year = padded 4 year.toNat := by
    rw [yearText, if_pos ⟨by omega, upper⟩, if_neg (by omega), List.nil_append,
      show year.natAbs = year.toNat by omega]
  have length : (padded 4 year.toNat).length = 4 := length_padded (by decide) (by omega)
  match digits : padded 4 year.toNat, length with
  | [first, second, third, fourth], _ =>
    exact ⟨first, second, third, fourth, text.trans digits, by rw [← digits, decimalNat_padded]⟩

/-- A second of a year up to 9999 is read back, whatever fraction follows it. -/
theorem remoteOccurredAt_secondText {days : Int} {second micros : Nat} {fraction : List Char}
    (first : -719528 ≤ days) (last : days < 2932897) (inDay : second < 86400)
    (read : readFractionZone fraction = some (micros, 0)) :
    remoteOccurredAt (String.ofList (secondText days second ++ fraction)) =
      some ((days * 86400 + second) * 1000000 + micros) := by
  obtain ⟨yearLower, yearUpper⟩ := CivilDate.ofDays_year days first last
  obtain ⟨monthLower, monthUpper, dayLower, dayUpper⟩ := CivilDate.ofDays_ranges days
  obtain ⟨y, y', y'', yLast, yearDigits, year⟩ := yearText_four yearLower yearUpper
  obtain ⟨mo, mo', monthDigits, month⟩ :=
    padded_two (show (CivilDate.ofDays days).month.toNat < 100 by omega)
  obtain ⟨d, d', dayDigits, day⟩ :=
    padded_two (show (CivilDate.ofDays days).day.toNat < 100 by omega)
  obtain ⟨h, h', hourDigits, hour⟩ := padded_two (show second / 3600 < 100 by omega)
  obtain ⟨mi, mi', minuteDigits, minute⟩ := padded_two (show second / 60 % 60 < 100 by omega)
  obtain ⟨s, s', secondDigits, seconds⟩ := padded_two (show second % 60 < 100 by omega)
  have date : (⟨((CivilDate.ofDays days).year.toNat : Int),
      ((CivilDate.ofDays days).month.toNat : Int), ((CivilDate.ofDays days).day.toNat : Int)⟩ :
        CivilDate) = CivilDate.ofDays days := by
    rw [Int.toNat_of_nonneg yearLower, Int.toNat_of_nonneg (by omega),
      Int.toNat_of_nonneg (by omega)]
  have valid : CivilDate.ofDays (CivilDate.ofDays days).toDays = CivilDate.ofDays days ∧
      second / 3600 ≤ 23 ∧ second / 60 % 60 ≤ 59 ∧ second % 60 ≤ 59 :=
    ⟨by rw [CivilDate.toDays_ofDays], by omega, by omega, by omega⟩
  simp only [remoteOccurredAt, secondText, yearDigits, monthDigits, dayDigits, hourDigits,
    minuteDigits, secondDigits, String.toList_ofList, List.cons_append, List.nil_append, year,
    month, day, hour, minute, seconds, read, date]
  rw [if_pos valid, CivilDate.toDays_ofDays]
  congr 1
  push_cast
  omega

/-- A run of digits in front of a zone is the fraction. -/
theorem readFractionZone_digits {digits : List Char} (nonempty : digits ≠ [])
    (all : ∀ digit ∈ digits, digit.isDigit = true) :
    readFractionZone ('.' :: (digits ++ ['Z'])) = some (fractionMicros digits, 0) := by
  have taken : (digits ++ ['Z']).takeWhile Char.isDigit = digits := by
    rw [List.takeWhile_append_of_pos all]
    simp
  have dropped : (digits ++ ['Z']).dropWhile Char.isDigit = ['Z'] := by
    rw [List.dropWhile_append_of_pos all]
    rfl
  rw [readFractionZone, taken, if_neg nonempty, dropped]
  rfl

/-- Three digits, then three more unless they are zero, stand for a fraction. -/
theorem fractionMicros_padded {fraction : Nat} (small : fraction < 1000000) :
    fractionMicros (padded 3 (fraction / 1000) ++
      if fraction % 1000 = 0 then [] else padded 3 (fraction % 1000)) = fraction := by
  have millis : (padded 3 (fraction / 1000)).length = 3 := length_padded (by decide) (by omega)
  have micros : (padded 3 (fraction % 1000)).length = 3 := length_padded (by decide) (by omega)
  have digits : ∀ tail : List Char, tail.length = 3 →
      Nat.ofDigitChars 10 (padded 3 (fraction / 1000) ++ tail) 0 =
        10 ^ 3 * (fraction / 1000) + Nat.ofDigitChars 10 tail 0 := by
    intro tail three
    rw [Nat.ofDigitChars_append, ofDigitChars_padded, Nat.ofDigitChars_eq_ofDigitChars_zero, three]
  unfold fractionMicros
  split
  · have zeros : (padded 3 (fraction / 1000) ++ [] ++ List.replicate 6 '0').take 6 =
        padded 3 (fraction / 1000) ++ List.replicate 3 '0' := by
      rw [List.append_nil, List.take_append, List.take_of_length_le (by omega), millis]
      rfl
    rw [zeros, digits _ rfl, Nat.ofDigitChars_replicate_zero]
    omega
  · have whole : (padded 3 (fraction / 1000) ++ padded 3 (fraction % 1000) ++
        List.replicate 6 '0').take 6 = padded 3 (fraction / 1000) ++ padded 3 (fraction % 1000) :=
      List.take_left' (by rw [List.length_append, millis, micros])
    rw [whole, digits _ micros, ofDigitChars_padded]
    omega

/-- The client reads back the dates it writes. -/
theorem remoteOccurredAt_toIso8601String {micros : Int} {timestamp : Timestamp}
    (inRange : timestampOf micros = some timestamp) :
    remoteOccurredAt (toIso8601String micros) = some micros := by
  have range : -62167219200000000000 ≤ micros * 1000 ∧
      micros * 1000 ≤ 253402300799999999999 := by
    by_contra outside
    rw [timestampOf, dif_neg outside] at inRange
    cases inRange
  have fraction : (micros % 1000000).toNat < 1000000 := by omega
  have text : toIso8601String micros = String.ofList (secondText (micros / 86400000000)
      (micros / 1000000 % 86400).toNat ++ ('.' :: ((padded 3 ((micros % 1000000).toNat / 1000) ++
        if (micros % 1000000).toNat % 1000 = 0 then []
        else padded 3 ((micros % 1000000).toNat % 1000)) ++ ['Z']))) := by
    simp only [toIso8601String, List.append_assoc, List.cons_append]
  have digits : ∀ digit ∈ padded 3 ((micros % 1000000).toNat / 1000) ++
      (if (micros % 1000000).toNat % 1000 = 0 then []
        else padded 3 ((micros % 1000000).toNat % 1000)), digit.isDigit = true := by
    intro digit member
    rcases List.mem_append.mp member with millis | micros
    · exact isDigit_of_mem_padded millis
    · split at micros
      · exact absurd micros List.not_mem_nil
      · exact isDigit_of_mem_padded micros
  have nonempty : padded 3 ((micros % 1000000).toNat / 1000) ++
      (if (micros % 1000000).toNat % 1000 = 0 then []
        else padded 3 ((micros % 1000000).toNat % 1000)) ≠ [] := by
    refine List.append_ne_nil_of_left_ne_nil (List.ne_nil_of_length_pos ?_) _
    rw [length_padded (by decide) (by omega)]
    decide
  rw [text, remoteOccurredAt_secondText (by omega) (by omega) (by omega)
    (readFractionZone_digits nonempty digits), fractionMicros_padded fraction]
  congr 1
  omega

/-! ### A clock that keeps both promises -/

/-- The text of a timestamp to the microsecond, without a fraction where there is none. -/
def timestampText (timestamp : Timestamp) : String :=
  if timestamp.val % 1000000000 = 0 then
    String.ofList (secondText (timestamp.val / 86400000000000)
      (timestamp.val / 1000000000 % 86400).toNat ++ ['Z'])
  else toIso8601String (timestamp.val / 1000)

/-- A clock that writes dates in UTC and reads what the client reads. -/
@[reducible] def utcClock : Rfc3339 where
  parse text := (remoteOccurredAt text).bind timestampOf
  format := timestampText

/-- Cut to microseconds, a timestamp stays in range. -/
theorem isSome_timestampOf (timestamp : Timestamp) :
    (timestampOf (timestamp.val / 1000)).isSome = true := by
  obtain ⟨lower, upper⟩ := timestamp.property
  rw [timestampOf, dif_pos ⟨by omega, by omega⟩]
  rfl

theorem utcClock_readsDates : @ReadsDates utcClock := by
  let := utcClock
  refine ⟨fun micros timestamp inRange => ?_, fun timestamp => ?_⟩
  · show (remoteOccurredAt (toIso8601String micros)).bind timestampOf = some timestamp
    rw [remoteOccurredAt_toIso8601String inRange, Option.bind_some, inRange]
  · show remoteOccurredAt (timestampText timestamp) = some (timestamp.val / 1000)
    obtain ⟨lower, upper⟩ := timestamp.property
    unfold timestampText
    split
    · have zone : readFractionZone ['Z'] = some (0, 0) := by decide
      rw [remoteOccurredAt_secondText (by omega) (by omega) (by omega) zone]
      congr 1
      omega
    · obtain ⟨micros, inRange⟩ := Option.isSome_iff_exists.mp (isSome_timestampOf timestamp)
      exact remoteOccurredAt_toIso8601String inRange

end Ledgerly
