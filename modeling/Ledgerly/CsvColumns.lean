/-
This file proves what the reader of bills makes of the columns of an export: the date, the amount
and the texts, each for whatever follows it in the line.

A date is read back. An amount below a thousand yuan is read back; from a thousand yuan on it has a
comma, which `_csvEscape` does not see, and the first group of its digits is read as the amount.
-/

import Ledgerly.LedgerCsv

namespace Ledgerly.Csv

open CivilDate DelimitedText

/-! ### Dates -/

/-- A number padded with zeros is read back. -/
theorem digitsOf_padded {width value : Nat} (positive : 0 < width) (small : value < 10 ^ width)
    (rest : List Char) : digitsOf width (padded width value ++ rest) = some (value, rest) := by
  have length := length_padded positive small
  have taken : (padded width value ++ rest).take width = padded width value :=
    List.take_left' length
  have dropped : (padded width value ++ rest).drop width = rest := List.drop_left' length
  rw [digitsOf, taken, dropped, if_pos length, decimalNat_padded]
  rfl

/-- A sign among the characters, and they are no number. -/
theorem digitsOf_none {count : Nat} {text : List Char} {character : Char}
    (member : character ∈ text.take count) (noDigit : character.isDigit = false) :
    digitsOf count text = none := by
  have notNumber : decimalNat (text.take count) = none := by
    rw [decimalNat, if_neg]
    rintro ⟨-, all⟩
    rw [List.all_eq_true.mp all character member] at noDigit
    cases noDigit
  rw [digitsOf, notNumber]
  split <;> rfl

/-- How many digits a year is written with. -/
def yearWidth (year : Int) : Nat := if -9999 ≤ year ∧ year ≤ 9999 then 4 else 6

theorem yearOf_unsigned {digit : Char} (isDigit : digit.isDigit = true) (count : Nat)
    (rest : List Char) :
    yearOf count (digit :: rest) =
      (digitsOf count (digit :: rest)).map fun (year, rest) => ((year : Int), rest) := by
  unfold yearOf
  split
  · rename_i same
    obtain rfl := (List.cons.inj same).1
    exact absurd isDigit (by decide)
  · rename_i same
    obtain rfl := (List.cons.inj same).1
    exact absurd isDigit (by decide)
  · rfl

/-- A year and its sign are read apart. -/
theorem yearOf_yearText (year : Int) (count : Nat) (rest : List Char) :
    yearOf count (yearText year ++ rest) =
      (digitsOf count (padded (yearWidth year) year.natAbs ++ rest)).map fun (value, rest) =>
        (if year < 0 then -(value : Int) else value, rest) := by
  have unsigned : ∀ width, yearOf count (padded width year.natAbs ++ rest) =
      (digitsOf count (padded width year.natAbs ++ rest)).map fun (value, rest) =>
        ((value : Int), rest) := by
    intro width
    cases digits : padded width year.natAbs with
    | nil =>
      rw [padded] at digits
      exact absurd (List.append_eq_nil_iff.mp digits).2 Nat.toDigits_ne_nil
    | cons digit others =>
      exact yearOf_unsigned (isDigit_of_mem_padded (by rw [digits]; exact List.mem_cons_self)) _ _
  unfold yearText yearWidth
  by_cases short : -9999 ≤ year ∧ year ≤ 9999
  · rw [if_pos short, if_pos short]
    by_cases negative : year < 0
    · simp only [if_pos negative, List.cons_append, List.nil_append]
      rfl
    · simp only [if_neg negative, List.nil_append]
      exact unsigned 4
  · rw [if_neg short, if_neg short]
    by_cases negative : year < 0
    · simp only [if_pos negative, List.cons_append, List.nil_append]
      rfl
    · simp only [if_neg negative, List.cons_append, List.nil_append]
      rfl

/-- A year of at most six digits is read back, by the number of digits it is written with. -/
theorem findSome?_yearText {β : Type*} {year : Int} (lower : -999999 ≤ year) (upper : year ≤ 999999)
    {rest : List Char} {next : Int → List Char → Option β} {found : β}
    (fits : next year ('-' :: rest) = some found) :
    ([6, 5, 4].findSome? fun count =>
      (yearOf count (yearText year ++ '-' :: rest)).bind fun (year, rest) => next year rest) =
        some found := by
  have signed : (if year < 0 then -(year.natAbs : Int) else year.natAbs) = year := by
    split <;> omega
  have width : yearOf (yearWidth year) (yearText year ++ '-' :: rest) = some (year, '-' :: rest) := by
    have small : year.natAbs < 10 ^ yearWidth year := by
      unfold yearWidth
      split <;> omega
    have positive : 0 < yearWidth year := by
      unfold yearWidth
      split <;> decide
    rw [yearOf_yearText, digitsOf_padded positive small, Option.map_some]
    exact congrArg (fun year => some (year, '-' :: rest)) signed
  have longer : ∀ count, yearWidth year = 4 → 4 < count →
      yearOf count (yearText year ++ '-' :: rest) = none := by
    intro count four more
    have small : year.natAbs < 10 ^ 4 := by
      unfold yearWidth at four
      split at four <;> omega
    have length := length_padded (show 0 < 4 by decide) small
    have member : '-' ∈ (padded 4 year.natAbs ++ '-' :: rest).take count := by
      rw [List.mem_take_iff_getElem]
      refine ⟨4, ?_, ?_⟩
      · simp only [List.length_append, List.length_cons]
        omega
      · rw [List.getElem_append_right (by omega)]
        simp [length]
    rw [yearOf_yearText, four, digitsOf_none member (by decide)]
    rfl
  by_cases short : -9999 ≤ year ∧ year ≤ 9999
  · have four : yearWidth year = 4 := if_pos short
    rw [four] at width
    simp only [List.findSome?_cons, longer 6 four (by decide), longer 5 four (by decide), width,
      Option.bind_none, Option.bind_some, fits]
  · have six : yearWidth year = 6 := if_neg short
    rw [six] at width
    simp only [List.findSome?_cons, width, Option.bind_some, fits]

/-- The years of Dart's dates. -/
theorem ofDays_year_short (days : Int) (lower : -100000002 ≤ days) (upper : days ≤ 100000002) :
    -999999 ≤ (ofDays days).year ∧ (ofDays days).year ≤ 999999 := by
  obtain ⟨low, high⟩ := dayOfEra_bounds days
  obtain ⟨yearLower, yearUpper, -⟩ := yearAndDay_spec low high
  simp only [ofDays]
  generalize yearAndDay ((days + 719468) % 146097) = yearDay at *
  have era : -700 ≤ (days + 719468) / 146097 ∧ (days + 719468) / 146097 ≤ 700 := by omega
  constructor <;> split <;> omega

/-- Seconds with a fraction are read to the end. -/
theorem secondsOf_padded {second : Nat} (small : second < 100) {fraction : List Char}
    (nonempty : fraction ≠ []) (digits : ∀ digit ∈ fraction, digit.isDigit = true) :
    secondsOf (':' :: (padded 2 second ++ '.' :: fraction)) =
      (second, fractionMicros fraction, []) := by
  have taken : fraction.takeWhile Char.isDigit = fraction := List.takeWhile_eq_self_iff.mpr digits
  have dropped : fraction.dropWhile Char.isDigit = [] := List.dropWhile_eq_nil_iff.mpr digits
  rw [secondsOf, skip, if_pos rfl, digitsOf_padded (by decide) small]
  dsimp only
  rw [taken, dropped, if_pos ⟨Or.inl rfl, nonempty⟩]

/-- The fields after the year are read back. -/
theorem fieldsAfterYear_eq (year : Int) (month day hour minute second : Nat)
    (monthSmall : month < 100) (daySmall : day < 100) (hourSmall : hour < 100)
    (minuteSmall : minute < 100) (secondSmall : second < 100) {fraction : List Char}
    (nonempty : fraction ≠ []) (digits : ∀ digit ∈ fraction, digit.isDigit = true) :
    fieldsAfterYear year ('-' :: (padded 2 month ++ '-' :: (padded 2 day ++ 'T' ::
      (padded 2 hour ++ ':' :: (padded 2 minute ++ ':' :: (padded 2 second ++ '.' :: fraction)))))) =
        some (timeOf year month day hour minute second (fractionMicros fraction), none) := by
  have readMonth := digitsOf_padded (show 0 < 2 by decide) (show month < 10 ^ 2 from monthSmall)
  have readDay := digitsOf_padded (show 0 < 2 by decide) (show day < 10 ^ 2 from daySmall)
  have readHour := digitsOf_padded (show 0 < 2 by decide) (show hour < 10 ^ 2 from hourSmall)
  have readMinute := digitsOf_padded (show 0 < 2 by decide) (show minute < 10 ^ 2 from minuteSmall)
  simp only [fieldsAfterYear, skip, if_pos, readMonth, readDay, readHour, readMinute,
    Option.bind_eq_bind, Option.bind_some,
    secondsOf_padded secondSmall nonempty digits]
  rfl

/-- The fraction of a second, in three or six digits. -/
theorem fraction_digits (fraction : Nat) (small : fraction < 1000000) :
    (padded 3 (fraction / 1000) ++ if fraction % 1000 = 0 then [] else padded 3 (fraction % 1000)) ≠
        [] ∧
      ∀ digit ∈ padded 3 (fraction / 1000) ++
        if fraction % 1000 = 0 then [] else padded 3 (fraction % 1000), digit.isDigit = true := by
  constructor
  · refine List.append_ne_nil_of_left_ne_nil (List.ne_nil_of_length_pos ?_) _
    rw [length_padded (by decide) (by omega)]
    decide
  · intro digit member
    rcases List.mem_append.mp member with millis | micros
    · exact isDigit_of_mem_padded millis
    · split at micros
      · exact absurd micros List.not_mem_nil
      · exact isDigit_of_mem_padded micros

/-- A local time that is written out is read back. -/
theorem parseFormat_localIso8601String {time : Int} (lower : -8640000172800000000 ≤ time)
    (upper : time ≤ 8640000172800000000) :
    parseFormat (localIso8601String time) = some (time, none) := by
  obtain ⟨monthLower, monthUpper, dayLower, dayUpper⟩ := ofDays_ranges (time / 86400000000)
  obtain ⟨yearLower, yearUpper⟩ :=
    ofDays_year_short (time / 86400000000) (by omega) (by omega)
  have fractionSmall : (time % 1000000).toNat < 1000000 := by omega
  obtain ⟨nonempty, digits⟩ := fraction_digits _ fractionSmall
  have date : firstOfMonth (monthNumber (ofDays (time / 86400000000)).year
      (ofDays (time / 86400000000)).month) + ((ofDays (time / 86400000000)).day - 1) =
        time / 86400000000 := by
    rw [firstOfMonth_monthNumber monthLower monthUpper, ← toDays_day]
    exact toDays_ofDays _
  have read := fieldsAfterYear_eq (ofDays (time / 86400000000)).year
    (ofDays (time / 86400000000)).month.toNat (ofDays (time / 86400000000)).day.toNat
    ((time / 1000000 % 86400).toNat / 3600) ((time / 1000000 % 86400).toNat / 60 % 60)
    ((time / 1000000 % 86400).toNat % 60)
    (by omega) (by omega) (by omega) (by omega) (by omega) nonempty digits
  have itself : timeOf (ofDays (time / 86400000000)).year
      ((ofDays (time / 86400000000)).month.toNat : Nat)
      ((ofDays (time / 86400000000)).day.toNat : Nat)
      (((time / 1000000 % 86400).toNat / 3600 : Nat) : Int)
      (((time / 1000000 % 86400).toNat / 60 % 60 : Nat) : Int)
      (((time / 1000000 % 86400).toNat % 60 : Nat) : Int)
      ((fractionMicros (padded 3 ((time % 1000000).toNat / 1000) ++
        if (time % 1000000).toNat % 1000 = 0 then []
        else padded 3 ((time % 1000000).toNat % 1000)) : Nat) : Int) = time := by
    rw [fractionMicros_padded fractionSmall, timeOf, Int.toNat_of_nonneg (by omega),
      Int.toNat_of_nonneg (by omega), date]
    push_cast
    omega
  rw [itself] at read
  have text : localIso8601String time = yearText (ofDays (time / 86400000000)).year ++ '-' ::
      (padded 2 (ofDays (time / 86400000000)).month.toNat ++ '-' ::
        (padded 2 (ofDays (time / 86400000000)).day.toNat ++ 'T' ::
          (padded 2 ((time / 1000000 % 86400).toNat / 3600) ++ ':' ::
            (padded 2 ((time / 1000000 % 86400).toNat / 60 % 60) ++ ':' ::
              (padded 2 ((time / 1000000 % 86400).toNat % 60) ++ '.' ::
                (padded 3 ((time % 1000000).toNat / 1000) ++
                  if (time % 1000000).toNat % 1000 = 0 then []
                  else padded 3 ((time % 1000000).toNat % 1000))))))) := by
    simp only [localIso8601String, secondText, List.append_assoc, List.cons_append]
  rw [text, parseFormat]
  exact findSome?_yearText yearLower yearUpper read

/-! ### Characters -/

/-- What `dartTrim` removes. -/
def isBlank (character : Char) : Bool := isWhitespace character || character.toNat = 0xFEFF

theorem dartTrim_eq (text : String) : dartTrim text = String.ofList (strip isBlank text.toList) := rfl

theorem dartTrim_ofList (text : List Char) :
    dartTrim (String.ofList text) = String.ofList (strip isBlank text) := by
  rw [dartTrim_eq, String.toList_ofList]

theorem dartTrim_eq_empty_iff {text : String} :
    dartTrim text = "" ↔ ∀ character ∈ text.toList, isBlank character = true := by
  rw [dartTrim_eq, String.ofList_eq_empty_iff, strip_eq_nil_iff]

/-- A character of a date or an amount. -/
def isFigure (character : Char) : Bool :=
  character.isDigit || character = '-' || character = '+' || character = 'T' || character = ':' ||
    character = '.'

theorem isFigure_of_isDigit {character : Char} (digit : character.isDigit = true) :
    isFigure character = true := by
  rw [isFigure, digit]
  rfl

/-- Such a character is no blank and has no part in the format. -/
theorem isFigure_spec {character : Char} (figure : isFigure character = true) :
    isBlank character = false ∧ isSpecial character = false ∧ character ≠ '/' ∧
      character ≠ '(' ∧ character ≠ '¥' ∧ character ≠ '￥' ∧ character ≠ ' ' := by
  by_cases digit : character.isDigit = true
  · have code : 48 ≤ character.toNat ∧ character.toNat ≤ 57 := by
      rw [Char.isDigit, Bool.and_eq_true, decide_eq_true_iff, decide_eq_true_iff] at digit
      exact ⟨UInt32.le_iff_toNat_le.mp digit.1, UInt32.le_iff_toNat_le.mp digit.2⟩
    have differs : ∀ other : Char, ¬(48 ≤ other.toNat ∧ other.toNat ≤ 57) → character ≠ other := by
      rintro other outside rfl
      exact outside code
    refine ⟨?_, ?_, differs _ (by decide), differs _ (by decide), differs _ (by decide),
      differs _ (by decide), differs _ (by decide)⟩
    · simp only [isBlank, isWhitespace, Bool.or_eq_false_iff, Bool.and_eq_false_iff,
        decide_eq_false_iff_not]
      omega
    · rw [isSpecial, decide_eq_false (differs ',' (by decide)),
        decide_eq_false (differs '"' (by decide)), decide_eq_false (differs '\n' (by decide)),
        decide_eq_false (differs '\r' (by decide))]
      rfl
  · rw [Bool.not_eq_true] at digit
    simp only [isFigure, digit, Bool.false_or, Bool.or_eq_true, decide_eq_true_iff] at figure
    rcases figure with (((rfl | rfl) | rfl) | rfl) | rfl <;> decide

theorem isBreak_eq_false {character : Char} (ordinary : isSpecial character = false) :
    isBreak '\r' '\n' character = false := by
  simp only [isSpecial, Bool.or_eq_false_iff, decide_eq_false_iff_not] at ordinary
  rw [isBreak, decide_eq_false ordinary.2, decide_eq_false ordinary.1.2]
  rfl

theorem strip_figures {text : List Char} (figures : ∀ character ∈ text, isFigure character = true) :
    strip isBlank text = text :=
  strip_of_sharp fun character member => (isFigure_spec (figures character member)).1

theorem padded_figures {width value : Nat} :
    ∀ character ∈ padded width value, isFigure character = true := fun _ member =>
  isFigure_of_isDigit (isDigit_of_mem_padded member)

theorem yearText_figures (year : Int) :
    ∀ character ∈ yearText year, isFigure character = true := by
  intro character member
  unfold yearText at member
  split at member
  · rcases List.mem_append.mp member with sign | digit
    · split at sign
      · rw [List.mem_singleton.mp sign]
        rfl
      · cases sign
    · exact padded_figures _ digit
  · rcases List.mem_append.mp member with sign | digit
    · split at sign <;>
        · rw [List.mem_singleton.mp sign]
          rfl
    · exact padded_figures _ digit

/-- A date has no other characters. -/
theorem localIso8601String_figures (time : Int) :
    ∀ character ∈ localIso8601String time, isFigure character = true := by
  have fraction := fraction_digits (time % 1000000).toNat (by omega)
  have joined : ∀ {first second : List Char} {mark : Char},
      (∀ character ∈ first, isFigure character = true) → isFigure mark = true →
        (∀ character ∈ second, isFigure character = true) →
          ∀ character ∈ first ++ mark :: second, isFigure character = true := by
    intro first second mark left middle right character member
    rcases List.mem_append.mp member with inFirst | later
    · exact left character inFirst
    · rcases List.mem_cons.mp later with rfl | inSecond
      · exact middle
      · exact right character inSecond
  rw [localIso8601String, secondText]
  exact joined (joined (joined (joined (joined (joined (yearText_figures _) rfl padded_figures) rfl
    padded_figures) rfl padded_figures) rfl padded_figures) rfl padded_figures) rfl
      fun digit member => isFigure_of_isDigit (fraction.2 digit member)

/-! ### The date -/

section Date

variable [LocalZone]

/-- The date of an export is read back. -/
theorem parseImportDate_localIso8601String (time : DateTime) :
    parseImportDate (String.ofList (localIso8601String (LocalZone.toLocal time))) =
      LocalZone.ofLocal (LocalZone.toLocal time) := by
  have figures := localIso8601String_figures (LocalZone.toLocal time)
  have near := LocalZone.near time
  have range := time.inRange
  have read : parseFormat (localIso8601String (LocalZone.toLocal time)) =
      some (LocalZone.toLocal time, none) :=
    parseFormat_localIso8601String (by omega) (by omega)
  have slashes : (localIso8601String (LocalZone.toLocal time)).map (fun character =>
      if character = '/' then '-' else character) = localIso8601String (LocalZone.toLocal time) := by
    rw [List.map_congr_left fun character member =>
      if_neg (isFigure_spec (figures character member)).2.2.1, List.map_id']
  have hasTime : 'T' ∈ localIso8601String (LocalZone.toLocal time) := by
    simp [localIso8601String, secondText]
  have nonempty : localIso8601String (LocalZone.toLocal time) ≠ [] := List.ne_nil_of_mem hasTime
  obtain ⟨again, same, -⟩ := LocalZone.ofLocal_toLocal time
  rw [parseImportDate, dartTrim_ofList, strip_figures figures, String.toList_ofList, slashes]
  simp only [if_neg nonempty, if_pos hasTime, tryParse, read, same]

end Date

/-! ### The amount -/

/-- Up to three digits stand together. -/
theorem groupThousands_short {digits : List Char} (short : digits.length ≤ 3) :
    groupThousands digits = digits := by
  match digits, short with
  | [], _ => rfl
  | [_], _ => rfl
  | [_, _], _ => rfl
  | [_, _, _], _ => rfl

/-- From four digits on, a comma follows the first group. -/
theorem groupThousands_long {digits : List Char} (long : 3 < digits.length) :
    ∃ first rest, digits = first ++ rest ∧ first ≠ [] ∧ 3 ≤ rest.length ∧
      groupThousands digits = first ++ ',' :: groupThousands rest := by
  induction digits with
  | nil => exact absurd long (by decide)
  | cons digit digits inductionHypothesis =>
    rw [List.length_cons] at long
    by_cases here : digits.length % 3 = 0
    · refine ⟨[digit], digits, rfl, by simp, by omega, ?_⟩
      rw [groupThousands, if_pos ⟨List.ne_nil_of_length_pos (by omega), here⟩]
      rfl
    · obtain ⟨first, rest, split, -, enough, grouped⟩ := inductionHypothesis (by omega)
      refine ⟨digit :: first, rest, by rw [split]; rfl, by simp, enough, ?_⟩
      rw [groupThousands, if_neg fun both => here both.2, grouped]
      rfl

theorem mem_groupThousands {digits : List Char} {character : Char}
    (member : character ∈ groupThousands digits) : character ∈ digits ∨ character = ',' := by
  induction digits with
  | nil => cases member
  | cons digit digits inductionHypothesis =>
    unfold groupThousands at member
    split at member
    · rcases List.mem_cons.mp member with rfl | later
      · exact Or.inl List.mem_cons_self
      · rcases List.mem_cons.mp later with rfl | rest
        · exact Or.inr rfl
        · exact (inductionHypothesis rest).imp_left (List.mem_cons_of_mem digit)
    · rcases List.mem_cons.mp member with rfl | rest
      · exact Or.inl List.mem_cons_self
      · exact (inductionHypothesis rest).imp_left (List.mem_cons_of_mem digit)

/-- An amount is made of figures and commas. -/
theorem mem_formatDisplayMinor {amount : Int} {character : Char}
    (member : character ∈ formatDisplayMinor amount false) :
    isFigure character = true ∨ character = ',' := by
  rw [formatDisplayMinor, if_neg Bool.false_ne_true, List.append_nil] at member
  rcases List.mem_append.mp member with sign | unsigned
  · split at sign
    · rw [List.mem_singleton.mp sign]
      exact Or.inl rfl
    · cases sign
  · rcases List.mem_append.mp unsigned with yuan | cents
    · exact (mem_groupThousands yuan).imp_left fun digit =>
        isFigure_of_isDigit (Nat.isDigit_of_mem_toDigits (by decide) (by decide) digit)
    · rcases List.mem_cons.mp cents with rfl | digit
      · exact Or.inl rfl
      · exact Or.inl (padded_figures _ digit)

/-- The characters that `parseImportAmountMinor` keeps. -/
def isKept (character : Char) : Bool :=
  character ≠ ',' ∧ character ≠ ' ' ∧ character ≠ '¥' ∧ character ≠ '￥' ∧ character ≠ '+'

/-- The digits at the beginning of a text end where no digit follows. -/
theorem takeWhile_digits {digits tail : List Char}
    (all : ∀ character ∈ digits, character.isDigit = true)
    (ends : ∀ first ∈ tail.head?, first.isDigit = false) :
    (digits ++ tail).takeWhile Char.isDigit = digits ∧
      (digits ++ tail).dropWhile Char.isDigit = tail := by
  rw [List.takeWhile_append_of_pos all, List.dropWhile_append_of_pos all]
  cases tail with
  | nil => exact ⟨List.append_nil _, rfl⟩
  | cons first others =>
    have noDigit : ¬first.isDigit = true := by
      rw [ends first rfl]
      decide
    rw [List.takeWhile_cons_of_neg noDigit, List.dropWhile_cons_of_neg noDigit, List.append_nil]
    exact ⟨rfl, rfl⟩

/-- The digits of a number. -/
theorem digits_of_decimalNat {digits : List Char} {value : Nat}
    (read : decimalNat digits = some value) :
    digits ≠ [] ∧ ∀ character ∈ digits, character.isDigit = true := by
  by_cases number : digits ≠ [] ∧ digits.all Char.isDigit = true
  · exact ⟨number.1, List.all_eq_true.mp number.2⟩
  · rw [decimalNat, if_neg number] at read
    cases read

/-- A text that comes down to perhaps a sign, the yuan and the cents is read as this amount, unless
it is zero. -/
theorem parseImportAmountMinor_kept {text digits tail : List Char} {negative : Bool}
    {yuan cents : Nat}
    (kept : (strip isBlank text).filter isKept =
      (if negative then ['-'] else []) ++ (digits ++ tail))
    (readYuan : decimalNat digits = some yuan) (readCents : centsOf tail = some cents)
    (ends : ∀ first ∈ tail.head?, first.isDigit = false) :
    parseImportAmountMinor (String.ofList text) =
      if yuan * 100 + cents = 0 then none
      else some (if negative then -((yuan * 100 + cents : Nat) : Int) else
        ((yuan * 100 + cents : Nat) : Int)) := by
  obtain ⟨nonempty, all⟩ := digits_of_decimalNat readYuan
  obtain ⟨taken, dropped⟩ := takeWhile_digits all ends
  have first : ∀ other : Char, other.isDigit = false → (digits ++ tail).head? ≠ some other := by
    intro other noDigit isFirst
    cases digits with
    | nil => exact nonempty rfl
    | cons digit digits =>
      obtain rfl := Option.some.inj isFirst
      rw [all digit List.mem_cons_self] at noDigit
      cases noDigit
  have zero : (yuan : Int) * 100 + cents = 0 ↔ yuan * 100 + cents = 0 := by omega
  have filtered : ((strip isBlank text).filter fun character => decide (character ≠ ',' ∧
      character ≠ ' ' ∧ character ≠ '¥' ∧ character ≠ '￥' ∧ character ≠ '+')) =
        (if negative then ['-'] else []) ++ (digits ++ tail) := kept
  unfold parseImportAmountMinor
  rw [dartTrim_ofList, String.toList_ofList, filtered]
  cases negative with
  | true =>
    have noParentheses : ¬(some '-' = some '(' ∧ ('-' :: (digits ++ tail)).getLast? = some ')') :=
      fun both => absurd both.1 (by decide)
    have rest : ('-' :: (digits ++ tail)).drop 1 = digits ++ tail := rfl
    simp only [if_true, List.singleton_append, List.head?_cons, if_neg noParentheses, rest, taken,
      dropped, readYuan, readCents, zero]
    push_cast
    rfl
  | false =>
    have noParentheses : ¬((digits ++ tail).head? = some '(' ∧
        (digits ++ tail).getLast? = some ')') := fun both => first '(' (by decide) both.1
    have notNegative : ¬(digits ++ tail).head? = some '-' := first '-' (by decide)
    simp only [if_neg Bool.false_ne_true, List.nil_append, if_neg noParentheses, notNegative,
      if_false, taken, dropped, readYuan, readCents, zero]
    push_cast
    rfl

/-- Digits and what follows them are read as an amount. -/
theorem parseImportAmountMinor_digits {digits tail : List Char} {yuan cents : Nat}
    (readYuan : decimalNat digits = some yuan) (readCents : centsOf tail = some cents)
    (tailFigures : ∀ character ∈ tail, character.isDigit = true ∨ character = '.')
    (ends : ∀ first ∈ tail.head?, first.isDigit = false) (positive : yuan * 100 + cents ≠ 0) :
    parseImportAmountMinor (String.ofList (digits ++ tail)) =
      some ((yuan * 100 + cents : Nat) : Int) := by
  have characters : ∀ character ∈ digits ++ tail,
      character.isDigit = true ∨ character = '.' := by
    intro character member
    rcases List.mem_append.mp member with digit | later
    · exact Or.inl ((digits_of_decimalNat readYuan).2 character digit)
    · exact tailFigures character later
  have figures : ∀ character ∈ digits ++ tail, isFigure character = true := by
    intro character member
    rcases characters character member with digit | rfl
    · exact isFigure_of_isDigit digit
    · rfl
  have differs : ∀ other : Char, other.isDigit = false → other ≠ '.' → ∀ character ∈ digits ++ tail,
      character ≠ other := by
    rintro other noDigit noPoint character member rfl
    rcases characters character member with digit | point
    · rw [digit] at noDigit
      cases noDigit
    · exact noPoint point
  have kept : (strip isBlank (digits ++ tail)).filter isKept = digits ++ tail := by
    rw [strip_figures figures]
    refine List.filter_eq_self.mpr fun character member => decide_eq_true ⟨?_, ?_, ?_, ?_, ?_⟩
    · exact differs ',' (by decide) (by decide) character member
    · exact differs ' ' (by decide) (by decide) character member
    · exact differs '¥' (by decide) (by decide) character member
    · exact differs '￥' (by decide) (by decide) character member
    · exact differs '+' (by decide) (by decide) character member
  have read := @parseImportAmountMinor_kept _ _ _ false _ _ kept readYuan readCents ends
  rw [read, if_neg positive]
  rfl

/-- An amount of less than a thousand yuan is written without a comma. -/
theorem formatDisplayMinor_small {amount : Int} (positive : 0 < amount) (small : amount < 100000) :
    formatDisplayMinor amount false =
      Nat.toDigits 10 (amount.natAbs / 100) ++ '.' :: padded 2 (amount.natAbs % 100) := by
  have short : (Nat.toDigits 10 (amount.natAbs / 100)).length ≤ 3 :=
    Nat.toDigits_length 10 (amount.natAbs / 100) 3 (by decide) (by omega)
  rw [formatDisplayMinor, if_neg (by omega), if_neg Bool.false_ne_true, groupThousands_short short]
  rfl

/-- An amount of less than a thousand yuan is read back. -/
theorem parseImportAmountMinor_small {amount : Int} (positive : 0 < amount)
    (small : amount < 100000) :
    parseImportAmountMinor (String.ofList (formatDisplayMinor amount false)) = some amount := by
  have length := length_padded (show 0 < 2 by decide) (show amount.natAbs % 100 < 10 ^ 2 by omega)
  have cents : centsOf ('.' :: padded 2 (amount.natAbs % 100)) = some (amount.natAbs % 100) := by
    rw [centsOf, length, if_pos (Or.inr rfl), List.replicate_zero, List.append_nil,
      decimalNat_padded]
  rw [formatDisplayMinor_small positive small,
    parseImportAmountMinor_digits (decimalNat_toDigits _) cents]
  · congr 1
    omega
  · intro character member
    rcases List.mem_cons.mp member with rfl | digit
    · exact Or.inr rfl
    · exact Or.inl (isDigit_of_mem_padded digit)
  · intro first isFirst
    obtain rfl := Option.some.inj isFirst
    decide
  · omega

/-- From a thousand yuan on, the amount goes on after a comma, and what stands before the comma is
read as a smaller one. -/
theorem parseImportAmountMinor_large {amount : Int} (large : 100000 ≤ amount) :
    ∃ first rest read, formatDisplayMinor amount false = first ++ ',' :: rest ∧
      (∀ character ∈ first, character.isDigit = true) ∧
      parseImportAmountMinor (String.ofList first) = some read ∧ 0 < read ∧ read < amount := by
  have whole : 10 ^ 3 ≤ amount.natAbs / 100 := by omega
  have long : 3 < (Nat.toDigits 10 (amount.natAbs / 100)).length := by
    by_contra short
    have bound := (Nat.length_toDigits_le_iff (by decide) (by decide)).mp (not_lt.mp short)
    omega
  obtain ⟨first, rest, split, nonempty, enough, grouped⟩ := groupThousands_long long
  have digits : ∀ digit ∈ first ++ rest, digit.isDigit = true := by
    rw [← split]
    exact fun digit member => Nat.isDigit_of_mem_toDigits (by decide) (by decide) member
  have firstDigits : ∀ digit ∈ first, digit.isDigit = true := fun digit member =>
    digits digit (List.mem_append_left _ member)
  have restSmall := ofDigitChars_lt
    (fun digit member => digits digit (List.mem_append_right first member)) 0
  have value : amount.natAbs / 100 = 10 ^ rest.length * Nat.ofDigitChars 10 first 0 +
      Nat.ofDigitChars 10 rest 0 := by
    rw [← Nat.ofDigitChars_eq_ofDigitChars_zero, ← Nat.ofDigitChars_append, ← split,
      Nat.ofDigitChars_toDigits (by decide) (by decide)]
  have leading : 0 < Nat.ofDigitChars 10 first 0 := by
    -- the number has more digits than those of the rest
    by_contra none
    rw [Nat.eq_zero_of_not_pos none, Nat.mul_zero, Nat.zero_add] at value
    have few : amount.natAbs / 100 < 10 ^ rest.length := by omega
    have fewer := (Nat.length_toDigits_le_iff (by decide) (by omega)).mpr few
    have more := List.length_pos_iff.mpr nonempty
    rw [split, List.length_append] at fewer
    omega
  have thousand : 10 ^ 3 ≤ 10 ^ rest.length := Nat.pow_le_pow_right (by decide) enough
  have thousandfold := Nat.mul_le_mul_right (Nat.ofDigitChars 10 first 0) thousand
  have readFirst : decimalNat first = some (Nat.ofDigitChars 10 first 0) :=
    if_pos ⟨nonempty, List.all_eq_true.mpr firstDigits⟩
  have read := parseImportAmountMinor_digits readFirst (show centsOf [] = some 0 from rfl)
    (fun _ member => absurd member List.not_mem_nil) (fun _ isFirst => by cases isFirst) (by omega)
  rw [List.append_nil] at read
  refine ⟨first, groupThousands rest ++ '.' :: padded 2 (amount.natAbs % 100), _, ?_, firstDigits,
    read, by omega, by omega⟩
  rw [formatDisplayMinor, if_neg (by omega), if_neg Bool.false_ne_true, grouped]
  simp

theorem ordinary_of_isSpecial {character : Char} (ordinary : isSpecial character = false) :
    character ≠ '"' ∧ character ≠ ',' := by
  constructor
  · rintro rfl
    cases ordinary
  · rintro rfl
    cases ordinary

/-- A figure is read as it stands. -/
theorem figure_ordinary {character : Char} (figure : isFigure character = true) :
    character ≠ '"' ∧ character ≠ ',' :=
  ordinary_of_isSpecial (isFigure_spec figure).2.1

/-- The column that is read as the amount: the whole amount below a thousand yuan, with the other
columns in their places, and the first group of its digits above. -/
theorem exists_amountColumn {amount : Int} (positive : 0 < amount) (rest : List Char) :
    ∃ column others read,
      scanFields '"' ',' false [] (formatDisplayMinor amount false ++ ',' :: rest) =
          column :: others ∧
        (∀ character ∈ column, isFigure character = true) ∧
        parseImportAmountMinor (String.ofList column) = some read ∧ 0 < read ∧
        (amount < 100000 → read = amount ∧ others = scanFields '"' ',' false [] rest) ∧
        (100000 ≤ amount → read < amount) := by
  by_cases small : amount < 100000
  · have figures : ∀ character ∈ formatDisplayMinor amount false, isFigure character = true := by
      rw [formatDisplayMinor_small positive small]
      intro character member
      rcases List.mem_append.mp member with digit | cents
      · exact isFigure_of_isDigit (Nat.isDigit_of_mem_toDigits (by decide) (by decide) digit)
      · rcases List.mem_cons.mp cents with rfl | digit
        · rfl
        · exact padded_figures _ digit
    refine ⟨_, _, amount, ?_, figures, parseImportAmountMinor_small positive small, positive,
      fun _ => ⟨rfl, rfl⟩, fun large => absurd small (by omega)⟩
    rw [scanFields_plain fun character member => figure_ordinary (figures character member),
      List.nil_append, scanFields_delimiter (by decide)]
  · obtain ⟨first, tail, read, text, digits, reads, readPositive, less⟩ :=
      parseImportAmountMinor_large (not_lt.mp small)
    have figures : ∀ character ∈ first, isFigure character = true := fun character member =>
      isFigure_of_isDigit (digits character member)
    refine ⟨first, scanFields '"' ',' false [] (tail ++ ',' :: rest), read, ?_, figures, reads,
      readPositive, fun isSmall => absurd isSmall small, fun _ => less⟩
    rw [text, List.append_assoc, List.cons_append,
      scanFields_plain fun character member => figure_ordinary (figures character member),
      List.nil_append, scanFields_delimiter (by decide)]

/-! ### The texts -/

/-- A text up to its first line break. -/
def upToBreak (text : String) : List Char :=
  text.toList.takeWhile fun character => !isBreak '\r' '\n' character

/-- A text goes over several lines. -/
def hasBreak (text : String) : Bool := text.toList.any (isBreak '\r' '\n')

theorem isSpecial_of_isBreak {character : Char} (isEnd : isBreak '\r' '\n' character = true) :
    isSpecial character = true := by
  rw [isBreak, Bool.or_eq_true, decide_eq_true_iff, decide_eq_true_iff] at isEnd
  rcases isEnd with rfl | rfl <;> rfl

theorem upToBreak_of_whole {text : String} (whole : hasBreak text = false) :
    upToBreak text = text.toList := by
  refine List.takeWhile_eq_self_iff.mpr fun character member => ?_
  rw [Bool.not_eq_true']
  exact Bool.eq_false_iff.mpr fun isEnd =>
    Bool.false_ne_true (whole.symm.trans (List.any_eq_true.mpr ⟨character, member, isEnd⟩))

/-- A text on one line is written on one line. -/
theorem csvEscape_whole {text : String} (whole : hasBreak text = false) :
    ∀ character ∈ csvEscape text, (!isBreak '\r' '\n' character) = true := by
  intro character member
  have inside : isBreak '\r' '\n' character = false :=
    escapeField_noEnd (by decide) whole character member
  rw [inside]
  rfl

/-- A text on the first line of its row: it is read up to its line break, if it has one, and then
the columns end. -/
theorem scanFields_text (text : String) (rest : List Char) :
    scanFields '"' ',' false []
        ((csvEscape text ++ ',' :: rest).takeWhile fun character => !isBreak '\r' '\n' character) =
      upToBreak text ::
        if hasBreak text then []
        else scanFields '"' ',' false []
          (rest.takeWhile fun character => !isBreak '\r' '\n' character) := by
  cases broken : hasBreak text with
  | true =>
    rw [csvEscape, takeWhile_escapeField (by decide) (fun _ => isSpecial_of_isBreak) broken,
      scanFields_cut]
    rfl
  | false =>
    have inside := csvEscape_whole broken
    rw [List.takeWhile_append_of_pos inside, takeWhile_inside rfl, csvEscape,
      scanFields_escapeField rfl rfl _ (by simp), scanFields_delimiter (by decide),
      if_neg Bool.false_ne_true, upToBreak_of_whole broken]

/-- The last text of a row. -/
theorem scanFields_lastText (text : String) :
    scanFields '"' ',' false []
        ((csvEscape text).takeWhile fun character => !isBreak '\r' '\n' character) =
      [upToBreak text] := by
  cases broken : hasBreak text with
  | true =>
    have cut : (csvEscape text ++ []).takeWhile (fun character => !isBreak '\r' '\n' character) =
        '"' :: doubleQuotes '"' (upToBreak text) :=
      takeWhile_escapeField (by decide) (fun _ => isSpecial_of_isBreak) broken []
    rw [List.append_nil] at cut
    rw [cut, scanFields_cut]
  | false =>
    have read : scanFields '"' ',' false [] (csvEscape text ++ []) =
        scanFields '"' ',' false text.toList [] :=
      scanFields_escapeField rfl rfl text.toList (by simp)
    rw [List.append_nil] at read
    rw [List.takeWhile_eq_self_iff.mpr (csvEscape_whole broken), read,
      upToBreak_of_whole broken]
    rfl

/-! ### The line -/

theorem isBlank_ordinary {character : Char} (blank : isBlank character = true) :
    character ≠ '"' ∧ character ≠ ',' := by
  constructor
  · rintro rfl
    exact absurd blank (by decide)
  · rintro rfl
    exact absurd blank (by decide)

theorem exists_blanks_of_sharp {first : Char} {rest : List Char} (sharp : isBlank first = false) :
    ∃ blanks, (∀ item ∈ blanks, isBlank item = true) ∧
      first :: rest = strip isBlank (first :: rest) ++ blanks := by
  refine exists_blanks (first :: rest) fun item isFirst => ?_
  obtain rfl := Option.some.inj isFirst
  exact sharp

/-- Trimming a line makes no difference to its fields, which are trimmed themselves. -/
theorem splitCsvLine_dartTrim {first : Char} {rest : List Char} (sharp : isBlank first = false) :
    splitCsvLine (dartTrim (String.ofList (first :: rest))) ',' =
      (scanFields '"' ',' false [] (first :: rest)).map fun field =>
        dartTrim (String.ofList field) := by
  obtain ⟨blanks, areBlank, split⟩ := exists_blanks_of_sharp sharp
  obtain ⟨fields, last, short, long⟩ := exists_last_field '"' ','
    (fun item member => isBlank_ordinary (areBlank item member)) false []
      (strip isBlank (first :: rest))
  rw [← split] at long
  rw [dartTrim_ofList, splitCsvLine, String.toList_ofList, short, long, List.map_append,
    List.map_append, List.map_singleton, List.map_singleton, dartTrim_ofList, dartTrim_ofList,
    strip_append_blanks last areBlank]

/-! ### A row of texts -/

/-- The texts of a row are read one after another. -/
theorem scanFields_row (first : String) (texts : List String) :
    scanFields '"' ',' false [] (List.intercalate [','] ((first :: texts).map csvEscape)) =
      (first :: texts).map String.toList := by
  induction texts generalizing first with
  | nil =>
    have read : scanFields '"' ',' false [] (csvEscape first ++ []) =
        scanFields '"' ',' false first.toList [] :=
      scanFields_escapeField rfl rfl first.toList (by simp)
    rw [List.append_nil] at read
    rw [List.map_singleton, List.intercalate_singleton, read]
    rfl
  | cons second texts inductionHypothesis =>
    rw [List.map_cons, List.map_cons, List.intercalate_cons_cons, List.append_assoc, csvEscape,
      scanFields_escapeField rfl rfl _ (by simp), List.singleton_append,
      scanFields_delimiter (by decide), ← List.map_cons (f := csvEscape), inductionHypothesis]
    rfl

/-- Texts that are trimmed come back from their row, whatever quotation marks and commas they
have. -/
theorem splitCsvLine_row {texts : List String} (nonempty : texts ≠ [])
    (trimmed : ∀ text ∈ texts, dartTrim text = text) :
    splitCsvLine (String.ofList (List.intercalate [','] (texts.map csvEscape))) ',' = texts := by
  obtain ⟨first, others, rfl⟩ := List.exists_cons_of_ne_nil nonempty
  rw [splitCsvLine, String.toList_ofList, scanFields_row, List.map_map]
  conv_rhs => rw [← List.map_id (first :: others)]
  refine List.map_congr_left fun text member => ?_
  rw [Function.comp_apply, String.ofList_toList, trimmed text member]
  rfl

theorem splitCsvLine_row_quoted :
    splitCsvLine (String.ofList (List.intercalate [',']
      (["", "\"Tea\", 2 cups", "a\"\",", "plain"].map csvEscape))) ',' =
        ["", "\"Tea\", 2 cups", "a\"\",", "plain"] :=
  splitCsvLine_row (by decide) (by decide +kernel)

end Ledgerly.Csv
