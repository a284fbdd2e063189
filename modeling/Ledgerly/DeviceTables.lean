/-
This file models the tables of the client that a backup holds, the rows that are written of them,
and the readers that a restore has for these rows: a row comes back as it was written, to the
second or the millisecond that its columns keep.
-/

import Ledgerly.AttachmentCloud
import Ledgerly.CsvColumns
import Ledgerly.MerchantRules
import Ledgerly.PlainArchive
import Ledgerly.Library.KeyedTable
import Ledgerly.Library.Numerals

namespace Ledgerly

open Csv CivilDate DelimitedText Numerals
open Except (chained)

/-! ### Dates of columns -/

namespace Csv

/-- Seconds with a fraction, before a zone. -/
theorem secondsOf_utc {second : Nat} (small : second < 100) {fraction : List Char}
    (nonempty : fraction ≠ []) (digits : ∀ digit ∈ fraction, digit.isDigit = true) :
    secondsOf (':' :: (padded 2 second ++ '.' :: (fraction ++ ['Z']))) =
      (second, fractionMicros fraction, ['Z']) := by
  have taken : (fraction ++ ['Z']).takeWhile Char.isDigit = fraction := by
    rw [List.takeWhile_append_of_pos digits]
    simp
  have dropped : (fraction ++ ['Z']).dropWhile Char.isDigit = ['Z'] := by
    rw [List.dropWhile_append_of_pos digits]
    rfl
  rw [secondsOf, skip, if_pos rfl, digitsOf_padded (by decide) small]
  dsimp only
  rw [taken, dropped, if_pos ⟨Or.inl rfl, nonempty⟩]

theorem fieldsAfterYear_utc (year : Int) (month day hour minute second : Nat)
    (monthSmall : month < 100) (daySmall : day < 100) (hourSmall : hour < 100)
    (minuteSmall : minute < 100) (secondSmall : second < 100) {fraction : List Char}
    (nonempty : fraction ≠ []) (digits : ∀ digit ∈ fraction, digit.isDigit = true) :
    fieldsAfterYear year ('-' :: (padded 2 month ++ '-' :: (padded 2 day ++ 'T' ::
      (padded 2 hour ++ ':' :: (padded 2 minute ++ ':' :: (padded 2 second ++ '.' ::
        (fraction ++ ['Z']))))))) =
          some (timeOf year month day hour minute second (fractionMicros fraction), some 0) := by
  have readMonth := digitsOf_padded (show 0 < 2 by decide) (show month < 10 ^ 2 from monthSmall)
  have readDay := digitsOf_padded (show 0 < 2 by decide) (show day < 10 ^ 2 from daySmall)
  have readHour := digitsOf_padded (show 0 < 2 by decide) (show hour < 10 ^ 2 from hourSmall)
  have readMinute := digitsOf_padded (show 0 < 2 by decide) (show minute < 10 ^ 2 from minuteSmall)
  simp only [fieldsAfterYear, skip, if_pos, readMonth, readDay, readHour, readMinute,
    Option.bind_eq_bind, Option.bind_some, secondsOf_utc secondSmall nonempty digits]
  rfl

/-- A time in UTC that is written out is read back. -/
theorem parseFormat_toIso8601String {time : Int} (lower : -8640000172800000000 ≤ time)
    (upper : time ≤ 8640000172800000000) :
    parseFormat (toIso8601String time).toList = some (time, some 0) := by
  obtain ⟨monthLower, monthUpper, dayLower, dayUpper⟩ := ofDays_ranges (time / 86400000000)
  obtain ⟨yearLower, yearUpper⟩ :=
    ofDays_year_short (time / 86400000000) (by omega) (by omega)
  obtain ⟨nonempty, digits⟩ := fraction_digits (time % 1000000).toNat (by omega)
  have inLocal := fieldsAfterYear_eq (ofDays (time / 86400000000)).year
    (ofDays (time / 86400000000)).month.toNat (ofDays (time / 86400000000)).day.toNat
    ((time / 1000000 % 86400).toNat / 3600) ((time / 1000000 % 86400).toNat / 60 % 60)
    ((time / 1000000 % 86400).toNat % 60)
    (by omega) (by omega) (by omega) (by omega) (by omega) nonempty digits
  have inUtc := fieldsAfterYear_utc (ofDays (time / 86400000000)).year
    (ofDays (time / 86400000000)).month.toNat (ofDays (time / 86400000000)).day.toNat
    ((time / 1000000 % 86400).toNat / 3600) ((time / 1000000 % 86400).toNat / 60 % 60)
    ((time / 1000000 % 86400).toNat % 60)
    (by omega) (by omega) (by omega) (by omega) (by omega) nonempty digits
  -- The same fields without the zone are those of the local time.
  have found := findSome?_yearText yearLower yearUpper inLocal
  have asLocal := parseFormat_localIso8601String lower upper
  simp only [localIso8601String, secondText, List.append_assoc, List.cons_append] at asLocal
  rw [parseFormat] at asLocal
  have itself := (Prod.mk.inj (Option.some.inj (found.symm.trans asLocal))).1
  rw [itself] at inUtc
  have again := findSome?_yearText yearLower yearUpper inUtc
  rw [toIso8601String, String.toList_ofList, parseFormat]
  simp only [secondText, List.append_assoc, List.cons_append] at again ⊢
  exact again

/-- `DateTime.parse` of what `toIso8601String` writes of a date in UTC. -/
theorem tryParse_toIso8601String [LocalZone] (date : DateTime) :
    tryParse (toIso8601String date.micros).toList = some date := by
  obtain ⟨lower, upper⟩ := date.inRange
  rw [tryParse, parseFormat_toIso8601String (by omega) (by omega)]
  show DateTime.ofMicros (date.micros - 0 * 60000000) = some date
  rw [Int.zero_mul, Int.sub_zero, DateTime.ofMicros, dif_pos date.inRange]

end Csv

namespace Tables

/-- A column of dates that keeps whole units, given in microseconds. -/
structure DateColumn (unit : Int) where
  value : Int
  inRange : -8640000000000000000 ≤ value * unit ∧ value * unit ≤ 8640000000000000000

/-- The columns of drift: `millisecondsSinceEpoch ~/ 1000`. -/
abbrev Seconds := DateColumn 1000000

/-- The columns of the other tables: `millisecondsSinceEpoch`. -/
abbrev Milliseconds := DateColumn 1000

namespace DateColumn

variable {unit : Int}

/-- The date that is read of the column. -/
def date (column : DateColumn unit) : Csv.DateTime := ⟨column.value * unit, column.inRange⟩

theorem tdiv_mul_inRange {micros : Int} (unit : Int)
    (inRange : -8640000000000000000 ≤ micros ∧ micros ≤ 8640000000000000000) :
    -8640000000000000000 ≤ micros.tdiv unit * unit ∧
      micros.tdiv unit * unit ≤ 8640000000000000000 := by
  have short : (micros.tdiv unit * unit).natAbs ≤ micros.natAbs := by
    rw [Int.natAbs_mul, Int.natAbs_tdiv]
    exact Nat.div_mul_le_self _ _
  omega

/-- The column that a date is stored in. -/
def store (unit : Int) (date : Csv.DateTime) : DateColumn unit :=
  ⟨date.micros.tdiv unit, tdiv_mul_inRange unit date.inRange⟩

theorem store_date (nonzero : unit ≠ 0) (column : DateColumn unit) :
    store unit column.date = column := by
  obtain ⟨value, inRange⟩ := column
  have same : (value * unit).tdiv unit = value := Int.mul_tdiv_cancel value nonzero
  simp only [store, date, same]

end DateColumn

/-! ### Fields of a row -/

/-- `raw[key] as String`. -/
def textOf (raw : BackupRow) (key : String) : Except BackupError String := do
  required (← stringField raw key) "TypeError"

/-- `DateTime.parse(raw[key] as String)`. -/
def dateOf [LocalZone] (raw : BackupRow) (key : String) : Except BackupError Csv.DateTime := do
  required (tryParse (← textOf raw key).toList) "FormatException"

/-- `_parseNullableDate(raw[key] as String?)`. -/
def nullableDateOf [LocalZone] (raw : BackupRow) (key : String) :
    Except BackupError (Option Csv.DateTime) := do
  match ← stringField raw key with
  | none => return none
  | some text => return some (← required (tryParse text.toList) "FormatException")

/-- `(raw[key] as num).toInt()`. -/
def integerOf [DoubleText] (raw : BackupRow) (key : String) : Except BackupError Int := do
  required (← intField raw key) "TypeError"

/-- `raw[key] as bool?`. -/
def boolField (raw : BackupRow) (key : String) : Except BackupError (Option Bool) :=
  match raw.lookup key with
  | none | some .null => .ok none
  | some (.bool value) => .ok (some value)
  | some _ => .error "TypeError"

/-- A blank in a regular expression. -/
def isRegExpSpace (character : Char) : Bool :=
  isBlank character && character.toNat ≠ 0x85

/-- The digits of `BigInt.tryParse`: decimal ones, or hexadecimal ones after `0x`. -/
def bigDigits : List Char → Option Nat
  | '0' :: 'x' :: digits => readDigits 16 digits
  | '0' :: 'X' :: digits => readDigits 16 digits
  | digits => readDigits 10 digits

/-- `BigInt.tryParse`. -/
def bigIntTryParse (source : String) : Option Int :=
  match strip isRegExpSpace source.toList with
  | '-' :: text => (bigDigits text).map fun value : Nat => -(value : Int)
  | '+' :: text => (bigDigits text).map Int.ofNat
  | text => (bigDigits text).map Int.ofNat

theorem bigDigits_toDigits (value : Nat) : bigDigits (Nat.toDigits 10 value) = some value := by
  have digits : ∀ character ∈ Nat.toDigits 10 value, character.isDigit = true := fun _ member =>
    Nat.isDigit_of_mem_toDigits (by decide) (by decide) member
  unfold bigDigits
  split
  · rename_i isText
    exact absurd (digits 'x' (isText ▸ List.mem_cons_of_mem _ List.mem_cons_self)) (by decide)
  · rename_i isText
    exact absurd (digits 'X' (isText ▸ List.mem_cons_of_mem _ List.mem_cons_self)) (by decide)
  · exact readDigits_toDigits (by decide) (by decide) value

theorem strip_figures {text : List Char} (figures : ∀ character ∈ text, isFigure character = true) :
    strip isRegExpSpace text = text :=
  DelimitedText.strip_of_sharp fun character member => by
    rw [isRegExpSpace, (isFigure_spec (figures character member)).1, Bool.false_and]

/-- A whole number that is written out is read back. -/
theorem bigIntTryParse_decimalText (value : Int) :
    bigIntTryParse (decimalText value) = some value := by
  have figures : ∀ value, ∀ character ∈ Nat.toDigits 10 value, character.isDigit = true :=
    fun _ _ member => Nat.isDigit_of_mem_toDigits (by decide) (by decide) member
  cases value with
  | ofNat value =>
    have text : (decimalText (.ofNat value)).toList = Nat.toDigits 10 value := by
      rw [decimalText, Nat.toList_repr]
    have bare := strip_figures fun character member =>
      isFigure_of_isDigit (figures value character member)
    unfold bigIntTryParse
    rw [text, bare]
    split
    · rename_i isText
      exact absurd (figures value '-' (isText ▸ List.mem_cons_self)) (by decide)
    · rename_i isText
      exact absurd (figures value '+' (isText ▸ List.mem_cons_self)) (by decide)
    · rw [bigDigits_toDigits]
      rfl
  | negSucc value =>
    have text : (decimalText (.negSucc value)).toList = '-' :: Nat.toDigits 10 (value + 1) := by
      rw [decimalText, String.toList_append, Nat.toList_repr]
      rfl
    have bare : strip isRegExpSpace ('-' :: Nat.toDigits 10 (value + 1)) = _ :=
      strip_figures (List.forall_mem_cons.mpr ⟨by decide,
        fun character member => isFigure_of_isDigit (figures _ character member)⟩)
    unfold bigIntTryParse
    rw [text, bare]
    show (bigDigits (Nat.toDigits 10 (value + 1))).map _ = _
    rw [bigDigits_toDigits]
    rfl

/-- `BigInt.parse(raw[key] as String)`. -/
def bigIntOf (raw : BackupRow) (key : String) : Except BackupError Int := do
  required (bigIntTryParse (← textOf raw key)) "FormatException"

section Fields

variable {raw : BackupRow} {key : String}

theorem stringField_of {value : Option String} (found : raw.lookup key = some (.ofOption value)) :
    stringField raw key = .ok value := by
  rw [stringField, found]
  cases value <;> rfl

theorem stringField_of_str {value : String} (found : raw.lookup key = some (.str value)) :
    stringField raw key = .ok (some value) := by
  rw [stringField, found]

theorem textOf_of {value : String} (found : raw.lookup key = some (.str value)) :
    textOf raw key = .ok value := by
  rw [textOf, stringField_of_str found]
  rfl

theorem boolField_of {value : Bool} (found : raw.lookup key = some (.bool value)) :
    boolField raw key = .ok (some value) := by
  rw [boolField, found]

theorem dateOf_of [LocalZone] {date : Csv.DateTime}
    (found : raw.lookup key = some (.str (toIso8601String date.micros))) :
    dateOf raw key = .ok date := by
  refine Except.bind_eq_ok.mpr ⟨_, textOf_of found, ?_⟩
  rw [tryParse_toIso8601String, required]

theorem nullableDateOf_of [LocalZone] {date : Option Csv.DateTime}
    (found : raw.lookup key =
      some (.ofOption (date.map fun date => toIso8601String date.micros))) :
    nullableDateOf raw key = .ok date := by
  refine Except.bind_eq_ok.mpr ⟨_, stringField_of found, ?_⟩
  cases date with
  | none => rfl
  | some date =>
    refine Except.bind_eq_ok.mpr ⟨date, ?_, rfl⟩
    rw [tryParse_toIso8601String, required]

theorem integerOf_of [DoubleText] {value : Int} (found : raw.lookup key = some (.ofInt value)) :
    integerOf raw key = .ok value := by
  rw [integerOf, intField_eq found]
  rfl

theorem bigIntOf_of {value : Int} (found : raw.lookup key = some (.str (decimalText value))) :
    bigIntOf raw key = .ok value := by
  rw [bigIntOf, textOf_of found]
  show required (bigIntTryParse (decimalText value)) _ = _
  rw [bigIntTryParse_decimalText]
  rfl

end Fields

/-! ### The rows -/

/-- A row of `books`. -/
structure Book where
  id : String
  name : String
  currencyCode : String
  createdAt : Seconds

/-- A row of `accounts`. -/
structure Account where
  id : String
  bookId : String
  name : String
  type : String
  currencyCode : String
  parentAccountId : Option String

/-- A row of `transactions`. -/
structure Transaction where
  id : String
  bookId : String
  occurredAt : Seconds
  description : Option String
  version : Int
  createdAt : Seconds
  deletedAt : Option Seconds
  source : Option String
  sourceEventFingerprint : Option String

/-- A row of `transaction_entries`. The amount is kept as a text. -/
structure TransactionEntry where
  id : String
  transactionId : String
  accountId : String
  amountMinor : String
  currencyCode : String
  entryIndex : Int

/-- A row of the recurring rules. -/
structure LocalRecurringRule where
  id : String
  bookId : String
  name : String
  kind : String
  amountMinor : Int
  categoryAccountId : String
  accountId : String
  dayOfMonth : Int
  nextRunDate : String
  active : Bool
  createdAt : Milliseconds

/-- A row of the budgets. -/
structure LocalBudgetRecord where
  id : String
  bookId : String
  name : String
  amountMinor : Int
  categoryAccountId : String
  createdAt : Milliseconds

/-- A row of `local_attachments`. -/
structure LocalAttachment extends CloudAttachment where
  stored : ∃ column : Milliseconds, createdAt = column.date.micros

/-- `_bookToJson`. -/
def bookToJson (row : Book) : BackupRow :=
  [("id", .str row.id), ("name", .str row.name), ("currencyCode", .str row.currencyCode),
    ("createdAt", .str (toIso8601String row.createdAt.date.micros))]

/-- `_accountToJson`. -/
def accountToJson (row : Account) : BackupRow :=
  [("id", .str row.id), ("bookId", .str row.bookId), ("name", .str row.name),
    ("type", .str row.type), ("currencyCode", .str row.currencyCode),
    ("parentAccountId", .ofOption row.parentAccountId)]

/-- `_transactionToJson`. -/
def transactionToJson (row : Transaction) : BackupRow :=
  [("id", .str row.id), ("bookId", .str row.bookId),
    ("occurredAt", .str (toIso8601String row.occurredAt.date.micros)),
    ("description", .ofOption row.description), ("version", .ofInt row.version),
    ("createdAt", .str (toIso8601String row.createdAt.date.micros)),
    ("deletedAt", .ofOption ((row.deletedAt.map DateColumn.date).map fun date =>
      toIso8601String date.micros)),
    ("source", .ofOption row.source),
    ("sourceEventFingerprint", .ofOption row.sourceEventFingerprint)]

/-- `_transactionEntryToJson`. -/
def transactionEntryToJson (row : TransactionEntry) : BackupRow :=
  [("id", .str row.id), ("transactionId", .str row.transactionId),
    ("accountId", .str row.accountId), ("amountMinor", .str row.amountMinor),
    ("currencyCode", .str row.currencyCode), ("entryIndex", .ofInt row.entryIndex)]

/-- `_recurringToJson`. -/
def recurringToJson (row : LocalRecurringRule) : BackupRow :=
  [("id", .str row.id), ("bookId", .str row.bookId), ("name", .str row.name),
    ("kind", .str row.kind), ("amountMinor", .str (decimalText row.amountMinor)),
    ("categoryAccountId", .str row.categoryAccountId), ("accountId", .str row.accountId),
    ("dayOfMonth", .ofInt row.dayOfMonth), ("nextRunDate", .str row.nextRunDate),
    ("active", .bool row.active),
    ("createdAt", .str (toIso8601String row.createdAt.date.micros))]

/-- `_budgetToJson`. -/
def budgetToJson (row : LocalBudgetRecord) : BackupRow :=
  [("id", .str row.id), ("bookId", .str row.bookId), ("name", .str row.name),
    ("amountMinor", .str (decimalText row.amountMinor)),
    ("categoryAccountId", .str row.categoryAccountId),
    ("createdAt", .str (toIso8601String row.createdAt.date.micros))]

/-! ### Their readers -/

section Readers

variable [LocalZone] [DoubleText]

/-- `BooksCompanion.insert` of a row. -/
def readBook (raw : BackupRow) : Except BackupError Book := do
  return {
    id := ← textOf raw "id"
    name := ← textOf raw "name"
    currencyCode := ← textOf raw "currencyCode"
    createdAt := .store _ (← dateOf raw "createdAt") }

/-- `AccountsCompanion.insert` of a row. -/
def readAccount (raw : BackupRow) : Except BackupError Account := do
  return {
    id := ← textOf raw "id"
    bookId := ← textOf raw "bookId"
    name := ← textOf raw "name"
    type := ← textOf raw "type"
    currencyCode := (← stringField raw "currencyCode").getD "CNY"
    parentAccountId := ← stringField raw "parentAccountId" }

/-- `TransactionsCompanion.insert` of a row. -/
def readTransaction (raw : BackupRow) : Except BackupError Transaction := do
  return {
    id := ← textOf raw "id"
    bookId := ← textOf raw "bookId"
    occurredAt := .store _ (← dateOf raw "occurredAt")
    description := ← stringField raw "description"
    version := (← intField raw "version").getD 1
    createdAt := .store _ (← dateOf raw "createdAt")
    deletedAt := (← nullableDateOf raw "deletedAt").map (DateColumn.store _)
    source := ← stringField raw "source"
    sourceEventFingerprint := ← stringField raw "sourceEventFingerprint" }

/-- `TransactionEntriesCompanion.insert` of a row. -/
def readTransactionEntry (raw : BackupRow) : Except BackupError TransactionEntry := do
  return {
    id := ← textOf raw "id"
    transactionId := ← textOf raw "transactionId"
    accountId := ← textOf raw "accountId"
    amountMinor := ← textOf raw "amountMinor"
    currencyCode := (← stringField raw "currencyCode").getD "CNY"
    entryIndex := ← integerOf raw "entryIndex" }

/-- What `LocalRecurringRepository.insertRaw` makes of a row. -/
def readRecurring (raw : BackupRow) : Except BackupError LocalRecurringRule := do
  let amountMinor ← bigIntOf raw "amountMinor"
  let active := (← boolField raw "active").getD true
  return {
    id := ← textOf raw "id"
    bookId := ← textOf raw "bookId"
    name := ← textOf raw "name"
    kind := ← textOf raw "kind"
    amountMinor
    categoryAccountId := ← textOf raw "categoryAccountId"
    accountId := ← textOf raw "accountId"
    dayOfMonth := ← integerOf raw "dayOfMonth"
    nextRunDate := ← textOf raw "nextRunDate"
    active
    createdAt := .store _ (← dateOf raw "createdAt") }

/-- What `LocalBudgetRepository.insertRaw` makes of a row. -/
def readBudget (raw : BackupRow) : Except BackupError LocalBudgetRecord := do
  let amountMinor ← bigIntOf raw "amountMinor"
  return {
    id := ← textOf raw "id"
    bookId := ← textOf raw "bookId"
    name := ← textOf raw "name"
    amountMinor
    categoryAccountId := ← textOf raw "categoryAccountId"
    createdAt := .store _ (← dateOf raw "createdAt") }

/-- What `LocalAttachmentRepository.insertRaw` makes of a row: nothing is known of an upload. -/
def readAttachment (raw : BackupRow) : Except BackupError LocalAttachment := do
  let id ← textOf raw "id"
  let bookId ← textOf raw "bookId"
  let transactionId ← textOf raw "transactionId"
  let fileName ← textOf raw "fileName"
  let mime := (← stringField raw "mimeType").getD "application/octet-stream"
  let relativePath ← textOf raw "relativePath"
  let createdAt : Milliseconds := .store _ (← dateOf raw "createdAt")
  return {
    id, bookId, transactionId, fileName, mime, relativePath
    createdAt := createdAt.date.micros
    stored := ⟨createdAt, rfl⟩ }

/-- A row without what is known of its upload. -/
def LocalAttachment.fresh (row : LocalAttachment) : LocalAttachment where
  toCloudAttachment := { toLocalAttachmentRecord := row.toLocalAttachmentRecord }
  stored := row.stored

/-! ### Rows that are written are read -/

omit [DoubleText] in
theorem readBook_toJson (row : Book) : readBook (bookToJson row) = .ok row := by
  refine chained (textOf_of rfl) (chained (textOf_of rfl)
    (chained (textOf_of rfl) (chained (dateOf_of rfl) ?_)))
  rw [DateColumn.store_date (by decide)]
  rfl

omit [LocalZone] [DoubleText] in
theorem readAccount_toJson (row : Account) : readAccount (accountToJson row) = .ok row :=
  chained (textOf_of rfl) (chained (textOf_of rfl) (chained (textOf_of rfl) (chained (textOf_of rfl)
    (chained (stringField_of_str rfl) (chained (stringField_of rfl) rfl)))))

theorem readTransaction_toJson (row : Transaction) :
    readTransaction (transactionToJson row) = .ok row := by
  refine chained (textOf_of rfl) (chained (textOf_of rfl) (chained (dateOf_of rfl)
    (chained (stringField_of rfl) (chained (intField_eq rfl) (chained (dateOf_of rfl)
      (chained (nullableDateOf_of rfl) (chained (stringField_of rfl)
        (chained (stringField_of rfl) ?_))))))))
  have deletedAt : (row.deletedAt.map DateColumn.date).map (DateColumn.store 1000000) =
      row.deletedAt := by
    rw [Option.map_map]
    exact (Option.map_congr fun column _ => DateColumn.store_date (by decide) column).trans
      (congrFun Option.map_id _)
  rw [DateColumn.store_date (by decide), DateColumn.store_date (by decide), deletedAt]
  rfl

omit [LocalZone] in
theorem readTransactionEntry_toJson (row : TransactionEntry) :
    readTransactionEntry (transactionEntryToJson row) = .ok row :=
  chained (textOf_of rfl) (chained (textOf_of rfl) (chained (textOf_of rfl) (chained (textOf_of rfl)
    (chained (stringField_of_str rfl) (chained (integerOf_of rfl) rfl)))))

theorem readRecurring_toJson (row : LocalRecurringRule) :
    readRecurring (recurringToJson row) = .ok row := by
  refine chained (bigIntOf_of rfl) (chained (boolField_of rfl) (chained (textOf_of rfl)
    (chained (textOf_of rfl) (chained (textOf_of rfl) (chained (textOf_of rfl)
      (chained (textOf_of rfl) (chained (textOf_of rfl) (chained (integerOf_of rfl)
        (chained (textOf_of rfl) (chained (dateOf_of rfl) ?_))))))))))
  rw [DateColumn.store_date (by decide)]
  rfl

omit [DoubleText] in
theorem readBudget_toJson (row : LocalBudgetRecord) :
    readBudget (budgetToJson row) = .ok row := by
  refine chained (bigIntOf_of rfl) (chained (textOf_of rfl) (chained (textOf_of rfl)
    (chained (textOf_of rfl) (chained (textOf_of rfl) (chained (dateOf_of rfl) ?_)))))
  rw [DateColumn.store_date (by decide)]
  rfl

omit [DoubleText] in
theorem readAttachment_toJson (row : LocalAttachment) :
    readAttachment (attachmentToJson row.toLocalAttachmentRecord) = .ok row.fresh := by
  obtain ⟨⟨record, _, _, _, _, _, _, _, _⟩, column, isDate⟩ := row
  obtain ⟨id, bookId, transactionId, fileName, mime, relativePath, createdAt⟩ := record
  obtain rfl : createdAt = column.date.micros := isDate
  have isWritten : (attachmentToJson ⟨id, bookId, transactionId, fileName, mime, relativePath,
      column.date.micros⟩).lookup "createdAt" =
        some (.str (toIso8601String column.date.micros)) := rfl
  refine chained (textOf_of rfl) (chained (textOf_of rfl) (chained (textOf_of rfl)
    (chained (textOf_of rfl) (chained (stringField_of_str rfl) (chained (textOf_of rfl)
      (chained (dateOf_of isWritten) ?_))))))
  have stored : (DateColumn.store 1000 column.date).date.micros = column.date.micros := by
    rw [DateColumn.store_date (by decide)]
  simp only [stored]
  rfl

end Readers

end Tables

end Ledgerly
