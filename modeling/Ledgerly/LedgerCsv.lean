/-
This file models the export of a ledger, `buildLedgerCsv`, and the reader of bills,
`CsvBillParser`, which reads exports as well.

Dart's strings are lists of characters here where the source goes through them one by one.
Regular expressions are read from the left; where one may give characters back, the text after
them decides that it need not.
-/

import Ledgerly.ClientDate
import Ledgerly.RecurringScheduler
import Ledgerly.Library.CalendarMonths
import Ledgerly.Library.DelimitedText

namespace Ledgerly.Csv

open CivilDate DelimitedText

/-! ### Dates -/

/-- A `DateTime`: microseconds from the epoch, a hundred million days at most. -/
structure DateTime where
  micros : Int
  inRange : -8640000000000000000 ≤ micros ∧ micros ≤ 8640000000000000000
  deriving DecidableEq

/-- The instant so many microseconds after 1970, where it is in range. -/
def DateTime.ofMicros (micros : Int) : Option DateTime :=
  if inRange : -8640000000000000000 ≤ micros ∧ micros ≤ 8640000000000000000 then
    some ⟨micros, inRange⟩
  else none

/-- What the client takes from `DateTime` about the time zone of the device. A local time is the
microseconds that a clock in UTC would take it for. The constructor with the local time of an instant
gives an instant of this local time; it may be another one where the clock has been put back. -/
class LocalZone where
  toLocal : DateTime → Int
  ofLocal : Int → Option DateTime
  near (time : DateTime) : time.micros - 86400000000 < toLocal time ∧
    toLocal time < time.micros + 86400000000
  ofLocal_toLocal (time : DateTime) :
    ∃ again, ofLocal (toLocal time) = some again ∧ toLocal again = toLocal time

/-- `toIso8601String` of a local time. -/
def localIso8601String (time : Int) : List Char :=
  let fraction := (time % 1000000).toNat
  secondText (time / 86400000000) (time / 1000000 % 86400).toNat ++
    '.' :: (padded 3 (fraction / 1000) ++
      if fraction % 1000 = 0 then [] else padded 3 (fraction % 1000))

/-- The time of a clock with these fields. Months and whatever is smaller may run over. -/
def timeOf (year month day hour minute second micros : Int) : Int :=
  ((((firstOfMonth (monthNumber year month) + (day - 1)) * 24 + hour) * 60 + minute) * 60 + second) *
    1000000 + micros

/-- Characters of a text that may stand there. -/
def skip (character : Char) : List Char → List Char
  | first :: rest => if first = character then rest else first :: rest
  | [] => []

/-- A number of exactly so many digits at the beginning of a text. -/
def digitsOf (count : Nat) (text : List Char) : Option (Nat × List Char) :=
  if (text.take count).length = count then
    (decimalNat (text.take count)).map fun value => (value, text.drop count)
  else none

/-- The year of `DateTime.parse`, with a number of digits and perhaps a sign. -/
def yearOf (count : Nat) (text : List Char) : Option (Int × List Char) :=
  match text with
  | '-' :: rest => (digitsOf count rest).map fun (year, rest) => (-(year : Int), rest)
  | '+' :: rest => (digitsOf count rest).map fun (year, rest) => ((year : Int), rest)
  | _ => (digitsOf count text).map fun (year, rest) => ((year : Int), rest)

/-- The seconds and their fraction, which may be missing. -/
def secondsOf (text : List Char) : Nat × Nat × List Char :=
  match digitsOf 2 (skip ':' text) with
  | none => (0, 0, text)
  | some (second, rest) =>
    match rest with
    | point :: fraction =>
      if (point = '.' ∨ point = ',') ∧ fraction.takeWhile Char.isDigit ≠ [] then
        (second, fractionMicros (fraction.takeWhile Char.isDigit), fraction.dropWhile Char.isDigit)
      else (second, 0, rest)
    | [] => (second, 0, [])

/-- The zone at the end, in minutes from UTC; there may be none. -/
def dateZone (text : List Char) : Option (Option Int) :=
  if text = [] then some none
  else
    match skip ' ' text with
    | ['z'] | ['Z'] => some (some 0)
    | sign :: rest =>
      if sign = '+' ∨ sign = '-' then do
        let (hours, rest) ← digitsOf 2 rest
        let minutes ←
          if rest = [] then some 0
          else (digitsOf 2 (skip ':' rest)).bind fun (minutes, rest) =>
            if rest = [] then some minutes else none
        return some ((if sign = '-' then -1 else 1) * ((hours : Int) * 60 + minutes))
      else none
    | [] => none

/-- What follows the year of a text that `DateTime.parse` accepts: the time with this year, and the
zone if there is one. -/
def fieldsAfterYear (year : Int) (text : List Char) : Option (Int × Option Int) := do
  let (month, rest) ← digitsOf 2 (skip '-' text)
  let (day, rest) ← digitsOf 2 (skip '-' rest)
  match rest with
  | [] => return (timeOf year month day 0 0 0 0, none)
  | first :: rest =>
    if first = ' ' ∨ first = 'T' then do
      let (hour, rest) ← digitsOf 2 rest
      match digitsOf 2 (skip ':' rest) with
      | none =>
        let zone ← dateZone rest
        return (timeOf year month day hour 0 0 0, zone)
      | some (minute, rest) =>
        let (second, micros, rest) := secondsOf rest
        let zone ← dateZone rest
        return (timeOf year month day hour minute second micros, zone)
    else none

/-- The fields of a text that `DateTime.parse` accepts. The year has six digits, or five, or four,
as long as the rest fits. -/
def parseFormat (text : List Char) : Option (Int × Option Int) :=
  [6, 5, 4].findSome? fun count =>
    (yearOf count text).bind fun (year, rest) => fieldsAfterYear year rest

section Reader

variable [LocalZone]

/-- `DateTime.tryParse`. -/
def tryParse (text : List Char) : Option DateTime :=
  match parseFormat text with
  | none => none
  | some (time, none) => LocalZone.ofLocal time
  | some (time, some zone) => DateTime.ofMicros (time - zone * 60000000)

/-- One or two digits at the beginning of a text. -/
def oneOrTwoDigits (text : List Char) : Option (Nat × List Char) :=
  let digits := (text.take 2).takeWhile Char.isDigit
  (decimalNat digits).map fun value => (value, text.drop digits.length)

/-- What follows a character that must stand there. -/
def after (character : Char) : List Char → Option (List Char)
  | first :: rest => if first = character then some rest else none
  | [] => none

/-- The time of day in the pattern of `parseImportDate`. -/
def importTime : List Char → Option (Nat × Nat × Nat)
  | first :: rest =>
    if first = ' ' ∨ first = 'T' then do
      let (hour, rest) ← oneOrTwoDigits rest
      let rest ← after ':' rest
      let (minute, rest) ← oneOrTwoDigits rest
      let second := ((after ':' rest).bind oneOrTwoDigits).map Prod.fst
      return (hour, minute, second.getD 0)
    else none
  | [] => none

/-- The date that the pattern of `parseImportDate` finds at the beginning of a text. -/
def importPattern (value : List Char) : Option Int := do
  let (year, rest) ← digitsOf 4 value
  let rest ← after '-' rest
  let (month, rest) ← oneOrTwoDigits rest
  let rest ← after '-' rest
  let (day, rest) ← oneOrTwoDigits rest
  let (hour, minute, second) := (importTime rest).getD (0, 0, 0)
  return timeOf year month day hour minute second 0

/-- `value.replaceFirst(' ', 'T')`. -/
def replaceFirstBlank : List Char → List Char
  | [] => []
  | first :: rest => if first = ' ' then 'T' :: rest else first :: replaceFirstBlank rest

/-- `parseImportDate`. -/
def parseImportDate (raw : String) : Option DateTime :=
  let value := (dartTrim raw).toList.map fun character => if character = '/' then '-' else character
  if value = [] then none
  else
    let normalized := if 'T' ∈ value then value else replaceFirstBlank value
    match tryParse normalized with
    | some parsed => some parsed
    | none => (importPattern value).bind LocalZone.ofLocal

end Reader

/-! ### The export -/

/-- `TransactionSummary`, with the names of the export. -/
structure TransactionSummary where
  occurredAt : DateTime
  description : Option String
  kind : TransactionSummaryKind
  amountMinor : Int
  categoryName : Option String
  accountName : Option String

/-- `csvKindLabel`. -/
def csvKindLabel : TransactionSummaryKind → String
  | .expense => "expense"
  | .income => "income"
  | .transfer => "transfer"
  | .adjustment => "adjustment"

/-- The loop of `formatDisplayMinor`: a comma before every third digit from the end. -/
def groupThousands : List Char → List Char
  | [] => []
  | digit :: rest =>
    if rest ≠ [] ∧ rest.length % 3 = 0 then digit :: ',' :: groupThousands rest
    else digit :: groupThousands rest

/-- `formatDisplayMinor`. -/
def formatDisplayMinor (minor : Int) (symbol : Bool) : List Char :=
  let yuan := Nat.toDigits 10 (minor.natAbs / 100)
  let cents := padded 2 (minor.natAbs % 100)
  (if minor < 0 then ['-'] else []) ++ (if symbol then ['¥'] else []) ++
    (groupThousands yuan ++ '.' :: cents)

/-- What `_csvEscape` looks for. -/
def isSpecial (character : Char) : Bool :=
  character = ',' || character = '"' || character = '\n' || character = '\r'

/-- `_csvEscape`. -/
def csvEscape (value : String) : List Char := escapeField '"' isSpecial value.toList

/-- A row of the export. -/
def csvRow [LocalZone] (l10n : Option (Option String → String)) (tx : TransactionSummary) :
    List Char :=
  let nameOf := fun name : Option String =>
    match l10n with
    | none => name.getD ""
    | some localizedLedgerName => localizedLedgerName name
  List.intercalate [','] [localIso8601String (LocalZone.toLocal tx.occurredAt),
    (csvKindLabel tx.kind).toList, formatDisplayMinor tx.amountMinor false,
    csvEscape (nameOf tx.categoryName), csvEscape (nameOf tx.accountName),
    csvEscape (tx.description.getD "")]

/-- The first line of the export. -/
def csvHeader : List Char := "\uFEFFdate,kind,amount,category,account,description".toList

/-- `buildLedgerCsv`. -/
def buildLedgerCsv [LocalZone] (l10n : Option (Option String → String))
    (transactions : List TransactionSummary) : List Char :=
  csvHeader ++ '\n' :: transactions.flatMap fun tx => csvRow l10n tx ++ ['\n']

/-! ### Reading a line -/

/-- `splitCsvLine`. -/
def splitCsvLine (line : String) (delimiter : Char) : List String :=
  (scanFields '"' delimiter false [] line.toList).map fun field => dartTrim (String.ofList field)

/-- `isSkippedImportStatus`. -/
def isSkippedImportStatus [DartText] (raw : String) : Bool :=
  let value := DartText.toLowerCase (dartTrim raw)
  if value = "" then false
  else
    ["退款", "refund", "关闭", "closed", "失败", "fail", "撤销", "已退还", "全额退款"].any fun needle =>
      containsText value needle

/-- The cents of `parseImportAmountMinor`: nothing, or a point and one or two digits. -/
def centsOf : List Char → Option Nat
  | [] => some 0
  | '.' :: digits =>
    if digits.length = 1 ∨ digits.length = 2 then
      decimalNat (digits ++ List.replicate (2 - digits.length) '0')
    else none
  | _ => none

/-- `parseImportAmountMinor`. -/
def parseImportAmountMinor (raw : String) : Option Int :=
  let value := (dartTrim raw).toList.filter fun character =>
    character ≠ ',' ∧ character ≠ ' ' ∧ character ≠ '¥' ∧ character ≠ '￥' ∧ character ≠ '+'
  let value :=
    if value.head? = some '(' ∧ value.getLast? = some ')' then '-' :: (value.drop 1).dropLast
    else value
  let negative := value.head? = some '-'
  let value := if negative then value.drop 1 else value
  match decimalNat (value.takeWhile Char.isDigit), centsOf (value.dropWhile Char.isDigit) with
  | some yuan, some cents =>
    let amount : Int := yuan * 100 + cents
    if amount = 0 then none else some (if negative then -amount else amount)
  | _, _ => none

/-- `parseImportKind`. -/
def parseImportKind [DartText] (raw : String) (amount : Int) : Option TransactionSummaryKind :=
  let value := dartTrim raw
  let lower := DartText.toLowerCase value
  if containsText value "不计" || containsText value "转账" || containsText value "其他" ||
      lower = "transfer" || lower = "other" then none
  else if containsText value "收入" || lower = "income" then some .income
  else if containsText value "支出" || lower = "expense" then some .expense
  else if amount < 0 then some .expense
  else if amount > 0 then some .income
  else none

/-! ### The header -/

/-- The keys of `_headerKey`. -/
inductive HeaderKey where
  | date
  | direction
  | amount
  | description
  | counterparty
  | category
  | status
  deriving DecidableEq

/-- `_headerKey`. -/
def headerKey [DartText] (name : String) : Option HeaderKey :=
  let value := DartText.toLowerCase name
  let holds := containsText name
  if holds "交易时间" || holds "交易日期" || holds "交易创建时间" || holds "付款时间" || name = "日期" ||
      value = "date" || value = "occurred_at" then some .date
  else if holds "收/支" || holds "收支" || value = "kind" || value = "direction" || value = "type" then
    some .direction
  else if holds "金额" || value = "amount" then some .amount
  else if holds "商品说明" || holds "商品名称" || holds "商品" || holds "备注" || holds "说明" ||
      value = "description" || value = "note" then some .description
  else if holds "交易对方" || value = "counterparty" || value = "payee" then some .counterparty
  else if holds "交易分类" || holds "分类" || value = "category" then some .category
  else if holds "交易状态" || holds "当前状态" || value = "status" then some .status
  else none

/-- `_headerMap`: the first cell of each key. -/
def headerMap [DartText] (cells : List String) : Option (HeaderKey → Option Nat) :=
  let keys := cells.map fun cell =>
    headerKey (dartTrim (String.ofList (cell.toList.filter fun character => character ≠ '\uFEFF')))
  let map := fun key => keys.findIdx? fun found => found = some key
  if (map .date).isSome ∧ (map .amount).isSome then some map else none

/-- `_detectHeader`. -/
def detectHeader [DartText] (line : String) : Option (Char × (HeaderKey → Option Nat)) :=
  [',', '\t', ';'].findSome? fun delimiter =>
    (headerMap (splitCsvLine line delimiter)).map fun map => (delimiter, map)

/-- The lines after the header, with what the header says. -/
def findHeader [DartText] : List String → Option (List String × Char × (HeaderKey → Option Nat))
  | [] => none
  | line :: rest =>
    match detectHeader line with
    | some (delimiter, header) => some (rest, delimiter, header)
    | none => findHeader rest

/-! ### The parser -/

/-- `ImportDraft`. -/
structure ImportDraft where
  occurredAt : DateTime
  kind : TransactionSummaryKind
  amountMinor : Int
  description : String
  rawCategory : Option String
  counterparty : Option String
  selected : Bool
  duplicate : Bool

/-- A round of the loop of `parse`: the draft of a line, or none where the line is passed over. -/
def readLine [DartText] [LocalZone] (delimiter : Char) (header : HeaderKey → Option Nat)
    (line : String) : Option ImportDraft :=
  let cols := splitCsvLine line delimiter
  let read := fun key => ((header key).bind fun index => cols[index]?).getD ""
  if cols.all fun col => col = "" then none
  else if isSkippedImportStatus (read .status) then none
  else do
    let amount ← parseImportAmountMinor (read .amount)
    let kind ← parseImportKind (read .direction) amount.natAbs
    let occurredAt ← parseImportDate (read .date)
    let description := ([read .description, read .counterparty, read .category].find?
      fun value => value ≠ "").getD ""
    return {
      occurredAt := occurredAt
      kind := kind
      amountMinor := amount.natAbs
      description := description
      rawCategory := if read .category = "" then none else some (read .category)
      counterparty := if read .counterparty = "" then none else some (read .counterparty)
      selected := true
      duplicate := false }

/-- A line without the blanks at its ends, unless it is empty. -/
def trimLine (line : List Char) : Option String :=
  let trimmed := dartTrim (String.ofList line)
  if trimmed = "" then none else some trimmed

/-- `CsvBillParser.parse`. -/
def parse [DartText] [LocalZone] (csv : List Char) : List ImportDraft :=
  let lines := (List.splitOnP (fun character => character = '\n')
    (unifyBreaks '\r' '\n' csv)).filterMap trimLine
  match findHeader lines with
  | none => []
  | some (rest, delimiter, header) => rest.filterMap (readLine delimiter header)

/-! ### Duplicates -/

section Duplicates

variable [LocalZone]

/-- `postedRowKey`, of the parser. -/
def postedRowKey (occurredAt : DateTime) (amountMinor : Int) (kind : TransactionSummaryKind)
    (description : String) : PostedRowKey :=
  ⟨LocalZone.toLocal occurredAt / 86400000000, kind, amountMinor, dartTrim description⟩

/-- `importDraftMatchesExisting`. -/
def importDraftMatchesExisting (draft : ImportDraft) (existing : TransactionSummary) : Bool :=
  postedRowKey draft.occurredAt draft.amountMinor draft.kind draft.description =
    postedRowKey existing.occurredAt existing.amountMinor existing.kind
      (existing.description.getD "")

/-- `markDuplicateImportDrafts`. -/
def markDuplicateImportDrafts (drafts : List ImportDraft) (existing : List TransactionSummary) :
    List ImportDraft :=
  drafts.map fun draft =>
    let duplicate := existing.any fun row => importDraftMatchesExisting draft row
    { draft with
      duplicate := duplicate
      selected := if duplicate then false else draft.selected }

end Duplicates

end Ledgerly.Csv
