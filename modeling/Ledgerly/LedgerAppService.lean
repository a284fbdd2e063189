/-
This file models the entry points of `LedgerAppService` that post a transaction: the checks of
the domain package's `TransactionFactory`, the id a mutation is queued under, and the rescue of a
notification that could not be parsed.

A call that throws leaves the database alone. What it throws matters to one caller only, which
swallows a violated constraint, so the errors are told apart that far.
-/

import Ledgerly.LedgerRepository

namespace Ledgerly

/-- What the client takes from Dart's strings and from its crypto package. -/
class DartText where
  toLowerCase : String → String
  toUpperCase : String → String
  /-- The hexadecimal SHA-256 digest of the UTF-8 bytes of a text. -/
  sha256 : String → String

/-- `String.trim` of Dart, which removes the byte order mark as well. -/
def dartTrim (text : String) : String :=
  let blank := fun character : Char => isWhitespace character || character.toNat = 0xFEFF
  String.ofList ((text.toList.dropWhile blank).reverse.dropWhile blank).reverse

/-- `String.contains`. -/
def containsText (text part : String) : Bool := decide (part.toList <:+: text.toList)

/-! ### Accounts -/

/-- `accountId`. -/
def accountId (bookId key : String) : String := bookId ++ ":" ++ key

/-- `accountKeyBank`. -/
def accountKeyBank (bookId : String) : String := accountId bookId "acc_bank"

/-- `accountKeyOtherExpense`. -/
def accountKeyOtherExpense (bookId : String) : String := accountId bookId "acc_other_expense"

/-- `accountKeyOtherIncome`. -/
def accountKeyOtherIncome (bookId : String) : String := accountId bookId "acc_other_income"

/-- `AccountType` of the domain package. -/
inductive AccountType where
  | asset
  | liability
  | income
  | expense
  | equity
  deriving DecidableEq

/-- The account type of a name, as `AccountType.values.firstWhere` finds it. -/
def AccountType.named : String → Option AccountType
  | "asset" => some .asset
  | "liability" => some .liability
  | "income" => some .income
  | "expense" => some .expense
  | "equity" => some .equity
  | _ => none

/-- `CurrencyCode.parse`. -/
def parseCurrencyCode [DartText] (raw : String) : Option String :=
  let normalized := DartText.toUpperCase (dartTrim raw)
  if normalized.toList.length = 3 ∧ normalized.toList.all isAsciiUppercase then some normalized
  else none

/-- `Account` of the domain package. -/
structure DomainAccount where
  id : String
  type : AccountType
  currency : String

/-- `_asDomain` of the first account with an id. -/
def Device.domainAccount [DartText] (device : Device) (id : String) : Option DomainAccount := do
  let row ← device.accounts.lookup id
  let type ← AccountType.named row.type
  let currency ← parseCurrencyCode row.currencyCode
  return ⟨id, type, currency⟩

/-! ### The factory -/

/-- What the methods of the service throw: an exception of their own checks, or one of SQLite
about a constraint. -/
inductive LedgerError where
  | rejected
  | constraint
  deriving DecidableEq

/-- The header of a new transaction. -/
structure TransactionHeader where
  id : String
  occurredAt : Int
  description : Option String
  source : Option String
  sourceEventFingerprint : Option String

/-- The transaction that moves an amount of `CNY` from one account to another. -/
def TransactionHeader.move (header : TransactionHeader) (debit credit : String) (amount : Int)
    (nonzero : amount ≠ 0) : LedgerTransaction where
  id := header.id
  occurredAt := header.occurredAt
  description := header.description
  version := 1
  source := header.source
  sourceEventFingerprint := header.sourceEventFingerprint
  entries :=
    [⟨debit, amount, "CNY", nonzero, isCurrencyCode_cny⟩,
      ⟨credit, -amount, "CNY", Int.neg_ne_zero.mpr nonzero, isCurrencyCode_cny⟩]
  atLeastTwo := le_rfl
  oneCurrency := ⟨"CNY", by simp⟩
  sumZero := by simp
  entriesFit := two_le_isizeMax

/-- `TransactionFactory.expense`, for an amount of `CNY`. -/
def TransactionHeader.expense (header : TransactionHeader)
    (expenseAccount fundingAccount : DomainAccount) (amount : Int) : Option LedgerTransaction :=
  if nonzero : amount ≠ 0 then
    if expenseAccount.type ≠ .expense then none
    else if expenseAccount.currency ≠ "CNY" ∨ fundingAccount.currency ≠ "CNY" then none
    else some (header.move expenseAccount.id fundingAccount.id amount nonzero)
  else none

/-- `TransactionFactory.income`, for an amount of `CNY`. -/
def TransactionHeader.income (header : TransactionHeader)
    (incomeAccount depositAccount : DomainAccount) (amount : Int) : Option LedgerTransaction :=
  if nonzero : amount ≠ 0 then
    if incomeAccount.type ≠ .income then none
    else if incomeAccount.currency ≠ "CNY" ∨ depositAccount.currency ≠ "CNY" then none
    else some (header.move depositAccount.id incomeAccount.id amount nonzero)
  else none

/-! ### Posting -/

/-- `_resolveMutationId`, given the id `newId` would return. -/
def resolveMutationId (bookId newId : String) (source clientEventId : Option String) : String :=
  match clientEventId with
  | none => newId
  | some eventId =>
    if eventId = "" then newId
    else if source = some "auto_ledger" then "auto:" ++ bookId ++ ":" ++ dartTrim eventId
    else "evt:" ++ bookId ++ ":" ++ dartTrim eventId

/-- The insert at the end of every create. -/
def Device.post (device : Device) (tx : Option LedgerTransaction) (mutationId : String)
    (sourceEventFingerprint : Option String) : Except LedgerError Device :=
  match tx with
  | none => .error .rejected
  | some tx =>
    match device.saveDomainTransaction tx mutationId sourceEventFingerprint with
    | none => .error .constraint
    | some written => .ok written

/-- `createExpense`. `newId` is the id the call draws for its mutation; the id of the transaction
is in the header. -/
def Device.createExpense [DartText] (device : Device) (header : TransactionHeader)
    (expenseAccountId fundingAccountId : String) (amountMinor : Int)
    (clientEventId : Option String) (newId : String) : Except LedgerError Device :=
  device.post
    (do
      let expense ← device.domainAccount expenseAccountId
      let funding ← device.domainAccount fundingAccountId
      header.expense expense funding amountMinor)
    (resolveMutationId device.bookId newId header.source clientEventId)
    header.sourceEventFingerprint

/-- `createIncome`. -/
def Device.createIncome [DartText] (device : Device) (header : TransactionHeader)
    (incomeAccountId depositAccountId : String) (amountMinor : Int)
    (clientEventId : Option String) (newId : String) : Except LedgerError Device :=
  device.post
    (do
      let income ← device.domainAccount incomeAccountId
      let deposit ← device.domainAccount depositAccountId
      header.income income deposit amountMinor)
    (resolveMutationId device.bookId newId header.source clientEventId)
    header.sourceEventFingerprint

/-! ### Rescuing a notification -/

/-- The name of a payment platform in a description. -/
def platformLabel : String → String
  | "wechat" => "微信支付"
  | "alipay" => "支付宝"
  | platform => platform

/-- The arguments of `rescueUnparsedEvent`. The text of the date is what `DateTime.toString` gives,
which depends on the time zone of the device. -/
structure RescueCall where
  direction : String
  amountMinor : Int
  merchant : Option String
  note : Option String
  occurredAt : Int
  occurredAtText : String
  platform : String
  reasonTag : String
  unparsedEventId : String
  categoryAccountId : Option String
  incomeAccountId : Option String

/-- A part of a description, left out when it is blank. -/
def descriptionPart (text : Option String) : List String :=
  match text.map dartTrim with
  | none => []
  | some trimmed => if trimmed = "" then [] else [trimmed]

/-- The header of the transaction a rescue creates. -/
def RescueCall.header (call : RescueCall) (bookId txId : String) : TransactionHeader where
  id := txId
  occurredAt := call.occurredAt
  description := some (" · ".intercalate
    (platformLabel call.platform :: descriptionPart call.merchant ++ descriptionPart call.note))
  source := some "auto_ledger_rescue"
  sourceEventFingerprint := some ("rescue:" ++ bookId ++ ":" ++ call.reasonTag ++ ":" ++
    decimalText call.amountMinor ++ ":" ++ call.occurredAtText)

/-- The create inside `rescueUnparsedEvent`. -/
def Device.rescueCreate [DartText] (device : Device) (call : RescueCall) (txId newId : String) :
    Except LedgerError Device :=
  if call.direction = "income" then
    device.createIncome (call.header device.bookId txId)
      (call.incomeAccountId.getD (accountKeyOtherIncome device.bookId))
      (accountKeyBank device.bookId) call.amountMinor
      (some ("rescue:" ++ call.unparsedEventId)) newId
  else
    device.createExpense (call.header device.bookId txId)
      (call.categoryAccountId.getD (accountKeyOtherExpense device.bookId))
      (accountKeyBank device.bookId) call.amountMinor
      (some ("rescue:" ++ call.unparsedEventId)) newId

/-- `rescueUnparsedEvent`. A violated constraint counts as "already posted". -/
def Device.rescueUnparsedEvent [DartText] (device : Device) (call : RescueCall)
    (txId newId : String) : Except LedgerError Device :=
  if call.amountMinor ≤ 0 then .error .rejected
  else
    match device.rescueCreate call txId newId with
    | .error .constraint => .ok device
    | result => result

/-! ### Summaries -/

/-- `TransactionSummaryKind`. -/
inductive TransactionSummaryKind where
  | expense
  | income
  | transfer
  | adjustment
  deriving DecidableEq

/-! ### Values to evaluate the service on -/

/-- Strings and digests of a device whose texts are all ASCII, with the texts as their own
digests. -/
@[reducible] def asciiText : DartText where
  toLowerCase text := String.ofList (text.toList.map Char.toLower)
  toUpperCase text := String.ofList (text.toList.map Char.toUpper)
  sha256 text := text

/-- A device with the accounts that a payment of no known merchant needs. -/
def walletDevice : Device :=
  Device.initial "phone" "book"
    (((∅ : KeyMap String LocalAccount).insert "book:acc_bank" ⟨"Bank", "asset", "CNY", none⟩).insert
      "book:acc_other_expense" ⟨"Other", "expense", "CNY", none⟩)

end Ledgerly
