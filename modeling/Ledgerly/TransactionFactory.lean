/-
This file models the `TransactionFactory` of the domain package: the five intents a
transaction is built from, with the checks of each, and the legs that a built transaction has.
-/

import Ledgerly.LedgerAppService
import Ledgerly.TransactionRule

namespace Ledgerly.DomainPackage

/-! ### What the factory works on -/

/-- `Account`, as far as the factory reads it. -/
structure Account where
  id : String
  type : AccountType
  currency : CurrencyCode

/-- An `AccountType` in a message. -/
def typeText : AccountType → String
  | .asset => "AccountType.asset"
  | .liability => "AccountType.liability"
  | .income => "AccountType.income"
  | .expense => "AccountType.expense"
  | .equity => "AccountType.equity"

/-- `Money.operator -`. -/
def Money.neg (amount : Money) : Money :=
  ⟨-amount.minorUnits, amount.currency, Int.neg_ne_zero.mpr amount.nonzero⟩

/-- `_requireType`. -/
def requireType (account : Account) (type : AccountType) : Except DomainException Unit :=
  if account.type ≠ type then
    .error ⟨.invalidAccount, "Expected " ++ typeText type ++ " account, got " ++
      typeText account.type⟩
  else .ok ()

/-- `_requireCurrency`. -/
def requireCurrency (account : Account) (amount : Money) : Except DomainException Unit :=
  if account.currency ≠ amount.currency then
    .error ⟨.currencyMismatch, "Account " ++ account.id ++ " currency " ++
      account.currency.value ++ " != " ++ amount.currency.value⟩
  else .ok ()

/-- `LedgerTransaction`. -/
structure LedgerTransaction where
  header : TransactionHeader
  bookId : String
  version : Int
  entries : List TransactionEntry

/-- The constructor of `LedgerTransaction`. -/
def LedgerTransaction.new (header : TransactionHeader) (bookId : String)
    (entries : List TransactionEntry) : Except DomainException LedgerTransaction := do
  checkTransaction header.id entries
  return ⟨header, bookId, 1, entries⟩

/-- An entry of a transaction, under the id that is given or the one its index makes. -/
def newEntry (id : String) (entryId : Option String) (account : Account) (amount : Money)
    (index : Nat) : TransactionEntry :=
  ⟨entryId.getD (id ++ "-" ++ decimalText index), id, account.id, amount, index⟩

/-! ### The five intents -/

namespace TransactionFactory

variable (header : TransactionHeader) (bookId : String)

/-- `expense`. -/
def expense (expenseAccount fundingAccount : Account) (amount : Money)
    (expenseEntryId fundingEntryId : Option String) : Except DomainException LedgerTransaction := do
  requireType expenseAccount .expense
  requireCurrency expenseAccount amount
  requireCurrency fundingAccount amount
  LedgerTransaction.new header bookId
    [newEntry header.id expenseEntryId expenseAccount amount 0,
      newEntry header.id fundingEntryId fundingAccount amount.neg 1]

/-- `income`. -/
def income (incomeAccount depositAccount : Account) (amount : Money) :
    Except DomainException LedgerTransaction := do
  requireType incomeAccount .income
  requireCurrency incomeAccount amount
  requireCurrency depositAccount amount
  LedgerTransaction.new header bookId
    [newEntry header.id none depositAccount amount 0,
      newEntry header.id none incomeAccount amount.neg 1]

/-- `transfer`. -/
def transfer (source target : Account) (amount : Money) :
    Except DomainException LedgerTransaction :=
  if source.id = target.id then
    .error ⟨.invalidTransfer, "Transfer accounts must differ"⟩
  else do
    requireCurrency source amount
    requireCurrency target amount
    LedgerTransaction.new header bookId
      [newEntry header.id none source amount.neg 0, newEntry header.id none target amount 1]

/-- The loop of `splitExpense`. -/
def splitEntries (id : String) (currency : CurrencyCode) :
    List (Account × Money) → Nat → Except DomainException (List TransactionEntry)
  | [], _ => .ok []
  | (account, amount) :: rest, index => do
    requireType account .expense
    if amount.currency ≠ currency then
      .error ⟨.currencyMismatch, "Split currencies must match"⟩
    else do
      let entries ← splitEntries id currency rest (index + 1)
      return newEntry id none account amount index :: entries

/-- The sum of the splits. -/
def splitTotal (splits : List (Account × Money)) : Int :=
  splits.foldl (fun total split => total + split.2.minorUnits) 0

/-- `splitExpense`. -/
def splitExpense (fundingAccount : Account) (splits : List (Account × Money)) :
    Except DomainException LedgerTransaction :=
  match splits with
  | first :: second :: rest => do
    let entries ← splitEntries header.id first.2.currency (first :: second :: rest) 0
    let funding ← Money.new (splitTotal (first :: second :: rest)) first.2.currency
    requireCurrency fundingAccount funding
    LedgerTransaction.new header bookId (entries ++
      [newEntry header.id none fundingAccount funding.neg entries.length])
  | _ => .error ⟨.tooFewEntries, "Split requires at least two expense lines"⟩

/-- `refundExpense`. -/
def refundExpense (expenseAccount refundToAccount : Account) (amount : Money) :
    Except DomainException LedgerTransaction := do
  requireType expenseAccount .expense
  requireCurrency expenseAccount amount
  requireCurrency refundToAccount amount
  LedgerTransaction.new header bookId
    [newEntry header.id none refundToAccount amount 0,
      newEntry header.id none expenseAccount amount.neg 1]

end TransactionFactory

/-- An intent, with the arguments of the method that builds it. -/
inductive Intent
  | expense (expenseAccount fundingAccount : Account) (amount : Money)
      (expenseEntryId fundingEntryId : Option String)
  | income (incomeAccount depositAccount : Account) (amount : Money)
  | transfer (source target : Account) (amount : Money)
  | splitExpense (fundingAccount : Account) (splits : List (Account × Money))
  | refundExpense (expenseAccount refundToAccount : Account) (amount : Money)

namespace Intent

/-- The transaction of an intent. -/
def build (header : TransactionHeader) (bookId : String) :
    Intent → Except DomainException LedgerTransaction
  | .expense expenseAccount fundingAccount amount expenseEntryId fundingEntryId =>
    TransactionFactory.expense header bookId expenseAccount fundingAccount amount expenseEntryId
      fundingEntryId
  | .income incomeAccount depositAccount amount =>
    TransactionFactory.income header bookId incomeAccount depositAccount amount
  | .transfer source target amount =>
    TransactionFactory.transfer header bookId source target amount
  | .splitExpense fundingAccount splits =>
    TransactionFactory.splitExpense header bookId fundingAccount splits
  | .refundExpense expenseAccount refundToAccount amount =>
    TransactionFactory.refundExpense header bookId expenseAccount refundToAccount amount

/-- The accounts that money moves between: those of funding, deposit, refund and transfer. -/
def sides : Intent → List Account
  | .expense _ fundingAccount _ _ _ => [fundingAccount]
  | .income _ depositAccount _ => [depositAccount]
  | .transfer source target _ => [source, target]
  | .splitExpense fundingAccount _ => [fundingAccount]
  | .refundExpense _ refundToAccount _ => [refundToAccount]

/-- The accounts and amounts of the entries, in their order. -/
def legs : Intent → List (Account × Int)
  | .expense expenseAccount fundingAccount amount _ _ =>
    [(expenseAccount, amount.minorUnits), (fundingAccount, -amount.minorUnits)]
  | .income incomeAccount depositAccount amount =>
    [(depositAccount, amount.minorUnits), (incomeAccount, -amount.minorUnits)]
  | .transfer source target amount =>
    [(source, -amount.minorUnits), (target, amount.minorUnits)]
  | .splitExpense fundingAccount splits =>
    splits.map (fun split => (split.1, split.2.minorUnits)) ++
      [(fundingAccount, -TransactionFactory.splitTotal splits)]
  | .refundExpense expenseAccount refundToAccount amount =>
    [(refundToAccount, amount.minorUnits), (expenseAccount, -amount.minorUnits)]

/-- The accounts that are not sides have the type the method asks for. -/
def Typed : Intent → Prop
  | .expense expenseAccount _ _ _ _ => expenseAccount.type = .expense
  | .income incomeAccount _ _ => incomeAccount.type = .income
  | .transfer _ _ _ => True
  | .splitExpense _ splits => ∀ split ∈ splits, split.1.type = .expense
  | .refundExpense expenseAccount _ _ => expenseAccount.type = .expense

end Intent

/-! ### What a built transaction has -/

/-- The legs of entries. -/
def legsOf (entries : List TransactionEntry) : List (String × Int) :=
  entries.map fun entry => (entry.accountId, entry.amount.minorUnits)

theorem requireType_eq_ok {account : Account} {type : AccountType} {checked : Unit}
    (passed : requireType account type = .ok checked) : account.type = type := by
  unfold requireType at passed
  split at passed
  · cases passed
  · rename_i same
    exact not_not.mp same

/-- The constructor keeps the entries. -/
theorem LedgerTransaction.new_eq_ok {header : TransactionHeader} {bookId : String}
    {entries : List TransactionEntry} {built : LedgerTransaction}
    (made : LedgerTransaction.new header bookId entries = .ok built) :
    built.entries = entries := by
  obtain ⟨_, -, returned⟩ := Except.bind_eq_ok.mp made
  cases returned
  rfl

namespace TransactionFactory

/-- The lines of a split are the splits, each on an expense account. -/
theorem splitEntries_eq_ok {id : String} {currency : CurrencyCode}
    {splits : List (Account × Money)} {index : Nat} {entries : List TransactionEntry}
    (made : splitEntries id currency splits index = .ok entries) :
    legsOf entries = splits.map (fun split => (split.1.id, split.2.minorUnits)) ∧
      ∀ split ∈ splits, split.1.type = .expense := by
  induction splits generalizing index entries with
  | nil =>
    cases made
    exact ⟨rfl, fun _ member => absurd member List.not_mem_nil⟩
  | cons split rest inductionHypothesis =>
    obtain ⟨account, amount⟩ := split
    obtain ⟨_, typed, made⟩ := Except.bind_eq_ok.mp made
    split at made
    · cases made
    obtain ⟨others, madeOthers, returned⟩ := Except.bind_eq_ok.mp made
    obtain ⟨legs, expenses⟩ := inductionHypothesis madeOthers
    cases returned
    refine ⟨?_, List.forall_mem_cons.mpr ⟨requireType_eq_ok typed, expenses⟩⟩
    rw [List.map_cons, ← legs]
    rfl

end TransactionFactory

/-- A built transaction has the legs of its intent, on accounts of the types it asks for. -/
theorem Intent.build_eq_ok {intent : Intent} {header : TransactionHeader} {bookId : String}
    {built : LedgerTransaction} (made : intent.build header bookId = .ok built) :
    legsOf built.entries = intent.legs.map (fun leg => (leg.1.id, leg.2)) ∧ intent.Typed := by
  cases intent with
  | expense expenseAccount fundingAccount amount expenseEntryId fundingEntryId =>
    obtain ⟨_, typed, made⟩ := Except.bind_eq_ok.mp made
    obtain ⟨_, -, made⟩ := Except.bind_eq_ok.mp made
    obtain ⟨_, -, made⟩ := Except.bind_eq_ok.mp made
    rw [LedgerTransaction.new_eq_ok made]
    exact ⟨rfl, requireType_eq_ok typed⟩
  | income incomeAccount depositAccount amount =>
    obtain ⟨_, typed, made⟩ := Except.bind_eq_ok.mp made
    obtain ⟨_, -, made⟩ := Except.bind_eq_ok.mp made
    obtain ⟨_, -, made⟩ := Except.bind_eq_ok.mp made
    rw [LedgerTransaction.new_eq_ok made]
    exact ⟨rfl, requireType_eq_ok typed⟩
  | transfer source target amount =>
    rw [Intent.build, TransactionFactory.transfer] at made
    split at made
    · cases made
    obtain ⟨_, -, made⟩ := Except.bind_eq_ok.mp made
    obtain ⟨_, -, made⟩ := Except.bind_eq_ok.mp made
    rw [LedgerTransaction.new_eq_ok made]
    exact ⟨rfl, trivial⟩
  | splitExpense fundingAccount splits =>
    match splits with
    | [] => cases made
    | [_] => cases made
    | first :: second :: rest =>
      obtain ⟨entries, lines, made⟩ := Except.bind_eq_ok.mp made
      obtain ⟨funding, total, made⟩ := Except.bind_eq_ok.mp made
      obtain ⟨_, -, made⟩ := Except.bind_eq_ok.mp made
      obtain ⟨legs, expenses⟩ := TransactionFactory.splitEntries_eq_ok lines
      have sum : funding.minorUnits = TransactionFactory.splitTotal (first :: second :: rest) := by
        unfold Money.new at total
        split at total
        · cases total
        · cases total
          rfl
      refine ⟨?_, expenses⟩
      rw [LedgerTransaction.new_eq_ok made, legsOf, List.map_append, Intent.legs,
        List.map_append, List.map_map, ← sum]
      exact congrArg (· ++ _) legs
  | refundExpense expenseAccount refundToAccount amount =>
    obtain ⟨_, typed, made⟩ := Except.bind_eq_ok.mp made
    obtain ⟨_, -, made⟩ := Except.bind_eq_ok.mp made
    obtain ⟨_, -, made⟩ := Except.bind_eq_ok.mp made
    rw [LedgerTransaction.new_eq_ok made]
    exact ⟨rfl, requireType_eq_ok typed⟩

end Ledgerly.DomainPackage
