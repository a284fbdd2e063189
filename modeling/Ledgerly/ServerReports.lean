/-
This file settles whether the reports of the server keep the identity of accounting: income
less expense is the change of what is owned and owed.

The reports count the entries with a positive amount only. An income stands with a negative
amount on its account, so that none is ever counted, and a refund takes nothing off the
expenses. What the reports miss is computed for each intent of the factory; the identity
holds where it adds up to zero.
-/

import Mathlib.Algebra.BigOperators.Group.List.Lemmas
import Mathlib.Algebra.Order.BigOperators.Group.List
import Ledgerly.Library.CivilDate
import Ledgerly.Postgres
import Ledgerly.TransactionFactory

namespace Ledgerly

/-! ### The rows of a report -/

/-- One entry with its account, as the reports read it. -/
structure ReportRow where
  name : String
  accountType : String
  amount : Int
  currency : String

/-- A row of `fx_rates`: the rounded quotient and product of an amount and the rate, which are
computed in floating point. -/
structure FxRate where
  baseCurrency : String
  quoteCurrency : String
  divide : Int → Int
  multiply : Int → Int

/-- `convert_amount`. -/
def convertAmount (rates : List FxRate) (amount : Int) (currency base : String) : Int :=
  if currency = base then amount
  else
    match rates.find? fun rate => rate.baseCurrency = base ∧ rate.quoteCurrency = currency with
    | some rate => rate.divide amount
    | none =>
      match rates.find? fun rate => rate.baseCurrency = currency ∧ rate.quoteCurrency = base with
      | some rate => rate.multiply amount
      | none => amount

/-- The two sums of a report, in 64 bits. -/
structure ReportTotals where
  income : Int
  expense : Int
  deriving DecidableEq

namespace ReportTotals

/-- No expense and no income. -/
def zero : ReportTotals := ⟨0, 0⟩

/-- What each of the three loops does with an amount. -/
def count (totals : ReportTotals) (accountType : String) (converted : Int) : ReportTotals :=
  if converted > 0 then
    if accountType = "income" then { totals with income := asI64 (totals.income + converted) }
    else if accountType = "expense" then
      { totals with expense := asI64 (totals.expense + converted) }
    else totals
  else totals

/-- `netMinor`. -/
def net (totals : ReportTotals) : Int := asI64 (totals.income - totals.expense)

end ReportTotals

/-- `aggregate_entries`: the sums, and the expenses by the name of their account. -/
def aggregateEntries (rates : List FxRate) (base : String) (rows : List ReportRow) :
    ReportTotals × KeyMap String Int :=
  rows.foldl (fun (totals, categories) row =>
    let converted := convertAmount rates row.amount row.currency base
    (totals.count row.accountType converted,
      if converted > 0 ∧ row.accountType = "expense" then
        categories.insert row.name (asI64 ((categories.lookup row.name).getD 0 + converted))
      else categories)) (.zero, ∅)

/-! ### The endpoints -/

/-- Where the server keeps a ledger: in the database, with the base currency of the book and its
exchange rates, or in memory. -/
inductive Backend
  | postgres (store : PgStore) (base : String) (rates : List FxRate)
  | memory (store : MemoryStore)

namespace Backend

variable (backend : Backend) (bookId : String)

/-- The transactions of the backend, -/
def transactions : Backend → KeyMap String TxRecord
  | .postgres store _ _ => store.transactions
  | .memory store => store.transactions

/-- its accounts, -/
def accounts : Backend → KeyMap String AccountRecord
  | .postgres store _ _ => store.accounts
  | .memory store => store.accounts

/-- and the currency that it reports in. -/
def base : Backend → String
  | .postgres _ base _ => base
  | .memory _ => "CNY"

/-- The live transactions of the book among those selected. -/
def live (selected : TxRecord → Bool) : List TxRecord :=
  backend.transactions.values.filter fun tx =>
    tx.bookId = bookId ∧ tx.deleted = false ∧ selected tx = true

/-- The entries of a transaction with their accounts. -/
def entryRows (tx : TxRecord) : List ReportRow :=
  tx.entries.filterMap fun entry =>
    (backend.accounts.lookup entry.accountId).map fun account =>
      ⟨account.name, account.accountType, entry.amountMinor, entry.currency⟩

/-- The rows of the transactions selected. -/
def reportRows (selected : TxRecord → Bool) : List ReportRow :=
  (backend.live bookId selected).flatMap backend.entryRows

end Backend

/-- `summary`. -/
structure ReportSummary where
  baseCurrency : String
  incomeMinor : Int
  expenseMinor : Int
  netMinor : Int
  categories : KeyMap String Int

/-- What `summary` selects. The memory store is read whole, whatever the query says. -/
def Backend.summarySelects (start stop : Int) : Backend → TxRecord → Bool
  | .postgres _ _ _ => fun tx => start ≤ tx.occurredAt.val ∧ tx.occurredAt.val < stop
  | .memory _ => fun _ => true

/-- `summary` of a book from one instant to another. -/
def summary (backend : Backend) (bookId : String) (start stop : Int) : ReportSummary :=
  let rows := backend.reportRows bookId (backend.summarySelects start stop)
  let aggregated := match backend with
    | .postgres _ base rates => aggregateEntries rates base rows
    | .memory _ => aggregateEntries [] "CNY" rows
  { baseCurrency := backend.base
    incomeMinor := aggregated.1.income
    expenseMinor := aggregated.1.expense
    netMinor := aggregated.1.net
    categories := aggregated.2 }

/-- `subtract_months`, on a year and a month. -/
def subtractMonths (date : Int × Int) : Nat → Int × Int
  | 0 => date
  | count + 1 =>
    let earlier := if date.2 = 1 then (date.1 - 1, 12) else (date.1, date.2 - 1)
    subtractMonths earlier count

/-- Midnight of the first day of a month in UTC, in nanoseconds since the Unix epoch. -/
def monthStart (year month : Int) : Int := CivilDate.toDays ⟨year, month, 1⟩ * 86400000000000

/-- `month_range`. -/
def monthRange (year month : Int) : Int × Int :=
  let next := if month = 12 then (year + 1, 1) else (year, month + 1)
  (monthStart year month, monthStart next.1 next.2)

/-- A transaction of the month. -/
def inMonth (date : Int × Int) (tx : TxRecord) : Bool :=
  let range := monthRange date.1 date.2
  range.1 ≤ tx.occurredAt.val ∧ tx.occurredAt.val < range.2

/-- The year and the month of an instant in UTC. -/
def yearAndMonth (instant : Timestamp) : Int × Int :=
  let date := CivilDate.ofDays (instant.val / 86400000000000)
  (date.year, date.month)

/-- One month of `trend`. -/
structure TrendPoint where
  month : Int × Int
  incomeMinor : Int
  expenseMinor : Int
  netMinor : Int
  deriving DecidableEq

/-- The sums of one month: those of `trend_pg` are converted, those of `trend_mem` are not. -/
def monthTotals (backend : Backend) (bookId : String) (date : Int × Int) : ReportTotals :=
  (backend.reportRows bookId (inMonth date)).foldl (fun totals row =>
    totals.count row.accountType (match backend with
      | .postgres _ base rates => convertAmount rates row.amount row.currency base
      | .memory _ => row.amount)) .zero

/-- `trend`: the last months, the oldest first. -/
def trend (backend : Backend) (bookId : String) (now : Timestamp) (months : Option Nat) :
    List TrendPoint :=
  ((List.range (min (months.getD 6) 24)).map fun count =>
    let date := subtractMonths (yearAndMonth now) count
    let totals := monthTotals backend bookId date
    ⟨date, totals.income, totals.expense, totals.net⟩).reverse

/-! ### Books of the factory -/

open DomainPackage

/-- The name of an account type in the accounts table. -/
def typeName : AccountType → String
  | .asset => "asset"
  | .liability => "liability"
  | .income => "income"
  | .expense => "expense"
  | .equity => "equity"

/-- A stored transaction is the one the factory builds of an intent, in the base currency, with
asset or liability accounts as the sides and with accounts of the types it was built for. -/
structure BuiltBy (backend : Backend) (intent : Intent) (tx : TxRecord) : Prop where
  built : ∃ header owner transaction, intent.build header owner = .ok transaction ∧
    tx.entries = transaction.entries.map fun entry =>
      ⟨entry.accountId, entry.amount.minorUnits, entry.amount.currency.value⟩
  currency : ∀ entry ∈ tx.entries, entry.currency = backend.base
  sides : ∀ account ∈ intent.sides, account.type = .asset ∨ account.type = .liability
  accounts : ∀ leg ∈ intent.legs, ∃ record,
    backend.accounts.lookup leg.1.id = some record ∧ record.accountType = typeName leg.1.type

/-- The positive amounts on the accounts of a type. -/
def positiveTotal (type : String) (rows : List ReportRow) : Int :=
  (rows.map fun row => if 0 < row.amount ∧ row.accountType = type then row.amount else 0).sum

/-- All live transactions of the book are built by the factory, and their totals fit in 64
bits. -/
structure FactoryBook (backend : Backend) (bookId : String) (intents : String → Intent) :
    Prop where
  built : ∀ tx ∈ backend.live bookId fun _ => true, BuiltBy backend (intents tx.id) tx
  incomeFits : positiveTotal "income" (backend.reportRows bookId fun _ => true) ≤ 2 ^ 63 - 1
  expenseFits : positiveTotal "expense" (backend.reportRows bookId fun _ => true) ≤ 2 ^ 63 - 1

/-- What an entry adds to the asset and liability accounts. -/
def ReportRow.change (row : ReportRow) : Int :=
  if row.accountType = "asset" ∨ row.accountType = "liability" then row.amount else 0

/-- The net change of all asset and liability accounts by the transactions selected. -/
def netChange (backend : Backend) (bookId : String) (selected : TxRecord → Bool) : Int :=
  ((backend.reportRows bookId selected).map ReportRow.change).sum

/-- What the reports miss of an intent: an income, a refund, and an expense with a negative amount.
An income with a negative amount is counted as an income and missed as what it takes away. -/
def DomainPackage.Intent.missed : Intent → Int
  | .expense _ _ amount _ _ => max (-amount.minorUnits) 0
  | .income _ _ amount => amount.minorUnits + min amount.minorUnits 0
  | .transfer _ _ _ => 0
  | .splitExpense _ splits => (splits.map fun split => max (-split.2.minorUnits) 0).sum
  | .refundExpense _ _ amount => max amount.minorUnits 0

/-- What the reports miss of the transactions selected. -/
def missedTotal (backend : Backend) (bookId : String) (selected : TxRecord → Bool)
    (intents : String → Intent) : Int :=
  ((backend.live bookId selected).map fun tx => (intents tx.id).missed).sum

/-! ### The loops -/

theorem positiveTotal_nonneg (type : String) (rows : List ReportRow) :
    0 ≤ positiveTotal type rows := by
  refine List.sum_nonneg fun amount member => ?_
  obtain ⟨row, -, rfl⟩ := List.mem_map.mp member
  split
  · rename_i positive
    exact le_of_lt positive.1
  · exact le_rfl

theorem positiveTotal_cons (type : String) (row : ReportRow) (rest : List ReportRow) :
    positiveTotal type (row :: rest) =
      (if 0 < row.amount ∧ row.accountType = type then row.amount else 0) +
        positiveTotal type rest := by
  rw [positiveTotal, List.map_cons, List.sum_cons, positiveTotal]

/-- As long as the totals fit, counting in 64 bits is adding. -/
theorem foldl_count (rows : List ReportRow) (totals : ReportTotals) (income : 0 ≤ totals.income)
    (expense : 0 ≤ totals.expense)
    (incomeFits : totals.income + positiveTotal "income" rows ≤ 2 ^ 63 - 1)
    (expenseFits : totals.expense + positiveTotal "expense" rows ≤ 2 ^ 63 - 1) :
    rows.foldl (fun totals row => totals.count row.accountType row.amount) totals =
      ⟨totals.income + positiveTotal "income" rows,
        totals.expense + positiveTotal "expense" rows⟩ := by
  induction rows generalizing totals with
  | nil => simp [positiveTotal]
  | cons row rest inductionHypothesis =>
    have incomeRest := positiveTotal_nonneg "income" rest
    have expenseRest := positiveTotal_nonneg "expense" rest
    rw [positiveTotal_cons] at incomeFits expenseFits
    rw [List.foldl_cons, positiveTotal_cons, positiveTotal_cons]
    by_cases positive : 0 < row.amount
    · by_cases isIncome : row.accountType = "income"
      · have notExpense : ¬row.accountType = "expense" := by rw [isIncome]; decide
        rw [if_pos ⟨positive, isIncome⟩] at incomeFits ⊢
        rw [if_neg fun both => notExpense both.2] at expenseFits ⊢
        have added : asI64 (totals.income + row.amount) = totals.income + row.amount :=
          asI64_of_fits ⟨by omega, by omega⟩
        have counted := inductionHypothesis ⟨totals.income + row.amount, totals.expense⟩
          (Int.add_nonneg income (le_of_lt positive)) expense (by rwa [add_assoc])
          (by rwa [zero_add] at expenseFits)
        rw [ReportTotals.count, if_pos positive, if_pos isIncome, added, counted, add_assoc,
          zero_add]
      · rw [if_neg fun both => isIncome both.2] at incomeFits ⊢
        by_cases isExpense : row.accountType = "expense"
        · rw [if_pos ⟨positive, isExpense⟩] at expenseFits ⊢
          have added : asI64 (totals.expense + row.amount) = totals.expense + row.amount :=
            asI64_of_fits ⟨by omega, by omega⟩
          have counted := inductionHypothesis ⟨totals.income, totals.expense + row.amount⟩ income
            (Int.add_nonneg expense (le_of_lt positive)) (by rwa [zero_add] at incomeFits)
            (by rwa [add_assoc])
          rw [ReportTotals.count, if_pos positive, if_neg isIncome, if_pos isExpense, added,
            counted, add_assoc, zero_add]
        · rw [if_neg fun both => isExpense both.2] at expenseFits ⊢
          rw [ReportTotals.count, if_pos positive, if_neg isIncome, if_neg isExpense,
            inductionHypothesis totals income expense (by omega) (by omega), zero_add, zero_add]
    · rw [if_neg fun both => positive both.1, zero_add] at incomeFits expenseFits ⊢
      rw [if_neg fun both => positive both.1, ReportTotals.count, if_neg positive,
        inductionHypothesis totals income expense incomeFits expenseFits, zero_add]

/-- The sums of `aggregate_entries` are those of its loop. -/
theorem aggregateEntries_fst (rates : List FxRate) (base : String) (rows : List ReportRow) :
    (aggregateEntries rates base rows).1 = rows.foldl (fun totals row =>
      totals.count row.accountType (convertAmount rates row.amount row.currency base)) .zero := by
  rw [aggregateEntries]
  generalize ReportTotals.zero = totals
  generalize (∅ : KeyMap String Int) = categories
  induction rows generalizing totals categories with
  | nil => rfl
  | cons row rest inductionHypothesis => exact inductionHypothesis _ _

/-! ### What a report misses of a transaction -/

/-- What an entry on an account of a type adds to the asset and liability accounts and the reports
do not count. -/
def missedOf (type : String) (amount : Int) : Int :=
  (if type = "asset" ∨ type = "liability" then amount else 0) -
    ((if 0 < amount ∧ type = "income" then amount else 0) -
      if 0 < amount ∧ type = "expense" then amount else 0)

/-- The change, the counted amounts and the missed ones add up. -/
theorem sum_missedOf (rows : List ReportRow) :
    (rows.map fun row => missedOf row.accountType row.amount).sum =
      (rows.map ReportRow.change).sum -
        (positiveTotal "income" rows - positiveTotal "expense" rows) := by
  induction rows with
  | nil => simp [positiveTotal]
  | cons row rest inductionHypothesis =>
    rw [List.map_cons, List.sum_cons, inductionHypothesis, List.map_cons, List.sum_cons,
      positiveTotal_cons, positiveTotal_cons, missedOf, ReportRow.change]
    omega

theorem missedOf_expense (amount : Int) :
    missedOf (typeName .expense) amount = max amount 0 := by
  rw [missedOf, typeName, if_neg (by decide), if_neg (by simp)]
  by_cases positive : 0 < amount
  · rw [if_pos ⟨positive, rfl⟩]
    omega
  · rw [if_neg fun both => positive both.1]
    omega

theorem missedOf_income (amount : Int) :
    missedOf (typeName .income) amount = min (-amount) 0 := by
  rw [missedOf, typeName, if_neg (by decide)]
  by_cases positive : 0 < amount
  · rw [if_pos ⟨positive, rfl⟩, if_neg (by simp)]
    omega
  · rw [if_neg fun both => positive both.1, if_neg fun both => positive both.1]
    omega

/-- Asset and liability accounts are not counted. -/
theorem missedOf_side {type : AccountType} (side : type = .asset ∨ type = .liability)
    (amount : Int) : missedOf (typeName type) amount = amount := by
  rcases side with rfl | rfl
  · rw [missedOf, typeName, if_pos (by decide), if_neg (by simp), if_neg (by simp), sub_zero,
      sub_zero]
  · rw [missedOf, typeName, if_pos (by decide), if_neg (by simp), if_neg (by simp), sub_zero,
      sub_zero]

/-- A split adds up. -/
theorem foldl_splitTotal (splits : List (Account × DomainPackage.Money)) (start : Int) :
    splits.foldl (fun total split => total + split.2.minorUnits) start =
      start + (splits.map fun split => split.2.minorUnits).sum := by
  induction splits generalizing start with
  | nil => rw [List.foldl_nil, List.map_nil, List.sum_nil, add_zero]
  | cons split rest inductionHypothesis =>
    rw [List.foldl_cons, inductionHypothesis, List.map_cons, List.sum_cons, add_assoc]

/-- The lines of a split, less their sum. -/
theorem sum_splits {splits : List (Account × DomainPackage.Money)}
    (expenses : ∀ split ∈ splits, split.1.type = .expense) :
    (splits.map fun split => missedOf (typeName split.1.type) split.2.minorUnits).sum -
        (splits.map fun split => split.2.minorUnits).sum =
      (splits.map fun split => max (-split.2.minorUnits) 0).sum := by
  induction splits with
  | nil => rfl
  | cons split rest inductionHypothesis =>
    obtain ⟨first, others⟩ := List.forall_mem_cons.mp expenses
    have rest_eq := inductionHypothesis others
    rw [List.map_cons, List.sum_cons, List.map_cons, List.sum_cons, List.map_cons, List.sum_cons,
      ← rest_eq, first, missedOf_expense]
    omega

/-- The legs of an intent, of the types that it asks for. -/
theorem sum_legs {intent : Intent} (typed : intent.Typed)
    (sides : ∀ account ∈ intent.sides, account.type = .asset ∨ account.type = .liability) :
    (intent.legs.map fun leg => missedOf (typeName leg.1.type) leg.2).sum = intent.missed := by
  cases intent with
  | expense expenseAccount fundingAccount amount expenseEntryId fundingEntryId =>
    have expenses : expenseAccount.type = .expense := typed
    have funding := sides fundingAccount (List.mem_singleton_self _)
    simp only [Intent.legs, List.map_cons, List.map_nil, List.sum_cons, List.sum_nil, expenses,
      missedOf_expense, missedOf_side funding, Intent.missed]
    omega
  | income incomeAccount depositAccount amount =>
    have incomes : incomeAccount.type = .income := typed
    have deposit := sides depositAccount (List.mem_singleton_self _)
    simp only [Intent.legs, List.map_cons, List.map_nil, List.sum_cons, List.sum_nil, incomes,
      missedOf_income, missedOf_side deposit, Intent.missed]
    omega
  | transfer source target amount =>
    have from_ := sides source (List.mem_cons_self ..)
    have to_ := sides target (List.mem_cons_of_mem _ (List.mem_singleton_self _))
    simp only [Intent.legs, List.map_cons, List.map_nil, List.sum_cons, List.sum_nil,
      missedOf_side from_, missedOf_side to_, Intent.missed]
    omega
  | splitExpense fundingAccount splits =>
    have funding := sides fundingAccount (List.mem_singleton_self _)
    rw [Intent.legs, List.map_append, List.sum_append, List.map_map, List.map_singleton,
      List.sum_singleton, missedOf_side funding, TransactionFactory.splitTotal, foldl_splitTotal,
      zero_add, Intent.missed, ← sum_splits typed]
    rfl
  | refundExpense expenseAccount refundToAccount amount =>
    have expenses : expenseAccount.type = .expense := typed
    have refund := sides refundToAccount (List.mem_singleton_self _)
    simp only [Intent.legs, List.map_cons, List.map_nil, List.sum_cons, List.sum_nil, expenses,
      missedOf_expense, missedOf_side refund, Intent.missed]
    omega

section Transaction

variable {backend : Backend}

/-- The rows of a transaction by account and amount. -/
theorem map_entryRows (backend : Backend) (tx : TxRecord) :
    (backend.entryRows tx).map (fun row => missedOf row.accountType row.amount) =
      (tx.entries.map fun entry => (entry.accountId, entry.amountMinor)).filterMap fun leg =>
        (backend.accounts.lookup leg.1).map fun account => missedOf account.accountType leg.2 := by
  rw [Backend.entryRows, List.map_filterMap, List.filterMap_map]
  refine congrArg (fun read => tx.entries.filterMap read) (funext fun entry => ?_)
  rw [Option.map_map]
  rfl

/-- What the reports miss of a transaction is what they miss of its intent. -/
theorem BuiltBy.missed {intent : Intent} {tx : TxRecord} (by_ : BuiltBy backend intent tx) :
    ((backend.entryRows tx).map fun row => missedOf row.accountType row.amount).sum =
      intent.missed := by
  obtain ⟨header, owner, transaction, made, entries⟩ := by_.built
  obtain ⟨legs, typed⟩ := Intent.build_eq_ok made
  have stored : (tx.entries.map fun entry => (entry.accountId, entry.amountMinor)) =
      intent.legs.map fun leg => (leg.1.id, leg.2) := by
    rw [entries, List.map_map, ← legs]
    rfl
  rw [map_entryRows, stored, List.filterMap_map, ← sum_legs typed by_.sides]
  refine congrArg List.sum ?_
  rw [← List.filterMap_eq_map]
  refine List.filterMap_congr fun leg member => ?_
  obtain ⟨record, found, sameType⟩ := by_.accounts leg member
  rw [Function.comp_apply, found, Option.map_some, sameType]
  rfl

end Transaction

/-! ### The identity -/

section Identity

variable {backend : Backend} {bookId : String} {intents : String → Intent}

/-- A selection is a part of the book. -/
theorem live_sublist (backend : Backend) (bookId : String) (selected : TxRecord → Bool) :
    List.Sublist (backend.live bookId selected) (backend.live bookId fun _ => true) := by
  have refines : backend.live bookId selected =
      (backend.live bookId fun _ => true).filter selected := by
    rw [Backend.live, Backend.live, List.filter_filter]
    refine List.filter_congr fun tx _ => ?_
    simp [Bool.and_comm, Bool.and_assoc]
  rw [refines]
  exact List.filter_sublist

/-- The totals of a selection are at most those of the book. -/
theorem positiveTotal_le (backend : Backend) (bookId type : String) (selected : TxRecord → Bool) :
    positiveTotal type (backend.reportRows bookId selected) ≤
      positiveTotal type (backend.reportRows bookId fun _ => true) := by
  have rows : List.Sublist (backend.reportRows bookId selected)
      (backend.reportRows bookId fun _ => true) :=
    (live_sublist backend bookId selected).flatMap _
  refine (rows.map _).sum_le_sum fun amount member => ?_
  obtain ⟨row, -, rfl⟩ := List.mem_map.mp member
  split
  · rename_i positive
    exact le_of_lt positive.1
  · exact le_rfl

/-- The rows of a factory book are in the base currency. -/
theorem FactoryBook.currency (book : FactoryBook backend bookId intents)
    (selected : TxRecord → Bool) :
    ∀ row ∈ backend.reportRows bookId selected, row.currency = backend.base := by
  intro row member
  obtain ⟨tx, isLive, rowOfTx⟩ := List.mem_flatMap.mp member
  obtain ⟨entry, isEntry, made⟩ := List.mem_filterMap.mp rowOfTx
  obtain ⟨account, -, rfl⟩ := Option.map_eq_some_iff.mp made
  exact (book.built tx ((live_sublist backend bookId selected).subset isLive)).currency entry
    isEntry

/-- The sums of any selection of a factory book are the positive amounts. -/
theorem FactoryBook.totals (book : FactoryBook backend bookId intents)
    (selected : TxRecord → Bool) (convert : ReportRow → Int)
    (unconverted : ∀ row ∈ backend.reportRows bookId selected, convert row = row.amount) :
    (backend.reportRows bookId selected).foldl
        (fun (totals : ReportTotals) row => totals.count row.accountType (convert row)) .zero =
      ⟨positiveTotal "income" (backend.reportRows bookId selected),
        positiveTotal "expense" (backend.reportRows bookId selected)⟩ := by
  have income := (positiveTotal_le backend bookId "income" selected).trans book.incomeFits
  have expense := (positiveTotal_le backend bookId "expense" selected).trans book.expenseFits
  rw [List.foldl_ext _ (fun totals row => ReportTotals.count totals row.accountType row.amount) _
    fun totals row member => by rw [unconverted row member],
    foldl_count _ .zero le_rfl le_rfl (by rwa [ReportTotals.zero, zero_add])
      (by rwa [ReportTotals.zero, zero_add]), ReportTotals.zero, zero_add, zero_add]

/-- The missed amounts of the rows are those of the intents. -/
theorem FactoryBook.missed (book : FactoryBook backend bookId intents)
    (selected : TxRecord → Bool) :
    ((backend.reportRows bookId selected).map fun row =>
      missedOf row.accountType row.amount).sum = missedTotal backend bookId selected intents := by
  rw [Backend.reportRows, List.map_flatMap, List.flatMap_def, List.sum_flatten, List.map_map,
    missedTotal]
  refine congrArg List.sum (List.map_congr_left fun tx member => ?_)
  exact (book.built tx ((live_sublist backend bookId selected).subset member)).missed

/-- The net of a selection is the net change exactly if nothing is missed. -/
theorem FactoryBook.net_iff (book : FactoryBook backend bookId intents)
    (selected : TxRecord → Bool) :
    ReportTotals.net ⟨positiveTotal "income" (backend.reportRows bookId selected),
        positiveTotal "expense" (backend.reportRows bookId selected)⟩ =
        netChange backend bookId selected ↔
      missedTotal backend bookId selected intents = 0 := by
  have income := (positiveTotal_le backend bookId "income" selected).trans book.incomeFits
  have expense := (positiveTotal_le backend bookId "expense" selected).trans book.expenseFits
  have incomeLower := positiveTotal_nonneg "income" (backend.reportRows bookId selected)
  have expenseLower := positiveTotal_nonneg "expense" (backend.reportRows bookId selected)
  have sum := sum_missedOf (backend.reportRows bookId selected)
  have fits : FitsI64 (positiveTotal "income" (backend.reportRows bookId selected) -
      positiveTotal "expense" (backend.reportRows bookId selected)) := ⟨by omega, by omega⟩
  have net : ReportTotals.net ⟨positiveTotal "income" (backend.reportRows bookId selected),
      positiveTotal "expense" (backend.reportRows bookId selected)⟩ =
        positiveTotal "income" (backend.reportRows bookId selected) -
          positiveTotal "expense" (backend.reportRows bookId selected) :=
    asI64_of_fits fits
  rw [net, ← book.missed selected, sum, netChange]
  omega

theorem convertAmount_base {rates : List FxRate} {amount : Int} {currency base : String}
    (same : currency = base) : convertAmount rates amount currency base = amount :=
  if_pos same

/-- The summary of a factory book. -/
theorem FactoryBook.summary_net (book : FactoryBook backend bookId intents) (start stop : Int) :
    (summary backend bookId start stop).netMinor =
      ReportTotals.net
        ⟨positiveTotal "income"
            (backend.reportRows bookId (backend.summarySelects start stop)),
          positiveTotal "expense"
            (backend.reportRows bookId (backend.summarySelects start stop))⟩ := by
  have currency := book.currency (backend.summarySelects start stop)
  refine congrArg ReportTotals.net ?_
  cases backend with
  | postgres store base rates =>
    simp only
    rw [aggregateEntries_fst]
    exact book.totals _ _ fun row member => convertAmount_base (currency row member)
  | memory store =>
    simp only
    rw [aggregateEntries_fst]
    exact book.totals _ _ fun row member => convertAmount_base (currency row member)

/-- The sums of a month of a factory book. -/
theorem FactoryBook.monthTotals (book : FactoryBook backend bookId intents) (date : Int × Int) :
    Ledgerly.monthTotals backend bookId date =
      ⟨positiveTotal "income" (backend.reportRows bookId (inMonth date)),
        positiveTotal "expense" (backend.reportRows bookId (inMonth date))⟩ := by
  have currency := book.currency (inMonth date)
  refine book.totals (inMonth date) _ fun row member => ?_
  cases backend with
  | postgres store base rates => exact convertAmount_base (currency row member)
  | memory store => rfl

end Identity

/-- On either backend, for every book whose live transactions are built by the factory in the base
currency: the net of the summary, and of every month of the trend, is the net change of the asset
and liability accounts exactly if the amounts that the reports miss of the intents in question add
up to zero. -/
theorem reports_identity_iff (backend : Backend) (bookId : String) (intents : String → Intent)
    (book : FactoryBook backend bookId intents) (start stop : Int) (now : Timestamp)
    (months : Option Nat) :
    ((summary backend bookId start stop).netMinor =
        netChange backend bookId (backend.summarySelects start stop) ↔
      missedTotal backend bookId (backend.summarySelects start stop) intents = 0) ∧
    ∀ point ∈ trend backend bookId now months,
      (point.netMinor = netChange backend bookId (inMonth point.month) ↔
        missedTotal backend bookId (inMonth point.month) intents = 0) := by
  refine ⟨?_, fun point member => ?_⟩
  · rw [book.summary_net, book.net_iff]
  · obtain ⟨count, -, rfl⟩ := List.mem_map.mp (List.mem_reverse.mp member)
    simp only
    rw [book.monthTotals, book.net_iff]

/-! ### A salary -/

theorem hundred_ne_zero : (100 : Int) ≠ 0 := by decide

/-- One yuan. -/
def oneYuan : DomainPackage.Money := ⟨100, cny, hundred_ne_zero⟩

/-- An account of money, -/
def cashAccount : Account := ⟨"A:cash", .asset, cny⟩

/-- one of expenses, -/
def foodAccount : Account := ⟨"A:food", .expense, cny⟩

/-- and one of income. -/
def salaryAccount : Account := ⟨"A:salary", .income, cny⟩

/-- A transaction of book `A` that moves one yuan from one account to another. -/
def yuanMove (debit credit : String) : TxRecord where
  id := "t1"
  bookId := "A"
  occurredAt := epoch
  description := none
  version := 1
  deleted := false
  entries := [⟨debit, 100, "CNY"⟩, ⟨credit, -100, "CNY"⟩]
  source := none
  sourceEventFingerprint := none

/-- A server without a database that holds one transaction. -/
def holding (row : TxRecord) : Backend :=
  .memory
    { MemoryStore.initial ∅ ((withAccounts "A" ∅).insert "A:salary"
        ⟨"A:salary", "A", "Salary", "income", "CNY", none, 1⟩) with
      transactions := (∅ : KeyMap String TxRecord).insert "t1" row }

/-- A meal, paid in cash. -/
def meal : Intent := .expense foodAccount cashAccount oneYuan none none

/-- A salary, paid in cash. -/
def salary : Intent := .income salaryAccount cashAccount oneYuan

theorem meal_book : FactoryBook (holding (yuanMove "A:food" "A:cash")) "A" fun _ => meal := by
  refine ⟨fun tx member => ?_, by decide, by decide⟩
  obtain rfl := List.mem_singleton.mp member
  refine ⟨⟨⟨"t1", 0, none, none, none⟩, "A", _, rfl, rfl⟩, by decide, by decide, ?_⟩
  intro leg isLeg
  rcases List.mem_pair.mp isLeg with rfl | rfl
  · exact ⟨_, rfl, rfl⟩
  · exact ⟨_, rfl, rfl⟩

theorem meal_reported :
    ((summary (holding (yuanMove "A:food" "A:cash")) "A" 0 1).netMinor =
        netChange (holding (yuanMove "A:food" "A:cash")) "A"
          ((holding (yuanMove "A:food" "A:cash")).summarySelects 0 1) ↔
      missedTotal (holding (yuanMove "A:food" "A:cash")) "A"
        ((holding (yuanMove "A:food" "A:cash")).summarySelects 0 1) (fun _ => meal) = 0) ∧
    ∀ point ∈ trend (holding (yuanMove "A:food" "A:cash")) "A" epoch none,
      (point.netMinor =
          netChange (holding (yuanMove "A:food" "A:cash")) "A" (inMonth point.month) ↔
        missedTotal (holding (yuanMove "A:food" "A:cash")) "A" (inMonth point.month)
          (fun _ => meal) = 0) :=
  reports_identity_iff _ "A" (fun _ => meal) meal_book 0 1 epoch none

/-- A salary is all there is: the cash has grown by a yuan, and the summary and the trend show
nothing. -/
theorem salary_not_reported :
    FactoryBook (holding (yuanMove "A:cash" "A:salary")) "A" (fun _ => salary) ∧
      (summary (holding (yuanMove "A:cash" "A:salary")) "A" 0 1).netMinor = 0 ∧
      netChange (holding (yuanMove "A:cash" "A:salary")) "A" (fun _ => true) = 100 ∧
      ∃ point ∈ trend (holding (yuanMove "A:cash" "A:salary")) "A" epoch none,
        point.netMinor ≠
          netChange (holding (yuanMove "A:cash" "A:salary")) "A" (inMonth point.month) := by
  refine ⟨⟨fun tx member => ?_, by decide, by decide⟩, by decide, by decide, ?_⟩
  · obtain rfl := List.mem_singleton.mp member
    refine ⟨⟨⟨"t1", 0, none, none, none⟩, "A", _, rfl, rfl⟩, by decide, by decide, ?_⟩
    intro leg isLeg
    rcases List.mem_pair.mp isLeg with rfl | rfl
    · exact ⟨_, rfl, rfl⟩
    · exact ⟨_, rfl, rfl⟩
  · exact ⟨⟨(1970, 1), 0, 0, 0⟩, by decide, by decide⟩

end Ledgerly
