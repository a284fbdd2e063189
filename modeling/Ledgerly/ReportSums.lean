/-
This file settles when the totals of the reports are the sums of the integers.

Every loop of the reports adds the positive amounts of some rows to a total of 64 bits, which
wraps around. An amount fits in 64 bits, since a push checks it; nothing bounds the sum over a
ledger.
-/

import Ledgerly.BudgetReport
import Ledgerly.Library.WrappedSums

namespace Ledgerly

open WrappedSum

/-! ### The loops as wrapped sums -/

/-- The rows that a report counts for a type of account. -/
def countedRows (type : String) (rows : List ReportRow) : List ReportRow :=
  rows.filter fun row => 0 < row.amount ∧ row.accountType = type

/-- The sum of the expenses under a name. -/
def categoryTotal (name : String) (rows : List ReportRow) : Int :=
  ((group ReportRow.name name (countedRows "expense" rows)).map ReportRow.amount).sum

theorem countedRows_append (type : String) (rows others : List ReportRow) :
    countedRows type (rows ++ others) = countedRows type rows ++ countedRows type others :=
  List.filter_append _ _

theorem countedRows_cons_of {type : String} {row : ReportRow} (rows : List ReportRow)
    (positive : 0 < row.amount) (typed : row.accountType = type) :
    countedRows type (row :: rows) = row :: countedRows type rows :=
  List.filter_cons_of_pos (decide_eq_true ⟨positive, typed⟩)

theorem countedRows_cons_of_not {type : String} {row : ReportRow} (rows : List ReportRow)
    (skipped : ¬(0 < row.amount ∧ row.accountType = type)) :
    countedRows type (row :: rows) = countedRows type rows :=
  List.filter_cons_of_neg (by simpa using skipped)

theorem positiveTotal_eq (type : String) (rows : List ReportRow) :
    positiveTotal type rows = ((countedRows type rows).map ReportRow.amount).sum := by
  induction rows with
  | nil => rfl
  | cons row rows inductionHypothesis =>
    rw [positiveTotal_cons, inductionHypothesis]
    by_cases counted : 0 < row.amount ∧ row.accountType = type
    · rw [if_pos counted, countedRows_cons_of rows counted.1 counted.2, List.map_cons,
        List.sum_cons]
    · rw [if_neg counted, countedRows_cons_of_not rows counted, zero_add]

theorem amount_pos_of_counted {type : String} {rows : List ReportRow} {row : ReportRow}
    (member : row ∈ countedRows type rows) : 0 < row.amount :=
  (of_decide_eq_true (List.mem_filter.mp member).2).1

/-- A total of 64 bits after one more amount. -/
def addI64 (total : Int) (row : ReportRow) : Int := asI64 (total + row.amount)

/-- Each total takes the rows of its own type. -/
theorem foldl_count_eq (rows : List ReportRow) (totals : ReportTotals) :
    rows.foldl (fun totals row => totals.count row.accountType row.amount) totals =
      ⟨(countedRows "income" rows).foldl addI64 totals.income,
        (countedRows "expense" rows).foldl addI64 totals.expense⟩ := by
  induction rows generalizing totals with
  | nil => rfl
  | cons row rows inductionHypothesis =>
    rw [List.foldl_cons, inductionHypothesis, ReportTotals.count]
    by_cases positive : 0 < row.amount
    · by_cases isIncome : row.accountType = "income"
      · have notExpense : ¬row.accountType = "expense" := by rw [isIncome]; decide
        rw [if_pos positive, if_pos isIncome, countedRows_cons_of rows positive isIncome,
          countedRows_cons_of_not rows fun both => notExpense both.2]
        rfl
      · rw [countedRows_cons_of_not rows fun both => isIncome both.2]
        by_cases isExpense : row.accountType = "expense"
        · rw [if_pos positive, if_neg isIncome, if_pos isExpense,
            countedRows_cons_of rows positive isExpense]
          rfl
        · rw [if_pos positive, if_neg isIncome, if_neg isExpense,
            countedRows_cons_of_not rows fun both => isExpense both.2]
    · rw [if_neg positive, countedRows_cons_of_not rows fun both => positive both.1,
        countedRows_cons_of_not rows fun both => positive both.1]

theorem foldl_addI64 (rows : List ReportRow) :
    rows.foldl addI64 0 = asI64 (rows.map ReportRow.amount).sum := by
  have wrapped := @foldl_bmod _ (2 ^ 64) ReportRow.amount rows 0
  rw [zero_add] at wrapped
  exact wrapped

/-- The totals of the loops, in 64 bits. -/
theorem foldl_count_wraps (rows : List ReportRow) :
    rows.foldl (fun totals row => totals.count row.accountType row.amount) ReportTotals.zero =
      ⟨asI64 (positiveTotal "income" rows), asI64 (positiveTotal "expense" rows)⟩ := by
  rw [foldl_count_eq, positiveTotal_eq, positiveTotal_eq, ← foldl_addI64, ← foldl_addI64]
  rfl

section Aggregate

variable {rates : List FxRate} {base : String} {rows : List ReportRow}

theorem aggregateEntries_totals (inBase : ∀ row ∈ rows, row.currency = base) :
    (aggregateEntries rates base rows).1 =
      ⟨asI64 (positiveTotal "income" rows), asI64 (positiveTotal "expense" rows)⟩ := by
  rw [aggregateEntries_fst, ← foldl_count_wraps]
  exact List.foldl_ext _ _ _ fun totals row member => by rw [convertAmount_base (inBase row member)]

/-- The categories are the sums under the names of the expenses. -/
theorem aggregateEntries_snd (inBase : ∀ row ∈ rows, row.currency = base) :
    (aggregateEntries rates base rows).2 =
      sums ReportRow.name ReportRow.amount (2 ^ 64) (countedRows "expense" rows) ∅ := by
  rw [aggregateEntries]
  generalize ReportTotals.zero = totals
  generalize (∅ : KeyMap String Int) = categories
  induction rows generalizing totals categories with
  | nil => rfl
  | cons row rows inductionHypothesis =>
    obtain ⟨first, others⟩ := List.forall_mem_cons.mp inBase
    rw [List.foldl_cons, inductionHypothesis others, convertAmount_base first]
    by_cases counted : row.amount > 0 ∧ row.accountType = "expense"
    · rw [if_pos counted, countedRows_cons_of rows counted.1 counted.2]
      rfl
    · rw [if_neg counted, countedRows_cons_of_not rows counted]

theorem lookup_categories (inBase : ∀ row ∈ rows, row.currency = base) (name : String) :
    (aggregateEntries rates base rows).2.lookup name =
      if group ReportRow.name name (countedRows "expense" rows) = [] then none
      else some (asI64 (categoryTotal name rows)) := by
  rw [aggregateEntries_snd inBase, lookup_sums, AList.lookup_empty, Option.getD_none, zero_add]
  rfl

end Aggregate

/-- The sum of a budget, in 64 bits. -/
theorem budgetActual_eq (store : MemoryStore) (bookId : String) (start stop : Timestamp) :
    budgetActual store bookId start stop = asI64 (positiveTotal "expense"
      ((Backend.memory store).reportRows bookId (inRange start stop))) := by
  rw [budgetActual, positiveTotal_eq, ← foldl_addI64, countedRows, List.foldl_filter]
  refine congrArg (fun step => List.foldl step 0 _) (funext fun actual => funext fun row => ?_)
  by_cases counted : 0 < row.amount ∧ row.accountType = "expense"
  · rw [if_pos counted.symm, if_pos (decide_eq_true counted)]
    rfl
  · rw [if_neg fun both => counted ⟨both.2, both.1⟩, if_neg (by simpa using counted)]

/-! ### Exact totals -/

/-- A sum in 64 bits is the sum of the integers exactly if that one fits. -/
theorem asI64_eq_iff {value : Int} : asI64 value = value ↔ FitsI64 value := by
  rw [asI64, bmod_eq_self_iff (by decide), FitsI64]
  omega

/-- The two sums of the rows fit in 64 bits. -/
def SumsFit (rows : List ReportRow) : Prop :=
  positiveTotal "income" rows ≤ 2 ^ 63 - 1 ∧ positiveTotal "expense" rows ≤ 2 ^ 63 - 1

/-- The three figures of a report on the rows are those of the integers. -/
structure ExactTotals (rows : List ReportRow) (income expense net : Int) : Prop where
  income : income = positiveTotal "income" rows
  expense : expense = positiveTotal "expense" rows
  net : net = positiveTotal "income" rows - positiveTotal "expense" rows

/-- The categories are those of the expenses, each with the sum of the integers. -/
def ExactCategories (rows : List ReportRow) (categories : KeyMap String Int) : Prop :=
  ∀ name, categories.lookup name =
    if group ReportRow.name name (countedRows "expense" rows) = [] then none
    else some (categoryTotal name rows)

/-- The figures of totals in 64 bits. -/
theorem exactTotals_iff {rows : List ReportRow} {totals : ReportTotals}
    (wrapped : totals =
      ⟨asI64 (positiveTotal "income" rows), asI64 (positiveTotal "expense" rows)⟩) :
    ExactTotals rows totals.income totals.expense totals.net ↔ SumsFit rows := by
  have income := positiveTotal_nonneg "income" rows
  have expense := positiveTotal_nonneg "expense" rows
  rw [wrapped, ReportTotals.net]
  dsimp only
  constructor
  · rintro ⟨incomeExact, expenseExact, -⟩
    exact ⟨(asI64_eq_iff.mp incomeExact).2, (asI64_eq_iff.mp expenseExact).2⟩
  · rintro ⟨incomeFits, expenseFits⟩
    rw [asI64_of_fits ⟨by omega, incomeFits⟩, asI64_of_fits ⟨by omega, expenseFits⟩]
    exact ⟨rfl, rfl, asI64_of_fits ⟨by omega, by omega⟩⟩

/-- A part of the counted amounts is not more than all of them. -/
theorem sum_sublist_le {type : String} {rows : List ReportRow} {part : List ReportRow}
    (sublist : part.Sublist (countedRows type rows)) :
    0 ≤ (part.map ReportRow.amount).sum ∧
      (part.map ReportRow.amount).sum ≤ positiveTotal type rows := by
  have nonneg : ∀ amount ∈ (countedRows type rows).map ReportRow.amount, 0 ≤ amount := by
    intro amount member
    obtain ⟨row, counted, rfl⟩ := List.mem_map.mp member
    exact (amount_pos_of_counted counted).le
  rw [positiveTotal_eq]
  exact ⟨List.sum_nonneg fun amount member => nonneg amount ((sublist.map _).subset member),
    (sublist.map _).sum_le_sum nonneg⟩

/-- The expenses under a name are some of the expenses. -/
theorem categoryTotal_bounds (name : String) (rows : List ReportRow) :
    0 ≤ categoryTotal name rows ∧ categoryTotal name rows ≤ positiveTotal "expense" rows :=
  sum_sublist_le List.filter_sublist

/-- `aggregate_entries` is exact exactly if the two sums fit. -/
theorem aggregate_exact_iff {rates : List FxRate} {base : String} {rows : List ReportRow}
    (inBase : ∀ row ∈ rows, row.currency = base) :
    ExactTotals rows (aggregateEntries rates base rows).1.income
        (aggregateEntries rates base rows).1.expense (aggregateEntries rates base rows).1.net ∧
        ExactCategories rows (aggregateEntries rates base rows).2 ↔
      SumsFit rows := by
  rw [exactTotals_iff (aggregateEntries_totals inBase), and_iff_left_iff_imp]
  rintro ⟨-, fits⟩ name
  obtain ⟨lower, upper⟩ := categoryTotal_bounds name rows
  rw [lookup_categories inBase, asI64_of_fits ⟨by omega, by omega⟩]

/-- What a part of the ledger adds up to fits where the whole does. -/
theorem SumsFit.of_selected {backend : Backend} {bookId : String}
    (fits : SumsFit (backend.reportRows bookId fun _ => true)) (selected : TxRecord → Bool) :
    SumsFit (backend.reportRows bookId selected) :=
  ⟨(positiveTotal_le backend bookId "income" selected).trans fits.1,
    (positiveTotal_le backend bookId "expense" selected).trans fits.2⟩

/-- Every report on a book of the memory store shows the sums of the integers. -/
structure ReportsExact (store : MemoryStore) (bookId : String) : Prop where
  summary : ∀ start stop,
    let report := Ledgerly.summary (.memory store) bookId start stop
    ExactTotals ((Backend.memory store).reportRows bookId fun _ => true) report.incomeMinor
        report.expenseMinor report.netMinor ∧
      ExactCategories ((Backend.memory store).reportRows bookId fun _ => true) report.categories
  trend : ∀ now months, ∀ point ∈ Ledgerly.trend (.memory store) bookId now months,
    ExactTotals ((Backend.memory store).reportRows bookId (inMonth point.month)) point.incomeMinor
      point.expenseMinor point.netMinor
  budget : ∀ start stop, budgetActual store bookId start stop = positiveTotal "expense"
    ((Backend.memory store).reportRows bookId (inRange start stop))

/-- For every store, among them those that pushes lead to, and every book of one whose live
transactions are in the base currency: all reports on the book are exact exactly if the positive
amounts on its income accounts fit in 64 bits together, and those on its expense accounts too.
On the rows of any report, of either backend, `aggregate_entries` is exact exactly if those of the
rows do. -/
theorem report_totals_exact_iff (store : MemoryStore) (bookId : String)
    (inBase : ∀ tx ∈ (Backend.memory store).live bookId fun _ => true,
      ∀ entry ∈ tx.entries, entry.currency = "CNY") :
    (ReportsExact store bookId ↔
      SumsFit ((Backend.memory store).reportRows bookId fun _ => true)) ∧
    ∀ (rates : List FxRate) (base : String) (rows : List ReportRow),
      (∀ row ∈ rows, row.currency = base) →
      (ExactTotals rows (aggregateEntries rates base rows).1.income
          (aggregateEntries rates base rows).1.expense (aggregateEntries rates base rows).1.net ∧
          ExactCategories rows (aggregateEntries rates base rows).2 ↔
        SumsFit rows) := by
  have rowsInBase : ∀ row ∈ (Backend.memory store).reportRows bookId fun _ => true,
      row.currency = "CNY" := by
    intro row member
    obtain ⟨tx, isLive, rowOfTx⟩ := List.mem_flatMap.mp member
    obtain ⟨entry, isEntry, made⟩ := List.mem_filterMap.mp rowOfTx
    obtain ⟨account, -, rfl⟩ := Option.map_eq_some_iff.mp made
    exact inBase tx isLive entry isEntry
  refine ⟨⟨fun exact_ => ?_, fun fits => ?_⟩, fun rates base rows => aggregate_exact_iff⟩
  · exact (aggregate_exact_iff rowsInBase).mp (exact_.summary 0 0)
  · refine ⟨fun start stop => (aggregate_exact_iff rowsInBase).mpr fits, ?_, ?_⟩
    · intro now months point member
      obtain ⟨count, -, rfl⟩ := List.mem_map.mp (List.mem_reverse.mp member)
      exact (exactTotals_iff (foldl_count_wraps _)).mpr (fits.of_selected _)
    · intro start stop
      rw [budgetActual_eq]
      have lower := positiveTotal_nonneg "expense"
        ((Backend.memory store).reportRows bookId (inRange start stop))
      exact asI64_of_fits ⟨by omega, (fits.of_selected _).2⟩

/-- A store that holds one meal. -/
def mealStore : MemoryStore :=
  { MemoryStore.initial ∅ (withAccounts "A" ∅) with
    transactions := (∅ : KeyMap String TxRecord).insert "t1" (yuanMove "A:food" "A:cash") }

theorem meal_sums_exact : ReportsExact mealStore "A" :=
  (report_totals_exact_iff mealStore "A" (by decide)).1.mpr ⟨by decide, by decide⟩

/-- The push of an expense of the largest amount of 64 bits. -/
def largestExpense (mutationId entityId : String) : PushStep where
  bookId := "A"
  deviceId := "device"
  mutation := ⟨mutationId, "transaction", entityId, "create", 0, .obj [("entries", .arr
    [.obj [("accountId", .str "A:cash"), ("amountMinor", .str "-9223372036854775807")],
      .obj [("accountId", .str "A:food"), ("amountMinor", .str "9223372036854775807")]])]⟩
  stamp := ⟨epoch, mutationId⟩
  entriesFit := show 2 ≤ isizeMax from two_le_isizeMax

/-- Two such expenses are accepted, and the summary shows minus two. -/
theorem largest_expenses_wrap :
    let _ := epochClock
    let store := Machine.run pushStep (.initial ∅ (withAccounts "A" ∅))
      [largestExpense "m1" "t1", largestExpense "m2" "t2"]
    (summary (.memory store) "A" 0 1).expenseMinor = -2 ∧
      positiveTotal "expense" ((Backend.memory store).reportRows "A" fun _ => true) =
        18446744073709551614 ∧
      ¬ReportsExact store "A" := by
  intro _ store
  have shown : (summary (.memory store) "A" 0 1).expenseMinor = -2 := by decide
  have total : positiveTotal "expense" ((Backend.memory store).reportRows "A" fun _ => true) =
      18446744073709551614 := by decide
  refine ⟨shown, total, fun exact_ => ?_⟩
  have expense := (exact_.summary 0 1).1.expense
  rw [total] at expense
  exact absurd (shown.symm.trans expense) (by decide)

end Ledgerly
