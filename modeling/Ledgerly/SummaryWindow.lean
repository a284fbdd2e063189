/-
This file settles when the summary of the memory store agrees with the one of the database.

The database selects the transactions from one instant up to another one. The memory store is read
whole, so that everything outside the window is added too. The two summaries agree where that adds
nothing: for a ledger whose sums fit in 64 bits, where no income and no expense lies outside.
-/

import Ledgerly.ReportSums

namespace Ledgerly

open WrappedSum

/-! ### Two stores with the same ledger -/

/-- The database and the memory store hold the same transactions and accounts. -/
structure StoredAlike (store : PgStore) (memory : MemoryStore) : Prop where
  transactions : ∀ id, store.transactions.lookup id = memory.transactions.lookup id
  accounts : ∀ id, store.accounts.lookup id = memory.accounts.lookup id

/-- The transactions from one instant up to another one. -/
def inWindow (start stop : Int) (tx : TxRecord) : Bool :=
  start ≤ tx.occurredAt.val ∧ tx.occurredAt.val < stop

section Rows

variable {store : PgStore} {memory : MemoryStore} {base : String} {rates : List FxRate}

theorem live_eq_filter (backend : Backend) (bookId : String) (selected : TxRecord → Bool) :
    backend.live bookId selected = (backend.live bookId fun _ => true).filter selected := by
  rw [Backend.live, Backend.live, List.filter_filter]
  refine List.filter_congr fun tx _ => ?_
  simp [Bool.and_comm, Bool.and_assoc]

/-- The rows of two stores with the same ledger. -/
theorem StoredAlike.rows_perm (alike : StoredAlike store memory) (bookId : String)
    (selected : TxRecord → Bool) :
    ((Backend.postgres store base rates).reportRows bookId selected).Perm
      ((Backend.memory memory).reportRows bookId selected) := by
  have sameRows : (Backend.postgres store base rates).entryRows =
      (Backend.memory memory).entryRows := by
    funext tx
    refine List.filterMap_congr fun entry _ => ?_
    exact congrArg (Option.map _) (alike.accounts entry.accountId)
  rw [Backend.reportRows, Backend.reportRows, sameRows]
  exact ((KeyMap.values_perm alike.transactions).filter _).flatMap_right _

/-- The rows of the book are those of the window and those outside. -/
theorem rows_split (backend : Backend) (bookId : String) (selected : TxRecord → Bool) :
    (backend.reportRows bookId selected ++ backend.reportRows bookId fun tx => !selected tx).Perm
      (backend.reportRows bookId fun _ => true) := by
  rw [Backend.reportRows, Backend.reportRows, Backend.reportRows, ← List.flatMap_append,
    live_eq_filter backend bookId selected, live_eq_filter backend bookId fun tx => !selected tx]
  exact (List.filter_append_perm selected _).flatMap_right _

end Rows

/-! ### Sums without an order -/

section Sums

variable {rows others : List ReportRow}

theorem positiveTotal_perm (same : rows.Perm others) (type : String) :
    positiveTotal type rows = positiveTotal type others :=
  (same.map _).sum_eq

theorem positiveTotal_append (type : String) (rows others : List ReportRow) :
    positiveTotal type (rows ++ others) = positiveTotal type rows + positiveTotal type others := by
  rw [positiveTotal, List.map_append, List.sum_append, positiveTotal, positiveTotal]

/-- The expenses under a name. -/
def expensesNamed (name : String) (rows : List ReportRow) : List ReportRow :=
  group ReportRow.name name (countedRows "expense" rows)

theorem expensesNamed_perm (same : rows.Perm others) (name : String) :
    (expensesNamed name rows).Perm (expensesNamed name others) :=
  (same.filter _).filter _

theorem expensesNamed_append (name : String) (rows others : List ReportRow) :
    expensesNamed name (rows ++ others) = expensesNamed name rows ++ expensesNamed name others := by
  rw [expensesNamed, countedRows_append, group, List.filter_append]
  rfl

theorem categoryTotal_append (name : String) (rows others : List ReportRow) :
    categoryTotal name (rows ++ others) = categoryTotal name rows + categoryTotal name others := by
  show ((expensesNamed name (rows ++ others)).map ReportRow.amount).sum = _
  rw [expensesNamed_append, List.map_append, List.sum_append]
  rfl

theorem categoryTotal_perm (same : rows.Perm others) (name : String) :
    categoryTotal name rows = categoryTotal name others :=
  ((expensesNamed_perm same name).map _).sum_eq

/-- The counted amounts are positive, so that they add up to nothing only if there are none. -/
theorem countedRows_eq_nil {type : String} (nothing : positiveTotal type rows = 0) :
    countedRows type rows = [] := by
  rw [List.eq_nil_iff_forall_not_mem]
  intro row counted
  have positive := amount_pos_of_counted counted
  have most := (sum_sublist_le (List.singleton_sublist.mpr counted)).2
  rw [List.map_singleton, List.sum_singleton] at most
  omega

end Sums

/-! ### The two summaries -/

/-- The summary adds up the rows. -/
structure ReportSummary.Shows (report : ReportSummary) (rows : List ReportRow) : Prop where
  income : report.incomeMinor = asI64 (positiveTotal "income" rows)
  expense : report.expenseMinor = asI64 (positiveTotal "expense" rows)
  net : report.netMinor = asI64 (report.incomeMinor - report.expenseMinor)
  categories : ∀ name, report.categories.lookup name =
    if expensesNamed name rows = [] then none else some (asI64 (categoryTotal name rows))

/-- Two summaries show the same totals, and the same sum under every category. -/
structure ReportSummary.SameFigures (report other : ReportSummary) : Prop where
  income : report.incomeMinor = other.incomeMinor
  expense : report.expenseMinor = other.expenseMinor
  net : report.netMinor = other.netMinor
  categories : ∀ name, report.categories.lookup name = other.categories.lookup name

/-- What lies outside the window makes no difference to sums of 64 bits, and has no category of
its own. -/
structure AddsNothing (inside outside : List ReportRow) : Prop where
  income : 2 ^ 64 ∣ positiveTotal "income" outside
  expense : 2 ^ 64 ∣ positiveTotal "expense" outside
  named : ∀ name, expensesNamed name inside = [] → expensesNamed name outside = []
  categories : ∀ name, 2 ^ 64 ∣ categoryTotal name outside

theorem ReportSummary.Shows.perm {report : ReportSummary} {rows others : List ReportRow}
    (shows_ : report.Shows rows) (same : rows.Perm others) : report.Shows others := by
  refine ⟨?_, ?_, shows_.net, fun name => ?_⟩
  · rw [shows_.income, positiveTotal_perm same]
  · rw [shows_.expense, positiveTotal_perm same]
  · rw [shows_.categories, categoryTotal_perm same]
    refine if_congr ?_ rfl rfl
    rw [← List.length_eq_zero_iff, (expensesNamed_perm same name).length_eq,
      List.length_eq_zero_iff]

theorem asI64_add_eq_iff {value more : Int} :
    asI64 (value + more) = asI64 value ↔ 2 ^ 64 ∣ more :=
  bmod_add_eq_iff

/-- A summary of more rows shows the same exactly if the further rows add nothing. -/
theorem sameFigures_iff {report other : ReportSummary} {inside outside : List ReportRow}
    (whole : report.Shows (inside ++ outside)) (part : other.Shows inside) :
    report.SameFigures other ↔ AddsNothing inside outside := by
  have income : report.incomeMinor = other.incomeMinor ↔
      2 ^ 64 ∣ positiveTotal "income" outside := by
    rw [whole.income, part.income, positiveTotal_append, asI64_add_eq_iff]
  have expense : report.expenseMinor = other.expenseMinor ↔
      2 ^ 64 ∣ positiveTotal "expense" outside := by
    rw [whole.expense, part.expense, positiveTotal_append, asI64_add_eq_iff]
  have category : ∀ name, report.categories.lookup name = other.categories.lookup name ↔
      (expensesNamed name inside = [] → expensesNamed name outside = []) ∧
        2 ^ 64 ∣ categoryTotal name outside := by
    intro name
    have noneOutside : expensesNamed name outside = [] → categoryTotal name outside = 0 := by
      intro none_
      show ((expensesNamed name outside).map ReportRow.amount).sum = 0
      rw [none_]
      rfl
    rw [whole.categories, part.categories, expensesNamed_append]
    by_cases noneInside : expensesNamed name inside = []
    · by_cases none_ : expensesNamed name outside = []
      · simp [noneInside, none_, noneOutside none_]
      · simp [noneInside, none_]
    · rw [if_neg fun both => noneInside (List.append_eq_nil_iff.mp both).1, if_neg noneInside,
        Option.some.injEq,
        categoryTotal_append, asI64_add_eq_iff]
      exact ⟨fun divides => ⟨fun none_ => absurd none_ noneInside, divides⟩, And.right⟩
  constructor
  · intro same
    exact ⟨income.mp same.income, expense.mp same.expense,
      fun name => ((category name).mp (same.categories name)).1,
      fun name => ((category name).mp (same.categories name)).2⟩
  · intro nothing
    refine ⟨income.mpr nothing.income, expense.mpr nothing.expense, ?_,
      fun name => (category name).mpr ⟨nothing.named name, nothing.categories name⟩⟩
    rw [whole.net, part.net, income.mpr nothing.income, expense.mpr nothing.expense]

/-- Where the sums fit, only the lack of any income and expense adds nothing. -/
theorem addsNothing_iff {inside outside : List ReportRow} (fits : SumsFit outside) :
    AddsNothing inside outside ↔
      countedRows "income" outside = [] ∧ countedRows "expense" outside = [] := by
  have zero : ∀ type, positiveTotal type outside ≤ 2 ^ 63 - 1 →
      2 ^ 64 ∣ positiveTotal type outside → countedRows type outside = [] := by
    intro type below divides
    have nonneg := positiveTotal_nonneg type outside
    exact countedRows_eq_nil (by omega)
  constructor
  · exact fun nothing => ⟨zero _ fits.1 nothing.income, zero _ fits.2 nothing.expense⟩
  · rintro ⟨noIncome, noExpense⟩
    have noneNamed : ∀ name, expensesNamed name outside = [] := fun name => by
      rw [expensesNamed, noExpense]
      rfl
    refine ⟨?_, ?_, fun name _ => noneNamed name, fun name => ?_⟩
    · rw [positiveTotal_eq, noIncome]
      exact dvd_zero _
    · rw [positiveTotal_eq, noExpense]
      exact dvd_zero _
    · show 2 ^ 64 ∣ ((expensesNamed name outside).map ReportRow.amount).sum
      rw [noneNamed]
      exact dvd_zero _

section Shows

variable {rates : List FxRate} {base : String} {rows : List ReportRow}

/-- The figures that `aggregate_entries` makes of rows in the base currency. -/
theorem shows_of_inBase (inBase : ∀ row ∈ rows, row.currency = base) :
    ReportSummary.Shows
      { baseCurrency := base
        incomeMinor := (aggregateEntries rates base rows).1.income
        expenseMinor := (aggregateEntries rates base rows).1.expense
        netMinor := (aggregateEntries rates base rows).1.net
        categories := (aggregateEntries rates base rows).2 } rows := by
  have totals := @aggregateEntries_totals rates base rows inBase
  exact ⟨congrArg ReportTotals.income totals, congrArg ReportTotals.expense totals, rfl,
    fun name => lookup_categories inBase name⟩

end Shows

/-- For every book in the base currency that a database and a memory store hold alike, and for every
interval: the two summaries show the same exactly if the rows outside the interval add nothing to
sums of 64 bits. For a book whose sums fit in 64 bits that means that there is no positive amount
on an income or expense account outside. -/
theorem summaries_agree_iff (store : PgStore) (memory : MemoryStore) (rates : List FxRate)
    (bookId : String) (alike : StoredAlike store memory)
    (inBase : ∀ row ∈ (Backend.memory memory).reportRows bookId fun _ => true,
      row.currency = "CNY") (start stop : Int) :
    let inside := (Backend.memory memory).reportRows bookId (inWindow start stop)
    let outside := (Backend.memory memory).reportRows bookId fun tx => !inWindow start stop tx
    ((summary (.memory memory) bookId start stop).SameFigures
        (summary (.postgres store "CNY" rates) bookId start stop) ↔ AddsNothing inside outside) ∧
    (SumsFit outside →
      ((summary (.memory memory) bookId start stop).SameFigures
          (summary (.postgres store "CNY" rates) bookId start stop) ↔
        countedRows "income" outside = [] ∧ countedRows "expense" outside = [])) := by
  intro inside outside
  have split := rows_split (.memory memory) bookId (inWindow start stop)
  have sameRows := @StoredAlike.rows_perm store memory "CNY" rates alike bookId (inWindow start stop)
  have whole : (summary (.memory memory) bookId start stop).Shows (inside ++ outside) :=
    (shows_of_inBase inBase).perm split.symm
  have part : (summary (.postgres store "CNY" rates) bookId start stop).Shows inside := by
    refine (shows_of_inBase ?_).perm sameRows
    intro row member
    exact inBase row (split.subset (List.mem_append_left _ (sameRows.subset member)))
  have agree := sameFigures_iff whole part
  exact ⟨agree, fun fits => agree.trans (addsNothing_iff fits)⟩

/-- The database that holds one meal. -/
def mealDatabase : PgStore :=
  { PgStore.initial (withAccounts "A" ∅) with
    transactions := (∅ : KeyMap String TxRecord).insert "t1" (yuanMove "A:food" "A:cash") }

theorem meal_summaries_agree :
    (summary (.memory mealStore) "A" 0 1).SameFigures
      (summary (.postgres mealDatabase "CNY" []) "A" 0 1) :=
  ((summaries_agree_iff mealDatabase mealStore [] "A" ⟨fun _ => rfl, fun _ => rfl⟩ (by decide)
    0 1).2 ⟨by decide, by decide⟩).mpr (by decide)

/-- A meal of the epoch is in the summary of the memory store for any other time, and not in the one
of the database. -/
theorem meal_outside_is_summed :
    StoredAlike mealDatabase mealStore ∧
      (summary (.memory mealStore) "A" 1 2).expenseMinor = 100 ∧
      (summary (.postgres mealDatabase "CNY" []) "A" 1 2).expenseMinor = 0 ∧
      ¬(summary (.memory mealStore) "A" 1 2).SameFigures
        (summary (.postgres mealDatabase "CNY" []) "A" 1 2) := by
  have memory : (summary (.memory mealStore) "A" 1 2).expenseMinor = 100 := by decide
  have database : (summary (.postgres mealDatabase "CNY" []) "A" 1 2).expenseMinor = 0 := by decide
  refine ⟨⟨fun _ => rfl, fun _ => rfl⟩, memory, database, fun same => ?_⟩
  have expense := same.expense
  rw [memory, database] at expense
  exact absurd expense (by decide)

end Ledgerly
