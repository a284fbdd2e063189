/-
This file proves when the balance of a month, `summarizeMonth`, is what its transactions change in
the balances of the asset and liability accounts.

`_summarizeTransaction` keeps the total of a transaction without its sign. That is right for an
income, and for an expense, which is taken off again. A refund is an expense to it, so that the
balance loses what came back instead of gaining it.
-/

import Ledgerly.FactoryLedger
import Ledgerly.LocalReports

namespace Ledgerly

open DomainPackage ReportsPage

/-! ### Balances -/

/-- `balanceMinor`. -/
def ReportsPage.MonthlyLedgerSummary.balanceMinor (summary : MonthlyLedgerSummary) : Int :=
  summary.incomeMinor - summary.expenseMinor

/-- `accountBalance`, of the transactions of a ledger. It throws where an amount is no number. -/
def accountBalance (transactions : List LocalTransaction) (accountId : String) : Option Int := do
  let entries := (transactions.filter fun tx => !tx.deleted).flatMap fun tx =>
    tx.entries.filter fun entry => entry.accountId = accountId
  let amounts ← entries.mapM fun entry => decimalInt entry.amountMinor
  return amounts.sum

/-- The asset and liability accounts. -/
def Device.balanceAccounts (device : Device) : List String :=
  (device.accounts.entries.filter fun account => account.2.type ∈ ["asset", "liability"]).map
    Sigma.fst

/-- The sum of their balances. -/
def Device.netWorth (device : Device) (transactions : List LocalTransaction) : Option Int := do
  let balances ← device.balanceAccounts.mapM fun accountId => accountBalance transactions accountId
  return balances.sum

/-- What the summary of a transaction makes more of it than it changes. -/
def DomainPackage.Intent.overstated : Intent → Int
  | .expense _ _ amount _ _ => amount.minorUnits - |amount.minorUnits|
  | .income _ _ amount => |amount.minorUnits| - amount.minorUnits
  | .transfer _ _ _ => 0
  | .splitExpense _ splits =>
    TransactionFactory.splitTotal splits - |TransactionFactory.splitTotal splits|
  | .refundExpense _ _ amount => -amount.minorUnits - |amount.minorUnits|

/-! ### The sum over the accounts -/

/-- The entries on an account, added up. -/
def totalOn (accountId : String) (entries : List LocalEntry) : Int :=
  ((entries.filter fun entry => entry.accountId = accountId).map LocalEntry.amount).sum

theorem totalOn_cons (accountId : String) (entry : LocalEntry) (entries : List LocalEntry) :
    totalOn accountId (entry :: entries) =
      (if entry.accountId = accountId then entry.amount else 0) + totalOn accountId entries := by
  unfold totalOn
  rw [List.filter_cons]
  by_cases same : entry.accountId = accountId
  · rw [if_pos (decide_eq_true same), List.map_cons, List.sum_cons, if_pos same]
  · rw [if_neg (by simpa using same), if_neg same, zero_add]

/-- An amount that is given to one of some different accounts. -/
theorem sum_ite_eq {accountIds : List String} (distinct : accountIds.Nodup) (owner : String)
    (amount : Int) :
    (accountIds.map fun accountId => if owner = accountId then amount else 0).sum =
      if owner ∈ accountIds then amount else 0 := by
  induction accountIds with
  | nil => rfl
  | cons accountId accountIds inductionHypothesis =>
    obtain ⟨notLater, later⟩ := List.nodup_cons.mp distinct
    rw [List.map_cons, List.sum_cons, inductionHypothesis later]
    by_cases same : owner = accountId
    · rw [if_pos same, if_neg (by rwa [same]), if_pos (by rw [same]; exact List.mem_cons_self),
        add_zero]
    · rw [if_neg same, zero_add]
      exact if_congr (by rw [List.mem_cons, or_iff_right same]) rfl rfl

theorem nodup_balanceAccounts (device : Device) : device.balanceAccounts.Nodup :=
  (List.filter_sublist.map _).nodup device.accounts.nodupKeys

theorem mem_balanceAccounts {device : Device} {accountId : String} :
    accountId ∈ device.balanceAccounts ↔
      (device.accounts.lookup accountId).any (fun account =>
        account.type ∈ ["asset", "liability"]) = true := by
  rw [Device.balanceAccounts, List.mem_map, Option.any_eq_true]
  constructor
  · rintro ⟨account, member, rfl⟩
    obtain ⟨inAccounts, isBalance⟩ := List.mem_filter.mp member
    exact ⟨account.2, AList.mem_lookup_iff.mpr inAccounts, isBalance⟩
  · rintro ⟨account, found, isBalance⟩
    exact ⟨⟨accountId, account⟩, List.mem_filter.mpr ⟨AList.mem_lookup_iff.mp found, isBalance⟩, rfl⟩

/-- Each entry on one of the accounts is counted once. -/
theorem sum_totalOn (device : Device) (entries : List LocalEntry) :
    (device.balanceAccounts.map fun accountId => totalOn accountId entries).sum =
      ((device.entriesOn entries ["asset", "liability"]).map LocalEntry.amount).sum := by
  induction entries with
  | nil =>
    refine List.sum_eq_zero fun total member => ?_
    obtain ⟨accountId, -, rfl⟩ := List.mem_map.mp member
    rfl
  | cons entry entries inductionHypothesis =>
    simp only [totalOn_cons]
    rw [List.sum_map_add, sum_ite_eq (nodup_balanceAccounts device), inductionHypothesis]
    unfold Device.entriesOn
    rw [List.filter_cons]
    by_cases isBalance : entry.accountId ∈ device.balanceAccounts
    · rw [if_pos isBalance, if_pos (mem_balanceAccounts.mp isBalance), List.map_cons, List.sum_cons]
    · rw [if_neg isBalance, if_neg (mt mem_balanceAccounts.mpr isBalance), zero_add]

/-! ### The change of a month -/

theorem accountBalance_eq {transactions : List LocalTransaction}
    (live : ∀ tx ∈ transactions, tx.deleted = false)
    (read : ∀ tx ∈ transactions, ∀ entry ∈ tx.entries,
      decimalInt entry.amountMinor = some entry.amount) (accountId : String) :
    accountBalance transactions accountId =
      some (totalOn accountId (transactions.flatMap LocalTransaction.entries)) := by
  have numbers : ∀ entries : List LocalEntry,
      (∀ entry ∈ entries, decimalInt entry.amountMinor = some entry.amount) →
        (entries.mapM fun entry => decimalInt entry.amountMinor) =
          some (entries.map LocalEntry.amount) := by
    intro entries within
    induction entries with
    | nil => rfl
    | cons entry entries inductionHypothesis =>
      obtain ⟨first, others⟩ := List.forall_mem_cons.mp within
      rw [List.mapM_cons, first, inductionHypothesis others]
      rfl
  have all : (transactions.filter fun tx => !tx.deleted) = transactions :=
    List.filter_eq_self.mpr fun tx member => by rw [live tx member]; rfl
  have within : ∀ entry ∈ transactions.flatMap fun tx =>
      tx.entries.filter fun entry => entry.accountId = accountId,
      decimalInt entry.amountMinor = some entry.amount := by
    intro entry member
    obtain ⟨tx, inMonth, inTx⟩ := List.mem_flatMap.mp member
    exact read tx inMonth entry (List.mem_of_mem_filter inTx)
  unfold accountBalance
  dsimp only
  rw [all, numbers _ within, totalOn, List.filter_flatMap]
  rfl

theorem accountBalance_append {before month : List LocalTransaction} {accountId : String}
    {balance change : Int} (known : accountBalance before accountId = some balance)
    (changes : accountBalance month accountId = some change) :
    accountBalance (before ++ month) accountId = some (balance + change) := by
  unfold accountBalance at known changes ⊢
  dsimp only at known changes ⊢
  obtain ⟨amounts, read, returned⟩ := Option.bind_eq_some_iff.mp known
  obtain ⟨others, readOthers, returnedOthers⟩ := Option.bind_eq_some_iff.mp changes
  cases returned
  cases returnedOthers
  rw [List.filter_append, List.flatMap_append, List.mapM_append, read, readOthers]
  exact congrArg some (List.sum_append ..)

/-- The net worth grows by what the entries of the month have on asset and liability accounts. -/
theorem netWorth_append {device : Device} {before month : List LocalTransaction} {worth : Int}
    (known : device.netWorth before = some worth) (live : ∀ tx ∈ month, tx.deleted = false)
    (read : ∀ tx ∈ month, ∀ entry ∈ tx.entries,
      decimalInt entry.amountMinor = some entry.amount) :
    device.netWorth (before ++ month) = some (worth +
      ((device.entriesOn (month.flatMap LocalTransaction.entries) ["asset", "liability"]).map
        LocalEntry.amount).sum) := by
  unfold Device.netWorth at known ⊢
  obtain ⟨balances, made, returned⟩ := Option.bind_eq_some_iff.mp known
  cases returned
  rw [← sum_totalOn]
  have grown : ∀ {accountIds : List String} {balances : List Int},
      accountIds.mapM (fun accountId => accountBalance before accountId) = some balances →
        ∃ after, accountIds.mapM (fun accountId => accountBalance (before ++ month) accountId) =
            some after ∧
          after.sum = balances.sum + (accountIds.map fun accountId =>
            totalOn accountId (month.flatMap LocalTransaction.entries)).sum := by
    intro accountIds
    induction accountIds with
    | nil =>
      intro balances made
      cases made
      exact ⟨[], rfl, rfl⟩
    | cons accountId accountIds inductionHypothesis =>
      intro balances made
      rw [List.mapM_cons] at made
      obtain ⟨balance, first, made⟩ := Option.bind_eq_some_iff.mp made
      obtain ⟨others, later, returned⟩ := Option.bind_eq_some_iff.mp made
      cases returned
      obtain ⟨after, madeAfter, sum⟩ := inductionHypothesis later
      refine ⟨(balance + totalOn accountId (month.flatMap LocalTransaction.entries)) :: after, ?_, ?_⟩
      · rw [List.mapM_cons, accountBalance_append first (accountBalance_eq live read accountId),
          madeAfter]
        rfl
      · rw [List.sum_cons, List.sum_cons, List.map_cons, List.sum_cons, sum]
        omega
  obtain ⟨after, madeAfter, sum⟩ := grown made
  rw [madeAfter]
  exact congrArg some sum

/-! ### Transactions of the factory -/

/-- The lines of a move between an account and a side. -/
theorem linesOn_pair {intent : Intent} {account side : Account} {amount other : Int}
    {type : AccountType} (typed : account.type = type)
    (isSide : side.type = .asset ∨ side.type = .liability) (notSide : type ≠ .asset ∧ type ≠ .liability)
    (pair : intent.legs = [(account, amount), (side, other)] ∨
      intent.legs = [(side, other), (account, amount)]) :
    intent.linesOn [type] = [(account, amount)] ∧
      intent.linesOn [.asset, .liability] = [(side, other)] := by
  have inType : account.type ∈ [type] := List.mem_singleton.mpr typed
  have notInType : side.type ∉ [type] := by
    rw [List.mem_singleton]
    rintro rfl
    exact isSide.elim notSide.1 notSide.2
  have inSides : side.type ∈ [AccountType.asset, AccountType.liability] := by
    rcases isSide with is | is <;> rw [is] <;> decide
  have notInSides : account.type ∉ [AccountType.asset, AccountType.liability] := by
    rw [typed]
    simpa using notSide
  unfold Intent.linesOn
  rcases pair with legs | legs <;>
  · simp only [legs, List.filter_cons, List.filter_nil, decide_eq_true inType,
      decide_eq_false notInType, decide_eq_true inSides, decide_eq_false notInSides]
    exact ⟨rfl, rfl⟩

theorem lineTotal_singleton (account : Account) (amount : Int) :
    lineTotal [(account, amount)] = amount := by
  rw [lineTotal, List.map_singleton, List.sum_singleton]

/-- A side is on neither an expense nor an income account. -/
theorem side_types {type : AccountType} (isSide : type = .asset ∨ type = .liability) :
    type ∈ [AccountType.asset, AccountType.liability] ∧ type ∉ [AccountType.expense] ∧
      type ∉ [AccountType.income] := by
  rcases isSide with rfl | rfl <;> decide

/-- The lines of a split, and its funding. -/
theorem linesOn_split {fundingAccount : Account} {splits : List (Account × DomainPackage.Money)}
    (expenses : ∀ split ∈ splits, split.1.type = .expense)
    (isSide : fundingAccount.type = .asset ∨ fundingAccount.type = .liability) :
    (Intent.splitExpense fundingAccount splits).linesOn [.expense] =
        splits.map (fun split => (split.1, split.2.minorUnits)) ∧
      (Intent.splitExpense fundingAccount splits).linesOn [.asset, .liability] =
        [(fundingAccount, -TransactionFactory.splitTotal splits)] := by
  obtain ⟨inSides, notExpense, -⟩ := side_types isSide
  have lines : ∀ leg ∈ splits.map fun split => (split.1, split.2.minorUnits),
      leg.1.type = .expense := by
    rw [List.forall_mem_map]
    exact expenses
  have all : (splits.map fun split => (split.1, split.2.minorUnits)).filter
      (fun leg => leg.1.type ∈ [AccountType.expense]) =
        splits.map fun split => (split.1, split.2.minorUnits) :=
    List.filter_eq_self.mpr fun leg member => by rw [lines leg member]; decide
  have none_ : (splits.map fun split => (split.1, split.2.minorUnits)).filter
      (fun leg => leg.1.type ∈ [AccountType.asset, AccountType.liability]) = [] :=
    List.filter_eq_nil_iff.mpr fun leg member => by rw [lines leg member]; decide
  rw [Intent.linesOn, Intent.linesOn, Intent.legs, List.filter_append, List.filter_append, all, none_]
  simp only [List.filter_cons, List.filter_nil, decide_eq_true inSides, decide_eq_false notExpense]
  exact ⟨List.append_nil _, rfl⟩

/-- What the summary of a transaction adds to the balance, and what its entries add to asset and
liability accounts. -/
theorem Device.SavedFrom.counted {device : Device} {intent : Intent} {tx : LocalTransaction}
    (saved : device.SavedFrom intent tx)
    (sides : ∀ account ∈ intent.sides, account.type = .asset ∨ account.type = .liability) :
    ∃ summary, device.summarizeTransaction tx = some summary ∧
      (ReportsPage.counted summary).1 - (ReportsPage.counted summary).2 =
        lineTotal (intent.linesOn [.asset, .liability]) + intent.overstated := by
  have typed := saved.typed
  cases intent with
  | expense expenseAccount fundingAccount amount expenseEntryId fundingEntryId =>
    obtain ⟨expenses, balances⟩ := linesOn_pair typed (sides fundingAccount List.mem_cons_self)
      (by decide) (Or.inl (Intent.legs.eq_1 ..))
    refine ⟨_, saved.summarize_expense (by rw [expenses]; exact List.cons_ne_nil _ _), ?_⟩
    rw [expenses, balances, lineTotal_singleton, lineTotal_singleton, Intent.overstated,
      Int.natCast_natAbs]
    simp only [ReportsPage.counted]
    omega
  | income incomeAccount depositAccount amount =>
    have side := sides depositAccount List.mem_cons_self
    obtain ⟨incomes, balances⟩ := linesOn_pair typed side (by decide) (Or.inr (Intent.legs.eq_2 ..))
    have noExpense : (Intent.income incomeAccount depositAccount amount).linesOn [.expense] = [] := by
      have isIncome : incomeAccount.type = .income := typed
      simp only [Intent.linesOn, Intent.legs, List.filter_cons, List.filter_nil, isIncome,
        decide_eq_false (side_types side).2.1]
      rfl
    refine ⟨_, saved.summarize_income noExpense (by rw [incomes]; exact List.cons_ne_nil _ _), ?_⟩
    rw [incomes, balances, lineTotal_singleton, lineTotal_singleton, Intent.overstated,
      Int.natCast_natAbs, abs_neg]
    simp only [ReportsPage.counted]
    omega
  | transfer source target amount =>
    obtain ⟨sourceIn, sourceNotExpense, sourceNotIncome⟩ :=
      side_types (sides source List.mem_cons_self)
    obtain ⟨targetIn, targetNotExpense, targetNotIncome⟩ :=
      side_types (sides target (List.mem_cons_of_mem _ List.mem_cons_self))
    have lines : (Intent.transfer source target amount).linesOn [.expense] = [] ∧
        (Intent.transfer source target amount).linesOn [.income] = [] ∧
        (Intent.transfer source target amount).linesOn [.asset, .liability] =
          [(source, -amount.minorUnits), (target, amount.minorUnits)] := by
      simp only [Intent.linesOn, Intent.legs, List.filter_cons, List.filter_nil,
        decide_eq_false sourceNotExpense, decide_eq_false sourceNotIncome, decide_eq_true sourceIn,
        decide_eq_false targetNotExpense, decide_eq_false targetNotIncome, decide_eq_true targetIn]
      exact ⟨rfl, rfl, rfl⟩
    obtain ⟨summary, summarized, kind⟩ := saved.summarize_other lines.1 lines.2.1
    refine ⟨summary, summarized, ?_⟩
    rw [lines.2.2, ReportsPage.counted, lineTotal, Intent.overstated]
    rcases kind with is | is <;> rw [is] <;> simp
  | splitExpense fundingAccount splits =>
    obtain ⟨expenses, balances⟩ := linesOn_split typed (sides fundingAccount List.mem_cons_self)
    have total : lineTotal (splits.map fun split => (split.1, split.2.minorUnits)) =
        TransactionFactory.splitTotal splits := by
      rw [lineTotal, List.map_map, TransactionFactory.splitTotal, foldl_splitTotal, zero_add]
      rfl
    have several : splits ≠ [] := by
      rintro rfl
      obtain ⟨header, bookId, transaction, made, -⟩ := saved.built
      cases made
    refine ⟨_, saved.summarize_expense (by rw [expenses]; simpa using several), ?_⟩
    rw [expenses, balances, lineTotal_singleton, total, Intent.overstated, Int.natCast_natAbs]
    simp only [ReportsPage.counted]
    omega
  | refundExpense expenseAccount refundToAccount amount =>
    obtain ⟨expenses, balances⟩ := linesOn_pair typed (sides refundToAccount List.mem_cons_self)
      (by decide) (Or.inr (Intent.legs.eq_5 ..))
    refine ⟨_, saved.summarize_expense (by rw [expenses]; exact List.cons_ne_nil _ _), ?_⟩
    rw [expenses, balances, lineTotal_singleton, lineTotal_singleton, Intent.overstated,
      Int.natCast_natAbs, abs_neg]
    simp only [ReportsPage.counted]
    omega

/-- The balance adds up what each summary is counted as. -/
theorem balanceMinor_eq (summaries : List TransactionSummary) :
    (summarizeMonth summaries).balanceMinor = (summaries.map fun summary =>
      (ReportsPage.counted summary).1 - (ReportsPage.counted summary).2).sum := by
  have totals : countKinds summaries = (summaries.map ReportsPage.counted).sum := by
    rw [countKinds, foldl_countKinds]
    exact zero_add _
  have pairs : ∀ counts : List (Int × Int),
      counts.sum.1 - counts.sum.2 = (counts.map fun count => count.1 - count.2).sum := by
    intro counts
    induction counts with
    | nil => rfl
    | cons count counts inductionHypothesis =>
      rw [List.sum_cons, Prod.fst_add, Prod.snd_add, List.map_cons, List.sum_cons,
        ← inductionHypothesis]
      omega
  rw [MonthlyLedgerSummary.balanceMinor, summarizeMonth, totals]
  dsimp only
  rw [pairs, List.map_map]
  rfl

theorem entriesOn_append (device : Device) (entries others : List LocalEntry)
    (types : List String) :
    device.entriesOn (entries ++ others) types =
      device.entriesOn entries types ++ device.entriesOn others types :=
  List.filter_append _ _

/-- The summaries of some transactions, and the balance that they add up to. -/
theorem exists_summaries {device : Device} {month : List (Intent × LocalTransaction)}
    (saved : ∀ entry ∈ month, device.SavedFrom entry.1 entry.2)
    (sides : ∀ entry ∈ month, ∀ account ∈ entry.1.sides,
      account.type = .asset ∨ account.type = .liability) :
    ∃ summaries, (month.map Prod.snd).mapM device.summarizeTransaction = some summaries ∧
      (summarizeMonth summaries).balanceMinor =
        ((device.entriesOn ((month.map Prod.snd).flatMap LocalTransaction.entries)
          ["asset", "liability"]).map LocalEntry.amount).sum +
          (month.map fun entry => entry.1.overstated).sum := by
  induction month with
  | nil => exact ⟨[], rfl, rfl⟩
  | cons entry month inductionHypothesis =>
    obtain ⟨first, others⟩ := List.forall_mem_cons.mp saved
    obtain ⟨firstSides, otherSides⟩ := List.forall_mem_cons.mp sides
    obtain ⟨summary, summarized, counted⟩ := first.counted firstSides
    obtain ⟨summaries, made, sum⟩ := inductionHypothesis others otherSides
    have amounts : ((device.entriesOn entry.2.entries ["asset", "liability"]).map
        LocalEntry.amount).sum = lineTotal (entry.1.linesOn [.asset, .liability]) :=
      congrArg List.sum (first.amounts [.asset, .liability])
    refine ⟨summary :: summaries, ?_, ?_⟩
    · rw [List.map_cons, List.mapM_cons, summarized, made]
      rfl
    · rw [balanceMinor_eq] at sum ⊢
      rw [List.map_cons, List.sum_cons, sum, counted, List.map_cons, List.flatMap_cons,
        entriesOn_append, List.map_append, List.sum_append, amounts, List.map_cons, List.sum_cons]
      omega

/-- The balance of a month is what its transactions change in the balances of the asset and
liability accounts exactly if what the summaries overstate adds up to nothing. -/
theorem balance_is_change_iff {device : Device} {before : List LocalTransaction} {worth : Int}
    (known : device.netWorth before = some worth) {month : List (Intent × LocalTransaction)}
    (saved : ∀ entry ∈ month, device.SavedFrom entry.1 entry.2)
    (live : ∀ entry ∈ month, entry.2.deleted = false)
    (sides : ∀ entry ∈ month, ∀ account ∈ entry.1.sides,
      account.type = .asset ∨ account.type = .liability) :
    ∃ summaries after, (month.map Prod.snd).mapM device.summarizeTransaction = some summaries ∧
      device.netWorth (before ++ month.map Prod.snd) = some after ∧
      ((summarizeMonth summaries).balanceMinor = after - worth ↔
        (month.map fun entry => entry.1.overstated).sum = 0) := by
  obtain ⟨summaries, made, balance⟩ := exists_summaries saved sides
  have allLive : ∀ tx ∈ month.map Prod.snd, tx.deleted = false := by
    rw [List.forall_mem_map]
    exact live
  have read : ∀ tx ∈ month.map Prod.snd, ∀ entry ∈ tx.entries,
      decimalInt entry.amountMinor = some entry.amount := by
    rw [List.forall_mem_map]
    exact fun entry member => (saved entry member).decimalInt
  refine ⟨summaries, _, made, netWorth_append known allLive read, ?_⟩
  rw [balance]
  omega

/-! ### A month with a refund -/

theorem meal_and_salary_balance :
    ∃ summaries after, [yuanRow "A:food" "A:cash", yuanRow "A:cash" "A:salary"].mapM
        bookDevice.summarizeTransaction = some summaries ∧
      bookDevice.netWorth ([] ++ [yuanRow "A:food" "A:cash", yuanRow "A:cash" "A:salary"]) =
        some after ∧
      ((summarizeMonth summaries).balanceMinor = after - 0 ↔
        ([meal, salary].map Intent.overstated).sum = 0) :=
  @balance_is_change_iff bookDevice [] 0 (by decide +kernel)
    [(meal, yuanRow "A:food" "A:cash"), (salary, yuanRow "A:cash" "A:salary")]
    (List.forall_mem_cons.mpr ⟨saved_meal, List.forall_mem_singleton.mpr saved_salary⟩)
    (by decide) (by decide)

/-- What came back counts as spent once more. -/
theorem refund_taken_off :
    bookDevice.SavedFrom mealRefund (yuanRow "A:cash" "A:food") ∧
      ∃ summaries, [yuanRow "A:cash" "A:food"].mapM bookDevice.summarizeTransaction =
          some summaries ∧
        bookDevice.netWorth [] = some 0 ∧
        bookDevice.netWorth ([] ++ [yuanRow "A:cash" "A:food"]) = some 100 ∧
        (summarizeMonth summaries).balanceMinor = -100 ∧
        (summarizeMonth summaries).balanceMinor ≠ 100 - 0 :=
  ⟨saved_mealRefund, _, rfl, by decide +kernel, by decide +kernel, by decide +kernel,
    by decide +kernel⟩

end Ledgerly
