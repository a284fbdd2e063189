/-
This file is about the local ledger of transactions that the `TransactionFactory` built: what the
rows of a transaction are, and what `_summarizeTransaction` reads out of them.

The lines of a transaction on accounts of some types are those of its intent. What the summary takes
of them is one total without its sign, and the account of the first line.
-/

import Ledgerly.AutoLedgerService
import Ledgerly.ServerReports

namespace Ledgerly

open DomainPackage

/-! ### Rows -/

/-- The amount of an entry, where it is a number. -/
def LocalEntry.amount (entry : LocalEntry) : Int := (decimalInt entry.amountMinor).getD 0

/-- What `saveDomainTransaction` writes of the entries of a transaction. -/
def rowsOfEntries (entries : List TransactionEntry) : List LocalEntry :=
  entries.map fun entry =>
    ⟨entry.accountId, decimalText entry.amount.minorUnits, entry.amount.currency.value⟩

/-- A transaction of the ledger is the one that the factory builds of an intent, on accounts of the
types it was built for. -/
structure Device.SavedFrom (device : Device) (intent : Intent) (tx : LocalTransaction) : Prop where
  built : ∃ header bookId transaction, intent.build header bookId = .ok transaction ∧
    tx.entries = rowsOfEntries transaction.entries
  accounts : ∀ leg ∈ intent.legs, ∃ row,
    device.accounts.lookup leg.1.id = some row ∧ row.type = typeName leg.1.type

/-- The lines of an intent on accounts of some types. -/
def DomainPackage.Intent.linesOn (intent : Intent) (types : List AccountType) :
    List (Account × Int) :=
  intent.legs.filter fun leg => leg.1.type ∈ types

/-- The total of some lines. -/
def lineTotal (lines : List (Account × Int)) : Int := (lines.map Prod.snd).sum

theorem typeName_injective : Function.Injective typeName := by
  intro first second
  cases first <;> cases second <;> decide

theorem mem_map_typeName {type : AccountType} {types : List AccountType} :
    typeName type ∈ types.map typeName ↔ type ∈ types :=
  List.mem_map_of_injective typeName_injective

theorem amount_decimalText (accountId currency : String) (amount : Int) :
    (⟨accountId, decimalText amount, currency⟩ : LocalEntry).amount = amount := by
  rw [LocalEntry.amount, decimalInt_decimalText, Option.getD_some]

section Saved

variable {device : Device} {intent : Intent} {tx : LocalTransaction}

/-- The rows by account and amount. -/
theorem Device.SavedFrom.legs (saved : device.SavedFrom intent tx) :
    tx.entries.map (fun entry => (entry.accountId, entry.amount)) =
      intent.legs.map fun leg => (leg.1.id, leg.2) := by
  obtain ⟨header, bookId, transaction, made, rows⟩ := saved.built
  rw [rows, rowsOfEntries, List.map_map, ← (Intent.build_eq_ok made).1, legsOf]
  refine List.map_congr_left fun entry _ => ?_
  rw [Function.comp_apply, amount_decimalText]

theorem Device.SavedFrom.typed (saved : device.SavedFrom intent tx) : intent.Typed := by
  obtain ⟨header, bookId, transaction, made, -⟩ := saved.built
  exact (Intent.build_eq_ok made).2

/-- Every amount is a number. -/
theorem Device.SavedFrom.decimalInt (saved : device.SavedFrom intent tx) :
    ∀ entry ∈ tx.entries, decimalInt entry.amountMinor = some entry.amount := by
  obtain ⟨header, bookId, transaction, made, rows⟩ := saved.built
  rw [rows, rowsOfEntries, List.forall_mem_map]
  intro entry _
  rw [amount_decimalText, decimalInt_decimalText]

/-- The rows on accounts of some types are the lines of the intent on such accounts. -/
theorem Device.SavedFrom.entriesOn (saved : device.SavedFrom intent tx) (types : List AccountType) :
    (device.entriesOn tx.entries (types.map typeName)).map
        (fun entry => (entry.accountId, entry.amount)) =
      (intent.linesOn types).map fun leg => (leg.1.id, leg.2) := by
  have onType : ∀ leg ∈ intent.legs,
      (device.accounts.lookup leg.1.id).any (fun account => account.type ∈ types.map typeName) =
        decide (leg.1.type ∈ types) := by
    intro leg member
    obtain ⟨row, found, sameType⟩ := saved.accounts leg member
    rw [found, Option.any_some, sameType]
    exact decide_eq_decide.mpr mem_map_typeName
  have filtered := congrArg (List.filter fun leg : String × Int =>
    (device.accounts.lookup leg.1).any fun account => account.type ∈ types.map typeName) saved.legs
  rw [List.filter_map, List.filter_map] at filtered
  rw [Device.entriesOn, Intent.linesOn, ← List.filter_congr onType]
  exact filtered

/-- Their amounts. -/
theorem Device.SavedFrom.amounts (saved : device.SavedFrom intent tx) (types : List AccountType) :
    (device.entriesOn tx.entries (types.map typeName)).map LocalEntry.amount =
      (intent.linesOn types).map Prod.snd := by
  have snd := congrArg (List.map Prod.snd) (saved.entriesOn types)
  rwa [List.map_map, List.map_map] at snd

/-- Rows of the transaction are read as numbers. -/
theorem Device.SavedFrom.mapM_decimalInt (saved : device.SavedFrom intent tx)
    {entries : List LocalEntry} (within : ∀ entry ∈ entries, entry ∈ tx.entries) :
    entries.mapM (fun entry => Ledgerly.decimalInt entry.amountMinor) =
      some (entries.map LocalEntry.amount) := by
  induction entries with
  | nil => rfl
  | cons entry entries inductionHypothesis =>
    obtain ⟨first, others⟩ := List.forall_mem_cons.mp within
    rw [List.mapM_cons, saved.decimalInt entry first, inductionHypothesis others]
    rfl

/-- The total without its sign. -/
theorem Device.SavedFrom.absoluteTotal (saved : device.SavedFrom intent tx)
    (types : List AccountType) :
    absoluteTotal (device.entriesOn tx.entries (types.map typeName)) =
      some ((lineTotal (intent.linesOn types)).natAbs : Int) := by
  have read := saved.mapM_decimalInt fun entry
    (member : entry ∈ device.entriesOn tx.entries (types.map typeName)) =>
      List.mem_of_mem_filter member
  rw [Ledgerly.absoluteTotal, read, saved.amounts]
  rfl

theorem Device.SavedFrom.entriesOn_eq_nil_iff (saved : device.SavedFrom intent tx)
    (types : List AccountType) :
    device.entriesOn tx.entries (types.map typeName) = [] ↔ intent.linesOn types = [] := by
  rw [← List.map_eq_nil_iff, saved.entriesOn types, List.map_eq_nil_iff]

/-! ### Summaries -/

/-- A transaction with a line on an expense account is an expense of their total without its
sign. -/
theorem Device.SavedFrom.summarize_expense (saved : device.SavedFrom intent tx)
    (hasExpense : intent.linesOn [.expense] ≠ []) :
    device.summarizeTransaction tx = some
      { occurredAt := tx.occurredAt, description := tx.description, kind := .expense,
        amountMinor := (lineTotal (intent.linesOn [.expense])).natAbs } := by
  have expenses : device.entriesOn tx.entries ["expense"] ≠ [] :=
    mt (saved.entriesOn_eq_nil_iff [.expense]).mp hasExpense
  have total : Ledgerly.absoluteTotal (device.entriesOn tx.entries ["expense"]) = _ :=
    saved.absoluteTotal [.expense]
  unfold Device.summarizeTransaction
  dsimp only
  rw [if_pos expenses, total]
  rfl

/-- A transaction with a line on an income account, and none on an expense account, is an income. -/
theorem Device.SavedFrom.summarize_income (saved : device.SavedFrom intent tx)
    (noExpense : intent.linesOn [.expense] = []) (hasIncome : intent.linesOn [.income] ≠ []) :
    device.summarizeTransaction tx = some
      { occurredAt := tx.occurredAt, description := tx.description, kind := .income,
        amountMinor := (lineTotal (intent.linesOn [.income])).natAbs } := by
  have expenses : device.entriesOn tx.entries ["expense"] = [] :=
    (saved.entriesOn_eq_nil_iff [.expense]).mpr noExpense
  have incomes : device.entriesOn tx.entries ["income"] ≠ [] :=
    mt (saved.entriesOn_eq_nil_iff [.income]).mp hasIncome
  have total : Ledgerly.absoluteTotal (device.entriesOn tx.entries ["income"]) = _ :=
    saved.absoluteTotal [.income]
  unfold Device.summarizeTransaction
  dsimp only
  rw [if_neg (not_not.mpr expenses), if_pos incomes, total]
  rfl

/-- Any other transaction is a transfer or an adjustment. -/
theorem Device.SavedFrom.summarize_other (saved : device.SavedFrom intent tx)
    (noExpense : intent.linesOn [.expense] = []) (noIncome : intent.linesOn [.income] = []) :
    ∃ summary, device.summarizeTransaction tx = some summary ∧
      (summary.kind = .transfer ∨ summary.kind = .adjustment) := by
  have expenses : device.entriesOn tx.entries ["expense"] = [] :=
    (saved.entriesOn_eq_nil_iff [.expense]).mpr noExpense
  have incomes : device.entriesOn tx.entries ["income"] = [] :=
    (saved.entriesOn_eq_nil_iff [.income]).mpr noIncome
  have balances := saved.mapM_decimalInt fun entry
    (member : entry ∈ device.entriesOn tx.entries ["asset", "liability"]) =>
      List.mem_of_mem_filter member
  have all := saved.mapM_decimalInt fun entry (member : entry ∈ tx.entries) => member
  unfold Device.summarizeTransaction
  dsimp only
  rw [if_neg (not_not.mpr expenses), if_neg (not_not.mpr incomes), balances, Ledgerly.absoluteTotal,
    all]
  split
  · exact ⟨_, rfl, Or.inl rfl⟩
  · exact ⟨_, rfl, Or.inr rfl⟩

end Saved

/-! ### A ledger of single yuan -/

/-- A device with the accounts of book `A`. -/
def bookDevice : Device :=
  Device.initial "phone" "A" (((((∅ : KeyMap String LocalAccount).insert "A:cash"
    ⟨"Cash", "asset", "CNY", none⟩).insert "A:food" ⟨"Food", "expense", "CNY", none⟩).insert
      "A:rent" ⟨"Rent", "expense", "CNY", none⟩).insert
        "A:salary" ⟨"Salary", "income", "CNY", none⟩)

/-- A row that moves one yuan from one account to another. -/
def yuanRow (debit credit : String) : LocalTransaction :=
  ⟨0, none, 1, false, none, none, [⟨debit, "100", "CNY"⟩, ⟨credit, "-100", "CNY"⟩]⟩

/-- The meal did not come. -/
def mealRefund : Intent := .refundExpense foodAccount cashAccount oneYuan

theorem saved_meal : bookDevice.SavedFrom meal (yuanRow "A:food" "A:cash") where
  built := ⟨⟨"t1", 0, none, none, none⟩, "A", _, rfl, by decide⟩
  accounts := by
    intro leg isLeg
    rcases List.mem_pair.mp isLeg with rfl | rfl
    · exact ⟨_, rfl, rfl⟩
    · exact ⟨_, rfl, rfl⟩

theorem saved_salary : bookDevice.SavedFrom salary (yuanRow "A:cash" "A:salary") where
  built := ⟨⟨"t2", 0, none, none, none⟩, "A", _, rfl, by decide⟩
  accounts := by
    intro leg isLeg
    rcases List.mem_pair.mp isLeg with rfl | rfl
    · exact ⟨_, rfl, rfl⟩
    · exact ⟨_, rfl, rfl⟩

theorem saved_mealRefund : bookDevice.SavedFrom mealRefund (yuanRow "A:cash" "A:food") where
  built := ⟨⟨"t3", 0, none, none, none⟩, "A", _, rfl, by decide⟩
  accounts := by
    intro leg isLeg
    rcases List.mem_pair.mp isLeg with rfl | rfl
    · exact ⟨_, rfl, rfl⟩
    · exact ⟨_, rfl, rfl⟩

/-- An account for the rent. -/
def rentAccount : Account := ⟨"A:rent", .expense, cny⟩

/-- A meal and the rent, paid together. -/
def mealAndRent : Intent := .splitExpense cashAccount [(foodAccount, oneYuan), (rentAccount, oneYuan)]

/-- A payment that is split over two categories. -/
def mealAndRentRow : LocalTransaction :=
  ⟨0, none, 1, false, none, none,
    [⟨"A:food", "100", "CNY"⟩, ⟨"A:rent", "100", "CNY"⟩, ⟨"A:cash", "-200", "CNY"⟩]⟩

theorem saved_mealAndRent : bookDevice.SavedFrom mealAndRent mealAndRentRow where
  built := ⟨⟨"t4", 0, none, none, none⟩, "A", _, rfl, by decide⟩
  accounts := by
    intro leg isLeg
    rcases List.mem_cons.mp isLeg with rfl | isLeg
    · exact ⟨_, rfl, rfl⟩
    · rcases List.mem_pair.mp isLeg with rfl | rfl
      · exact ⟨_, rfl, rfl⟩
      · exact ⟨_, rfl, rfl⟩

end Ledgerly
