/-
This file proves when `spentForBudget` is the sum of the expense entries in the categories of a
budget, over a ledger of transactions that the factory built.

Between the entries and the budget stand the summaries, with one total without its sign and one
category. A refund is thus spent once more, and a split is counted whole or not at all, by its first
line.
-/

import Ledgerly.Categories
import Ledgerly.FactoryLedger

namespace Ledgerly

open DomainPackage

/-! ### Summaries and budgets -/

/-- `_summarizeTransaction`, as far as budgets read it. -/
def Device.budgetedSummary (device : Device) (tx : LocalTransaction) :
    Option BudgetedTransaction := do
  let summary ← device.summarizeTransaction tx
  let first := (device.entriesOn tx.entries ["expense"]).head?.or
    (device.entriesOn tx.entries ["income"]).head?
  return ⟨summary.kind, summary.amountMinor, first.map LocalEntry.accountId⟩

/-- A map from accounts to their parents, as the budgets look them up. -/
def parentIn (parents : KeyMap String (Option String)) (id : String) : Option String :=
  (parents.lookup id).join

/-- The map has no cycle. -/
def AcyclicParents (parents : KeyMap String (Option String)) : Prop :=
  ParentChain.Acyclic fun id => namedParent (parentIn parents id)

/-- An account is in a budget: the budget has no category, or the account is its category or a
descendant of it. -/
def InBudget (parents : KeyMap String (Option String)) (budgetCategoryId accountId : String) : Prop :=
  budgetCategoryId = "" ∨
    ParentChain.Above (fun id => namedParent (parentIn parents id)) accountId budgetCategoryId

theorem matchesCategory_eq_some {parents : KeyMap String (Option String)}
    (acyclic : AcyclicParents parents) (budgetCategoryId accountId : String) {fuel : Nat}
    (enough : parents.keys.toFinset.card < fuel) :
    ∃ found, matchesCategory fuel accountId budgetCategoryId (parentIn parents) = some found ∧
      (found = true ↔ InBudget parents budgetCategoryId accountId) := by
  unfold matchesCategory InBudget
  by_cases whole : budgetCategoryId = ""
  · rw [if_pos whole]
    exact ⟨true, rfl, iff_of_true rfl (Or.inl whole)⟩
  · rw [if_neg whole]
    have within : ∀ child parent, namedParent (parentIn parents child) = some parent →
        child ∈ parents.keys.toFinset := by
      intro child parent named
      rw [List.mem_toFinset, ← AList.mem_keys, ← AList.lookup_isSome]
      obtain ⟨isParent, -⟩ := Option.filter_eq_some_iff.mp named
      rw [Option.join_eq_some_iff.mp isParent]
      rfl
    obtain ⟨found, ended⟩ := Option.isSome_iff_exists.mp
      (ParentChain.seek_isSome_of_acyclic acyclic within budgetCategoryId enough accountId)
    exact ⟨found, ended, (ParentChain.seek_eq_some ended).trans (or_iff_right whole).symm⟩

/-! ### What should be spent -/

section Spending

variable (parents : KeyMap String (Option String)) (budgetCategoryId : String)

open Classical in
/-- The sum of the expense entries in a budget. -/
noncomputable def Device.expenseTotal (device : Device) (entries : List LocalEntry) : Int :=
  (((device.entriesOn entries ["expense"]).filter fun entry =>
    InBudget parents budgetCategoryId entry.accountId).map LocalEntry.amount).sum

open Classical in
/-- What a budget counts too much of the expense lines of an intent: twice their total if it is
negative and the first line is in the budget; and each line on the other side of the boundary than
the first one, which takes it in or leaves it out. -/
noncomputable def overcountedLines : List (Account × Int) → Int
  | [] => 0
  | first :: rest =>
    if InBudget parents budgetCategoryId first.1.id then
      |lineTotal (first :: rest)| - lineTotal (first :: rest) +
        lineTotal (rest.filter fun line => ¬InBudget parents budgetCategoryId line.1.id)
    else -lineTotal (rest.filter fun line => InBudget parents budgetCategoryId line.1.id)

/-- What a budget counts too much of an intent. -/
noncomputable def DomainPackage.Intent.overcounted (intent : Intent) : Int :=
  overcountedLines parents budgetCategoryId (intent.linesOn [.expense])

end Spending

theorem expenseTotal_append (parents : KeyMap String (Option String)) (budgetCategoryId : String)
    (device : Device) (entries others : List LocalEntry) :
    device.expenseTotal parents budgetCategoryId (entries ++ others) =
      device.expenseTotal parents budgetCategoryId entries +
        device.expenseTotal parents budgetCategoryId others := by
  rw [Device.expenseTotal, Device.entriesOn, List.filter_append, List.filter_append, List.map_append,
    List.sum_append]
  rfl

/-! ### What is spent -/

section Counting

variable {parents : KeyMap String (Option String)} {budgetCategoryId : String}

open Classical in
/-- What a budget counts of a summary. -/
noncomputable def BudgetedTransaction.countedIn (parents : KeyMap String (Option String))
    (budgetCategoryId : String) (tx : BudgetedTransaction) : Int :=
  if tx.kind = .expense ∧ InBudget parents budgetCategoryId (tx.categoryAccountId.getD "") then
    tx.amountMinor
  else 0

/-- The loop of `spentForBudget` adds up what it counts of each summary. -/
theorem spentForBudget_eq (acyclic : AcyclicParents parents) {fuel : Nat}
    (enough : parents.keys.toFinset.card < fuel) (transactions : List BudgetedTransaction) :
    spentForBudget fuel budgetCategoryId transactions (parentIn parents) =
      some (transactions.map fun tx => tx.countedIn parents budgetCategoryId).sum := by
  have loop : ∀ (transactions : List BudgetedTransaction) (spent : Int),
      transactions.foldlM (fun spent tx =>
        if tx.kind ≠ .expense then some spent
        else (matchesCategory fuel (tx.categoryAccountId.getD "") budgetCategoryId
            (parentIn parents)).map
          fun inBudget => if inBudget then spent + tx.amountMinor else spent) spent =
        some (spent + (transactions.map fun tx => tx.countedIn parents budgetCategoryId).sum) := by
    intro transactions
    induction transactions with
    | nil => exact fun spent => by rw [List.map_nil, List.sum_nil, add_zero]; rfl
    | cons tx transactions inductionHypothesis =>
      intro spent
      obtain ⟨found, matched, isFound⟩ := matchesCategory_eq_some acyclic budgetCategoryId
        (tx.categoryAccountId.getD "") enough
      rw [List.foldlM_cons, List.map_cons, List.sum_cons, BudgetedTransaction.countedIn, matched,
        ← isFound, ← add_assoc, Option.map_some]
      by_cases expense : tx.kind = .expense
      · rw [if_neg (not_not.mpr expense), Option.bind_eq_bind, Option.bind_some, inductionHypothesis]
        cases found with
        | true => rw [if_pos rfl, if_pos ⟨expense, rfl⟩]
        | false =>
          rw [if_neg Bool.false_ne_true, if_neg fun both => Bool.false_ne_true both.2, add_zero]
      · rw [if_pos expense, if_neg fun both => expense both.1, add_zero, Option.bind_eq_bind,
          Option.bind_some, inductionHypothesis]
  rw [spentForBudget, loop, zero_add]

theorem lineTotal_cons (line : Account × Int) (lines : List (Account × Int)) :
    lineTotal (line :: lines) = line.2 + lineTotal lines := List.sum_cons

open Classical in
/-- Some lines, apart by the budget. -/
theorem lineTotal_apart (lines : List (Account × Int)) :
    lineTotal lines =
      lineTotal (lines.filter fun line => InBudget parents budgetCategoryId line.1.id) +
        lineTotal (lines.filter fun line => ¬InBudget parents budgetCategoryId line.1.id) := by
  induction lines with
  | nil => rfl
  | cons line lines inductionHypothesis =>
    rw [lineTotal_cons, inductionHypothesis, List.filter_cons, List.filter_cons]
    by_cases inside : InBudget parents budgetCategoryId line.1.id
    · rw [if_pos (decide_eq_true inside), if_neg (by simpa using inside), lineTotal_cons, add_assoc]
    · rw [if_neg (by simpa using inside), if_pos (decide_eq_true inside), lineTotal_cons]
      omega

section Transaction

variable {device : Device} {intent : Intent} {tx : LocalTransaction}

open Classical in
/-- The expense entries in a budget are the expense lines in it. -/
theorem Device.SavedFrom.expenseTotal (saved : device.SavedFrom intent tx) :
    device.expenseTotal parents budgetCategoryId tx.entries =
      lineTotal ((intent.linesOn [.expense]).filter fun line =>
        InBudget parents budgetCategoryId line.1.id) := by
  have inside := congrArg (List.filter fun line : String × Int =>
    decide (InBudget parents budgetCategoryId line.1)) (saved.entriesOn [.expense])
  rw [List.filter_map, List.filter_map] at inside
  have amounts := congrArg (List.map Prod.snd) inside
  rw [List.map_map, List.map_map] at amounts
  exact congrArg List.sum amounts

/-- The category of a summary is that of the first line. -/
theorem Device.SavedFrom.category (saved : device.SavedFrom intent tx) :
    (device.entriesOn tx.entries ["expense"]).head?.map LocalEntry.accountId =
      (intent.linesOn [.expense]).head?.map fun line => line.1.id := by
  have first := congrArg (fun lines => lines.head?.map Prod.fst) (saved.entriesOn [.expense])
  simp only [List.head?_map, Option.map_map] at first
  exact first

open Classical in
/-- What a summary is counted as: the entries in the budget, and what is counted too much. -/
theorem Device.SavedFrom.budgeted (saved : device.SavedFrom intent tx)
    (parents : KeyMap String (Option String)) (budgetCategoryId : String) :
    ∃ summary, device.budgetedSummary tx = some summary ∧
      summary.countedIn parents budgetCategoryId =
        device.expenseTotal parents budgetCategoryId tx.entries +
          intent.overcounted parents budgetCategoryId := by
  rw [saved.expenseTotal, Intent.overcounted]
  cases lines : intent.linesOn [.expense] with
  | nil =>
    have uncounted : ∀ summary, device.summarizeTransaction tx = some summary →
        summary.kind ≠ .expense → ∃ budgeted, device.budgetedSummary tx = some budgeted ∧
          budgeted.countedIn parents budgetCategoryId = 0 := by
      intro summary summarized notExpense
      refine ⟨_, by rw [Device.budgetedSummary, summarized]; rfl, ?_⟩
      rw [BudgetedTransaction.countedIn, if_neg fun both => notExpense both.1]
    by_cases income : intent.linesOn [.income] = []
    · obtain ⟨summary, summarized, kind⟩ := saved.summarize_other lines income
      exact uncounted summary summarized (by rcases kind with is | is <;> rw [is] <;> decide)
    · exact uncounted _ (saved.summarize_income lines income) TransactionSummaryKind.noConfusion
  | cons first rest =>
    have hasExpense : intent.linesOn [.expense] ≠ [] := by
      rw [lines]
      exact List.cons_ne_nil _ _
    have category := saved.category
    rw [lines, List.head?_cons, Option.map_some] at category
    obtain ⟨entry, isFirst, isCategory⟩ := Option.map_eq_some_iff.mp category
    refine ⟨_, by rw [Device.budgetedSummary, saved.summarize_expense hasExpense, isFirst]; rfl, ?_⟩
    rw [BudgetedTransaction.countedIn, overcountedLines, lines, Int.natCast_natAbs]
    rw [Option.some_or, Option.map_some, Option.getD_some, isCategory, List.filter_cons]
    have apart := @lineTotal_apart parents budgetCategoryId rest
    have total := lineTotal_cons first rest
    by_cases inside : InBudget parents budgetCategoryId first.1.id
    · rw [if_pos ⟨rfl, inside⟩, if_pos (decide_eq_true inside), if_pos inside,
        lineTotal_cons first (rest.filter _)]
      dsimp only
      omega
    · rw [if_neg fun both => inside both.2, if_neg (by simpa using inside), if_neg inside]
      omega

end Transaction

/-- What a budget counts is the sum of the expense entries in it exactly if what it counts too much
of the intents adds up to nothing. -/
theorem spentForBudget_is_sum_iff (acyclic : AcyclicParents parents) {device : Device}
    {ledger : List (Intent × LocalTransaction)}
    (saved : ∀ entry ∈ ledger, device.SavedFrom entry.1 entry.2) (budgetCategoryId : String) :
    ∃ summaries enough, (ledger.map Prod.snd).mapM device.budgetedSummary = some summaries ∧
      ∀ fuel, enough < fuel → ∃ spent,
        spentForBudget fuel budgetCategoryId summaries (parentIn parents) = some spent ∧
          (spent = device.expenseTotal parents budgetCategoryId
              ((ledger.map Prod.snd).flatMap LocalTransaction.entries) ↔
            (ledger.map fun entry => entry.1.overcounted parents budgetCategoryId).sum = 0) := by
  have added : ∃ summaries, (ledger.map Prod.snd).mapM device.budgetedSummary = some summaries ∧
      (summaries.map fun tx => tx.countedIn parents budgetCategoryId).sum =
        device.expenseTotal parents budgetCategoryId
            ((ledger.map Prod.snd).flatMap LocalTransaction.entries) +
          (ledger.map fun entry => entry.1.overcounted parents budgetCategoryId).sum := by
    induction ledger with
    | nil => exact ⟨[], rfl, rfl⟩
    | cons entry ledger inductionHypothesis =>
      obtain ⟨first, others⟩ := List.forall_mem_cons.mp saved
      obtain ⟨summary, summarized, counted⟩ := first.budgeted parents budgetCategoryId
      obtain ⟨summaries, made, sum⟩ := inductionHypothesis others
      refine ⟨summary :: summaries, ?_, ?_⟩
      · rw [List.map_cons, List.mapM_cons, summarized, made]
        rfl
      · rw [List.map_cons, List.sum_cons, sum, counted, List.map_cons, List.flatMap_cons,
          expenseTotal_append, List.map_cons, List.sum_cons]
        omega
  obtain ⟨summaries, made, sum⟩ := added
  refine ⟨summaries, parents.keys.toFinset.card, made, fun fuel enough =>
    ⟨_, spentForBudget_eq acyclic enough summaries, ?_⟩⟩
  rw [sum]
  omega

end Counting

/-! ### A refund and a split -/

/-- Food is a category with one for drinks below it. -/
def foodParents : KeyMap String (Option String) :=
  ((∅ : KeyMap String (Option String)).insert "A:food" none).insert "A:drinks" (some "A:food")

theorem acyclic_foodParents : AcyclicParents foodParents := by
  refine ParentChain.Shallow.acyclic fun child parent named => ?_
  have parents : ∀ id, namedParent (parentIn foodParents id) =
      if id = "A:drinks" then some "A:food" else none := by
    intro id
    rw [foodParents, parentIn, KeyMap.lookup_insert_eq, KeyMap.lookup_insert_eq, AList.lookup_empty]
    split_ifs
    · decide
    · rfl
    · rfl
  rw [parents] at named ⊢
  split at named
  · obtain rfl := Option.some.inj named
    decide
  · cases named

theorem meal_spent :
    ∃ summaries enough, [yuanRow "A:food" "A:cash"].mapM bookDevice.budgetedSummary =
        some summaries ∧
      ∀ fuel, enough < fuel → ∃ spent,
        spentForBudget fuel "A:food" summaries (parentIn foodParents) = some spent ∧
          (spent = bookDevice.expenseTotal foodParents "A:food"
              ([yuanRow "A:food" "A:cash"].flatMap LocalTransaction.entries) ↔
            ([meal].map fun intent => intent.overcounted foodParents "A:food").sum = 0) :=
  spentForBudget_is_sum_iff acyclic_foodParents
    (List.forall_mem_singleton.mpr saved_meal : ∀ entry ∈ [(meal, yuanRow "A:food" "A:cash")],
      bookDevice.SavedFrom entry.1 entry.2) "A:food"

theorem food_in_budget : InBudget foodParents "A:food" "A:food" := Or.inr .refl

theorem rent_not_in_budget : ¬InBudget foodParents "A:food" "A:rent" := by
  have ended : ParentChain.seek (fun id => namedParent (parentIn foodParents id)) "A:food" 1 "A:rent" =
      some false := by
    decide
  rintro (whole | above)
  · exact absurd whole (by decide)
  · exact Bool.false_ne_true ((ParentChain.seek_eq_some ended).mpr above)

open Classical in
/-- What came back is spent once more, and the rent that was paid with a meal is food. -/
theorem refund_and_rent_spent :
    bookDevice.SavedFrom mealRefund (yuanRow "A:cash" "A:food") ∧
      (∃ summaries, [yuanRow "A:cash" "A:food"].mapM bookDevice.budgetedSummary = some summaries ∧
        spentForBudget 3 "A:food" summaries (parentIn foodParents) = some 100) ∧
      bookDevice.expenseTotal foodParents "A:food" (yuanRow "A:cash" "A:food").entries = -100 ∧
      bookDevice.SavedFrom mealAndRent mealAndRentRow ∧
      (∃ summaries, [mealAndRentRow].mapM bookDevice.budgetedSummary = some summaries ∧
        spentForBudget 3 "A:food" summaries (parentIn foodParents) = some 200) ∧
      bookDevice.expenseTotal foodParents "A:food" mealAndRentRow.entries = 100 := by
  refine ⟨saved_mealRefund, ⟨_, rfl, by decide +kernel⟩, ?_, saved_mealAndRent,
    ⟨_, rfl, by decide +kernel⟩, ?_⟩
  · have entries : bookDevice.entriesOn (yuanRow "A:cash" "A:food").entries ["expense"] =
        [⟨"A:food", "-100", "CNY"⟩] := by
      decide +kernel
    rw [Device.expenseTotal, entries, List.filter_cons, if_pos (decide_eq_true food_in_budget),
      List.filter_nil]
    decide
  · have entries : bookDevice.entriesOn mealAndRentRow.entries ["expense"] =
        [⟨"A:food", "100", "CNY"⟩, ⟨"A:rent", "100", "CNY"⟩] := by
      decide +kernel
    rw [Device.expenseTotal, entries, List.filter_cons, if_pos (decide_eq_true food_in_budget),
      List.filter_cons, if_neg (by simpa using rent_not_in_budget), List.filter_nil]
    decide

end Ledgerly
