/-
This file settles what the budget report of the memory store lists.

`create_budget` keeps a budget in a list of the store. `budget_mem` looks for the budgets in the
change log instead, among the rows of entity type `budget`, and no writer of the log has such a
row. So the report lists nothing, whatever budgets there are. `budget_pg` lists the rows of its
table, each with what was spent on its account.
-/

import Ledgerly.LedgerWriters
import Ledgerly.MonthQuery

namespace Ledgerly

/-! ### Budgets -/

/-- A budget of a book. -/
structure BudgetRecord where
  id : String
  bookId : String
  name : String
  amountMinor : Int
  currency : String
  categoryAccountId : Option String
  deriving DecidableEq

/-- The memory store with its budgets. -/
structure BudgetStore where
  store : MemoryStore
  budgets : List BudgetRecord

/-- What is sent to make a budget. -/
structure CreateBudgetRequest where
  name : String
  amountMinor : String
  currency : Option String
  categoryAccountId : Option String

/-- The budget that a request makes. -/
def CreateBudgetRequest.record (request : CreateBudgetRequest) (bookId id : String) :
    Except ApiError BudgetRecord :=
  match parseI64 request.amountMinor with
  | none => .error ⟨400, "INVALID_AMOUNT", "bad amountMinor"⟩
  | some amount =>
    .ok ⟨id, bookId, request.name, amount, request.currency.getD "CNY", request.categoryAccountId⟩

/-- `create_budget` on the memory store, with the id that the budget gets. Its answer repeats the
budget, with nothing spent yet. -/
def createBudget (world : BudgetStore) (userId bookId id : String)
    (request : CreateBudgetRequest) : BudgetStore × Except ApiError BudgetRecord :=
  match requireBookMember world.store userId bookId with
  | .error error => (world, .error error)
  | .ok _ =>
    match request.record bookId id with
    | .error error => (world, .error error)
    | .ok record => ({ world with budgets := world.budgets ++ [record] }, .ok record)

/-- The actions that may concern budgets. -/
inductive BudgetAction where
  | create (userId bookId id : String) (request : CreateBudgetRequest)
  | push (step : PushStep)

/-- What an action does to the memory backend. -/
def BudgetStore.step [Rfc3339] (world : BudgetStore) : BudgetAction → BudgetStore
  | .create userId bookId id request => (createBudget world userId bookId id request).1
  | .push step => { world with store := pushStep world.store step }

/-- A store without budgets that no mutation has been pushed to. -/
def BudgetStore.initial (books : KeyMap String BookRecord) (accounts : KeyMap String AccountRecord) :
    BudgetStore :=
  ⟨.initial books accounts, []⟩

/-! ### The reports -/

/-- A line of the report. -/
structure BudgetItem where
  id : String
  name : String
  budgetMinor : Int
  actualMinor : Int
  currency : String
  status : String
  deriving DecidableEq

/-- A transaction between the two bounds of a report. -/
def inRange (start stop : Timestamp) (tx : TxRecord) : Bool :=
  start.val ≤ tx.occurredAt.val ∧ tx.occurredAt.val < stop.val

/-- The map that `budget_mem` rebuilds from the change log: name and amount by id. -/
def budgetMap (changes : List ChangeRecord) (bookId : String) : KeyMap String (String × Int) :=
  (changes.filter fun change => change.bookId = bookId ∧ change.entityType = "budget").foldl
    (fun budgets change =>
      match (change.payload.get? "id").bind Json.asStr? with
      | none => budgets
      | some id =>
        budgets.insert id
          (((change.payload.get? "name").bind Json.asStr?).getD "Budget",
            match change.payload.get? "amountMinor" with
            | some (.num literal) => (asI64? literal).getD 0
            | _ => 0)) ∅

/-- The loop of `budget_mem` over the transactions: the positive amounts on all expense accounts. -/
def budgetActual (store : MemoryStore) (bookId : String) (start stop : Timestamp) : Int :=
  ((Backend.memory store).reportRows bookId (inRange start stop)).foldl (fun actual row =>
    if row.accountType = "expense" ∧ row.amount > 0 then asI64 (actual + row.amount)
    else actual) 0

/-- `budget_mem`. `budget_status` compares a quotient of floating point and is a parameter. -/
def budgetMem (budgetStatus : Int → Int → String) (store : MemoryStore) (bookId : String)
    (start stop : Timestamp) : List BudgetItem :=
  (budgetMap store.changes bookId).entries.map fun entry =>
    let actual := budgetActual store bookId start stop
    ⟨entry.1, entry.2.1, entry.2.2, actual, "CNY", budgetStatus actual entry.2.2⟩

/-- The sum of the entries on an account by the live transactions between the bounds, if it is an
expense account. -/
def spentOn (backend : Backend) (bookId accountId : String) (start stop : Timestamp) : Int :=
  ((backend.live bookId (inRange start stop)).flatMap fun tx => tx.entries.filterMap fun entry =>
    if entry.accountId = accountId ∧
        (backend.accounts.lookup accountId).any (fun account => account.accountType = "expense")
    then some entry.amountMinor
    else none).sum

/-- What was spent on the account of a budget. -/
def BudgetRecord.spent (record : BudgetRecord) (backend : Backend) (bookId : String)
    (start stop : Timestamp) : Int :=
  match record.categoryAccountId with
  | some accountId => spentOn backend bookId accountId start stop
  | none => 0

/-- The budgets of a book. -/
def budgetsOf (budgets : List BudgetRecord) (bookId : String) : List BudgetRecord :=
  budgets.filter fun record => record.bookId = bookId

/-- `budget_pg`. A sum that is no `bigint` fails the query, and the failure counts as 0. -/
def budgetPg (budgetStatus : Int → Int → String) (store : PgStore) (base : String)
    (rates : List FxRate) (budgets : List BudgetRecord) (bookId : String)
    (start stop : Timestamp) : List BudgetItem :=
  (budgetsOf budgets bookId).map fun record =>
    let total := record.spent (.postgres store base rates) bookId start stop
    let actual := if FitsI64 total then total else 0
    let budgetInBase := convertAmount rates record.amountMinor record.currency base
    ⟨record.id, record.name, budgetInBase, actual, base, budgetStatus actual budgetInBase⟩

/-! ### A right report -/

/-- What a report says of a budget: id, name, amount and what was spent. -/
def BudgetItem.figures (item : BudgetItem) : String × String × Int × Int :=
  (item.id, item.name, item.budgetMinor, item.actualMinor)

/-- The report lists the budgets of the book, in some order, each with its own amount and with the
sum of the entries on its account. -/
def RightReport (items : List BudgetItem) (budgets : List BudgetRecord) (backend : Backend)
    (bookId : String) (start stop : Timestamp) : Prop :=
  (items.map BudgetItem.figures).Perm ((budgetsOf budgets bookId).map fun record =>
    (record.id, record.name, record.amountMinor, record.spent backend bookId start stop))

/-- The database's report is right, as long as its budgets are in the base currency of the book and
its sums fit in 64 bits. -/
theorem budgetPg_right (budgetStatus : Int → Int → String) (store : PgStore) (base : String)
    (rates : List FxRate) (budgets : List BudgetRecord) (bookId : String) (start stop : Timestamp)
    (inBase : ∀ record ∈ budgetsOf budgets bookId, record.currency = base)
    (fits : ∀ record ∈ budgetsOf budgets bookId,
      FitsI64 (record.spent (.postgres store base rates) bookId start stop)) :
    RightReport (budgetPg budgetStatus store base rates budgets bookId start stop) budgets
      (.postgres store base rates) bookId start stop := by
  refine List.Perm.of_eq ?_
  rw [budgetPg, List.map_map]
  refine List.map_congr_left fun record member => ?_
  rw [Function.comp_apply, BudgetItem.figures]
  dsimp only
  rw [if_pos (fits record member), convertAmount_base (inBase record member)]

/-! ### Runs -/

section Runs

variable [Rfc3339] {bookId : String}

/-- Neither a push nor anything else logs a row for a budget. -/
def NoBudgetLogged (world : BudgetStore) : Prop :=
  ∀ change ∈ world.store.changes, change.entityType ≠ "budget"

theorem noBudgetLogged_step (world : BudgetStore) (action : BudgetAction)
    (holds : NoBudgetLogged world) : NoBudgetLogged (world.step action) := by
  cases action with
  | create userId bookId id request =>
    have same : (world.step (.create userId bookId id request)).store = world.store := by
      rw [BudgetStore.step, createBudget]
      split
      · rfl
      · split <;> rfl
    rw [NoBudgetLogged, same]
    exact holds
  | push step =>
    have appended : ∀ row : ChangeRecord, row.entityType = "transaction" ∨ row.entityType = "account" →
        ∀ change ∈ world.store.changes ++ [row], change.entityType ≠ "budget" := by
      intro row kind change member
      rcases List.mem_append.mp member with old | new
      · exact holds change old
      · obtain rfl := List.mem_singleton.mp new
        rcases kind with kind | kind
        · rw [kind]
          decide
        · rw [kind]
          decide
    refine pushStep_elim (motive := fun store => ∀ change ∈ store.changes,
      change.entityType ≠ "budget") step ?_ holds ?_ ?_ ?_
    · exact fun _ _ kept => kept
    · exact fun _ _ _ _ => appended _ (Or.inl rfl)
    · exact fun _ _ => appended _ (Or.inl rfl)
    · exact fun _ _ => appended _ (Or.inr rfl)

omit [Rfc3339] in
/-- Without such a row the report is empty. -/
theorem budgetMem_eq_nil {world : BudgetStore} (holds : NoBudgetLogged world)
    (budgetStatus : Int → Int → String) (start stop : Timestamp) :
    budgetMem budgetStatus world.store bookId start stop = [] := by
  have none_ : (world.store.changes.filter fun change =>
      change.bookId = bookId ∧ change.entityType = "budget") = [] := by
    rw [List.filter_eq_nil_iff]
    intro change member kept
    exact holds change member (of_decide_eq_true kept).2
  rw [budgetMem, budgetMap, none_]
  rfl

variable (bookId) in
/-- The action makes no budget for the book. -/
def MakesNone (world : BudgetStore) : BudgetAction → Prop
  | .create userId other _ request =>
    other = bookId → requireBookMember world.store userId other ≠ .ok () ∨
      parseI64 request.amountMinor = none
  | .push _ => True

/-- A book stays without budgets exactly if the action makes none for it. -/
theorem budgetsOf_step (world : BudgetStore) (action : BudgetAction) :
    budgetsOf (world.step action).budgets bookId = [] ↔
      budgetsOf world.budgets bookId = [] ∧ MakesNone bookId world action := by
  cases action with
  | push step => exact (iff_of_eq (and_true _)).symm
  | create userId other id request =>
    rw [BudgetStore.step, createBudget, MakesNone]
    cases admitted : requireBookMember world.store userId other with
    | error error => exact ⟨fun empty => ⟨empty, fun _ => Or.inl (by simp)⟩, And.left⟩
    | ok _ =>
      simp only [CreateBudgetRequest.record]
      cases parsed : parseI64 request.amountMinor with
      | none => exact ⟨fun empty => ⟨empty, fun _ => Or.inr rfl⟩, And.left⟩
      | some amount =>
        simp only [budgetsOf, List.filter_append, List.append_eq_nil_iff]
        refine and_congr_right fun _ => ?_
        rw [List.filter_singleton]
        by_cases own : other = bookId
        · simp [own]
        · simp [own]

/-- Budgets stay. -/
theorem budgetsOf_of_run {world : BudgetStore} (run : List BudgetAction)
    (empty : budgetsOf (Machine.run BudgetStore.step world run).budgets bookId = []) :
    budgetsOf world.budgets bookId = [] := by
  induction run generalizing world with
  | nil => exact empty
  | cons action rest inductionHypothesis =>
    exact ((budgetsOf_step world action).mp (inductionHypothesis empty)).1

/-- A book has no budgets after a run exactly if no action of the run has made one for it. -/
theorem budgetsOf_run {world : BudgetStore} (empty : budgetsOf world.budgets bookId = [])
    (run : List BudgetAction) :
    budgetsOf (Machine.run BudgetStore.step world run).budgets bookId = [] ↔
      Machine.Guarded BudgetStore.step (MakesNone bookId) world run := by
  induction run generalizing world with
  | nil => exact ⟨fun _ => trivial, fun _ => empty⟩
  | cons action rest inductionHypothesis =>
    rw [Machine.run_cons, Machine.guarded_cons]
    by_cases none_ : MakesNone bookId world action
    · rw [inductionHypothesis ((budgetsOf_step world action).mpr ⟨empty, none_⟩),
        and_iff_right none_]
    · refine ⟨fun emptyLater => absurd ?_ none_, fun both => absurd both.1 none_⟩
      exact ((budgetsOf_step world action).mp (budgetsOf_of_run rest emptyLater)).2

end Runs

/-- For every run of `create_budget` and pushes on the memory store, every book and every month: the
report lists the budgets of the book with their figures exactly if the run has made none. -/
theorem budget_report_right_iff [Rfc3339] (budgetStatus : Int → Int → String)
    (books : KeyMap String BookRecord) (accounts : KeyMap String AccountRecord)
    (run : List BudgetAction) (bookId : String) (start stop : Timestamp) :
    let world := Machine.run BudgetStore.step (.initial books accounts) run
    RightReport (budgetMem budgetStatus world.store bookId start stop) world.budgets
        (.memory world.store) bookId start stop ↔
      Machine.Guarded BudgetStore.step (MakesNone bookId) (.initial books accounts) run := by
  have logged : NoBudgetLogged (Machine.run BudgetStore.step (.initial books accounts) run) :=
    Machine.run_invariant noBudgetLogged_step (fun change member => absurd member List.not_mem_nil)
      run
  intro world
  rw [← budgetsOf_run rfl run, RightReport, budgetMem_eq_nil logged, List.map_nil,
    List.nil_perm, List.map_eq_nil_iff]

/-- A budget of one yuan for food. -/
def foodBudget : BudgetAction :=
  .create "user" "A" "budget-1" ⟨"Food", "100", none, some "A:food"⟩

/-- The budget is created, and the report of any month is empty. -/
theorem food_budget_not_listed :
    let _ := epochClock
    let world := Machine.run BudgetStore.step
      (.initial ((∅ : KeyMap String BookRecord).insert "A" ⟨"A", "Book", "user"⟩)
        (withAccounts "A" ∅)) [foodBudget]
    world.budgets = [⟨"budget-1", "A", "Food", 100, "CNY", some "A:food"⟩] ∧
      budgetMem (fun _ _ => "ok") world.store "A" epoch epoch = [] ∧
      ¬RightReport (budgetMem (fun _ _ => "ok") world.store "A" epoch epoch) world.budgets
        (.memory world.store) "A" epoch epoch := by
  intro _ world
  have created : world.budgets = [⟨"budget-1", "A", "Food", 100, "CNY", some "A:food"⟩] := by decide
  have reported : budgetMem (fun _ _ => "ok") world.store "A" epoch epoch = [] := by decide
  refine ⟨created, reported, ?_⟩
  rw [RightReport, reported, created, List.map_nil, List.nil_perm]
  decide

end Ledgerly
