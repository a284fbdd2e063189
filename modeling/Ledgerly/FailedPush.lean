/-
This file settles what is left of a push whose database transaction failed.

The rollback leaves what the others committed and nothing of the mutation, wherever the
transaction failed. But `push` then inserts the receipt `DB_ERROR` by a statement of its own,
as it does with any receipt, and from there on the mutation is answered with it: a lost
connection is as final as a rejection. The failure stays open only where that insert fails
too, or where another push has answered the mutation meanwhile.
-/

import Ledgerly.PgStatements

namespace Ledgerly

section Turn

variable [Rfc3339] (around : TurnSurroundings) (tables : PgTables) (step : PushStep)
  (revisionId : String)

/-- The database transaction of a turn runs and is rolled back. -/
structure TurnFails (failure : PgFailure) (left : PgTables) : Prop where
  asked : around.lookupFault = false
  new : (around.beforeLookup tables).mutations.lookup step.key = none
  rolledBack : ∃ script seen,
    pgPlan step.bookId step.deviceId step.mutation step.stamp revisionId = .transaction script ∧
      script.run around.transaction (around.beforeLookup tables) = .rolledBack failure seen left

/-- What a later push of the mutation is answered, if nobody answers the mutation before it: where
the tables hold no receipt the mutation is attempted, and where they hold one that receipt is
repeated, which is no `DB_ERROR`. -/
def AnsweredAnew (key : MutationKey) : Prop :=
  ∀ (later : TurnSurroundings) (again : PushStep) (revisionId : String), again.key = key →
    later.lookupFault = false →
    (later.beforeLookup tables).mutations.lookup key = tables.mutations.lookup key →
    match tables.mutations.lookup key with
    | none =>
      (pushTurn later tables again revisionId).2 =
        if later.receiptFault then none
        else some (processStatements later.transaction (later.beforeLookup tables) again
          revisionId).2
    | some receipt =>
      receipt.resultCode ≠ "DB_ERROR" ∧
        (pushTurn later tables again revisionId).2 =
          some (receipt.replayed again.mutation.mutationId)

/-- A failure that is not made final: the tables hold what the others wrote and nothing of the
mutation, and a later push of it is not answered with a recorded `DB_ERROR`. -/
structure NotFinal (left : PgTables) : Prop where
  rolledBack : ∃ count, left = around.transaction.changed 0 count (around.beforeLookup tables)
  nothingStored : (pushTurn around tables step revisionId).1 = around.beforeReceipt left
  answeredAnew : AnsweredAnew (pushTurn around tables step revisionId).1 step.key

/-- A mutation without a receipt is processed; one with a receipt is answered with it. -/
theorem pushTurn_answer (quiet : around.lookupFault = false) :
    (pushTurn around tables step revisionId).2 =
      match (around.beforeLookup tables).mutations.lookup step.key with
      | some existing => some (existing.replayed step.mutation.mutationId)
      | none =>
        if around.receiptFault then none
        else some (processStatements around.transaction (around.beforeLookup tables) step
          revisionId).2 := by
  unfold pushTurn
  rw [if_neg (by rw [quiet]; exact Bool.false_ne_true)]
  cases (around.beforeLookup tables).mutations.lookup step.key with
  | some existing => rfl
  | none =>
    simp only
    split
    · rfl
    · rfl

variable {around tables step revisionId}

/-- A turn that fails leaves the tables of the rollback, and the receipt where its insert
succeeds. -/
theorem TurnFails.tables_eq {failure : PgFailure} {left : PgTables}
    (fails : TurnFails around tables step revisionId failure left) :
    (pushTurn around tables step revisionId).1 =
      if around.receiptFault then around.beforeReceipt left
      else (around.beforeReceipt left).recordReceipt step.key
        (errorReceipt step.mutation failure) := by
  obtain ⟨script, seen, planned, rolledBack⟩ := fails.rolledBack
  have processed : processStatements around.transaction (around.beforeLookup tables) step
      revisionId = (left, errorReceipt step.mutation failure) := by
    rw [processStatements, planned]
    simp only [rolledBack]
  unfold pushTurn
  rw [if_neg (by rw [fails.asked]; exact Bool.false_ne_true), fails.new]
  simp only [processed]
  split
  · rfl
  · rfl

omit [Rfc3339] in
/-- An insert that conflicts with nothing is seen. -/
theorem recordReceipt_eq_self_iff (left : PgTables) (key : MutationKey)
    (receipt : MutationReceiptDto) :
    left.recordReceipt key receipt = left ↔ (left.mutations.lookup key).isSome = true := by
  unfold PgTables.recordReceipt
  split
  · rename_i answered
    exact ⟨fun _ => answered, fun _ => rfl⟩
  · rename_i unanswered
    refine ⟨fun same => ?_, fun answered => absurd answered unanswered⟩
    have lookup := congrArg (fun tables : PgTables => tables.mutations.lookup key) same
    simp only [KeyMap.lookup_insert_eq, if_true] at lookup
    rw [← lookup]
    rfl

/-- The recorded answers but `DB_ERROR` are those that may be repeated. -/
theorem answeredAnew_iff {key : MutationKey} (same : step.key = key) :
    AnsweredAnew tables key ↔
      ∀ receipt ∈ tables.mutations.lookup key, receipt.resultCode ≠ "DB_ERROR" := by
  constructor
  · intro anew receipt stored
    have answered := anew .quiet step "" same rfl rfl
    rw [show tables.mutations.lookup key = some receipt from stored] at answered
    exact answered.1
  · intro good later again revisionId again_key asked kept
    have answer := pushTurn_answer later tables again revisionId asked
    rw [again_key, kept] at answer
    split
    · rename_i unanswered
      rw [answer, unanswered]
    · rename_i receipt answered
      exact ⟨good receipt answered, by rw [answer, answered]⟩

/-- For a failure of any kind at any statement of any mutation: it is not made final exactly if no
push has answered the mutation and the insert of the receipt fails as well, or another push has
answered it and not with a `DB_ERROR`. -/
theorem failure_not_final_iff {failure : PgFailure} {left : PgTables}
    (fails : TurnFails around tables step revisionId failure left) :
    NotFinal around tables step revisionId left ↔
      match (around.beforeReceipt left).mutations.lookup step.key with
      | none => around.receiptFault = true
      | some receipt => receipt.resultCode ≠ "DB_ERROR" := by
  obtain ⟨script, seen, -, rolledBack⟩ := fails.rolledBack
  have left_eq := Script.run_rolledBack rolledBack
  have tables_eq := fails.tables_eq
  constructor
  · intro open_
    have anew := (answeredAnew_iff rfl).mp open_.answeredAnew
    rw [open_.nothingStored] at tables_eq anew
    split
    · rename_i unanswered
      by_contra inserted
      rw [if_neg inserted] at tables_eq
      have answered := (recordReceipt_eq_self_iff _ _ _).mp tables_eq.symm
      rw [unanswered] at answered
      cases answered
    · rename_i receipt answered
      exact anew receipt answered
  · intro kept
    have same : (pushTurn around tables step revisionId).1 = around.beforeReceipt left := by
      rw [tables_eq]
      split
      · rfl
      · rename_i inserted
        refine (recordReceipt_eq_self_iff _ _ _).mpr ?_
        split at kept
        · exact absurd kept inserted
        · rename_i answered
          rw [answered]
          rfl
    refine ⟨left_eq, same, (answeredAnew_iff rfl).mpr fun receipt answered => ?_⟩
    rw [same] at answered
    rw [show (around.beforeReceipt left).mutations.lookup step.key = some receipt from answered]
      at kept
    exact kept

end Turn

/-! ### A lost connection -/

/-- A database with two accounts in book `A`. -/
def walletTables : PgTables where
  toPgStore := .initial (withAccounts "A" ∅)
  entryIds := ∅
  revisionIds := []

/-- The connection is lost at a statement of the database transaction. -/
def lostAt (statement : Nat) (receiptFault : Bool) : TurnSurroundings where
  lookupFault := false
  beforeLookup := id
  transaction := ⟨fun index => if index = statement then some .other else none, fun _ => id⟩
  receiptFault := receiptFault
  beforeReceipt := id

/-- A create of `t1`. -/
def createOne : PushStep := transferStep "A" "m1" "t1" "create" 0 []

theorem createOne_fails (receiptFault : Bool) : let _ := epochClock
    TurnFails (lostAt 5 receiptFault) walletTables createOne "r1" .other walletTables := by
  intro clock
  exact ⟨rfl, rfl, _, _, rfl, rfl⟩

theorem createOne_not_final : let _ := epochClock
    NotFinal (lostAt 5 true) walletTables createOne "r1" walletTables ↔
      match ((lostAt 5 true).beforeReceipt walletTables).mutations.lookup createOne.key with
      | none => (lostAt 5 true).receiptFault = true
      | some receipt => receipt.resultCode ≠ "DB_ERROR" := by
  intro clock
  exact failure_not_final_iff (createOne_fails true)

/-- The connection is lost while a create is inserted; it comes back, the create is pushed again,
and the answer is the recorded `DB_ERROR`. -/
theorem lost_connection_is_final : let _ := epochClock
    let failed := pushTurn (lostAt 5 false) walletTables createOne "r1"
    TurnFails (lostAt 5 false) walletTables createOne "r1" .other walletTables ∧
      ¬NotFinal (lostAt 5 false) walletTables createOne "r1" walletTables ∧
        (pushTurn .quiet failed.1 createOne "r2").2 = some (dbErrorReceipt createOne.mutation) ∧
        (pushTurn .quiet walletTables createOne "r2").2 =
          some (appliedReceipt createOne.mutation 1) := by
  intro clock failed
  refine ⟨createOne_fails false, fun open_ => ?_, rfl, rfl⟩
  have stored : failed.1.mutations.lookup createOne.key ≠ none := by decide
  exact stored (congrArg (fun left => left.mutations.lookup createOne.key) open_.nothingStored)

end Ledgerly
