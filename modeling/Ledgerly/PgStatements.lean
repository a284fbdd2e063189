/-
This file models `process_mutation_pg` and `process_account_mutation_pg` a statement at a
time, with the loop of `push` around them.

Every statement can fail: by a unique key of the tables, by an update that finds no row of
the version it expects, or by a fault of the connection. Any failure rolls the database
transaction back and becomes one receipt, and `push` inserts the receipt of a mutation by a
statement of its own. Statements that only take a lock or open the transaction read nothing.
The number of a change is given back by a rollback here; in the database it is skipped.
-/

import Ledgerly.Library.StatementScript
import Ledgerly.Postgres

namespace Ledgerly

/-! ### The tables -/

/-- The tables with the keys of those the other models leave out: the ids of
`transaction_entries` with the transaction they belong to, and those of
`transaction_revisions`. -/
structure PgTables extends PgStore where
  entryIds : KeyMap String String
  revisionIds : List String

/-- The unique keys a statement of the handlers can meet. -/
inductive UniqueKey where
  | accountId
  | transactionId
  | autoEvent
  | entryId
  | changeSequence
  | revisionId
  | receiptKey
  deriving DecidableEq

/-- What a statement fails with: SQLSTATE 23505, or anything else. -/
inductive PgFailure where
  | unique (key : UniqueKey)
  | other
  deriving DecidableEq

namespace PgTables

variable (tables : PgTables)

/-- The insert of `insert_pg_receipt`. -/
def insertReceipt (key : MutationKey) (receipt : MutationReceiptDto) :
    Except PgFailure PgTables :=
  if (tables.mutations.lookup key).isSome then .error (.unique .receiptKey)
  else .ok { tables with mutations := tables.mutations.insert key receipt.stored }

/-- The insert of `push`, with `ON CONFLICT DO NOTHING`. -/
def recordReceipt (key : MutationKey) (receipt : MutationReceiptDto) : PgTables :=
  if (tables.mutations.lookup key).isSome then tables
  else { tables with mutations := tables.mutations.insert key receipt.stored }

/-- `INSERT INTO sync_changes`. -/
def insertChange (bookId commitId entityType entityId operation : String) (entityVersion : Int)
    (payload : Json) : Except PgFailure PgTables :=
  if tables.changes.any fun change => change.sequence = tables.nextSequence then
    .error (.unique .changeSequence)
  else .ok { tables with
    toPgStore := tables.toPgStore.logged bookId commitId entityType entityId operation
      entityVersion payload }

/-- `INSERT INTO transaction_revisions`. -/
def insertRevision (revisionId : String) : Except PgFailure PgTables :=
  if revisionId ∈ tables.revisionIds then .error (.unique .revisionId)
  else .ok { tables with revisionIds := revisionId :: tables.revisionIds }

/-- `UPDATE transactions SET deleted_at=now()`, for the version that was selected. -/
def markDeleted (bookId id : String) (version : Int) : Except PgFailure PgTables :=
  match tables.rowIn bookId id with
  | none => .error .other
  | some row =>
    if row.version ≠ version then .error .other
    else .ok { tables with
      transactions := tables.transactions.insert id
        { row with deleted := true, version := version + 1 } }

/-- The write of a row that must not violate the index of the automatic bookings. -/
def writeRow (id : String) (row : TxRecord) : Except PgFailure PgTables :=
  if tables.violatesAutoEvent row then .error (.unique .autoEvent)
  else .ok { tables with transactions := tables.transactions.insert id row }

/-- `UPDATE transactions`, for the base version of the mutation. -/
def updateRow (bookId : String) (mutation : SyncMutationDto) (existing : TxRecord)
    (requestedOccurredAt : Option Timestamp) : Except PgFailure PgTables :=
  match tables.rowIn bookId mutation.entityId with
  | none => .error .other
  | some row =>
    if row.version ≠ mutation.baseVersion then .error .other
    else tables.writeRow mutation.entityId
      { row with
        description := (mutation.payload.get? "description").bind Json.asStr?
        occurredAt := (requestedOccurredAt.getD existing.occurredAt).column
        version := existing.version + 1
        source := (parseSource mutation).or row.source }

/-- `INSERT INTO transactions`: the primary key first, the index then. -/
def insertRow (bookId : String) (mutation : SyncMutationDto)
    (requestedOccurredAt : Option Timestamp) (now : Timestamp) : Except PgFailure PgTables :=
  if (tables.transactions.lookup mutation.entityId).isSome then .error (.unique .transactionId)
  else tables.writeRow mutation.entityId (insertedRow bookId mutation requestedOccurredAt [] now)

/-- `DELETE FROM transaction_entries`. -/
def deleteEntries (id : String) : PgTables :=
  { tables with
    transactions := tables.transactions.modify id fun row => { row with entries := [] }
    entryIds := tables.entryIds.filterKeys fun entryId => tables.entryIds.lookup entryId ≠ some id }

/-- The id of an entry by its index. -/
def entryId (id : String) (index : Nat) : String := id ++ "-" ++ decimalText index

/-- `INSERT INTO transaction_entries`. -/
def insertEntry (id : String) (draft : EntryDraft) (index : Nat) : Except PgFailure PgTables :=
  if (tables.entryIds.lookup (entryId id index)).isSome then .error (.unique .entryId)
  else .ok { tables with
    transactions := tables.transactions.modify id fun row =>
      { row with entries := row.entries ++ [draft.stored] }
    entryIds := tables.entryIds.insert (entryId id index) id }

/-- `INSERT INTO accounts`. -/
def insertAccount (record : AccountRecord) : Except PgFailure PgTables :=
  if (tables.accounts.lookup record.id).isSome then .error (.unique .accountId)
  else .ok { tables with accounts := tables.accounts.insert record.id record }

/-- `UPDATE accounts`. -/
def updateAccount (bookId id name : String) (parentAccountId : Option String) (version : Int) :
    PgTables :=
  { tables with
    accounts := tables.accounts.modify id fun account =>
      if account.bookId = bookId then
        { account with name := name, parentAccountId := parentAccountId, version := version }
      else account }

end PgTables

/-! ### The handlers -/

/-- A database transaction of the handlers. -/
abbrev PgScript := Script PgTables PgFailure MutationReceiptDto

/-- A statement that opens the transaction or takes a lock. -/
def takeLock (next : PgScript) : PgScript := .select (fun _ => ()) fun _ => next

section Scripts

variable [Rfc3339] (bookId deviceId : String) (mutation : SyncMutationDto) (stamp : Stamp)
  (revisionId : String)

/-- The key of the receipt. -/
def receiptKey : MutationKey := (bookId, deviceId, mutation.mutationId)

/-- The receipt goes in and the transaction is committed. -/
def answer (receipt : MutationReceiptDto) : PgScript :=
  .tryWrite (fun tables => tables.insertReceipt (receiptKey bookId deviceId mutation) receipt)
    (.commit receipt)

/-- The delete of `process_mutation_pg`. -/
def deleteScript : PgScript :=
  .select (fun tables => tables.rowIn bookId mutation.entityId) fun
  | none =>
    answer bookId deviceId mutation (rejectedReceipt mutation "NOT_FOUND" none)
  | some existing =>
    if mutation.baseVersion ≠ 0 ∧ mutation.baseVersion ≠ existing.version then
      answer bookId deviceId mutation
        (rejectedReceipt mutation "LEDGER_VERSION_CONFLICT" (some existing.version))
    else
      .tryWrite (fun tables => tables.markDeleted bookId mutation.entityId existing.version) <|
      .tryWrite (fun tables => tables.insertChange bookId stamp.commitId "transaction"
        mutation.entityId "delete" (existing.version + 1) mutation.payload) <|
      .tryWrite (fun tables => tables.insertRevision revisionId) <|
      answer bookId deviceId mutation (appliedReceipt mutation (existing.version + 1))

/-- The loop that inserts the entries. -/
def insertEntries (id : String) : List EntryDraft → Nat → PgScript → PgScript
  | [], _, next => next
  | draft :: rest, index, next =>
    .tryWrite (fun tables => tables.insertEntry id draft index)
      (insertEntries id rest (index + 1) next)

/-- The last statements of a create or an update. -/
def finishUpsert (version : Int) (payload : Json) : PgScript :=
  .tryWrite (fun tables => tables.insertChange bookId stamp.commitId "transaction"
    mutation.entityId "upsert" version payload) <|
  .tryWrite (fun tables => tables.insertRevision revisionId) <|
  answer bookId deviceId mutation (appliedReceipt mutation version)

/-- The writes of an update, given the payload that is logged. -/
def updateWrites (existing : TxRecord) (requestedOccurredAt : Option Timestamp)
    (drafts : List EntryDraft) (payload : Json) : PgScript :=
  .tryWrite (fun tables => tables.updateRow bookId mutation existing requestedOccurredAt) <|
  .write (fun tables => tables.deleteEntries mutation.entityId) <|
  insertEntries mutation.entityId drafts 0 <|
  finishUpsert bookId deviceId mutation stamp revisionId (existing.version + 1) payload

/-- The statements of an update that passes the version check. A payload that says nothing of the
source is logged with the stored one. -/
def updateScript (existing : TxRecord) (requestedOccurredAt : Option Timestamp)
    (drafts : List EntryDraft) : PgScript :=
  let canonical := canonicalTransactionPayload mutation.payload
    (requestedOccurredAt.getD existing.occurredAt)
  let writes := updateWrites bookId deviceId mutation stamp revisionId existing
    requestedOccurredAt drafts
  if canonical.containsKey "source" then writes canonical
  else
    .select (fun tables => (tables.rowIn bookId mutation.entityId).bind TxRecord.source) fun
    | some previous => writes (canonical.insert "source" (.str previous))
    | none => writes canonical

/-- The statements of a create that nothing duplicates. -/
def insertScript (requestedOccurredAt : Option Timestamp) (drafts : List EntryDraft) : PgScript :=
  .tryWrite (fun tables => tables.insertRow bookId mutation requestedOccurredAt stamp.now) <|
  insertEntries mutation.entityId drafts 0 <|
  finishUpsert bookId deviceId mutation stamp revisionId 1
    (canonicalTransactionPayload mutation.payload (requestedOccurredAt.getD stamp.now))

/-- The create or update of `process_mutation_pg`, after the accounts have been counted. -/
def upsertScript (requestedOccurredAt : Option Timestamp) (drafts : List EntryDraft) : PgScript :=
  .select (fun tables => tables.rowIn bookId mutation.entityId) fun
  | some existing =>
    if mutation.operation = "create" ∨ mutation.baseVersion ≠ existing.version then
      answer bookId deviceId mutation
        (rejectedReceipt mutation "LEDGER_VERSION_CONFLICT" (some existing.version))
    else updateScript bookId deviceId mutation stamp revisionId existing requestedOccurredAt drafts
  | none =>
    if (autoLedgerFingerprint mutation).isSome then
      .select (fun tables => tables.duplicateOf bookId mutation) fun
      | some deduped =>
        answer bookId deviceId mutation (dedupedReceipt mutation deduped.version)
      | none => insertScript bookId deviceId mutation stamp revisionId requestedOccurredAt drafts
    else insertScript bookId deviceId mutation stamp revisionId requestedOccurredAt drafts

/-- The database transaction of `process_mutation_pg`. A delete has no drafts. -/
def transactionScript (requestedOccurredAt : Option Timestamp)
    (drafts : Option (List EntryDraft)) : PgScript :=
  takeLock <| takeLock <|
  .select (fun tables => tables.mutations.lookup (receiptKey bookId deviceId mutation)) fun
  | some existing => .commit (existing.replayed mutation.mutationId)
  | none =>
    match drafts with
    | none => deleteScript bookId deviceId mutation stamp revisionId
    | some drafts =>
      .select (fun tables => tables.countAccounts bookId (accountIds drafts)) fun found =>
      if found ≠ (accountIds drafts).length then
        answer bookId deviceId mutation (rejectedReceipt mutation "ACCOUNT_NOT_FOUND" none)
      else upsertScript bookId deviceId mutation stamp revisionId requestedOccurredAt drafts

/-- `valid_account_parent_pg`. -/
def validParentScript (accountType : String) (parentAccountId : Option String)
    (next : Bool → PgScript) : PgScript :=
  match parentAccountId with
  | none => next true
  | some parentId =>
    if (accountType ≠ "expense" ∧ accountType ≠ "income") ∨ parentId = mutation.entityId then
      next false
    else
      .select (fun tables => tables.accounts.lookup parentId) fun
      | none => next false
      | some parent =>
        if parent.bookId ≠ bookId ∨ parent.accountType ≠ accountType ∨
            parent.parentAccountId.isSome then next false
        else
          .select (fun tables => tables.accounts.values.countP fun account =>
            account.parentAccountId = some mutation.entityId) fun children => next (children = 0)

/-- The last statements of an account create or update. -/
def finishAccount (name accountType currency : String) (parentAccountId : Option String)
    (version : Int) : PgScript :=
  .tryWrite (fun tables => tables.insertChange bookId stamp.commitId "account" mutation.entityId
    "upsert" version (canonicalAccountPayload name accountType currency parentAccountId)) <|
  answer bookId deviceId mutation (appliedReceipt mutation version)

/-- The statements of `process_account_mutation_pg` on the account it has selected. -/
def accountWriteScript (payload : AccountPayload) (existing : Option AccountRecord) : PgScript :=
  let refuse (code : String) (version : Option Int) : PgScript :=
    answer bookId deviceId mutation (rejectedReceipt mutation code version)
  if mutation.operation = "create" then
    match existing with
    | some existing => refuse "LEDGER_VERSION_CONFLICT" (some existing.version)
    | none =>
      let parentAccountId := payload.parentAccountId.getD none
      validParentScript bookId mutation payload.accountType parentAccountId fun valid =>
      if valid then
        .tryWrite (fun tables => tables.insertAccount
          { id := mutation.entityId
            bookId := bookId
            name := payload.name
            accountType := payload.accountType
            currency := payload.currency
            parentAccountId := parentAccountId
            version := 1 }) <|
        finishAccount bookId deviceId mutation stamp payload.name payload.accountType
          payload.currency parentAccountId 1
      else refuse "INVALID_CATEGORY_PARENT" none
  else
    match existing with
    | none => refuse "ACCOUNT_NOT_FOUND" none
    | some existing =>
      if existing.bookId ≠ bookId then refuse "ACCOUNT_NOT_FOUND" none
      else
        let parentAccountId := payload.parentAccountId.getD existing.parentAccountId
        validParentScript bookId mutation existing.accountType parentAccountId fun valid =>
        if valid then
          .write (fun tables => tables.updateAccount bookId mutation.entityId payload.name
            parentAccountId (existing.version + 1)) <|
          finishAccount bookId deviceId mutation stamp payload.name existing.accountType
            existing.currency parentAccountId (existing.version + 1)
        else refuse "INVALID_CATEGORY_PARENT" none

/-- `process_account_mutation_pg`. -/
def accountScript : PgScript :=
  takeLock <| takeLock <|
  .select (fun tables => tables.mutations.lookup (receiptKey bookId deviceId mutation)) fun
  | some existing => .commit (existing.replayed mutation.mutationId)
  | none =>
    match parseAccountPayload bookId mutation with
    | .error receipt => answer bookId deviceId mutation receipt
    | .ok payload =>
      takeLock <| takeLock <|
      .select (fun tables => tables.accounts.lookup mutation.entityId) fun existing =>
      accountWriteScript bookId deviceId mutation stamp payload existing

/-- What `process_mutation_pg` does with a mutation: it refuses it before it opens a database
transaction, or it runs one. -/
inductive PgPlan : Type 1
  | refused (receipt : MutationReceiptDto)
  | transaction (script : PgScript)

/-- What is refused before the transaction begins, and the statements of the others. -/
def pgPlan : PgPlan :=
  if mutation.entityType = "account" then
    .transaction (accountScript bookId deviceId mutation stamp)
  else if mutation.entityType ≠ "transaction" then
    .refused (rejectedReceipt mutation "UNSUPPORTED_MUTATION" none)
  else if mutation.operation = "delete" then
    .transaction (transactionScript bookId deviceId mutation stamp revisionId none none)
  else
    match checkedDrafts mutation with
    | .error receipt => .refused receipt
    | .ok (requestedOccurredAt, drafts) =>
      .transaction (transactionScript bookId deviceId mutation stamp revisionId
        requestedOccurredAt (some drafts))

end Scripts

/-- The receipt of a mutation whose database transaction failed. -/
def errorReceipt (mutation : SyncMutationDto) : PgFailure → MutationReceiptDto
  | .unique _ =>
    if mutation.entityType = "transaction" then uniqueViolationReceipt mutation
    else dbErrorReceipt mutation
  | .other => dbErrorReceipt mutation

/-- `process_mutation_pg`: the tables it leaves and its receipt. -/
def processStatements [Rfc3339] (around : Surroundings PgTables PgFailure) (tables : PgTables)
    (step : PushStep) (revisionId : String) : PgTables × MutationReceiptDto :=
  match pgPlan step.bookId step.deviceId step.mutation step.stamp revisionId with
  | .refused receipt => (tables, receipt)
  | .transaction script =>
    match script.run around tables with
    | .committed receipt store => (store, receipt)
    | .rolledBack failure _ left => (left, errorReceipt step.mutation failure)

/-! ### The loop of `push` -/

/-- What happens around one turn of the loop: the faults of its two own statements and what
others commit before them, and the surroundings of the database transaction. -/
structure TurnSurroundings where
  lookupFault : Bool
  beforeLookup : PgTables → PgTables
  transaction : Surroundings PgTables PgFailure
  receiptFault : Bool
  beforeReceipt : PgTables → PgTables

/-- Nothing happens. -/
def TurnSurroundings.quiet : TurnSurroundings := ⟨false, id, .quiet, false, id⟩

/-- One turn of the loop of `push`: the tables after it and the receipt, or the error that ends
the request. -/
def pushTurn [Rfc3339] (around : TurnSurroundings) (tables : PgTables) (step : PushStep)
    (revisionId : String) : PgTables × Option MutationReceiptDto :=
  let found := around.beforeLookup tables
  if around.lookupFault then (found, none)
  else
    match found.mutations.lookup step.key with
    | some existing => (found, some (existing.replayed step.mutation.mutationId))
    | none =>
      let processed := processStatements around.transaction found step revisionId
      let left := around.beforeReceipt processed.1
      if around.receiptFault then (left, none)
      else (left.recordReceipt step.key processed.2, some processed.2)

end Ledgerly
