/-
This file models the PostgreSQL backend of the sync server, as an ideal transactional
store: tables keyed by their primary keys, the partial unique index of the auto-ledger
transactions, and a transaction of the handler that runs as a whole or not at all.

The handlers are translated from `process_mutation_pg` and `process_account_mutation_pg`.
A transaction that violates a unique constraint is rolled back, and the receipt is made
from the error. The entries of a transaction are kept with its row, in `entry_index`
order. `push` has found the caller in `book_members` before a handler runs, so that the
foreign keys to `books` hold; those to `accounts` hold by the account check.
-/

import Ledgerly.AutoLedger

namespace Ledgerly

/-- The tables of the sync handlers. `nextSequence` is the counter of the serial column
of `sync_changes`. -/
structure PgStore where
  accounts : KeyMap String AccountRecord
  transactions : KeyMap String TxRecord
  mutations : KeyMap MutationKey MutationReceipt
  changes : List ChangeRecord
  nextSequence : Int

/-- A database no mutation has been pushed to yet. -/
def PgStore.initial (accounts : KeyMap String AccountRecord) : PgStore where
  accounts := accounts
  transactions := ∅
  mutations := ∅
  changes := []
  nextSequence := 1

/-- The start of the year 2000, from which a `TIMESTAMPTZ` counts microseconds. -/
def postgresEpoch : Int := 946684800000000000

/-- An instant as a `TIMESTAMPTZ` column keeps it: whole microseconds. -/
def Timestamp.column (instant : Timestamp) : Timestamp where
  val := if postgresEpoch ≤ instant.val then
      postgresEpoch + (instant.val - postgresEpoch) / 1000 * 1000
    else postgresEpoch - (postgresEpoch - instant.val) / 1000 * 1000
  property := by
    obtain ⟨nanos, lower, upper⟩ := instant
    simp only [postgresEpoch]
    split_ifs <;> omega

/-- `SELECT ... FROM transactions WHERE id=$1 AND book_id=$2`. -/
def PgStore.rowIn (store : PgStore) (bookId id : String) : Option TxRecord :=
  (store.transactions.lookup id).filter fun row => row.bookId = bookId

/-- The account ids of the drafts, sorted and without repetition in the source. -/
def accountIds (drafts : List EntryDraft) : List String :=
  (drafts.map EntryDraft.accountId).dedup

/-- `SELECT COUNT(*) FROM accounts WHERE book_id=$1 AND id=ANY($2)`. -/
def PgStore.countAccounts (store : PgStore) (bookId : String) (ids : List String) : Nat :=
  (store.accounts.entries.filter fun row => row.2.bookId = bookId ∧ row.1 ∈ ids).length

/-- Writing the row would put a second entry into `uq_transactions_auto_event`. -/
def PgStore.violatesAutoEvent (store : PgStore) (row : TxRecord) : Bool :=
  row.autoLedgerIndex.isSome && store.transactions.entries.any fun other =>
    other.1 ≠ row.id && other.2.autoLedgerIndex = row.autoLedgerIndex

/-- The select of `process_mutation_pg` for the transaction a create would duplicate. -/
def PgStore.duplicateOf (store : PgStore) (bookId : String) (mutation : SyncMutationDto) :
    Option TxRecord :=
  duplicateIn store.transactions bookId mutation

/-- `INSERT INTO sync_changes`. -/
def PgStore.logged (store : PgStore) (bookId commitId entityType entityId operation : String)
    (entityVersion : Int) (payload : Json) : PgStore :=
  { store with
    changes := store.changes ++ [{
      sequence := store.nextSequence
      bookId := bookId
      commitId := commitId
      entityType := entityType
      entityId := entityId
      operation := operation
      entityVersion := entityVersion
      payload := payload }]
    nextSequence := store.nextSequence + 1 }

/-- The answer to a mutation whose transaction has failed. -/
def dbErrorReceipt (mutation : SyncMutationDto) : MutationReceiptDto :=
  rejectedReceipt mutation "DB_ERROR" none

/-- The receipt of a mutation whose transaction violated a unique constraint. -/
def uniqueViolationReceipt (mutation : SyncMutationDto) : MutationReceiptDto :=
  if (autoLedgerFingerprint mutation).isSome then dedupedReceipt mutation 1
  else dbErrorReceipt mutation

section Handlers

variable [Rfc3339] (store : PgStore) (bookId : String) (mutation : SyncMutationDto)

/-- The delete of `process_mutation_pg`, on the row it has selected. -/
def writeDeletePg (existing : TxRecord) (stamp : Stamp) : PgStore × MutationReceiptDto :=
  let version := existing.version + 1
  (({ store with
      transactions := store.transactions.insert mutation.entityId
        { existing with deleted := true, version := version } } : PgStore).logged bookId
    stamp.commitId "transaction" mutation.entityId "delete" version mutation.payload,
    appliedReceipt mutation version)

/-- The branch of `process_mutation_pg` that deletes. -/
def processDeletePg (stamp : Stamp) : PgStore × MutationReceiptDto :=
  match store.rowIn bookId mutation.entityId with
  | none => (store, rejectedReceipt mutation "NOT_FOUND" none)
  | some existing =>
    if mutation.baseVersion ≠ 0 ∧ mutation.baseVersion ≠ existing.version then
      (store, rejectedReceipt mutation "LEDGER_VERSION_CONFLICT" (some existing.version))
    else writeDeletePg store bookId mutation existing stamp

/-- The row after `UPDATE transactions`: the deletion mark and the fingerprint stay. -/
def updatedRow (existing : TxRecord) (requestedOccurredAt : Option Timestamp)
    (drafts : List EntryDraft) : TxRecord :=
  { existing with
    description := (mutation.payload.get? "description").bind Json.asStr?
    occurredAt := (requestedOccurredAt.getD existing.occurredAt).column
    version := existing.version + 1
    source := (parseSource mutation).or existing.source
    entries := drafts.map EntryDraft.stored }

/-- The row of `INSERT INTO transactions`. -/
def insertedRow (requestedOccurredAt : Option Timestamp) (drafts : List EntryDraft)
    (now : Timestamp) : TxRecord where
  id := mutation.entityId
  bookId := bookId
  occurredAt := (requestedOccurredAt.getD now).column
  description := (mutation.payload.get? "description").bind Json.asStr?
  version := 1
  deleted := false
  entries := drafts.map EntryDraft.stored
  source := parseSource mutation
  sourceEventFingerprint := parseSourceEventFingerprint mutation

/-- The write of a row with its change. -/
def writeUpsertPg (row : TxRecord) (payload : Json) (stamp : Stamp) :
    PgStore × MutationReceiptDto :=
  (({ store with transactions := store.transactions.insert mutation.entityId row } :
      PgStore).logged bookId stamp.commitId "transaction" mutation.entityId "upsert" row.version
    payload, appliedReceipt mutation row.version)

/-- The database transaction of `process_mutation_pg` for a create or an update. -/
def processUpsertPg (requestedOccurredAt : Option Timestamp) (drafts : List EntryDraft)
    (stamp : Stamp) : PgStore × MutationReceiptDto :=
  if store.countAccounts bookId (accountIds drafts) ≠ (accountIds drafts).length then
    (store, rejectedReceipt mutation "ACCOUNT_NOT_FOUND" none)
  else
    match store.rowIn bookId mutation.entityId with
    | some existing =>
      if mutation.operation = "create" ∨ mutation.baseVersion ≠ existing.version then
        (store, rejectedReceipt mutation "LEDGER_VERSION_CONFLICT" (some existing.version))
      else
        let row := updatedRow mutation existing requestedOccurredAt drafts
        if store.violatesAutoEvent row then (store, uniqueViolationReceipt mutation)
        else writeUpsertPg store bookId mutation row
          (upsertPayload mutation (some existing) (requestedOccurredAt.getD existing.occurredAt))
          stamp
    | none =>
      match store.duplicateOf bookId mutation with
      | some deduped => (store, dedupedReceipt mutation deduped.version)
      | none =>
        let row := insertedRow bookId mutation requestedOccurredAt drafts stamp.now
        if (store.transactions.lookup mutation.entityId).isSome ∨ store.violatesAutoEvent row then
          (store, uniqueViolationReceipt mutation)
        else writeUpsertPg store bookId mutation row
          (upsertPayload mutation none (requestedOccurredAt.getD stamp.now)) stamp

/-- The write of an accepted account create or update. -/
def writeAccountPg (record : AccountRecord) (stamp : Stamp) : PgStore × MutationReceiptDto :=
  (({ store with accounts := store.accounts.insert mutation.entityId record } : PgStore).logged
    bookId stamp.commitId "account" mutation.entityId "upsert" record.version
    (canonicalAccountPayload record.name record.accountType record.currency
      record.parentAccountId), appliedReceipt mutation record.version)

/-- `process_account_mutation_pg`. `valid_account_parent_pg` asks the accounts table what
`valid_account_parent_mem` asks the map. -/
def processAccountMutationPg (stamp : Stamp) : PgStore × MutationReceiptDto :=
  match parseAccountPayload bookId mutation with
  | .error receipt => (store, receipt)
  | .ok payload =>
    if mutation.operation = "create" then
      match store.accounts.lookup mutation.entityId with
      | some existing =>
        (store, rejectedReceipt mutation "LEDGER_VERSION_CONFLICT" (some existing.version))
      | none =>
        let parentAccountId := payload.parentAccountId.getD none
        if validAccountParent store.accounts bookId mutation.entityId payload.accountType
            parentAccountId then
          writeAccountPg store bookId mutation
            { id := mutation.entityId
              bookId := bookId
              name := payload.name
              accountType := payload.accountType
              currency := payload.currency
              parentAccountId := parentAccountId
              version := 1 } stamp
        else (store, rejectedReceipt mutation "INVALID_CATEGORY_PARENT" none)
    else
      match store.accounts.lookup mutation.entityId with
      | none => (store, rejectedReceipt mutation "ACCOUNT_NOT_FOUND" none)
      | some existing =>
        if existing.bookId ≠ bookId then
          (store, rejectedReceipt mutation "ACCOUNT_NOT_FOUND" none)
        else
          let parentAccountId := payload.parentAccountId.getD existing.parentAccountId
          if validAccountParent store.accounts bookId mutation.entityId existing.accountType
              parentAccountId then
            writeAccountPg store bookId mutation
              { existing with
                name := payload.name
                parentAccountId := parentAccountId
                version := existing.version + 1 } stamp
          else (store, rejectedReceipt mutation "INVALID_CATEGORY_PARENT" none)

/-- `process_mutation_pg`. -/
def processMutationPg (stamp : Stamp) : PgStore × MutationReceiptDto :=
  if mutation.entityType = "account" then
    processAccountMutationPg store bookId mutation stamp
  else if mutation.entityType ≠ "transaction" then
    (store, rejectedReceipt mutation "UNSUPPORTED_MUTATION" none)
  else if mutation.operation = "delete" then processDeletePg store bookId mutation stamp
  else
    match checkedDrafts mutation with
    | .error receipt => (store, receipt)
    | .ok (requestedOccurredAt, drafts) =>
      processUpsertPg store bookId mutation requestedOccurredAt drafts stamp

end Handlers

/-- The body of the loop of `push` on PostgreSQL. -/
def pushMutationPg [Rfc3339] (store : PgStore) (step : PushStep) :
    PgStore × MutationReceiptDto :=
  match store.mutations.lookup step.key with
  | some existing => (store, existing.replayed step.mutation.mutationId)
  | none =>
    let processed := processMutationPg store step.bookId step.mutation step.stamp
    ({ processed.1 with mutations := processed.1.mutations.insert step.key processed.2.stored },
      processed.2)

/-- The database after a mutation, -/
def pushStepPg [Rfc3339] (store : PgStore) (step : PushStep) : PgStore :=
  (pushMutationPg store step).1

/-- and what it is answered. -/
def pushReceiptPg [Rfc3339] (store : PgStore) (step : PushStep) : MutationReceiptDto :=
  (pushMutationPg store step).2

end Ledgerly
