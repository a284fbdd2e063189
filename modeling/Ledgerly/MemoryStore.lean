/-
This file models the memory backend of the sync server: the store, the handling of
one pushed mutation (`process_mutation_mem` and the functions it dispatches to), the
body of the loop of `push`, and `push` itself.

The loop body runs under `memory_sync_lock`, so that mutations of concurrent requests
interleave whole: a run of the server is a list of `PushStep`s, in the order in which
the lock was taken. What the code draws from outside, the current time and a commit id,
is part of the step.
-/

import Ledgerly.Library.KeyMap
import Ledgerly.Library.Run
import Ledgerly.SyncMutation

namespace Ledgerly

/-- A book of the server. -/
structure BookRecord where
  id : String
  name : String
  ownerId : String

/-- An account of the server. -/
structure AccountRecord where
  id : String
  bookId : String
  name : String
  accountType : String
  currency : String
  parentAccountId : Option String
  version : Int
  deriving DecidableEq

/-- A stored entry: account, amount in minor units, currency. -/
structure StoredEntry where
  accountId : String
  amountMinor : Int
  currency : String
  deriving DecidableEq

/-- A transaction of the server. -/
structure TxRecord where
  id : String
  bookId : String
  occurredAt : Timestamp
  description : Option String
  version : Int
  deleted : Bool
  entries : List StoredEntry
  source : Option String
  sourceEventFingerprint : Option String
  deriving DecidableEq

/-- The answer that is stored for a mutation. -/
structure MutationReceipt where
  status : String
  resultCode : String
  entityVersion : Option Int
  deriving DecidableEq

/-- A row of the log of changes. -/
structure ChangeRecord where
  sequence : Int
  bookId : String
  commitId : String
  entityType : String
  entityId : String
  operation : String
  entityVersion : Int
  payload : Json

/-- The idempotency key of a mutation: book, device, mutation id. -/
abbrev MutationKey := String × String × String

/-- The part of `MemoryStore` the sync handlers use. -/
structure MemoryStore where
  books : KeyMap String BookRecord
  accounts : KeyMap String AccountRecord
  transactions : KeyMap String TxRecord
  mutations : KeyMap MutationKey MutationReceipt
  changes : List ChangeRecord

/-- A store no mutation has been pushed to yet: its books and accounts are there. -/
def MemoryStore.initial (books : KeyMap String BookRecord)
    (accounts : KeyMap String AccountRecord) : MemoryStore where
  books := books
  accounts := accounts
  transactions := ∅
  mutations := ∅
  changes := []

/-- What one run of the loop body takes from outside: `now_utc` and a fresh commit id. -/
structure Stamp where
  now : Timestamp
  commitId : String

/-- `(d.account_id, d.amount_minor as i64, d.currency)`. -/
def EntryDraft.stored (draft : EntryDraft) : StoredEntry where
  accountId := draft.accountId
  amountMinor := asI64 draft.amountMinor
  currency := draft.currency

/-- The record of an account id names an account of the book. -/
def accountInBook (accounts : KeyMap String AccountRecord) (bookId accountId : String) : Bool :=
  match accounts.lookup accountId with
  | some account => account.bookId = bookId
  | none => false

theorem accountInBook_iff {accounts : KeyMap String AccountRecord} {bookId accountId : String} :
    accountInBook accounts bookId accountId = true ↔
      ∃ account, accounts.lookup accountId = some account ∧ account.bookId = bookId := by
  unfold accountInBook
  split
  · rename_i account found
    simp [found]
  · rename_i missing
    simp [missing]

/-- `valid_account_parent_mem`. -/
def validAccountParent (accounts : KeyMap String AccountRecord) (bookId accountId : String)
    (accountType : String) (parentAccountId : Option String) : Bool :=
  match parentAccountId with
  | none => true
  | some parentId =>
    if accountType ∉ ["expense", "income"] ∨ parentId = accountId then false
    else
      match accounts.lookup parentId with
      | none => false
      | some parent =>
        parent.bookId = bookId && parent.accountType = accountType &&
          parent.parentAccountId.isNone &&
          !accounts.values.any fun account => account.parentAccountId = some accountId

/-- A change row with the next sequence number of the store. -/
def MemoryStore.nextChange (store : MemoryStore) (bookId commitId entityType : String)
    (entityId operation : String) (entityVersion : Int) (payload : Json) : ChangeRecord where
  sequence := (store.changes.length : Int) + 1
  bookId := bookId
  commitId := commitId
  entityType := entityType
  entityId := entityId
  operation := operation
  entityVersion := entityVersion
  payload := payload

/-- A live `auto_ledger` transaction of the book with the fingerprint. -/
def TxRecord.records (transaction : TxRecord) (bookId fingerprint : String) : Bool :=
  transaction.bookId = bookId && transaction.source = some "auto_ledger" &&
    transaction.sourceEventFingerprint = some fingerprint && !transaction.deleted

/-- A transaction that a new `auto_ledger` create would duplicate. -/
def duplicateIn (transactions : KeyMap String TxRecord) (bookId : String)
    (mutation : SyncMutationDto) : Option TxRecord :=
  (autoLedgerFingerprint mutation).bind fun fingerprint =>
    transactions.values.find? fun transaction => transaction.records bookId fingerprint

/-- The search of `process_mutation_mem` for the transaction a create would duplicate. -/
def MemoryStore.duplicateOf (store : MemoryStore) (bookId : String)
    (mutation : SyncMutationDto) : Option TxRecord :=
  duplicateIn store.transactions bookId mutation

/-- A duplicate that is found is stored. -/
theorem duplicateIn_eq_some {transactions : KeyMap String TxRecord} {bookId : String}
    {mutation : SyncMutationDto} {duplicate : TxRecord}
    (found : duplicateIn transactions bookId mutation = some duplicate) :
    ∃ fingerprint id, autoLedgerFingerprint mutation = some fingerprint ∧
      transactions.lookup id = some duplicate ∧
      duplicate.records bookId fingerprint = true := by
  obtain ⟨fingerprint, named, search⟩ := Option.bind_eq_some_iff.mp found
  obtain ⟨id, stored⟩ := KeyMap.mem_values_iff.mp (List.mem_of_find?_eq_some search)
  have records := List.find?_some search
  exact ⟨fingerprint, id, named, stored, records⟩

/-- The search misses only what is not there. -/
theorem duplicateIn_ne_none {transactions : KeyMap String TxRecord}
    {bookId fingerprint id : String} {mutation : SyncMutationDto} {transaction : TxRecord}
    (named : autoLedgerFingerprint mutation = some fingerprint)
    (stored : transactions.lookup id = some transaction)
    (records : transaction.records bookId fingerprint = true) :
    duplicateIn transactions bookId mutation ≠ none := by
  intro missing
  rw [duplicateIn, named, Option.bind_some, List.find?_eq_none] at missing
  exact missing transaction (KeyMap.mem_values_of_lookup stored) records

/-- `json!({"name", "accountType", "currency", "parentAccountId"})`. -/
def canonicalAccountPayload (name accountType currency : String)
    (parentAccountId : Option String) : Json :=
  .obj [("name", .str name), ("accountType", .str accountType), ("currency", .str currency),
    ("parentAccountId", .ofOption parentAccountId)]

section Handlers

variable [Rfc3339] (store : MemoryStore) (bookId : String) (mutation : SyncMutationDto)

/-- The write of an accepted delete. -/
def writeDeleteMem (existing : TxRecord) (stamp : Stamp) : MemoryStore × MutationReceiptDto :=
  let version := existing.version + 1
  ({ store with
      transactions := store.transactions.insert mutation.entityId
        { existing with deleted := true, version := version }
      changes := store.changes ++ [store.nextChange bookId stamp.commitId "transaction"
        mutation.entityId "delete" version mutation.payload] },
    appliedReceipt mutation version)

/-- `process_delete_mem`. -/
def processDeleteMem (stamp : Stamp) : MemoryStore × MutationReceiptDto :=
  match store.transactions.lookup mutation.entityId with
  | none => (store, rejectedReceipt mutation "NOT_FOUND" none)
  | some existing =>
    if existing.bookId ≠ bookId then (store, rejectedReceipt mutation "NOT_FOUND" none)
    else if mutation.baseVersion ≠ 0 ∧ mutation.baseVersion ≠ existing.version then
      (store, rejectedReceipt mutation "LEDGER_VERSION_CONFLICT" (some existing.version))
    else writeDeleteMem store bookId mutation existing stamp

/-- The record and the change payload `process_mutation_mem` writes for an accepted create
or update over the record it found, if any. -/
def upsertRecord (existing : Option TxRecord) (requestedOccurredAt : Option Timestamp)
    (drafts : List EntryDraft) (now : Timestamp) : TxRecord where
  id := mutation.entityId
  bookId := bookId
  occurredAt := (requestedOccurredAt.or (existing.map TxRecord.occurredAt)).getD now
  description := (mutation.payload.get? "description").bind Json.asStr?
  version := (existing.map fun transaction => transaction.version + 1).getD 1
  deleted := false
  entries := drafts.map EntryDraft.stored
  source := (parseSource mutation).or (existing.bind TxRecord.source)
  sourceEventFingerprint := parseSourceEventFingerprint mutation

/-- The payload that is logged for a write. A source that is stored already is told again. -/
def upsertPayload (existing : Option TxRecord) (occurredAt : Timestamp) : Json :=
  let canonical := canonicalTransactionPayload mutation.payload occurredAt
  match canonical.containsKey "source", existing.bind TxRecord.source with
  | false, some existingSource => canonical.insert "source" (.str existingSource)
  | _, _ => canonical

/-- The write of an accepted create or update. -/
def writeUpsertMem (existing : Option TxRecord) (requestedOccurredAt : Option Timestamp)
    (drafts : List EntryDraft) (stamp : Stamp) : MemoryStore × MutationReceiptDto :=
  let record := upsertRecord bookId mutation existing requestedOccurredAt drafts stamp.now
  ({ store with
      transactions := store.transactions.insert mutation.entityId record
      changes := store.changes ++ [store.nextChange bookId stamp.commitId "transaction"
        mutation.entityId "upsert" record.version
        (upsertPayload mutation existing record.occurredAt)] },
    appliedReceipt mutation record.version)

/-- The part of `process_mutation_mem` that holds the store: account check, version check,
deduplication, write. -/
def processUpsertMem (requestedOccurredAt : Option Timestamp) (drafts : List EntryDraft)
    (stamp : Stamp) : MemoryStore × MutationReceiptDto :=
  if drafts.all fun draft => accountInBook store.accounts bookId draft.accountId then
    match store.transactions.lookup mutation.entityId with
    | some existing =>
      if mutation.operation = "create" ∨ mutation.baseVersion ≠ existing.version then
        (store, rejectedReceipt mutation "LEDGER_VERSION_CONFLICT" (some existing.version))
      else writeUpsertMem store bookId mutation (some existing) requestedOccurredAt drafts stamp
    | none =>
      match store.duplicateOf bookId mutation with
      | some deduped => (store, dedupedReceipt mutation deduped.version)
      | none => writeUpsertMem store bookId mutation none requestedOccurredAt drafts stamp
  else (store, rejectedReceipt mutation "ACCOUNT_NOT_FOUND" none)

/-- The change row of an account write. -/
def accountChange (record : AccountRecord) (stamp : Stamp) : ChangeRecord :=
  store.nextChange bookId stamp.commitId "account" mutation.entityId "upsert" record.version
    (canonicalAccountPayload record.name record.accountType record.currency
      record.parentAccountId)

/-- The write of an accepted account create or update. -/
def writeAccountMem (record : AccountRecord) (stamp : Stamp) :
    MemoryStore × MutationReceiptDto :=
  ({ store with
      accounts := store.accounts.insert mutation.entityId record
      changes := store.changes ++ [accountChange store bookId mutation record stamp] },
    appliedReceipt mutation record.version)

/-- `process_account_mutation_mem`. -/
def processAccountMutationMem (stamp : Stamp) : MemoryStore × MutationReceiptDto :=
  match parseAccountPayload bookId mutation with
  | .error receipt => (store, receipt)
  | .ok payload =>
    match store.accounts.lookup mutation.entityId with
    | some existing =>
      if mutation.operation = "create" then
        (store, rejectedReceipt mutation "LEDGER_VERSION_CONFLICT" (some existing.version))
      else if existing.bookId ≠ bookId then
        (store, rejectedReceipt mutation "ACCOUNT_NOT_FOUND" none)
      else
        let parentAccountId := payload.parentAccountId.getD existing.parentAccountId
        if validAccountParent store.accounts bookId mutation.entityId existing.accountType
            parentAccountId then
          writeAccountMem store bookId mutation
            { existing with
              name := payload.name
              parentAccountId := parentAccountId
              version := existing.version + 1 } stamp
        else (store, rejectedReceipt mutation "INVALID_CATEGORY_PARENT" none)
    | none =>
      if mutation.operation = "create" then
        let parentAccountId := payload.parentAccountId.getD none
        if validAccountParent store.accounts bookId mutation.entityId payload.accountType
            parentAccountId then
          writeAccountMem store bookId mutation
            { id := mutation.entityId
              bookId := bookId
              name := payload.name
              accountType := payload.accountType
              currency := payload.currency
              parentAccountId := parentAccountId
              version := 1 } stamp
        else (store, rejectedReceipt mutation "INVALID_CATEGORY_PARENT" none)
      else (store, rejectedReceipt mutation "ACCOUNT_NOT_FOUND" none)

/-- `process_mutation_mem`. -/
def processMutationMem (stamp : Stamp) : MemoryStore × MutationReceiptDto :=
  if mutation.entityType = "account" then
    processAccountMutationMem store bookId mutation stamp
  else if mutation.entityType ≠ "transaction" then
    (store, rejectedReceipt mutation "UNSUPPORTED_MUTATION" none)
  else if mutation.operation = "delete" then processDeleteMem store bookId mutation stamp
  else
    match checkedDrafts mutation with
    | .error receipt => (store, receipt)
    | .ok (requestedOccurredAt, drafts) =>
      processUpsertMem store bookId mutation requestedOccurredAt drafts stamp

end Handlers

/-! ### The push loop -/

/-- What is stored of an answer, -/
def MutationReceiptDto.stored (receipt : MutationReceiptDto) : MutationReceipt where
  status := receipt.status
  resultCode := receipt.resultCode
  entityVersion := receipt.entityVersion

/-- and the answer that it gives later. -/
def MutationReceipt.replayed (receipt : MutationReceipt) (mutationId : String) :
    MutationReceiptDto where
  mutationId := mutationId
  status := receipt.status
  resultCode := receipt.resultCode
  entityVersion := receipt.entityVersion

/-- The body of the loop of `push` on the memory backend, under `memory_sync_lock`: the
stored receipt if there is one, else the mutation is processed and its receipt stored. -/
def pushMutation [Rfc3339] (store : MemoryStore) (bookId deviceId : String)
    (mutation : SyncMutationDto) (stamp : Stamp) : MemoryStore × MutationReceiptDto :=
  let key : MutationKey := (bookId, deviceId, mutation.mutationId)
  match store.mutations.lookup key with
  | some existing => (store, existing.replayed mutation.mutationId)
  | none =>
    let processed := processMutationMem store bookId mutation stamp
    ({ processed.1 with mutations := processed.1.mutations.insert key processed.2.stored },
      processed.2)

/-- One run of the loop body: the mutation, where and for whom it is pushed, and what the
code draws from outside. serde_json reads an array into a `Vec`, which bounds its length. -/
structure PushStep where
  bookId : String
  deviceId : String
  mutation : SyncMutationDto
  stamp : Stamp
  entriesFit : mutation.payload.arrayLength "entries" ≤ isizeMax := by decide

/-- The key under which the answer is stored. -/
def PushStep.key (step : PushStep) : MutationKey :=
  (step.bookId, step.deviceId, step.mutation.mutationId)

/-- The loop body as a state machine with receipts as outputs. -/
def pushStep [Rfc3339] (store : MemoryStore) (step : PushStep) : MemoryStore :=
  (pushMutation store step.bookId step.deviceId step.mutation step.stamp).1

/-- What a mutation is answered. -/
def pushReceipt [Rfc3339] (store : MemoryStore) (step : PushStep) : MutationReceiptDto :=
  (pushMutation store step.bookId step.deviceId step.mutation step.stamp).2

/-- `ApiError`: status code, code, message. -/
structure ApiError where
  status : Nat
  code : String
  message : String
  deriving DecidableEq

/-- `require_book_member` on the memory backend. -/
def requireBookMember (store : MemoryStore) (userId bookId : String) : Except ApiError Unit :=
  match store.books.lookup bookId with
  | some book =>
    if book.ownerId = userId then .ok ()
    else .error ⟨403, "BOOK_FORBIDDEN", "not a member of this book"⟩
  | none => .error ⟨403, "BOOK_FORBIDDEN", "not a member of this book"⟩

/-- The receipts of a list of loop bodies run one after the other. -/
def pushReceipts [Rfc3339] (store : MemoryStore) : List PushStep → List MutationReceiptDto
  | [] => []
  | step :: rest => pushReceipt store step :: pushReceipts (pushStep store step) rest

/-- `push`: the request of one user for one book. Its steps are the mutations of the
request in order, all with the book and the device of the request. -/
structure PushRequest where
  userId : String
  bookId : String
  deviceId : String
  steps : List PushStep
  addressed : ∀ step ∈ steps, step.bookId = bookId ∧ step.deviceId = deviceId

/-- A push by a member of the book: its mutations in order. -/
def push [Rfc3339] (store : MemoryStore) (request : PushRequest) :
    MemoryStore × Except ApiError (List MutationReceiptDto) :=
  match requireBookMember store request.userId request.bookId with
  | .error error => (store, .error error)
  | .ok _ => (Machine.run pushStep store request.steps, .ok (pushReceipts store request.steps))

end Ledgerly
