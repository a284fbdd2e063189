/-
This file settles when the memory backend and the PostgreSQL backend agree.

The two are written twice, branch by branch, and they differ in three places. The
memory backend looks a transaction up by its id, the database by id and book. An
update that the memory backend accepts brings a deleted transaction back and replaces
the fingerprint; in the database the deletion mark and the fingerprint stay. And only
the database has the unique index, which an update can run into. The theorem says that
there is no fourth: the backends answer every mutation alike and hold the same
transactions exactly as long as no mutation reaches one of the three.
-/

import Mathlib.Data.List.Dedup
import Mathlib.Data.List.Perm.Basic
import Ledgerly.Library.Lockstep
import Ledgerly.PostgresStep

namespace Ledgerly

/-- What the two backends are compared by. -/
structure TxView where
  bookId : String
  version : Int
  deleted : Bool
  entries : List StoredEntry
  source : Option String
  sourceEventFingerprint : Option String
  deriving DecidableEq

/-- What both backends keep of a transaction. -/
def TxRecord.view (transaction : TxRecord) : TxView where
  bookId := transaction.bookId
  version := transaction.version
  deleted := transaction.deleted
  entries := transaction.entries
  source := transaction.source
  sourceEventFingerprint := transaction.sourceEventFingerprint

/-- Both backends hold the same transactions. -/
def SameTransactions (memory : MemoryStore) (database : PgStore) : Prop :=
  ∀ id, (memory.transactions.lookup id).map TxRecord.view =
    (database.transactions.lookup id).map TxRecord.view

/-- A new create or update that passes the checks on its payload and its accounts, with the
stored transaction it names. -/
structure Addresses [Rfc3339] (store : MemoryStore) (step : PushStep) (existing : TxRecord) :
    Prop where
  new : store.mutations.lookup step.key = none
  isTransaction : step.mutation.entityType = "transaction"
  notDelete : step.mutation.operation ≠ "delete"
  checked : ∃ requestedOccurredAt drafts,
    checkedDrafts step.mutation = .ok (requestedOccurredAt, drafts) ∧
      ∀ draft ∈ drafts, accountInBook store.accounts step.bookId draft.accountId = true
  found : store.transactions.lookup step.mutation.entityId = some existing

/-- The update keeps the deletion mark and the fingerprint, and does not make the transaction
an `auto_ledger` one with a fingerprint that another live one of the book has. -/
structure Harmless (store : MemoryStore) (step : PushStep) (existing : TxRecord) : Prop where
  live : existing.deleted = false
  fingerprint : parseSourceEventFingerprint step.mutation = existing.sourceEventFingerprint
  original : ¬∃ fingerprint other taken,
    (parseSource step.mutation).or existing.source = some "auto_ledger" ∧
      existing.sourceEventFingerprint = some fingerprint ∧ other ≠ step.mutation.entityId ∧
      store.transactions.lookup other = some taken ∧
      taken.records step.bookId fingerprint = true

/-- The mutation reaches none of the places where the backends differ. -/
def BackendsCoincide [Rfc3339] (store : MemoryStore) (step : PushStep) : Prop :=
  ∀ existing, Addresses store step existing → existing.bookId = step.bookId ∧
    (step.mutation.operation = "update" → step.mutation.baseVersion = existing.version →
      Harmless store step existing)

/-- The relation that carries the comparison: the same transactions, accounts and receipts,
and the constraints of the database. -/
structure BackendsRelated (memory : MemoryStore) (database : PgStore) : Prop where
  transactions : SameTransactions memory database
  accounts : memory.accounts = database.accounts
  receipts : ∀ key, memory.mutations.lookup key = database.mutations.lookup key
  constrained : database.Constrained

/-! ### Reading the tables -/

theorem view_autoLedgerIndex {left right : TxRecord} (same : left.view = right.view) :
    left.autoLedgerIndex = right.autoLedgerIndex := by
  simp only [TxRecord.view, TxView.mk.injEq] at same
  obtain ⟨book, -, deleted, -, source, fingerprint⟩ := same
  rw [TxRecord.autoLedgerIndex, TxRecord.autoLedgerIndex, book, deleted, source, fingerprint]

section Related

variable {memory : MemoryStore} {database : PgStore}

theorem SameTransactions.none_iff (same : SameTransactions memory database) (id : String) :
    memory.transactions.lookup id = none ↔ database.transactions.lookup id = none := by
  have equal := same id
  constructor
  · intro missing
    rwa [missing, Option.map_none, eq_comm, Option.map_eq_none_iff] at equal
  · intro missing
    rwa [missing, Option.map_none, Option.map_eq_none_iff] at equal

theorem SameTransactions.exists_row (same : SameTransactions memory database) {id : String}
    {transaction : TxRecord} (found : memory.transactions.lookup id = some transaction) :
    ∃ row, database.transactions.lookup id = some row ∧ row.view = transaction.view := by
  have equal := same id
  rw [found, Option.map_some, eq_comm, Option.map_eq_some_iff] at equal
  exact equal

theorem SameTransactions.exists_transaction (same : SameTransactions memory database)
    {id : String} {row : TxRecord} (found : database.transactions.lookup id = some row) :
    ∃ transaction, memory.transactions.lookup id = some transaction ∧
      transaction.view = row.view := by
  have equal := same id
  rw [found, Option.map_some, Option.map_eq_some_iff] at equal
  exact equal

/-- Writing one key on both sides keeps them the same exactly if the records look alike. -/
theorem sameTransactions_insert_iff (same : SameTransactions memory database)
    {writtenMemory : MemoryStore} {writtenDatabase : PgStore} {key : String}
    {transaction row : TxRecord}
    (wroteMemory : writtenMemory.transactions = memory.transactions.insert key transaction)
    (wroteDatabase : writtenDatabase.transactions = database.transactions.insert key row) :
    SameTransactions writtenMemory writtenDatabase ↔ transaction.view = row.view := by
  constructor
  · intro after
    have equal := after key
    rw [wroteMemory, wroteDatabase, AList.lookup_insert, AList.lookup_insert] at equal
    exact Option.some.inj equal
  · intro alike id
    rw [wroteMemory, wroteDatabase, KeyMap.lookup_insert_eq, KeyMap.lookup_insert_eq]
    by_cases atKey : id = key
    · rw [if_pos atKey, if_pos atKey, Option.map_some, Option.map_some, alike]
    · rw [if_neg atKey, if_neg atKey, same id]

/-- The database counts all accounts exactly if the memory backend finds each of them. -/
theorem countAccounts_eq_length_iff (store : PgStore) (bookId : String)
    (drafts : List EntryDraft) :
    store.countAccounts bookId (accountIds drafts) = (accountIds drafts).length ↔
      ∀ draft ∈ drafts, accountInBook store.accounts bookId draft.accountId = true := by
  have selected : ((store.accounts.entries.filter fun row =>
        row.2.bookId = bookId ∧ row.1 ∈ accountIds drafts).map Sigma.fst).Perm
      ((accountIds drafts).filter fun id => accountInBook store.accounts bookId id) := by
    have keysOnce : (store.accounts.entries.map Sigma.fst).Nodup := store.accounts.nodupKeys
    have idsOnce : (accountIds drafts).Nodup := List.nodup_dedup _
    rw [List.perm_ext_iff_of_nodup (keysOnce.sublist ((List.filter_sublist).map _))
      (idsOnce.filter _)]
    intro id
    simp only [List.mem_map, List.mem_filter, decide_eq_true_eq, accountInBook_iff,
      ← Option.mem_def, AList.mem_lookup_iff]
    constructor
    · rintro ⟨⟨_, account⟩, ⟨member, owned, wanted⟩, rfl⟩
      exact ⟨wanted, account, member, owned⟩
    · rintro ⟨wanted, account, member, owned⟩
      exact ⟨⟨id, account⟩, ⟨member, owned, wanted⟩, rfl⟩
  have count := selected.length_eq
  rw [List.length_map] at count
  rw [PgStore.countAccounts, count, List.length_filter_eq_length_iff]
  simp only [accountIds, List.mem_dedup, List.forall_mem_map]

/-- The database select finds the row of a transaction of the book, and only there. -/
theorem rowIn_eq {bookId id : String} {row : TxRecord}
    (found : database.transactions.lookup id = some row) :
    database.rowIn bookId id = if row.bookId = bookId then some row else none := by
  rw [PgStore.rowIn, found, Option.filter_some]
  by_cases inBook : row.bookId = bookId
  · rw [if_pos (decide_eq_true inBook), if_pos inBook]
  · rw [if_neg (by simpa using inBook), if_neg inBook]

theorem rowIn_eq_none {bookId id : String}
    (missing : database.transactions.lookup id = none) : database.rowIn bookId id = none := by
  rw [PgStore.rowIn, missing, Option.filter_none]

/-- The entries of the index are the same on both sides. -/
theorem SameTransactions.records_iff (same : SameTransactions memory database)
    {bookId fingerprint id : String} :
    (∃ taken, memory.transactions.lookup id = some taken ∧
        taken.records bookId fingerprint = true) ↔
      ∃ taken, database.transactions.lookup id = some taken ∧
        taken.records bookId fingerprint = true := by
  simp only [← autoLedgerIndex_eq_some]
  constructor
  · rintro ⟨taken, found, inIndex⟩
    obtain ⟨row, stored, alike⟩ := same.exists_row found
    exact ⟨row, stored, (view_autoLedgerIndex alike).trans inIndex⟩
  · rintro ⟨row, stored, inIndex⟩
    obtain ⟨taken, found, alike⟩ := same.exists_transaction stored
    exact ⟨taken, found, (view_autoLedgerIndex alike).trans inIndex⟩

/-- Both backends find a duplicate, or neither, and it has one version: the index leaves no
choice of the row. -/
theorem BackendsRelated.duplicateOf (related : BackendsRelated memory database)
    (bookId : String) (mutation : SyncMutationDto) :
    (memory.duplicateOf bookId mutation).map TxRecord.version =
      (database.duplicateOf bookId mutation).map TxRecord.version := by
  cases inMemory : memory.duplicateOf bookId mutation with
  | none =>
    cases inDatabase : database.duplicateOf bookId mutation with
    | none => rfl
    | some row =>
      obtain ⟨fingerprint, id, named, stored, records⟩ := duplicateIn_eq_some inDatabase
      obtain ⟨taken, found, alike⟩ :=
        related.transactions.records_iff.mpr ⟨row, stored, records⟩
      exact absurd inMemory (duplicateIn_ne_none named found alike)
  | some transaction =>
    obtain ⟨fingerprint, id, named, found, records⟩ := duplicateIn_eq_some inMemory
    obtain ⟨row, stored, view⟩ := related.transactions.exists_row found
    have inIndex : row.autoLedgerIndex = some (bookId, fingerprint) := by
      rw [view_autoLedgerIndex view, autoLedgerIndex_eq_some, records]
    cases inDatabase : database.duplicateOf bookId mutation with
    | none =>
      exact absurd inDatabase
        (duplicateIn_ne_none named stored (autoLedgerIndex_eq_some.mp inIndex))
    | some other =>
      obtain ⟨sameFingerprint, otherId, namedAgain, otherStored, otherRecords⟩ :=
        duplicateIn_eq_some inDatabase
      obtain rfl : fingerprint = sameFingerprint :=
        Option.some.inj (named.symm.trans namedAgain)
      obtain rfl : id = otherId := related.constrained.autoEvent _ _ _ _ _ stored otherStored inIndex
        (autoLedgerIndex_eq_some.mpr otherRecords)
      obtain rfl : row = other := Option.some.inj (stored.symm.trans otherStored)
      rw [Option.map_some, Option.map_some]
      exact congrArg some (congrArg TxView.version view).symm

end Related

/-! ### One mutation on both backends -/

section Step

variable [Rfc3339] {memory : MemoryStore} {database : PgStore} {step : PushStep}

/-- Two outcomes with one receipt and the same transactions. -/
def Alike (left : MemoryStore × MutationReceiptDto) (right : PgStore × MutationReceiptDto) :
    Prop :=
  left.2 = right.2 ∧ SameTransactions left.1 right.1

omit [Rfc3339] in
/-- Both backends refuse with one receipt. -/
theorem BackendsRelated.alike (related : BackendsRelated memory database)
    (receipt : MutationReceiptDto) : Alike (memory, receipt) (database, receipt) :=
  ⟨rfl, related.transactions⟩

omit [Rfc3339] in
/-- Accounts are handled alike: both backends refuse with one receipt, or both write one
record. -/
theorem processAccountMutation_alike (related : BackendsRelated memory database)
    (bookId : String) (mutation : SyncMutationDto) (stamp : Stamp) :
    (∃ receipt, processAccountMutationMem memory bookId mutation stamp = (memory, receipt) ∧
      processAccountMutationPg database bookId mutation stamp = (database, receipt)) ∨
    ∃ record, processAccountMutationMem memory bookId mutation stamp =
        writeAccountMem memory bookId mutation record stamp ∧
      processAccountMutationPg database bookId mutation stamp =
        writeAccountPg database bookId mutation record stamp := by
  unfold processAccountMutationMem processAccountMutationPg
  rw [← related.accounts]
  cases parseAccountPayload bookId mutation with
  | error receipt => exact Or.inl ⟨receipt, rfl, rfl⟩
  | ok payload =>
    cases memory.accounts.lookup mutation.entityId with
    | none =>
      by_cases isCreate : mutation.operation = "create"
      · by_cases valid : validAccountParent memory.accounts bookId mutation.entityId
            payload.accountType (payload.parentAccountId.getD none) = true
        · simp only [if_pos isCreate, if_pos valid]
          exact Or.inr ⟨_, rfl, rfl⟩
        · simp only [if_pos isCreate, if_neg valid]
          exact Or.inl ⟨_, rfl, rfl⟩
      · simp only [if_neg isCreate]
        exact Or.inl ⟨_, rfl, rfl⟩
    | some existing =>
      by_cases isCreate : mutation.operation = "create"
      · simp only [if_pos isCreate]
        exact Or.inl ⟨_, rfl, rfl⟩
      · by_cases foreign : existing.bookId ≠ bookId
        · simp only [if_neg isCreate, if_pos foreign]
          exact Or.inl ⟨_, rfl, rfl⟩
        · by_cases valid : validAccountParent memory.accounts bookId mutation.entityId
              existing.accountType (payload.parentAccountId.getD existing.parentAccountId) = true
          · simp only [if_neg isCreate, if_neg foreign, if_pos valid]
            exact Or.inr ⟨_, rfl, rfl⟩
          · simp only [if_neg isCreate, if_neg foreign, if_neg valid]
            exact Or.inl ⟨_, rfl, rfl⟩

omit [Rfc3339] in
/-- Deletes are handled alike. -/
theorem processDelete_alike (related : BackendsRelated memory database) (bookId : String)
    (mutation : SyncMutationDto) (stamp : Stamp) :
    Alike (processDeleteMem memory bookId mutation stamp)
      (processDeletePg database bookId mutation stamp) := by
  unfold processDeleteMem processDeletePg
  cases found : memory.transactions.lookup mutation.entityId with
  | none =>
    rw [rowIn_eq_none ((related.transactions.none_iff _).mp found)]
    exact related.alike _
  | some existing =>
    obtain ⟨row, stored, view⟩ := related.transactions.exists_row found
    have sameBook : row.bookId = existing.bookId := congrArg TxView.bookId view
    have sameVersion : row.version = existing.version := congrArg TxView.version view
    rw [rowIn_eq stored, sameBook]
    by_cases inBook : existing.bookId = bookId
    · rw [if_pos inBook]
      simp only [inBook, ne_eq, not_true_eq_false, if_false, sameVersion]
      by_cases stale : ¬mutation.baseVersion = 0 ∧ ¬mutation.baseVersion = existing.version
      · rw [if_pos stale, if_pos stale]
        exact related.alike _
      · rw [if_neg stale, if_neg stale]
        refine ⟨by simp only [writeDeleteMem, writeDeletePg, sameVersion], ?_⟩
        refine (sameTransactions_insert_iff related.transactions rfl rfl).mpr ?_
        simp only [TxRecord.view, TxView.mk.injEq] at view ⊢
        exact ⟨view.1.symm, by rw [sameVersion], trivial, view.2.2.2.1.symm,
          view.2.2.2.2.1.symm, view.2.2.2.2.2.symm⟩
    · rw [if_neg inBook]
      simp only [inBook, ne_eq, not_false_eq_true, if_true]
      exact related.alike _

/-- A create of a new id is handled alike. -/
theorem processNew_alike (related : BackendsRelated memory database)
    (missing : memory.transactions.lookup step.mutation.entityId = none)
    (requestedOccurredAt : Option Timestamp) {drafts : List EntryDraft}
    (accounts : ∀ draft ∈ drafts,
      accountInBook memory.accounts step.bookId draft.accountId = true) :
    Alike
      (processUpsertMem memory step.bookId step.mutation requestedOccurredAt drafts step.stamp)
      (processUpsertPg database step.bookId step.mutation requestedOccurredAt drafts
        step.stamp) := by
  have counted := (countAccounts_eq_length_iff database step.bookId drafts).mpr
    (by rw [← related.accounts]; exact accounts)
  have missingRow := (related.transactions.none_iff _).mp missing
  have duplicates := related.duplicateOf step.bookId step.mutation
  unfold processUpsertMem processUpsertPg
  rw [if_pos (List.all_eq_true.mpr accounts), if_neg (not_not.mpr counted), missing,
    rowIn_eq_none missingRow]
  simp only
  cases inMemory : memory.duplicateOf step.bookId step.mutation with
  | some duplicate =>
    cases inDatabase : database.duplicateOf step.bookId step.mutation with
    | none =>
      rw [inMemory, inDatabase] at duplicates
      cases duplicates
    | some row =>
      rw [inMemory, inDatabase] at duplicates
      simp only [Option.some.inj duplicates]
      exact related.alike _
  | none =>
    cases inDatabase : database.duplicateOf step.bookId step.mutation with
    | some row =>
      rw [inMemory, inDatabase] at duplicates
      cases duplicates
    | none =>
      let row := insertedRow step.bookId step.mutation requestedOccurredAt drafts step.stamp.now
      have free : ¬database.violatesAutoEvent row = true := by
        rw [violatesAutoEvent_iff]
        rintro ⟨owner, fingerprint, other, taken, inIndex, -, stored, records⟩
        rw [autoLedgerIndex_eq_some] at inIndex
        simp only [row, insertedRow, TxRecord.records, Bool.and_eq_true,
          decide_eq_true_eq] at inIndex
        obtain ⟨⟨⟨rfl, autoLedger⟩, fingerprinted⟩, -⟩ := inIndex
        exact duplicateIn_ne_none (autoLedgerFingerprint_eq autoLedger fingerprinted) stored
          records inDatabase
      simp only
      rw [if_neg (by rw [missingRow]; simpa using free)]
      refine ⟨rfl, (sameTransactions_insert_iff related.transactions rfl rfl).mpr ?_⟩
      simp only [TxRecord.view, upsertRecord, insertedRow, Option.map_none, Option.bind_none,
        Option.or_none, Option.getD_none]

/-- A mutation on a transaction of another book is never handled alike: the memory backend
compares versions, the database runs into the primary key or finds a duplicate. -/
theorem not_alike_of_foreign (related : BackendsRelated memory database) {existing : TxRecord}
    (found : memory.transactions.lookup step.mutation.entityId = some existing)
    (foreign : existing.bookId ≠ step.bookId) (requestedOccurredAt : Option Timestamp)
    {drafts : List EntryDraft}
    (accounts : ∀ draft ∈ drafts,
      accountInBook memory.accounts step.bookId draft.accountId = true) :
    ¬Alike
      (processUpsertMem memory step.bookId step.mutation requestedOccurredAt drafts step.stamp)
      (processUpsertPg database step.bookId step.mutation requestedOccurredAt drafts
        step.stamp) := by
  have counted := (countAccounts_eq_length_iff database step.bookId drafts).mpr
    (by rw [← related.accounts]; exact accounts)
  obtain ⟨row, stored, view⟩ := related.transactions.exists_row found
  have sameBook : row.bookId = existing.bookId := congrArg TxView.bookId view
  have notInBook : row.bookId ≠ step.bookId := by
    rw [sameBook]
    exact foreign
  have answersMemory :
      (processUpsertMem memory step.bookId step.mutation requestedOccurredAt drafts
          step.stamp).2.resultCode = "LEDGER_VERSION_CONFLICT" ∨
        (processUpsertMem memory step.bookId step.mutation requestedOccurredAt drafts
          step.stamp).2.resultCode = "OK" := by
    unfold processUpsertMem
    rw [if_pos (List.all_eq_true.mpr accounts), found]
    simp only
    split
    · exact Or.inl rfl
    · exact Or.inr rfl
  have answersDatabase :
      (processUpsertPg database step.bookId step.mutation requestedOccurredAt drafts
          step.stamp).2.resultCode = "AUTO_LEDGER_DEDUPED" ∨
        (processUpsertPg database step.bookId step.mutation requestedOccurredAt drafts
          step.stamp).2.resultCode = "DB_ERROR" := by
    unfold processUpsertPg
    rw [if_neg (not_not.mpr counted), rowIn_eq stored, if_neg notInBook]
    simp only
    split
    · exact Or.inl rfl
    · rw [if_pos (Or.inl (by rw [stored]; rfl))]
      unfold uniqueViolationReceipt
      split
      · exact Or.inl rfl
      · exact Or.inr rfl
  rintro ⟨receipts, -⟩
  rw [receipts] at answersMemory
  rcases answersMemory with memoryCode | memoryCode <;>
    rcases answersDatabase with databaseCode | databaseCode <;>
      exact absurd (memoryCode.symm.trans databaseCode) (by decide)

/-- A create of a stored id and an update of an older version are handled alike. -/
theorem processConflict_alike (related : BackendsRelated memory database) {existing : TxRecord}
    (found : memory.transactions.lookup step.mutation.entityId = some existing)
    (owned : existing.bookId = step.bookId)
    (conflict : step.mutation.operation = "create" ∨
      step.mutation.baseVersion ≠ existing.version)
    (requestedOccurredAt : Option Timestamp) {drafts : List EntryDraft}
    (accounts : ∀ draft ∈ drafts,
      accountInBook memory.accounts step.bookId draft.accountId = true) :
    Alike
      (processUpsertMem memory step.bookId step.mutation requestedOccurredAt drafts step.stamp)
      (processUpsertPg database step.bookId step.mutation requestedOccurredAt drafts
        step.stamp) := by
  have counted := (countAccounts_eq_length_iff database step.bookId drafts).mpr
    (by rw [← related.accounts]; exact accounts)
  obtain ⟨row, stored, view⟩ := related.transactions.exists_row found
  have sameBook : row.bookId = existing.bookId := congrArg TxView.bookId view
  have sameVersion : row.version = existing.version := congrArg TxView.version view
  unfold processUpsertMem processUpsertPg
  rw [if_pos (List.all_eq_true.mpr accounts), if_neg (not_not.mpr counted), found,
    rowIn_eq stored, if_pos (sameBook.trans owned)]
  simp only
  rw [sameVersion, if_pos conflict, if_pos conflict]
  exact related.alike _

/-- An update of the current version of a transaction of the book is handled alike exactly if
it is harmless. -/
theorem processUpdate_alike_iff (related : BackendsRelated memory database)
    {existing : TxRecord}
    (found : memory.transactions.lookup step.mutation.entityId = some existing)
    (owned : existing.bookId = step.bookId) (isUpdate : step.mutation.operation = "update")
    (current : step.mutation.baseVersion = existing.version)
    (requestedOccurredAt : Option Timestamp) {drafts : List EntryDraft}
    (accounts : ∀ draft ∈ drafts,
      accountInBook memory.accounts step.bookId draft.accountId = true) :
    Alike
      (processUpsertMem memory step.bookId step.mutation requestedOccurredAt drafts step.stamp)
      (processUpsertPg database step.bookId step.mutation requestedOccurredAt drafts
        step.stamp) ↔ Harmless memory step existing := by
  have counted := (countAccounts_eq_length_iff database step.bookId drafts).mpr
    (by rw [← related.accounts]; exact accounts)
  obtain ⟨stored, inTable, view⟩ := related.transactions.exists_row found
  have named : stored.id = step.mutation.entityId := related.constrained.primaryKey _ _ inTable
  have view' := view
  simp only [TxRecord.view, TxView.mk.injEq] at view'
  obtain ⟨sameBook, sameVersion, sameDeleted, -, sameSource, sameFingerprint⟩ := view'
  let row := updatedRow step.mutation stored requestedOccurredAt drafts
  have admitted : ¬(step.mutation.operation = "create" ∨
      step.mutation.baseVersion ≠ existing.version) := by
    rw [isUpdate, current]
    simp
  have inMemory : processUpsertMem memory step.bookId step.mutation requestedOccurredAt drafts
      step.stamp = writeUpsertMem memory step.bookId step.mutation (some existing)
        requestedOccurredAt drafts step.stamp := by
    unfold processUpsertMem
    rw [if_pos (List.all_eq_true.mpr accounts), found]
    simp only
    rw [if_neg admitted]
  have inDatabase : processUpsertPg database step.bookId step.mutation requestedOccurredAt drafts
      step.stamp = if database.violatesAutoEvent row then
          (database, uniqueViolationReceipt step.mutation)
        else writeUpsertPg database step.bookId step.mutation row
          (upsertPayload step.mutation (some stored)
            (requestedOccurredAt.getD stored.occurredAt)) step.stamp := by
    unfold processUpsertPg
    rw [if_neg (not_not.mpr counted), rowIn_eq inTable, if_pos (sameBook.trans owned)]
    simp only
    rw [if_neg (by rw [sameVersion]; exact admitted)]
  have conflicts : database.violatesAutoEvent row = true ↔ existing.deleted = false ∧
      ∃ fingerprint other taken,
        (parseSource step.mutation).or existing.source = some "auto_ledger" ∧
        existing.sourceEventFingerprint = some fingerprint ∧ other ≠ step.mutation.entityId ∧
        memory.transactions.lookup other = some taken ∧
        taken.records step.bookId fingerprint = true := by
    rw [violatesAutoEvent_iff]
    have index : ∀ owner fingerprint, row.autoLedgerIndex = some (owner, fingerprint) ↔
        owner = step.bookId ∧
          (parseSource step.mutation).or existing.source = some "auto_ledger" ∧
          existing.sourceEventFingerprint = some fingerprint ∧ existing.deleted = false := by
      intro owner fingerprint
      rw [autoLedgerIndex_eq_some]
      simp only [TxRecord.records, row, updatedRow, sameBook, owned, sameSource, sameDeleted,
        sameFingerprint, Bool.and_eq_true, decide_eq_true_eq, Bool.not_eq_true']
      rw [eq_comm, and_assoc, and_assoc]
    constructor
    · rintro ⟨owner, fingerprint, other, taken, inIndex, different, storedOther, records⟩
      obtain ⟨rfl, autoLedger, fingerprinted, live⟩ := (index _ _).mp inIndex
      obtain ⟨transaction, foundOther, alike⟩ :=
        related.transactions.records_iff.mpr ⟨taken, storedOther, records⟩
      exact ⟨live, fingerprint, other, transaction, autoLedger, fingerprinted,
        by rw [← named]; exact different, foundOther, alike⟩
    · rintro ⟨live, fingerprint, other, transaction, autoLedger, fingerprinted, different,
        foundOther, alike⟩
      obtain ⟨taken, storedOther, records⟩ :=
        related.transactions.records_iff.mp ⟨transaction, foundOther, alike⟩
      exact ⟨step.bookId, fingerprint, other, taken,
        (index _ _).mpr ⟨rfl, autoLedger, fingerprinted, live⟩,
        fun same => different (same.trans named), storedOther, records⟩
  rw [inMemory, inDatabase]
  by_cases violates : database.violatesAutoEvent row = true
  · rw [if_pos violates]
    obtain ⟨-, conflict⟩ := conflicts.mp violates
    refine iff_of_false ?_ fun harmless => harmless.original conflict
    rintro ⟨receipts, -⟩
    have codes := congrArg MutationReceiptDto.resultCode receipts
    unfold uniqueViolationReceipt at codes
    split at codes
    · exact absurd codes (by simp [writeUpsertMem, appliedReceipt, dedupedReceipt])
    · exact absurd codes
        (by simp [writeUpsertMem, appliedReceipt, dbErrorReceipt, rejectedReceipt])
  · rw [if_neg violates]
    have sameReceipts : (writeUpsertMem memory step.bookId step.mutation (some existing)
        requestedOccurredAt drafts step.stamp).2 = (writeUpsertPg database step.bookId
          step.mutation row (upsertPayload step.mutation (some stored)
            (requestedOccurredAt.getD stored.occurredAt)) step.stamp).2 := by
      simp only [writeUpsertMem, writeUpsertPg, upsertRecord, row, updatedRow, sameVersion,
        Option.map_some, Option.getD_some]
    have sameViews : (upsertRecord step.bookId step.mutation (some existing)
        requestedOccurredAt drafts step.stamp.now).view = row.view ↔
          existing.deleted = false ∧
            parseSourceEventFingerprint step.mutation = existing.sourceEventFingerprint := by
      simp only [TxRecord.view, TxView.mk.injEq, upsertRecord, row, updatedRow, sameBook, owned,
        sameVersion, sameDeleted, sameSource, sameFingerprint, Option.map_some, Option.getD_some,
        Option.bind_some, true_and]
      rw [eq_comm]
    refine Iff.trans ⟨fun alike => (sameTransactions_insert_iff related.transactions rfl
      rfl).mp alike.2, fun views => ⟨sameReceipts, (sameTransactions_insert_iff
        related.transactions rfl rfl).mpr views⟩⟩ (sameViews.trans ⟨?_, ?_⟩)
    · rintro ⟨live, fingerprint⟩
      exact ⟨live, fingerprint, fun conflict => violates (conflicts.mpr ⟨live, conflict⟩)⟩
    · exact fun harmless => ⟨harmless.live, harmless.fingerprint⟩

/-- Without a create or update that passes the checks nothing is asked of the backends. -/
theorem coincide_of_not_checked
    (unchecked : ∀ existing, ¬Addresses memory step existing) : BackendsCoincide memory step :=
  fun existing addresses => absurd addresses (unchecked existing)

/-- A new mutation is handled alike by both backends exactly if it reaches none of the places
where they differ. -/
theorem processMutation_alike_iff (related : BackendsRelated memory database)
    (new : memory.mutations.lookup step.key = none) :
    Alike (processMutationMem memory step.bookId step.mutation step.stamp)
      (processMutationPg database step.bookId step.mutation step.stamp) ↔
        BackendsCoincide memory step := by
  unfold processMutationMem processMutationPg
  by_cases isAccount : step.mutation.entityType = "account"
  · rw [if_pos isAccount, if_pos isAccount]
    refine iff_of_true ?_ (coincide_of_not_checked fun existing addresses =>
      notAccount_of_isTransaction addresses.isTransaction isAccount)
    rcases processAccountMutation_alike related step.bookId step.mutation step.stamp with
      ⟨receipt, inMemory, inDatabase⟩ | ⟨record, inMemory, inDatabase⟩
    · rw [inMemory, inDatabase]
      exact related.alike _
    · rw [inMemory, inDatabase]
      exact ⟨rfl, related.transactions⟩
  rw [if_neg isAccount, if_neg isAccount]
  by_cases notTransaction : step.mutation.entityType ≠ "transaction"
  · rw [if_pos notTransaction, if_pos notTransaction]
    exact iff_of_true (related.alike _) (coincide_of_not_checked fun existing addresses =>
      notTransaction addresses.isTransaction)
  rw [if_neg notTransaction, if_neg notTransaction]
  by_cases isDelete : step.mutation.operation = "delete"
  · rw [if_pos isDelete, if_pos isDelete]
    exact iff_of_true (processDelete_alike related _ _ _)
      (coincide_of_not_checked fun existing addresses => addresses.notDelete isDelete)
  rw [if_neg isDelete, if_neg isDelete]
  cases checked : checkedDrafts step.mutation with
  | error receipt =>
    refine iff_of_true (related.alike _) (coincide_of_not_checked fun existing addresses => ?_)
    obtain ⟨requestedOccurredAt, drafts, accepted, -⟩ := addresses.checked
    rw [checked] at accepted
    cases accepted
  | ok pair =>
    obtain ⟨requestedOccurredAt, drafts⟩ := pair
    simp only
    by_cases accounts : ∀ draft ∈ drafts,
        accountInBook memory.accounts step.bookId draft.accountId = true
    · cases found : memory.transactions.lookup step.mutation.entityId with
      | none =>
        refine iff_of_true (processNew_alike related found _ accounts)
          (coincide_of_not_checked fun existing addresses => ?_)
        rw [addresses.found] at found
        cases found
      | some existing =>
        have addresses : Addresses memory step existing :=
          ⟨new, not_not.mp notTransaction, isDelete, ⟨_, drafts, checked, accounts⟩, found⟩
        have coincides : BackendsCoincide memory step ↔ existing.bookId = step.bookId ∧
            (step.mutation.operation = "update" →
              step.mutation.baseVersion = existing.version → Harmless memory step existing) := by
          refine ⟨fun all => all existing addresses, fun here other otherAddresses => ?_⟩
          obtain rfl : existing = other :=
            Option.some.inj (found.symm.trans otherAddresses.found)
          exact here
        rw [coincides]
        by_cases owned : existing.bookId = step.bookId
        · by_cases accepted : step.mutation.operation = "update" ∧
              step.mutation.baseVersion = existing.version
          · rw [processUpdate_alike_iff related found owned accepted.1 accepted.2 _ accounts]
            exact ⟨fun harmless => ⟨owned, fun _ _ => harmless⟩,
              fun all => all.2 accepted.1 accepted.2⟩
          · refine iff_of_true (processConflict_alike related found owned ?_ _ accounts)
              ⟨owned, fun isUpdate current => absurd ⟨isUpdate, current⟩ accepted⟩
            obtain ⟨-, -, valid⟩ := checkedDrafts_eq_ok.mp checked
            obtain ⟨-, deletes | ⟨isCreate | isUpdate, -⟩⟩ := validateOrReject_eq_none.mp valid
            · exact absurd deletes isDelete
            · exact Or.inl isCreate
            · exact Or.inr fun current => accepted ⟨isUpdate, current⟩
        · exact iff_of_false (not_alike_of_foreign related found owned _ accounts)
            fun all => owned all.1
    · refine iff_of_true ?_ (coincide_of_not_checked fun existing addresses => ?_)
      · unfold processUpsertMem processUpsertPg
        rw [if_neg fun all => accounts (List.all_eq_true.mp all), if_pos fun counted =>
          accounts (by rw [related.accounts]; exact (countAccounts_eq_length_iff _ _ _).mp counted)]
        exact related.alike _
      · obtain ⟨_, otherDrafts, accepted, otherAccounts⟩ := addresses.checked
        rw [checked] at accepted
        cases accepted
        exact accounts otherAccounts

/-- What a mutation does to the accounts is the same on both backends. -/
theorem processMutation_accounts (related : BackendsRelated memory database) (bookId : String)
    (mutation : SyncMutationDto) (stamp : Stamp) :
    (processMutationMem memory bookId mutation stamp).1.accounts =
      (processMutationPg database bookId mutation stamp).1.accounts := by
  by_cases isAccount : mutation.entityType = "account"
  · unfold processMutationMem processMutationPg
    rw [if_pos isAccount, if_pos isAccount]
    rcases processAccountMutation_alike related bookId mutation stamp with
      ⟨receipt, inMemory, inDatabase⟩ | ⟨record, inMemory, inDatabase⟩
    · rw [inMemory, inDatabase, related.accounts]
    · rw [inMemory, inDatabase, writeAccountMem, writeAccountPg, related.accounts]
      rfl
  · have inMemory : (processMutationMem memory bookId mutation stamp).1.accounts =
        memory.accounts := by
      have effect := processMutationMem_effect memory bookId mutation stamp
      generalize processMutationMem memory bookId mutation stamp = outcome at effect
      cases effect with
      | refused | deduped | upserted | deleted => rfl
      | accountWritten record accepts => exact absurd accepts.isAccount isAccount
    have inDatabase : (processMutationPg database bookId mutation stamp).1.accounts =
        database.accounts := by
      have effect := processMutationPg_effect database bookId mutation stamp
      generalize processMutationPg database bookId mutation stamp = outcome at effect
      cases effect with
      | unchanged | updated | inserted | deleted => rfl
      | accountWritten record written => exact absurd written isAccount
    rw [inMemory, inDatabase, related.accounts]

/-- The backends stay together at a step exactly if its mutation reaches none of the places
where they differ. -/
theorem together_iff (related : BackendsRelated memory database) (step : PushStep) :
    Machine.Together pushStep pushReceipt pushStepPg pushReceiptPg SameTransactions memory
      database step ↔ BackendsCoincide memory step := by
  cases stored : memory.mutations.lookup step.key with
  | some receipt =>
    have storedToo := (related.receipts step.key).symm.trans stored
    refine iff_of_true ⟨?_, ?_⟩ (coincide_of_not_checked fun existing addresses => ?_)
    · rw [pushReceipt_replayed stored, pushReceiptPg, pushMutationPg_replayed storedToo]
    · rw [pushStep_replayed stored, pushStepPg, pushMutationPg_replayed storedToo]
      exact related.transactions
    · rw [addresses.new] at stored
      cases stored
  | none =>
    have newToo := (related.receipts step.key).symm.trans stored
    rw [← processMutation_alike_iff related stored, Machine.Together, Alike,
      pushReceipt_processed stored, pushStep_processed stored, pushReceiptPg, pushStepPg,
      pushMutationPg_processed newToo]
    exact Iff.rfl

/-- Where they stay together, the relation holds on. -/
theorem related_of_together (related : BackendsRelated memory database)
    (together : Machine.Together pushStep pushReceipt pushStepPg pushReceiptPg SameTransactions
      memory database step) :
    BackendsRelated (pushStep memory step) (pushStepPg database step) := by
  obtain ⟨sameReceipt, sameTransactions⟩ := together
  cases stored : memory.mutations.lookup step.key with
  | some receipt =>
    have storedToo := (related.receipts step.key).symm.trans stored
    rw [pushStep_replayed stored, pushStepPg, pushMutationPg_replayed storedToo]
    exact related
  | none =>
    have newToo := (related.receipts step.key).symm.trans stored
    refine ⟨sameTransactions, ?_, fun key => ?_, pushStepPg_constrained related.constrained step⟩
    · rw [pushStep_processed stored, pushStepPg, pushMutationPg_processed newToo]
      exact processMutation_accounts related _ _ _
    · rw [pushReceipt_processed stored, pushReceiptPg, pushMutationPg_processed newToo]
        at sameReceipt
      rw [pushStep_processed stored, pushStepPg, pushMutationPg_processed newToo]
      simp only at sameReceipt ⊢
      rw [(processMutationMem_effect _ _ _ step.stamp).mutations,
        (processMutationPg_effect _ _ _ step.stamp).mutations, sameReceipt,
        KeyMap.lookup_insert_eq, KeyMap.lookup_insert_eq, related.receipts key]

end Step

/-- Pushed the same mutations, the memory backend and the database give the same receipts and
hold the same transactions, at every point of the run, exactly if every mutation, at the
state it is processed in, reaches none of the places where they differ. -/
theorem backends_lockstep_iff [Rfc3339] (books : KeyMap String BookRecord)
    (accounts : KeyMap String AccountRecord) (steps : List PushStep) :
    Machine.Lockstep pushStep pushReceipt pushStepPg pushReceiptPg SameTransactions
        (.initial books accounts) (.initial accounts) steps ↔
      Machine.Guarded pushStep BackendsCoincide (.initial books accounts) steps := by
  have start : BackendsRelated (.initial books accounts) (.initial accounts) :=
    ⟨fun _ => rfl, rfl, fun _ => rfl, PgStore.initial_constrained accounts⟩
  exact Machine.lockstep_iff_guarded (fun _ _ step related => together_iff related step)
    (fun _ _ _ related together => related_of_together related together) start steps

/-- A transaction is created, deleted and updated: in memory it is back, in the database it
stays deleted. -/
theorem backends_differ_after_update_of_deleted :
    let _ := epochClock
    ¬Machine.Lockstep pushStep pushReceipt pushStepPg pushReceiptPg SameTransactions
      (.initial ∅ (withAccounts "A" ∅)) (.initial (withAccounts "A" ∅))
      [transferStep "A" "m1" "t1" "create" 0 [], transferStep "A" "m2" "t1" "delete" 1 [],
        transferStep "A" "m3" "t1" "update" 2 []] := by
  intro _ lockstep
  have final := lockstep.final (fun _ => rfl) "t1"
  have inMemory : ((Machine.run pushStep (.initial ∅ (withAccounts "A" ∅))
      [transferStep "A" "m1" "t1" "create" 0 [], transferStep "A" "m2" "t1" "delete" 1 [],
        transferStep "A" "m3" "t1" "update" 2 []]).transactions.lookup "t1").map
          TxRecord.deleted = some false := by decide
  have inDatabase : ((Machine.run pushStepPg (.initial (withAccounts "A" ∅))
      [transferStep "A" "m1" "t1" "create" 0 [], transferStep "A" "m2" "t1" "delete" 1 [],
        transferStep "A" "m3" "t1" "update" 2 []]).transactions.lookup "t1").map
          TxRecord.deleted = some true := by decide
  have deleted := congrArg (Option.map TxView.deleted) final
  rw [Option.map_map, Option.map_map] at deleted
  have different := inMemory.symm.trans (deleted.trans inDatabase)
  exact absurd different (by decide)

end Ledgerly
