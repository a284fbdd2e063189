/-
This file models the export of a device and the restore of a document.

A restore replaces the tables of the ledger in one transaction of the database. The recurring rules,
the budgets, the attachments, the merchant rules and the files come after it, one after the other,
and stay as they are when a later row cannot be read.
-/

import Ledgerly.BackupRetention
import Ledgerly.DeviceTables
import Ledgerly.EncryptedArchive

namespace Ledgerly

open Csv

namespace Tables

/-! ### The device -/

/-- A row of `pending_mutations`, whichever book it is of. -/
structure PendingMutation extends PendingMutationRow where
  bookId : String

/-- A row of `sync_conflicts`, whichever book it is of. -/
structure BookConflict extends SyncConflict where
  bookId : String

/-- The state of synchronisation that is kept for a book. -/
structure SyncState where
  bookId : String
  deviceId : String
  cursor : Int := 0
  remoteBookId : Option String := none
  lastError : Option String := none
  updatedAt : Seconds

/-- The tables of the database. -/
structure LocalTables where
  books : KeyedTable Book Book.id
  accounts : KeyedTable Account Account.id
  transactions : KeyedTable Transaction Transaction.id
  transactionEntries : KeyedTable TransactionEntry TransactionEntry.id
  pendingMutations : KeyedTable PendingMutation fun row => row.mutationId
  syncStates : KeyedTable SyncState SyncState.bookId
  syncConflicts : KeyedTable BookConflict fun row => row.id
  recurringRules : KeyedTable LocalRecurringRule LocalRecurringRule.id
  budgets : KeyedTable LocalBudgetRecord LocalBudgetRecord.id
  attachments : KeyedTable LocalAttachment fun row => row.id

/-- What a device keeps: the tables, the rules of its preferences, and the files of attachments. -/
structure LocalData extends LocalTables where
  merchantRules : List UserRule
  files : String → Option (List UInt8)

/-! ### The export -/

/-- `listAll`: `ORDER BY created_at DESC`. -/
def listAll {Row : Type} (createdAt : Row → Int) (rows : List Row) : List Row :=
  rows.insertionSort fun one two => createdAt two ≤ createdAt one

section Export

variable (bookIds : Option (Finset String)) (data : LocalData)

/-- The export is of some books only. -/
def hasFilter : Bool := bookIds.any fun ids => ids ≠ ∅

/-- `scoped`. -/
def scopedRows {Row : Type} (rows : List Row) (belongsToSelection : Row → Bool) : List Row :=
  if hasFilter bookIds then rows.filter belongsToSelection else rows

/-- The books that are exported. -/
def exportedBooks : List Book :=
  scopedRows bookIds data.books.rows fun book => bookIds.any fun ids => book.id ∈ ids

/-- The book is one of those that are exported. -/
def inScope (bookId : String) : Bool := bookId ∈ (exportedBooks bookIds data).map Book.id

/-- The transactions that are exported. -/
def exportedTransactions : List Transaction :=
  scopedRows bookIds data.transactions.rows fun row => inScope bookIds data row.bookId

/-- The rows of a ledger. -/
structure LedgerRows where
  books : List Book
  accounts : List Account
  transactions : List Transaction
  transactionEntries : List TransactionEntry

/-- What a document holds of the tables. -/
structure BackupTables extends LedgerRows where
  recurringRules : List LocalRecurringRule
  budgets : List LocalBudgetRecord
  attachments : List LocalAttachment
  merchantRules : List UserRule

/-- What `export` reads. -/
def exportedTables : BackupTables where
  books := exportedBooks bookIds data
  accounts := scopedRows bookIds data.accounts.rows fun row => inScope bookIds data row.bookId
  transactions := exportedTransactions bookIds data
  transactionEntries := scopedRows bookIds data.transactionEntries.rows fun row =>
    row.transactionId ∈ (exportedTransactions bookIds data).map Transaction.id
  recurringRules := scopedRows bookIds
    (listAll (fun row => row.createdAt.value) data.recurringRules.rows)
    fun row => inScope bookIds data row.bookId
  budgets := scopedRows bookIds (listAll (fun row => row.createdAt.value) data.budgets.rows)
    fun row => inScope bookIds data row.bookId
  attachments := scopedRows bookIds (listAll (fun row => row.createdAt) data.attachments.rows)
    fun row => inScope bookIds data row.bookId
  merchantRules := data.merchantRules

/-- The rows of a table as an item of a payload. -/
def rowsJson (rows : List BackupRow) : Json := .arr (rows.map .obj)

/-- The payload of `export`. -/
def BackupTables.payload (tables : BackupTables) : List (String × Json) :=
  [("books", rowsJson (tables.books.map bookToJson)),
    ("accounts", rowsJson (tables.accounts.map accountToJson)),
    ("transactions", rowsJson (tables.transactions.map transactionToJson)),
    ("transactionEntries", rowsJson (tables.transactionEntries.map transactionEntryToJson)),
    ("recurringRules", rowsJson (tables.recurringRules.map recurringToJson)),
    ("budgets", rowsJson (tables.budgets.map budgetToJson)),
    ("attachments", rowsJson (tables.attachments.map fun row =>
      attachmentToJson row.toLocalAttachmentRecord)),
    ("merchantRules", rowsJson (tables.merchantRules.map merchantRuleToJson))]

/-- The counts of the rows. -/
def BackupTables.summary (tables : BackupTables) : BackupSummary where
  books := tables.books.length
  accounts := tables.accounts.length
  transactions := tables.transactions.length
  transactionEntries := tables.transactionEntries.length
  recurringRules := tables.recurringRules.length
  budgets := tables.budgets.length
  attachments := tables.attachments.length
  merchantRules := tables.merchantRules.length

/-- The document of `export`, before it is encrypted. -/
def exportedDocument [Sha256] (backupId : String) : BackupDocument :=
  let tables := exportedTables bookIds data
  let files := attachmentFiles (tables.attachments.map fun row => row.toLocalAttachmentRecord)
    data.files
  { summary := tables.summary
    payload := tables.payload
    bookIds := if hasFilter bookIds then some (tables.books.map Book.id).toFinset else none
    attachmentIndex := files.map attachmentEntry
    attachmentBinaries := files.map attachmentBinary
    backupId := some backupId }

/-- `export`. -/
def exportData [Sha256] [ZipCodec] [KeyDerivation] [AesGcm] (encryption : BackupEncryption)
    (random : Nat → UInt8) (password : Option String)
    (backupId zippedAt exportedAt deviceId : String) : Except BackupError EncryptedDocument :=
  match password.filter (· ≠ "") with
  | none => .ok { toBackupDocument := exportedDocument bookIds data backupId }
  | some password =>
    encryptDocument encryption random (exportedDocument bookIds data backupId) password none zippedAt
      exportedAt deviceId

end Export

/-! ### The restore -/

/-- A call that may end in the middle, and keeps what it did. -/
abbrev Restoring := EStateM BackupError LocalData

/-- A value that has to be there. -/
def orThrow {Value : Type} (value : Except BackupError Value) : Restoring Value := fun data =>
  match value with
  | .ok value => .ok value data
  | .error error => .error error data

/-- `_db.transaction`: what was done is undone if an exception leaves the block. -/
def transaction (block : LocalTables → Except BackupError LocalTables) : Restoring Unit := fun data =>
  match block data.toLocalTables with
  | .ok tables => .ok () { data with toLocalTables := tables }
  | .error error => .error error data

/-- What comes of a table that rows are put in. -/
def keeping {Table : Type} (outcome : Except BackupError Unit × Table) (put : Table → LocalData) :
    EStateM.Result BackupError LocalData Unit :=
  match outcome with
  | (.ok (), table) => .ok () (put table)
  | (.error error, table) => .error error (put table)

/-- `_materializeIncremental`. -/
def materializeIncremental (device : BackupDevice) (document : BackupDocument) :
    Except BackupError BackupDocument :=
  if document.isIncremental then
    match device.metadata.baseBackupId, device.metadata.baseBackupPath with
    | some baseId, some basePath =>
      if some baseId ≠ document.baseBackupId then
        .error "该增量备份缺少本机基础文件，无法恢复；请使用完整备份。"
      else
        match device.readBackup basePath with
        | .error error => .error ("增量备份的基础文件不可读：" ++ error)
        | .ok base =>
          if base.isEncrypted || base.document.isIncremental ||
              base.document.backupId ≠ some baseId then
            .error "增量备份的基础文件无效，无法恢复。"
          else applyIncremental base.document document
    | _, _ => .error "该增量备份缺少本机基础文件，无法恢复；请使用完整备份。"
  else .ok document

/-- The rows of a document. -/
structure RawTables where
  books : List BackupRow
  accounts : List BackupRow
  transactions : List BackupRow
  transactionEntries : List BackupRow
  recurringRules : List BackupRow
  budgets : List BackupRow
  attachments : List BackupRow
  merchantRules : List BackupRow

/-- The lists of the tables, of which none may be missing. -/
def rawTables (document : BackupDocument) : Except BackupError RawTables := do
  return {
    books := ← asList (document.payload.lookup "books") "books"
    accounts := ← asList (document.payload.lookup "accounts") "accounts"
    transactions := ← asList (document.payload.lookup "transactions") "transactions"
    transactionEntries := ← asList (document.payload.lookup "transactionEntries") "transactionEntries"
    recurringRules := ← asList (document.payload.lookup "recurringRules") "recurringRules"
    budgets := ← asList (document.payload.lookup "budgets") "budgets"
    attachments := ← asList (document.payload.lookup "attachments") "attachments"
    merchantRules := ← asList (document.payload.lookup "merchantRules") "merchantRules" }

section Restore

variable [LocalZone] [DoubleText] (deviceId : String) (now : Csv.DateTime)

/-- `SyncStatesCompanion.insert` for a book. -/
def readSyncState (raw : BackupRow) : Except BackupError SyncState := do
  return { bookId := ← textOf raw "id", deviceId, updatedAt := .store _ now }

/-- The block of `restore`. -/
def replaceTables (raws : RawTables) (tables : LocalTables) : Except BackupError LocalTables := do
  let books ← raws.books.foldlM (KeyedTable.replaceRead readBook) .empty
  let syncStates ← raws.books.foldlM (KeyedTable.replaceRead (readSyncState deviceId now)) .empty
  let accounts ← raws.accounts.foldlM (KeyedTable.replaceRead readAccount) .empty
  let transactions ← raws.transactions.foldlM (KeyedTable.replaceRead readTransaction) .empty
  let transactionEntries ←
    raws.transactionEntries.foldlM (KeyedTable.replaceRead readTransactionEntry) .empty
  return { tables with
    books, accounts, transactions, transactionEntries, syncStates
    pendingMutations := .empty
    syncConflicts := .empty }

/-- What SQLite says of a key that is taken. -/
def uniqueFailed : BackupError := "SqliteException"

/-- `_restoreRecurring`. -/
def restoreRecurring (rows : List BackupRow) : Restoring Unit := fun data =>
  keeping (KeyedTable.insertUntil readRecurring uniqueFailed .empty rows) fun recurringRules =>
    { data with recurringRules }

/-- `_restoreBudgets`. -/
def restoreBudgets (rows : List BackupRow) : Restoring Unit := fun data =>
  keeping (KeyedTable.insertUntil readBudget uniqueFailed .empty rows) fun budgets =>
    { data with budgets }

/-- `_byteStore.delete`. -/
def deleteFile (files : String → Option (List UInt8)) (relativePath : String) :
    String → Option (List UInt8) := Function.update files relativePath none

/-- `_restoreAttachments`: the files of the attachments that were there go with their rows. -/
def restoreAttachments (rows : List BackupRow) : Restoring Unit := fun data =>
  let files := (data.attachments.rows.map fun row => row.relativePath).foldl deleteFile data.files
  keeping (KeyedTable.insertUntil readAttachment uniqueFailed .empty rows) fun attachments =>
    { data with attachments, files }

/-- `_restoreMerchantRules`. -/
def saveMerchantRules (rows : List BackupRow) : Restoring Unit :=
  modify fun data => { data with merchantRules := restoreMerchantRules rows }

/-- `_byteStore.write`. Every path can be written; that the file system may refuse one is left out. -/
def writeFile (files : String → Option (List UInt8)) (binary : AttachmentBinary) :
    String → Option (List UInt8) :=
  Function.update files ("attachments/" ++ binary.id) (some binary.bytes)

/-- The files of the attachments are written. -/
def writeFiles (binaries : List AttachmentBinary) : Restoring Unit :=
  modify fun data => { data with files := binaries.foldl writeFile data.files }

/-- `restore`, of a document that is neither encrypted nor incremental. -/
def restoreFull (document : BackupDocument) : Restoring Unit := do
  let raws ← orThrow (rawTables document)
  transaction (replaceTables deviceId now raws)
  restoreRecurring raws.recurringRules
  restoreBudgets raws.budgets
  restoreAttachments raws.attachments
  saveMerchantRules raws.merchantRules
  writeFiles document.attachmentBinaries

/-- `restore`. -/
def restore [ZipCodec] [KeyDerivation] [AesGcm] [Sha256] (device : BackupDevice)
    (document : EncryptedDocument) (password : Option String) : Restoring Unit := do
  let unlocked ← orThrow (unwrapEncrypted document password)
  let resolved ← orThrow (materializeIncremental device unlocked)
  restoreFull deviceId now resolved

end Restore

end Tables

end Ledgerly
