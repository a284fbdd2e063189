/-
This file proves what a restore leaves on a device, whether it ends well or not.

The ledger is replaced as a whole or not at all. But what comes after it is not undone: a document
whose ledger can be read replaces it even where one of its rules, budgets or attachments cannot,
and then the rules of the merchants and the files of the document do not come.
-/

import Ledgerly.DeviceRestore

namespace Ledgerly

open Csv

namespace Tables

/-! ### The parts of a restore -/

section Parts

variable {data after : LocalData} {error : BackupError}

theorem orThrow_eq_ok {Value : Type} {value : Except BackupError Value} {result : Value} :
    orThrow value data = .ok result after ↔ value = .ok result ∧ after = data := by
  unfold orThrow
  cases value with
  | error error =>
    constructor
    · intro impossible
      cases impossible
    · rintro ⟨impossible, -⟩
      cases impossible
  | ok value =>
    constructor
    · intro same
      cases same
      exact ⟨rfl, rfl⟩
    · rintro ⟨same, rfl⟩
      cases same
      rfl

theorem orThrow_eq_error {Value : Type} {value : Except BackupError Value} :
    orThrow value data = .error error after ↔ value = .error error ∧ after = data := by
  unfold orThrow
  cases value with
  | ok value =>
    constructor
    · intro impossible
      cases impossible
    · rintro ⟨impossible, -⟩
      cases impossible
  | error other =>
    constructor
    · intro same
      cases same
      exact ⟨rfl, rfl⟩
    · rintro ⟨same, rfl⟩
      cases same
      rfl

theorem transaction_eq_ok {block : LocalTables → Except BackupError LocalTables} :
    transaction block data = .ok () after ↔
      ∃ tables, block data.toLocalTables = .ok tables ∧
        after = { data with toLocalTables := tables } := by
  rw [transaction]
  cases block data.toLocalTables with
  | error error =>
    constructor
    · intro impossible
      cases impossible
    · rintro ⟨_, impossible, -⟩
      cases impossible
  | ok tables =>
    constructor
    · intro same
      cases same
      exact ⟨tables, rfl, rfl⟩
    · rintro ⟨_, same, rfl⟩
      cases same
      rfl

theorem transaction_eq_error {block : LocalTables → Except BackupError LocalTables} :
    transaction block data = .error error after ↔
      block data.toLocalTables = .error error ∧ after = data := by
  rw [transaction]
  cases block data.toLocalTables with
  | ok tables =>
    constructor
    · intro impossible
      cases impossible
    · rintro ⟨impossible, -⟩
      cases impossible
  | error other =>
    constructor
    · intro same
      cases same
      exact ⟨rfl, rfl⟩
    · rintro ⟨same, rfl⟩
      cases same
      rfl

section Keeping

variable {Row Key Item : Type} [DecidableEq Key] {key : Row → Key}
  {read : Item → Except BackupError Row} {items : List Item} {put : KeyedTable Row key → LocalData}

theorem keeping_eq_ok :
    keeping (KeyedTable.insertUntil read uniqueFailed .empty items) put = .ok () after ↔
      ∃ rows, items.mapM read = .ok rows ∧ (rows.map key).Nodup ∧ after = put (.ofRows rows) := by
  cases ended : KeyedTable.insertUntil read uniqueFailed (.empty : KeyedTable Row key) items with
  | mk outcome table =>
    cases outcome with
    | error error =>
      constructor
      · intro impossible
        cases impossible
      · rintro ⟨rows, areRead, distinct, -⟩
        have wouldEnd : KeyedTable.insertUntil read uniqueFailed .empty items =
            (.ok (), (.ofRows rows : KeyedTable Row key)) :=
          KeyedTable.insertUntil_empty_eq_ok.mpr ⟨rows, areRead, distinct, rfl⟩
        rw [ended] at wouldEnd
        cases wouldEnd
    | ok done =>
      obtain ⟨rows, areRead, distinct, rfl⟩ := KeyedTable.insertUntil_empty_eq_ok.mp ended
      constructor
      · intro same
        cases same
        exact ⟨rows, areRead, distinct, rfl⟩
      · rintro ⟨others, alsoRead, -, rfl⟩
        obtain rfl := Except.ok.inj (areRead.symm.trans alsoRead)
        rfl

theorem stopped_of_keeping
    (failed : keeping (KeyedTable.insertUntil read uniqueFailed .empty items) put =
      .error error after) :
    ∃ table : KeyedTable Row key,
      table.StoppedAt read uniqueFailed error items ∧ after = put table := by
  cases ended : KeyedTable.insertUntil read uniqueFailed (.empty : KeyedTable Row key) items with
  | mk outcome table =>
    rw [ended] at failed
    cases outcome with
    | ok done => cases failed
    | error other =>
      cases failed
      exact ⟨table, KeyedTable.stoppedAt_of_insertUntil ended, rfl⟩

end Keeping

end Parts

/-! ### What a document holds -/

section Documents

variable [LocalZone] [DoubleText] (deviceId : String) (now : Csv.DateTime)

/-- The rows of the ledger are read, each of them. -/
structure RawTables.ReadsLedger (raws : RawTables) (ledger : LedgerRows) : Prop where
  books : raws.books.mapM readBook = .ok ledger.books
  accounts : raws.accounts.mapM readAccount = .ok ledger.accounts
  transactions : raws.transactions.mapM readTransaction = .ok ledger.transactions
  transactionEntries :
    raws.transactionEntries.mapM readTransactionEntry = .ok ledger.transactionEntries

/-- All rows are read, and where none may take the place of another they have distinct ids. -/
structure RawTables.Reads (raws : RawTables) (tables : BackupTables) : Prop where
  ledger : raws.ReadsLedger tables.toLedgerRows
  recurringRules : raws.recurringRules.mapM readRecurring = .ok tables.recurringRules
  budgets : raws.budgets.mapM readBudget = .ok tables.budgets
  attachments : raws.attachments.mapM readAttachment = .ok tables.attachments
  merchantRules : restoreMerchantRules raws.merchantRules = tables.merchantRules
  distinctRules : (tables.recurringRules.map LocalRecurringRule.id).Nodup
  distinctBudgets : (tables.budgets.map LocalBudgetRecord.id).Nodup
  distinctAttachments : (tables.attachments.map fun row => row.id).Nodup

/-- The state of a book that was never synced. -/
def freshSyncState (book : Book) : SyncState where
  bookId := book.id
  deviceId := deviceId
  updatedAt := .store _ now

/-- A ledger takes the place of the one that was there, and of what was to be synced of it. -/
def LedgerRows.restored (ledger : LedgerRows) (before : LocalTables) : LocalTables :=
  { before with
    books := .ofRows ledger.books
    accounts := .ofRows ledger.accounts
    transactions := .ofRows ledger.transactions
    transactionEntries := .ofRows ledger.transactionEntries
    syncStates := .ofRows (ledger.books.map (freshSyncState deviceId now))
    pendingMutations := .empty
    syncConflicts := .empty }

/-- The files of the attachments that are replaced are gone. -/
def filesWithout (attachments : List LocalAttachment) (files : String → Option (List UInt8)) :
    String → Option (List UInt8) :=
  (attachments.map fun row => row.relativePath).foldl deleteFile files

/-- Everything is that of a document. -/
def BackupTables.restored (tables : BackupTables) (binaries : List AttachmentBinary)
    (before : LocalData) : LocalData where
  toLocalTables :=
    { tables.toLedgerRows.restored deviceId now before.toLocalTables with
      recurringRules := .ofRows tables.recurringRules
      budgets := .ofRows tables.budgets
      attachments := .ofRows tables.attachments }
  merchantRules := tables.merchantRules
  files := binaries.foldl writeFile (filesWithout before.attachments.rows before.files)

omit [DoubleText] in
theorem mapM_readSyncState {raws : List BackupRow} {books : List Book}
    (areRead : raws.mapM readBook = .ok books) :
    raws.mapM (readSyncState deviceId now) = .ok (books.map (freshSyncState deviceId now)) := by
  induction raws generalizing books with
  | nil =>
    obtain rfl := Except.ok.inj areRead
    rfl
  | cons raw rest inductionHypothesis =>
    rw [List.mapM_cons] at areRead
    obtain ⟨book, isRead, more⟩ := Except.bind_eq_ok.mp areRead
    obtain ⟨others, restRead, made⟩ := Except.bind_eq_ok.mp more
    obtain rfl := Except.ok.inj made
    obtain ⟨id, isId, fields⟩ := Except.bind_eq_ok.mp isRead
    obtain ⟨name, -, fields⟩ := Except.bind_eq_ok.mp fields
    obtain ⟨currencyCode, -, fields⟩ := Except.bind_eq_ok.mp fields
    obtain ⟨createdAt, -, same⟩ := Except.bind_eq_ok.mp fields
    obtain rfl := Except.ok.inj same
    have state : readSyncState deviceId now raw = .ok (freshSyncState deviceId now
        { id, name, currencyCode, createdAt := .store _ createdAt }) :=
      Except.chained isId rfl
    rw [List.mapM_cons, state, inductionHypothesis restRead]
    rfl

variable {deviceId now}

/-- The block is through exactly if the ledger of the document can be read. -/
theorem replaceTables_eq_ok {raws : RawTables} {tables after : LocalTables} :
    replaceTables deviceId now raws tables = .ok after ↔
      ∃ ledger, raws.ReadsLedger ledger ∧ after = ledger.restored deviceId now tables := by
  constructor
  · intro made
    obtain ⟨books, first, made⟩ := Except.bind_eq_ok.mp made
    obtain ⟨syncStates, second, made⟩ := Except.bind_eq_ok.mp made
    obtain ⟨accounts, third, made⟩ := Except.bind_eq_ok.mp made
    obtain ⟨transactions, fourth, made⟩ := Except.bind_eq_ok.mp made
    obtain ⟨transactionEntries, fifth, made⟩ := Except.bind_eq_ok.mp made
    obtain ⟨bookRows, readBooks, rfl⟩ := KeyedTable.foldlM_replaceRead_eq_ok.mp first
    obtain ⟨stateRows, readStates, rfl⟩ := KeyedTable.foldlM_replaceRead_eq_ok.mp second
    obtain ⟨accountRows, readAccounts, rfl⟩ := KeyedTable.foldlM_replaceRead_eq_ok.mp third
    obtain ⟨transactionRows, readTransactions, rfl⟩ :=
      KeyedTable.foldlM_replaceRead_eq_ok.mp fourth
    obtain ⟨entryRows, readEntries, rfl⟩ := KeyedTable.foldlM_replaceRead_eq_ok.mp fifth
    obtain rfl := Except.ok.inj (readStates.symm.trans (mapM_readSyncState deviceId now readBooks))
    obtain rfl := Except.ok.inj made
    exact ⟨⟨bookRows, accountRows, transactionRows, entryRows⟩,
      ⟨readBooks, readAccounts, readTransactions, readEntries⟩, rfl⟩
  · rintro ⟨ledger, reads, rfl⟩
    have states := mapM_readSyncState deviceId now reads.books
    exact Except.chained (KeyedTable.foldlM_replaceRead_eq_ok.mpr ⟨_, reads.books, rfl⟩)
      (Except.chained (KeyedTable.foldlM_replaceRead_eq_ok.mpr ⟨_, states, rfl⟩)
        (Except.chained (KeyedTable.foldlM_replaceRead_eq_ok.mpr ⟨_, reads.accounts, rfl⟩)
          (Except.chained (KeyedTable.foldlM_replaceRead_eq_ok.mpr ⟨_, reads.transactions, rfl⟩)
            (Except.chained
              (KeyedTable.foldlM_replaceRead_eq_ok.mpr ⟨_, reads.transactionEntries, rfl⟩) rfl))))

/-- A ledger that can be read is in the tables, whatever cannot be read after it. -/
theorem replaceTables_eq_error {raws : RawTables} {tables : LocalTables} {error : BackupError}
    (failed : replaceTables deviceId now raws tables = .error error) :
    ¬∃ ledger, raws.ReadsLedger ledger := by
  rintro ⟨ledger, reads⟩
  have through : replaceTables deviceId now raws tables = .ok _ :=
    replaceTables_eq_ok.mpr ⟨ledger, reads, rfl⟩
  rw [failed] at through
  cases through

/-! ### A whole restore -/

theorem restoreFull_eq_ok {document : BackupDocument} {before after : LocalData} :
    restoreFull deviceId now document before = .ok () after ↔
      ∃ raws tables, rawTables document = .ok raws ∧ raws.Reads tables ∧
        after = tables.restored deviceId now document.attachmentBinaries before := by
  constructor
  · intro made
    obtain ⟨raws, _, first, withRows⟩ := EStateM.bind_eq_ok.mp made
    obtain ⟨isRaw, rfl⟩ := orThrow_eq_ok.mp first
    obtain ⟨_, _, second, withLedger⟩ := EStateM.bind_eq_ok.mp withRows
    obtain ⟨_, replaced, rfl⟩ := transaction_eq_ok.mp second
    obtain ⟨ledger, readsLedger, rfl⟩ := replaceTables_eq_ok.mp replaced
    obtain ⟨_, _, third, withRules⟩ := EStateM.bind_eq_ok.mp withLedger
    obtain ⟨rules, readRules, distinctRules, rfl⟩ := keeping_eq_ok.mp third
    obtain ⟨_, _, fourth, withBudgets⟩ := EStateM.bind_eq_ok.mp withRules
    obtain ⟨budgets, readBudgets, distinctBudgets, rfl⟩ := keeping_eq_ok.mp fourth
    obtain ⟨_, _, fifth, withAttachments⟩ := EStateM.bind_eq_ok.mp withBudgets
    obtain ⟨attachments, readAttachments, distinctAttachments, rfl⟩ := keeping_eq_ok.mp fifth
    cases withAttachments
    exact ⟨raws, ⟨ledger, rules, budgets, attachments, restoreMerchantRules raws.merchantRules⟩,
      isRaw, ⟨readsLedger, readRules, readBudgets, readAttachments, rfl, distinctRules,
        distinctBudgets, distinctAttachments⟩, rfl⟩
  · rintro ⟨raws, tables, isRaw, reads, rfl⟩
    refine EStateM.bind_eq_ok.mpr ⟨raws, before, orThrow_eq_ok.mpr ⟨isRaw, rfl⟩, ?_⟩
    refine EStateM.bind_eq_ok.mpr ⟨(), _,
      transaction_eq_ok.mpr ⟨_, replaceTables_eq_ok.mpr ⟨_, reads.ledger, rfl⟩, rfl⟩, ?_⟩
    refine EStateM.bind_eq_ok.mpr ⟨(), _,
      keeping_eq_ok.mpr ⟨_, reads.recurringRules, reads.distinctRules, rfl⟩, ?_⟩
    refine EStateM.bind_eq_ok.mpr ⟨(), _,
      keeping_eq_ok.mpr ⟨_, reads.budgets, reads.distinctBudgets, rfl⟩, ?_⟩
    refine EStateM.bind_eq_ok.mpr ⟨(), _,
      keeping_eq_ok.mpr ⟨_, reads.attachments, reads.distinctAttachments, rfl⟩, ?_⟩
    rw [BackupTables.restored, ← reads.merchantRules]
    rfl

variable (deviceId now) in
/-- What is left where the ledger was replaced and something after it was not to be read, or had an
id that was taken. -/
inductive HalfRestored (raws : RawTables) (ledger : LedgerRows) (error : BackupError)
    (before : LocalData) : LocalData → Prop where
  | atRule (recurringRules : KeyedTable LocalRecurringRule LocalRecurringRule.id)
      (stopped : recurringRules.StoppedAt readRecurring uniqueFailed error raws.recurringRules) :
      HalfRestored raws ledger error before
        { before with
          toLocalTables := { ledger.restored deviceId now before.toLocalTables with
            recurringRules } }
  | atBudget (rules : List LocalRecurringRule)
      (budgets : KeyedTable LocalBudgetRecord LocalBudgetRecord.id)
      (readRules : raws.recurringRules.mapM readRecurring = .ok rules)
      (stopped : budgets.StoppedAt readBudget uniqueFailed error raws.budgets) :
      HalfRestored raws ledger error before
        { before with
          toLocalTables := { ledger.restored deviceId now before.toLocalTables with
            recurringRules := .ofRows rules
            budgets } }
  | atAttachment (rules : List LocalRecurringRule) (budgets : List LocalBudgetRecord)
      (attachments : KeyedTable LocalAttachment fun row => row.id)
      (readRules : raws.recurringRules.mapM readRecurring = .ok rules)
      (readBudgets : raws.budgets.mapM readBudget = .ok budgets)
      (stopped : attachments.StoppedAt readAttachment uniqueFailed error raws.attachments) :
      HalfRestored raws ledger error before
        { before with
          toLocalTables := { ledger.restored deviceId now before.toLocalTables with
            recurringRules := .ofRows rules
            budgets := .ofRows budgets
            attachments }
          files := filesWithout before.attachments.rows before.files }

theorem restoreFull_eq_error {document : BackupDocument} {before after : LocalData}
    {error : BackupError} (failed : restoreFull deviceId now document before = .error error after) :
    (after = before ∧ ¬∃ raws ledger, rawTables document = .ok raws ∧ raws.ReadsLedger ledger) ∨
      ∃ raws ledger, rawTables document = .ok raws ∧ raws.ReadsLedger ledger ∧
        HalfRestored deviceId now raws ledger error before after := by
  rcases EStateM.bind_eq_error.mp failed with here | ⟨raws, _, first, withRows⟩
  · obtain ⟨notRaw, rfl⟩ := orThrow_eq_error.mp here
    refine Or.inl ⟨rfl, ?_⟩
    rintro ⟨raws, -, isRaw, -⟩
    rw [notRaw] at isRaw
    cases isRaw
  obtain ⟨isRaw, rfl⟩ := orThrow_eq_ok.mp first
  rcases EStateM.bind_eq_error.mp withRows with here | ⟨_, _, second, withLedger⟩
  · obtain ⟨notReplaced, rfl⟩ := transaction_eq_error.mp here
    refine Or.inl ⟨rfl, ?_⟩
    rintro ⟨others, ledger, alsoRaw, reads⟩
    obtain rfl := Except.ok.inj (isRaw.symm.trans alsoRaw)
    exact replaceTables_eq_error notReplaced ⟨ledger, reads⟩
  obtain ⟨_, replaced, rfl⟩ := transaction_eq_ok.mp second
  obtain ⟨ledger, readsLedger, rfl⟩ := replaceTables_eq_ok.mp replaced
  refine Or.inr ⟨raws, ledger, isRaw, readsLedger, ?_⟩
  rcases EStateM.bind_eq_error.mp withLedger with here | ⟨_, _, third, withRules⟩
  · obtain ⟨table, stopped, rfl⟩ := stopped_of_keeping here
    exact .atRule table stopped
  obtain ⟨rules, readRules, -, rfl⟩ := keeping_eq_ok.mp third
  rcases EStateM.bind_eq_error.mp withRules with here | ⟨_, _, fourth, withBudgets⟩
  · obtain ⟨table, stopped, rfl⟩ := stopped_of_keeping here
    exact .atBudget rules table readRules stopped
  obtain ⟨budgets, readBudgets, -, rfl⟩ := keeping_eq_ok.mp fourth
  rcases EStateM.bind_eq_error.mp withBudgets with here | ⟨_, _, fifth, withAttachments⟩
  · obtain ⟨table, stopped, rfl⟩ := stopped_of_keeping here
    exact .atAttachment rules budgets table readRules readBudgets stopped
  -- Saving rules and writing files does not fail.
  · cases withAttachments

/-! ### With a password and a base -/

section Restore

variable [ZipCodec] [KeyDerivation] [AesGcm] [Sha256]

/-- The document is unlocked, and put together with its base if it is an incremental one. -/
def Resolves (device : BackupDevice) (document : EncryptedDocument) (password : Option String)
    (full : BackupDocument) : Prop :=
  ∃ unlocked, unwrapEncrypted document password = .ok unlocked ∧
    materializeIncremental device unlocked = .ok full

/-- A restore ends well exactly if the document can be unlocked and put together, all its rows can
be read, and its rules, its budgets and its attachments have distinct ids; then everything is that
of the document. If it fails, the device is as it was before unless the ledger of the document could
be read. Then that ledger has taken the place of the one that was there, with those of the rules, the
budgets and the attachments that came before the one that was refused. -/
theorem restore_outcome (device : BackupDevice) (document : EncryptedDocument)
    (password : Option String) (before : LocalData) :
    (∀ after, restore deviceId now device document password before = .ok () after ↔
      ∃ full raws tables, Resolves device document password full ∧ rawTables full = .ok raws ∧
        raws.Reads tables ∧
        after = tables.restored deviceId now full.attachmentBinaries before) ∧
    ∀ error after, restore deviceId now device document password before = .error error after →
      (after = before ∧ ¬∃ full raws ledger, Resolves device document password full ∧
        rawTables full = .ok raws ∧ raws.ReadsLedger ledger) ∨
      ∃ full raws ledger, Resolves device document password full ∧ rawTables full = .ok raws ∧
        raws.ReadsLedger ledger ∧ HalfRestored deviceId now raws ledger error before after := by
  refine ⟨fun after => ⟨fun made => ?_, ?_⟩, fun error after failed => ?_⟩
  · obtain ⟨unlocked, _, first, afterUnlocking⟩ := EStateM.bind_eq_ok.mp made
    obtain ⟨isUnlocked, rfl⟩ := orThrow_eq_ok.mp first
    obtain ⟨full, _, second, withFull⟩ :=
      EStateM.bind_eq_ok.mp afterUnlocking
    obtain ⟨isFull, rfl⟩ := orThrow_eq_ok.mp second
    obtain ⟨raws, tables, isRaw, reads, rfl⟩ := restoreFull_eq_ok.mp withFull
    exact ⟨full, raws, tables, ⟨unlocked, isUnlocked, isFull⟩, isRaw, reads, rfl⟩
  · rintro ⟨full, raws, tables, ⟨unlocked, isUnlocked, isFull⟩, isRaw, reads, rfl⟩
    refine EStateM.bind_eq_ok.mpr ⟨unlocked, before, orThrow_eq_ok.mpr ⟨isUnlocked, rfl⟩, ?_⟩
    refine EStateM.bind_eq_ok.mpr ⟨full, before, orThrow_eq_ok.mpr ⟨isFull, rfl⟩, ?_⟩
    exact restoreFull_eq_ok.mpr ⟨raws, tables, isRaw, reads, rfl⟩
  · have only : ∀ {unlocked full other}, unwrapEncrypted document password = .ok unlocked →
        materializeIncremental device unlocked = .ok full →
        Resolves device document password other → other = full := by
      rintro unlocked full other isUnlocked isFull ⟨again, alsoUnlocked, alsoFull⟩
      obtain rfl := Except.ok.inj (isUnlocked.symm.trans alsoUnlocked)
      exact Except.ok.inj (alsoFull.symm.trans isFull)
    rcases EStateM.bind_eq_error.mp failed with here | ⟨unlocked, _, first, afterUnlocking⟩
    · obtain ⟨locked, rfl⟩ := orThrow_eq_error.mp here
      refine Or.inl ⟨rfl, ?_⟩
      rintro ⟨full, -, -, ⟨unlocked, isUnlocked, -⟩, -⟩
      rw [locked] at isUnlocked
      cases isUnlocked
    obtain ⟨isUnlocked, rfl⟩ := orThrow_eq_ok.mp first
    rcases EStateM.bind_eq_error.mp afterUnlocking with here | ⟨full, _, second, withFull⟩
    · obtain ⟨noBase, rfl⟩ := orThrow_eq_error.mp here
      refine Or.inl ⟨rfl, ?_⟩
      rintro ⟨full, -, -, ⟨again, alsoUnlocked, isFull⟩, -⟩
      obtain rfl := Except.ok.inj (isUnlocked.symm.trans alsoUnlocked)
      rw [noBase] at isFull
      cases isFull
    obtain ⟨isFull, rfl⟩ := orThrow_eq_ok.mp second
    rcases restoreFull_eq_error withFull with ⟨rfl, unread⟩ | ⟨raws, ledger, isRaw, reads, half⟩
    · refine Or.inl ⟨rfl, ?_⟩
      rintro ⟨other, raws, ledger, resolves, isRaw, reads⟩
      obtain rfl := only isUnlocked isFull resolves
      exact unread ⟨raws, ledger, isRaw, reads⟩
    · exact Or.inr ⟨full, raws, ledger, ⟨unlocked, isUnlocked, isFull⟩, isRaw, reads, half⟩

end Restore

end Documents

end Tables

end Ledgerly
