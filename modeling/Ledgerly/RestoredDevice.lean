/-
This file proves that a restore undoes an export: whatever is on a device, the export of any other
device makes its tables the same, to the row and in their order.

What is exported is well formed, so that it comes back from the file. The rows of every table have
distinct ids, so that none takes the place of another when they are put in again.
-/

import Ledgerly.CsvRoundTrip
import Ledgerly.RestoreOutcome

namespace Ledgerly

open Csv

namespace Tables

/-! ### Rows that are exported -/

section Scope

variable (bookIds : Option (Finset String)) (source : LocalData)

theorem scopedRows_sublist {Row : Type} (rows : List Row) (belongsToSelection : Row → Bool) :
    (scopedRows bookIds rows belongsToSelection).Sublist rows := by
  rw [scopedRows]
  split
  · exact List.filter_sublist
  · exact List.Sublist.refl _

theorem nodup_scopedRows {Row : Type} {key : Row → String} {rows : List Row}
    (distinct : (rows.map key).Nodup) (belongsToSelection : Row → Bool) :
    ((scopedRows bookIds rows belongsToSelection).map key).Nodup :=
  distinct.sublist ((scopedRows_sublist bookIds rows belongsToSelection).map key)

theorem nodup_listAll {Row : Type} {key : Row → String} {rows : List Row}
    (distinct : (rows.map key).Nodup) (createdAt : Row → Int) :
    ((listAll createdAt rows).map key).Nodup :=
  ((List.perm_insertionSort _ rows).map key).nodup_iff.mpr distinct

theorem mapM_map_eq_ok {Item Row Read : Type} {toRow : Item → Row}
    {read : Row → Except BackupError Read} {result : Item → Read}
    (each : ∀ item, read (toRow item) = .ok (result item)) (items : List Item) :
    (items.map toRow).mapM read = .ok (items.map result) := by
  induction items with
  | nil => rfl
  | cons item rest inductionHypothesis =>
    rw [List.map_cons, List.mapM_cons, each, inductionHypothesis]
    rfl

/-- The tables that are exported, as they are read: nothing is known of the uploads. -/
def BackupTables.read (tables : BackupTables) : BackupTables :=
  { tables with attachments := tables.attachments.map LocalAttachment.fresh }

/-- The rows of a document. -/
def BackupTables.raws (tables : BackupTables) : RawTables where
  books := tables.books.map bookToJson
  accounts := tables.accounts.map accountToJson
  transactions := tables.transactions.map transactionToJson
  transactionEntries := tables.transactionEntries.map transactionEntryToJson
  recurringRules := tables.recurringRules.map recurringToJson
  budgets := tables.budgets.map budgetToJson
  attachments := tables.attachments.map fun row => attachmentToJson row.toLocalAttachmentRecord
  merchantRules := tables.merchantRules.map merchantRuleToJson

theorem rawTables_payload {document : BackupDocument} {tables : BackupTables}
    (payload : document.payload = tables.payload) : rawTables document = .ok tables.raws := by
  rw [rawTables, payload]
  exact Except.chained (asList_rows _ _) (Except.chained (asList_rows _ _)
    (Except.chained (asList_rows _ _) (Except.chained (asList_rows _ _)
      (Except.chained (asList_rows _ _) (Except.chained (asList_rows _ _)
        (Except.chained (asList_rows _ _) (Except.chained (asList_rows _ _) rfl)))))))

theorem reads_exported [LocalZone] [DoubleText] :
    (exportedTables bookIds source).raws.Reads (exportedTables bookIds source).read where
  ledger :=
    { books := (mapM_map_eq_ok readBook_toJson _).trans (congrArg _ (List.map_id _))
      accounts := (mapM_map_eq_ok readAccount_toJson _).trans (congrArg _ (List.map_id _))
      transactions := (mapM_map_eq_ok readTransaction_toJson _).trans (congrArg _ (List.map_id _))
      transactionEntries :=
        (mapM_map_eq_ok readTransactionEntry_toJson _).trans (congrArg _ (List.map_id _)) }
  recurringRules := (mapM_map_eq_ok readRecurring_toJson _).trans (congrArg _ (List.map_id _))
  budgets := (mapM_map_eq_ok readBudget_toJson _).trans (congrArg _ (List.map_id _))
  attachments := mapM_map_eq_ok readAttachment_toJson _
  merchantRules := restoreMerchantRules_toJson _
  distinctRules := nodup_scopedRows bookIds (nodup_listAll source.recurringRules.distinct _) _
  distinctBudgets := nodup_scopedRows bookIds (nodup_listAll source.budgets.distinct _) _
  distinctAttachments := by
    have distinct := nodup_scopedRows bookIds
      (nodup_listAll source.attachments.distinct fun row => row.createdAt)
      fun row => inScope bookIds source row.bookId
    show (((exportedTables bookIds source).attachments.map LocalAttachment.fresh).map
      fun row => row.id).Nodup
    rw [List.map_map]
    exact distinct

/-! ### A document that is exported is well formed -/

theorem wellFormed_rowsJson {rows : List BackupRow} (each : ∀ row ∈ rows, (Json.obj row).WellFormed) :
    (rowsJson rows).WellFormed := by
  rw [rowsJson, Json.WellFormed, Json.wellFormedItems_iff]
  intro item member
  obtain ⟨row, inRows, rfl⟩ := List.mem_map.mp member
  exact each row inRows

theorem wellFormed_table {Row : Type} {toRow : Row → BackupRow}
    (each : ∀ row, (Json.obj (toRow row)).WellFormed) (rows : List Row) :
    (rowsJson (rows.map toRow)).WellFormed := by
  refine wellFormed_rowsJson fun row member => ?_
  obtain ⟨item, -, rfl⟩ := List.mem_map.mp member
  exact each item

theorem wellFormed_ofOption (value : Option String) : (Json.ofOption value).WellFormed := by
  cases value <;> trivial

theorem wellFormed_obj {fields : List (String × Json)} (keys : List String)
    (named : fields.map Prod.fst = keys) (distinct : keys.Nodup)
    (values : Json.WellFormedFields fields) : (Json.obj fields).WellFormed :=
  ⟨named ▸ distinct, values⟩

theorem wellFormed_payload (tables : BackupTables) : (Json.obj tables.payload).WellFormed := by
  have number : ∀ value, (Json.ofInt value).WellFormed := Json.wellFormed_ofInt
  refine wellFormed_obj deltaEntityKeys rfl (by decide)
    ⟨wellFormed_table (fun row => ?_) _, wellFormed_table (fun row => ?_) _,
      wellFormed_table (fun row => ?_) _, wellFormed_table (fun row => ?_) _,
      wellFormed_table (fun row => ?_) _, wellFormed_table (fun row => ?_) _,
      wellFormed_table (fun row => ?_) _, wellFormed_table (fun row => ?_) _, trivial⟩
  · exact wellFormed_obj ["id", "name", "currencyCode", "createdAt"] rfl (by decide)
      ⟨trivial, trivial, trivial, trivial, trivial⟩
  · exact wellFormed_obj ["id", "bookId", "name", "type", "currencyCode", "parentAccountId"] rfl
      (by decide) ⟨trivial, trivial, trivial, trivial, trivial, wellFormed_ofOption _, trivial⟩
  · exact wellFormed_obj ["id", "bookId", "occurredAt", "description", "version", "createdAt",
      "deletedAt", "source", "sourceEventFingerprint"] rfl (by decide)
      ⟨trivial, trivial, trivial, wellFormed_ofOption _, number _, trivial, wellFormed_ofOption _,
        wellFormed_ofOption _, wellFormed_ofOption _, trivial⟩
  · exact wellFormed_obj ["id", "transactionId", "accountId", "amountMinor", "currencyCode",
      "entryIndex"] rfl (by decide) ⟨trivial, trivial, trivial, trivial, trivial, number _, trivial⟩
  · exact wellFormed_obj ["id", "bookId", "name", "kind", "amountMinor", "categoryAccountId",
      "accountId", "dayOfMonth", "nextRunDate", "active", "createdAt"] rfl (by decide)
      ⟨trivial, trivial, trivial, trivial, trivial, trivial, trivial, number _, trivial, trivial,
        trivial, trivial⟩
  · exact wellFormed_obj ["id", "bookId", "name", "amountMinor", "categoryAccountId", "createdAt"] rfl
      (by decide) ⟨trivial, trivial, trivial, trivial, trivial, trivial, trivial⟩
  · exact wellFormed_obj ["id", "bookId", "transactionId", "fileName", "mimeType", "relativePath",
      "createdAt"] rfl (by decide)
      ⟨trivial, trivial, trivial, trivial, trivial, trivial, trivial, trivial⟩
  · exact wellFormed_obj ["id", "categoryKey", "needles"] rfl (by decide)
      ⟨trivial, trivial, wellFormed_texts _, trivial⟩

theorem exportedDocument_proper [Sha256] (backupId : String) :
    (exportedDocument bookIds source backupId).Proper where
  payload := wellFormed_payload _
  attachmentIndex := by
    intro row member
    obtain ⟨file, -, rfl⟩ := List.mem_map.mp member
    exact wellFormed_obj ["id", "relativePath", "fileName", "mime", "size", "sha256"] rfl (by decide)
      ⟨trivial, trivial, trivial, trivial, Json.wellFormed_ofInt file.2.length, trivial, trivial⟩
  deleted := List.nodup_nil
  attachments := by
    have distinct := nodup_scopedRows bookIds
      (nodup_listAll source.attachments.distinct fun row => row.createdAt)
      fun row => inScope bookIds source row.bookId
    have ids : (((exportedTables bookIds source).attachments.map fun row =>
        row.toLocalAttachmentRecord).map LocalAttachmentRecord.id).Nodup := by
      rw [List.map_map]
      exact distinct
    have files : ((attachmentFiles _ source.files).map fun file => file.1.id).Nodup :=
      nodup_files ids
    show ((_ : List (LocalAttachmentRecord × List UInt8)).map attachmentBinary |>.map
      AttachmentBinary.id).Nodup
    rw [List.map_map]
    exact files
  oldest := by
    show (1 : Int) ≤ 2
    decide
  newest := by
    show (2 : Int) ≤ 3
    decide

theorem nodup_books : ((exportedTables bookIds source).books.map Book.id).Nodup :=
  nodup_scopedRows bookIds source.books.distinct _

end Scope

/-! ### Files -/

section Files

variable {files : String → Option (List UInt8)} {binaries : List AttachmentBinary}

theorem attachmentPath_injective {one two : String}
    (same : "attachments/" ++ one = "attachments/" ++ two) : one = two := by
  have characters := congrArg String.toList same
  rw [String.toList_append, String.toList_append] at characters
  exact String.toList_inj.mp (List.append_cancel_left characters)

theorem foldl_writeFile_of_notMem {path : String}
    (other : ∀ binary ∈ binaries, "attachments/" ++ binary.id ≠ path) :
    binaries.foldl writeFile files path = files path := by
  induction binaries generalizing files with
  | nil => rfl
  | cons binary rest inductionHypothesis =>
    rw [List.foldl_cons,
      inductionHypothesis fun later member => other later (List.mem_cons_of_mem _ member)]
    exact Function.update_of_ne (other binary List.mem_cons_self).symm _ _

/-- Every file is written, the files of attachments with distinct ids beside one another. -/
theorem foldl_writeFile_of_mem (distinct : (binaries.map AttachmentBinary.id).Nodup)
    {binary : AttachmentBinary} (member : binary ∈ binaries) :
    binaries.foldl writeFile files ("attachments/" ++ binary.id) = some binary.bytes := by
  induction binaries generalizing files with
  | nil => cases member
  | cons first rest inductionHypothesis =>
    rw [List.map_cons, List.nodup_cons] at distinct
    rw [List.foldl_cons]
    rcases List.mem_cons.mp member with rfl | later
    · rw [foldl_writeFile_of_notMem]
      · exact Function.update_self _ _ _
      · intro other inRest same
        exact distinct.1 (attachmentPath_injective same ▸ List.mem_map_of_mem inRest)
    · exact inductionHypothesis distinct.2 later

theorem foldl_deleteFile (paths : List String) (path : String) :
    paths.foldl deleteFile files path = if path ∈ paths then none else files path := by
  induction paths generalizing files with
  | nil => rfl
  | cons first rest inductionHypothesis =>
    rw [List.foldl_cons, inductionHypothesis, deleteFile]
    by_cases here : path = first
    · rw [here, Function.update_self, if_pos List.mem_cons_self, ite_self]
    · rw [Function.update_of_ne here]
      simp only [List.mem_cons, here, false_or]

end Files

/-! ### There and back -/

section RoundTrip

variable [ZipCodec] [KeyDerivation] [AesGcm] [Sha256] [DoubleText]

/-- The bytes that `writeBackup` writes. -/
def backupBytes (document : EncryptedDocument) (exportedAt deviceId : String) :
    Except BackupError (List UInt8) :=
  if document.encrypted.isSome then buildEncryptedZipBytes document
  else buildZipBytes document.toBackupDocument exportedAt deviceId

/-- A device has what was exported of another one: the rows of every table, in their order, with
nothing known of uploads, and nothing to sync. Each file that the other one had for an attachment is
there under the id of the attachment. The files of the attachments that were there before are gone,
and no other file is touched. -/
structure ComesBack (source : LocalData) (tables : BackupTables) (deviceId : String)
    (now : Csv.DateTime) (before after : LocalData) : Prop where
  books : after.books.rows = tables.books
  accounts : after.accounts.rows = tables.accounts
  transactions : after.transactions.rows = tables.transactions
  transactionEntries : after.transactionEntries.rows = tables.transactionEntries
  recurringRules : after.recurringRules.rows = tables.recurringRules
  budgets : after.budgets.rows = tables.budgets
  attachments : after.attachments.rows = tables.attachments.map LocalAttachment.fresh
  merchantRules : after.merchantRules = source.merchantRules
  pendingMutations : after.pendingMutations.rows = []
  syncConflicts : after.syncConflicts.rows = []
  syncStates : after.syncStates.rows = tables.books.map (freshSyncState deviceId now)
  written : ∀ row ∈ tables.attachments, ∀ bytes, source.files row.relativePath = some bytes →
    after.files ("attachments/" ++ row.id) = some bytes
  untouched : ∀ path, (∀ row ∈ tables.attachments, (source.files row.relativePath).isSome →
      "attachments/" ++ row.id ≠ path) →
    after.files path =
      if path ∈ before.attachments.rows.map (fun row => row.relativePath) then none
      else before.files path

section Restored

variable [LocalZone] (bookIds : Option (Finset String)) (source : LocalData)

omit [ZipCodec] [KeyDerivation] [AesGcm] in
theorem comesBack_restored (backupId deviceId : String) (now : Csv.DateTime) (before : LocalData) :
    ComesBack source (exportedTables bookIds source) deviceId now before
      ((exportedTables bookIds source).read.restored deviceId now
        (exportedDocument bookIds source backupId).attachmentBinaries before) := by
  have reads := reads_exported bookIds source
  have proper := exportedDocument_proper bookIds source backupId
  have filesWithout_eq : ∀ path, filesWithout before.attachments.rows before.files path =
      if path ∈ before.attachments.rows.map (fun row => row.relativePath) then none
      else before.files path := foldl_deleteFile _
  have isBinary : ∀ binary, binary ∈ (exportedDocument bookIds source backupId).attachmentBinaries ↔
      ∃ row ∈ (exportedTables bookIds source).attachments, row.id = binary.id ∧
        source.files row.relativePath = some binary.bytes := by
    intro binary
    constructor
    · intro member
      obtain ⟨file, inFiles, rfl⟩ := List.mem_map.mp member
      obtain ⟨inRows, read⟩ := mem_attachmentFiles_iff.mp inFiles
      obtain ⟨row, inTable, same⟩ := List.mem_map.mp inRows
      exact ⟨row, inTable, congrArg LocalAttachmentRecord.id same,
        (congrArg source.files (congrArg LocalAttachmentRecord.relativePath same)).trans read⟩
    · rintro ⟨row, inTable, same, read⟩
      refine List.mem_map.mpr ⟨(row.toLocalAttachmentRecord, binary.bytes),
        mem_attachmentFiles_iff.mpr ⟨List.mem_map_of_mem inTable, read⟩, ?_⟩
      rw [attachmentBinary, same]
  exact
    { books := KeyedTable.rows_ofRows (nodup_books bookIds source)
      accounts := KeyedTable.rows_ofRows (nodup_scopedRows bookIds source.accounts.distinct _)
      transactions :=
        KeyedTable.rows_ofRows (nodup_scopedRows bookIds source.transactions.distinct _)
      transactionEntries :=
        KeyedTable.rows_ofRows (nodup_scopedRows bookIds source.transactionEntries.distinct _)
      recurringRules := KeyedTable.rows_ofRows reads.distinctRules
      budgets := KeyedTable.rows_ofRows reads.distinctBudgets
      attachments := KeyedTable.rows_ofRows reads.distinctAttachments
      merchantRules := rfl
      pendingMutations := rfl
      syncConflicts := rfl
      syncStates := by
        refine KeyedTable.rows_ofRows ?_
        rw [List.map_map]
        exact nodup_books bookIds source
      written := by
        intro row inTable bytes read
        exact foldl_writeFile_of_mem proper.attachments
          ((isBinary ⟨row.id, bytes⟩).mpr ⟨row, inTable, rfl, read⟩)
      untouched := by
        intro path other
        refine (foldl_writeFile_of_notMem fun binary member => ?_).trans (filesWithout_eq path)
        obtain ⟨row, inTable, same, read⟩ := (isBinary binary).mp member
        rw [← same]
        exact other row inTable (Option.isSome_of_eq_some read) }

/-- What is opened of the file of an export is restored on every device. -/
theorem exists_restored {opened : EncryptedDocument} {password : Option String} {backupId : String}
    (unlocked : unwrapEncrypted opened password = .ok (exportedDocument bookIds source backupId))
    (device : BackupDevice) (deviceId : String) (now : Csv.DateTime) (before : LocalData) :
    ∃ after, restore deviceId now device opened password before = .ok () after ∧
      ComesBack source (exportedTables bookIds source) deviceId now before after := by
  refine ⟨_, ?_, comesBack_restored bookIds source backupId deviceId now before⟩
  have whole : materializeIncremental device (exportedDocument bookIds source backupId) =
      .ok (exportedDocument bookIds source backupId) := rfl
  refine EStateM.bind_eq_ok.mpr ⟨_, before, orThrow_eq_ok.mpr ⟨unlocked, rfl⟩, ?_⟩
  refine EStateM.bind_eq_ok.mpr ⟨_, before, orThrow_eq_ok.mpr ⟨whole, rfl⟩, ?_⟩
  exact restoreFull_eq_ok.mpr
    ⟨_, _, rawTables_payload rfl, reads_exported bookIds source, rfl⟩

/-- The export of any device, of all its books or of some, with a password of eight UTF-16 units at
least or without one, comes back from its file: opened with the password or without, it is restored
on every device, which then has the rows, the merchant rules and the files that were exported. -/
theorem exported_device_comes_back (zip : IdealZip) (cipher : IdealCipher)
    (derivation : IdealDerivation) (encryption : BackupEncryption) (random : Nat → UInt8)
    (sound : (encryption.defaultKdfParams (drawnSalt random)).Sound) (password : Option String)
    (long : ∀ given, password.filter (· ≠ "") = some given → 8 ≤ utf16Length given)
    (backupId zippedAt exportedAt writtenAt sourceId : String) :
    ∃ exported bytes,
      exportData bookIds source encryption random password backupId zippedAt exportedAt sourceId =
        .ok exported ∧
      backupBytes exported writtenAt sourceId = .ok bytes ∧
      ∀ opening, opening = none ∨ opening = password → ∃ opened,
        decodeOuterZip bytes opening = .ok opened ∧
        ∀ (device : BackupDevice) (deviceId : String) (now : Csv.DateTime) (before : LocalData),
          ∃ after, restore deviceId now device opened password before = .ok () after ∧
            ComesBack source (exportedTables bookIds source) deviceId now before after := by
  have proper := exportedDocument_proper bookIds source backupId
  cases used : password.filter (· ≠ "") with
  | none =>
    obtain ⟨bytes, built, read, decoded⟩ := proper.plain_round_trip zip writtenAt sourceId
    refine ⟨{ toBackupDocument := exportedDocument bookIds source backupId }, bytes, ?_, built, ?_⟩
    · rw [exportData, used]
    · intro opening _
      exact ⟨_, decodeOuterZip_plain read decoded opening, exists_restored bookIds source rfl⟩
  | some given =>
    have isPassword : password = some given := (Option.filter_eq_some_iff.mp used).1
    obtain ⟨payload, bytes, encrypted, built, -, locked, unlocked, opened⟩ :=
      proper.encrypted_opens zip cipher derivation encryption random none (long given used) sound
        zippedAt exportedAt sourceId
    refine ⟨{ toBackupDocument := exportedDocument bookIds source backupId, encrypted := some payload },
      bytes, ?_, built, ?_⟩
    · rw [exportData, used]
      exact encrypted
    · rintro opening (rfl | rfl)
      · exact ⟨_, locked, exists_restored bookIds source (isPassword ▸ unlocked)⟩
      · exact ⟨_, isPassword ▸ opened, exists_restored bookIds source rfl⟩

end Restored

end RoundTrip

/-- A device with a book: a lunch with its receipt, the rent of every month, a budget, and a merchant
that is known. -/
def receiptDevice : LocalData where
  books := ⟨[⟨"home", "Home", "CNY", ⟨1777600000, by decide⟩⟩], by decide⟩
  accounts :=
    ⟨[⟨"cash", "home", "Cash", "asset", "CNY", none⟩, ⟨"food", "home", "Food", "expense", "CNY", none⟩],
      by decide⟩
  transactions :=
    ⟨[⟨"lunch", "home", ⟨1777600000, by decide⟩, some "Lunch", 1, ⟨1777600000, by decide⟩, none,
        some "manual", none⟩], by decide⟩
  transactionEntries :=
    ⟨[⟨"lunch-1", "lunch", "food", "2500", "CNY", 0⟩, ⟨"lunch-2", "lunch", "cash", "-2500", "CNY", 1⟩],
      by decide⟩
  pendingMutations := .empty
  syncStates := .empty
  syncConflicts := .empty
  recurringRules :=
    ⟨[⟨"rent", "home", "Rent", "expense", 300000, "food", "cash", 31, "2026-05-31", true,
        ⟨0, by decide⟩⟩], by decide⟩
  budgets := ⟨[⟨"meals", "home", "Meals", 100000, "food", ⟨0, by decide⟩⟩], by decide⟩
  attachments :=
    ⟨[{ id := "receipt"
        bookId := "home"
        transactionId := "lunch"
        fileName := "lunch.pdf"
        mime := "application/pdf"
        relativePath := "attachments/receipt"
        createdAt := 0
        stored := ⟨⟨0, by decide⟩, rfl⟩ }], by decide⟩
  merchantRules :=
    [{ id := "canteen"
       categoryKey := "food"
       needles := ["Canteen"]
       stocked := by decide
       clean := by decide +kernel }]
  files := fun path => if path = "attachments/receipt" then some [0x25, 0x50] else none

theorem receipt_device_comes_back :
    let _ := jsonArchive
    let _ := openCipher
    let _ := paddedKeys
    let _ := emptySha256
    let _ := noDoubles
    let _ := utcZone
    ∃ exported bytes opened,
      exportData none receiptDevice ⟨kdfArgon2id, 600000, defaultArgon2MemoryKb false, 2, 1⟩
        (fun _ => 7) (some "12345678") "full" "2026-05-01T00:00:00Z" "2026-05-01T00:00:01Z" "phone" =
          .ok exported ∧
      backupBytes exported "2026-05-01T00:00:02Z" "phone" = .ok bytes ∧
      decodeOuterZip bytes none = .ok opened ∧
      ∀ (device : BackupDevice) (now : Csv.DateTime) (before : LocalData), ∃ after,
        restore "tablet" now device opened (some "12345678") before = .ok () after ∧
        after.books.rows = receiptDevice.books.rows ∧
        after.accounts.rows = receiptDevice.accounts.rows ∧
        after.transactions.rows = receiptDevice.transactions.rows ∧
        after.transactionEntries.rows = receiptDevice.transactionEntries.rows ∧
        after.recurringRules.rows = receiptDevice.recurringRules.rows ∧
        after.budgets.rows = receiptDevice.budgets.rows ∧
        after.merchantRules = receiptDevice.merchantRules ∧
        after.files "attachments/receipt" = some [0x25, 0x50] := by
  intro _ _ _ _ _ _
  have long : ∀ given, (some "12345678").filter (· ≠ "") = some given → 8 ≤ utf16Length given := by
    intro given isGiven
    obtain rfl := Option.some.inj (Option.filter_eq_some_iff.mp isGiven).1
    decide
  obtain ⟨exported, bytes, isExported, written, opens⟩ := exported_device_comes_back none
    receiptDevice jsonArchive_ideal openCipher_ideal paddedKeys_ideal
    ⟨kdfArgon2id, 600000, defaultArgon2MemoryKb false, 2, 1⟩ (fun _ => 7)
    (defaultKdfParams_sound false _) (some "12345678") long "full" "2026-05-01T00:00:00Z"
    "2026-05-01T00:00:01Z" "2026-05-01T00:00:02Z" "phone"
  obtain ⟨opened, isOpened, restores⟩ := opens none (Or.inl rfl)
  refine ⟨exported, bytes, opened, isExported, written, isOpened, fun device now before => ?_⟩
  obtain ⟨after, restored, comes⟩ := restores device "tablet" now before
  exact ⟨after, restored, comes.books, comes.accounts, comes.transactions, comes.transactionEntries,
    comes.recurringRules, comes.budgets, comes.merchantRules,
    comes.written _ List.mem_cons_self _ rfl⟩

end Tables

end Ledgerly
