/-
This file proves that a server comes back from a bundle that it has made of itself: the objects and
the dump go into a backup and a bundle, with a password or without one, and come out of it to a
server in any state. The objects are then those that were there, and the database is what
`pg_restore` and the migrations make of the dump. The restore reports success exactly if that
database has what it is asked for, with an attachment for every object and the other way round.
-/

import Ledgerly.ObjectBackups

namespace Ledgerly

/-! ### What a restored database is asked for -/

section Accepted

variable {Database : Type} [Sha256] [ObjectPath] {calls : RestoreCalls Database}
  {objects restored : Directory}

/-- The object of an attachment is there, with the size and the hash of the attachment. -/
def Backed (objects : Directory) (row : AttachmentMetadataRow) : Prop :=
  ∃ key content, validatedKey row.objectKey = some key ∧
    objects.lookup (segments (objectPath key)) = some content ∧
    (∀ size ∈ row.sizeBytes, (content.length : Int) = size) ∧
    ∀ hash ∈ row.contentHash, Sha256.hex content = hash

/-- The database that is made of a dump is taken for that of the objects. -/
structure Accepts (calls : RestoreCalls Database) (objects : Directory)
    (databaseDump : Option (List UInt8)) (database : Database) : Prop where
  restored : (calls.pgRestore databaseDump database).2 = true
  connects : calls.connects (calls.pgRestore databaseDump database).1 = true
  migrated : (calls.migrate (calls.pgRestore databaseDump database).1).2 = true
  schema : calls.latestIndexCount (calls.migrate (calls.pgRestore databaseDump database).1).1 = some 1
  books : (calls.bookCount (calls.migrate (calls.pgRestore databaseDump database).1).1).isSome
  transactions :
    (calls.transactionCount (calls.migrate (calls.pgRestore databaseDump database).1).1).isSome
  attachments : ∃ rows,
    calls.attachments (calls.migrate (calls.pgRestore databaseDump database).1).1 = some rows ∧
    (∀ row ∈ rows, Backed objects row) ∧ rows.length = objects.entries.length

omit [ObjectPath] [Sha256] in
theorem forall_of_not_any {Value : Type} [DecidableEq Value] {actual : Value}
    {expected : Option Value} (none : ¬(expected.any fun value => actual ≠ value) = true) :
    ∀ value ∈ expected, actual = value := by
  intro value member
  rw [Option.mem_def.mp member, Option.any_some] at none
  simpa using none

omit [ObjectPath] [Sha256] in
theorem not_any_of_forall {Value : Type} [DecidableEq Value] {actual : Value}
    {expected : Option Value} (all : ∀ value ∈ expected, actual = value) :
    ¬(expected.any fun value => actual ≠ value) = true := by
  cases expected with
  | none => exact Bool.false_ne_true
  | some value => simpa using all value rfl

theorem verifyAttachment_iff (working : calls.Working)
    (same : ∀ path, restored.lookup path = objects.lookup path) (row : AttachmentMetadataRow) :
    verifyAttachment calls (.directory restored) row = .ok () ↔ Backed objects row := by
  unfold verifyAttachment objectMetadata Backed
  cases valid : validatedKey row.objectKey with
  | none => exact ⟨nofun, fun ⟨_, _, impossible, _⟩ => (nomatch impossible)⟩
  | some key =>
    dsimp only
    rw [working.fails, if_neg Bool.false_ne_true, same]
    cases found : objects.lookup (segments (objectPath key)) with
    | none =>
      refine ⟨nofun, ?_⟩
      rintro ⟨_, content, isKey, impossible, -⟩
      rw [← Option.some.inj isKey, found] at impossible
      cases impossible
    | some content =>
      dsimp only [Option.map_some]
      constructor
      · intro accepted
        split at accepted
        · cases accepted
        rename_i size
        split at accepted
        · cases accepted
        rename_i hash
        exact ⟨key, content, rfl, found, forall_of_not_any size, forall_of_not_any hash⟩
      · rintro ⟨_, _, isKey, isFound, size, hash⟩
        obtain rfl := Option.some.inj isKey
        obtain rfl := Option.some.inj (found.symm.trans isFound)
        exact (if_neg (not_any_of_forall size)).trans (if_neg (not_any_of_forall hash))

/-- The loop of `verify_restored_state` accepts the attachments that are backed. -/
theorem verifyAttachments_iff (working : calls.Working)
    (same : ∀ path, restored.lookup path = objects.lookup path)
    (rows : List AttachmentMetadataRow) :
    rows.foldlM (fun _ row => verifyAttachment calls (.directory restored) row) () = .ok () ↔
      ∀ row ∈ rows, Backed objects row := by
  induction rows with
  | nil => exact iff_of_true rfl nofun
  | cons row rest inductionHypothesis =>
    rw [List.foldlM_cons, Except.bind_eq_ok, List.forall_mem_cons, ← inductionHypothesis,
      ← verifyAttachment_iff working same]
    exact ⟨fun ⟨_, here, later⟩ => ⟨here, later⟩, fun ⟨here, later⟩ => ⟨(), here, later⟩⟩

omit [ObjectPath] [Sha256] in
theorem queried_eq_ok {Value : Type} {value : Option Value} {result : Value} :
    queried value = .ok result ↔ value = some result := by
  cases value with
  | none => exact ⟨nofun, nofun⟩
  | some value => exact ⟨fun same => congrArg some (Except.ok.inj same),
      fun same => congrArg Except.ok (Option.some.inj same)⟩

theorem verifyRestoredState_eq_ok (working : calls.Working)
    (same : ∀ path, restored.lookup path = objects.lookup path) {database : Database}
    {previous : Option Directory} {counts : Nat × Int × Int} :
    verifyRestoredState calls ⟨database, .directory restored, previous⟩ = .ok counts ↔
      calls.latestIndexCount database = some 1 ∧ calls.bookCount database = some counts.2.1 ∧
      calls.transactionCount database = some counts.2.2 ∧
      ∃ rows, calls.attachments database = some rows ∧ (∀ row ∈ rows, Backed objects row) ∧
        rows.length = counts.1 := by
  unfold verifyRestoredState
  simp only [Except.bind_eq_ok, queried_eq_ok]
  constructor
  · rintro ⟨indexes, schema, checked⟩
    split at checked
    · cases checked
    rename_i one
    obtain rfl : indexes = 1 := not_not.mp one
    obtain ⟨books, isBooks, transactions, isTransactions, rows, isRows, _, backed, made⟩ :=
      (by simpa only [Except.bind_eq_ok, queried_eq_ok] using checked :
        ∃ books, _ ∧ ∃ transactions, _ ∧ ∃ rows, _ ∧ ∃ _, _ ∧ _)
    obtain rfl := Except.ok.inj made
    exact ⟨schema, isBooks, isTransactions, rows, isRows,
      (verifyAttachments_iff working same rows).mp backed, rfl⟩
  · rintro ⟨schema, isBooks, isTransactions, rows, isRows, backed, count⟩
    refine ⟨1, schema, ?_⟩
    rw [if_neg (not_not.mpr rfl)]
    simp only [Except.bind_eq_ok, queried_eq_ok]
    exact ⟨_, isBooks, _, isTransactions, rows, isRows, (),
      (verifyAttachments_iff working same rows).mpr backed,
      congrArg (fun count => Except.ok (count, counts.2)) count⟩

variable {databaseUrl : String} {unpacked : Directory} {fileCount : Nat}
  {safetyBackupRunId : String} {database : Database} {previous : Option Directory}

/-- The objects have no part in the restore of the database. -/
theorem target_of_restoreDatabase (objectsVerified : Nat)
    (url : Option String) (state : ServerState Database) :
    (restoreDatabase calls url unpacked objectsVerified fileCount safetyBackupRunId
      state).2.target = state.target := by
  unfold restoreDatabase
  split
  · rfl
  dsimp only
  split
  · rfl
  split
  · rfl
  split
  · rfl
  split
  · rfl
  split <;> rfl

/-- `restore_steps` after the objects are in place: success exactly if the database is accepted. -/
theorem restoreDatabase_isOk_iff (working : calls.Working)
    (same : ∀ path, restored.lookup path = objects.lookup path) :
    (∃ report, (restoreDatabase calls (some databaseUrl) unpacked objects.entries.length fileCount
        safetyBackupRunId ⟨database, .directory restored, previous⟩).1 = .ok report) ↔
      Accepts calls objects (unpacked.lookup ["database.dump"]) database := by
  unfold restoreDatabase
  dsimp only
  constructor
  · rintro ⟨report, succeeded⟩
    split at succeeded
    · cases succeeded
    rename_i isRestored
    split at succeeded
    · cases succeeded
    rename_i connects
    split at succeeded
    · cases succeeded
    rename_i isMigrated
    split at succeeded
    · cases succeeded
    rename_i counts verified
    split at succeeded
    · cases succeeded
    rename_i counted
    obtain ⟨schema, books, transactions, rows, isRows, backed, length⟩ :=
      (verifyRestoredState_eq_ok working same).mp verified
    exact
      { restored := eq_true_of_ne_false isRestored
        connects := eq_true_of_ne_false connects
        migrated := eq_true_of_ne_false isMigrated
        schema
        books := Option.isSome_of_eq_some books
        transactions := Option.isSome_of_eq_some transactions
        attachments := ⟨rows, isRows, backed, length.trans (not_not.mp counted)⟩ }
  · intro accepted
    obtain ⟨rows, isRows, backed, length⟩ := accepted.attachments
    obtain ⟨books, isBooks⟩ := Option.isSome_iff_exists.mp accepted.books
    obtain ⟨transactions, isTransactions⟩ := Option.isSome_iff_exists.mp accepted.transactions
    have verified : verifyRestoredState calls
        ⟨(calls.migrate (calls.pgRestore (unpacked.lookup ["database.dump"]) database).1).1,
          .directory restored, previous⟩ = .ok (objects.entries.length, books, transactions) :=
      (verifyRestoredState_eq_ok working same).mpr
        ⟨accepted.schema, isBooks, isTransactions, rows, isRows, backed, length⟩
    rw [if_neg (by simp [accepted.restored]), if_neg (by simp [accepted.connects]),
      if_neg (by simp [accepted.migrated]), verified]
    dsimp only
    rw [if_neg (not_not.mpr rfl)]
    exact ⟨_, rfl⟩

/-- Where the database is accepted, it is the migrated one. -/
theorem database_of_restoreDatabase (objectsVerified : Nat) {report : RestoreRunReport}
    {state : ServerState Database}
    (succeeded : (restoreDatabase calls (some databaseUrl) unpacked objectsVerified fileCount
      safetyBackupRunId state).1 = .ok report) :
    (restoreDatabase calls (some databaseUrl) unpacked objectsVerified fileCount
      safetyBackupRunId state).2.database =
        (calls.migrate (calls.pgRestore (unpacked.lookup ["database.dump"]) state.database).1).1 := by
  unfold restoreDatabase at succeeded ⊢
  dsimp only at succeeded ⊢
  split at succeeded
  · cases succeeded
  rename_i isRestored
  rw [if_neg isRestored]
  split at succeeded
  · cases succeeded
  rename_i connects
  rw [if_neg connects]
  split at succeeded
  · cases succeeded
  rename_i isMigrated
  rw [if_neg isMigrated]
  split
  · rfl
  · split <;> rfl

end Accepted

/-! ### From a server to a server -/

section Recovery

variable [Sha256] [ObjectManifestWriter] {objects backup : Directory} {createdAt : String}

/-- The names of a backup pass the checks of a bundle. -/
theorem IsObjectBackup.namesPass (isBackup : IsObjectBackup createdAt objects backup)
    (names : FileNames objects) (pass : KeysPass objects) : NamesPass backup := by
  have passes : ∀ path : List String, path ≠ [] →
      (∀ name ∈ path, PlainName name ∧ Char.ofNat 0 ∉ name.toList) → NoBackslash path →
      (∀ name ∈ path, '/' ∉ name.toList ∧ Char.ofNat 0 ∉ name.toList) ∧
        escapes ("object-store/" ++ joined path) = false := by
    intro path nonempty plain none
    refine ⟨fun name member => ⟨(plain name member).1.2.2.2, (plain name member).2⟩, ?_⟩
    have whole : "object-store/" ++ joined path = joined ("object-store" :: path) := by
      rw [joined_cons nonempty]
      rfl
    have storePlain : PlainName "object-store" ∧ Char.ofNat 0x5C ∉ "object-store".toList := by decide
    rw [whole, escapes_joined (List.cons_ne_nil _ _)]
    · exact List.forall_mem_cons.mpr ⟨storePlain.2, none⟩
    · exact List.forall_mem_cons.mpr ⟨storePlain.1, fun name member => (plain name member).1⟩
  have fixed : ∀ name, name = "manifest.json" ∨ name = "objects" →
      (PlainName name ∧ Char.ofNat 0 ∉ name.toList) ∧ Char.ofNat 0x5C ∉ name.toList := by
    rintro name (rfl | rfl) <;> decide
  intro path content found
  rcases (isBackup path content).mp found with ⟨rfl, -⟩ | ⟨rest, rfl, inObjects⟩
  · refine passes _ (List.cons_ne_nil _ _) (fun name member => ?_) fun name member => ?_
    · exact (fixed name (Or.inl (List.mem_singleton.mp member))).1
    · exact (fixed name (Or.inl (List.mem_singleton.mp member))).2
  · have plain := (names rest content inObjects).2
    refine passes _ (List.cons_ne_nil _ _) (List.forall_mem_cons.mpr ⟨?_, plain⟩)
      (List.forall_mem_cons.mpr ⟨?_, pass rest content inObjects⟩)
    · exact (fixed "objects" (Or.inr rfl)).1
    · exact (fixed "objects" (Or.inr rfl)).2

variable [Aes256Gcm] [KeyDerivation] [BundleManifestText] [ObjectPath]

/-- The objects of a server and a dump of its database are backed up and packed, with a password or
without one. What is unpacked is restored on any server whose calls work: its objects are then those
of the first server, whatever becomes of the database; and the restore reports success exactly if the
database that `pg_restore` and the migrations make of the dump is accepted, and leaves that one. -/
theorem server_comes_back (ideal : IdealAes256Gcm) (derivation : IdealDerivation)
    (bundlesReadBack : ManifestsReadBack) (objectsReadBack : ObjectManifestsReadBack)
    (names : FileNames objects) (pass : KeysPass objects)
    {copied : String → List UInt8 → List UInt8} (faithful : ∀ key bytes, copied key bytes = bytes)
    {databaseDump : List UInt8}
    (dumpFits : databaseDump.length ≤ (2 ^ 32 - 1) * bundleChunkSizeBytes)
    (objectsFit : ∀ path content, objects.lookup path = some content →
      content.length ≤ (2 ^ 32 - 1) * bundleChunkSizeBytes)
    (manifestFits : (ObjectManifestWriter.encode createdAt (storedManifest objects)).length ≤
      (2 ^ 32 - 1) * bundleChunkSizeBytes)
    (password : Option String) (long : tooShort password = false) (packedAt : String)
    (random : BundleRandomness) (saltLength : random.salt.length = 16)
    (prefixLength : ∀ index, (random.noncePrefix index).length = 8) (writes reads : ReadSizes) :
    ∃ backup objectReport bundle bundleReport unpacked,
      backupObjectStore copied createdAt (.directory objects) = .ok (backup, objectReport) ∧
      createBackupBundle (some databaseDump) backup password packedAt random writes =
        .ok (bundle, bundleReport) ∧
      unpackBackupBundle bundle password reads = .ok (unpacked, bundleReport) ∧
      ∀ {Database : Type} {calls : RestoreCalls Database}, calls.Working →
        ∀ (databaseUrl safetyBackupRunId : String) (state : ServerState Database),
          state.target ≠ .file →
          ∃ (result : Except RestoreError RestoreRunReport) (after : ServerState Database)
              (restored : Directory),
            restoreSteps calls (some databaseUrl) unpacked bundleReport.fileCount
              safetyBackupRunId state = (result, after) ∧
            after.target = .directory restored ∧
            (∀ path, restored.lookup path = objects.lookup path) ∧
            ((∃ report, result = .ok report) ↔
              Accepts calls objects (some databaseDump) state.database) ∧
            ∀ report, result = .ok report → after.database =
              (calls.migrate (calls.pgRestore (some databaseDump) state.database).1).1 := by
  obtain ⟨backup, backedUp, isBackup⟩ := backupObjectStore_ok names pass faithful createdAt
  have within := backup.lookup_within_cons "object-store"
  have verified := verifyObjectStoreBackup_ok objectsReadBack
    (⟨fun _ => rfl, fun _ _ => rfl⟩ : workingCalls.Working) names pass isBackup within
  have filesFit : ∀ path content, backup.lookup path = some content →
      content.length ≤ (2 ^ 32 - 1) * bundleChunkSizeBytes := by
    intro path content found
    rcases (isBackup path content).mp found with ⟨-, rfl⟩ | ⟨rest, -, inObjects⟩
    · exact manifestFits
    · exact objectsFit rest content inObjects
  obtain ⟨bundle, manifest, packed, back⟩ := createBackupBundle_ok ideal derivation bundlesReadBack
    (isBackup.namesPass names pass) verified dumpFits filesFit password long packedAt random
    saltLength prefixLength writes
  obtain ⟨unpacked, isUnpacked, files⟩ := back.unpack reads
  refine ⟨backup, _, bundle, _, unpacked, backedUp, packed, isUnpacked, ?_⟩
  intro Database calls working databaseUrl safetyBackupRunId state noFile
  have inStore : ∀ path, unpacked.lookup ("object-store" :: path) = backup.lookup path := by
    intro path
    have different : ¬"object-store" :: path = ["database.dump"] := fun same =>
      absurd (List.cons.inj same).1 (by decide)
    rw [files, bundledFile, if_neg different, within]
  have dump : unpacked.lookup ["database.dump"] = some databaseDump := by
    rw [files, bundledFile, if_pos rfl]
  have verifiedAgain := verifyObjectStoreBackup_ok objectsReadBack working names pass isBackup inStore
  obtain ⟨restored, objectsRestored, same⟩ :=
    restoreObjectStore_ok objectsReadBack working names pass isBackup inStore state noFile
  have count : (storedManifest objects).objectCount = objects.entries.length := length_storedFiles
  have steps : restoreSteps calls (some databaseUrl) unpacked manifest.fileCount safetyBackupRunId
      state = restoreDatabase calls (some databaseUrl) unpacked objects.entries.length
        manifest.fileCount safetyBackupRunId { state with target := .directory restored } := by
    unfold restoreSteps
    rw [verifiedAgain, objectsRestored, count]
  rw [← dump]
  exact ⟨_, _, restored, steps.trans (Prod.eta _).symm, target_of_restoreDatabase _ _ _, same,
    restoreDatabase_isOk_iff working same, fun report succeeded =>
      database_of_restoreDatabase _ succeeded⟩

end Recovery

/-- A database that is what was restored last, and has an attachment then. -/
def receiptCalls : RestoreCalls (Option (List UInt8)) where
  fails _ := false
  copied _ bytes := bytes
  pgRestore databaseDump _ := (databaseDump, true)
  connects _ := true
  migrate database := (database, true)
  latestIndexCount _ := some 1
  bookCount _ := some 1
  transactionCount _ := some 1
  attachments database := database.map fun _ => [⟨"books/receipt", none, some 1⟩]

theorem key_receipt : validatedKey "books/receipt" = some "books/receipt" := by decide

theorem path_receipt : segments (@objectPath letterPath "books/receipt") = ["books", "receipt"] := by
  decide

/-- A server with a receipt comes back on one without a database and without objects. -/
theorem receipt_server_comes_back :
    let _ := onlyTag
    let _ := emptySha256
    let _ := paddedKeys
    let _ := letterPath
    let _ := jsonBundleManifest
    let _ := jsonObjectManifest
    ∃ backup objectReport bundle bundleReport unpacked,
      backupObjectStore (fun _ bytes => bytes) "2026-05-01T00:00:00Z" (.directory receiptObjects) =
        .ok (backup, objectReport) ∧
      createBackupBundle (some [1, 2, 3]) backup (some "12345678") "2026-05-01T00:00:01Z"
        ⟨List.replicate 16 7, fun _ => List.replicate 8 7⟩ (fun _ _ => 0) =
          .ok (bundle, bundleReport) ∧
      unpackBackupBundle bundle (some "12345678") (fun _ _ => 0) = .ok (unpacked, bundleReport) ∧
      ∃ report after restored,
        restoreSteps receiptCalls (some "postgres://ledger") unpacked bundleReport.fileCount "run"
          ⟨none, .missing, none⟩ = (.ok report, after) ∧
        after.target = .directory restored ∧
        (∀ path, restored.lookup path = receiptObjects.lookup path) ∧
        after.database = some [1, 2, 3] := by
  intro _ _ _ _ _ _
  have fits : ([1, 2, 3] : List UInt8).length ≤ (2 ^ 32 - 1) * bundleChunkSizeBytes := by
    rw [bundleChunkSizeBytes_eq]
    decide
  have objectsFit : ∀ path content, receiptObjects.lookup path = some content →
      content.length ≤ (2 ^ 32 - 1) * bundleChunkSizeBytes := by
    intro path content found
    rw [lookup_receiptObjects] at found
    split at found
    · obtain rfl := Option.some.inj found
      rw [bundleChunkSizeBytes_eq]
      decide
    · cases found
  have manifestFits : (ObjectManifestWriter.encode "2026-05-01T00:00:00Z"
      (storedManifest receiptObjects)).length ≤ (2 ^ 32 - 1) * bundleChunkSizeBytes := by
    rw [bundleChunkSizeBytes_eq]
    decide +kernel
  obtain ⟨backup, objectReport, bundle, bundleReport, unpacked, backedUp, packed, isUnpacked, comes⟩ :=
    server_comes_back onlyTag_ideal paddedKeys_ideal jsonBundleManifest_readBack
      jsonObjectManifest_readBack receiptObjects_names receiptObjects_pass
      (fun _ bytes => (rfl : bytes = bytes)) fits objectsFit manifestFits (some "12345678")
      (by decide) "2026-05-01T00:00:01Z" ⟨List.replicate 16 7, fun _ => List.replicate 8 7⟩
      (by decide) (fun _ => rfl) (fun _ _ => 0) (fun _ _ => 0)
  have working : receiptCalls.Working := ⟨fun _ => rfl, fun _ _ => rfl⟩
  obtain ⟨result, after, restored, steps, target, same, accepted, migrated⟩ :=
    comes working "postgres://ledger" "run" ⟨none, .missing, none⟩ nofun
  have backed : Backed receiptObjects ⟨"books/receipt", none, some 1⟩ := by
    refine ⟨"books/receipt", [7], key_receipt, ?_, ?_, nofun⟩
    · rw [path_receipt, lookup_receiptObjects]
      exact if_pos rfl
    · intro size isSize
      rw [← Option.some.inj isSize]
      rfl
  obtain ⟨report, succeeded⟩ := accepted.mpr
    { restored := rfl
      connects := rfl
      migrated := rfl
      schema := rfl
      books := rfl
      transactions := rfl
      attachments := ⟨_, rfl, List.forall_mem_singleton.mpr backed, rfl⟩ }
  exact ⟨backup, objectReport, bundle, bundleReport, unpacked, backedUp, packed, isUnpacked, report,
    after, restored, succeeded ▸ steps, target, same, migrated report succeeded⟩

end Ledgerly
