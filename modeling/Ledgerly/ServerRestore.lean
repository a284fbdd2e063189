/-
This file models `restore_steps`, the restore of the server from an unpacked bundle, with the
objects in a directory, and proves what an error leaves as it was. The objects are replaced
first, by a staging directory that takes the place of the directory, and the database after
them; nothing is undone once the objects are in place.

Every call of the operating system may fail. What `pg_restore`, the migrations and the queries
do to a database or read of it is a parameter.
-/

import Ledgerly.SignedUrls

namespace Ledgerly

/-! ### Bundles and states -/

/-- `StoredObjectMetadata`. -/
structure StoredObjectMetadata where
  key : String
  sizeBytes : Nat
  sha256 : String
  deriving DecidableEq

/-- `ObjectStoreBackupManifest`, without the time it was made. -/
structure ObjectStoreBackupManifest where
  kind : String
  schemaVersion : Nat
  objectCount : Nat
  totalSizeBytes : Nat
  objects : List StoredObjectMetadata

/-- The manifest of the objects, read by `serde_json`. -/
class ObjectManifestText where
  decode : List UInt8 → Option ObjectStoreBackupManifest

/-- What is at the path of `OBJECT_STORE_DIR`. -/
inductive ObjectTarget where
  | missing
  | file
  | directory (objects : Directory)

/-- The state of a server: its database, the directory of its objects, and what is left of a
directory that was moved aside. The staging directory is removed when a restore fails. -/
structure ServerState (Database : Type) where
  database : Database
  target : ObjectTarget
  previous : Option Directory

/-- The calls of the operating system that a restore makes. -/
inductive RestoreCall where
  | readManifest
  | openObject (key : String)
  | createParent
  | createStaging
  | copy (key : String)
  | moveAside
  | publish
  | moveBack
  | removePrevious
  | readRestored (key : String)
  deriving DecidableEq

/-- A row of `attachments`, as far as the verification goes. -/
structure AttachmentMetadataRow where
  objectKey : String
  contentHash : Option String
  sizeBytes : Option Int

/-- What the operating system and PostgreSQL do in a run. A query that fails gives no value. -/
structure RestoreCalls (Database : Type) where
  fails : RestoreCall → Bool
  copied : String → List UInt8 → List UInt8
  /-- `pg_restore`, which may leave a database half restored, and whether it is successful. -/
  pgRestore : Option (List UInt8) → Database → Database × Bool
  connects : Database → Bool
  migrate : Database → Database × Bool
  latestIndexCount : Database → Option Int
  bookCount : Database → Option Int
  transactionCount : Database → Option Int
  attachments : Database → Option (List AttachmentMetadataRow)

/-- The steps of a restore that end with an error. -/
inductive RestoreStep where
  | verification
  | staging
  | movingAside
  | publication
  | removal
  | databaseUrl
  | database
  deriving DecidableEq

/-- Where the restore has failed, and the message. -/
structure RestoreError where
  step : RestoreStep
  message : String

/-- What is said of a restore that has succeeded. -/
structure RestoreRunReport where
  safetyBackupRunId : String
  fileCount : Nat
  objectCount : Nat
  bookCount : Int
  transactionCount : Int

/-! ### Objects of a bundle -/

section Objects

variable {Database : Type} [Sha256] [ObjectManifestText] (calls : RestoreCalls Database)

/-- `read_object_store_manifest`. -/
def readObjectStoreManifest (step : RestoreStep) (unpacked : Directory) :
    Except RestoreError ObjectStoreBackupManifest :=
  if calls.fails .readManifest then .error ⟨step, "read object store manifest"⟩
  else
    match unpacked.lookup ["object-store", "manifest.json"] with
    | none => .error ⟨step, "read object store manifest"⟩
    | some bytes =>
      match ObjectManifestText.decode bytes with
      | none => .error ⟨step, "decode object store manifest"⟩
      | some manifest =>
        if manifest.kind ≠ "ledgerly-object-store-backup" then
          .error ⟨step, "unexpected object store backup kind: " ++ manifest.kind⟩
        else if manifest.schemaVersion ≠ 1 then
          .error ⟨step, "unsupported object store backup schema: " ++
            toString manifest.schemaVersion⟩
        else if manifest.objectCount ≠ manifest.objects.length then
          .error ⟨step, "object store manifest count mismatch"⟩
        else .ok manifest

/-- `metadata_for_path`, of bytes that were read. -/
def metadataOf (key : String) (bytes : List UInt8) : StoredObjectMetadata :=
  ⟨key, bytes.length, Sha256.hex bytes⟩

/-- The checks of an object that both loops begin with: its key, which is new, and its bytes in
the bundle, which are those of the manifest. -/
def checkedObject (step : RestoreStep) (unpacked : Directory) (seen : List String)
    (object : StoredObjectMetadata) : Except RestoreError (String × List UInt8) :=
  match validatedKey object.key with
  | none => .error ⟨step, "invalid object key: " ++ object.key⟩
  | some key =>
    if key ∈ seen then .error ⟨step, "duplicate object key in manifest: " ++ key⟩
    else if calls.fails (.openObject key) then .error ⟨step, "open object " ++ key⟩
    else
      match unpacked.lookup (["object-store", "objects"] ++ segments key) with
      | none => .error ⟨step, "open object " ++ key⟩
      | some bytes =>
        if metadataOf key bytes ≠ object then
          .error ⟨step, "object backup metadata mismatch: " ++ key⟩
        else .ok (key, bytes)

/-- `verify_object_store_backup`. -/
def verifyObjectStoreBackup (unpacked : Directory) : Except RestoreError Nat := do
  let manifest ← readObjectStoreManifest calls .verification unpacked
  let (_, total) ← manifest.objects.foldlM (fun (seen, total) object => do
    let (key, _) ← checkedObject calls .verification unpacked seen object
    return (key :: seen, total + object.sizeBytes)) (([] : List String), 0)
  if total ≠ manifest.totalSizeBytes then
    .error ⟨.verification, "object store manifest total size mismatch"⟩
  else .ok manifest.objectCount

/-- The objects that were copied so far. -/
structure Staged where
  seen : List String := []
  objects : Directory := .empty
  totalSizeBytes : Nat := 0

/-- One round of the loop of `restore_object_store`. -/
def stageObject (unpacked : Directory) (staged : Staged) (object : StoredObjectMetadata) :
    Except RestoreError Staged := do
  let (key, bytes) ← checkedObject calls .staging unpacked staged.seen object
  if calls.fails (.copy key) then .error ⟨.staging, "restore object " ++ key⟩
  else
    match staged.objects.create (segments key) (calls.copied key bytes) with
    | none => .error ⟨.staging, "create restore directory"⟩
    | some objects =>
      if metadataOf key (calls.copied key bytes) ≠ object then
        .error ⟨.staging, "restored object metadata mismatch: " ++ key⟩
      else .ok ⟨key :: staged.seen, objects, staged.totalSizeBytes + object.sizeBytes⟩

/-! ### The directory is replaced -/

/-- The renames at the end of `restore_object_store`. -/
def publishObjects (staged : Directory) (state : ServerState Database) :
    Except RestoreError Unit × ServerState Database :=
  match state.target with
  | .directory objects =>
    if calls.fails .moveAside then
      (.error ⟨.movingAside, "move current object store"⟩, state)
    else if calls.fails .publish then
      if calls.fails .moveBack then
        (.error ⟨.publication, "publish restored object store"⟩,
          { state with target := .missing, previous := some objects })
      else (.error ⟨.publication, "publish restored object store"⟩, state)
    else if calls.fails .removePrevious then
      (.error ⟨.removal, "remove previous object store"⟩,
        { state with target := .directory staged, previous := some objects })
    else (.ok (), { state with target := .directory staged })
  | _ =>
    if calls.fails .publish then
      (.error ⟨.publication, "publish restored object store"⟩, state)
    else (.ok (), { state with target := .directory staged })

/-- `restore_object_store`. -/
def restoreObjectStore (unpacked : Directory) (state : ServerState Database) :
    Except RestoreError Unit × ServerState Database :=
  let prepared : Except RestoreError Directory := do
    let manifest ← readObjectStoreManifest calls .staging unpacked
    match state.target with
    | .file => .error ⟨.staging, "object store target is not a directory"⟩
    | _ =>
      if calls.fails .createParent then .error ⟨.staging, "create object store parent"⟩
      else if calls.fails .createStaging then
        .error ⟨.staging, "create object restore staging directory"⟩
      else do
        let staged ← manifest.objects.foldlM (stageObject calls unpacked) {}
        if staged.totalSizeBytes ≠ manifest.totalSizeBytes then
          .error ⟨.staging, "object store manifest total size mismatch"⟩
        else .ok staged.objects
  match prepared with
  | .error error => (.error error, state)
  | .ok staged => publishObjects calls staged state

/-! ### The database -/

/-- `object_metadata_for_config`, in the directory that is there now. -/
def objectMetadata [ObjectPath] (target : ObjectTarget) (objectKey : String) :
    Option StoredObjectMetadata :=
  match validatedKey objectKey, target with
  | some key, .directory objects =>
    if calls.fails (.readRestored key) then none
    else (objects.lookup (segments (objectPath key))).map (metadataOf key)
  | _, _ => none

/-- One attachment of `verify_restored_state`. -/
def verifyAttachment [ObjectPath] (target : ObjectTarget) (row : AttachmentMetadataRow) :
    Except RestoreError Unit :=
  match objectMetadata calls target row.objectKey with
  | none => .error ⟨.database, "restored attachment missing: " ++ row.objectKey⟩
  | some actual =>
    if row.sizeBytes.any fun expected => (actual.sizeBytes : Int) ≠ expected then
      .error ⟨.database, "restored attachment size mismatch: " ++ row.objectKey⟩
    else if row.contentHash.any fun expected => actual.sha256 ≠ expected then
      .error ⟨.database, "restored attachment hash mismatch: " ++ row.objectKey⟩
    else .ok ()

/-- The value of a query. -/
def queried {Value : Type} (value : Option Value) : Except RestoreError Value :=
  match value with
  | some value => .ok value
  | none => .error ⟨.database, "query failed"⟩

/-- `verify_restored_state`. -/
def verifyRestoredState [ObjectPath] (state : ServerState Database) :
    Except RestoreError (Nat × Int × Int) := do
  let latestIndexCount ← queried (calls.latestIndexCount state.database)
  if latestIndexCount ≠ 1 then
    .error ⟨.database, "restored schema is missing the latest migration"⟩
  else do
    let bookCount ← queried (calls.bookCount state.database)
    let transactionCount ← queried (calls.transactionCount state.database)
    let attachments ← queried (calls.attachments state.database)
    attachments.foldlM (fun _ row => verifyAttachment calls state.target row) ()
    return (attachments.length, bookCount, transactionCount)

/-- The part of `restore_steps` that follows the objects. -/
def restoreDatabase [ObjectPath] (databaseUrl : Option String) (unpacked : Directory)
    (objectsVerified fileCount : Nat) (safetyBackupRunId : String)
    (state : ServerState Database) :
    Except RestoreError RestoreRunReport × ServerState Database :=
  match databaseUrl with
  | none => (.error ⟨.databaseUrl, "DATABASE_URL required"⟩, state)
  | some _ =>
    let (restored, success) := calls.pgRestore (unpacked.lookup ["database.dump"]) state.database
    let state := { state with database := restored }
    if success = false then (.error ⟨.database, "pg_restore failed"⟩, state)
    else if calls.connects restored = false then (.error ⟨.database, "connect"⟩, state)
    else
      let (migrated, success) := calls.migrate restored
      let state := { state with database := migrated }
      if success = false then (.error ⟨.database, "migrate"⟩, state)
      else
        match verifyRestoredState calls state with
        | .error error => (.error error, state)
        | .ok (objectCount, bookCount, transactionCount) =>
          if objectCount ≠ objectsVerified then
            (.error ⟨.database, "restored attachment count changed during verification"⟩, state)
          else
            (.ok ⟨safetyBackupRunId, fileCount, objectCount, bookCount, transactionCount⟩, state)

/-- `restore_steps`. -/
def restoreSteps [ObjectPath] (databaseUrl : Option String) (unpacked : Directory)
    (fileCount : Nat) (safetyBackupRunId : String) (state : ServerState Database) :
    Except RestoreError RestoreRunReport × ServerState Database :=
  match verifyObjectStoreBackup calls unpacked with
  | .error error => (.error error, state)
  | .ok objectsVerified =>
    match restoreObjectStore calls unpacked state with
    | (.error error, after) => (.error error, after)
    | (.ok _, after) =>
      restoreDatabase calls databaseUrl unpacked objectsVerified fileCount safetyBackupRunId after

end Objects

/-! ### What an error leaves -/

/-- What an error at a step leaves as it was. Nothing is undone from the removal of the previous
directory on; a directory that was moved aside is moved back where it can be. From `pg_restore` on,
the database is the one that it left, or the migrations after it. -/
def RestoreStep.Keeps {Database : Type} (calls : RestoreCalls Database)
    (databaseDump : Option (List UInt8)) (before after : ServerState Database) : RestoreStep → Prop
  | .verification | .staging | .movingAside =>
    after.database = before.database ∧ after.target = before.target
  | .publication =>
    after.database = before.database ∧
      (calls.fails .moveBack = false → after.target = before.target)
  | .removal | .databaseUrl => after.database = before.database
  | .database =>
    after.database = (calls.pgRestore databaseDump before.database).1 ∨
      after.database = (calls.migrate (calls.pgRestore databaseDump before.database).1).1

section Errors

variable {Database : Type} [Sha256] [ObjectManifestText] {calls : RestoreCalls Database}
  {unpacked : Directory} {state after : ServerState Database} {error : RestoreError}

omit [Sha256] [ObjectManifestText] in
theorem step_of_error {Value : Type} {thrown : RestoreError}
    (failed : (.error thrown : Except RestoreError Value) = .error error) :
    error.step = thrown.step := congrArg RestoreError.step (Except.error.inj failed).symm

omit [Sha256] in
theorem step_of_readObjectStoreManifest {step : RestoreStep}
    (failed : readObjectStoreManifest calls step unpacked = .error error) : error.step = step := by
  unfold readObjectStoreManifest at failed
  split at failed
  · exact step_of_error failed
  · split at failed
    · exact step_of_error failed
    · split at failed
      · exact step_of_error failed
      · split at failed
        · exact step_of_error failed
        · split at failed
          · exact step_of_error failed
          · split at failed
            · exact step_of_error failed
            · cases failed

omit [ObjectManifestText] in
theorem step_of_checkedObject {step : RestoreStep} {seen : List String}
    {object : StoredObjectMetadata}
    (failed : checkedObject calls step unpacked seen object = .error error) :
    error.step = step := by
  unfold checkedObject at failed
  split at failed
  · exact step_of_error failed
  · split at failed
    · exact step_of_error failed
    · split at failed
      · exact step_of_error failed
      · split at failed
        · exact step_of_error failed
        · split at failed
          · exact step_of_error failed
          · cases failed

/-- The verification of the objects has no effect. -/
theorem step_of_verifyObjectStoreBackup
    (failed : verifyObjectStoreBackup calls unpacked = .error error) :
    error.step = .verification := by
  rcases Except.bind_eq_error.mp failed with manifest | ⟨manifest, -, failed⟩
  · exact step_of_readObjectStoreManifest manifest
  · rcases Except.bind_eq_error.mp failed with objects | ⟨⟨_, total⟩, -, failed⟩
    · refine List.foldlM_eq_error (P := fun error => error.step = .verification) ?_ objects
      rintro ⟨seen, total⟩ object error failed
      rcases Except.bind_eq_error.mp failed with checked | ⟨_, -, impossible⟩
      · exact step_of_checkedObject checked
      · cases impossible
    · dsimp only at failed
      split at failed
      · exact step_of_error failed
      · cases failed

omit [ObjectManifestText] in
theorem step_of_stageObject {staged : Staged} {object : StoredObjectMetadata}
    (failed : stageObject calls unpacked staged object = .error error) :
    error.step = .staging := by
  rcases Except.bind_eq_error.mp failed with checked | ⟨⟨key, bytes⟩, -, failed⟩
  · exact step_of_checkedObject checked
  · dsimp only at failed
    split at failed
    · exact step_of_error failed
    · split at failed
      · exact step_of_error failed
      · split at failed
        · exact step_of_error failed
        · cases failed

omit [Sha256] [ObjectManifestText] in
theorem keeps_of_publishObjects {staged : Directory} (databaseDump : Option (List UInt8))
    (failed : publishObjects calls staged state = (.error error, after)) :
    error.step.Keeps calls databaseDump state after := by
  unfold publishObjects at failed
  split at failed
  · split at failed
    · cases failed
      exact ⟨rfl, rfl⟩
    · split at failed
      · split at failed
        · rename_i stuck
          cases failed
          exact ⟨rfl, fun back => absurd (stuck.symm.trans back) nofun⟩
        · cases failed
          exact ⟨rfl, fun _ => rfl⟩
      · split at failed
        · cases failed
          exact rfl
        · cases failed
  · split at failed
    · cases failed
      exact ⟨rfl, fun _ => rfl⟩
    · cases failed

omit [Sha256] [ObjectManifestText] in
theorem database_of_publishObjects {staged : Directory} :
    (publishObjects calls staged state).2.database = state.database := by
  unfold publishObjects
  split
  · split
    · rfl
    · split
      · split <;> rfl
      · split <;> rfl
  · split <;> rfl

/-- What `restore_object_store` leaves when it fails, and that it has no part in the database. -/
theorem keeps_of_restoreObjectStore (databaseDump : Option (List UInt8))
    (failed : restoreObjectStore calls unpacked state = (.error error, after)) :
    error.step.Keeps calls databaseDump state after := by
  unfold restoreObjectStore at failed
  dsimp only at failed
  split at failed
  · rename_i prepared
    cases failed
    have staging : error.step = .staging := by
      rcases Except.bind_eq_error.mp prepared with manifest | ⟨manifest, -, prepared⟩
      · exact step_of_readObjectStoreManifest manifest
      · split at prepared
        · exact step_of_error prepared
        · split at prepared
          · exact step_of_error prepared
          · split at prepared
            · exact step_of_error prepared
            · rcases Except.bind_eq_error.mp prepared with objects | ⟨staged, -, prepared⟩
              · exact List.foldlM_eq_error (P := fun error => error.step = .staging)
                  (fun _ _ _ => step_of_stageObject) objects
              · split at prepared
                · exact step_of_error prepared
                · cases prepared
    rw [staging]
    exact ⟨rfl, rfl⟩
  · exact keeps_of_publishObjects databaseDump failed

theorem database_of_restoreObjectStore :
    (restoreObjectStore calls unpacked state).2.database = state.database := by
  unfold restoreObjectStore
  dsimp only
  split
  · rfl
  · exact database_of_publishObjects

omit [ObjectManifestText] in
theorem step_of_verifyRestoredState [ObjectPath]
    (failed : verifyRestoredState calls state = .error error) : error.step = .database := by
  have query : ∀ {Value : Type} {value : Option Value} {error : RestoreError},
      queried value = .error error → error.step = .database := by
    intro Value value error failed
    cases value with
    | none => exact step_of_error failed
    | some value => cases failed
  have attachment : ∀ {row : AttachmentMetadataRow} {error : RestoreError},
      verifyAttachment calls state.target row = .error error → error.step = .database := by
    intro row error failed
    unfold verifyAttachment at failed
    split at failed
    · exact step_of_error failed
    · split at failed
      · exact step_of_error failed
      · split at failed
        · exact step_of_error failed
        · cases failed
  rcases Except.bind_eq_error.mp failed with failed | ⟨indexes, -, failed⟩
  · exact query failed
  · split at failed
    · exact step_of_error failed
    · rcases Except.bind_eq_error.mp failed with failed | ⟨books, -, failed⟩
      · exact query failed
      · rcases Except.bind_eq_error.mp failed with failed | ⟨transactions, -, failed⟩
        · exact query failed
        · rcases Except.bind_eq_error.mp failed with failed | ⟨attachments, -, failed⟩
          · exact query failed
          · rcases Except.bind_eq_error.mp failed with failed | ⟨_, -, impossible⟩
            · exact List.foldlM_eq_error (P := fun error => error.step = .database)
                (fun _ _ _ => attachment) failed
            · cases impossible

omit [ObjectManifestText] in
/-- What is left when the part after the objects fails. -/
theorem keeps_of_restoreDatabase [ObjectPath] {databaseUrl : Option String}
    {objectsVerified fileCount : Nat} {safetyBackupRunId : String} {between : ServerState Database}
    (untouched : between.database = state.database)
    (failed : restoreDatabase calls databaseUrl unpacked objectsVerified fileCount safetyBackupRunId
      between = (.error error, after)) :
    error.step.Keeps calls (unpacked.lookup ["database.dump"]) state after := by
  unfold restoreDatabase at failed
  rw [untouched] at failed
  split at failed
  · cases failed
    exact untouched
  · dsimp only at failed
    split at failed
    · cases failed
      exact Or.inl rfl
    · split at failed
      · cases failed
        exact Or.inl rfl
      · split at failed
        · cases failed
          exact Or.inr rfl
        · split at failed
          · rename_i verified
            cases failed
            rw [step_of_verifyRestoredState verified]
            exact Or.inr rfl
          · split at failed
            · cases failed
              exact Or.inr rfl
            · cases failed

/-- What an error of `restore_steps` leaves as it was, step by step: everything while the objects
are verified, staged and put in place, if a directory that was moved aside is moved back; the
database until `pg_restore` has begun, of which nothing is undone. -/
theorem failed_restore_keeps [ObjectPath] (databaseUrl : Option String) (fileCount : Nat)
    (safetyBackupRunId : String)
    (failed : restoreSteps calls databaseUrl unpacked fileCount safetyBackupRunId state =
      (.error error, after)) :
    error.step.Keeps calls (unpacked.lookup ["database.dump"]) state after := by
  unfold restoreSteps at failed
  split at failed
  · rename_i verified
    cases failed
    rw [step_of_verifyObjectStoreBackup verified]
    exact ⟨rfl, rfl⟩
  · split at failed
    · rename_i restored
      cases failed
      exact keeps_of_restoreObjectStore _ restored
    · rename_i between restored
      have untouched : (restoreObjectStore calls unpacked state).2.database = state.database :=
        database_of_restoreObjectStore
      rw [restored] at untouched
      exact keeps_of_restoreDatabase untouched failed

end Errors

/-! ### A bundle without objects -/

/-- A manifest that lists no objects. -/
def emptyManifestText : List UInt8 :=
  ("\x7b\"kind\":\"ledgerly-object-store-backup\",\"schemaVersion\":1," ++
    "\"createdAt\":\"2026-05-01T00:00:00Z\",\"objectCount\":0,\"totalSizeBytes\":0," ++
    "\"objects\":[]\x7d").toList.map fun character => character.toNat.toUInt8

/-- The manifest without objects is read; any other text is none. -/
@[reducible] def emptyManifestReader : ObjectManifestText where
  decode bytes :=
    if bytes = emptyManifestText then some ⟨"ledgerly-object-store-backup", 1, 0, 0, []⟩ else none

/-- A bundle without objects and without a dump. -/
def emptyBundle : Directory :=
  (FileTree.empty.create ["object-store", "manifest.json"] emptyManifestText).getD .empty

/-- A server with one object, and three books in its database. -/
def receiptServer : ServerState Nat where
  database := 3
  target := .directory ((FileTree.empty.create ["books", "receipt"] [7]).getD .empty)
  previous := none

/-- All calls work, and a database of seven books is restored; but the last migration is missing
from it. -/
def oldDump : RestoreCalls Nat where
  fails _ := false
  copied _ bytes := bytes
  pgRestore _ _ := (7, true)
  connects _ := true
  migrate books := (books, true)
  latestIndexCount _ := some 0
  bookCount books := some books
  transactionCount _ := some 0
  attachments _ := some []

/-- A disk without room for a staging directory. -/
def fullDisk : RestoreCalls Nat := { oldDump with fails := fun call => call = .createStaging }

set_option maxRecDepth 10000 in
/-- The staging directory cannot be made, and everything stays as it is. -/
theorem full_disk_keeps_receipt :
    let _ := emptySha256
    let _ := emptyManifestReader
    let _ := letterPath
    ∃ error after,
      restoreSteps fullDisk (some "postgres://ledger") emptyBundle 2 "run" receiptServer =
        (.error error, after) ∧
      error.step = .staging ∧
      error.step.Keeps fullDisk (emptyBundle.lookup ["database.dump"]) receiptServer after := by
  intro _ _ _
  exact ⟨_, _, rfl, rfl,
    @failed_restore_keeps Nat emptySha256 emptyManifestReader fullDisk emptyBundle receiptServer
      _ _ letterPath (some "postgres://ledger") 2 "run" rfl⟩

set_option maxRecDepth 10000 in
/-- The restored database is refused, and stays in the place of the one before. -/
theorem refused_dump_stays :
    let _ := emptySha256
    let _ := emptyManifestReader
    let _ := letterPath
    ∃ error after,
      restoreSteps oldDump (some "postgres://ledger") emptyBundle 2 "run" receiptServer =
        (.error error, after) ∧
      receiptServer.database = 3 ∧ after.database = 7 := by
  intro _ _ _
  exact ⟨_, _, rfl, rfl, rfl⟩

end Ledgerly
