/-
This file models how the server packs a dump of its database and a backup of its objects in a
bundle, checks a bundle, unpacks it, and copies it to another place. A bundle is a directory with a
payload for each file and a manifest, which is plain text even where the payloads are encrypted.
-/

import Ledgerly.BackupBundles
import Ledgerly.BundlePayloads
import Ledgerly.ServerRestore

namespace Ledgerly

/-! ### Manifests -/

/-- `BackupBundleManifest`, with all its fields. -/
structure BundleManifest where
  kind : String
  schemaVersion : Nat
  createdAt : String
  encrypted : Bool
  encryption : Option BundleEncryption
  fileCount : Nat
  totalSizeBytes : Nat
  files : List BundleFile
  deriving DecidableEq

/-- The manifest as the retention reads it. -/
def BundleManifest.summary (manifest : BundleManifest) : BackupBundleManifest where
  kind := manifest.kind
  schemaVersion := manifest.schemaVersion
  createdAt := manifest.createdAt
  encrypted := manifest.encrypted
  encryption := manifest.encryption.isSome
  fileCount := manifest.fileCount
  payloadPaths := manifest.files.map BundleFile.payloadPath

/-- `serde_json` for the manifest of a bundle. -/
class BundleManifestText where
  encode : BundleManifest → List UInt8
  decode : List UInt8 → Option BundleManifest

/-- A manifest that was written is read. -/
def ManifestsReadBack [BundleManifestText] : Prop :=
  ∀ manifest, BundleManifestText.decode (BundleManifestText.encode manifest) = some manifest

/-- `read_manifest`. -/
def readBundleManifest [BundleManifestText] (bundle : Directory) : Except String BundleManifest :=
  match bundle.lookup ["manifest.json"] with
  | none => .error "read bundle manifest"
  | some bytes =>
    match BundleManifestText.decode bytes with
    | none => .error "decode bundle manifest"
    | some manifest =>
      if manifest.kind ≠ "ledgerly-server-backup-bundle" then
        .error ("unexpected backup bundle kind: " ++ manifest.kind)
      else if manifest.schemaVersion < 1 ∨ 2 < manifest.schemaVersion then
        .error ("unsupported backup bundle schema: " ++ toString manifest.schemaVersion)
      else if manifest.fileCount ≠ manifest.files.length then
        .error "backup bundle count mismatch"
      else if manifest.encrypted ≠ manifest.encryption.isSome then
        .error "backup bundle encryption metadata mismatch"
      else .ok manifest

/-! ### Paths and keys -/

/-- `validated_relative_path`. -/
def validatedRelativePath (path : String) : Except String String :=
  if escapes path then .error ("invalid bundle path: " ++ path) else .ok path

/-- `validated_logical_path`. -/
def validatedLogicalPath (path : String) : Except String String := do
  let path ← validatedRelativePath path
  if path ≠ "database.dump" ∧ ¬"object-store/".toList <+: path.toList then
    .error ("invalid bundle logical path: " ++ path)
  else .ok path

/-- `create_encryption`, with the salt that is drawn. -/
def createEncryption (salt : List UInt8) : BundleEncryption where
  cipher := "aes-256-gcm"
  kdf := "argon2id"
  saltBase64 := base64Encode salt
  memoryKib := 19456
  iterations := 2
  parallelism := 1

/-- `derive_key`. -/
def deriveBundleKey [KeyDerivation] (password : String) (encryption : BundleEncryption) :
    Except String (List UInt8) :=
  if encryption.cipher ≠ "aes-256-gcm" ∨ encryption.kdf ≠ "argon2id" then
    .error "unsupported backup bundle encryption"
  else
    match standardDecode encryption.saltBase64 with
    | none => .error "decode Argon2 salt"
    | some salt =>
      if salt.length < 8 then .error "invalid backup bundle salt"
      else
        match KeyDerivation.argon2id encryption.parallelism encryption.memoryKib
            encryption.iterations 32 (utf8Encode password) salt with
        | none => .error "derive backup bundle key"
        | some key => .ok key

/-- `derive_key`, if there is a password and something is encrypted. -/
def bundleKey [KeyDerivation] (password : Option String) (encryption : Option BundleEncryption) :
    Except String (Option (List UInt8)) :=
  match password, encryption with
  | some password, some encryption => (deriveBundleKey password encryption).map some
  | _, _ => .ok none

/-- The key for a bundle, if it is encrypted and there is a password. -/
def BundleManifest.key [KeyDerivation] (manifest : BundleManifest) (password : Option String) :
    Except String (Option (List UInt8)) :=
  if manifest.encrypted then bundleKey password manifest.encryption else .ok none

/-- `password.len() < 8`. -/
def tooShort (password : Option String) : Bool :=
  password.any fun password => password.utf8ByteSize < 8

/-- What is said of a bundle that was made or unpacked, -/
structure BackupBundleReport where
  fileCount : Nat
  totalSizeBytes : Nat
  encrypted : Bool
  deriving DecidableEq

/-- and of one that was verified. -/
structure BackupBundleVerificationReport where
  fileCount : Nat
  totalSizeBytes : Nat
  encrypted : Bool
  plaintextVerified : Bool
  deriving DecidableEq

/-- How the reads of files fall. -/
abbrev ReadSizes := String → Nat → Nat

/-! ### Packing -/

section Packing

/-- Calls that do what they are told. -/
def workingCalls : RestoreCalls Unit where
  fails _ := false
  copied _ bytes := bytes
  pgRestore _ database := (database, true)
  connects _ := true
  migrate database := (database, true)
  latestIndexCount _ := some 1
  bookCount _ := some 0
  transactionCount _ := some 0
  attachments _ := some []

/-- The files to pack, as `create_backup_bundle` collects and sorts them. -/
def bundleInputs (databaseDump : List UInt8) (objectStoreBackup : Directory) :
    List (String × List UInt8) :=
  (("database.dump", databaseDump) :: objectStoreBackup.entries.map fun entry =>
    ("object-store/" ++ joined entry.1, entry.2)).insertionSort fun one two => one.1 ≤ two.1

/-- `format!("{BUNDLE_PAYLOAD_DIR}/{index:08}.bin")` -/
@[irreducible] def payloadPath (index : Nat) : String :=
  "payload/" ++ String.ofList (padded 8 index) ++ ".bin"

/-- What the system draws for a bundle: a salt, and a prefix of the nonces of each file. -/
structure BundleRandomness where
  salt : List UInt8
  noncePrefix : Nat → List UInt8

/-- The sizes of files are added up in 64 bits, and nothing checks the sum. -/
def addSize (total size : Nat) : Nat := (total + size) % 2 ^ 64

/-- What the loop of `create_backup_bundle` has written. -/
structure BundleWritten where
  bundle : Directory := .empty
  files : List BundleFile := []
  totalSizeBytes : Nat := 0

variable [Aes256Gcm] [Sha256]

/-- One round of the loop. -/
def writeInput (key : Option (List UInt8)) (random : BundleRandomness) (reads : ReadSizes)
    (written : BundleWritten) (input : (String × List UInt8) × Nat) : Except String BundleWritten := do
  let logicalPath ← validatedLogicalPath input.1.1
  let (payload, metadata) ← writeBundlePayload ⟨input.1.2, reads logicalPath⟩ key
    (random.noncePrefix input.2) logicalPath
  match written.bundle.create (segments (payloadPath input.2)) payload with
  | none => .error ("create payload " ++ payloadPath input.2)
  | some bundle =>
    .ok
      { bundle
        files := written.files ++ [metadata.file logicalPath (payloadPath input.2)]
        totalSizeBytes := addSize written.totalSizeBytes metadata.sizeBytes }

variable [KeyDerivation] [BundleManifestText] [ObjectManifestText]

/-- `create_backup_bundle`, into an empty directory apart from its inputs. -/
def createBackupBundle (databaseDump : Option (List UInt8)) (objectStoreBackup : Directory)
    (password : Option String) (createdAt : String) (random : BundleRandomness)
    (reads : ReadSizes) : Except String (Directory × BackupBundleReport) := do
  if tooShort password then .error "backup bundle password must be at least 8 characters"
  else
    match databaseDump with
    | none => .error "database dump does not exist"
    | some databaseDump => do
      let _ ← (verifyObjectStoreBackup workingCalls
        (objectStoreBackup.within "object-store")).mapError RestoreError.message
      let encryption := password.map fun _ => createEncryption random.salt
      let key ← bundleKey password encryption
      let written ← (bundleInputs databaseDump objectStoreBackup).zipIdx.foldlM
        (writeInput key random reads) {}
      let manifest : BundleManifest :=
        { kind := "ledgerly-server-backup-bundle"
          schemaVersion := 2
          createdAt
          encrypted := encryption.isSome
          encryption
          fileCount := written.files.length
          totalSizeBytes := written.totalSizeBytes
          files := written.files }
      match written.bundle.create ["manifest.json"] (BundleManifestText.encode manifest) with
      | none => .error "publish bundle manifest"
      | some bundle =>
        .ok (bundle, ⟨manifest.fileCount, manifest.totalSizeBytes, manifest.encrypted⟩)

end Packing

/-! ### Checking and unpacking -/

section Unpacking

/-- A file can be made at a path: nothing is in its way, and the path has no NUL. -/
def Creatable (output : Directory) (path : String) : Prop :=
  output.Free (segments path) ∧ Char.ofNat 0 ∉ path.toList

instance (output : Directory) (path : String) : Decidable (Creatable output path) :=
  inferInstanceAs (Decidable (_ ∧ _))

/-- What the loop over the files of a bundle has seen and unpacked. -/
structure BundleProcessed where
  logicalPaths : List String := []
  payloadPaths : List String := []
  totalSizeBytes : Nat := 0
  output : Directory := .empty

variable [Aes256Gcm] [Sha256]

/-- One round of the loop of `process_bundle_files_v2`. -/
def processFile (bundle : Directory) (key : Option (List UInt8)) (encrypted unpacks : Bool)
    (reads : ReadSizes) (processed : BundleProcessed) (file : BundleFile) :
    Except String BundleProcessed := do
  let logicalPath ← validatedLogicalPath file.logicalPath
  let payloadPath ← validatedRelativePath file.payloadPath
  if logicalPath ∈ processed.logicalPaths then .error "duplicate logical path in backup bundle"
  else if payloadPath ∈ processed.payloadPaths then
    .error "duplicate payload path in backup bundle"
  else
    match bundle.lookup (segments payloadPath) with
    | none => .error ("read bundle payload " ++ file.payloadPath)
    | some payload =>
      if unpacks ∧ ¬Creatable processed.output logicalPath then
        .error ("create unpacked file " ++ logicalPath)
      else do
        let plain ← processBundleFileV2 ⟨payload, reads payloadPath⟩ key encrypted file logicalPath
        .ok
          { logicalPaths := logicalPath :: processed.logicalPaths
            payloadPaths := payloadPath :: processed.payloadPaths
            totalSizeBytes := addSize processed.totalSizeBytes file.sizeBytes
            output :=
              if unpacks then (processed.output.create (segments logicalPath) plain).getD .empty
              else processed.output }

variable [KeyDerivation]

/-- `process_bundle_files_v2`: what is unpacked, if it is unpacked, and whether the plaintext was
checked. -/
def processBundleFilesV2 (bundle : Directory) (manifest : BundleManifest)
    (password : Option String) (unpacks : Bool) (reads : ReadSizes) :
    Except String (Directory × Bool) := do
  if manifest.encrypted ∧ tooShort password then
    .error "backup bundle password must be at least 8 characters"
  else do
    let key ← manifest.key password
    if manifest.encrypted ∧ unpacks ∧ key.isNone then .error "backup bundle password is required"
    else do
      let processed ←
        manifest.files.foldlM (processFile bundle key manifest.encrypted unpacks reads) {}
      if processed.totalSizeBytes ≠ manifest.totalSizeBytes then
        .error "backup bundle total size mismatch"
      else .ok (processed.output, !manifest.encrypted || key.isSome)

/-- The plaintext of a file of a bundle of the first schema, in one piece. -/
def decryptV1 (key : Option (List UInt8)) (file : BundleFile) (logicalPath : String)
    (stored : List UInt8) : Except String (List UInt8) :=
  match key with
  | none => .ok stored
  | some key =>
    match file.nonceBase64 with
    | none => .error "encrypted bundle file is missing nonce"
    | some nonce =>
      match standardDecode nonce with
      | none => .error "decode bundle nonce"
      | some nonce =>
        if nonce.length ≠ 12 then .error "invalid bundle nonce length"
        else
          match Aes256Gcm.decrypt key nonce (utf8Encode logicalPath) stored with
          | none => .error "invalid bundle password or corrupted payload"
          | some plaintext => .ok plaintext

/-- What the loop of `read_bundle_files_v1` has read. -/
structure BundleReadV1 where
  logicalPaths : List String := []
  payloadPaths : List String := []
  totalSizeBytes : Nat := 0
  files : List (String × List UInt8) := []

/-- One round of the loop. The plaintext is not checked where there is no key for it. -/
def readFileV1 (bundle : Directory) (key : Option (List UInt8)) (encrypted : Bool)
    (read : BundleReadV1) (file : BundleFile) : Except String BundleReadV1 := do
  let logicalPath ← validatedLogicalPath file.logicalPath
  let payloadPath ← validatedRelativePath file.payloadPath
  if logicalPath ∈ read.logicalPaths then .error "duplicate logical path in backup bundle"
  else if payloadPath ∈ read.payloadPaths then .error "duplicate payload path in backup bundle"
  else
    match bundle.lookup (segments payloadPath) with
    | none => .error ("read bundle payload " ++ file.payloadPath)
    | some stored =>
      if stored.length ≠ file.storedSizeBytes ∨ Sha256.hex stored ≠ file.storedSha256 then
        .error ("stored payload integrity failed: " ++ file.logicalPath)
      else do
        let plaintext ← decryptV1 (if encrypted then key else none) file logicalPath stored
        if (!encrypted || key.isSome) ∧
            (plaintext.length ≠ file.sizeBytes ∨ Sha256.hex plaintext ≠ file.sha256) then
          .error ("plaintext payload integrity failed: " ++ file.logicalPath)
        else
          .ok
            { logicalPaths := logicalPath :: read.logicalPaths
              payloadPaths := payloadPath :: read.payloadPaths
              totalSizeBytes := addSize read.totalSizeBytes file.sizeBytes
              files := read.files ++ [(file.logicalPath, plaintext)] }

/-- `read_bundle_files_v1`, of a manifest that was read. -/
def readBundleFilesV1 (bundle : Directory) (manifest : BundleManifest) (password : Option String) :
    Except String (List (String × List UInt8)) := do
  if manifest.encrypted ∧ tooShort password then
    .error "backup bundle password must be at least 8 characters"
  else do
    let key ← manifest.key password
    let read ← manifest.files.foldlM (readFileV1 bundle key manifest.encrypted) {}
    if read.totalSizeBytes ≠ manifest.totalSizeBytes then
      .error "backup bundle total size mismatch"
    else .ok read.files

variable [BundleManifestText]

/-- `verify_backup_bundle`. -/
def verifyBackupBundle (bundle : Directory) (password : Option String) (reads : ReadSizes) :
    Except String BackupBundleVerificationReport := do
  let manifest ← readBundleManifest bundle
  if 2 ≤ manifest.schemaVersion then do
    let (_, plaintextVerified) ← processBundleFilesV2 bundle manifest password false reads
    return ⟨manifest.fileCount, manifest.totalSizeBytes, manifest.encrypted, plaintextVerified⟩
  else do
    let files ← readBundleFilesV1 bundle manifest password
    return ⟨files.length, manifest.totalSizeBytes, manifest.encrypted,
      !manifest.encrypted || password.isSome⟩

/-- One file of a bundle of the first schema, unpacked. -/
def unpackFileV1 (output : Directory) (file : String × List UInt8) : Except String Directory :=
  if Creatable output file.1 then .ok ((output.create (segments file.1) file.2).getD .empty)
  else .error ("write unpacked file " ++ file.1)

/-- `unpack_backup_bundle`, to a directory that is not there yet. -/
def unpackBackupBundle (bundle : Directory) (password : Option String) (reads : ReadSizes) :
    Except String (Directory × BackupBundleReport) := do
  let manifest ← readBundleManifest bundle
  if manifest.encrypted ∧ password = none then .error "backup bundle password is required"
  else if 2 ≤ manifest.schemaVersion then do
    let (output, _) ← processBundleFilesV2 bundle manifest password true reads
    return (output, ⟨manifest.fileCount, manifest.totalSizeBytes, manifest.encrypted⟩)
  else do
    let files ← readBundleFilesV1 bundle manifest password
    let output ← files.foldlM unpackFileV1 .empty
    return (output,
      ⟨manifest.fileCount, (files.map fun file => file.2.length).sum, manifest.encrypted⟩)

/-! ### Copying -/

/-- One payload of `replicate_backup_bundle`. -/
def copyPayload (bundle replica : Directory) (file : BundleFile) : Except String Directory := do
  let payloadPath ← validatedRelativePath file.payloadPath
  match bundle.lookup (segments payloadPath) with
  | none => .error ("replicate bundle payload " ++ file.payloadPath)
  | some payload =>
    match replica.create (segments payloadPath) payload with
    | none => .error "create replica payload directory"
    | some replica => .ok replica

/-- `replicate_backup_bundle`, to a directory that is not there yet, with the reads of the bundle
and those of the replica. -/
def replicateBackupBundle (bundle : Directory) (reads replicaReads : ReadSizes) :
    Except String (Directory × BackupBundleVerificationReport) := do
  let verification ← verifyBackupBundle bundle none reads
  let manifest ← readBundleManifest bundle
  match bundle.lookup ["manifest.json"] with
  | none => .error "copy bundle manifest"
  | some bytes =>
    match (FileTree.empty : Directory).create ["manifest.json"] bytes with
    | none => .error "copy bundle manifest"
    | some replica => do
      let replica ← manifest.files.foldlM (copyPayload bundle) replica
      let replicated ← verifyBackupBundle replica none replicaReads
      if replicated.fileCount ≠ verification.fileCount ∨
          replicated.totalSizeBytes ≠ verification.totalSizeBytes then
        .error "replicated backup bundle summary mismatch"
      else .ok (replica, replicated)

end Unpacking

end Ledgerly
