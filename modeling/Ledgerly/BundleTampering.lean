/-
This file proves what can become of an encrypted bundle in the hands of somebody without its
password. The manifest is plain text that nothing protects, so that files can be left out, added
without contents, or end early, and an older bundle of the same password can be put in the place of
a newer one. But as long as the manifest says that the bundle is encrypted, the files with contents
are all of one bundle that was packed under the password: each has a key of its own, from a salt of
its own.
-/

import Ledgerly.BundleChunks

namespace Ledgerly

/-! ### Packed bundles -/

section Packed

variable [Aes256Gcm]

/-- The entry of the manifest is about the chunks of this file, which are in the bundle. -/
structure Chunked (bundle : Directory) (key noncePrefix : List UInt8)
    (input : String × List UInt8) (file : BundleFile) : Prop where
  logicalPath : file.logicalPath = input.1
  nonce : file.nonceBase64 = some (base64Encode noncePrefix)
  chunks : ∃ (source : PartialReader UInt8) (chunks : ChunksWritten), source.left = input.2 ∧
    writeChunks key noncePrefix input.1 source {} = .ok chunks ∧
    file.chunkCount = some chunks.chunkCount ∧
    bundle.lookup (segments file.payloadPath) = some chunks.stored

/-- Chunks stay when other files are added. -/
theorem Chunked.mono {bundle after : Directory} {key noncePrefix : List UInt8}
    {input : String × List UInt8} {file : BundleFile}
    (chunked : Chunked bundle key noncePrefix input file)
    (keeps : ∀ path content, bundle.lookup path = some content → after.lookup path = some content) :
    Chunked after key noncePrefix input file := by
  obtain ⟨source, chunks, left, written, counted, found⟩ := chunked.chunks
  exact ⟨chunked.logicalPath, chunked.nonce, source, chunks, left, written, counted, keeps _ _ found⟩

/-- A frame of a file that was packed holds a chunk of it. -/
theorem Chunked.sealed (ideal : IdealAes256Gcm) {bundle : Directory}
    {key noncePrefix : List UInt8} (keyLength : key.length = 32)
    (prefixLength : noncePrefix.length = 8) {input : String × List UInt8} {file : BundleFile}
    (chunked : Chunked bundle key noncePrefix input file) {schemaVersion : Nat}
    (second : 2 ≤ schemaVersion) {payload nonce associated ciphertext plaintext : List UInt8}
    (inBundle : bundle.lookup (segments file.payloadPath) = some payload)
    (presents : file.Presents schemaVersion payload nonce associated ciphertext)
    (decrypted : Aes256Gcm.decrypt key nonce associated ciphertext = some plaintext) :
    ∃ index < 2 ^ 32, associated = chunkAad input.1 index ∧ plaintext = chunkOf input.2 index := by
  obtain ⟨source, chunks, left, written, counted, found⟩ := chunked.chunks
  obtain rfl := Option.some.inj (inBundle.symm.trans found)
  obtain ⟨text, drawn, isText, isDrawn, shown⟩ := presents
  obtain rfl := Option.some.inj (isText.symm.trans chunked.nonce)
  obtain rfl := Option.some.inj ((standardDecode_base64Encode noncePrefix).symm.trans isDrawn)
  rw [if_pos second, counted, chunked.logicalPath] at shown
  obtain ⟨count, index, isCount, inside, isFrame, rfl, rfl⟩ := shown
  obtain rfl := Option.some.inj isCount
  obtain ⟨frames, added, total, stored, each⟩ := writeChunks_seals input.2 source {} chunks
    (by rw [left, Nat.zero_mul, List.drop_zero]) written
  rw [Nat.zero_add] at total
  rw [List.nil_append] at stored
  obtain ⟨small, other, isOther, encrypted⟩ := each index (total ▸ inside)
  rw [Nat.zero_add] at small encrypted
  rw [stored] at isFrame
  obtain rfl := Option.some.inj (isFrame.symm.trans isOther)
  refine ⟨index, small, rfl, ?_⟩
  -- What is decrypted is what was encrypted.
  have nonceLength : (chunkNonce noncePrefix index).length = 12 := by
    rw [chunkNonce, List.length_append, prefixLength]
    rfl
  have short : (chunkOf input.2 index).length < 2 ^ 36 - 31 := by
    rw [chunkOf_eq, bundleChunkSizeBytes_eq, List.length_take]
    omega
  obtain ⟨sealed, isSealed, -, opened⟩ :=
    ideal key _ (chunkAad input.1 index) (chunkOf input.2 index) keyLength nonceLength short
  obtain rfl := Option.some.inj (isSealed.symm.trans encrypted)
  exact Option.some.inj (decrypted.symm.trans opened)

variable [Sha256]

/-- The loop of `create_backup_bundle` packs the chunks of every file. -/
theorem writeInputs_chunked {key : List UInt8} {random : BundleRandomness} {reads : ReadSizes}
    {inputs : List (String × List UInt8)} {start : Nat} {written after : BundleWritten}
    (below : PayloadsBelow written.bundle start)
    (packs : (inputs.zipIdx start).foldlM (writeInput (some key) random reads) written = .ok after) :
    PayloadsBelow after.bundle (start + inputs.length) ∧
      (∀ path content, written.bundle.lookup path = some content →
        after.bundle.lookup path = some content) ∧
      ∃ files, after.files = written.files ++ files ∧
        List.Forall₂ (fun input file => ∃ index,
          Chunked after.bundle key (random.noncePrefix index) input file) inputs files := by
  induction inputs generalizing start written with
  | nil =>
    obtain rfl := Except.ok.inj packs
    exact ⟨below, fun _ _ found => found, [], (List.append_nil _).symm, .nil⟩
  | cons input rest inductionHypothesis =>
    rw [List.zipIdx_cons, List.foldlM_cons] at packs
    obtain ⟨next, step, packsRest⟩ := Except.bind_eq_ok.mp packs
    rw [writeInput] at step
    obtain ⟨logicalPath, logical, step⟩ := Except.bind_eq_ok.mp step
    obtain rfl := validatedLogicalPath_eq_ok logical
    obtain ⟨⟨payload, metadata⟩, isWritten, step⟩ := Except.bind_eq_ok.mp step
    rw [writeBundlePayload] at isWritten
    obtain ⟨chunks, isChunks, isWritten⟩ := Except.bind_eq_ok.mp isWritten
    obtain ⟨rfl, rfl⟩ := Prod.mk.inj (Except.ok.inj isWritten)
    dsimp only at step
    split at step
    · cases step
    rename_i bundle created
    obtain rfl := Except.ok.inj step
    obtain ⟨nextBelow, here, grows⟩ := below.create created
    obtain ⟨afterBelow, keeps, files, isFiles, chunked⟩ := inductionHypothesis nextBelow packsRest
    refine ⟨?_, fun path content found => keeps path content (grows path content found), _ :: files,
      isFiles.trans (List.append_assoc _ _ _), .cons ⟨start, ?_⟩ chunked⟩
    · rw [List.length_cons, Nat.add_comm rest.length, ← Nat.add_assoc]
      exact afterBelow
    · exact ⟨rfl, rfl, _, chunks, rfl, isChunks, rfl, keeps _ _ here⟩

variable [KeyDerivation] [BundleManifestText] [ObjectManifestText]

/-- A bundle that was packed under a password. -/
structure PackedBackup (password : String) where
  databaseDump : List UInt8
  objectStoreBackup : Directory
  createdAt : String
  random : BundleRandomness
  reads : ReadSizes
  bundle : Directory
  report : BackupBundleReport
  names : NamesPass objectStoreBackup
  prefixLength : ∀ index, (random.noncePrefix index).length = 8
  made : createBackupBundle (some databaseDump) objectStoreBackup (some password) createdAt random
    reads = .ok (bundle, report)

variable {password : String}

/-- The files of a bundle that was packed. -/
def PackedBackup.inputs (packed : PackedBackup password) : List (String × List UInt8) :=
  bundleInputs packed.databaseDump packed.objectStoreBackup

theorem PackedBackup.unique (packed : PackedBackup password) :
    ∀ one ∈ packed.inputs, ∀ two ∈ packed.inputs, one.1 = two.1 → one = two := by
  have distinct : (packed.inputs.map Prod.fst).Nodup := by
    refine List.pairwise_map.mpr ((bundleInputs_apart packed.names).imp ?_)
    rintro ⟨name, _⟩ ⟨_, _⟩ apart rfl
    exact apart.1 List.prefix_rfl
  intro one inOne two inTwo same
  exact List.inj_on_of_nodup_map distinct inOne inTwo same

/-- The manifest of a packed bundle is about the chunks of its files, under the key of the bundle. -/
theorem PackedBackup.chunked (readBack : ManifestsReadBack) (packed : PackedBackup password) :
    ∃ manifest key, readBundleManifest packed.bundle = .ok manifest ∧ manifest.schemaVersion = 2 ∧
      deriveBundleKey password (createEncryption packed.random.salt) = .ok key ∧
      manifest.key (some password) = .ok (some key) ∧
      List.Forall₂ (fun input file => ∃ index,
        Chunked packed.bundle key (packed.random.noncePrefix index) input file)
        packed.inputs manifest.files := by
  obtain ⟨-, -, key, written, derived, packs, created, -⟩ :=
    createBackupBundle_eq_ok_iff.mp packed.made
  obtain ⟨secret, isSecret, rfl⟩ : ∃ secret,
      deriveBundleKey password (createEncryption packed.random.salt) = .ok secret ∧
        key = some secret := by
    rw [Option.map_some, bundleKey] at derived
    cases found : deriveBundleKey password (createEncryption packed.random.salt) with
    | error error => rw [found] at derived; cases derived
    | ok secret =>
      rw [found] at derived
      exact ⟨secret, rfl, (Except.ok.inj derived).symm⟩
  obtain ⟨below, -, files, isFiles, chunked⟩ := writeInputs_chunked payloadsBelow_empty packs
  refine ⟨_, secret, readBundleManifest_packed readBack created, rfl, isSecret, derived, ?_⟩
  show List.Forall₂ _ _ written.files
  rw [isFiles]
  exact chunked.imp fun _ _ drawn => drawn.imp fun _ isChunked =>
    isChunked.mono fun _ _ => below.addManifest created

omit [Aes256Gcm] [Sha256] [BundleManifestText] [ObjectManifestText] in
theorem length_deriveBundleKey (derivation : IdealDerivation) {salt key : List UInt8}
    (derived : deriveBundleKey password (createEncryption salt) = .ok key) : key.length = 32 := by
  obtain ⟨secret, isSecret, length⟩ := derivation.argon2id 1 19456 2 (utf8Encode password) salt
    (by decide) (by decide) (by decide)
  rw [deriveBundleKey, if_neg (by simp [createEncryption])] at derived
  simp only [createEncryption, standardDecode_base64Encode, Nat.cast_one, Nat.cast_ofNat,
    isSecret] at derived
  split at derived
  · cases derived
  · exact Except.ok.inj derived ▸ length

/-- Whatever can be decrypted of a packed bundle is a chunk of a file of it. -/
theorem PackedBackup.sealed (ideal : IdealAes256Gcm) (derivation : IdealDerivation)
    (readBack : ManifestsReadBack) (packed : PackedBackup password)
    {key nonce associated ciphertext plaintext : List UInt8}
    (decrypts : Decrypts password packed.bundle key nonce associated ciphertext)
    (decrypted : Aes256Gcm.decrypt key nonce associated ciphertext = some plaintext) :
    Sealed packed.inputs associated plaintext := by
  obtain ⟨manifest, secret, read, schema, derived, isKey, chunked⟩ := packed.chunked readBack
  obtain ⟨other, isRead, isOther, file, isFile, payload, inBundle, presents⟩ := decrypts
  obtain rfl := Except.ok.inj (read.symm.trans isRead)
  obtain rfl := Option.some.inj (Except.ok.inj (isKey.symm.trans isOther))
  obtain ⟨input, isInput, index, isChunked⟩ := chunked.flip.exists_of_mem isFile
  obtain ⟨number, small, sameAssociated, samePlain⟩ := isChunked.sealed ideal
    (length_deriveBundleKey derivation derived) (packed.prefixLength index) (by rw [schema]) inBundle
    presents decrypted
  exact ⟨input, isInput, number, small, sameAssociated, samePlain⟩

/-! ### Tampering -/

/-- Whoever has changed a bundle knows the bundles that were packed, but not their password: what
of it can be decrypted lies in one of them, under the same key, with the same nonce and the same
associated data. -/
def Unforged (bundles : Set (PackedBackup password)) (tampered : Directory) : Prop :=
  ∀ key nonce associated ciphertext, Decrypts password tampered key nonce associated ciphertext →
    (Aes256Gcm.decrypt key nonce associated ciphertext).isSome →
    ∃ packed ∈ bundles, Decrypts password packed.bundle key nonce associated ciphertext

/-- No two bundles have the same key. -/
def KeysApart (bundles : Set (PackedBackup password)) : Prop :=
  ∀ one ∈ bundles, ∀ two ∈ bundles, ∀ key, HasKey password one.bundle key →
    HasKey password two.bundle key → one = two

/-- Whatever was done to a bundle by somebody who has all the bundles of a password but not the
password itself: if it is unpacked with the password, and the report says that it was encrypted, then
all files are empty, or those with contents are files of one of those bundles, each under its own
name, cut after a number of whole chunks. -/
theorem tampered_files_are_cut (ideal : IdealAes256Gcm) (derivation : IdealDerivation)
    (readBack : ManifestsReadBack) {bundles : Set (PackedBackup password)}
    (apart : KeysApart bundles) {tampered : Directory} (fit : CountsFit tampered)
    (unforged : Unforged bundles tampered) {reads : ReadSizes} {unpacked : Directory}
    {report : BackupBundleReport}
    (accepted : unpackBackupBundle tampered (some password) reads = .ok (unpacked, report))
    (encrypted : report.encrypted = true) :
    (∀ path content, unpacked.lookup path = some content → content = []) ∨
      ∃ packed ∈ bundles, ∀ path content, unpacked.lookup path = some content → content ≠ [] →
        ∃ original count,
          bundledFile packed.databaseDump packed.objectStoreBackup path = some original ∧
          content = original.take (count * bundleChunkSizeBytes) := by
  obtain ⟨manifest, read, -⟩ := Except.bind_eq_ok.mp accepted
  by_cases known : ∃ packed ∈ bundles, ∃ key, manifest.key (some password) = .ok (some key) ∧
      HasKey password packed.bundle key
  · obtain ⟨packed, inBundles, key, isKey, hasKey⟩ := known
    have opens : ∀ key, manifest.key (some password) = .ok (some key) →
        manifest.Opens tampered packed.inputs key := by
      intro other isOther file isFile payload inTampered nonce associated ciphertext plaintext
        presents decrypted
      obtain rfl := Option.some.inj (Except.ok.inj (isKey.symm.trans isOther))
      obtain ⟨source, inSource, decrypts⟩ := unforged key nonce associated ciphertext
        ⟨manifest, read, isKey, file, isFile, payload, inTampered, presents⟩
        (Option.isSome_of_eq_some decrypted)
      have sameBundle : source = packed := by
        obtain ⟨original, isOriginal, isItsKey, -⟩ := decrypts
        exact apart source inSource packed inBundles key ⟨original, isOriginal, isItsKey⟩ hasKey
      subst sameBundle
      exact source.sealed ideal derivation readBack decrypts decrypted
    refine Or.inr ⟨packed, inBundles, fun path content found nonempty => ?_⟩
    obtain ⟨logicalPath, rfl, rfl | ⟨input, isInput, rfl, count, rfl⟩⟩ :=
      unpackBackupBundle_cut opens fit packed.unique read accepted encrypted found
    · exact absurd rfl nonempty
    · exact ⟨input.2, count, (exists_input_iff packed.names).mp ⟨input, isInput, rfl, rfl⟩, rfl⟩
  · -- The key is of no bundle, so that nothing at all can be decrypted.
    have opens : ∀ key, manifest.key (some password) = .ok (some key) →
        manifest.Opens tampered [] key := by
      intro key isKey file isFile payload inTampered nonce associated ciphertext plaintext presents
        decrypted
      obtain ⟨packed, inBundles, original, isOriginal, isItsKey, -⟩ :=
        unforged key nonce associated ciphertext
          ⟨manifest, read, isKey, file, isFile, payload, inTampered, presents⟩
          (Option.isSome_of_eq_some decrypted)
      exact absurd ⟨packed, inBundles, key, isKey, original, isOriginal, isItsKey⟩ known
    refine Or.inl fun path content found => ?_
    obtain ⟨logicalPath, -, empty | ⟨input, isInput, -⟩⟩ :=
      unpackBackupBundle_cut opens fit (fun one isOne => absurd isOne List.not_mem_nil) read accepted
        encrypted found
    · exact empty
    · exact absurd isInput List.not_mem_nil

theorem PackedBackup.key_eq (readBack : ManifestsReadBack)
    (packed : PackedBackup password) {key : List UInt8} (hasKey : HasKey password packed.bundle key) :
    deriveBundleKey password (createEncryption packed.random.salt) = .ok key := by
  obtain ⟨manifest, secret, read, -, derived, isKey, -⟩ := packed.chunked readBack
  obtain ⟨other, isRead, isOther⟩ := hasKey
  obtain rfl := Except.ok.inj (read.symm.trans isRead)
  rw [derived, Option.some.inj (Except.ok.inj (isKey.symm.trans isOther))]

end Packed

/-! ### A bundle that lost its receipt -/

section Lost

/-- A dump and a backup with a receipt are packed. -/
theorem exists_packedBackup (databaseDump : List UInt8) (short : databaseDump.length < 1000)
    (byte : UInt8) :
    let _ := onlyTag
    let _ := emptySha256
    let _ := paddedKeys
    let _ := jsonBundleManifest
    let _ := receiptManifestReader
    ∃ packed : PackedBackup "12345678", packed.databaseDump = databaseDump ∧
      packed.objectStoreBackup = receiptBackup ∧
      packed.random = ⟨List.replicate 16 byte, fun _ => List.replicate 8 byte⟩ := by
  intro _ _ _ _ _
  have fits : databaseDump.length ≤ (2 ^ 32 - 1) * bundleChunkSizeBytes := by
    rw [bundleChunkSizeBytes_eq]
    omega
  obtain ⟨bundle, manifest, made, -⟩ := createBackupBundle_ok onlyTag_ideal paddedKeys_ideal
    jsonBundleManifest_readBack receiptBackup_names receiptBackup_verified fits receiptBackup_fits
    (some "12345678") (by decide) "2026-05-01T00:00:00Z"
    ⟨List.replicate 16 byte, fun _ => List.replicate 8 byte⟩ List.length_replicate
    (fun _ => List.length_replicate) (fun _ _ => 0)
  exact ⟨⟨_, _, _, _, _, bundle, _, receiptBackup_names, fun _ => List.length_replicate, made⟩,
    rfl, rfl, rfl⟩

/-- The three bytes are written as one frame at least, and the first one is theirs. -/
theorem frameAt_of_writeChunks {key : List UInt8} (keyLength : key.length = 32)
    {source : PartialReader UInt8} (left : source.left = [1, 2, 3]) {chunks : ChunksWritten} :
    let _ := onlyTag
    writeChunks key (List.replicate 8 7) "database.dump" source {} = .ok chunks →
    0 < chunks.chunkCount ∧ frameAt 0 chunks.stored = frameAt 0 dumpFrame := by
  intro _ written
  obtain ⟨frames, count, total, stored, each⟩ := writeChunks_seals [1, 2, 3] source {} chunks
    (by rw [left, Nat.zero_mul, List.drop_zero]) written
  obtain ⟨_, sameCount, isWritten, empty, -⟩ := writeChunks_ok onlyTag_ideal keyLength
    List.length_replicate "database.dump" source {} (by rw [left, bundleChunkSizeBytes_eq]; decide)
  have some : 0 < chunks.chunkCount := by
    obtain rfl := Except.ok.inj (isWritten.symm.trans written)
    refine Nat.pos_of_ne_zero fun none => ?_
    have nothing := empty.mp (by simpa using none)
    rw [left] at nothing
    cases nothing
  rw [Nat.zero_add] at total
  rw [List.nil_append] at stored
  obtain ⟨-, other, isOther, encrypted⟩ := each 0 (total ▸ some)
  have whole : chunkOf [1, 2, 3] (({} : ChunksWritten).chunkCount + 0) = [1, 2, 3] := by
    rw [chunkOf_eq, bundleChunkSizeBytes_eq]
    decide
  refine ⟨some, ?_⟩
  rw [stored, isOther, ← Option.some.inj encrypted, whole]
  decide

/-- What is decrypted of the bundle with the dump alone lies in the bundle that it comes from. -/
theorem decrypts_of_dumpOnly {key nonce associated ciphertext : List UInt8} :
    let _ := onlyTag
    let _ := emptySha256
    let _ := paddedKeys
    let _ := jsonBundleManifest
    let _ := receiptManifestReader
    ∀ packed : PackedBackup "12345678", packed.databaseDump = [1, 2, 3] →
      packed.random = ⟨List.replicate 16 7, fun _ => List.replicate 8 7⟩ →
      Decrypts "12345678" dumpOnly key nonce associated ciphertext →
      Decrypts "12345678" packed.bundle key nonce associated ciphertext := by
  intro _ _ _ _ _ packed isDump isRandom decrypts
  obtain ⟨manifest, read, isKey, file, isFile, payload, inBundle, text, drawn, isText, isDrawn,
    shown⟩ := decrypts
  obtain rfl := Except.ok.inj (dumpOnly_manifest.symm.trans read)
  obtain rfl := List.mem_singleton.mp isFile
  obtain rfl := Option.some.inj (lookup_dumpFrame.symm.trans inBundle)
  obtain rfl := Option.some.inj isText
  obtain rfl := Option.some.inj ((standardDecode_base64Encode _).symm.trans isDrawn)
  rw [if_pos (by decide)] at shown
  obtain ⟨count, index, isCount, inside, isFrame, rfl, rfl⟩ := shown
  obtain rfl := Option.some.inj isCount
  obtain rfl := Nat.lt_one_iff.mp inside
  obtain ⟨original, secret, isRead, schema, derived, hasKey, chunked⟩ :=
    packed.chunked jsonBundleManifest_readBack
  rw [isRandom] at derived chunked
  have sameKey : dumpManifest.key (some "12345678") =
      (deriveBundleKey "12345678" (createEncryption (List.replicate 16 7))).map some := rfl
  rw [derived] at sameKey
  obtain rfl := Option.some.inj (Except.ok.inj (sameKey.symm.trans isKey))
  obtain ⟨entry, isEntry, number, isChunked⟩ := chunked.exists_of_mem
    (mem_bundleInputs.mpr (Or.inl rfl))
  obtain ⟨source, chunks, left, written, counted, found⟩ := isChunked.chunks
  rw [isDump] at left
  obtain ⟨some, sameFrame⟩ := frameAt_of_writeChunks
    (length_deriveBundleKey paddedKeys_ideal derived) left written
  refine ⟨original, isRead, hasKey, entry, isEntry, _, found, _, List.replicate 8 7,
    isChunked.nonce, standardDecode_base64Encode _, ?_⟩
  rw [if_pos (by rw [schema])]
  exact ⟨chunks.chunkCount, 0, counted, some, sameFrame.trans isFrame, rfl,
    by rw [isChunked.logicalPath]; rfl⟩

/-- There are two bundles of a password, each with a receipt. The receipt of the newer one is left
out, and what is unpacked is its dump. -/
theorem dump_is_whole :
    let _ := onlyTag
    let _ := emptySha256
    let _ := paddedKeys
    let _ := jsonBundleManifest
    let _ := receiptManifestReader
    ∃ (older newer : PackedBackup "12345678") (unpacked : Directory) (report : BackupBundleReport),
      older.databaseDump = [4, 5, 6] ∧ newer.databaseDump = [1, 2, 3] ∧
      newer.objectStoreBackup = receiptBackup ∧
      unpackBackupBundle dumpOnly (some "12345678") (fun _ _ => 0) = .ok (unpacked, report) ∧
      report.encrypted = true ∧ unpacked.lookup ["database.dump"] = some [1, 2, 3] ∧
      ((∀ path content, unpacked.lookup path = some content → content = []) ∨
        ∃ packed ∈ ({older, newer} : Set (PackedBackup "12345678")), ∀ path content,
          unpacked.lookup path = some content → content ≠ [] → ∃ original count,
            bundledFile packed.databaseDump packed.objectStoreBackup path = some original ∧
            content = original.take (count * bundleChunkSizeBytes)) := by
  intro _ _ _ _ _
  obtain ⟨older, olderDump, -, olderRandom⟩ := exists_packedBackup [4, 5, 6] (by decide) 6
  obtain ⟨newer, newerDump, newerObjects, newerRandom⟩ := exists_packedBackup [1, 2, 3] (by decide) 7
  have accepted : ∃ unpacked,
      unpackBackupBundle dumpOnly (some "12345678") (fun _ _ => 0) = .ok (unpacked, ⟨1, 3, true⟩) ∧
      unpacked.lookup ["database.dump"] = some [1, 2, 3] := by
    obtain ⟨output, processed, found⟩ :=
      dumpOnly_processed (Or.inr rfl) true (fun _ => rfl) (fun _ _ => 0)
    refine ⟨output, ?_, found rfl⟩
    rw [unpackBackupBundle, dumpOnly_manifest]
    dsimp only [bind, Except.bind]
    rw [if_neg (by decide), if_pos (by decide), processed]
    rfl
  obtain ⟨unpacked, isUnpacked, found⟩ := accepted
  have fit : CountsFit dumpOnly := by
    intro manifest read file isFile count isCount
    obtain rfl := Except.ok.inj (dumpOnly_manifest.symm.trans read)
    obtain rfl := List.mem_singleton.mp isFile
    obtain rfl := Option.some.inj isCount
    decide
  have unforged : Unforged {older, newer} dumpOnly := fun key nonce associated ciphertext decrypts _ =>
    ⟨newer, Or.inr rfl, decrypts_of_dumpOnly newer newerDump newerRandom decrypts⟩
  have different : ∀ key, HasKey "12345678" older.bundle key →
      ¬HasKey "12345678" newer.bundle key := by
    intro key isOlder isNewer
    have one := older.key_eq jsonBundleManifest_readBack isOlder
    have two := newer.key_eq jsonBundleManifest_readBack isNewer
    rw [olderRandom] at one
    rw [newerRandom] at two
    exact absurd (one.trans two.symm) (by decide)
  have apart : KeysApart {older, newer} := by
    rintro _ (rfl | rfl) _ (rfl | rfl) key one two
    · rfl
    · exact absurd two (different key one)
    · exact absurd one (different key two)
    · rfl
  exact ⟨older, newer, unpacked, _, olderDump, newerDump, newerObjects, isUnpacked, rfl, found,
    tampered_files_are_cut onlyTag_ideal paddedKeys_ideal jsonBundleManifest_readBack apart fit
      unforged isUnpacked rfl⟩

end Lost

end Ledgerly
