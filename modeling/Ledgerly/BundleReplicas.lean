/-
This file proves that a copy of a bundle is as good as the bundle: where a bundle stands its checks
without a password, it is copied, and whatever is asked of the copy, with any password, is answered
as the bundle answers it.

Neither checking nor unpacking looks at a file of a bundle that the manifest does not list, and
neither depends on how the reads of the files fall.
-/

import Ledgerly.BundleRoundTrip

namespace Ledgerly

/-! ### Reads -/

section Reads

variable [Aes256Gcm]

/-- The frames do not depend on how the reads fall. -/
theorem readChunks_of_left {one two : PartialReader UInt8} (same : one.left = two.left)
    (key : Option (List UInt8)) (noncePrefix : List UInt8) (logicalPath : String)
    (chunkSize remaining index : Nat) (read : PayloadRead) :
    (readChunks key noncePrefix logicalPath chunkSize remaining index one read).map
        (fun found => (found.1.left, found.2)) =
      (readChunks key noncePrefix logicalPath chunkSize remaining index two read).map
        fun found => (found.1.left, found.2) := by
  induction remaining generalizing one two index read with
  | zero =>
    rw [readChunks, readChunks]
    exact congrArg (fun left => Except.ok (left, read)) same
  | succ remaining inductionHypothesis =>
    rw [readChunks, readChunks]
    rcases PartialReader.exactly_of_left same 4 with
      ⟨noneOne, noneTwo⟩ | ⟨lengthBytes, afterOne, afterTwo, lengthOne, lengthTwo, left⟩
    · rw [noneOne, noneTwo]
    · rw [lengthOne, lengthTwo]
      dsimp only
      split
      · rfl
      split
      · rfl
      split
      · rfl
      rcases PartialReader.exactly_of_left left (ofBeBytes lengthBytes) with
        ⟨noneOne, noneTwo⟩ | ⟨ciphertext, lastOne, lastTwo, frameOne, frameTwo, lastLeft⟩
      · rw [noneOne, noneTwo]
      · rw [frameOne, frameTwo]
        dsimp only
        split
        · exact inductionHypothesis lastLeft _ _
        · split
          · rfl
          · split
            · rfl
            · exact inductionHypothesis lastLeft _ _

theorem readPayload_of_left {one two : PartialReader UInt8} (same : one.left = two.left)
    (key : Option (List UInt8)) (encrypted : Bool) (file : BundleFile) (logicalPath : String) :
    readPayload one key encrypted file logicalPath =
      readPayload two key encrypted file logicalPath := by
  unfold readPayload
  cases encrypted with
  | false =>
    rw [if_neg (by simp), if_neg (by simp), one.drain_eq (by decide), two.drain_eq (by decide), same]
  | true =>
    rw [if_pos rfl, if_pos rfl]
    cases file.chunkSizeBytes with
    | none => rfl
    | some chunkSize =>
    cases file.chunkCount with
    | none => rfl
    | some chunkCount =>
    cases file.nonceBase64 with
    | none => rfl
    | some nonce =>
    dsimp only
    cases standardDecode nonce with
    | none => rfl
    | some noncePrefix =>
    dsimp only
    split
    · rfl
    split
    · rfl
    have frames := readChunks_of_left same key noncePrefix logicalPath chunkSize chunkCount 0 {}
    have atEnd : ∀ reader : PartialReader UInt8, (reader.read 1).1 ≠ [] ↔ reader.left ≠ [] :=
      fun reader => by
        rw [not_iff_not, PartialReader.read, List.take_eq_nil_iff]
        exact ⟨fun none => none.resolve_left (by omega), Or.inr⟩
    cases readOne : readChunks key noncePrefix logicalPath chunkSize chunkCount 0 one {} with
    | error error =>
      cases readTwo : readChunks key noncePrefix logicalPath chunkSize chunkCount 0 two {} with
      | error other =>
        rw [readOne, readTwo] at frames
        exact congrArg Except.error (Except.error.inj frames)
      | ok foundTwo => rw [readOne, readTwo] at frames; cases frames
    | ok foundOne =>
      cases readTwo : readChunks key noncePrefix logicalPath chunkSize chunkCount 0 two {} with
      | error other => rw [readOne, readTwo] at frames; cases frames
      | ok foundTwo =>
        rw [readOne, readTwo] at frames
        obtain ⟨left, read⟩ := Prod.mk.inj (Except.ok.inj frames)
        show (if _ then _ else _) = (if _ then _ else _)
        simp only [atEnd, left, read]

theorem processBundleFileV2_of_left [Sha256] {one two : PartialReader UInt8}
    (same : one.left = two.left) (key : Option (List UInt8)) (encrypted : Bool) (file : BundleFile)
    (logicalPath : String) :
    processBundleFileV2 one key encrypted file logicalPath =
      processBundleFileV2 two key encrypted file logicalPath := by
  rw [processBundleFileV2, processBundleFileV2, readPayload_of_left same]

end Reads

/-! ### Rounds that succeed -/

theorem validatedRelativePath_eq_ok {path valid : String}
    (validated : validatedRelativePath path = .ok valid) : escapes path = false ∧ valid = path := by
  rw [validatedRelativePath] at validated
  split at validated
  · cases validated
  · rename_i passes
    exact ⟨eq_false_of_ne_true passes, (Except.ok.inj validated).symm⟩

theorem validatedLogicalPath_eq_ok {path valid : String}
    (validated : validatedLogicalPath path = .ok valid) : valid = path := by
  rw [validatedLogicalPath] at validated
  obtain ⟨relative, isRelative, checked⟩ := Except.bind_eq_ok.mp validated
  obtain ⟨-, rfl⟩ := validatedRelativePath_eq_ok isRelative
  split at checked
  · cases checked
  · exact (Except.ok.inj checked).symm

section Rounds

variable [Aes256Gcm] [Sha256] {bundle : Directory} {key : Option (List UInt8)} {encrypted : Bool}

/-- What a round of `process_bundle_files_v2` that succeeds has checked and done. -/
theorem processFile_eq_ok {unpacks : Bool} {reads : ReadSizes} {processed next : BundleProcessed}
    {file : BundleFile}
    (succeeded : processFile bundle key encrypted unpacks reads processed file = .ok next) :
    ∃ payload plain, validatedLogicalPath file.logicalPath = .ok file.logicalPath ∧
      escapes file.payloadPath = false ∧ file.logicalPath ∉ processed.logicalPaths ∧
      bundle.lookup (segments file.payloadPath) = some payload ∧
      (unpacks → Creatable processed.output file.logicalPath) ∧
      processBundleFileV2 ⟨payload, reads file.payloadPath⟩ key encrypted file file.logicalPath =
        .ok plain ∧
      next =
        { logicalPaths := file.logicalPath :: processed.logicalPaths
          payloadPaths := file.payloadPath :: processed.payloadPaths
          totalSizeBytes := addSize processed.totalSizeBytes file.sizeBytes
          output :=
            if unpacks then
              (processed.output.create (segments file.logicalPath) plain).getD .empty
            else processed.output } := by
  rw [processFile] at succeeded
  obtain ⟨logicalPath, logical, afterLogical⟩ := Except.bind_eq_ok.mp succeeded
  obtain ⟨payloadPath, relative, looked⟩ := Except.bind_eq_ok.mp afterLogical
  obtain rfl := validatedLogicalPath_eq_ok logical
  obtain ⟨passes, rfl⟩ := validatedRelativePath_eq_ok relative
  split at looked
  · cases looked
  rename_i newLogical
  split at looked
  · cases looked
  split at looked
  · cases looked
  rename_i payload found
  split at looked
  · cases looked
  rename_i free
  obtain ⟨plain, read, made⟩ := Except.bind_eq_ok.mp looked
  refine ⟨payload, plain, logical, passes, newLogical, found, fun unpacked => ?_, read,
    (Except.ok.inj made).symm⟩
  by_contra occupied
  exact free ⟨unpacked, occupied⟩

/-- What a round of `read_bundle_files_v1` that succeeds has found and read. -/
theorem readFileV1_eq_ok {read next : BundleReadV1} {file : BundleFile}
    (succeeded : readFileV1 bundle key encrypted read file = .ok next) :
    ∃ stored plaintext, escapes file.payloadPath = false ∧
      bundle.lookup (segments file.payloadPath) = some stored ∧
      decryptV1 (if encrypted then key else none) file file.logicalPath stored = .ok plaintext ∧
      next.files = read.files ++ [(file.logicalPath, plaintext)] := by
  rw [readFileV1] at succeeded
  obtain ⟨logicalPath, logical, afterLogical⟩ := Except.bind_eq_ok.mp succeeded
  obtain ⟨payloadPath, relative, looked⟩ := Except.bind_eq_ok.mp afterLogical
  obtain rfl := validatedLogicalPath_eq_ok logical
  obtain ⟨passes, rfl⟩ := validatedRelativePath_eq_ok relative
  split at looked
  · cases looked
  split at looked
  · cases looked
  split at looked
  · cases looked
  rename_i stored found
  split at looked
  · cases looked
  obtain ⟨plaintext, decrypts, checked⟩ := Except.bind_eq_ok.mp looked
  split at checked
  · cases checked
  exact ⟨stored, plaintext, passes, found, decrypts, by rw [← Except.ok.inj checked]⟩

end Rounds

/-! ### Files that are not listed -/

/-- The bundles have the same manifest, and the same payloads for the files that it lists. -/
structure SameListed [BundleManifestText] (one two : Directory) : Prop where
  manifest : one.lookup ["manifest.json"] = two.lookup ["manifest.json"]
  payloads : ∀ manifest, readBundleManifest one = .ok manifest → ∀ file ∈ manifest.files,
    one.lookup (segments file.payloadPath) = two.lookup (segments file.payloadPath)

section Locality

variable [Aes256Gcm] [Sha256] {one two : Directory}

theorem processFile_of_lookup {file : BundleFile}
    (same : one.lookup (segments file.payloadPath) = two.lookup (segments file.payloadPath))
    (key : Option (List UInt8)) (encrypted unpacks : Bool) (reads others : ReadSizes)
    (processed : BundleProcessed) :
    processFile one key encrypted unpacks reads processed file =
      processFile two key encrypted unpacks others processed file := by
  unfold processFile
  refine bind_congr fun logicalPath => ?_
  by_cases passes : escapes file.payloadPath = true
  · rw [validatedRelativePath, if_pos passes]
    rfl
  · rw [validatedRelativePath, if_neg passes]
    show (if _ then _ else _) = (if _ then _ else _)
    rw [same]
    cases two.lookup (segments file.payloadPath) with
    | none => rfl
    | some payload =>
      have plain := @processBundleFileV2_of_left _ _ ⟨payload, reads file.payloadPath⟩
        ⟨payload, others file.payloadPath⟩ rfl key encrypted file logicalPath
      dsimp only
      rw [plain]

theorem readFileV1_of_lookup {file : BundleFile}
    (same : one.lookup (segments file.payloadPath) = two.lookup (segments file.payloadPath))
    (key : Option (List UInt8)) (encrypted : Bool) (read : BundleReadV1) :
    readFileV1 one key encrypted read file = readFileV1 two key encrypted read file := by
  unfold readFileV1
  refine bind_congr fun logicalPath => ?_
  by_cases passes : escapes file.payloadPath = true
  · rw [validatedRelativePath, if_pos passes]
    rfl
  · rw [validatedRelativePath, if_neg passes]
    show (if _ then _ else _) = (if _ then _ else _)
    rw [same]

variable [KeyDerivation] {manifest : BundleManifest}

theorem processBundleFilesV2_of_lookup
    (same : ∀ file ∈ manifest.files,
      one.lookup (segments file.payloadPath) = two.lookup (segments file.payloadPath))
    (password : Option String) (unpacks : Bool) (reads others : ReadSizes) :
    processBundleFilesV2 one manifest password unpacks reads =
      processBundleFilesV2 two manifest password unpacks others := by
  unfold processBundleFilesV2
  split
  · rfl
  refine bind_congr fun key => ?_
  split
  · rfl
  rw [List.foldlM_congr_of_mem fun file member =>
    processFile_of_lookup (same file member) key manifest.encrypted unpacks reads others]

theorem readBundleFilesV1_of_lookup
    (same : ∀ file ∈ manifest.files,
      one.lookup (segments file.payloadPath) = two.lookup (segments file.payloadPath))
    (password : Option String) :
    readBundleFilesV1 one manifest password = readBundleFilesV1 two manifest password := by
  unfold readBundleFilesV1
  split
  · rfl
  refine bind_congr fun key => ?_
  rw [List.foldlM_congr_of_mem fun file member =>
    readFileV1_of_lookup (same file member) key manifest.encrypted]

variable [BundleManifestText]

omit [Aes256Gcm] [Sha256] [KeyDerivation] in
theorem SameListed.readBundleManifest (same : SameListed one two) :
    readBundleManifest one = Ledgerly.readBundleManifest two := by
  rw [Ledgerly.readBundleManifest, Ledgerly.readBundleManifest, same.manifest]

/-- Nothing but the listed files is checked. -/
theorem SameListed.verify (same : SameListed one two) (password : Option String)
    (reads others : ReadSizes) :
    verifyBackupBundle one password reads = verifyBackupBundle two password others := by
  rw [verifyBackupBundle, verifyBackupBundle, ← same.readBundleManifest]
  cases read : Ledgerly.readBundleManifest one with
  | error error => rfl
  | ok manifest =>
    have payloads := same.payloads manifest read
    show (if _ then _ else _) = (if _ then _ else _)
    rw [processBundleFilesV2_of_lookup payloads password false reads others,
      readBundleFilesV1_of_lookup payloads password]

/-- Nothing but the listed files is unpacked. -/
theorem SameListed.unpack (same : SameListed one two) (password : Option String)
    (reads others : ReadSizes) :
    unpackBackupBundle one password reads = unpackBackupBundle two password others := by
  rw [unpackBackupBundle, unpackBackupBundle, ← same.readBundleManifest]
  cases read : Ledgerly.readBundleManifest one with
  | error error => rfl
  | ok manifest =>
    have payloads := same.payloads manifest read
    show (if _ then _ else if _ then _ else _) = (if _ then _ else if _ then _ else _)
    rw [processBundleFilesV2_of_lookup payloads password true reads others,
      readBundleFilesV1_of_lookup payloads password]

end Locality

/-! ### Copying -/

/-- The paths of a bundle that are copied. -/
def BundleManifest.Lists (manifest : BundleManifest) (path : List String) : Prop :=
  path = ["manifest.json"] ∨ ∃ file ∈ manifest.files, path = segments file.payloadPath

/-- The payload of a file can be copied. -/
def Copies (bundle : Directory) (file : BundleFile) : Prop :=
  escapes file.payloadPath = false ∧ (bundle.lookup (segments file.payloadPath)).isSome

/-- The loop of `replicate_backup_bundle` copies every payload that can be copied. -/
theorem copyPayloads_ok {bundle : Directory} {files : List BundleFile}
    (copies : ∀ file ∈ files, Copies bundle file) (replica : Directory)
    (below : ∀ path content, replica.lookup path = some content → bundle.lookup path = some content) :
    ∃ after, files.foldlM (copyPayload bundle) replica = .ok after ∧
      ∀ path content, after.lookup path = some content ↔
        replica.lookup path = some content ∨
          (∃ file ∈ files, path = segments file.payloadPath) ∧ bundle.lookup path = some content := by
  induction files generalizing replica with
  | nil => exact ⟨replica, rfl, fun path content => by simp⟩
  | cons file rest inductionHypothesis =>
    obtain ⟨passes, isThere⟩ := copies file List.mem_cons_self
    obtain ⟨payload, found⟩ := Option.isSome_iff_exists.mp isThere
    have free : replica.Free (segments file.payloadPath) := by
      refine FileTree.free_iff.mpr fun other present different => ?_
      obtain ⟨content, inReplica⟩ := Option.isSome_iff_exists.mp present
      have inBundle := Option.isSome_of_eq_some (below other content inReplica)
      exact ⟨fun above => different (bundle.apart _ _ inBundle isThere above),
        fun above => different (bundle.apart _ _ isThere inBundle above).symm⟩
    obtain ⟨next, created, lookups⟩ := FileTree.exists_create payload free
    obtain ⟨after, folds, contents⟩ := inductionHypothesis
      (fun other member => copies other (List.mem_cons_of_mem _ member)) next (by
        intro path content inNext
        rw [lookups] at inNext
        split at inNext
        · rename_i same
          rw [same, found, inNext]
        · exact below path content inNext)
    refine ⟨after, ?_, fun path content => ?_⟩
    · have step : copyPayload bundle replica file = .ok next := by
        rw [copyPayload, validatedRelativePath, if_neg (by rw [passes]; simp)]
        simp only [Except.bind, bind, found, created]
      rw [List.foldlM_cons, step]
      exact folds
    · rw [contents, lookups]
      by_cases same : path = segments file.payloadPath
      · subst same
        have inBundle := below (segments file.payloadPath) content
        rw [found] at inBundle ⊢
        rw [if_pos rfl]
        grind
      · rw [if_neg same]
        grind

/-! ### A bundle with a dump -/

/-- Three bytes and a tag. -/
def dumpCiphertext : List UInt8 := [1, 2, 3] ++ List.replicate 16 0

/-- The payload of the three bytes, which is one frame. -/
def dumpFrame : List UInt8 := toBeBytes dumpCiphertext.length ++ dumpCiphertext

/-- The file of the dump, with the hash of `emptySha256` for every content. -/
def dumpFile : BundleFile where
  logicalPath := "database.dump"
  payloadPath := "payload/00000000.bin"
  sizeBytes := 3
  sha256 := "e3b0c44298fc1c149afbf4c8996fb92427ae41e4649b934ca495991b7852b855"
  storedSizeBytes := 23
  storedSha256 := "e3b0c44298fc1c149afbf4c8996fb92427ae41e4649b934ca495991b7852b855"
  nonceBase64 := some (base64Encode (List.replicate 8 7))
  chunkSizeBytes := some bundleChunkSizeBytes
  chunkCount := some 1

/-- The manifest of a bundle with the dump alone. -/
def dumpManifest : BundleManifest :=
  packedManifest "2026-05-01T00:00:00Z" (some (createEncryption (List.replicate 16 7)))
    { files := [dumpFile], totalSizeBytes := 3 }

/-- A bundle with the dump alone. -/
def dumpOnly : Directory :=
  ((FileTree.empty.create ["payload", "00000000.bin"] dumpFrame).getD .empty |>.create
    ["manifest.json"] (jsonFile dumpManifest.fields)).getD .empty

theorem dumpOnly_created :
    ((FileTree.empty.create ["payload", "00000000.bin"] dumpFrame).getD (.empty : Directory)).create
      ["manifest.json"] (jsonFile dumpManifest.fields) = some dumpOnly := by
  have free : ((FileTree.empty.create ["payload", "00000000.bin"] dumpFrame).getD
      (.empty : Directory)).Free ["manifest.json"] := by decide
  obtain ⟨bundle, created, -⟩ := FileTree.exists_create (jsonFile dumpManifest.fields) free
  rw [created, dumpOnly, created, Option.getD_some]

theorem lookup_dumpFrame : dumpOnly.lookup (segments dumpFile.payloadPath) = some dumpFrame := by
  have path : segments dumpFile.payloadPath = ["payload", "00000000.bin"] := by decide
  rw [path, FileTree.eq_of_create dumpOnly_created, if_neg (by decide),
    FileTree.lookup_create_empty, if_pos rfl]

theorem dumpOnly_manifest : @readBundleManifest jsonBundleManifest dumpOnly = .ok dumpManifest :=
  @readBundleManifest_packed jsonBundleManifest jsonBundleManifest_readBack _ _ _ _ _
    dumpOnly_created

/-- The dump is read with the key or without it. -/
theorem dumpFile_packed (key : List UInt8) :
    @Packed onlyTag emptySha256 dumpOnly (some key) ("database.dump", [1, 2, 3]) dumpFile := by
  let _ := onlyTag
  let _ := emptySha256
  refine ⟨rfl, rfl, by decide, dumpFrame, lookup_dumpFrame, fun reader use left known => ?_⟩
  have chunk := bundleChunkSizeBytes_eq
  have nothing : FramesReadBack key (List.replicate 8 7) "database.dump" 1 0 [] [] :=
    ⟨fun use reader rest read _ left => ⟨reader, left, by rw [readChunks]; simp⟩⟩
  have frames : FramesReadBack key (List.replicate 8 7) "database.dump" 0 1 ([1, 2, 3] ++ [])
      (toBeBytes dumpCiphertext.length ++ dumpCiphertext ++ []) := by
    refine nothing.cons ?_ (fun more => absurd more (Nat.lt_irrefl 0)) (by decide) rfl
    rw [chunk]
    decide
  obtain ⟨last, isLast, read⟩ := frames.reads use reader [] {} known
    (by rw [List.append_nil, List.append_nil, left, dumpFrame])
  have atEnd : (last.read 1).1 = [] := by
    rw [PartialReader.read, isLast]
    exact List.take_nil
  have positive : bundleChunkSizeBytes ≠ 0 := by
    rw [chunk]
    decide
  have sizes : dumpFrame.length = 23 := by decide
  rw [List.append_nil, List.append_nil, ← dumpFrame] at read
  have opened : readPayload reader use true dumpFile "database.dump" =
      .ok ⟨dumpFrame, 3, if use.isSome then [1, 2, 3] else []⟩ := by
    rw [readPayload, if_pos rfl]
    dsimp only [dumpFile]
    rw [standardDecode_base64Encode]
    dsimp only
    rw [if_neg (by decide), if_neg positive, read]
    show (if _ then _ else _) = _
    rw [if_neg (not_not.mpr atEnd)]
    cases use <;> rfl
  rw [processBundleFileV2]
  show (readPayload reader use true dumpFile "database.dump" >>= _) = _
  rw [opened]
  dsimp only [bind, Except.bind]
  rw [if_neg, if_neg, if_neg]
  · rcases known with rfl | rfl <;> rfl
  · exact fun differs => differs.2 rfl
  · exact fun differs => differs rfl
  · rw [sizes]
    exact fun differs => differs.elim (fun size => size rfl) fun hash => hash rfl

theorem dumpOnly_processed {use : Option String} (known : use = none ∨ use = some "12345678")
    (unpacks : Bool) (opens : unpacks = true → use = some "12345678") (reads : ReadSizes) :
    let _ := onlyTag
    let _ := emptySha256
    let _ := paddedKeys
    ∃ output, processBundleFilesV2 dumpOnly dumpManifest use unpacks reads =
        .ok (output, decide (use = some "12345678")) ∧
      (unpacks = true → output.lookup ["database.dump"] = some [1, 2, 3]) := by
  intro _ _ _
  obtain ⟨key, derived, isSome, -⟩ := @bundleKey_ok paddedKeys paddedKeys_ideal (some "12345678")
    (List.replicate 16 7) (by decide)
  obtain ⟨secret, rfl⟩ := Option.isSome_iff_exists.mp (isSome.trans rfl)
  obtain ⟨readKey, keyRead, isKnown, sameKey, checked⟩ :=
    @readKey_ok _ (some "12345678") use dumpManifest _ (some secret) ⟨rfl, rfl⟩ rfl derived rfl known
  obtain ⟨processed, folds, total, output⟩ := processFiles_ok isKnown
    (fun unpacked => sameKey (opens unpacked)) reads (.cons (dumpFile_packed secret) .nil) (by decide)
    (by decide) (List.pairwise_singleton _ _) (by decide) {} (by decide) (by decide) (by
      intro input _ path present
      rw [FileTree.lookup_empty] at present
      cases present)
  refine ⟨processed.output, ?_, fun unpacked =>
    (output unpacked _ _).mpr (Or.inl ⟨_, List.mem_singleton_self _, segments_dump, rfl⟩)⟩
  have long : tooShort use = false := by
    rcases known with rfl | rfl
    · rfl
    · decide
  have key : ¬(dumpManifest.encrypted = true ∧ unpacks = true ∧ readKey.isNone = true) := by
    rintro ⟨-, unpacked, none⟩
    rw [sameKey (opens unpacked)] at none
    cases none
  rw [processBundleFilesV2, long, keyRead, if_neg (by simp)]
  show (if _ then _ else _) = _
  rw [if_neg key]
  show (List.foldlM (processFile dumpOnly readKey (some secret).isSome unpacks reads) {} [dumpFile] >>=
    _) = _
  rw [folds]
  show (if _ then _ else _) = _
  have sameTotal : processed.totalSizeBytes = dumpManifest.totalSizeBytes := total
  rw [if_neg (not_not.mpr sameTotal), checked]

/-! ### Replicas -/

section Copying

variable [Aes256Gcm] [Sha256] [KeyDerivation] [BundleManifestText] {bundle : Directory}

/-- What is checked can be copied. -/
theorem copies_of_verify {password : Option String} {reads : ReadSizes}
    {report : BackupBundleVerificationReport}
    (sound : verifyBackupBundle bundle password reads = .ok report) :
    ∃ manifest, readBundleManifest bundle = .ok manifest ∧
      ∀ file ∈ manifest.files, Copies bundle file := by
  rw [verifyBackupBundle] at sound
  obtain ⟨manifest, read, checked⟩ := Except.bind_eq_ok.mp sound
  refine ⟨manifest, read, ?_⟩
  split at checked
  · obtain ⟨_, processed, -⟩ := Except.bind_eq_ok.mp checked
    rw [processBundleFilesV2] at processed
    split at processed
    · cases processed
    obtain ⟨key, -, processed⟩ := Except.bind_eq_ok.mp processed
    split at processed
    · cases processed
    obtain ⟨after, folds, -⟩ := Except.bind_eq_ok.mp processed
    refine List.forall_of_foldlM_ok (fun state file next step => ?_) folds
    obtain ⟨payload, plain, -, passes, -, found, -⟩ := processFile_eq_ok step
    exact ⟨passes, Option.isSome_of_eq_some found⟩
  · obtain ⟨_, processed, -⟩ := Except.bind_eq_ok.mp checked
    rw [readBundleFilesV1] at processed
    split at processed
    · cases processed
    obtain ⟨key, -, processed⟩ := Except.bind_eq_ok.mp processed
    obtain ⟨after, folds, -⟩ := Except.bind_eq_ok.mp processed
    refine List.forall_of_foldlM_ok (fun state file next step => ?_) folds
    obtain ⟨stored, _, passes, found, -⟩ := readFileV1_eq_ok step
    exact ⟨passes, Option.isSome_of_eq_some found⟩

/-- A bundle that stands its checks without a password is copied. The copy has its manifest and the
payloads that are listed, and nothing else; and it is checked and unpacked like the bundle, with any
password, however the reads fall. -/
theorem replica_is_as_good {report : BackupBundleVerificationReport} {reads : ReadSizes}
    (sound : verifyBackupBundle bundle none reads = .ok report) (others replicaReads : ReadSizes) :
    ∃ manifest replica, readBundleManifest bundle = .ok manifest ∧
      replicateBackupBundle bundle others replicaReads = .ok (replica, report) ∧
      (∀ path content, replica.lookup path = some content ↔
        manifest.Lists path ∧ bundle.lookup path = some content) ∧
      ∀ password reads others,
        verifyBackupBundle replica password reads = verifyBackupBundle bundle password others ∧
        unpackBackupBundle replica password reads = unpackBackupBundle bundle password others := by
  obtain ⟨manifest, read, copies⟩ := copies_of_verify sound
  have text : ∃ bytes, bundle.lookup ["manifest.json"] = some bytes := by
    cases found : bundle.lookup ["manifest.json"] with
    | some bytes => exact ⟨bytes, rfl⟩
    | none => rw [readBundleManifest, found] at read; cases read
  obtain ⟨bytes, found⟩ := text
  have empty : (FileTree.empty : Directory).Free ["manifest.json"] := by
    refine FileTree.free_iff.mpr fun other present => ?_
    rw [FileTree.lookup_empty] at present
    cases present
  obtain ⟨start, created, lookups⟩ := FileTree.exists_create bytes empty
  simp only [FileTree.lookup_empty] at lookups
  obtain ⟨replica, folds, contents⟩ := copyPayloads_ok copies start (by
    intro path content inStart
    rw [lookups] at inStart
    split at inStart
    · rename_i same
      rw [same, found, inStart]
    · cases inStart)
  have listed : ∀ path content, replica.lookup path = some content ↔
      manifest.Lists path ∧ bundle.lookup path = some content := by
    intro path content
    rw [contents, lookups, BundleManifest.Lists]
    by_cases same : path = ["manifest.json"]
    · subst same
      rw [if_pos rfl, found]
      simp
    · rw [if_neg same]
      simp [same]
  have listedOnly : ∀ path, manifest.Lists path → replica.lookup path = bundle.lookup path := by
    intro path isListed
    refine Option.ext fun content => ?_
    rw [listed]
    exact and_iff_right isListed
  have same : SameListed bundle replica := by
    refine ⟨(listedOnly _ (Or.inl rfl)).symm, fun other isRead file member => ?_⟩
    obtain rfl := Except.ok.inj (read.symm.trans isRead)
    exact (listedOnly _ (Or.inr ⟨file, member, rfl⟩)).symm
  refine ⟨manifest, replica, read, ?_, listed, fun password reads others =>
    ⟨(same.verify password others reads).symm, (same.unpack password others reads).symm⟩⟩
  have verified : verifyBackupBundle bundle none others = .ok report :=
    (SameListed.verify ⟨rfl, fun _ _ _ _ => rfl⟩ none others reads).trans sound
  have replicated : verifyBackupBundle replica none replicaReads = .ok report :=
    (same.verify none reads replicaReads).symm.trans sound
  rw [replicateBackupBundle, verified, read]
  simp only [Except.bind, bind, found, created]
  show (List.foldlM (copyPayload bundle) start manifest.files >>= _) = _
  rw [folds]
  show (verifyBackupBundle replica none replicaReads >>= _) = _
  rw [replicated]
  show (if _ then _ else _) = _
  rw [if_neg (by simp)]

end Copying

/-- The bundle with a dump is copied. -/
theorem dumpOnly_is_copied :
    let _ := onlyTag
    let _ := emptySha256
    let _ := paddedKeys
    let _ := jsonBundleManifest
    ∃ manifest replica, readBundleManifest dumpOnly = .ok manifest ∧
      replicateBackupBundle dumpOnly (fun _ _ => 1) (fun _ _ => 2) =
        .ok (replica, ⟨1, 3, true, false⟩) ∧
      (∀ path content, replica.lookup path = some content ↔
        manifest.Lists path ∧ dumpOnly.lookup path = some content) ∧
      ∀ password reads others,
        verifyBackupBundle replica password reads = verifyBackupBundle dumpOnly password others ∧
        unpackBackupBundle replica password reads = unpackBackupBundle dumpOnly password others := by
  intro _ _ _ _
  have sound : verifyBackupBundle dumpOnly none (fun _ _ => 0) = .ok ⟨1, 3, true, false⟩ := by
    obtain ⟨output, processed, -⟩ := dumpOnly_processed (Or.inl rfl) false nofun (fun _ _ => 0)
    rw [verifyBackupBundle, dumpOnly_manifest]
    dsimp only [bind, Except.bind]
    rw [if_pos (by decide), processed]
    rfl
  exact replica_is_as_good sound _ _

end Ledgerly
