/-
This file proves that a backup comes back from its file as it was written, from the plain
archive and from the encrypted one.

An encrypted archive holds the plain one. What is said of the encryption stands after what is
public, under names of its own, so that the parameters the key was derived with are read back and
the key is derived again.
-/

import Ledgerly.PlainArchive

namespace Ledgerly

/-! ### Keys and ciphers -/

/-- Parameters that the derivation of keys takes, with the fields that the algorithm does not use
at their defaults. -/
structure KdfParams.Sound (params : KdfParams) : Prop where
  costs : params.algorithm = kdfPbkdf2Sha256 ∧ 1 ≤ params.iterations ∧ params.parallelism = 1 ∨
    params.algorithm = kdfArgon2id ∧ 8 * max 1 params.parallelism ≤ max 8 params.memoryKb
  hashLength : params.hashLengthBytes = 32
  memory : 0 ≤ params.memoryKb

/-- The settings that the client has are sound. -/
theorem defaultKdfParams_sound (web : Bool) (salt : List UInt8) :
    ((BackupEncryption.mk kdfArgon2id 600000 (defaultArgon2MemoryKb web) 2 1).defaultKdfParams
      salt).Sound := by
  have memory : 8 ≤ defaultArgon2MemoryKb web := by cases web <;> decide
  refine ⟨Or.inr ⟨rfl, ?_⟩, rfl, (by decide : (0 : Int) ≤ 8).trans memory⟩
  show 8 * max 1 1 ≤ max 8 (defaultArgon2MemoryKb web)
  omega

namespace KdfParams

variable {params : KdfParams}

theorem wellFormed_toJson (params : KdfParams) : (Json.obj params.toJson).WellFormed := by
  have keys : (params.toJson.map Prod.fst).Sublist
      (["algorithm", "iterations", "salt", "hashLengthBytes"] ++
        (["memoryKb"] ++ ["parallelism"])) := by
    simp only [toJson, List.map_append]
    exact (List.Sublist.refl _).append ((keys_optionalField _ _).append (keys_optionalField _ _))
  have number : ∀ {condition : Prop} [Decidable condition] (value : Int),
      ∀ found ∈ (if condition then some (Json.ofInt value) else none), found.WellFormed := by
    intro condition _ value found isThere
    split at isThere
    · obtain rfl := Option.some.inj isThere
      exact Json.wellFormed_ofInt value
    · cases isThere
  refine ⟨List.Nodup.sublist keys (by decide), ?_⟩
  exact wellFormedFields_append
    ⟨trivial, Json.wellFormed_ofInt _, trivial, Json.wellFormed_ofInt _, trivial⟩
    (wellFormedFields_append (wellFormedFields_optionalField _ (number _))
      (wellFormedFields_optionalField _ (number _)))

/-- The parameters that are read back are those that were written. -/
theorem Sound.fromJson_toJson [DoubleText] (sound : params.Sound) :
    fromJson params.toJson = .ok params := by
  have algorithm : stringField params.toJson "algorithm" = .ok (some params.algorithm) :=
    stringField_eq rfl
  have iterations : intField params.toJson "iterations" = .ok (some params.iterations) :=
    intField_eq rfl
  have salt : textField params.toJson "salt" = some (base64Encode params.salt) := textField_eq rfl
  have hashLength : intField params.toJson "hashLengthBytes" = .ok (some params.hashLengthBytes) :=
    intField_eq rfl
  have memory : ∃ field, intField params.toJson "memoryKb" = .ok field ∧
      field.getD 0 = params.memoryKb := by
    have field : params.toJson.lookup "memoryKb" =
        if 0 < params.memoryKb then some (.ofInt params.memoryKb) else none := by
      simp [toJson, List.lookup_cons, lookup_optionalField_append, lookup_optionalField]
    by_cases positive : 0 < params.memoryKb
    · rw [if_pos positive] at field
      exact ⟨_, intField_eq field, rfl⟩
    · rw [if_neg positive] at field
      exact ⟨_, intField_eq_none field, Int.le_antisymm sound.memory (Int.not_lt.mp positive)⟩
  have parallelism : ∃ field, intField params.toJson "parallelism" = .ok field ∧
      field.getD 1 = params.parallelism := by
    have field : params.toJson.lookup "parallelism" =
        if params.algorithm = kdfArgon2id then some (.ofInt params.parallelism) else none := by
      simp [toJson, List.lookup_cons, lookup_optionalField_append, lookup_optionalField]
    obtain ⟨isPbkdf2, -, unused⟩ | ⟨isArgon2id, -⟩ := sound.costs
    · rw [isPbkdf2, if_neg (by decide)] at field
      exact ⟨_, intField_eq_none field, unused.symm⟩
    · rw [if_pos isArgon2id] at field
      exact ⟨_, intField_eq field, rfl⟩
  obtain ⟨memoryField, memoryRead, memorySame⟩ := memory
  obtain ⟨parallelismField, parallelismRead, parallelismSame⟩ := parallelism
  simp only [fromJson, algorithm, iterations, salt, hashLength, memoryRead, parallelismRead,
    base64Decode_base64Encode, bind, Except.bind, Option.getD_some, memorySame, parallelismSame]
  rfl

/-- There is a key for every password. -/
theorem Sound.deriveKey [KeyDerivation] (derivation : IdealDerivation) (sound : params.Sound)
    (password : String) :
    ∃ key, Ledgerly.deriveKey password params = .ok key ∧ key.length = 32 := by
  have atLeast : ∀ bound value : Int, (if value < bound then bound else value) = max bound value := by
    intro bound value
    split <;> omega
  obtain ⟨isPbkdf2, positive, -⟩ | ⟨isArgon2id, memory⟩ := sound.costs
  · obtain ⟨key, derived, length⟩ :=
      derivation.pbkdf2 params.iterations (utf8Encode password) params.salt positive
    refine ⟨key, ?_, length⟩
    rw [Ledgerly.deriveKey, if_pos isPbkdf2, sound.hashLength, derived]
    rfl
  · obtain ⟨key, derived, length⟩ := derivation.argon2id (max 1 params.parallelism)
      (max 8 params.memoryKb) (max 1 params.iterations) (utf8Encode password) params.salt
      (le_max_left _ _) memory (le_max_left _ _)
    refine ⟨key, ?_, length⟩
    rw [Ledgerly.deriveKey, isArgon2id, if_neg (by decide), if_pos rfl, atLeast, atLeast, atLeast,
      sound.hashLength, derived]
    rfl

end KdfParams

/-- An encrypted text is decrypted with the same password, and its envelope says all there is to
know for that. -/
theorem BackupEncryption.decrypt_encrypt [KeyDerivation] [AesGcm] [Sha256] (cipher : IdealCipher)
    (derivation : IdealDerivation) (encryption : BackupEncryption) (random : Nat → UInt8)
    (plaintext : List UInt8) {password : String} (long : 8 ≤ utf16Length password)
    (kdfParams : Option KdfParams) (publicMetadata : List (String × Json)) {params : KdfParams}
    (used : params = kdfParams.getD (encryption.defaultKdfParams (drawnSalt random)))
    (sound : params.Sound) :
    ∃ payload, encryption.encrypt random plaintext password kdfParams publicMetadata =
        .ok payload ∧
      payload.kdf = params ∧
      payload.envelopeJson = jsonFile
        (encryptedEnvelope publicMetadata params payload.nonce payload.authTag plaintext) ∧
      payload.plaintextSize = plaintext.length ∧
      payload.plaintextSha256Hex = Sha256.hex plaintext ∧
      decrypt payload password = .ok plaintext := by
  obtain ⟨key, derived, keyLength⟩ := sound.deriveKey derivation password
  have nonceLength : (drawnNonce random).length = 12 := by
    rw [drawnNonce, List.length_map, List.length_range]
  obtain ⟨ciphertext, authTag, encrypted, decrypted⟩ :=
    cipher plaintext key (drawnNonce random) keyLength nonceLength
  refine ⟨⟨jsonFile (encryptedEnvelope publicMetadata params (drawnNonce random) authTag plaintext),
    ciphertext, params, drawnNonce random, authTag, plaintext.length, Sha256.hex plaintext⟩, ?_,
    rfl, rfl, rfl, rfl, ?_⟩
  · rw [encrypt, if_neg (Nat.not_lt.mpr long), ← used]
    simp only [derived, bind, Except.bind, encrypted]
    rfl
  · simp only [decrypt, derived, bind, Except.bind, decrypted, ne_eq, not_true_eq_false, ↓reduceIte]
    rfl

/-! ### The encrypted archive -/

theorem keys_publicMetadata (document : BackupDocument) (exportedAt deviceId : String) :
    ((publicMetadata document exportedAt deviceId).map Prod.fst).Sublist
      (["exportedAt", "deviceId", "summary"] ++ (["bookIds"] ++ ["attachmentIndex"])) := by
  simp only [publicMetadata, List.map_append]
  exact (List.Sublist.refl _).append ((keys_optionalField _ _).append (keys_optionalField _ _))

section Envelopes

variable [Sha256] {document : BackupDocument} {params : KdfParams}
  (exportedAt deviceId : String) (nonce authTag plaintext : List UInt8)

/-- What is public is read from the envelope as it was written. -/
theorem lookup_encryptedEnvelope {metadata : List (String × Json)} {key : String}
    (isPublic : key ∉ ["kind", "schemaVersion", "encryption"]) :
    (encryptedEnvelope metadata params nonce authTag plaintext).lookup key =
      metadata.lookup key := by
  simp only [List.mem_cons, List.not_mem_nil, or_false, not_or] at isPublic
  obtain ⟨notKind, notVersion, notEncryption⟩ := isPublic
  rw [encryptedEnvelope, Json.lookup_insertField_of_ne _ _ _ _ notEncryption,
    Json.lookup_insertField_of_ne _ _ _ _ notVersion,
    Json.lookup_insertField_of_ne _ _ _ _ notKind]

/-- What is said of the encryption stands after what is public. -/
theorem encryptedEnvelope_eq :
    encryptedEnvelope (publicMetadata document exportedAt deviceId) params nonce authTag plaintext =
      publicMetadata document exportedAt deviceId ++
        [("kind", .str "ledgerly-backup-encrypted"),
          ("schemaVersion", .ofInt encryptedBackupSchemaVersion),
          ("encryption", .obj (encryptionJson params nonce authTag plaintext))] := by
  have absent : ∀ {key : String}, key ∉ ["exportedAt", "deviceId", "summary", "bookIds",
      "attachmentIndex"] → key ∉ (publicMetadata document exportedAt deviceId).map Prod.fst :=
    fun outside member =>
      outside ((keys_publicMetadata document exportedAt deviceId).subset member)
  have absentAfter : ∀ {key : String} {rest : List (String × Json)},
      key ∉ ["exportedAt", "deviceId", "summary", "bookIds", "attachmentIndex"] →
      key ∉ rest.map Prod.fst →
      key ∉ (publicMetadata document exportedAt deviceId ++ rest).map Prod.fst := by
    intro key rest outside notThere
    rw [List.map_append, List.mem_append, not_or]
    exact ⟨absent outside, notThere⟩
  rw [encryptedEnvelope, Json.insertField_of_notMem _ (absent (by decide)),
    Json.insertField_of_notMem _ (absentAfter (by decide) (by decide)), List.append_assoc,
    Json.insertField_of_notMem _ (absentAfter (by decide) (by decide)), List.append_assoc]
  rfl

theorem BackupDocument.Proper.wellFormed_encryptedEnvelope (proper : document.Proper) :
    (Json.obj (encryptedEnvelope (publicMetadata document exportedAt deviceId) params nonce authTag
      plaintext)).WellFormed := by
  have encryption : (Json.obj (encryptionJson params nonce authTag plaintext)).WellFormed :=
    ⟨by show List.Nodup ["kdf", "cipher", "nonce", "authTag", "plaintextSize", "plaintextSha256"]
        decide,
      KdfParams.wellFormed_toJson params, trivial, trivial, trivial, Json.wellFormed_ofInt _,
      trivial, trivial⟩
  rw [encryptedEnvelope_eq]
  refine ⟨?_, ?_⟩
  · rw [List.map_append]
    exact List.Nodup.sublist ((keys_publicMetadata document exportedAt deviceId).append
      (List.Sublist.refl ["kind", "schemaVersion", "encryption"])) (by decide)
  · exact wellFormedFields_append
      (wellFormedFields_append ⟨trivial, trivial, document.summary.wellFormed_toJson, trivial⟩
        (wellFormedFields_append (wellFormedFields_optionalField _ (wellFormed_bookIdsField _))
          (wellFormedFields_optionalField _ (wellFormed_attachmentIndexField proper.attachmentIndex))))
      ⟨trivial, Json.wellFormed_ofInt _, encryption, trivial⟩

variable [DoubleText]

/-- The encrypted payload that is read is the one that was written. -/
theorem readEncrypted_eq {payload : EncryptedPayload} (sound : params.Sound)
    (kdf : payload.kdf = params) (size : payload.plaintextSize = plaintext.length)
    (digest : payload.plaintextSha256Hex = Sha256.hex plaintext) :
    readEncrypted (encryptedEnvelope (publicMetadata document exportedAt deviceId) params
      payload.nonce payload.authTag plaintext) payload.envelopeJson payload.ciphertext =
        .ok payload := by
  obtain ⟨envelopeJson, ciphertext, used, nonce, authTag, _, _⟩ := payload
  obtain rfl : used = params := kdf
  subst size digest
  have encryption : mapField (encryptedEnvelope (publicMetadata document exportedAt deviceId) used
      nonce authTag plaintext) "encryption" = some (encryptionJson used nonce authTag plaintext) := by
    refine mapField_eq ?_
    rw [encryptedEnvelope]
    exact Json.lookup_insertField_self _ _ _
  have kdf : mapField (encryptionJson used nonce authTag plaintext) "kdf" = some used.toJson :=
    mapField_eq rfl
  have cipher : stringField (encryptionJson used nonce authTag plaintext) "cipher" =
      .ok (some "aes-256-gcm") := stringField_eq rfl
  have nonceField : textField (encryptionJson used nonce authTag plaintext) "nonce" =
      some (base64Encode nonce) := textField_eq rfl
  have tagField : textField (encryptionJson used nonce authTag plaintext) "authTag" =
      some (base64Encode authTag) := textField_eq rfl
  have size : intField (encryptionJson used nonce authTag plaintext) "plaintextSize" =
      .ok (some (plaintext.length : Int)) := intField_eq rfl
  have digest : stringField (encryptionJson used nonce authTag plaintext) "plaintextSha256" =
      .ok (some (Sha256.hex plaintext)) := stringField_eq rfl
  simp only [readEncrypted, encryption, required, bind, Except.bind, kdf, sound.fromJson_toJson,
    cipher, Option.getD_some, ne_eq, not_true_eq_false, ↓reduceIte, nonceField, tagField, size,
    digest, base64Decode_base64Encode]
  rfl

theorem readSummary_eq :
    readSummary (encryptedEnvelope (publicMetadata document exportedAt deviceId) params nonce
      authTag plaintext) = .ok document.summary := by
  have field : mapField (encryptedEnvelope (publicMetadata document exportedAt deviceId) params
      nonce authTag plaintext) "summary" = some document.summary.toJson :=
    mapField_eq (lookup_encryptedEnvelope nonce authTag plaintext (by decide))
  rw [readSummary, field]
  exact BackupSummary.fromJson_toJson document.summary

/-- What is known of a document without its password. -/
def lockedShell (document : BackupDocument) (payload : EncryptedPayload) : EncryptedDocument where
  summary := document.summary
  payload := []
  bookIds := document.bookIds
  attachmentIndex := document.attachmentIndex
  encrypted := some payload
  schemaVersion := encryptedBackupSchemaVersion

/-- An encrypted archive is opened with a password, or stays locked without one. -/
theorem BackupDocument.Proper.decodeEncryptedZip_eq [ZipCodec] [KeyDerivation] [AesGcm]
    (proper : document.Proper) (sound : params.Sound) {payload : EncryptedPayload}
    (kdf : payload.kdf = params)
    (envelope : payload.envelopeJson = jsonFile (encryptedEnvelope
      (publicMetadata document exportedAt deviceId) params payload.nonce payload.authTag plaintext))
    (size : payload.plaintextSize = plaintext.length)
    (digest : payload.plaintextSha256Hex = Sha256.hex plaintext) (password : Option String) :
    decodeEncryptedZip
        [("envelope.json", payload.envelopeJson), ("payload.enc", payload.ciphertext)] password =
      match password.filter (· ≠ "") with
      | some password => do
        let plaintext ← decrypt payload password
        let document ← decodeZipBytes plaintext
        return { toBackupDocument := document }
      | none => .ok (lockedShell document payload) := by
  have envelopeFile : fileNamed
      [("envelope.json", payload.envelopeJson), ("payload.enc", payload.ciphertext)]
      "envelope.json" "加密备份缺少 envelope.json" = .ok payload.envelopeJson := rfl
  have payloadFile : fileNamed
      [("envelope.json", payload.envelopeJson), ("payload.enc", payload.ciphertext)]
      "payload.enc" "加密备份缺少 payload.enc" = .ok payload.ciphertext := rfl
  have text : ∀ unreadable noMap, readJsonFile payload.envelopeJson unreadable noMap =
      .ok (encryptedEnvelope (publicMetadata document exportedAt deviceId) params payload.nonce
        payload.authTag plaintext) := by
    intro unreadable noMap
    rw [envelope]
    exact readJsonFile_jsonFile (proper.wellFormed_encryptedEnvelope exportedAt deviceId _ _ _) _ _
  have kind : textField (encryptedEnvelope (publicMetadata document exportedAt deviceId) params
      payload.nonce payload.authTag plaintext) "kind" = some "ledgerly-backup-encrypted" := by
    refine textField_eq ?_
    rw [encryptedEnvelope, Json.lookup_insertField_of_ne _ _ _ _ (by decide),
      Json.lookup_insertField_of_ne _ _ _ _ (by decide), Json.lookup_insertField_self]
  have bookIds : readBookIds (encryptedEnvelope (publicMetadata document exportedAt deviceId) params
      payload.nonce payload.authTag plaintext) = document.bookIds := by
    refine readBookIds_eq ?_
    rw [lookup_encryptedEnvelope _ _ _ (by decide)]
    simp [publicMetadata, List.lookup_cons, lookup_optionalField_append, lookup_optionalField]
  have index : readAttachmentIndex (encryptedEnvelope (publicMetadata document exportedAt deviceId)
      params payload.nonce payload.authTag plaintext) = document.attachmentIndex := by
    refine readAttachmentIndex_eq ?_
    rw [lookup_encryptedEnvelope _ _ _ (by decide)]
    simp [publicMetadata, List.lookup_cons, lookup_optionalField_append, lookup_optionalField]
  simp only [decodeEncryptedZip, envelopeFile, payloadFile, text, kind, bind, Except.bind, ne_eq,
    not_true_eq_false, ↓reduceIte, readEncrypted_eq exportedAt deviceId plaintext sound kdf size
      digest, readSummary_eq, bookIds, index]
  rfl

end Envelopes

/-! ### The round trip -/

section RoundTrip

variable [ZipCodec] [KeyDerivation] [AesGcm] [Sha256] [DoubleText] {document : BackupDocument}

/-- A plain archive is no encrypted one, whatever password there is. -/
theorem decodeOuterZip_plain {exportedAt deviceId : String} {bytes : List UInt8}
    (read : ZipCodec.decodeBytes bytes = some (archiveFiles document exportedAt deviceId))
    (decoded : decodeZipBytes bytes = .ok document) (password : Option String) :
    decodeOuterZip bytes password = .ok { toBackupDocument := document } := by
  have noEnvelope : (archiveFiles document exportedAt deviceId).lookup "envelope.json" = none :=
    BackupDocument.lookup_attachments document rfl
  have manifest : (archiveFiles document exportedAt deviceId).lookup "manifest.json" =
      some (jsonFile (document.toEnvelope exportedAt deviceId)) := rfl
  simp only [decodeOuterZip, read, noEnvelope, manifest, Option.isSome_none, Option.isNone_some,
    Bool.false_eq_true, ↓reduceIte, decoded, bind, Except.bind]
  rfl

/-- An encrypted document is opened with its password, in one step or in two. -/
theorem BackupDocument.Proper.encrypted_opens (zip : IdealZip) (cipher : IdealCipher)
    (derivation : IdealDerivation) (proper : document.Proper) (encryption : BackupEncryption)
    (random : Nat → UInt8) (kdfParams : Option KdfParams) {password : String}
    (long : 8 ≤ utf16Length password)
    (sound : (kdfParams.getD (encryption.defaultKdfParams (drawnSalt random))).Sound)
    (zippedAt exportedAt deviceId : String) :
    ∃ payload bytes,
      encryptDocument encryption random document password kdfParams zippedAt exportedAt deviceId =
        .ok { toBackupDocument := document, encrypted := some payload } ∧
      buildEncryptedZipBytes { toBackupDocument := document, encrypted := some payload } =
        .ok bytes ∧
      payload.kdf = kdfParams.getD (encryption.defaultKdfParams (drawnSalt random)) ∧
      decodeOuterZip bytes none = .ok (lockedShell document payload) ∧
      unwrapEncrypted (lockedShell document payload) (some password) = .ok document ∧
      decodeOuterZip bytes (some password) = .ok { toBackupDocument := document } := by
  obtain ⟨plain, built, -, decoded⟩ := proper.plain_round_trip zip zippedAt deviceId
  obtain ⟨payload, encrypted, kdf, envelope, size, digest, decrypted⟩ :=
    encryption.decrypt_encrypt cipher derivation random plain long kdfParams
      (publicMetadata document exportedAt deviceId) rfl sound
  obtain ⟨bytes, written, outer⟩ := zip
    [("envelope.json", payload.envelopeJson), ("payload.enc", payload.ciphertext)]
    (by show List.Nodup ["envelope.json", "payload.enc"]; decide)
  have nonempty : (some password).filter (· ≠ "") = some password := by
    refine Option.filter_eq_some_iff.mpr ⟨rfl, decide_eq_true ?_⟩
    rintro rfl
    exact absurd long (by decide)
  have opened : ∀ given : Option String, decodeOuterZip bytes given = decodeEncryptedZip
      [("envelope.json", payload.envelopeJson), ("payload.enc", payload.ciphertext)] given := by
    intro given
    rw [decodeOuterZip, outer]
    rfl
  have unlocks := proper.decodeEncryptedZip_eq exportedAt deviceId plain sound kdf envelope size digest
  refine ⟨payload, bytes, ?_, ?_, kdf, ?_, ?_, ?_⟩
  · simp only [encryptDocument, built, bind, Except.bind, encrypted]
    rfl
  · simp only [buildEncryptedZipBytes, written]
    rfl
  · rw [opened, unlocks]
    rfl
  · simp only [unwrapEncrypted, lockedShell, nonempty, decrypted, bind, Except.bind, decoded]
  · rw [opened, unlocks, nonempty]
    simp only [decrypted, bind, Except.bind, decoded]
    rfl

/-- A document comes back from its plain archive. Encrypted with a password of eight UTF-16 units
at least, it comes back from its encrypted archive with that password, in one step or in two, and
the archive gives away what is public and the parameters that the key was derived with. -/
theorem backup_file_round_trip (zip : IdealZip) (cipher : IdealCipher)
    (derivation : IdealDerivation) (proper : document.Proper)
    (zippedAt exportedAt deviceId : String) :
    (∃ bytes, buildZipBytes document zippedAt deviceId = .ok bytes ∧
      decodeZipBytes bytes = .ok document ∧
      ∀ password, decodeOuterZip bytes password = .ok { toBackupDocument := document }) ∧
    ∀ (encryption : BackupEncryption) (random : Nat → UInt8) (kdfParams : Option KdfParams)
      (password : String), 8 ≤ utf16Length password →
      (kdfParams.getD (encryption.defaultKdfParams (drawnSalt random))).Sound →
      ∃ payload bytes,
        encryptDocument encryption random document password kdfParams zippedAt exportedAt deviceId =
          .ok { toBackupDocument := document, encrypted := some payload } ∧
        buildEncryptedZipBytes { toBackupDocument := document, encrypted := some payload } =
          .ok bytes ∧
        payload.kdf = kdfParams.getD (encryption.defaultKdfParams (drawnSalt random)) ∧
        decodeOuterZip bytes none = .ok (lockedShell document payload) ∧
        unwrapEncrypted (lockedShell document payload) (some password) = .ok document ∧
        decodeOuterZip bytes (some password) = .ok { toBackupDocument := document } := by
  obtain ⟨plain, built, read, decoded⟩ := proper.plain_round_trip zip zippedAt deviceId
  refine ⟨⟨plain, built, decoded, decodeOuterZip_plain read decoded⟩, ?_⟩
  intro encryption random kdfParams password long sound
  exact proper.encrypted_opens zip cipher derivation encryption random kdfParams long sound zippedAt
    exportedAt deviceId

end RoundTrip

/-! ### An incremental with a receipt -/

/-- A file of a JSON archive. -/
def fileOfItem : Json → Option (String × List UInt8)
  | .arr [.str name, .str content] => (Base64.decode content.toList).map fun bytes => (name, bytes)
  | _ => none

/-- An archive format for want of the real one: the names and the contents as JSON. -/
@[reducible] def jsonArchive : ZipCodec where
  encode files := some (utf8Encode (Json.jsonEncode
    (.arr (files.map fun file => .arr [.str file.1, .str (base64Encode file.2)]))))
  decodeBytes bytes :=
    ((utf8Decode bytes).bind Json.jsonDecode).bind fun archive =>
      archive.asArray?.map fun items => items.filterMap fileOfItem

theorem jsonArchive_ideal : @IdealZip jsonArchive := by
  intro files _
  refine ⟨_, rfl, ?_⟩
  have wellFormed : (Json.arr (files.map fun file =>
      .arr [.str file.1, .str (base64Encode file.2)])).WellFormed := by
    rw [Json.WellFormed, Json.wellFormedItems_iff]
    intro item member
    obtain ⟨file, -, rfl⟩ := List.mem_map.mp member
    exact ⟨trivial, trivial, trivial⟩
  have plain : (Json.jsonEncode (.arr (files.map fun file =>
      .arr [.str file.1, .str (base64Encode file.2)]))).toList.head? ≠
        some (Char.ofNat 0xFEFF) := by
    rw [Json.jsonEncode, String.toList_ofList, Json.characters]
    show some '[' ≠ some (Char.ofNat 0xFEFF)
    decide
  show ((utf8Decode (utf8Encode _)).bind Json.jsonDecode).bind _ = _
  rw [utf8Decode_utf8Encode plain, Option.bind_some, Json.jsonDecode_jsonEncode wellFormed]
  show some ((files.map _).filterMap fileOfItem) = _
  rw [List.filterMap_map]
  refine congrArg some ((List.filterMap_congr fun file _ => ?_).trans List.filterMap_some)
  show (Base64.decode (String.ofList (Base64.encode file.2)).toList).map _ = _
  rw [String.toList_ofList, Base64.decode_encode]
  rfl

/-- A stand-in for the cipher: it hides nothing, and its tag protects nothing. -/
@[reducible] def openCipher : AesGcm where
  encrypt plaintext _ _ := some (plaintext, List.replicate 16 0)
  decrypt cipherText _ _ _ := some cipherText

theorem openCipher_ideal : @IdealCipher openCipher :=
  fun plaintext _ _ _ _ => ⟨plaintext, _, rfl, rfl⟩

/-- A stand-in for the derivation of keys: the secret and the salt, filled up. -/
@[reducible] def paddedKeys : KeyDerivation where
  pbkdf2 _ bits secretKey nonce :=
    some ((secretKey ++ nonce ++ List.replicate (bits / 8).toNat 0).take (bits / 8).toNat)
  argon2id _ _ _ hashLength secretKey nonce :=
    some ((secretKey ++ nonce ++ List.replicate hashLength.toNat 0).take hashLength.toNat)

theorem paddedKeys_ideal : @IdealDerivation paddedKeys := by
  have length : ∀ bytes : List UInt8, ((bytes ++ List.replicate 32 0).take 32).length = 32 := by
    intro bytes
    rw [List.length_take, List.length_append, List.length_replicate]
    omega
  exact @IdealDerivation.mk paddedKeys (fun _ secretKey nonce _ => ⟨_, rfl, length _⟩)
    fun _ _ _ secretKey nonce _ _ _ => ⟨_, rfl, length _⟩

/-- A stand-in that reads no number as a double; the documents of the examples have none. -/
@[reducible] def noDoubles : DoubleText where
  toInt _ := none

/-- An incremental of one book, with the receipt of a lunch. -/
def lunchBackup : BackupDocument where
  summary := ⟨1, 2, 1, 2, 0, 0, 1, 0⟩
  payload := [("books", .arr [.obj [("id", .str "home"), ("sortOrder", .num "-1.5e+3")]]),
    ("transactions", .arr [])]
  bookIds := some {"home"}
  attachmentIndex := [[("id", .str "receipt"), ("sizeBytes", .num "2")]]
  attachmentBinaries := [⟨"receipt", [0x25, 0x50]⟩]
  schemaVersion := 3
  backupId := some "delta"
  baseBackupId := some "full"
  deleted := [("accounts", ["cash"]), ("budgets", [])]

theorem lunchBackup_proper : lunchBackup.Proper where
  payload := by
    have number : Json.isNumber "-1.5e+3".toList = true := by decide
    exact ⟨by decide, ⟨⟨by decide, trivial, number, trivial⟩, trivial⟩, trivial, trivial⟩
  attachmentIndex := by
    intro row member
    obtain rfl := List.mem_singleton.mp member
    have number : Json.isNumber "2".toList = true := by decide
    exact ⟨by decide, trivial, number, trivial⟩
  deleted := by decide
  attachments := by decide
  oldest := by decide
  newest := by decide

theorem lunchBackup_comes_back :
    let _ := jsonArchive
    let _ := openCipher
    let _ := paddedKeys
    let _ := emptySha256
    let _ := noDoubles
    (∃ bytes, buildZipBytes lunchBackup "2026-11-19T10:00:00Z" "phone" = .ok bytes ∧
      decodeZipBytes bytes = .ok lunchBackup ∧
      ∀ password, decodeOuterZip bytes password = .ok { toBackupDocument := lunchBackup }) ∧
    ∃ payload bytes,
      encryptDocument ⟨kdfArgon2id, 600000, defaultArgon2MemoryKb false, 2, 1⟩ (fun _ => 7)
        lunchBackup "12345678" none "2026-11-19T10:00:00Z" "2026-11-19T10:00:01Z" "phone" =
          .ok { toBackupDocument := lunchBackup, encrypted := some payload } ∧
      buildEncryptedZipBytes { toBackupDocument := lunchBackup, encrypted := some payload } =
        .ok bytes ∧
      payload.kdf = ⟨kdfArgon2id, 2, List.replicate 16 7, 32, 19456, 1⟩ ∧
      decodeOuterZip bytes none = .ok (lockedShell lunchBackup payload) ∧
      unwrapEncrypted (lockedShell lunchBackup payload) (some "12345678") = .ok lunchBackup ∧
      decodeOuterZip bytes (some "12345678") = .ok { toBackupDocument := lunchBackup } := by
  intro _ _ _ _ _
  have trip := backup_file_round_trip jsonArchive_ideal openCipher_ideal paddedKeys_ideal
    lunchBackup_proper "2026-11-19T10:00:00Z" "2026-11-19T10:00:01Z" "phone"
  exact ⟨trip.1, trip.2 ⟨kdfArgon2id, 600000, defaultArgon2MemoryKb false, 2, 1⟩ (fun _ => 7) none
    "12345678" (by decide) (defaultKdfParams_sound false _)⟩

end Ledgerly
