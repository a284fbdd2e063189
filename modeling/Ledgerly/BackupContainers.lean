/-
This file models the files of backups of the client: the envelope of a document, the plain
archive with its manifest, its payload and its attachments, and the encrypted archive that holds
a plain one. Most fields of an envelope are written only if there is something to write, and
read with a default for what is not there.

The archive format, the cipher and the derivation of keys are parameters; what is asked of them
is stated beside each. Where the text of an error ends with that of an error of a library, that
end is left out.
-/

import Ledgerly.IncrementalBackup
import Ledgerly.JsonReader
import Ledgerly.Categories
import Ledgerly.Library.Base64
import Mathlib.Data.Finset.Sort
import Mathlib.Data.String.Basic

namespace Ledgerly

/-! ### The libraries -/

/-- `ZipEncoder` over an archive that the files were added to in this order, and `ZipDecoder`.
There is no file for bytes that are not an archive. -/
class ZipCodec where
  encode : List (String × List UInt8) → Option (List UInt8)
  decodeBytes : List UInt8 → Option (List (String × List UInt8))

/-- Files of distinct names come back as they were added. -/
def IdealZip [ZipCodec] : Prop :=
  ∀ files : List (String × List UInt8), (files.map Prod.fst).Nodup →
    ∃ bytes, ZipCodec.encode files = some bytes ∧ ZipCodec.decodeBytes bytes = some files

/-- `AesGcm.with256bits()`: the cipher text with its tag, and the plain text of a cipher text
whose tag is right. -/
class AesGcm where
  encrypt : (plaintext secretKey nonce : List UInt8) → Option (List UInt8 × List UInt8)
  decrypt : (cipherText nonce mac secretKey : List UInt8) → Option (List UInt8)

/-- What is encrypted under a key of 32 bytes with a nonce of 12 bytes is decrypted. -/
def IdealCipher [AesGcm] : Prop :=
  ∀ plaintext secretKey nonce : List UInt8, secretKey.length = 32 → nonce.length = 12 →
    ∃ cipherText mac, AesGcm.encrypt plaintext secretKey nonce = some (cipherText, mac) ∧
      AesGcm.decrypt cipherText nonce mac secretKey = some plaintext

/-- `Pbkdf2` with HMAC-SHA-256 and `Argon2id`: the key of a secret and a salt. -/
class KeyDerivation where
  pbkdf2 : (iterations bits : Int) → (secretKey nonce : List UInt8) → Option (List UInt8)
  argon2id : (parallelism memory iterations hashLength : Int) →
    (secretKey nonce : List UInt8) → Option (List UInt8)

/-- There is a key of 32 bytes for every secret and salt, where the costs are positive and the
memory has eight blocks a lane. -/
structure IdealDerivation [KeyDerivation] : Prop where
  pbkdf2 : ∀ (iterations : Int) (secretKey nonce : List UInt8), 1 ≤ iterations →
    ∃ key, KeyDerivation.pbkdf2 iterations (32 * 8) secretKey nonce = some key ∧ key.length = 32
  argon2id : ∀ (parallelism memory iterations : Int) (secretKey nonce : List UInt8),
    1 ≤ parallelism → 8 * parallelism ≤ memory → 1 ≤ iterations →
    ∃ key, KeyDerivation.argon2id parallelism memory iterations 32 secretKey nonce = some key ∧
      key.length = 32

/-- `double.toInt` for the number of a text that is not an integer's. -/
class DoubleText where
  toInt : String → Option Int

/-- `utf8.encode`. -/
def utf8Encode (text : String) : List UInt8 := text.toUTF8.data.toList

/-- `utf8.decode`: a byte order mark at the head goes. -/
def utf8Decode (bytes : List UInt8) : Option String :=
  (String.fromUTF8? ⟨bytes.toArray⟩).map fun text =>
    if text.toList.head? = some (Char.ofNat 0xFEFF) then String.ofList text.toList.tail else text

/-- A value that must be there. -/
def required {Value : Type} (value : Option Value) (missing : BackupError) :
    Except BackupError Value :=
  match value with
  | none => .error missing
  | some value => .ok value

/-- `base64Encode`, as a text. -/
def base64Encode (bytes : List UInt8) : String := String.ofList (Base64.encode bytes)

/-- `base64Decode`, which throws on a text that is not in order. -/
def base64Decode (text : String) : Except BackupError (List UInt8) :=
  required (Base64.decode text.toList) "FormatException"

/-! ### Fields of maps -/

/-- A field that is written if there is a value. -/
def optionalField (key : String) (value : Option Json) : List (String × Json) :=
  value.toList.map fun value => (key, value)

/-- A list that is written if it has items. -/
def nonemptyItems (items : List Json) : Option Json :=
  if items.isEmpty then none else some (.arr items)

/-- `(json[key] as num?)?.toInt()`. The clamping of integers beyond 64 bits, which no row of a device
holds, is left out: they are read as they stand. -/
def intField [DoubleText] (json : List (String × Json)) (key : String) :
    Except BackupError (Option Int) :=
  match json.lookup key with
  | none | some .null => .ok none
  | some (.num literal) =>
    match (decimalInt literal).or (DoubleText.toInt literal) with
    | some value => .ok (some value)
    | none => .error "UnsupportedError"
  | some _ => .error "TypeError"

/-- `json[key] as String?`. -/
def stringField (json : List (String × Json)) (key : String) :
    Except BackupError (Option String) :=
  match json.lookup key with
  | none | some .null => .ok none
  | some (.str value) => .ok (some value)
  | some _ => .error "TypeError"

mutual

/-- The text of a value within a text. -/
def Json.interpolated : Json → String
  | .null => "null"
  | .bool value => if value then "true" else "false"
  | .num literal => literal
  | .str value => value
  | .arr items => "[" ++ Json.interpolatedItems items ++ "]"
  | .obj fields => "\x7b" ++ Json.interpolatedFields fields ++ "\x7d"

/-- The items of a list as Dart prints them, -/
def Json.interpolatedItems : List Json → String
  | [] => ""
  | [item] => item.interpolated
  | item :: rest => item.interpolated ++ ", " ++ Json.interpolatedItems rest

/-- and the fields of an object. -/
def Json.interpolatedFields : List (String × Json) → String
  | [] => ""
  | [(name, value)] => name ++ ": " ++ value.interpolated
  | (name, value) :: rest => name ++ ": " ++ value.interpolated ++ ", " ++ Json.interpolatedFields rest

end

/-- The text of a field within a text. -/
def fieldText (json : List (String × Json)) (key : String) : String :=
  ((json.lookup key).getD .null).interpolated

/-- `json[key] is Map`. -/
def mapField (json : List (String × Json)) (key : String) : Option (List (String × Json)) :=
  match json.lookup key with
  | some (.obj fields) => some fields
  | _ => none

/-- `json[key] is List`. -/
def listField (json : List (String × Json)) (key : String) : Option (List Json) :=
  match json.lookup key with
  | some (.arr items) => some items
  | _ => none

/-- `json[key] is String`. -/
def textField (json : List (String × Json)) (key : String) : Option String :=
  (json.lookup key).bind Json.asStr?

/-- A map that is an item of a list. -/
def asMap? : Json → Option BackupRow
  | .obj fields => some fields
  | _ => none

/-- The UTF-16 units of a text, by which Dart orders texts. -/
def utf16Units (text : String) : List Nat :=
  text.toList.flatMap fun character =>
    if character.toNat < 0x10000 then [character.toNat]
    else [0xD800 + (character.toNat - 0x10000) / 0x400, 0xDC00 + (character.toNat - 0x10000) % 0x400]

/-- `bookIds!.toList()..sort()`. -/
def sortedBookIds (bookIds : Finset String) : List String :=
  (bookIds.sort (· ≤ ·)).insertionSort fun one two => utf16Units one ≤ utf16Units two

/-- The scope of an envelope. -/
def bookIdsField (bookIds : Option (Finset String)) : Option Json :=
  bookIds.map fun ids => .arr ((sortedBookIds ids).map .str)

/-- The index of an envelope. -/
def attachmentIndexField (index : List BackupRow) : Option Json :=
  nonemptyItems (index.map .obj)

/-- The books that the envelope says it covers. -/
def readBookIds (envelope : List (String × Json)) : Option (Finset String) :=
  (listField envelope "bookIds").map fun items => (items.filterMap Json.asStr?).toFinset

/-- The attachments that the envelope lists. -/
def readAttachmentIndex (envelope : List (String × Json)) : List BackupRow :=
  ((listField envelope "attachmentIndex").getD []).filterMap asMap?

/-- `BackupSummary.toJson`. -/
def BackupSummary.toJson (summary : BackupSummary) : List (String × Json) :=
  [("books", .ofInt summary.books), ("accounts", .ofInt summary.accounts),
    ("transactions", .ofInt summary.transactions),
    ("transactionEntries", .ofInt summary.transactionEntries),
    ("recurringRules", .ofInt summary.recurringRules), ("budgets", .ofInt summary.budgets),
    ("attachments", .ofInt summary.attachments), ("merchantRules", .ofInt summary.merchantRules)]

/-- `BackupSummary.fromJson`. -/
def BackupSummary.fromJson [DoubleText] (json : List (String × Json)) :
    Except BackupError BackupSummary := do
  let books ← intField json "books"
  let accounts ← intField json "accounts"
  let transactions ← intField json "transactions"
  let transactionEntries ← intField json "transactionEntries"
  let recurringRules ← intField json "recurringRules"
  let budgets ← intField json "budgets"
  let attachments ← intField json "attachments"
  let merchantRules ← intField json "merchantRules"
  return {
    books := books.getD 0
    accounts := accounts.getD 0
    transactions := transactions.getD 0
    transactionEntries := transactionEntries.getD 0
    recurringRules := recurringRules.getD 0
    budgets := budgets.getD 0
    attachments := attachments.getD 0
    merchantRules := merchantRules.getD 0 }

/-! ### The envelope of a document -/

/-- The version that an archive of an incremental is written in, -/
def backupSchemaVersion : Int := incrementalBackupSchemaVersion

/-- the one of an encrypted archive, -/
def encryptedBackupSchemaVersion : Int := 3

/-- and the first one that is still read. -/
def minReadableBackupSchemaVersion : Int := 1

/-- `toEnvelope`, at a time. -/
def BackupDocument.toEnvelope (document : BackupDocument) (exportedAt deviceId : String) :
    List (String × Json) :=
  [("kind", .str "ledgerly-backup"), ("schemaVersion", .ofInt document.schemaVersion),
    ("exportedAt", .str exportedAt), ("deviceId", .str deviceId)] ++
  (optionalField "backupId" (document.backupId.map .str) ++
  (optionalField "baseBackupId" (document.baseBackupId.map .str) ++
  (optionalField "bookIds" (bookIdsField document.bookIds) ++
  ([("summary", .obj document.summary.toJson), ("data", .obj document.payload)] ++
  (optionalField "deleted" (if document.deleted.isEmpty then none
    else some (.obj (document.deleted.map fun entry => (entry.1, .arr (entry.2.map .str))))) ++
  optionalField "attachmentIndex" (attachmentIndexField document.attachmentIndex))))))

/-- The entries of `deleted` that are lists. -/
def readDeleted (envelope : List (String × Json)) : List (String × List String) :=
  ((mapField envelope "deleted").getD []).filterMap fun entry =>
    entry.2.asArray?.map fun items => (entry.1, items.filterMap Json.asStr?)

/-- `fromEnvelope`. -/
def BackupDocument.fromEnvelope [DoubleText] (envelope : List (String × Json)) :
    Except BackupError BackupDocument :=
  if textField envelope "kind" ≠ some "ledgerly-backup" then
    .error ("文件不是 Ledgerly 备份 (kind=" ++ fieldText envelope "kind" ++ ")")
  else
    let mismatch := "备份 schema 版本不匹配：当前 " ++ decimalText backupSchemaVersion ++ "，文件 " ++
      fieldText envelope "schemaVersion"
    match (envelope.lookup "schemaVersion").bind Json.asInt? with
    | none => .error mismatch
    | some version =>
      if backupSchemaVersion < version ∨ version < minReadableBackupSchemaVersion then
        .error mismatch
      else
        match mapField envelope "summary", mapField envelope "data" with
        | none, _ => .error "备份 summary 缺失"
        | _, none => .error "备份 data 缺失"
        | some summaryJson, some data => do
          let summary ← BackupSummary.fromJson summaryJson
          let backupId ← stringField envelope "backupId"
          let baseBackupId ← stringField envelope "baseBackupId"
          return {
            summary := summary
            payload := data
            bookIds := readBookIds envelope
            attachmentIndex := readAttachmentIndex envelope
            schemaVersion := version
            backupId := backupId
            baseBackupId := baseBackupId
            deleted := readDeleted envelope }

/-! ### The plain archive -/

/-- The name of the file of an attachment. -/
def attachmentFileName (id : String) : String := "attachments/" ++ id ++ ".bin"

/-- A file that holds an object. -/
def jsonFile (json : List (String × Json)) : List UInt8 :=
  utf8Encode (Json.jsonEncode (.obj json))

/-- The files of the archive of a document. -/
def archiveFiles (document : BackupDocument) (exportedAt deviceId : String) :
    List (String × List UInt8) :=
  ("manifest.json", jsonFile (document.toEnvelope exportedAt deviceId)) ::
    ("data.json", jsonFile document.payload) ::
      document.attachmentBinaries.map fun binary => (attachmentFileName binary.id, binary.bytes)

/-- `_buildZipBytes`. -/
def buildZipBytes [ZipCodec] (document : BackupDocument) (exportedAt deviceId : String) :
    Except BackupError (List UInt8) :=
  required (ZipCodec.encode (archiveFiles document exportedAt deviceId)) "zip 编码失败"

/-- The first file of a name. -/
def fileNamed (archive : List (String × List UInt8)) (name : String) (missing : BackupError) :
    Except BackupError (List UInt8) :=
  required (archive.lookup name) missing

/-- The map of a file. -/
def readJsonFile (bytes : List UInt8) (unreadable noMap : BackupError) :
    Except BackupError (List (String × Json)) :=
  match (utf8Decode bytes).bind Json.jsonDecode with
  | none => .error unreadable
  | some (.obj fields) => .ok fields
  | some _ => .error noMap

/-- The attachment of a file, if its name is that of one. -/
def attachmentOfFile (file : String × List UInt8) : Option AttachmentBinary := do
  let fileName ← stripPrefix file.1 "attachments/"
  if ".bin".toList.isSuffixOf fileName.toList then
    return { id := String.ofList (fileName.toList.take (fileName.toList.length - 4)), bytes := file.2 }
  else none

/-- `withBinaries`. -/
def BackupDocument.withBinaries (document : BackupDocument) (binaries : List AttachmentBinary) :
    BackupDocument :=
  { document with attachmentBinaries := binaries }

/-- `_decodeZipBytes`. -/
def decodeZipBytes [ZipCodec] [DoubleText] (bytes : List UInt8) :
    Except BackupError BackupDocument :=
  match ZipCodec.decodeBytes bytes with
  | none => .error "备份文件不是合法 zip"
  | some archive => do
    let manifestFile ← fileNamed archive "manifest.json" "备份缺少 manifest.json"
    let envelope ← readJsonFile manifestFile "manifest 解析失败" "manifest 不是 JSON 对象"
    let document ← BackupDocument.fromEnvelope envelope
    let dataFile ← fileNamed archive "data.json" "备份缺少 data.json"
    let decoded ← readJsonFile dataFile "data.json 解析失败" "data.json 不是 JSON 对象"
    if Json.jsonEncode (.obj decoded) ≠ Json.jsonEncode (.obj document.payload) then
      .error "manifest 与 data.json 不一致"
    else
      return document.withBinaries (archive.filterMap attachmentOfFile)

/-! ### Encryption -/

/-- The name of the derivation that new archives use, -/
def kdfArgon2id : String := "argon2id"

/-- and of the one of the first archives. -/
def kdfPbkdf2Sha256 : String := "pbkdf2-sha256"

/-- How the key of an archive is derived from a password. -/
structure KdfParams where
  algorithm : String
  iterations : Int
  salt : List UInt8
  hashLengthBytes : Int
  memoryKb : Int := 0
  parallelism : Int := 1

/-- `KdfParams.toJson`. -/
def KdfParams.toJson (params : KdfParams) : List (String × Json) :=
  [("algorithm", .str params.algorithm), ("iterations", .ofInt params.iterations),
    ("salt", .str (base64Encode params.salt)),
    ("hashLengthBytes", .ofInt params.hashLengthBytes)] ++
  (optionalField "memoryKb" (if 0 < params.memoryKb then some (.ofInt params.memoryKb) else none) ++
  optionalField "parallelism"
    (if params.algorithm = kdfArgon2id then some (.ofInt params.parallelism) else none))

/-- `KdfParams.fromJson`. -/
def KdfParams.fromJson [DoubleText] (json : List (String × Json)) :
    Except BackupError KdfParams := do
  let algorithm := (← stringField json "algorithm").getD kdfPbkdf2Sha256
  let iterations := (← intField json "iterations").getD
    (if algorithm = kdfArgon2id then 2 else 600000)
  match textField json "salt" with
  | none => .error "KDF salt 缺失"
  | some saltRaw => do
    let salt ← base64Decode saltRaw
    let hashLengthBytes := (← intField json "hashLengthBytes").getD 32
    let memoryKb := (← intField json "memoryKb").getD 0
    let parallelism := (← intField json "parallelism").getD 1
    return { algorithm, iterations, salt, hashLengthBytes, memoryKb, parallelism }

/-- An encrypted archive before it is put into one file. -/
structure EncryptedPayload where
  envelopeJson : List UInt8
  ciphertext : List UInt8
  kdf : KdfParams
  nonce : List UInt8
  authTag : List UInt8
  plaintextSize : Int
  plaintextSha256Hex : String

/-- The memory for the derivation; a browser is given less. -/
def defaultArgon2MemoryKb (web : Bool) : Int := if web then 8192 else 19456

/-- The settings of `BackupEncryption`. -/
structure BackupEncryption where
  kdfAlgorithm : String := kdfArgon2id
  pbkdf2Iterations : Int := 600000
  argon2MemoryKb : Int
  argon2Iterations : Int := 2
  argon2Parallelism : Int := 1

/-- The length of a key. -/
def defaultHashLengthBytes : Int := 32

/-- `_defaultKdfParams`. -/
def BackupEncryption.defaultKdfParams (encryption : BackupEncryption) (salt : List UInt8) :
    KdfParams :=
  if encryption.kdfAlgorithm = kdfPbkdf2Sha256 then
    { algorithm := kdfPbkdf2Sha256
      iterations := encryption.pbkdf2Iterations
      salt := salt
      hashLengthBytes := defaultHashLengthBytes }
  else
    { algorithm := kdfArgon2id
      iterations := encryption.argon2Iterations
      salt := salt
      hashLengthBytes := defaultHashLengthBytes
      memoryKb := encryption.argon2MemoryKb
      parallelism := encryption.argon2Parallelism }

/-- `_deriveKey`. -/
def deriveKey [KeyDerivation] (password : String) (params : KdfParams) :
    Except BackupError (List UInt8) :=
  if params.algorithm = kdfPbkdf2Sha256 then
    required (KeyDerivation.pbkdf2 params.iterations (params.hashLengthBytes * 8)
      (utf8Encode password) params.salt) "ArgumentError"
  else if params.algorithm = kdfArgon2id then
    required (KeyDerivation.argon2id (if params.parallelism < 1 then 1 else params.parallelism)
      (if params.memoryKb < 8 then 8 else params.memoryKb)
      (if params.iterations < 1 then 1 else params.iterations) params.hashLengthBytes
      (utf8Encode password) params.salt) "ArgumentError"
  else .error ("不支持的 KDF：" ++ params.algorithm)

/-- The map under `encryption`. -/
def encryptionJson [Sha256] (params : KdfParams) (nonce authTag plaintext : List UInt8) :
    List (String × Json) :=
  [("kdf", .obj params.toJson), ("cipher", .str "aes-256-gcm"),
    ("nonce", .str (base64Encode nonce)), ("authTag", .str (base64Encode authTag)),
    ("plaintextSize", .ofInt plaintext.length), ("plaintextSha256", .str (Sha256.hex plaintext))]

/-- The envelope of an encrypted backup: what it says replaces the public metadata. -/
def encryptedEnvelope [Sha256] (publicMetadata : List (String × Json)) (params : KdfParams)
    (nonce authTag plaintext : List UInt8) : List (String × Json) :=
  Json.insertField "encryption" (.obj (encryptionJson params nonce authTag plaintext))
    (Json.insertField "schemaVersion" (.ofInt encryptedBackupSchemaVersion)
      (Json.insertField "kind" (.str "ledgerly-backup-encrypted") publicMetadata))

/-- The salt is drawn first. -/
def drawnSalt (random : Nat → UInt8) : List UInt8 := (List.range 16).map random

/-- The nonce, drawn after the sixteen bytes of the salt. -/
def drawnNonce (random : Nat → UInt8) : List UInt8 :=
  (List.range 12).map fun draw => random (16 + draw)

/-- `encrypt`, with the bytes that are drawn. -/
def BackupEncryption.encrypt [KeyDerivation] [AesGcm] [Sha256] (encryption : BackupEncryption)
    (random : Nat → UInt8) (plaintext : List UInt8) (password : String)
    (kdfParams : Option KdfParams) (publicMetadata : List (String × Json)) :
    Except BackupError EncryptedPayload :=
  if utf16Length password < 8 then .error "密码至少 8 位"
  else do
    let params := kdfParams.getD (encryption.defaultKdfParams (drawnSalt random))
    let secretKey ← deriveKey password params
    let nonce := drawnNonce random
    match AesGcm.encrypt plaintext secretKey nonce with
    | none => .error "ArgumentError"
    | some (ciphertext, authTag) =>
      return {
        envelopeJson := jsonFile (encryptedEnvelope publicMetadata params nonce authTag plaintext)
        ciphertext := ciphertext
        kdf := params
        nonce := nonce
        authTag := authTag
        plaintextSize := plaintext.length
        plaintextSha256Hex := Sha256.hex plaintext }

/-- `decrypt`. -/
def decrypt [KeyDerivation] [AesGcm] [Sha256] (payload : EncryptedPayload) (password : String) :
    Except BackupError (List UInt8) := do
  let secretKey ← deriveKey password payload.kdf
  match AesGcm.decrypt payload.ciphertext payload.nonce payload.authTag secretKey with
  | none => .error "备份密码错误"
  | some plaintext =>
    if (plaintext.length : Int) ≠ payload.plaintextSize then
      .error ("解密后长度(" ++ toString plaintext.length ++ ")与 envelope 声明(" ++
        decimalText payload.plaintextSize ++ ")不一致")
    else if Sha256.hex plaintext ≠ payload.plaintextSha256Hex then
      .error "解密后 SHA-256 不匹配，备份可能被篡改"
    else return plaintext

/-! ### The encrypted archive -/

/-- A document with its encrypted payload, if it has one. -/
structure EncryptedDocument extends BackupDocument where
  encrypted : Option EncryptedPayload := none

/-- What of a document is not encrypted. -/
def publicMetadata (document : BackupDocument) (exportedAt deviceId : String) :
    List (String × Json) :=
  [("exportedAt", .str exportedAt), ("deviceId", .str deviceId),
    ("summary", .obj document.summary.toJson)] ++
  (optionalField "bookIds" (bookIdsField document.bookIds) ++
  optionalField "attachmentIndex" (attachmentIndexField document.attachmentIndex))

/-- `_encryptDocument`. The times are those of the plain archive and of the encryption; the
service gives no parameters for the derivation of the key. -/
def encryptDocument [ZipCodec] [KeyDerivation] [AesGcm] [Sha256] (encryption : BackupEncryption)
    (random : Nat → UInt8) (document : BackupDocument) (password : String)
    (kdfParams : Option KdfParams) (zippedAt exportedAt deviceId : String) :
    Except BackupError EncryptedDocument := do
  let envelopeBytes ← buildZipBytes document zippedAt deviceId
  let encrypted ← encryption.encrypt random envelopeBytes password kdfParams
    (publicMetadata document exportedAt deviceId)
  return { toBackupDocument := document, encrypted := some encrypted }

/-- `_buildEncryptedZipBytes`. -/
def buildEncryptedZipBytes [ZipCodec] (document : EncryptedDocument) :
    Except BackupError (List UInt8) :=
  match document.encrypted with
  | none => .error "加密备份缺少 EncryptedPayload"
  | some encrypted =>
    required (ZipCodec.encode
      [("envelope.json", encrypted.envelopeJson), ("payload.enc", encrypted.ciphertext)])
      "加密 zip 编码失败"

/-- `_decodeLegacyJson`. -/
def decodeLegacyJson [DoubleText] (bytes : List UInt8) (refusal : BackupError) :
    Except BackupError EncryptedDocument :=
  match (utf8Decode bytes).bind Json.jsonDecode with
  | some (.obj envelope) =>
    match BackupDocument.fromEnvelope envelope with
    | .ok document => .ok { toBackupDocument := document }
    | .error _ => .error refusal
  | _ => .error refusal

/-- The encrypted payload of an archive, from its envelope. -/
def readEncrypted [DoubleText] (envelopeJson : List (String × Json))
    (envelopeFile payloadFile : List UInt8) : Except BackupError EncryptedPayload := do
  let encMap ← required (mapField envelopeJson "encryption") "envelope 缺少 encryption 字段"
  let kdfRaw ← required (mapField encMap "kdf") "envelope kdf 缺失"
  let kdf ← KdfParams.fromJson kdfRaw
  let cipher := (← stringField encMap "cipher").getD "aes-256-gcm"
  if cipher ≠ "aes-256-gcm" then .error ("不支持的加密算法：" ++ cipher)
  else
    let nonceRaw ← required (textField encMap "nonce") "envelope nonce 缺失"
    let tagRaw ← required (textField encMap "authTag") "envelope authTag 缺失"
    let plaintextSize ← required (← intField encMap "plaintextSize") "envelope plaintextSize 缺失"
    let plaintextSha ← required (← stringField encMap "plaintextSha256")
      "envelope plaintextSha256 缺失"
    let nonce ← base64Decode nonceRaw
    let authTag ← base64Decode tagRaw
    return {
      envelopeJson := envelopeFile
      ciphertext := payloadFile
      kdf := kdf
      nonce := nonce
      authTag := authTag
      plaintextSize := plaintextSize
      plaintextSha256Hex := plaintextSha }

/-- The summary of an encrypted archive, or one of nothing. -/
def readSummary [DoubleText] (envelopeJson : List (String × Json)) :
    Except BackupError BackupSummary :=
  match mapField envelopeJson "summary" with
  | some summary => BackupSummary.fromJson summary
  | none => .ok ⟨0, 0, 0, 0, 0, 0, 0, 0⟩

/-- The encrypted part of `_decodeOuterZip`. -/
def decodeEncryptedZip [ZipCodec] [KeyDerivation] [AesGcm] [Sha256] [DoubleText]
    (archive : List (String × List UInt8)) (password : Option String) :
    Except BackupError EncryptedDocument := do
  let envelopeFile ← fileNamed archive "envelope.json" "加密备份缺少 envelope.json"
  let payloadFile ← fileNamed archive "payload.enc" "加密备份缺少 payload.enc"
  let envelopeJson ← readJsonFile envelopeFile "envelope.json 解析失败" "envelope.json 解析失败"
  if textField envelopeJson "kind" ≠ some "ledgerly-backup-encrypted" then
    .error ("envelope kind 异常：" ++ fieldText envelopeJson "kind")
  else
    let encrypted ← readEncrypted envelopeJson envelopeFile payloadFile
    let summary ← readSummary envelopeJson
    match password.filter (· ≠ "") with
    | some password => do
      let plaintext ← decrypt encrypted password
      let document ← decodeZipBytes plaintext
      return { toBackupDocument := document }
    | none =>
      return {
        summary := summary
        payload := []
        bookIds := readBookIds envelopeJson
        attachmentIndex := readAttachmentIndex envelopeJson
        encrypted := some encrypted
        schemaVersion := encryptedBackupSchemaVersion }

/-- `_decodeOuterZip`. -/
def decodeOuterZip [ZipCodec] [KeyDerivation] [AesGcm] [Sha256] [DoubleText]
    (bytes : List UInt8) (password : Option String) : Except BackupError EncryptedDocument :=
  match ZipCodec.decodeBytes bytes with
  | none => decodeLegacyJson bytes "备份文件不是合法 zip"
  | some archive =>
    if (archive.lookup "envelope.json").isSome then decodeEncryptedZip archive password
    else if (archive.lookup "manifest.json").isNone then decodeLegacyJson bytes "备份文件无法识别"
    else do
      let document ← decodeZipBytes bytes
      return { toBackupDocument := document }

/-- `_unwrapEncrypted`. -/
def unwrapEncrypted [ZipCodec] [KeyDerivation] [AesGcm] [Sha256] [DoubleText]
    (document : EncryptedDocument) (password : Option String) :
    Except BackupError BackupDocument :=
  match document.encrypted, password.filter (· ≠ "") with
  | none, _ => .ok document.toBackupDocument
  | some _, none => .error "该备份已加密，请提供密码以恢复"
  | some encrypted, some password => do
    let plaintext ← decrypt encrypted password
    decodeZipBytes plaintext

end Ledgerly
