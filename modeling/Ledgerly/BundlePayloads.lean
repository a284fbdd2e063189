/-
This file models the payloads of the bundles that the server packs its backups in, and proves that
a payload is read back as it was written. A payload that is encrypted is cut in chunks, each a frame
of its own under a nonce that counts them; the reader knows from the manifest how many frames there
are, and demands that all but the last are full.

The writer and the reader take what the operating system gives them read by read, which may be less
than they have room for.
-/

import Ledgerly.BackupContainers
import Ledgerly.Library.Base64
import Ledgerly.Library.PartialReads

namespace Ledgerly

/-! ### Numbers and ciphers -/

/-- `u32::to_be_bytes`. -/
def toBeBytes (value : Nat) : List UInt8 :=
  [UInt8.ofNat (value / 2 ^ 24), UInt8.ofNat (value / 2 ^ 16), UInt8.ofNat (value / 2 ^ 8),
    UInt8.ofNat value]

/-- `u32::from_be_bytes`. -/
def ofBeBytes (bytes : List UInt8) : Nat :=
  bytes.foldl (fun value byte => value * 256 + byte.toNat) 0

theorem ofBeBytes_toBeBytes {value : Nat} (small : value < 2 ^ 32) :
    ofBeBytes (toBeBytes value) = value := by
  simp only [ofBeBytes, toBeBytes, List.foldl_cons, List.foldl_nil, UInt8.toNat_ofNat']
  omega

theorem toBeBytes_injective {one two : Nat} (smallOne : one < 2 ^ 32) (smallTwo : two < 2 ^ 32)
    (same : toBeBytes one = toBeBytes two) : one = two := by
  rw [← ofBeBytes_toBeBytes smallOne, same, ofBeBytes_toBeBytes smallTwo]

/-- AES-256 in Galois counter mode with associated data. A ciphertext ends with its tag. -/
class Aes256Gcm where
  encrypt : (key nonce associated plaintext : List UInt8) → Option (List UInt8)
  decrypt : (key nonce associated ciphertext : List UInt8) → Option (List UInt8)

/-- What is encrypted under a key of 32 bytes and a nonce of 12 bytes is decrypted, with the same
associated data; the tag is 16 bytes long, and what is encrypted in one go is shorter than
64 GiB. -/
def IdealAes256Gcm [Aes256Gcm] : Prop :=
  ∀ key nonce associated plaintext : List UInt8, key.length = 32 → nonce.length = 12 →
    plaintext.length < 2 ^ 36 - 31 →
    ∃ ciphertext, Aes256Gcm.encrypt key nonce associated plaintext = some ciphertext ∧
      ciphertext.length = plaintext.length + 16 ∧
      Aes256Gcm.decrypt key nonce associated ciphertext = some plaintext

/-- `STANDARD.decode`, which knows the digits of the standard alphabet only. -/
def standardDecode (text : String) : Option (List UInt8) :=
  if text.toList.any fun digit => digit = '-' || digit = '_' then none
  else Base64.decode text.toList

/-! ### Manifests -/

/-- How the key of a bundle is derived, as the manifest says it. -/
structure BundleEncryption where
  cipher : String
  kdf : String
  saltBase64 : String
  memoryKib : Nat
  iterations : Nat
  parallelism : Nat
  deriving DecidableEq

/-- The entry of the manifest about a file. -/
structure BundleFile where
  logicalPath : String
  payloadPath : String
  sizeBytes : Nat
  sha256 : String
  storedSizeBytes : Nat
  storedSha256 : String
  nonceBase64 : Option String
  chunkSizeBytes : Option Nat
  chunkCount : Option Nat
  deriving DecidableEq

/-- What writing a payload has found out about it. -/
structure PayloadWriteMetadata where
  sizeBytes : Nat
  sha256 : String
  storedSizeBytes : Nat
  storedSha256 : String
  nonceBase64 : Option String
  chunkSizeBytes : Option Nat
  chunkCount : Option Nat

/-- The entry of a manifest for a payload. -/
def PayloadWriteMetadata.file (payload : PayloadWriteMetadata) (logicalPath payloadPath : String) :
    BundleFile :=
  { logicalPath, payloadPath
    sizeBytes := payload.sizeBytes
    sha256 := payload.sha256
    storedSizeBytes := payload.storedSizeBytes
    storedSha256 := payload.storedSha256
    nonceBase64 := payload.nonceBase64
    chunkSizeBytes := payload.chunkSizeBytes
    chunkCount := payload.chunkCount }

/-! ### Chunks -/

/-- `BUNDLE_CHUNK_SIZE_BYTES`. -/
@[irreducible] def bundleChunkSizeBytes : Nat := 1024 * 1024

theorem bundleChunkSizeBytes_eq : bundleChunkSizeBytes = 1048576 := by
  rw [bundleChunkSizeBytes]

/-- The nonce of a chunk: what was drawn for the file, and the number of the chunk. -/
def chunkNonce (noncePrefix : List UInt8) (index : Nat) : List UInt8 := noncePrefix ++ toBeBytes index

/-- What a chunk is bound to: the path of its file and its number. -/
def chunkAad (logicalPath : String) (index : Nat) : List UInt8 :=
  utf8Encode logicalPath ++ [0] ++ toBeBytes index

/-- What the writer of an encrypted payload has read and written so far. -/
structure ChunksWritten where
  plain : List UInt8 := []
  stored : List UInt8 := []
  chunkCount : Nat := 0

section Payloads

variable [Aes256Gcm]

/-- The loop of `write_bundle_payload` over the chunks. -/
def writeChunks (key noncePrefix : List UInt8) (logicalPath : String)
    (source : PartialReader UInt8) (written : ChunksWritten) : Except String ChunksWritten :=
  let plaintext := (source.fill bundleChunkSizeBytes).1
  if _nothing : plaintext = [] then .ok written
  else
    match Aes256Gcm.encrypt key (chunkNonce noncePrefix written.chunkCount)
        (chunkAad logicalPath written.chunkCount) plaintext with
    | none => .error "encrypt backup bundle file"
    | some ciphertext =>
      if 2 ^ 32 ≤ ciphertext.length then .error "encrypted backup chunk exceeds frame size"
      else if 2 ^ 32 ≤ written.chunkCount + 1 then .error "backup chunk count overflow"
      else
        writeChunks key noncePrefix logicalPath (source.fill bundleChunkSizeBytes).2
          { plain := written.plain ++ plaintext
            stored := written.stored ++ toBeBytes ciphertext.length ++ ciphertext
            chunkCount := written.chunkCount + 1 }
termination_by source.left.length
decreasing_by
  obtain ⟨taken, dropped⟩ := source.fill_eq bundleChunkSizeBytes
  have some : 0 < (source.fill bundleChunkSizeBytes).1.length := List.length_pos_of_ne_nil _nothing
  rw [taken, List.length_take] at some
  rw [dropped, List.length_drop]
  omega

variable [Sha256]

/-- `write_bundle_payload`: the payload, and what the manifest says of it. -/
def writeBundlePayload (source : PartialReader UInt8) (key : Option (List UInt8))
    (noncePrefix : List UInt8) (logicalPath : String) :
    Except String (List UInt8 × PayloadWriteMetadata) :=
  match key with
  | some key => do
    let written ← writeChunks key noncePrefix logicalPath source {}
    return (written.stored,
      { sizeBytes := written.plain.length
        sha256 := Sha256.hex written.plain
        storedSizeBytes := written.stored.length
        storedSha256 := Sha256.hex written.stored
        nonceBase64 := some (base64Encode noncePrefix)
        chunkSizeBytes := some bundleChunkSizeBytes
        chunkCount := some written.chunkCount })
  | none =>
    let bytes := source.drain (64 * 1024)
    .ok (bytes,
      { sizeBytes := bytes.length
        sha256 := Sha256.hex bytes
        storedSizeBytes := bytes.length
        storedSha256 := Sha256.hex bytes
        nonceBase64 := none
        chunkSizeBytes := none
        chunkCount := none })

/-- What the reader of a payload has read so far: the bytes of the payload, and of the plaintext
how long it is and, with a key, what it is. -/
structure PayloadRead where
  stored : List UInt8 := []
  plainSize : Nat := 0
  plain : List UInt8 := []

omit [Sha256] in
/-- The loop of `process_bundle_file_v2` over the frames, with `remaining` ones to go. -/
def readChunks (key : Option (List UInt8)) (noncePrefix : List UInt8) (logicalPath : String)
    (chunkSize : Nat) : (remaining index : Nat) → PartialReader UInt8 → PayloadRead →
    Except String (PartialReader UInt8 × PayloadRead)
  | 0, _, reader, read => .ok (reader, read)
  | remaining + 1, index, reader, read =>
    match reader.exactly 4 with
    | none => .error "read encrypted backup frame length"
    | some (lengthBytes, reader) =>
      let length := ofBeBytes lengthBytes
      if length < 16 then .error "invalid encrypted backup frame length"
      else
        let plaintextLength := length - 16
        if 0 < remaining ∧ plaintextLength ≠ chunkSize then
          .error "non-final backup chunk has invalid length"
        else if chunkSize < plaintextLength then .error "backup chunk exceeds configured size"
        else
          match reader.exactly length with
          | none => .error "read encrypted backup frame"
          | some (ciphertext, reader) =>
            let read := { read with
              stored := read.stored ++ lengthBytes ++ ciphertext
              plainSize := read.plainSize + plaintextLength }
            match key with
            | none =>
              readChunks none noncePrefix logicalPath chunkSize remaining (index + 1) reader read
            | some key =>
              match Aes256Gcm.decrypt key (chunkNonce noncePrefix index)
                  (chunkAad logicalPath index) ciphertext with
              | none => .error "invalid bundle password or corrupted payload"
              | some plaintext =>
                if plaintext.length ≠ plaintextLength then
                  .error "decrypted backup chunk length mismatch"
                else
                  readChunks (some key) noncePrefix logicalPath chunkSize remaining (index + 1)
                    reader { read with plain := read.plain ++ plaintext }

omit [Sha256] in
/-- The part of `process_bundle_file_v2` that reads the payload. -/
def readPayload (reader : PartialReader UInt8) (key : Option (List UInt8)) (encrypted : Bool)
    (file : BundleFile) (logicalPath : String) : Except String PayloadRead :=
  if encrypted then
    match file.chunkSizeBytes with
    | none => .error "encrypted bundle is missing chunk size"
    | some chunkSize =>
      match file.chunkCount with
      | none => .error "encrypted bundle is missing chunk count"
      | some chunkCount =>
        match file.nonceBase64 with
        | none => .error "encrypted bundle file is missing nonce"
        | some nonce =>
          match standardDecode nonce with
          | none => .error "decode bundle nonce"
          | some noncePrefix =>
            if noncePrefix.length ≠ 8 then .error "invalid bundle nonce length"
            else if chunkSize = 0 then .error "invalid backup chunk size"
            else do
              let (reader, read) ←
                readChunks key noncePrefix logicalPath chunkSize chunkCount 0 reader {}
              if (reader.read 1).1 ≠ [] then
                .error "encrypted backup payload has trailing bytes"
              else .ok read
  else
    let bytes := reader.drain (64 * 1024)
    .ok ⟨bytes, bytes.length, bytes⟩

/-- `process_bundle_file_v2`: what it writes, if it is given where. -/
def processBundleFileV2 (reader : PartialReader UInt8) (key : Option (List UInt8))
    (encrypted : Bool) (file : BundleFile) (logicalPath : String) : Except String (List UInt8) := do
  let read ← readPayload reader key encrypted file logicalPath
  if read.stored.length ≠ file.storedSizeBytes ∨ Sha256.hex read.stored ≠ file.storedSha256 then
    .error ("stored payload integrity failed: " ++ file.logicalPath)
  else if read.plainSize ≠ file.sizeBytes then
    .error ("plaintext payload size failed: " ++ file.logicalPath)
  else if (!encrypted || key.isSome) ∧ Sha256.hex read.plain ≠ file.sha256 then
    .error ("plaintext payload integrity failed: " ++ file.logicalPath)
  else .ok read.plain

end Payloads

/-! ### A payload is read back -/

theorem digit_standard : ∀ number < 64,
    ¬(Base64.digit number = '-' ∨ Base64.digit number = '_') := by decide

theorem standard_of_mem_encode {bytes : List UInt8} {digit : Char}
    (member : digit ∈ Base64.encode bytes) : ¬(digit = '-' ∨ digit = '_') := by
  have padding : ¬('=' = '-' ∨ '=' = '_') := by decide
  induction bytes using Base64.encode.induct with
  | case1 => cases member
  | case2 one =>
    have bound := one.toNat_lt
    simp only [Base64.encode, List.mem_cons, List.not_mem_nil, or_false] at member
    rcases member with rfl | rfl | rfl | rfl
    · exact digit_standard _ (by omega)
    · exact digit_standard _ (by omega)
    · exact padding
    · exact padding
  | case3 one two =>
    have boundOne := one.toNat_lt
    have boundTwo := two.toNat_lt
    simp only [Base64.encode, List.mem_cons, List.not_mem_nil, or_false] at member
    rcases member with rfl | rfl | rfl | rfl
    · exact digit_standard _ (by omega)
    · exact digit_standard _ (by omega)
    · exact digit_standard _ (by omega)
    · exact padding
  | case4 one two three rest inductionHypothesis =>
    have boundOne := one.toNat_lt
    have boundTwo := two.toNat_lt
    have boundThree := three.toNat_lt
    simp only [Base64.encode, List.mem_cons] at member
    rcases member with rfl | rfl | rfl | rfl | member
    · exact digit_standard _ (by omega)
    · exact digit_standard _ (by omega)
    · exact digit_standard _ (by omega)
    · exact digit_standard _ (by omega)
    · exact inductionHypothesis member

/-- Bytes come back from their text. -/
theorem standardDecode_base64Encode (bytes : List UInt8) :
    standardDecode (base64Encode bytes) = some bytes := by
  rw [standardDecode, base64Encode, String.toList_ofList, if_neg]
  · exact Base64.decode_encode bytes
  · intro other
    obtain ⟨digit, member, isOther⟩ := List.any_eq_true.mp other
    rw [Bool.or_eq_true, decide_eq_true_eq, decide_eq_true_eq] at isOther
    exact standard_of_mem_encode member isOther

/-- There is room for what is left after the next chunk. -/
theorem chunks_fit {size count left limit : Nat} (some : 0 < left)
    (fits : count * size + left ≤ limit * size) :
    (count + 1) * size + (left - size) ≤ limit * size := by
  have next : count + 1 ≤ limit :=
    Nat.lt_of_mul_lt_mul_right (Nat.lt_of_lt_of_le (Nat.lt_add_of_pos_right some) fits)
  have bound := Nat.mul_le_mul_right size next
  rw [Nat.add_mul, Nat.one_mul] at bound ⊢
  omega

section RoundTrip

variable [Aes256Gcm] {key noncePrefix : List UInt8}

/-- The frames that are written for what is left of a file, and how they are read: with the key or
without it, whatever follows them. -/
structure FramesReadBack (key noncePrefix : List UInt8) (logicalPath : String) (index count : Nat)
    (plain frames : List UInt8) : Prop where
  reads : ∀ (use : Option (List UInt8)) (reader : PartialReader UInt8) (rest : List UInt8)
    (read : PayloadRead), use = none ∨ use = some key → reader.left = frames ++ rest →
    ∃ last : PartialReader UInt8, last.left = rest ∧
      readChunks use noncePrefix logicalPath bundleChunkSizeBytes count index reader read =
        .ok (last,
          { stored := read.stored ++ frames
            plainSize := read.plainSize + plain.length
            plain := read.plain ++ if use.isSome then plain else [] })

/-- A frame is read back where the frames after it are. -/
theorem FramesReadBack.cons {logicalPath : String} {index count : Nat}
    {plaintext ciphertext plain frames : List UInt8}
    (short : plaintext.length ≤ bundleChunkSizeBytes)
    (full : 0 < count → plaintext.length = bundleChunkSizeBytes)
    (length : ciphertext.length = plaintext.length + 16)
    (decrypted : Aes256Gcm.decrypt key (chunkNonce noncePrefix index) (chunkAad logicalPath index)
      ciphertext = some plaintext)
    (later : FramesReadBack key noncePrefix logicalPath (index + 1) count plain frames) :
    FramesReadBack key noncePrefix logicalPath index (count + 1) (plaintext ++ plain)
      (toBeBytes ciphertext.length ++ ciphertext ++ frames) := by
  constructor
  intro use reader rest read known left
  have small : ciphertext.length < 2 ^ 32 := by
    rw [bundleChunkSizeBytes_eq] at short
    omega
  have lengthRead : reader.exactly 4 = some (toBeBytes ciphertext.length, (reader.fill 4).2) := by
    refine PartialReader.exactly_eq_some_iff.mpr ⟨rfl, ?_, rfl⟩
    rw [(reader.fill_eq 4).2, left, List.append_assoc, List.append_assoc]
    rfl
  have afterLength : (reader.fill 4).2.left = ciphertext ++ (frames ++ rest) := by
    rw [(reader.fill_eq 4).2, left, List.append_assoc, List.append_assoc]
    rfl
  have frameRead : (reader.fill 4).2.exactly ciphertext.length =
      some (ciphertext, ((reader.fill 4).2.fill ciphertext.length).2) := by
    refine PartialReader.exactly_eq_some_iff.mpr ⟨rfl, ?_, rfl⟩
    rw [((reader.fill 4).2.fill_eq _).2, afterLength, List.drop_left]
  have afterFrame : ((reader.fill 4).2.fill ciphertext.length).2.left = frames ++ rest := by
    rw [((reader.fill 4).2.fill_eq _).2, afterLength, List.drop_left]
  have notShort : ¬ciphertext.length < 16 := by omega
  have notPartial : ¬(0 < count ∧ ciphertext.length - 16 ≠ bundleChunkSizeBytes) := by
    rintro ⟨more, partly⟩
    exact partly (by rw [length, Nat.add_sub_cancel, full more])
  have notLong : ¬bundleChunkSizeBytes < ciphertext.length - 16 := by omega
  have size : ciphertext.length - 16 = plaintext.length := by omega
  rw [readChunks, lengthRead]
  dsimp only
  rw [ofBeBytes_toBeBytes small, if_neg notShort, if_neg notPartial, if_neg notLong, frameRead]
  dsimp only
  rcases known with rfl | rfl
  · obtain ⟨last, isLast, reads⟩ := later.reads none _ rest
      { read with
        stored := read.stored ++ toBeBytes ciphertext.length ++ ciphertext
        plainSize := read.plainSize + (ciphertext.length - 16) } (Or.inl rfl) afterFrame
    refine ⟨last, isLast, reads.trans ?_⟩
    simp only [List.append_assoc, List.length_append, size, Nat.add_assoc, Option.isSome_none,
      Bool.false_eq_true, if_false, List.append_nil]
  · obtain ⟨last, isLast, reads⟩ := later.reads (some key) _ rest
      { stored := read.stored ++ toBeBytes ciphertext.length ++ ciphertext
        plainSize := read.plainSize + (ciphertext.length - 16)
        plain := read.plain ++ plaintext } (Or.inr rfl) afterFrame
    refine ⟨last, isLast, ?_⟩
    dsimp only
    rw [decrypted]
    dsimp only
    rw [if_neg (not_not.mpr size.symm)]
    refine reads.trans ?_
    simp only [List.append_assoc, List.length_append, size, Nat.add_assoc, Option.isSome_some,
      if_true]

/-- The writer's loop writes frames that are read back, however the reads of the file fall. -/
theorem writeChunks_ok (ideal : IdealAes256Gcm) (keyLength : key.length = 32)
    (prefixLength : noncePrefix.length = 8) (logicalPath : String)
    (source : PartialReader UInt8) (written : ChunksWritten)
    (fits : written.chunkCount * bundleChunkSizeBytes + source.left.length ≤
      (2 ^ 32 - 1) * bundleChunkSizeBytes) :
    ∃ frames count, writeChunks key noncePrefix logicalPath source written =
        .ok ⟨written.plain ++ source.left, written.stored ++ frames, written.chunkCount + count⟩ ∧
      (count = 0 ↔ source.left = []) ∧
      FramesReadBack key noncePrefix logicalPath written.chunkCount count source.left frames := by
  induction size : source.left.length using Nat.strong_induction_on generalizing source written with
  | _ size inductionHypothesis =>
    subst size
    obtain ⟨taken, dropped⟩ := source.fill_eq bundleChunkSizeBytes
    have chunk := bundleChunkSizeBytes_eq
    rw [writeChunks]
    by_cases nothing : (source.fill bundleChunkSizeBytes).1 = []
    · have none : source.left = [] := by
        rw [taken, List.take_eq_nil_iff] at nothing
        exact nothing.resolve_left (by omega)
      rw [dif_pos nothing]
      refine ⟨[], 0, ?_, iff_of_true rfl none, ⟨fun use reader rest read _ left => ?_⟩⟩
      · rw [none, List.append_nil, List.append_nil]
        rfl
      · refine ⟨reader, left, ?_⟩
        rw [none, readChunks]
        simp
    · have plaintextLength : 0 < (source.left.take bundleChunkSizeBytes).length := by
        rw [← taken]
        exact List.length_pos_of_ne_nil nothing
      rw [List.length_take] at plaintextLength
      have nonceLength : (chunkNonce noncePrefix written.chunkCount).length = 12 := by
        rw [chunkNonce, List.length_append, prefixLength]
        rfl
      obtain ⟨ciphertext, encrypted, length, decrypted⟩ := ideal key
        (chunkNonce noncePrefix written.chunkCount) (chunkAad logicalPath written.chunkCount)
        (source.left.take bundleChunkSizeBytes) keyLength nonceLength (by
          rw [List.length_take]
          omega)
      rw [dif_neg nothing, taken, encrypted]
      dsimp only
      have shortTake : (source.left.take bundleChunkSizeBytes).length ≤ bundleChunkSizeBytes :=
        List.length_take_le _ _
      have counted : written.chunkCount < 2 ^ 32 - 1 :=
        Nat.lt_of_mul_lt_mul_right (Nat.lt_of_lt_of_le (Nat.lt_add_of_pos_right (by omega)) fits)
      rw [if_neg (by omega), if_neg (by omega)]
      have laterFits : (written.chunkCount + 1) * bundleChunkSizeBytes +
          (source.left.drop bundleChunkSizeBytes).length ≤ (2 ^ 32 - 1) * bundleChunkSizeBytes := by
        rw [List.length_drop]
        exact chunks_fit (by omega) fits
      obtain ⟨frames, count, rest, empty, readBack⟩ := inductionHypothesis _ (by
          rw [dropped, List.length_drop]
          omega)
        (source.fill bundleChunkSizeBytes).2
        { plain := written.plain ++ source.left.take bundleChunkSizeBytes
          stored := written.stored ++ toBeBytes ciphertext.length ++ ciphertext
          chunkCount := written.chunkCount + 1 }
        (by
          rw [dropped]
          exact laterFits)
        rfl
      have whole := List.take_append_drop bundleChunkSizeBytes source.left
      rw [dropped] at rest readBack empty
      refine ⟨toBeBytes ciphertext.length ++ ciphertext ++ frames, count + 1, ?_, ?_, ?_⟩
      · rw [rest]
        simp only [List.append_assoc, whole, Nat.add_assoc, Nat.add_comm 1 count]
      · refine iff_of_false (Nat.succ_ne_zero count) fun none => ?_
        rw [none, List.length_nil] at plaintextLength
        omega
      · have cons := readBack.cons shortTake
          (fun more => by
            have some : source.left.drop bundleChunkSizeBytes ≠ [] := fun none =>
              absurd (empty.mpr none) (by omega)
            have long := List.length_pos_of_ne_nil some
            rw [List.length_drop] at long
            rw [List.length_take]
            omega) length decrypted
        rw [whole] at cons
        exact cons

/-- A file that is written as a payload, encrypted or not, is read back with the same key as it was,
and the payload stands its checks without the key too. -/
theorem payload_read_back [Sha256] (ideal : IdealAes256Gcm) (source : PartialReader UInt8)
    (key : Option (List UInt8)) (keyLength : ∀ secret ∈ key, secret.length = 32)
    (prefixLength : noncePrefix.length = 8) (logicalPath : String)
    (fits : source.left.length ≤ (2 ^ 32 - 1) * bundleChunkSizeBytes) :
    ∃ payload metadata,
      writeBundlePayload source key noncePrefix logicalPath = .ok (payload, metadata) ∧
      metadata.sizeBytes = source.left.length ∧
      ∀ (reader : PartialReader UInt8) (use : Option (List UInt8)) (payloadPath : String),
        reader.left = payload → use = none ∨ use = key →
        processBundleFileV2 reader use key.isSome (metadata.file logicalPath payloadPath)
          logicalPath = .ok (if key.isSome ∧ use = none then [] else source.left) := by
  cases key with
  | none =>
    refine ⟨_, _, rfl, ?_, fun reader use payloadPath left known => ?_⟩
    · dsimp only
      rw [source.drain_eq (by decide)]
    · rw [if_neg (by simp), processBundleFileV2, readPayload, if_neg (by simp)]
      dsimp only [bind, Except.bind]
      rw [reader.drain_eq (by decide), left, source.drain_eq (by decide)]
      simp [PayloadWriteMetadata.file]
  | some secret =>
    obtain ⟨frames, count, written, -, readBack⟩ := writeChunks_ok ideal
      (keyLength secret rfl) prefixLength logicalPath source {} (by simpa using fits)
    rw [List.nil_append, List.nil_append, Nat.zero_add] at written
    refine ⟨frames, _, by rw [writeBundlePayload, written]; rfl, rfl,
      fun reader use payloadPath left known => ?_⟩
    obtain ⟨last, isLast, reads⟩ := readBack.reads use reader [] {} known
      (by rw [left, List.append_nil])
    have atEnd : (last.read 1).1 = [] := by
      rw [PartialReader.read, isLast]
      exact List.take_nil
    rw [processBundleFileV2, readPayload, if_pos (by simp)]
    simp only [PayloadWriteMetadata.file, standardDecode_base64Encode, prefixLength, reads, atEnd,
      bind, Except.bind, ne_eq, not_true_eq_false, if_false, List.nil_append, Nat.zero_add]
    rw [if_neg (by rw [bundleChunkSizeBytes_eq]; decide)]
    rcases known with rfl | rfl
    · simp
    · simp

end RoundTrip

end Ledgerly
