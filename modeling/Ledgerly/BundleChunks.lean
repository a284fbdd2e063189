/-
This file proves what a reader can get out of an encrypted bundle if nothing can be decrypted of it
but chunks that were sealed: whatever the manifest says, the files that are unpacked are empty, or
files that were sealed, each under its own name, cut after a whole number of chunks.

A chunk is bound to its file and to its place there by the associated data, which is the name of the
file, a zero byte and the number of the chunk.
-/

import Ledgerly.BundleReplicas
import Ledgerly.Library.Pieces

namespace Ledgerly

/-! ### Associated data -/

theorem ofNat_ne_zero {value : Nat} (positive : 0 < value) (small : value < 256) :
    (0 : UInt8) ≠ UInt8.ofNat value := by
  intro same
  have digits := congrArg UInt8.toNat same
  rw [UInt8.toNat_ofNat', Nat.mod_eq_of_lt small] at digits
  exact absurd digits (by simp; omega)

theorem zero_notMem_utf8EncodeChar {character : Char} (notNul : character ≠ Char.ofNat 0) :
    (0 : UInt8) ∉ String.utf8EncodeChar character := by
  have positive : 0 < character.val.toNat := by
    refine Nat.pos_of_ne_zero fun zero => notNul (Char.ext (UInt32.toNat_inj.mp ?_))
    rw [zero]
    rfl
  have byte := @ofNat_ne_zero
  rw [String.utf8EncodeChar]
  split
  · simp only [List.mem_cons, List.not_mem_nil, or_false]
    exact byte positive (by omega)
  split
  · simp only [List.mem_cons, List.not_mem_nil, not_or, or_false]
    exact ⟨byte (by omega) (by omega), byte (by omega) (by omega)⟩
  split
  · simp only [List.mem_cons, List.not_mem_nil, not_or, or_false]
    exact ⟨byte (by omega) (by omega), byte (by omega) (by omega), byte (by omega) (by omega)⟩
  · simp only [List.mem_cons, List.not_mem_nil, not_or, or_false]
    exact ⟨byte (by omega) (by omega), byte (by omega) (by omega), byte (by omega) (by omega),
      byte (by omega) (by omega)⟩

/-- Only a NUL is written with a zero byte. -/
theorem nul_mem_of_zero_mem {text : String} (member : 0 ∈ utf8Encode text) :
    Char.ofNat 0 ∈ text.toList := by
  rw [utf8Encode, String.toUTF8_eq_toByteArray, ← String.utf8Encode_toList, List.utf8Encode,
    List.data_toByteArray, List.toList_toArray, List.mem_flatMap] at member
  obtain ⟨character, inText, isZero⟩ := member
  by_contra missing
  exact zero_notMem_utf8EncodeChar (fun same => missing (same ▸ inText)) isZero

theorem utf8Encode_injective : Function.Injective utf8Encode := by
  intro one two same
  have texts := congrArg (fun bytes : List UInt8 => String.fromUTF8? ⟨bytes.toArray⟩) same
  rw [fromUTF8?_toUTF8, fromUTF8?_toUTF8] at texts
  exact Option.some.inj texts

/-- The associated data tells the file and the chunk. -/
theorem chunkAad_inj {one two : String} {indexOne indexTwo : Nat} (smallOne : indexOne < 2 ^ 32)
    (smallTwo : indexTwo < 2 ^ 32) (same : chunkAad one indexOne = chunkAad two indexTwo) :
    one = two ∧ indexOne = indexTwo := by
  obtain ⟨names, numbers⟩ := List.append_inj' same rfl
  exact ⟨utf8Encode_injective (List.append_inj' names rfl).1,
    toBeBytes_injective smallOne smallTwo numbers⟩

/-- No file of the first schema has the associated data of a chunk, but for a name with a NUL. -/
theorem nul_mem_of_chunkAad {name logicalPath : String} {index : Nat}
    (same : utf8Encode logicalPath = chunkAad name index) : Char.ofNat 0 ∈ logicalPath.toList := by
  refine nul_mem_of_zero_mem ?_
  rw [same, chunkAad]
  exact List.mem_append_left _ (List.mem_append_right _ List.mem_cons_self)

/-! ### Chunks -/

/-- A chunk of a file, by its number. -/
def chunkOf (content : List UInt8) (index : Nat) : List UInt8 :=
  Pieces.slice content (Pieces.start bundleChunkSizeBytes index)
    (Pieces.stop bundleChunkSizeBytes content.length index)

theorem flatten_chunks (content : List UInt8) (count : Nat) :
    ((List.range count).map (chunkOf content)).flatten =
      content.take (count * bundleChunkSizeBytes) :=
  Pieces.flatten_take content bundleChunkSizeBytes count

theorem chunkOf_eq (content : List UInt8) (index : Nat) :
    chunkOf content index =
      (content.drop (index * bundleChunkSizeBytes)).take bundleChunkSizeBytes := by
  rw [chunkOf, Pieces.slice, Pieces.start, Pieces.stop, List.take_eq_take_iff, List.length_drop]
  omega

/-- The frame of that number, where a payload is a row of frames: the length of each in four bytes,
and the frame itself. -/
def frameAt : Nat → List UInt8 → Option (List UInt8)
  | 0, payload =>
    if payload.length < 4 + ofBeBytes (payload.take 4) then none
    else some ((payload.drop 4).take (ofBeBytes (payload.take 4)))
  | index + 1, payload => frameAt index (payload.drop (4 + ofBeBytes (payload.take 4)))

section Frames

variable {lengthBytes ciphertext : List UInt8} (rest : List UInt8)

theorem frameAt_zero (four : lengthBytes.length = 4)
    (length : ofBeBytes lengthBytes = ciphertext.length) :
    frameAt 0 (lengthBytes ++ ciphertext ++ rest) = some ciphertext := by
  have taken : (lengthBytes ++ ciphertext ++ rest).take 4 = lengthBytes := by
    rw [List.append_assoc, ← four, List.take_left]
  have dropped : (lengthBytes ++ ciphertext ++ rest).drop 4 = ciphertext ++ rest := by
    rw [List.append_assoc, ← four, List.drop_left]
  rw [frameAt, taken, dropped, length, List.take_left, if_neg]
  rw [List.length_append, List.length_append, four]
  omega

theorem frameAt_succ (four : lengthBytes.length = 4)
    (length : ofBeBytes lengthBytes = ciphertext.length) (index : Nat) :
    frameAt (index + 1) (lengthBytes ++ ciphertext ++ rest) = frameAt index rest := by
  have taken : (lengthBytes ++ ciphertext ++ rest).take 4 = lengthBytes := by
    rw [List.append_assoc, ← four, List.take_left]
  rw [frameAt, taken, length, ← four, ← List.length_append, List.drop_left]

end Frames

/-- A chunk of one of the files, under its own associated data. -/
def Sealed (inputs : List (String × List UInt8)) (associated plaintext : List UInt8) : Prop :=
  ∃ input ∈ inputs, ∃ index < 2 ^ 32,
    associated = chunkAad input.1 index ∧ plaintext = chunkOf input.2 index

section Sealing

variable [Aes256Gcm] {key noncePrefix : List UInt8} {logicalPath : String}

/-- The frames that the writer's loop adds hold the chunks of the file, in their order. -/
theorem writeChunks_seals (content : List UInt8) (source : PartialReader UInt8)
    (written after : ChunksWritten)
    (left : source.left = content.drop (written.chunkCount * bundleChunkSizeBytes))
    (succeeded : writeChunks key noncePrefix logicalPath source written = .ok after) :
    ∃ frames count, after.chunkCount = written.chunkCount + count ∧
      after.stored = written.stored ++ frames ∧
      ∀ index < count, written.chunkCount + index < 2 ^ 32 ∧
        ∃ ciphertext, frameAt index frames = some ciphertext ∧
          Aes256Gcm.encrypt key (chunkNonce noncePrefix (written.chunkCount + index))
            (chunkAad logicalPath (written.chunkCount + index))
            (chunkOf content (written.chunkCount + index)) = some ciphertext := by
  induction size : source.left.length using Nat.strong_induction_on generalizing source written with
  | _ size inductionHypothesis =>
    subst size
    obtain ⟨taken, dropped⟩ := source.fill_eq bundleChunkSizeBytes
    have chunk := bundleChunkSizeBytes_eq
    rw [writeChunks] at succeeded
    by_cases nothing : (source.fill bundleChunkSizeBytes).1 = []
    · rw [dif_pos nothing] at succeeded
      obtain rfl := Except.ok.inj succeeded
      exact ⟨[], 0, rfl, (List.append_nil _).symm, fun index inside => absurd inside (by omega)⟩
    · rw [dif_neg nothing] at succeeded
      have isChunk : (source.fill bundleChunkSizeBytes).1 = chunkOf content written.chunkCount := by
        rw [taken, left, chunkOf_eq]
      have positive : 0 < source.left.length := by
        rw [taken, List.take_eq_nil_iff, not_or] at nothing
        exact List.length_pos_of_ne_nil nothing.2
      split at succeeded
      · cases succeeded
      rename_i ciphertext encrypted
      split at succeeded
      · cases succeeded
      rename_i short
      split at succeeded
      · cases succeeded
      obtain ⟨frames, count, counted, stored, each⟩ := inductionHypothesis _ (by
          rw [dropped, List.length_drop]
          omega) _ _ (by
          rw [dropped, left, List.drop_drop, Nat.add_mul, Nat.one_mul]) succeeded rfl
      have length := ofBeBytes_toBeBytes (Nat.lt_of_not_le short)
      refine ⟨toBeBytes ciphertext.length ++ ciphertext ++ frames, count + 1, ?_, ?_,
        fun index inside => ?_⟩
      · rw [counted]
        dsimp only
        omega
      · rw [stored]
        simp only [List.append_assoc]
      · cases index with
        | zero =>
          rw [isChunk] at encrypted
          exact ⟨by omega, ciphertext, frameAt_zero frames rfl length, encrypted⟩
        | succ index =>
          have later := each index (Nat.lt_of_succ_lt_succ inside)
          dsimp only at later
          rw [Nat.add_assoc, Nat.add_comm 1 index] at later
          obtain ⟨small, next, isFrame, nextEncrypted⟩ := later
          exact ⟨small, next, (frameAt_succ frames rfl length index).trans isFrame, nextEncrypted⟩

/-- The frames of a payload, each of which can be decrypted only if it was sealed, hold chunks of
one file. -/
theorem readChunks_sealed {inputs : List (String × List UInt8)}
    (unique : ∀ one ∈ inputs, ∀ two ∈ inputs, one.1 = two.1 → one = two) {chunkSize : Nat}
    {remaining index : Nat} (counted : index + remaining ≤ 2 ^ 32)
    {reader last : PartialReader UInt8}
    (opens : ∀ offset < remaining, ∀ ciphertext plaintext,
      frameAt offset reader.left = some ciphertext →
      Aes256Gcm.decrypt key (chunkNonce noncePrefix (index + offset))
        (chunkAad logicalPath (index + offset)) ciphertext = some plaintext →
      Sealed inputs (chunkAad logicalPath (index + offset)) plaintext)
    {read after : PayloadRead}
    (succeeded : readChunks (some key) noncePrefix logicalPath chunkSize remaining index reader read =
      .ok (last, after)) :
    (remaining = 0 ∧ after.plain = read.plain) ∨
      ∃ input ∈ inputs, input.1 = logicalPath ∧
        after.plain = read.plain ++ ((List.range' index remaining).map (chunkOf input.2)).flatten := by
  induction remaining generalizing index reader read with
  | zero =>
    obtain ⟨-, rfl⟩ := Prod.mk.inj (Except.ok.inj succeeded)
    exact Or.inl ⟨rfl, rfl⟩
  | succ remaining inductionHypothesis =>
    rw [readChunks] at succeeded
    split at succeeded
    · cases succeeded
    rename_i lengthBytes afterLength lengthRead
    obtain ⟨four, whole, -⟩ := PartialReader.exactly_eq_some_iff.mp lengthRead
    dsimp only at succeeded
    split at succeeded
    · cases succeeded
    split at succeeded
    · cases succeeded
    split at succeeded
    · cases succeeded
    split at succeeded
    · cases succeeded
    rename_i ciphertext afterFrame frameRead
    obtain ⟨length, frame, -⟩ := PartialReader.exactly_eq_some_iff.mp frameRead
    split at succeeded
    · cases succeeded
    rename_i plaintext decrypted
    split at succeeded
    · cases succeeded
    have framed : reader.left = lengthBytes ++ ciphertext ++ afterFrame.left := by
      rw [whole, frame, List.append_assoc]
    obtain ⟨input, isInput, other, small, associated, rfl⟩ :=
      opens 0 (Nat.succ_pos _) ciphertext plaintext
        (by rw [framed]; exact frameAt_zero _ four length.symm) decrypted
    obtain ⟨name, rfl⟩ := chunkAad_inj (by omega) small associated
    refine Or.inr ⟨input, isInput, name.symm, ?_⟩
    rw [List.range'_succ, List.map_cons, List.flatten_cons, ← List.append_assoc]
    have opensLater : ∀ offset < remaining, ∀ ciphertext plaintext,
        frameAt offset afterFrame.left = some ciphertext →
        Aes256Gcm.decrypt key (chunkNonce noncePrefix (index + 1 + offset))
          (chunkAad logicalPath (index + 1 + offset)) ciphertext = some plaintext →
        Sealed inputs (chunkAad logicalPath (index + 1 + offset)) plaintext := by
      intro offset inside next plaintext isFrame
      rw [Nat.add_assoc, Nat.add_comm 1 offset]
      refine opens (offset + 1) (Nat.succ_lt_succ inside) next plaintext ?_
      rw [framed]
      exact (frameAt_succ _ four length.symm offset).trans isFrame
    rcases inductionHypothesis (by omega) opensLater succeeded with
      ⟨rfl, plain⟩ | ⟨same, isSame, sameName, plain⟩
    · rw [plain, List.range'_zero, List.map_nil, List.flatten_nil, List.append_nil, Nat.add_zero]
    · obtain rfl := unique same isSame input isInput (sameName.trans name)
      exact plain

end Sealing

/-! ### Files -/

section Presenting

/-- What a reader decrypts of a file, with its nonce and its associated data: under the second
schema the frames that are counted, and under the first one the payload. -/
def BundleFile.Presents (file : BundleFile) (schemaVersion : Nat)
    (payload nonce associated ciphertext : List UInt8) : Prop :=
  ∃ text drawn, file.nonceBase64 = some text ∧ standardDecode text = some drawn ∧
    if 2 ≤ schemaVersion then
      ∃ count index, file.chunkCount = some count ∧ index < count ∧
        frameAt index payload = some ciphertext ∧ nonce = chunkNonce drawn index ∧
        associated = chunkAad file.logicalPath index
    else ciphertext = payload ∧ nonce = drawn ∧ associated = utf8Encode file.logicalPath

/-- What a reader decrypts of the files of a bundle. -/
def BundleManifest.Presents (manifest : BundleManifest) (bundle : Directory)
    (nonce associated ciphertext : List UInt8) : Prop :=
  ∃ file ∈ manifest.files, ∃ payload, bundle.lookup (segments file.payloadPath) = some payload ∧
    file.Presents manifest.schemaVersion payload nonce associated ciphertext

end Presenting

section Files

variable [Aes256Gcm] [Sha256] {inputs : List (String × List UInt8)}

/-- What can be decrypted of a file was sealed. -/
def BundleFile.Opens (file : BundleFile) (schemaVersion : Nat)
    (inputs : List (String × List UInt8)) (key payload : List UInt8) : Prop :=
  ∀ nonce associated ciphertext plaintext,
    file.Presents schemaVersion payload nonce associated ciphertext →
    Aes256Gcm.decrypt key nonce associated ciphertext = some plaintext →
    Sealed inputs associated plaintext

/-- What can be decrypted of the files of a bundle was sealed. -/
def BundleManifest.Opens (manifest : BundleManifest) (bundle : Directory)
    (inputs : List (String × List UInt8)) (key : List UInt8) : Prop :=
  ∀ file ∈ manifest.files, ∀ payload, bundle.lookup (segments file.payloadPath) = some payload →
    file.Opens manifest.schemaVersion inputs key payload

/-- The contents are empty, or those of a file of the name, cut after a number of chunks. -/
def CutFrom (inputs : List (String × List UInt8)) (logicalPath : String) (content : List UInt8) :
    Prop :=
  content = [] ∨ ∃ input ∈ inputs, input.1 = logicalPath ∧
    ∃ count, content = input.2.take (count * bundleChunkSizeBytes)

omit [Sha256] in
theorem readPayload_cut {key : List UInt8} {reader : PartialReader UInt8} {file : BundleFile}
    {schemaVersion : Nat} (second : 2 ≤ schemaVersion)
    (opens : file.Opens schemaVersion inputs key reader.left)
    (unique : ∀ one ∈ inputs, ∀ two ∈ inputs, one.1 = two.1 → one = two)
    (counted : ∀ count ∈ file.chunkCount, count < 2 ^ 32) {after : PayloadRead}
    (succeeded : readPayload reader (some key) true file file.logicalPath = .ok after) :
    CutFrom inputs file.logicalPath after.plain := by
  rw [readPayload, if_pos rfl] at succeeded
  split at succeeded
  · cases succeeded
  split at succeeded
  · cases succeeded
  rename_i count isCount
  split at succeeded
  · cases succeeded
  rename_i text isText
  split at succeeded
  · cases succeeded
  rename_i drawn isDrawn
  split at succeeded
  · cases succeeded
  split at succeeded
  · cases succeeded
  obtain ⟨⟨last, found⟩, read, ended⟩ := Except.bind_eq_ok.mp succeeded
  dsimp only at ended
  split at ended
  · cases ended
  obtain rfl := Except.ok.inj ended
  have small := counted count isCount
  have opensFrames : ∀ offset < count, ∀ ciphertext plaintext,
      frameAt offset reader.left = some ciphertext →
      Aes256Gcm.decrypt key (chunkNonce drawn (0 + offset)) (chunkAad file.logicalPath (0 + offset))
        ciphertext = some plaintext →
      Sealed inputs (chunkAad file.logicalPath (0 + offset)) plaintext := by
    intro offset inside ciphertext plaintext isFrame
    rw [Nat.zero_add]
    refine opens _ _ ciphertext plaintext ⟨text, drawn, isText, isDrawn, ?_⟩
    rw [if_pos second]
    exact ⟨count, offset, isCount, inside, isFrame, rfl, rfl⟩
  rcases readChunks_sealed unique (by omega) opensFrames read with
    ⟨-, plain⟩ | ⟨input, isInput, name, plain⟩
  · exact Or.inl plain
  · rw [← List.range_eq_range', flatten_chunks, List.nil_append] at plain
    exact Or.inr ⟨input, isInput, name, count, plain⟩

theorem processBundleFileV2_cut {key : List UInt8} {reader : PartialReader UInt8}
    {file : BundleFile} {schemaVersion : Nat} (second : 2 ≤ schemaVersion)
    (opens : file.Opens schemaVersion inputs key reader.left)
    (unique : ∀ one ∈ inputs, ∀ two ∈ inputs, one.1 = two.1 → one = two)
    (counted : ∀ count ∈ file.chunkCount, count < 2 ^ 32) {plain : List UInt8}
    (succeeded : processBundleFileV2 reader (some key) true file file.logicalPath = .ok plain) :
    CutFrom inputs file.logicalPath plain := by
  rw [processBundleFileV2] at succeeded
  obtain ⟨after, read, checked⟩ := Except.bind_eq_ok.mp succeeded
  split at checked
  · cases checked
  split at checked
  · cases checked
  split at checked
  · cases checked
  obtain rfl := Except.ok.inj checked
  exact readPayload_cut second opens unique counted read

section Loops

variable {manifest : BundleManifest} {bundle : Directory} {key : List UInt8}

/-- The loop of `process_bundle_files_v2` unpacks files that are cut at most. -/
theorem processFiles_cut (second : 2 ≤ manifest.schemaVersion)
    (opens : manifest.Opens bundle inputs key)
    (unique : ∀ one ∈ inputs, ∀ two ∈ inputs, one.1 = two.1 → one = two)
    (counted : ∀ file ∈ manifest.files, ∀ count ∈ file.chunkCount, count < 2 ^ 32)
    {reads : ReadSizes} {processed : BundleProcessed}
    (succeeded : manifest.files.foldlM (processFile bundle (some key) true true reads) {} =
      .ok processed)
    {path : List String} {content : List UInt8}
    (found : processed.output.lookup path = some content) :
    ∃ logicalPath, segments logicalPath = path ∧ CutFrom inputs logicalPath content := by
  revert path content
  refine List.invariant_of_foldlM_ok (P := fun processed : BundleProcessed =>
    ∀ {path content}, processed.output.lookup path = some content →
      ∃ logicalPath, segments logicalPath = path ∧ CutFrom inputs logicalPath content)
    (fun file member state next keeps step path content found => ?_) (fun found => ?_) succeeded
  · obtain ⟨payload, plain, -, -, -, inBundle, creatable, read, rfl⟩ := processFile_eq_ok step
    dsimp only at found
    rw [if_pos rfl, FileTree.lookup_create plain (creatable rfl).1] at found
    split at found
    · rename_i same
      obtain rfl := Option.some.inj found
      exact ⟨file.logicalPath, same.symm, processBundleFileV2_cut second
        (opens file member payload inBundle) unique (counted file member) read⟩
    · exact keeps found
  · rw [FileTree.lookup_empty] at found
    cases found

/-- What the loop of `read_bundle_files_v1` decrypts has a NUL in its name. -/
theorem readFilesV1_nul (first : ¬2 ≤ manifest.schemaVersion)
    (opens : manifest.Opens bundle inputs key) {read : BundleReadV1}
    (succeeded : manifest.files.foldlM (readFileV1 bundle (some key) true) {} = .ok read) :
    ∀ file ∈ read.files, Char.ofNat 0 ∈ file.1.toList := by
  refine List.invariant_of_foldlM_ok (P := fun read : BundleReadV1 =>
    ∀ file ∈ read.files, Char.ofNat 0 ∈ file.1.toList)
    (fun file isFile state next keeps step => ?_) (fun _ => List.not_mem_nil.elim) succeeded
  obtain ⟨stored, plaintext, -, inBundle, decrypts, appended⟩ := readFileV1_eq_ok step
  rw [if_pos rfl, decryptV1] at decrypts
  split at decrypts
  · cases decrypts
  rename_i text isText
  split at decrypts
  · cases decrypts
  rename_i drawn isDrawn
  split at decrypts
  · cases decrypts
  split at decrypts
  · cases decrypts
  rename_i decrypted
  have presents : file.Presents manifest.schemaVersion stored drawn
      (utf8Encode file.logicalPath) stored := by
    refine ⟨text, drawn, isText, isDrawn, ?_⟩
    rw [if_neg first]
    exact ⟨rfl, rfl, rfl⟩
  obtain ⟨input, -, index, -, associated, -⟩ :=
    opens file isFile stored inBundle _ _ _ _ presents decrypted
  intro other member
  rw [appended] at member
  rcases List.mem_append.mp member with before | last
  · exact keeps other before
  · rw [List.mem_singleton.mp last]
    exact nul_mem_of_chunkAad associated

end Loops

end Files

/-! ### What is unpacked -/

section Bundles

variable [Aes256Gcm] [Sha256] [KeyDerivation] [BundleManifestText] {password : String}
  {tampered : Directory} {manifest : BundleManifest} {inputs : List (String × List UInt8)}

/-- The counts of chunks in the manifest of a bundle are of 32 bits. -/
def CountsFit (bundle : Directory) : Prop :=
  ∀ manifest, readBundleManifest bundle = .ok manifest → ∀ file ∈ manifest.files,
    ∀ count ∈ file.chunkCount, count < 2 ^ 32

/-- A bundle is encrypted under a key, as far as its manifest goes. -/
def HasKey (password : String) (bundle : Directory) (key : List UInt8) : Prop :=
  ∃ manifest, readBundleManifest bundle = .ok manifest ∧ manifest.key (some password) = .ok (some key)

/-- A reader with the password decrypts this of a bundle. -/
def Decrypts (password : String) (bundle : Directory)
    (key nonce associated ciphertext : List UInt8) : Prop :=
  ∃ manifest, readBundleManifest bundle = .ok manifest ∧
    manifest.key (some password) = .ok (some key) ∧
    manifest.Presents bundle nonce associated ciphertext

omit [Aes256Gcm] [Sha256] [KeyDerivation] in
theorem readBundleManifest_eq_ok {bundle : Directory}
    (read : readBundleManifest bundle = .ok manifest) :
    manifest.encrypted = manifest.encryption.isSome := by
  rw [readBundleManifest] at read
  split at read
  · cases read
  split at read
  · cases read
  split at read
  · cases read
  split at read
  · cases read
  split at read
  · cases read
  split at read
  · cases read
  rename_i encrypted
  obtain rfl := Except.ok.inj read
  exact not_not.mp encrypted

omit [Aes256Gcm] [Sha256] [BundleManifestText] in
/-- There is a key where something is encrypted. -/
theorem key_eq_ok {key : Option (List UInt8)} (encrypted : manifest.encrypted = true)
    (described : manifest.encrypted = manifest.encryption.isSome)
    (derived : manifest.key (some password) = .ok key) : ∃ secret, key = some secret := by
  obtain ⟨encryption, isSome⟩ := Option.isSome_iff_exists.mp (described.symm.trans encrypted)
  rw [BundleManifest.key, if_pos encrypted, isSome, bundleKey] at derived
  cases found : deriveBundleKey password encryption with
  | error error => rw [found] at derived; cases derived
  | ok secret =>
    rw [found] at derived
    exact ⟨secret, (Except.ok.inj derived).symm⟩

section Accepted

variable (opens : ∀ key, manifest.key (some password) = .ok (some key) →
  manifest.Opens tampered inputs key)

include opens

/-- What is unpacked under the second schema is cut at most. -/
theorem processBundleFilesV2_cut (second : 2 ≤ manifest.schemaVersion) (fit : CountsFit tampered)
    (unique : ∀ one ∈ inputs, ∀ two ∈ inputs, one.1 = two.1 → one = two)
    (encrypted : manifest.encrypted = true) (read : readBundleManifest tampered = .ok manifest)
    {reads : ReadSizes} {output : Directory} {plaintextVerified : Bool}
    (processed : processBundleFilesV2 tampered manifest (some password) true reads =
      .ok (output, plaintextVerified))
    {path : List String} {content : List UInt8} (found : output.lookup path = some content) :
    ∃ logicalPath, segments logicalPath = path ∧ CutFrom inputs logicalPath content := by
  rw [processBundleFilesV2, encrypted] at processed
  split at processed
  · cases processed
  obtain ⟨key, derived, opened⟩ := Except.bind_eq_ok.mp processed
  obtain ⟨secret, rfl⟩ := key_eq_ok encrypted (readBundleManifest_eq_ok read) derived
  split at opened
  · cases opened
  obtain ⟨after, folds, checked⟩ := Except.bind_eq_ok.mp opened
  split at checked
  · cases checked
  obtain ⟨rfl, -⟩ := Prod.mk.inj (Except.ok.inj checked)
  exact processFiles_cut second (opens secret derived) unique (fit manifest read) folds found

/-- What is read under the first schema has names with a NUL. -/
theorem readBundleFilesV1_nul (first : ¬2 ≤ manifest.schemaVersion)
    (encrypted : manifest.encrypted = true) (read : readBundleManifest tampered = .ok manifest)
    {files : List (String × List UInt8)}
    (filesRead : readBundleFilesV1 tampered manifest (some password) = .ok files) :
    ∀ file ∈ files, Char.ofNat 0 ∈ file.1.toList := by
  rw [readBundleFilesV1, encrypted] at filesRead
  split at filesRead
  · cases filesRead
  obtain ⟨key, derived, opened⟩ := Except.bind_eq_ok.mp filesRead
  obtain ⟨secret, rfl⟩ := key_eq_ok encrypted (readBundleManifest_eq_ok read) derived
  obtain ⟨after, folds, checked⟩ := Except.bind_eq_ok.mp opened
  split at checked
  · cases checked
  obtain rfl := Except.ok.inj checked
  exact readFilesV1_nul first (opens secret derived) folds

omit opens
omit [Aes256Gcm] [Sha256] [KeyDerivation] [BundleManifestText] in
/-- No file has a NUL in its name. -/
theorem unpackFilesV1_plain {files : List (String × List UInt8)} {output : Directory}
    (made : files.foldlM unpackFileV1 .empty = .ok output) :
    ∀ file ∈ files, Char.ofNat 0 ∉ file.1.toList := by
  refine List.forall_of_foldlM_ok (fun output file next step => ?_) made
  rw [unpackFileV1] at step
  split at step
  · rename_i creatable
    exact creatable.2
  · cases step

include opens

/-- Whatever was sealed, the files that are unpacked are cut from those that were. -/
theorem unpackBackupBundle_cut (fit : CountsFit tampered)
    (unique : ∀ one ∈ inputs, ∀ two ∈ inputs, one.1 = two.1 → one = two)
    (read : readBundleManifest tampered = .ok manifest) {reads : ReadSizes} {unpacked : Directory}
    {report : BackupBundleReport}
    (accepted : unpackBackupBundle tampered (some password) reads = .ok (unpacked, report))
    (encrypted : report.encrypted = true) {path : List String} {content : List UInt8}
    (found : unpacked.lookup path = some content) :
    ∃ logicalPath, segments logicalPath = path ∧ CutFrom inputs logicalPath content := by
  rw [unpackBackupBundle] at accepted
  obtain ⟨other, isRead, opened⟩ := Except.bind_eq_ok.mp accepted
  obtain rfl := Except.ok.inj (read.symm.trans isRead)
  split at opened
  · cases opened
  split at opened
  · rename_i second
    obtain ⟨⟨output, plaintextVerified⟩, processed, made⟩ := Except.bind_eq_ok.mp opened
    obtain ⟨rfl, rfl⟩ := Prod.mk.inj (Except.ok.inj made)
    exact processBundleFilesV2_cut opens second fit unique encrypted read processed found
  · rename_i first
    obtain ⟨files, filesRead, unpacks⟩ := Except.bind_eq_ok.mp opened
    obtain ⟨output, made, done⟩ := Except.bind_eq_ok.mp unpacks
    obtain ⟨rfl, rfl⟩ := Prod.mk.inj (Except.ok.inj done)
    have nul := readBundleFilesV1_nul opens first encrypted read filesRead
    have none : files = [] := List.eq_nil_iff_forall_not_mem.mpr fun file member =>
      unpackFilesV1_plain made file member (nul file member)
    subst none
    obtain rfl := Except.ok.inj made
    rw [FileTree.lookup_empty] at found
    cases found

end Accepted

end Bundles

end Ledgerly
