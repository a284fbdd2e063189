/-
This file settles that the client and the server cut an attachment alike.

The server announces the size of a part with the session that it opens for a large file, and
derives the number and the lengths of the parts from the size of the file; the client derives
its ranges from the size announced. Both are the pieces of one length. The client refuses a
file of more than ten thousand parts, which the limit of the server never lets happen.

The integers of the client have 64 bits. A size for which one of its sums would not fit has
more than ten thousand parts.
-/

import Mathlib.Algebra.BigOperators.Ring.Finset
import Ledgerly.AttachmentUploads
import Ledgerly.Library.Pieces

namespace Ledgerly

/-! ### The session of the server -/

/-- `MAX_ATTACHMENT_BYTES`. -/
def maxAttachmentBytes : Nat := 20 * 1024 * 1024 * 1024

/-- The check that `validate` makes of the limit before the server starts. -/
def UploadConfig.validate (config : UploadConfig) : Except String Unit :=
  if maxAttachmentBytes < config.attachmentMaxBytes then
    .error "ATTACHMENT_MAX_BYTES must not exceed 20 GiB"
  else .ok ()

/-- What the client reads of the answer of `create_upload_session`. -/
structure UploadSession where
  attachmentId : String
  objectKey : String
  uploadMode : String
  partSizeBytes : Option Int
  maxSizeBytes : Int

/-- `create_upload_session`, for a file that the object store gives a URL of its own or none. -/
def createUploadSession (config : UploadConfig) (bookId attachmentId : String) (size : Option Int)
    (hasDirectUrl : Bool) : Except ApiError UploadSession :=
  if size.any fun size => size < 0 then
    .error ⟨400, "INVALID_ATTACHMENT_SIZE", "attachment size must not be negative"⟩
  else if size.any fun size => config.attachmentMaxBytes < size.toNat then
    .error ⟨413, "ATTACHMENT_TOO_LARGE", "attachment exceeds configured maximum size"⟩
  else
    .ok {
      attachmentId := attachmentId
      objectKey := "books/" ++ bookId ++ "/" ++ attachmentId
      uploadMode :=
        if shouldUseMultipart config size then "multipart"
        else if hasDirectUrl then "direct"
        else "proxy"
      partSizeBytes :=
        if shouldUseMultipart config size then some multipartPartSizeBytes else none
      maxSizeBytes := config.attachmentMaxBytes }

/-! ### The ranges of the client -/

/-- `_MultipartSession`. -/
structure MultipartSession where
  attachmentId : String
  objectKey : String
  uploadStatus : String
  partSizeBytes : Int
  totalParts : Int
  uploadedParts : List Int

namespace MultipartSession

/-- The session of a new upload. -/
def fresh (attachmentId objectKey : String) (partSize totalBytes : Int) : MultipartSession where
  attachmentId := attachmentId
  objectKey := objectKey
  uploadStatus := "pending"
  partSizeBytes := partSize
  totalParts := (totalBytes + partSize - 1).tdiv partSize
  uploadedParts := []

/-- `_requiredString`. -/
def requiredString (value : String) : Except String String :=
  if value = "" then .error "invalid_session_response" else .ok value

/-- `_multipartSessionFromResponse`. -/
def fromResponse (response : UploadSession) (totalBytes : Int) : Except String MultipartSession := do
  let attachmentId ← requiredString response.attachmentId
  let objectKey ← requiredString response.objectKey
  match response.partSizeBytes with
  | none => .error "invalid_session_response"
  | some partSize =>
    if partSize ≤ 0 then .error "invalid_session_response"
    else
      let session := fresh attachmentId objectKey partSize totalBytes
      if session.totalParts ≤ 0 ∨ session.totalParts > 10000 then .error "attachment_too_large"
      else .ok session

variable (session : MultipartSession) (totalBytes : Int)

/-- The parts that `_uploadMultipart` uploads, in this order. -/
def missingParts : List Int :=
  ((List.range session.totalParts.toNat).map fun (i : Nat) => (i : Int) + 1).filter
    fun partNumber => partNumber ∉ session.uploadedParts

/-- The bytes that `_uploadMultipartPart` reads. -/
def partRange (partNumber : Int) : Int × Int :=
  let start := (partNumber - 1) * session.partSizeBytes
  let nextPartEnd := start + session.partSizeBytes
  (start, if nextPartEnd < totalBytes then nextPartEnd else totalBytes)

/-- The number of these bytes. -/
def partLength (partNumber : Int) : Int :=
  (session.partRange totalBytes partNumber).2 - (session.partRange totalBytes partNumber).1

/-- `readRange` of the part. -/
def partBytes (bytes : List UInt8) (partNumber : Int) : List UInt8 :=
  Pieces.slice bytes (session.partRange bytes.length partNumber).1.toNat
    (session.partRange bytes.length partNumber).2.toNat

end MultipartSession

/-! ### One cut -/

open MultipartSession

/-- The ranges of a session are consecutive and disjoint and cover the file, and the server
expects as many parts of the same lengths. -/
structure CutsAlike (session : MultipartSession) (totalBytes : Nat) : Prop where
  count : session.totalParts = multipartPartCount totalBytes
  first : (session.partRange totalBytes 1).1 = 0
  consecutive : ∀ partNumber : Int, 1 ≤ partNumber → partNumber < session.totalParts →
    (session.partRange totalBytes partNumber).2 = (session.partRange totalBytes (partNumber + 1)).1
  last : (session.partRange totalBytes session.totalParts).2 = totalBytes
  covers : ∀ position : Int, 0 ≤ position → position < totalBytes →
    ∃! partNumber : Int, (1 ≤ partNumber ∧ partNumber ≤ session.totalParts) ∧
      (session.partRange totalBytes partNumber).1 ≤ position ∧
        position < (session.partRange totalBytes partNumber).2
  inside : ∀ partNumber : Int, 1 ≤ partNumber → partNumber ≤ session.totalParts →
    0 ≤ (session.partRange totalBytes partNumber).1 ∧ 0 < session.partLength totalBytes partNumber ∧
      (session.partRange totalBytes partNumber).2 ≤ totalBytes
  lengths : ∀ partNumber : Nat, 1 ≤ partNumber → partNumber ≤ session.totalParts →
    multipartPartLength totalBytes partNumber =
      some (session.partLength totalBytes partNumber).toNat
  valid : ∀ partNumber : Nat, 1 ≤ partNumber → partNumber ≤ session.totalParts →
    validateMultipartPart "multipart" "pending" (some totalBytes) partNumber
      (session.partLength totalBytes partNumber).toNat = .ok ()
  total : (session.missingParts.map (session.partLength totalBytes)).sum = totalBytes
  content : ∀ bytes : List UInt8, bytes.length = totalBytes →
    (session.missingParts.map (session.partBytes bytes)).flatten = bytes

section Fresh

variable {attachmentId objectKey : String} {totalBytes : Nat}

theorem multipartPartCount_eq (sizeBytes : Nat) :
    multipartPartCount sizeBytes = Pieces.count multipartPartSizeBytes sizeBytes := rfl

theorem multipartPartSizeBytes_pos : 0 < multipartPartSizeBytes := by
  unfold multipartPartSizeBytes
  decide

/-- The session of the part size that the server announces. -/
def announced (attachmentId objectKey : String) (totalBytes : Int) : MultipartSession :=
  fresh attachmentId objectKey multipartPartSizeBytes totalBytes

/-- The client rounds the quotient up as the server does. -/
theorem totalParts_announced (positive : 0 < totalBytes) :
    (announced attachmentId objectKey totalBytes).totalParts = multipartPartCount totalBytes := by
  have sum : (totalBytes : Int) + multipartPartSizeBytes - 1 =
      (totalBytes + multipartPartSizeBytes - 1 : Nat) := by omega
  rw [announced, fresh, sum, ← Int.ofNat_tdiv]
  rfl

/-- The range of a part is a piece of the file. -/
theorem partRange_announced (index : Nat) :
    (announced attachmentId objectKey totalBytes).partRange totalBytes ((index : Int) + 1) =
      ((Pieces.start multipartPartSizeBytes index : Int),
        (Pieces.stop multipartPartSizeBytes totalBytes index : Int)) := by
  rw [partRange, announced, fresh, Pieces.start, Pieces.stop, Prod.mk.injEq]
  dsimp only
  rw [add_sub_cancel_right]
  refine ⟨(Nat.cast_mul _ _).symm, ?_⟩
  rw [min_def]
  split <;> split <;> omega

theorem partLength_announced (index : Nat) :
    (announced attachmentId objectKey totalBytes).partLength totalBytes ((index : Int) + 1) =
      (Pieces.stop multipartPartSizeBytes totalBytes index : Int) -
        Pieces.start multipartPartSizeBytes index := by
  rw [partLength, partRange_announced]

/-- A part number is an index and one. -/
theorem exists_index {partNumber : Int} (lower : 1 ≤ partNumber)
    (upper : partNumber ≤ multipartPartCount totalBytes) :
    ∃ index : Nat, index < Pieces.count multipartPartSizeBytes totalBytes ∧
      partNumber = (index : Int) + 1 := by
  rw [multipartPartCount_eq] at upper
  exact ⟨(partNumber - 1).toNat, by omega, by omega⟩

/-- The length that the server expects of a part. -/
theorem multipartPartLength_succ {index : Nat}
    (inside : index < Pieces.count multipartPartSizeBytes totalBytes) :
    multipartPartLength totalBytes (index + 1) =
      some (Pieces.stop multipartPartSizeBytes totalBytes index -
        Pieces.start multipartPartSizeBytes index) := by
  have positive := multipartPartSizeBytes_pos
  rw [multipartPartLength, multipartPartCount_eq, if_neg (by omega)]
  by_cases more : index + 1 < Pieces.count multipartPartSizeBytes totalBytes
  · rw [if_pos more, Pieces.stop_eq_start more positive, Pieces.start, Pieces.start, Nat.succ_mul,
      Nat.add_sub_cancel_left]
  · have isLast : index + 1 = Pieces.count multipartPartSizeBytes totalBytes := by omega
    rw [if_neg more, Pieces.stop_last isLast positive, ← isLast, Nat.add_sub_cancel, Pieces.start]

/-- A part of the length that the server expects passes. -/
theorem validateMultipartPart_ok {partNumber length : Nat}
    (expected : multipartPartLength totalBytes partNumber = some length) :
    validateMultipartPart "multipart" "pending" (some totalBytes) partNumber length = .ok () := by
  have plan : validateMultipartPartPlan "multipart" "pending" (some (totalBytes : Int)) partNumber =
      .ok length := by
    unfold validateMultipartPartPlan
    rw [if_neg (by simp), Option.filter_some, if_pos (by simp)]
    simp only [Int.toNat_natCast, expected]
  rw [validateMultipartPart, plan]
  simp

theorem missingParts_announced (positive : 0 < totalBytes) :
    (announced attachmentId objectKey totalBytes).missingParts =
      (List.range (Pieces.count multipartPartSizeBytes totalBytes)).map
        fun (i : Nat) => (i : Int) + 1 := by
  rw [missingParts, totalParts_announced positive, Int.toNat_natCast, multipartPartCount_eq,
    List.filter_eq_self]
  intro partNumber _
  exact decide_eq_true List.not_mem_nil

/-- The bytes of a part are a slice of the file. -/
theorem partBytes_announced (bytes : List UInt8) (index : Nat) :
    (announced attachmentId objectKey bytes.length).partBytes bytes ((index : Int) + 1) =
      Pieces.slice bytes (Pieces.start multipartPartSizeBytes index)
        (Pieces.stop multipartPartSizeBytes bytes.length index) := by
  rw [partBytes, partRange_announced, Int.toNat_natCast, Int.toNat_natCast]

/-- Every position of the file is in the range of one part. -/
theorem exists_unique_part (positive : 0 < totalBytes) {position : Int} (lower : 0 ≤ position)
    (upper : position < totalBytes) :
    ∃! partNumber : Int, (1 ≤ partNumber ∧
        partNumber ≤ (announced attachmentId objectKey totalBytes).totalParts) ∧
      ((announced attachmentId objectKey totalBytes).partRange totalBytes partNumber).1 ≤ position ∧
        position <
          ((announced attachmentId objectKey totalBytes).partRange totalBytes partNumber).2 := by
  have sizePositive := multipartPartSizeBytes_pos
  obtain ⟨place, rfl⟩ := Int.eq_ofNat_of_zero_le lower
  have inside : place < totalBytes := by omega
  have named := Pieces.div_lt_count inside sizePositive
  rw [totalParts_announced positive, multipartPartCount_eq]
  have found := (Pieces.mem_piece_iff inside sizePositive).mpr rfl
  generalize place / multipartPartSizeBytes = index at named found
  refine ⟨(index : Int) + 1, ?_, ?_⟩
  · dsimp only
    rw [partRange_announced]
    exact ⟨⟨by omega, by omega⟩, Int.ofNat_le.mpr found.1, Int.ofNat_lt.mpr found.2⟩
  · rintro partNumber ⟨⟨one, most⟩, starts, stops⟩
    obtain ⟨other, -, rfl⟩ := exists_index one most
    rw [partRange_announced] at starts stops
    have same := (Pieces.mem_piece_iff inside sizePositive).mp
      ⟨Int.ofNat_le.mp starts, Int.ofNat_lt.mp stops⟩
    rw [same, (Pieces.mem_piece_iff inside sizePositive).mp found]

/-- The parts of the announced size cut every file as the server does. -/
theorem cutsAlike_announced (positive : 0 < totalBytes) :
    CutsAlike (announced attachmentId objectKey totalBytes) totalBytes := by
  have sizePositive := multipartPartSizeBytes_pos
  have count : (announced attachmentId objectKey totalBytes).totalParts =
      multipartPartCount totalBytes := totalParts_announced positive
  have nonempty : 0 < Pieces.count multipartPartSizeBytes totalBytes :=
    (Pieces.lt_count_iff sizePositive).mpr (by rwa [Pieces.start, Nat.zero_mul])
  have lengths : ∀ partNumber : Nat, 1 ≤ partNumber →
      (partNumber : Int) ≤ (announced attachmentId objectKey totalBytes).totalParts →
      multipartPartLength totalBytes partNumber =
        some ((announced attachmentId objectKey totalBytes).partLength totalBytes
          partNumber).toNat := by
    intro partNumber lower upper
    rw [count] at upper
    obtain ⟨index, inside, same⟩ := exists_index (by omega) upper
    obtain rfl : partNumber = index + 1 := by omega
    rw [multipartPartLength_succ inside, Nat.cast_succ, partLength_announced]
    exact congrArg some (by omega)
  refine ⟨count, ?_, ?_, ?_, fun position => exists_unique_part positive, ?_, lengths,
    fun partNumber lower upper => validateMultipartPart_ok (lengths partNumber lower upper), ?_, ?_⟩
  · have atFirst := @partRange_announced attachmentId objectKey totalBytes 0
    rw [Nat.cast_zero, zero_add] at atFirst
    rw [atFirst, Pieces.start, Nat.zero_mul, Nat.cast_zero]
  · intro partNumber lower upper
    rw [count] at upper
    obtain ⟨index, -, rfl⟩ := exists_index lower upper.le
    rw [multipartPartCount_eq] at upper
    rw [← Nat.cast_succ, partRange_announced, Nat.cast_succ, partRange_announced,
      Pieces.stop_eq_start (by omega) sizePositive]
  · rw [count]
    have positiveCount : (1 : Int) ≤ multipartPartCount totalBytes := by
      rw [multipartPartCount_eq]
      omega
    obtain ⟨index, inside, same⟩ := exists_index positiveCount le_rfl
    rw [same, partRange_announced]
    rw [multipartPartCount_eq] at same
    rw [Pieces.stop_last (by omega) sizePositive]
  · intro partNumber lower upper
    rw [count] at upper
    obtain ⟨index, inside, rfl⟩ := exists_index lower upper
    have ordered := Pieces.start_lt_stop inside sizePositive
    rw [partRange_announced, partLength_announced]
    exact ⟨by omega, by omega, Int.ofNat_le.mpr (min_le_right _ _)⟩
  · have sum := congrArg (Nat.cast (R := Int))
      (@Pieces.sum_lengths _ totalBytes sizePositive)
    rw [Nat.cast_list_sum, List.map_map] at sum
    rw [missingParts_announced positive, List.map_map]
    refine Eq.trans (congrArg List.sum (List.map_congr_left fun index member => ?_)) sum
    have ordered := Pieces.start_lt_stop (List.mem_range.mp member) sizePositive
    rw [Function.comp_apply, Function.comp_apply, partLength_announced, Nat.cast_sub ordered.le]
  · rintro bytes rfl
    rw [missingParts_announced positive, List.map_map]
    refine Eq.trans ?_ (Pieces.flatten_slices bytes sizePositive)
    exact congrArg List.flatten (List.map_congr_left fun index _ => partBytes_announced bytes index)

end Fresh

/-! ### The sessions that are opened -/

theorem validate_ok {config : UploadConfig} (validated : config.validate = .ok ()) :
    config.attachmentMaxBytes ≤ maxAttachmentBytes := by
  unfold UploadConfig.validate at validated
  split at validated
  · cases validated
  · rename_i fits
    exact not_lt.mp fits

/-- What the server has checked when it opens a session that announces the size of a part. -/
theorem createUploadSession_ok {config : UploadConfig} {bookId attachmentId : String}
    {totalBytes : Nat} {hasDirectUrl : Bool} {response : UploadSession}
    (opened : createUploadSession config bookId attachmentId (some totalBytes) hasDirectUrl =
      .ok response) (announces : response.partSizeBytes ≠ none) :
    totalBytes ≤ config.attachmentMaxBytes ∧ response.attachmentId = attachmentId ∧
      response.objectKey = "books/" ++ bookId ++ "/" ++ attachmentId ∧
      response.partSizeBytes = some multipartPartSizeBytes := by
  unfold createUploadSession at opened
  split at opened
  · cases opened
  · split at opened
    · cases opened
    · rename_i fits
      obtain rfl := Except.ok.inj opened
      rw [Option.any_some, decide_eq_true_iff, Int.toNat_natCast, not_lt] at fits
      refine ⟨fits, rfl, rfl, ?_⟩
      by_cases multipart : shouldUseMultipart config (some totalBytes) = true
      · exact if_pos multipart
      · exact absurd (if_neg multipart) announces

/-- A session with an acceptable number of parts is accepted. -/
theorem fromResponse_eq {response : UploadSession} {partSize totalBytes : Int}
    (named : response.attachmentId ≠ "") (keyed : response.objectKey ≠ "")
    (size : response.partSizeBytes = some partSize) (positive : 0 < partSize)
    (parts : 0 < (fresh response.attachmentId response.objectKey partSize totalBytes).totalParts ∧
      (fresh response.attachmentId response.objectKey partSize totalBytes).totalParts ≤ 10000) :
    fromResponse response totalBytes =
      .ok (fresh response.attachmentId response.objectKey partSize totalBytes) := by
  have counted : ¬((fresh response.attachmentId response.objectKey partSize totalBytes).totalParts ≤
      0 ∨ (fresh response.attachmentId response.objectKey partSize totalBytes).totalParts >
        10000) := by omega
  have idRead : requiredString response.attachmentId = .ok response.attachmentId := if_neg named
  have keyRead : requiredString response.objectKey = .ok response.objectKey := if_neg keyed
  unfold fromResponse
  rw [idRead, keyRead, size]
  dsimp only [bind, Except.bind]
  rw [if_neg (not_le.mpr positive), if_neg counted]

/-- A file within the limit of the server has few parts. -/
theorem multipartPartCount_le {totalBytes : Nat} (fits : totalBytes ≤ maxAttachmentBytes) :
    multipartPartCount totalBytes ≤ 4096 := by
  rw [multipartPartCount_eq, Pieces.count, ceilDiv_le_iff_le_mul multipartPartSizeBytes_pos]
  refine fits.trans ?_
  unfold multipartPartSizeBytes maxAttachmentBytes
  decide

/-- Every file that is not empty is cut alike by the client and the server into parts of the size
that the server announces. Under every configuration that the server starts with, the session
that it opens for such a file with the size of a part is one that the client cuts the file by. -/
theorem parts_cut_alike (attachmentId objectKey : String) (totalBytes : Nat)
    (positive : 0 < totalBytes) :
    CutsAlike (announced attachmentId objectKey totalBytes) totalBytes ∧
    ∀ (config : UploadConfig) (bookId : String) (hasDirectUrl : Bool) (response : UploadSession),
      config.validate = .ok () → attachmentId ≠ "" →
      createUploadSession config bookId attachmentId (some totalBytes) hasDirectUrl =
        .ok response → response.partSizeBytes ≠ none →
      fromResponse response totalBytes =
        .ok (announced attachmentId response.objectKey totalBytes) := by
  refine ⟨cutsAlike_announced positive, ?_⟩
  intro config bookId hasDirectUrl response validated named opened announces
  obtain ⟨fits, sameId, sameKey, size⟩ := createUploadSession_ok opened announces
  subst sameId
  have few := multipartPartCount_le (fits.trans (validate_ok validated))
  have some_ : 0 < multipartPartCount totalBytes := by
    rw [multipartPartCount_eq, Pieces.lt_count_iff multipartPartSizeBytes_pos, Pieces.start,
      Nat.zero_mul]
    exact positive
  have keyed : response.objectKey ≠ "" := by
    rw [sameKey]
    simp
  have count : (announced response.attachmentId response.objectKey totalBytes).totalParts =
      multipartPartCount totalBytes := totalParts_announced positive
  refine fromResponse_eq named keyed size (Int.ofNat_lt.mpr multipartPartSizeBytes_pos) ?_
  rw [announced] at count
  rw [count]
  exact ⟨Int.ofNat_lt.mpr some_, Int.ofNat_le.mpr (few.trans (by decide))⟩

/-- A file of ten mebibytes has two parts, on a server that keeps its objects on its disk. -/
theorem ten_mebibytes_cut_alike :
    CutsAlike (announced "a1" "books/A/a1" 10485760) 10485760 ∧
      fromResponse ⟨"a1", "books/A/a1", "multipart", some multipartPartSizeBytes, 104857600⟩
          10485760 =
        .ok (announced "a1" "books/A/a1" 10485760) := by
  have cut := parts_cut_alike "a1" "books/A/a1" 10485760 (by decide)
  refine ⟨cut.1, ?_⟩
  exact cut.2 ⟨104857600, .localDisk⟩ "A" false _ rfl (by decide) rfl (by simp)

end Ledgerly
