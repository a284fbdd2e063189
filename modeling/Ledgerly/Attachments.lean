/-
This file models the attachments of the memory store: the list the handlers scan for the
first record with an id and a book, and the plan of a multipart upload, which cuts a file in
parts of one size. What a handler does to the first record is what a scan finds afterwards.
-/

import Ledgerly.MemoryStore

namespace Ledgerly

/-- An attachment record, as far as the upload handlers go. -/
structure AttachmentRecord where
  id : String
  bookId : String
  objectKey : String
  uploadStatus : String
  sizeBytes : Option Int
  contentHash : Option String
  uploadMode : String
  multipartUploadId : Option String
  multipartParts : List String
  deriving DecidableEq

/-- `record.id == attachment_id && record.book_id == book_id`. -/
def AttachmentRecord.Is (record : AttachmentRecord) (bookId id : String) : Prop :=
  record.id = id ∧ record.bookId = bookId

instance (record : AttachmentRecord) (bookId id : String) : Decidable (record.Is bookId id) :=
  inferInstanceAs (Decidable (_ ∧ _))

/-- The scan for an attachment. -/
def findAttachment (attachments : List AttachmentRecord) (bookId id : String) :
    Option AttachmentRecord :=
  attachments.find? fun record => record.Is bookId id

/-- What a handler does through `iter_mut().find`. -/
def updateAttachment (attachments : List AttachmentRecord) (bookId id : String)
    (change : AttachmentRecord → AttachmentRecord) : List AttachmentRecord :=
  match attachments with
  | [] => []
  | record :: rest =>
    if record.Is bookId id then change record :: rest
    else record :: updateAttachment rest bookId id change

/-- What a handler does through `retain`. -/
def removeAttachment (attachments : List AttachmentRecord) (bookId id : String) :
    List AttachmentRecord :=
  attachments.filter fun record => ¬record.Is bookId id

section Scans

variable {attachments : List AttachmentRecord} {bookId id : String}

theorem findAttachment_update {change : AttachmentRecord → AttachmentRecord}
    (same : ∀ record : AttachmentRecord, record.Is bookId id → (change record).Is bookId id) :
    findAttachment (updateAttachment attachments bookId id change) bookId id =
      (findAttachment attachments bookId id).map change := by
  induction attachments with
  | nil => rfl
  | cons record rest inductionHypothesis =>
    unfold findAttachment at inductionHypothesis ⊢
    rw [updateAttachment]
    by_cases here : record.Is bookId id
    · rw [if_pos here, List.find?_cons_of_pos (by simpa using same record here),
        List.find?_cons_of_pos (by simpa using here), Option.map_some]
    · rw [if_neg here, List.find?_cons_of_neg (by simpa using here),
        List.find?_cons_of_neg (by simpa using here), inductionHypothesis]

theorem findAttachment_remove :
    findAttachment (removeAttachment attachments bookId id) bookId id = none := by
  rw [findAttachment, List.find?_eq_none]
  intro record member
  simpa using (List.mem_filter.mp member).2

end Scans

/-! ### Multipart plans -/

/-- The size of a part, the last one aside. -/
@[irreducible] def multipartPartSizeBytes : Nat := 5 * 1024 * 1024

/-- The number of parts that a file is cut into. -/
def multipartPartCount (sizeBytes : Nat) : Nat :=
  (sizeBytes + multipartPartSizeBytes - 1) / multipartPartSizeBytes

/-- The size of a part, if the file has a part of this number. -/
def multipartPartLength (sizeBytes partNumber : Nat) : Option Nat :=
  let totalParts := multipartPartCount sizeBytes
  if partNumber = 0 ∨ totalParts < partNumber then none
  else if partNumber < totalParts then some multipartPartSizeBytes
  else some (sizeBytes - (totalParts - 1) * multipartPartSizeBytes)

/-- The error for parts in the row that cannot be read, -/
def invalidMultipartState : ApiError :=
  ⟨500, "INVALID_MULTIPART_STATE", "multipart state is invalid"⟩

/-- for an attachment that is not there, -/
def attachmentMissing : ApiError := ⟨404, "NOT_FOUND", "attachment missing"⟩

/-- and for one that takes no parts. -/
def multipartNotPending : ApiError :=
  ⟨409, "MULTIPART_NOT_PENDING", "attachment is not pending multipart upload"⟩

/-- `validate_multipart_part_plan`: the length of the part. -/
def validateMultipartPartPlan (uploadMode uploadStatus : String) (sizeBytes : Option Int)
    (partNumber : Nat) : Except ApiError Nat :=
  if uploadMode ≠ "multipart" ∨ uploadStatus ≠ "pending" then .error multipartNotPending
  else
    match sizeBytes.filter fun size => 0 ≤ size with
    | none => .error ⟨400, "INVALID_MULTIPART_STATE", "multipart upload size is invalid"⟩
    | some size =>
      match multipartPartLength size.toNat partNumber with
      | none => .error ⟨400, "INVALID_MULTIPART_PART", "multipart part number is out of range"⟩
      | some length => .ok length

/-- `validate_multipart_part`. -/
def validateMultipartPart (uploadMode uploadStatus : String) (sizeBytes : Option Int)
    (partNumber actualLength : Nat) : Except ApiError Unit :=
  match validateMultipartPartPlan uploadMode uploadStatus sizeBytes partNumber with
  | .error error => .error error
  | .ok expected =>
    if actualLength ≠ expected then
      .error ⟨422, "INVALID_MULTIPART_PART_SIZE",
        "multipart part size does not match the upload plan"⟩
    else .ok ()

/-- `parse_multipart_parts`. -/
def parseMultipartParts (value : Json) : Except ApiError (List String) :=
  match value.asArray? with
  | none => .error invalidMultipartState
  | some parts =>
    match parts.mapM Json.asStr? with
    | none => .error invalidMultipartState
    | some parts => .ok parts

/-- The parts as the JSON array a handler makes of them. -/
def multipartPartsJson (parts : List String) : Json := .arr (parts.map .str)

/-- The list with a part in its place, as long as the plan has parts. -/
def placePart (parts : List String) (totalParts partNumber : Nat) (partId : String) :
    List String :=
  (parts ++ List.replicate (totalParts - parts.length) "").set (partNumber - 1) partId

/-- `update_multipart_part`: the new parts. -/
def updateMultipartPart (value : Json) (sizeBytes partNumber : Nat) (partId : String) :
    Except ApiError Json :=
  match parseMultipartParts value with
  | .error error => .error error
  | .ok parts =>
    if multipartPartCount sizeBytes < parts.length then .error invalidMultipartState
    else
      .ok (multipartPartsJson (placePart parts (multipartPartCount sizeBytes) partNumber partId))

/-- The id of a part that is there. A part that is not there yet has the empty text in the list
of part ids. -/
structure PartId where
  text : String
  nonempty : text ≠ ""

/-- `char::is_control`. -/
def isControl (character : Char) : Bool :=
  character.toNat < 0x20 || (0x7F ≤ character.toNat && character.toNat ≤ 0x9F)

/-- `normalize_multipart_part_id`. -/
def normalizeMultipartPartId (value : String) : Except ApiError PartId :=
  let value := trim value
  if empty : value = "" then
    .error ⟨400, "INVALID_MULTIPART_PART_ID", "multipart part id is invalid"⟩
  else if 1024 < value.utf8ByteSize ∨ value.toList.any isControl then
    .error ⟨400, "INVALID_MULTIPART_PART_ID", "multipart part id is invalid"⟩
  else .ok ⟨value, empty⟩

/-- `multipart_upload_status`: the numbers of the parts that are there. -/
def uploadedPartNumbers (record : AttachmentRecord) : Except ApiError (List Nat) :=
  if record.uploadMode ≠ "multipart" then
    .error ⟨409, "MULTIPART_NOT_PENDING", "attachment is not a multipart upload"⟩
  else
    match record.sizeBytes.filter fun size => 0 ≤ size with
    | none => .error ⟨400, "INVALID_MULTIPART_STATE", "multipart upload size is invalid"⟩
    | some _ =>
      .ok ((record.multipartParts.zipIdx.filter fun part => part.1 ≠ "").map fun part => part.2 + 1)

/-! ### The parts of a plan -/

theorem multipartPartCount_zero : multipartPartCount 0 = 0 := by
  rw [multipartPartCount, multipartPartSizeBytes]

theorem parseMultipartParts_json (parts : List String) :
    parseMultipartParts (multipartPartsJson parts) = .ok parts := by
  have read : (parts.map Json.str).mapM Json.asStr? = some parts := by
    induction parts with
    | nil => rfl
    | cons part rest inductionHypothesis =>
      rw [List.map_cons, List.mapM_cons, inductionHypothesis]
      rfl
  show (match (parts.map Json.str).mapM Json.asStr? with
    | none => Except.error invalidMultipartState
    | some parts => .ok parts) = _
  rw [read]

/-- What an update makes of the list of parts that a record has. -/
theorem updateMultipartPart_ok {parts : List String} {sizeBytes partNumber : Nat} {partId : String}
    {partsJson : Json}
    (updated : updateMultipartPart (multipartPartsJson parts) sizeBytes partNumber partId =
      .ok partsJson) :
    parts.length ≤ multipartPartCount sizeBytes ∧ partsJson =
      multipartPartsJson (placePart parts (multipartPartCount sizeBytes) partNumber partId) := by
  unfold updateMultipartPart at updated
  rw [parseMultipartParts_json] at updated
  generalize multipartPartCount sizeBytes = totalParts at updated ⊢
  dsimp only at updated
  split_ifs at updated with tooLong
  exact ⟨Nat.not_lt.mp tooLong, (Except.ok.inj updated).symm⟩

/-- A part with a plan is one of the plan, of a pending multipart upload of a size. -/
theorem validateMultipartPartPlan_ok {uploadMode uploadStatus : String} {sizeBytes : Option Int}
    {partNumber length : Nat}
    (valid : validateMultipartPartPlan uploadMode uploadStatus sizeBytes partNumber = .ok length) :
    uploadMode = "multipart" ∧ ∃ size : Int, sizeBytes = some size ∧ 0 ≤ size ∧ 0 < partNumber ∧
      partNumber ≤ multipartPartCount size.toNat := by
  unfold validateMultipartPartPlan at valid
  split at valid
  · cases valid
  · rename_i pending
    rw [not_or, not_not] at pending
    refine ⟨pending.1, ?_⟩
    split at valid
    · cases valid
    · rename_i size found
      obtain ⟨known, nonnegative⟩ := Option.filter_eq_some_iff.mp found
      refine ⟨size, known, of_decide_eq_true nonnegative, ?_⟩
      split at valid
      · cases valid
      · rename_i planned
        unfold multipartPartLength at planned
        dsimp only at planned
        split at planned
        · cases planned
        · rename_i inRange
          rw [not_or, Nat.not_lt] at inRange
          exact ⟨Nat.pos_of_ne_zero inRange.1, inRange.2⟩

section Places

variable {parts : List String} {totalParts partNumber : Nat} {partId : String}

/-- A part is in its place. -/
theorem getElem?_placePart_self (fits : parts.length ≤ totalParts) (positive : 0 < partNumber)
    (inPlan : partNumber ≤ totalParts) :
    (placePart parts totalParts partNumber partId)[partNumber - 1]? = some partId := by
  rw [placePart, List.getElem?_set_self]
  rw [List.length_append, List.length_replicate]
  omega

/-- Another part that was there is still there. -/
theorem getElem?_placePart_of_ne {other : Nat} {otherId : String} (positive : 0 < partNumber)
    (otherPositive : 0 < other) (different : other ≠ partNumber)
    (held : parts[other - 1]? = some otherId) :
    (placePart parts totalParts partNumber partId)[other - 1]? = some otherId := by
  have inside := (List.getElem?_eq_some_iff.mp held).1
  rw [placePart, List.getElem?_set_ne (by omega), List.getElem?_append_left inside, held]

/-- The status of an upload lists the parts that are there. -/
theorem mem_uploadedPartNumbers {record : AttachmentRecord} {size : Int}
    (mode : record.uploadMode = "multipart") (known : record.sizeBytes = some size)
    (nonnegative : 0 ≤ size) (positive : 0 < partNumber)
    (held : record.multipartParts[partNumber - 1]? = some partId) (nonempty : partId ≠ "") :
    ∃ numbers, uploadedPartNumbers record = .ok numbers ∧ partNumber ∈ numbers := by
  have answer : uploadedPartNumbers record =
      .ok ((record.multipartParts.zipIdx.filter fun part => part.1 ≠ "").map
        fun part => part.2 + 1) := by
    unfold uploadedPartNumbers
    rw [if_neg (not_not.mpr mode), known, Option.filter_some, if_pos (decide_eq_true nonnegative)]
  refine ⟨_, answer, List.mem_map.mpr ⟨(partId, partNumber - 1), ?_, ?_⟩⟩
  · exact List.mem_filter.mpr ⟨List.mem_zipIdx_iff_getElem?.mpr held, decide_eq_true nonempty⟩
  · show partNumber - 1 + 1 = partNumber
    omega

end Places

end Ledgerly
