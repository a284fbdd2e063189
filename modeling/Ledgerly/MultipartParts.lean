/-
This file models the requests for the parts of one multipart upload against the memory store.

`complete_multipart_part` reads the list of parts under the read lock, puts its part into that
list, and writes the whole list back under the write lock. `upload_multipart_part` reads under
one lock too, but then puts only its own part into the list that it finds under the other. The
requests of abort and of delete remove the record between any two of these moments.

A part has at most one request, so that requests go by part numbers.
-/

import Ledgerly.Attachments

namespace Ledgerly

open Machine

/-- Where the objects are kept. -/
inductive ObjectStoreBackend where
  | localDisk
  | s3
  deriving DecidableEq

/-- A request for a part: `upload_multipart_part` with the length of its body, or
`complete_multipart_part` with the id of its body. -/
inductive PartRequest where
  | upload (length : Nat)
  | complete (partId : String)

/-- Where the request for a part is. -/
inductive PartPhase where
  | idle
  | waiting (request : PartRequest)
  /-- The object store has the bytes. -/
  | storing (sizeBytes : Int)
  /-- The part is stored, the write lock not taken. -/
  | recording (sizeBytes : Int) (partId : PartId)
  /-- The list of parts is made, the write lock not taken. -/
  | merging (partsJson : Json) (partId : PartId)
  | answered (answer : Except ApiError PartId)
  | panicked

/-- The id that a request was answered with. -/
def PartPhase.answeredId? : PartPhase → Option String
  | .answered (.ok partId) => some partId.text
  | _ => none

/-- The request has ended in a panic. -/
def PartPhase.isPanicked : PartPhase → Bool
  | .panicked => true
  | _ => false

/-- `abort_multipart_upload` and `delete_attachment`. -/
inductive Removal where
  | abort
  | delete
  deriving DecidableEq

/-- Where a request that removes the attachment is. -/
inductive RemovalPhase where
  | idle
  | waiting (removal : Removal)
  /-- The object store has been asked to drop the upload or the object. -/
  | dropping
  /-- The object store has dropped it, the write lock not taken. -/
  | removing
  | answered (answer : Except ApiError Unit)
  deriving DecidableEq

/-- What happens next. What the object store answers is the environment's choice: the id of a
part is the part's number on the local disk, an entity tag of S3, and in neither case empty. -/
inductive PartAction (Name : Type) where
  | request (partNumber : Nat) (request : PartRequest)
  | go (partNumber : Nat)
  | stored (partNumber : Nat) (result : Option PartId)
  | remove (name : Name) (removal : Removal)
  | goRemoval (name : Name)
  | dropped (name : Name) (succeeded : Bool)

/-- The attachments of the store, and the requests for one of them. -/
structure PartWorld (Name : Type) where
  attachments : List AttachmentRecord
  parts : Nat → PartPhase
  removals : Name → RemovalPhase

/-- No request has come yet. -/
def PartWorld.start (Name : Type) (attachments : List AttachmentRecord) : PartWorld Name :=
  ⟨attachments, fun _ => .idle, fun _ => .idle⟩

/-! ### The handlers -/

/-- The error for an object store that does not answer. -/
def objectStoreFailed : ApiError := ⟨500, "OBJECT_STORE_IO", "object storage unavailable"⟩

/-- `upload_multipart_part` as far as the object store. -/
def uploadMultipartPart (found : Option AttachmentRecord) (partNumber length : Nat) : PartPhase :=
  if length = 0 then
    .answered (.error ⟨400, "EMPTY_MULTIPART_PART", "multipart part must not be empty"⟩)
  else
    match found with
    | none => .answered (.error attachmentMissing)
    | some record =>
      let sizeBytes := record.sizeBytes.getD 0
      match validateMultipartPart record.uploadMode record.uploadStatus (some sizeBytes)
          partNumber length with
      | .error error => .answered (.error error)
      | .ok _ => .storing sizeBytes

/-- `complete_multipart_part` as far as the write lock. -/
def completeMultipartPart (backend : ObjectStoreBackend) (found : Option AttachmentRecord)
    (partNumber : Nat) (partId : String) : PartPhase :=
  if backend ≠ .s3 then
    .answered (.error ⟨409, "MULTIPART_DIRECT_UNAVAILABLE",
      "direct multipart upload is unavailable"⟩)
  else
    match normalizeMultipartPartId partId with
    | .error error => .answered (.error error)
    | .ok partId =>
      match found with
      | none => .answered (.error attachmentMissing)
      | some record =>
        match validateMultipartPartPlan record.uploadMode record.uploadStatus record.sizeBytes
            partNumber with
        | .error error => .answered (.error error)
        | .ok _ =>
          match updateMultipartPart (multipartPartsJson record.multipartParts)
              (record.sizeBytes.getD 0).toNat partNumber partId.text with
          | .error error => .answered (.error error)
          | .ok partsJson => .merging partsJson partId

/-- The end of `upload_multipart_part`, under the write lock: what it makes of the list of
parts, and its answer. -/
def recordPart (parts : List String) (sizeBytes : Int) (partNumber : Nat) (partId : PartId) :
    Except ApiError (List String) :=
  if multipartPartCount sizeBytes.toNat < parts.length then .error invalidMultipartState
  else .ok (placePart parts (multipartPartCount sizeBytes.toNat) partNumber partId.text)

/-- `abort_multipart_upload` and `delete_attachment` as far as the object store. -/
def startRemoval (found : Option AttachmentRecord) (removal : Removal) : RemovalPhase :=
  match found with
  | none => .answered (.error attachmentMissing)
  | some record =>
    if removal = .abort ∧ (record.uploadMode ≠ "multipart" ∨ record.uploadStatus ≠ "pending") then
      .answered (.error multipartNotPending)
    else .dropping

namespace PartWorld

variable {Name : Type} [DecidableEq Name] (backend : ObjectStoreBackend) (bookId id : String)
  (world : PartWorld Name)

/-- The record of the attachment, while there is one. -/
def record? : Option AttachmentRecord := findAttachment world.attachments bookId id

/-- The request about a part comes to a phase. -/
def answer (partNumber : Nat) (phase : PartPhase) : PartWorld Name :=
  { world with parts := Function.update world.parts partNumber phase }

/-- The write lock: the record is expected, and gets the new parts if there are any. -/
def writeParts (partNumber : Nat) (partId : PartId)
    (parts : List String → Except ApiError (List String)) : PartWorld Name :=
  match world.record? bookId id with
  | none => world.answer partNumber .panicked
  | some record =>
    match parts record.multipartParts with
    | .error error => world.answer partNumber (.answered (.error error))
    | .ok parts =>
      { world with
        attachments := updateAttachment world.attachments bookId id fun record =>
          { record with multipartParts := parts }
        parts := Function.update world.parts partNumber (.answered (.ok partId)) }

/-- What an action does. -/
def step : PartAction Name → PartWorld Name
  | .request partNumber request =>
    match world.parts partNumber with
    | .idle => world.answer partNumber (.waiting request)
    | _ => world
  | .go partNumber =>
    match world.parts partNumber with
    | .waiting (.upload length) =>
      world.answer partNumber (uploadMultipartPart (world.record? bookId id) partNumber length)
    | .waiting (.complete partId) =>
      world.answer partNumber
        (completeMultipartPart backend (world.record? bookId id) partNumber partId)
    | .recording sizeBytes partId =>
      world.writeParts bookId id partNumber partId fun parts =>
        recordPart parts sizeBytes partNumber partId
    | .merging partsJson partId =>
      world.writeParts bookId id partNumber partId fun _ => parseMultipartParts partsJson
    | _ => world
  | .stored partNumber result =>
    match world.parts partNumber with
    | .storing sizeBytes =>
      match result with
      | some partId => world.answer partNumber (.recording sizeBytes partId)
      | none => world.answer partNumber (.answered (.error objectStoreFailed))
    | _ => world
  | .remove name removal =>
    match world.removals name with
    | .idle => { world with removals := Function.update world.removals name (.waiting removal) }
    | _ => world
  | .goRemoval name =>
    match world.removals name with
    | .waiting removal =>
      { world with
        removals := Function.update world.removals name
          (startRemoval (world.record? bookId id) removal) }
    | .removing =>
      { world with
        attachments := removeAttachment world.attachments bookId id
        removals := Function.update world.removals name (.answered (.ok ())) }
    | _ => world
  | .dropped name succeeded =>
    match world.removals name with
    | .dropping =>
      { world with
        removals := Function.update world.removals name
          (if succeeded then .removing else .answered (.error objectStoreFailed)) }
    | _ => world

end PartWorld

end Ledgerly
