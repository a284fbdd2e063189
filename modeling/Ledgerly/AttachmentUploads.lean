/-
This file models the life of one attachment against PostgreSQL and the object store: its row, the
object that is stored under its key, the parts of a multipart upload, and the requests that work
on them.

`complete_attachment` looks at the object in three calls of the object store and only then marks
the row; a signed URL accepts a PUT until it expires, whatever the row says. Only the parts and
the purge hold the lock of the row over a call of the object store. A request may end at any
time, as the connection of its client does, and its transaction then ends with it.
-/

import Ledgerly.MultipartParts
import Ledgerly.BackupFiles

namespace Ledgerly

/-- How a call of the object store or a statement ends: it is done, it fails, or it is done and
the answer is an error all the same. -/
inductive Reply where
  | done
  | failed (text : String)
  | lost (text : String)
  deriving DecidableEq

/-- The call has had its effect. -/
def Reply.takesEffect : Reply → Bool
  | .failed _ => false
  | _ => true

/-- What the configuration says of attachments. -/
structure UploadConfig where
  attachmentMaxBytes : Nat
  objectStorageBackend : ObjectStoreBackend

/-- The requests about an attachment that run in steps. -/
inductive UploadRequest where
  | complete
  /-- `upload_multipart_part`, with the id that the object store gives the part. -/
  | uploadPart (partNumber : Nat) (body : List UInt8) (partId : PartId)
  | completePart (partNumber : Nat) (partId : String)
  | abort
  | delete
  /-- `purge_stale_attachments`, at a time when the row is old enough for it. -/
  | purge

/-- Where a request is: which call comes next. -/
inductive UploadPhase where
  | idle
  | waiting (request : UploadRequest)
  | assembling (expectedSize : Option Int) (uploadId : Option String) (partIds : List String)
  | measuring (expectedSize : Option Int) (uploadId : Option String)
  | hashing (actualSize : Nat) (uploadId : Option String)
  | marking (sizeBytes : Nat) (sha256 : String)
  | signing
  | rejecting (uploadId : Option String)
  | dropping
  | failing
  | storingPart (record : AttachmentRecord) (partNumber : Nat) (body : List UInt8) (partId : PartId)
  | recordingPart (parts : List String)
  | aborting (uploadId : Option String)
  | deleting
  | removing
  | purging (uploadId : Option String)
  | purgingObject
  | committing (deleted : Bool)
  | answered (answer : Except ApiError Unit)

/-- An attachment, its object and its parts, and the requests about it that are running. -/
structure UploadWorld (Name : Type) where
  row : Option AttachmentRecord := none
  created : Bool := false
  object : Option (List UInt8) := none
  storedParts : String → Option (List UInt8) := fun _ => none
  /-- The signature of the session's URL has not expired. -/
  uploadUrl : Bool := false
  /-- Who holds the lock of the row. -/
  lock : Option Name := none
  phases : Name → UploadPhase := fun _ => .idle
  /-- What the row was whenever `complete_attachment` answered that it is ready. -/
  readyAnswers : List (Option AttachmentRecord) := []

/-- What can happen to an attachment. -/
inductive UploadAction (Name : Type) where
  /-- `create_upload_session`, with the upload id that the object store gives. -/
  | createSession (size : Option Int) (uploadId : Option String)
  | expireUrl
  /-- `put_object`. -/
  | put (body : List UInt8)
  /-- A part that is stored through a URL of the object store. -/
  | putPart (partId : PartId) (body : List UInt8)
  | request (name : Name) (request : UploadRequest)
  | go (name : Name) (reply : Reply)
  /-- The request ends, and with it its transaction. -/
  | cancel (name : Name)

/-! ### The handlers between two calls -/

/-- The error of a statement that fails. -/
def dbError (text : String) : ApiError := ⟨500, "DB_ERROR", text⟩

/-- A file of more than the size that the object store takes at once is sent in parts. -/
def shouldUseMultipart (config : UploadConfig) (size : Option Int) : Bool :=
  match size with
  | none => false
  | some size =>
    (match config.objectStorageBackend with
      | .localDisk => 7 * 1024 * 1024
      | .s3 => 64 * 1024 * 1024) < size

/-- The row of a new session, if the size is one that is accepted. -/
def newAttachment (config : UploadConfig) (bookId id : String) (size : Option Int)
    (uploadId : Option String) : Option AttachmentRecord :=
  if size.any fun size => size < 0 || config.attachmentMaxBytes < size.toNat then none
  else some {
    id := id
    bookId := bookId
    objectKey := "books/" ++ bookId ++ "/" ++ id
    uploadStatus := "pending"
    sizeBytes := size
    contentHash := none
    uploadMode := if shouldUseMultipart config size then "multipart" else "single"
    multipartUploadId := if shouldUseMultipart config size then uploadId else none
    multipartParts := [] }

/-- `complete_attachment` as far as the object store. -/
def startComplete (found : Option AttachmentRecord) : UploadPhase :=
  match found with
  | none => .answered (.error attachmentMissing)
  | some record =>
    if record.uploadMode = "multipart" then
      match record.sizeBytes with
      | none =>
        .answered (.error ⟨400, "INVALID_MULTIPART_STATE", "multipart upload size is missing"⟩)
      | some sizeBytes =>
        if sizeBytes < 0 then
          .answered (.error ⟨400, "INVALID_MULTIPART_STATE", "multipart upload size is invalid"⟩)
        else if record.multipartParts.length ≠ multipartPartCount sizeBytes.toNat ∨
            "" ∈ record.multipartParts then
          .answered (.error ⟨400, "MULTIPART_INCOMPLETE",
            "not all multipart parts have been uploaded"⟩)
        else .assembling (some sizeBytes) record.multipartUploadId record.multipartParts
    else .measuring record.sizeBytes record.multipartUploadId

/-- What `complete_attachment` makes of the size of the object. -/
def checkSize (config : UploadConfig) (expectedSize : Option Int) (uploadId : Option String)
    (actualSize : Option Nat) : UploadPhase :=
  match actualSize with
  | none =>
    .answered (.error ⟨400, "UPLOAD_INCOMPLETE", "object not found in object storage"⟩)
  | some actualSize =>
    if config.attachmentMaxBytes < actualSize ∨
        expectedSize.any fun size => size < 0 || size.toNat ≠ actualSize then .rejecting uploadId
    else .hashing actualSize uploadId

/-- What `complete_attachment` makes of the metadata of the object. -/
def checkMetadata [Sha256] (actualSize : Nat) (uploadId : Option String)
    (object : Option (List UInt8)) : UploadPhase :=
  match object with
  | none => .answered (.error objectStoreFailed)
  | some bytes =>
    if bytes.length ≠ actualSize then .rejecting uploadId
    else .marking bytes.length (Sha256.hex bytes)

/-- The row after `complete_attachment` has verified the object, -/
def markReady (sizeBytes : Nat) (sha256 : String) (record : AttachmentRecord) : AttachmentRecord :=
  { record with
    uploadStatus := "ready"
    sizeBytes := some sizeBytes
    contentHash := some sha256
    multipartUploadId := none
    multipartParts := [] }

/-- and after it has refused it. -/
def markFailed (record : AttachmentRecord) : AttachmentRecord :=
  { record with uploadStatus := "failed" }

/-- `upload_multipart_part` as far as the object store. -/
def startUploadPart (found : Option AttachmentRecord) (partNumber : Nat) (body : List UInt8)
    (partId : PartId) : UploadPhase :=
  if body = [] then
    .answered (.error ⟨400, "EMPTY_MULTIPART_PART", "multipart part must not be empty"⟩)
  else
    match found with
    | none => .answered (.error attachmentMissing)
    | some record =>
      match validateMultipartPart record.uploadMode record.uploadStatus record.sizeBytes partNumber
          body.length with
      | .error error => .answered (.error error)
      | .ok _ => .storingPart record partNumber body partId

/-- `complete_multipart_part`, under the lock: the new list of parts. -/
def completedParts (config : UploadConfig) (found : Option AttachmentRecord) (partNumber : Nat)
    (partId : String) : Except ApiError (List String) :=
  if config.objectStorageBackend ≠ .s3 then
    .error ⟨409, "MULTIPART_DIRECT_UNAVAILABLE", "direct multipart upload is unavailable"⟩
  else do
    let partId ← normalizeMultipartPartId partId
    match found with
    | none => .error attachmentMissing
    | some record =>
      let _ ← validateMultipartPartPlan record.uploadMode record.uploadStatus record.sizeBytes
        partNumber
      recordPart record.multipartParts (record.sizeBytes.getD 0) partNumber partId

/-- `abort_multipart_upload` as far as the object store. -/
def startAbort (found : Option AttachmentRecord) : UploadPhase :=
  match found with
  | none => .answered (.error attachmentMissing)
  | some record =>
    if record.uploadMode ≠ "multipart" ∨ record.uploadStatus ≠ "pending" then
      .answered (.error multipartNotPending)
    else .aborting record.multipartUploadId

/-- `delete_attachment` as far as the object store. -/
def startDelete (found : Option AttachmentRecord) : UploadPhase :=
  match found with
  | none => .answered (.error attachmentMissing)
  | some _ => .deleting

/-- What the purge does with a row that it may delete. -/
def startPurge (found : Option AttachmentRecord) : Option UploadPhase :=
  match found with
  | none => none
  | some record =>
    if record.uploadStatus = "pending" ∨ record.uploadStatus = "failed" then
      some (if record.uploadMode = "multipart" then .purging record.multipartUploadId
        else .purgingObject)
    else none

namespace UploadWorld

variable {Name : Type} [DecidableEq Name] [Sha256] (config : UploadConfig) (bookId id : String)
  (world : UploadWorld Name)

/-! ### Effects -/

/-- A request goes on in another phase. -/
def move (name : Name) (phase : UploadPhase) : UploadWorld Name :=
  { world with phases := Function.update world.phases name phase }

/-- The end of a transaction that holds the lock. -/
def release (name : Name) : UploadWorld Name :=
  if world.lock = some name then { world with lock := none } else world

/-- A call of the object store or a statement by `name`, with what it does to the world. -/
def call (name : Name) (reply : Reply) (effect : UploadWorld Name → UploadWorld Name)
    (next : UploadPhase) (error : String → ApiError) : UploadWorld Name :=
  match reply with
  | .done => (effect world).move name next
  | .failed text => world.move name (.answered (.error (error text)))
  | .lost text => (effect world).move name (.answered (.error (error text)))

/-- A call whose error is ignored. -/
def tryCall (name : Name) (reply : Reply) (effect : UploadWorld Name → UploadWorld Name)
    (next : UploadPhase) : UploadWorld Name :=
  (if reply.takesEffect then effect world else world).move name next

/-- Bytes are stored under the key. -/
def store (bytes : List UInt8) : UploadWorld Name := { world with object := some bytes }

/-- The object is removed. -/
def dropObject : UploadWorld Name := { world with object := none }

/-- The bytes of a part are stored under its id. -/
def storePart (partId : PartId) (body : List UInt8) : UploadWorld Name :=
  { world with storedParts := Function.update world.storedParts partId.text (some body) }

/-- A statement writes the row. -/
def writeRow (row : Option AttachmentRecord → Option AttachmentRecord) : UploadWorld Name :=
  { world with row := row world.row }

/-- `abort_multipart_for_config`. S3 needs the id of the upload for it. -/
def abortMultipart (uploadId : Option String) : UploadWorld Name :=
  if config.objectStorageBackend = .s3 ∧ uploadId = none then world
  else { world with storedParts := fun _ => none }

/-- The parts of an upload as one object, if they are all there. -/
def assembled (uploadId : Option String) (partIds : List String) : Option (List UInt8) :=
  if config.objectStorageBackend = .s3 ∧ uploadId = none then none
  else (partIds.mapM world.storedParts).map List.flatten

/-! ### Steps -/

/-- The first statement of a request. -/
def start (name : Name) : UploadRequest → UploadWorld Name
  | .complete => world.move name (startComplete world.row)
  | .uploadPart partNumber body partId =>
    if world.lock.isSome then world
    else
      match startUploadPart world.row partNumber body partId with
      | .storingPart record partNumber body partId =>
        { world.move name (.storingPart record partNumber body partId) with lock := some name }
      | phase => world.move name phase
  | .completePart partNumber partId =>
    if world.lock.isSome then world
    else
      match completedParts config world.row partNumber partId with
      | .error error => world.move name (.answered (.error error))
      | .ok parts =>
        { world.move name (.recordingPart parts) with lock := some name }
  | .abort => world.move name (startAbort world.row)
  | .delete => world.move name (startDelete world.row)
  | .purge =>
    -- SKIP LOCKED: a row that is locked is left out.
    if world.lock.isSome then world.move name (.answered (.ok ()))
    else
      match startPurge world.row with
      | none => world.move name (.answered (.ok ()))
      | some phase => { world.move name phase with lock := some name }

/-- `complete_multipart_for_config`. -/
def assemble (name : Name) (reply : Reply) (expectedSize : Option Int) (uploadId : Option String)
    (partIds : List String) : UploadWorld Name :=
  match world.assembled config uploadId partIds with
  | none => world.move name (.answered (.error objectStoreFailed))
  | some bytes =>
    world.call name reply (fun world => { world.store bytes with storedParts := fun _ => none })
      (.measuring expectedSize uploadId) fun _ => objectStoreFailed

/-- The UPDATE of `complete_attachment`. -/
def mark (name : Name) (reply : Reply) (sizeBytes : Nat) (sha256 : String) : UploadWorld Name :=
  if world.lock.isSome then world
  else
    world.call name reply (fun world => world.writeRow fun row => row.map (markReady sizeBytes sha256))
      .signing dbError

/-- The end of `complete_attachment`. -/
def sign (name : Name) (reply : Reply) : UploadWorld Name :=
  match reply with
  | .done =>
    { world.move name (.answered (.ok ())) with readyAnswers := world.row :: world.readyAnswers }
  | _ => world.move name (.answered (.error objectStoreFailed))

/-- `mark_attachment_failed`, at the end of `reject_attachment_upload`. -/
def fail (name : Name) (reply : Reply) : UploadWorld Name :=
  if world.lock.isSome then world
  else
    world.tryCall name reply (fun world => world.writeRow fun row => row.map markFailed)
      (.answered (.error ⟨422, "UPLOAD_SIZE_MISMATCH",
        "uploaded attachment size does not match the upload session"⟩))

/-- `put_multipart_part_for_config`, under the lock, and the list of parts that is made then. -/
def uploadPart (name : Name) (reply : Reply) (parts : Except ApiError (List String))
    (body : List UInt8) (partId : PartId) : UploadWorld Name :=
  match reply with
  | .done =>
    match parts with
    | .error error =>
      ((world.storePart partId body).move name (.answered (.error error))).release name
    | .ok parts => (world.storePart partId body).move name (.recordingPart parts)
  | .failed _ => (world.move name (.answered (.error objectStoreFailed))).release name
  | .lost _ =>
    ((world.storePart partId body).move name (.answered (.error objectStoreFailed))).release name

/-- The DELETE of `delete_attachment` and of `abort_multipart_upload`. -/
def remove (name : Name) (reply : Reply) : UploadWorld Name :=
  if world.lock.isSome then world
  else world.call name reply (fun world => world.writeRow fun _ => none) (.answered (.ok ())) dbError

/-- The COMMIT of the purge, with which others see its DELETE. -/
def commitPurge (name : Name) (reply : Reply) (deleted : Bool) : UploadWorld Name :=
  (world.call name reply (fun world => if deleted then world.writeRow fun _ => none else world)
    (.answered (.ok ())) dbError).release name

/-- The next call of a request, by its phase. -/
def advance (name : Name) (reply : Reply) : UploadPhase → UploadWorld Name
  | .idle | .answered _ => world
  | .waiting request => world.start config name request
  | .assembling expectedSize uploadId partIds =>
    world.assemble config name reply expectedSize uploadId partIds
  | .measuring expectedSize uploadId =>
    world.call name reply (fun world => world)
      (checkSize config expectedSize uploadId (world.object.map List.length))
      fun _ => objectStoreFailed
  | .hashing actualSize uploadId =>
    world.call name reply (fun world => world) (checkMetadata actualSize uploadId world.object)
      fun _ => objectStoreFailed
  | .marking sizeBytes sha256 => world.mark name reply sizeBytes sha256
  | .signing => world.sign name reply
  | .rejecting uploadId =>
    world.tryCall name reply
      (fun world => if uploadId.isSome then world.abortMultipart config uploadId else world) .dropping
  | .dropping => world.tryCall name reply dropObject .failing
  | .failing => world.fail name reply
  | .storingPart record partNumber body partId =>
    world.uploadPart name reply
      (recordPart record.multipartParts (record.sizeBytes.getD 0) partNumber partId) body partId
  | .recordingPart parts =>
    (world.call name reply
      (fun world => world.writeRow fun row =>
        row.map fun record => { record with multipartParts := parts })
      (.answered (.ok ())) dbError).release name
  | .aborting uploadId =>
    world.call name reply (fun world => world.abortMultipart config uploadId) .removing
      fun _ => objectStoreFailed
  | .deleting => world.call name reply dropObject .removing fun _ => objectStoreFailed
  | .removing => world.remove name reply
  | .purging uploadId =>
    world.tryCall name reply (fun world => world.abortMultipart config uploadId)
      (if reply = .done then .purgingObject else .committing false)
  | .purgingObject => world.tryCall name reply dropObject (.committing (reply = .done))
  | .committing deleted => world.commitPurge name reply deleted

/-- A request goes on with the answer to what it waits for. -/
def go (name : Name) (reply : Reply) : UploadWorld Name :=
  world.advance config name reply (world.phases name)

/-- What an action does. -/
def step : UploadAction Name → UploadWorld Name
  | .createSession size uploadId =>
    if world.created then world
    else
      match newAttachment config bookId id size uploadId with
      | none => world
      | some record =>
        { world with
          row := some record
          created := true
          uploadUrl := record.uploadMode = "single" }
  | .expireUrl => { world with uploadUrl := false }
  | .put body => if world.uploadUrl then world.store body else world
  | .putPart partId body => world.storePart partId body
  | .request name request =>
    match world.phases name with
    | .idle => world.move name (.waiting request)
    | _ => world
  | .go name reply => world.go config name reply
  | .cancel name => (world.move name (.answered (.error (dbError "cancelled")))).release name

end UploadWorld

end Ledgerly
