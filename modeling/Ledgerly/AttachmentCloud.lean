/-
This file models what the client keeps of the upload of its attachments, and the three calls that
work on it: the upload of one attachment, the retries of failed ones, and the synchronisation with
the attachments of the server.

A call goes from one await to the next. What it awaits is answered by the environment: by the
server, by the file system, or by the local database, whose statements take effect when they are
awaited. Calls run side by side, and the app may be killed between any two steps, which ends every
call and keeps the database.
-/

import Ledgerly.AttachmentBackup
import Ledgerly.Library.Run
import Ledgerly.PartPlan
import Mathlib.Data.Int.ConditionallyCompleteOrder
import Mathlib.Data.List.Sort
import Mathlib.Data.Prod.Lex

namespace Ledgerly

/-! ### The rows -/

/-- `AttachmentCloudStatus`. The first one is `local`. -/
inductive AttachmentCloudStatus where
  | localOnly
  | uploading
  | ready
  | failed
  deriving DecidableEq

/-- A row of `local_attachments`. The time of the next retry is in milliseconds. -/
structure CloudAttachment extends LocalAttachmentRecord where
  cloudUploadStatus : AttachmentCloudStatus := .localOnly
  remoteAttachmentId : Option String := none
  remoteObjectKey : Option String := none
  remoteUploadError : Option String := none
  retryAttemptCount : Int := 0
  nextRetryAt : Option Int := none
  remoteUploadMode : Option String := none
  remotePartSizeBytes : Option Int := none

/-- `UPDATE local_attachments SET … WHERE id = ?` -/
def updateRows (id : String) (change : CloudAttachment → CloudAttachment)
    (rows : List CloudAttachment) : List CloudAttachment :=
  rows.map fun row => if row.id = id then change row else row

/-- An upload begins, and the last error is forgotten. -/
def markCloudUploading (id : String) : List CloudAttachment → List CloudAttachment :=
  updateRows id fun row => { row with cloudUploadStatus := .uploading, remoteUploadError := none }

/-- The server has given the upload its id and key, which are kept for a resumption. -/
def markCloudUploadStarted (id remoteAttachmentId remoteObjectKey uploadMode : String)
    (partSizeBytes : Option Int) : List CloudAttachment → List CloudAttachment :=
  updateRows id fun row =>
    { row with
      cloudUploadStatus := .uploading
      remoteAttachmentId := some remoteAttachmentId
      remoteObjectKey := some remoteObjectKey
      remoteUploadMode := some uploadMode
      remotePartSizeBytes := partSizeBytes
      remoteUploadError := none }

/-- The server has the file, and nothing is left to retry. -/
def markCloudReady (id remoteAttachmentId remoteObjectKey : String) :
    List CloudAttachment → List CloudAttachment :=
  updateRows id fun row =>
    { row with
      cloudUploadStatus := .ready
      remoteAttachmentId := some remoteAttachmentId
      remoteObjectKey := some remoteObjectKey
      remoteUploadError := none
      retryAttemptCount := 0
      nextRetryAt := none }

/-- The upload has failed; it may be retried from a time on. -/
def markCloudFailed (id error : String) (retryAttemptCount : Int) (nextRetryAt : Option Int) :
    List CloudAttachment → List CloudAttachment :=
  updateRows id fun row =>
    { row with
      cloudUploadStatus := .failed
      remoteUploadError := some error
      retryAttemptCount
      nextRetryAt }

/-- What was kept for a resumption is dropped. -/
def clearRemoteUploadState (id : String) : List CloudAttachment → List CloudAttachment :=
  updateRows id fun row =>
    { row with
      remoteAttachmentId := none
      remoteObjectKey := none
      remoteUploadMode := none
      remotePartSizeBytes := none }

/-- `delete`. -/
def deleteRow (id : String) (rows : List CloudAttachment) : List CloudAttachment :=
  rows.filter fun row => row.id ≠ id

/-- `insert`, which fails on an id that is taken. -/
def insertAttachment (record : CloudAttachment) (rows : List CloudAttachment) : List CloudAttachment :=
  if rows.any fun row => row.id = record.id then rows else rows ++ [record]

/-- `ORDER BY next_retry_at, created_at`, where a missing time comes first. -/
def CloudAttachment.retryKey (row : CloudAttachment) : WithBot Int ×ₗ Int :=
  toLex (match row.nextRetryAt with | none => ⊥ | some time => (time : WithBot Int), row.createdAt)

/-- The order in which failed uploads are retried. -/
def CloudAttachment.retriesBefore (one two : CloudAttachment) : Prop := one.retryKey ≤ two.retryKey

instance : DecidableRel CloudAttachment.retriesBefore := fun one two =>
  inferInstanceAs (Decidable (one.retryKey ≤ two.retryKey))

/-- The rows that `listCloudRetryCandidates` selects, before their order and their limit. -/
def retryRows (bookId : String) (maxAttempts now : Int) (rows : List CloudAttachment) :
    List CloudAttachment :=
  rows.filter fun row =>
    row.bookId = bookId ∧ row.cloudUploadStatus = .failed ∧ row.retryAttemptCount < maxAttempts ∧
      row.nextRetryAt.all fun time => time ≤ now

/-- The failed uploads of a book that are due, the first of them only. -/
def listCloudRetryCandidates (bookId : String) (maxAttempts now : Int) (limit : Nat)
    (rows : List CloudAttachment) : List CloudAttachment :=
  ((retryRows bookId maxAttempts now rows).insertionSort CloudAttachment.retriesBefore).take limit

/-! ### The upload of one attachment -/

/-- What `upload` can throw: its own exception with a code, a `DioException` with the status of the
response and what `_errorCode` finds in it, or anything else with its type. -/
inductive UploadError where
  | attachment (code : String)
  | dio (statusCode : Option Int) (code : String)
  | other (runtimeType : String)

/-- After so many failures an upload is not retried by itself. -/
def maxAutomaticRetryAttempts : Int := 5

/-- `_isRetryable`. -/
def UploadError.isRetryable : UploadError → Bool
  | .attachment code =>
    code ∉ ["attachment_too_large", "attachment_bytes_missing", "invalid_session_response",
      "invalid_complete_response", "book_not_bound", "book_bound_to_other_account"]
  | .dio none _ => true
  | .dio (some status) _ => status = 429 || 500 ≤ status
  | .other _ => true

/-- `_errorCode`. -/
def UploadError.code : UploadError → String
  | .attachment code => code
  | .dio _ code => code
  | .other runtimeType => runtimeType

/-- `retryAttemptCount` of the `catch` block. -/
def UploadError.attempts (error : UploadError) (before : Int) : Int :=
  if error.isRetryable then max 0 (min (before + 1) maxAutomaticRetryAttempts)
  else maxAutomaticRetryAttempts

/-- `_nextRetryAt`, in milliseconds. -/
def nextRetryAtMs (now attemptCount : Int) : Int :=
  let exponent := (max 0 (min (attemptCount - 1) 8)).toNat
  now + max 1 (min (2 ^ exponent) 360) * 60000

/-- A field of an answer of the server. A number is given by what `toInt` makes of it. -/
inductive ResponseValue where
  | absent
  | text (value : String)
  | number (value : Int)
  | other

/-- `_requiredString`. -/
def ResponseValue.requiredString : ResponseValue → Except UploadError String
  | .text value => if value = "" then .error (.attachment "invalid_session_response") else .ok value
  | _ => .error (.attachment "invalid_session_response")

/-- `_optionalInt`. -/
def ResponseValue.optionalInt : ResponseValue → Except UploadError (Option Int)
  | .absent => .ok none
  | .number value => .ok (some value)
  | _ => .error (.attachment "invalid_session_response")

/-- The answer of `createUploadSession`. -/
structure SessionResponse where
  attachmentId : ResponseValue
  objectKey : ResponseValue
  uploadMode : ResponseValue
  maxSizeBytes : ResponseValue
  partSizeBytes : ResponseValue
  uploadUrl : ResponseValue
  /-- `_stringMap` accepts the headers. -/
  uploadHeadersValid : Bool

/-- The answer of `multipartUploadStatus`. -/
structure StatusResponse where
  objectKey : ResponseValue
  uploadStatus : ResponseValue
  partSizeBytes : ResponseValue
  totalParts : ResponseValue
  uploadedPartNumbers : List Int

/-- The mode of a session. -/
def SessionResponse.mode (response : SessionResponse) : String :=
  match response.uploadMode with
  | .text value => if value = "" then "proxy" else value
  | _ => "proxy"

/-- `_resumeMultipart`, with the answer it awaits. -/
def resumeMultipart (attachment : CloudAttachment) (totalBytes : Int) (response : StatusResponse) :
    Except UploadError MultipartSession := do
  let objectKey ← response.objectKey.requiredString
  let uploadStatus ← response.uploadStatus.requiredString
  match (← response.partSizeBytes.optionalInt).or attachment.remotePartSizeBytes with
  | none => .error (.attachment "invalid_session_response")
  | some partSize =>
    if partSize ≤ 0 then .error (.attachment "invalid_session_response")
    else
      let totalParts ← response.totalParts.optionalInt
      .ok
        { attachmentId := attachment.remoteAttachmentId.getD ""
          objectKey
          uploadStatus
          partSizeBytes := partSize
          totalParts := totalParts.getD ((totalBytes + partSize - 1).tdiv partSize)
          uploadedParts := response.uploadedPartNumbers }

/-- `_multipartSessionFromResponse`. -/
def multipartSessionFromResponse (response : SessionResponse) (totalBytes : Int) :
    Except UploadError MultipartSession := do
  let attachmentId ← response.attachmentId.requiredString
  let objectKey ← response.objectKey.requiredString
  match ← response.partSizeBytes.optionalInt with
  | none => .error (.attachment "invalid_session_response")
  | some partSize =>
    if partSize ≤ 0 then .error (.attachment "invalid_session_response")
    else
      let session := MultipartSession.fresh attachmentId objectKey partSize totalBytes
      if session.totalParts ≤ 0 ∨ session.totalParts > 10000 then
        .error (.attachment "attachment_too_large")
      else .ok session

/-- What an upload awaits. -/
inductive UploadStage where
  /-- The state of the sync of the book, for `_ensureAccountBinding`. -/
  | binding (sessionBookId : String)
  | marking
  | measuring
  | resuming (totalBytes : Int)
  /-- The resumed upload turns out to be complete. -/
  | settling (session : MultipartSession)
  /-- The upload cannot be resumed. -/
  | clearing (totalBytes : Int)
  | creating (totalBytes : Int)
  | starting (totalBytes : Int) (response : SessionResponse) (remoteAttachmentId objectKey : String)
      (partSizeBytes : Option Int)
  | reading (totalBytes : Int) (response : SessionResponse) (remoteAttachmentId objectKey : String)
  | putting (remoteAttachmentId objectKey : String)
  /-- The parts of a multipart upload, three at a time. -/
  | uploadingParts (session : MultipartSession) (missingParts : List Int)
  | completing (remoteAttachmentId objectKey : String) (multipartAttachmentId : Option String)
  | finishing (remoteAttachmentId objectKey : String)
  | aborting (error : UploadError)
  | dropping (error : UploadError)
  | failing (error : UploadError)

/-- `_RemoteAttachment`, as far as the rows go. -/
structure RemoteAttachment where
  id : String
  objectKey : String
  status : String
  transactionId : String
  fileName : String
  mime : String
  createdAt : Int

/-- What the environment answers to a call. -/
inductive CloudAnswer where
  | threw (error : UploadError)
  | done
  | syncState (remoteBookId : Option String)
  | length (bytes : Option Int)
  | status (response : StatusResponse)
  | session (response : SessionResponse)
  | completed (uploadStatus : ResponseValue)
  | listed (rows : List RemoteAttachment)
  | path (relativePath : String)

namespace UploadStage

variable (attachment : CloudAttachment)

/-- Into the `catch` block. -/
def caught (multipartAttachmentId : Option String) (error : UploadError) : UploadStage :=
  if multipartAttachmentId.isSome ∧ (¬error.isRetryable ∨
      error.attempts attachment.retryAttemptCount ≥ maxAutomaticRetryAttempts) then .aborting error
  else .failing error

/-- After the size of the file. -/
def afterMeasuring (totalBytes : Int) : UploadStage :=
  if attachment.remoteUploadMode = some "multipart" ∧ attachment.remoteAttachmentId.isSome then
    .resuming totalBytes
  else .creating totalBytes

/-- `_uploadMultipart`, up to its first await. -/
def multipart (session : MultipartSession) (missingParts : List Int) : UploadStage :=
  if missingParts = [] then .completing session.attachmentId session.objectKey session.attachmentId
  else .uploadingParts session missingParts

/-- After the status of an upload that was begun. -/
def afterResuming (totalBytes : Int) (response : StatusResponse) : UploadStage :=
  match resumeMultipart attachment totalBytes response with
  | .error error => caught attachment none error
  | .ok session =>
    if session.uploadStatus = "ready" then .settling session
    else if session.uploadStatus = "pending" then multipart session session.missingParts
    else .clearing totalBytes

/-- After the answer of `createUploadSession`. -/
def afterCreating (totalBytes : Int) (response : SessionResponse) : UploadStage :=
  let read : Except UploadError UploadStage := do
    let remoteAttachmentId ← response.attachmentId.requiredString
    let objectKey ← response.objectKey.requiredString
    let maxSizeBytes ← response.maxSizeBytes.optionalInt
    if maxSizeBytes.any fun limit => limit < totalBytes then
      .error (.attachment "attachment_too_large")
    else
      let partSizeBytes ← response.partSizeBytes.optionalInt
      .ok (.starting totalBytes response remoteAttachmentId objectKey partSizeBytes)
  match read with
  | .error error => caught attachment none error
  | .ok stage => stage

/-- After `markCloudUploadStarted`. -/
def afterStarting (totalBytes : Int) (response : SessionResponse)
    (remoteAttachmentId objectKey : String) : UploadStage :=
  if response.mode = "multipart" then
    match multipartSessionFromResponse response totalBytes with
    | .error error => caught attachment remoteAttachmentId error
    | .ok session => multipart session session.missingParts
  else .reading totalBytes response remoteAttachmentId objectKey

/-- After the bytes were read. -/
def afterReading (totalBytes : Int) (response : SessionResponse)
    (remoteAttachmentId objectKey : String) (bytes : Option Int) : UploadStage :=
  if bytes ≠ some totalBytes then caught attachment none (.attachment "attachment_bytes_missing")
  else
    match response.uploadUrl.requiredString with
    | .error error => caught attachment none error
    | .ok _ =>
      if response.uploadHeadersValid then .putting remoteAttachmentId objectKey
      else caught attachment none (.attachment "invalid_session_response")

/-- What the upload awaits after an answer; `none` where it is over. An answer to something else
changes nothing. -/
def next : UploadStage → CloudAnswer → Option UploadStage
  | .binding sessionBookId, .syncState remoteBookId =>
    if remoteBookId = some sessionBookId then some .marking else none
  | .binding _, .threw _ => none
  | .marking, _ => some .measuring
  | .measuring, .length (some totalBytes) => some (afterMeasuring attachment totalBytes)
  | .measuring, .length none =>
    some (caught attachment none (.attachment "attachment_bytes_missing"))
  | .measuring, .threw error => some (caught attachment none error)
  | .resuming totalBytes, .status response => some (afterResuming attachment totalBytes response)
  | .resuming totalBytes, .threw (.dio status code) =>
    if status = some 404 ∨ status = some 409 then some (.clearing totalBytes)
    else some (caught attachment none (.dio status code))
  | .resuming _, .threw error => some (caught attachment none error)
  | .settling _, _ => none
  | .clearing totalBytes, _ => some (.creating totalBytes)
  | .creating totalBytes, .session response => some (afterCreating attachment totalBytes response)
  | .creating _, .threw error => some (caught attachment none error)
  | .starting totalBytes response remoteAttachmentId objectKey _, _ =>
    some (afterStarting attachment totalBytes response remoteAttachmentId objectKey)
  | .reading totalBytes response remoteAttachmentId objectKey, .length bytes =>
    some (afterReading attachment totalBytes response remoteAttachmentId objectKey bytes)
  | .reading _ _ _ _, .threw error => some (caught attachment none error)
  | .putting remoteAttachmentId objectKey, .done =>
    some (.completing remoteAttachmentId objectKey none)
  | .putting _ _, .threw error => some (caught attachment none error)
  | .uploadingParts session missingParts, .done => some (multipart session (missingParts.drop 3))
  | .uploadingParts session _, .threw error => some (caught attachment session.attachmentId error)
  | .completing remoteAttachmentId objectKey multipartAttachmentId, .completed uploadStatus =>
    if uploadStatus matches .text "ready" then some (.finishing remoteAttachmentId objectKey)
    else some (caught attachment multipartAttachmentId (.attachment "invalid_complete_response"))
  | .completing _ _ multipartAttachmentId, .threw error =>
    some (caught attachment multipartAttachmentId error)
  | .finishing _ _, _ => none
  | .aborting error, _ => some (.dropping error)
  | .dropping error, _ => some (.failing error)
  | .failing _, _ => none
  | stage, _ => some stage

/-- What the awaited statement does to the rows. -/
def write (now : Int) : UploadStage → List CloudAttachment → List CloudAttachment
  | .marking => markCloudUploading attachment.id
  | .settling session => markCloudReady attachment.id session.attachmentId session.objectKey
  | .clearing _ => clearRemoteUploadState attachment.id
  | .starting _ response remoteAttachmentId objectKey partSizeBytes =>
    markCloudUploadStarted attachment.id remoteAttachmentId objectKey response.mode partSizeBytes
  | .finishing remoteAttachmentId objectKey =>
    markCloudReady attachment.id remoteAttachmentId objectKey
  | .dropping _ => clearRemoteUploadState attachment.id
  | .failing error =>
    let attempts := error.attempts attachment.retryAttemptCount
    markCloudFailed attachment.id error.code attempts
      (if error.isRetryable ∧ attempts < maxAutomaticRetryAttempts then
        some (nextRetryAtMs now attempts) else none)
  | _ => id

end UploadStage

/-! ### The calls -/

/-- What a call awaits. -/
inductive CloudCall where
  | upload (attachment : CloudAttachment) (stage : UploadStage)
  /-- `retryFailedUploads` before its list of candidates. -/
  | retryBinding (localBookId sessionBookId : String) (limit : Nat)
  | retryListing (localBookId sessionBookId : String) (limit : Nat)
  /-- The upload of one candidate, with the candidates after it. -/
  | retrying (sessionBookId : String) (attachment : CloudAttachment) (stage : UploadStage)
      (rest : List CloudAttachment)
  /-- `syncRemote` before its loops. -/
  | syncBinding (localBookId sessionBookId : String)
  | syncFetching (localBookId : String)
  | syncListing (localBookId : String) (remoteReady : List RemoteAttachment)
  /-- The bytes of the first remote attachment are compared, and perhaps downloaded. -/
  | syncReading (localBookId : String) (present : List CloudAttachment)
      (remoteReady todo : List RemoteAttachment)
  /-- `upsertRemote`: its `SELECT`, and its `UPDATE` or `INSERT`. -/
  | syncSelecting (localBookId : String) (present : List CloudAttachment)
      (remoteReady : List RemoteAttachment) (remote : RemoteAttachment) (relativePath : String)
      (todo : List RemoteAttachment)
  | syncWriting (localBookId : String) (present : List CloudAttachment)
      (remoteReady : List RemoteAttachment) (remote : RemoteAttachment) (relativePath : String)
      (existing : Option CloudAttachment) (todo : List RemoteAttachment)
  /-- The files and then the rows that the server does not have any more. -/
  | syncDeletingBytes (todo : List CloudAttachment)
  | syncDeleting (row : CloudAttachment) (todo : List CloudAttachment)

/-- The calls of `retryFailedUploads` for the candidates that are left. -/
def retryNext (sessionBookId : String) : List CloudAttachment → Option CloudCall
  | [] => none
  | attachment :: rest => some (.retrying sessionBookId attachment (.binding sessionBookId) rest)

/-- The rows that the second loop of `syncRemote` deletes. -/
def staleRows (present : List CloudAttachment) (remoteReady : List RemoteAttachment) :
    List CloudAttachment :=
  present.filter fun row =>
    row.cloudUploadStatus = .ready ∧ row.remoteAttachmentId.any fun remoteId =>
      ∀ remote ∈ remoteReady, remote.id ≠ remoteId

/-- The loops of `syncRemote` from the next remote attachment on. -/
def syncNext (localBookId : String) (present : List CloudAttachment)
    (remoteReady todo : List RemoteAttachment) : Option CloudCall :=
  match todo with
  | [] =>
    if staleRows present remoteReady = [] then none
    else some (.syncDeletingBytes (staleRows present remoteReady))
  | _ :: _ => some (.syncReading localBookId present remoteReady todo)

/-- The row that `upsertRemote` finds. -/
def findRemote (localBookId remoteId : String) (rows : List CloudAttachment) :
    Option CloudAttachment :=
  rows.find? fun row =>
    row.bookId = localBookId ∧ (row.id = remoteId ∨ row.remoteAttachmentId = some remoteId)

/-- The write of `upsertRemote`. -/
def upsertRemote (localBookId : String) (remote : RemoteAttachment) (relativePath : String)
    (existing : Option CloudAttachment) : List CloudAttachment → List CloudAttachment :=
  match existing with
  | none =>
    insertAttachment
      { id := remote.id
        bookId := localBookId
        transactionId := remote.transactionId
        fileName := remote.fileName
        mime := remote.mime
        relativePath
        createdAt := remote.createdAt
        cloudUploadStatus := .ready
        remoteAttachmentId := some remote.id
        remoteObjectKey := some remote.objectKey }
  | some existing =>
    updateRows existing.id fun row =>
      { row with
        transactionId := remote.transactionId
        fileName := remote.fileName
        mime := remote.mime
        relativePath
        cloudUploadStatus := .ready
        remoteAttachmentId := some remote.id
        remoteObjectKey := some remote.objectKey
        remoteUploadError := none
        retryAttemptCount := 0
        nextRetryAt := none
        remoteUploadMode := none
        remotePartSizeBytes := none
        createdAt := remote.createdAt }

namespace CloudCall

/-- What the call awaits after an answer; `none` where it is over. -/
def next (now : Int) (rows : List CloudAttachment) : CloudCall → CloudAnswer → Option CloudCall
  | .upload attachment stage, answer => (stage.next attachment answer).map (.upload attachment)
  | .retryBinding localBookId sessionBookId limit, .syncState remoteBookId =>
    if remoteBookId = some sessionBookId then some (.retryListing localBookId sessionBookId limit)
    else none
  | .retryListing localBookId sessionBookId limit, _ =>
    retryNext sessionBookId
      (listCloudRetryCandidates localBookId maxAutomaticRetryAttempts now limit rows)
  | .retrying sessionBookId attachment stage rest, answer =>
    match stage.next attachment answer with
    | some stage => some (.retrying sessionBookId attachment stage rest)
    | none => retryNext sessionBookId rest
  | .syncBinding localBookId sessionBookId, .syncState remoteBookId =>
    if remoteBookId = some sessionBookId then some (.syncFetching localBookId) else none
  | .syncFetching localBookId, .listed remote =>
    some (.syncListing localBookId (remote.filter fun remote => remote.status = "ready"))
  | .syncListing localBookId remoteReady, _ =>
    syncNext localBookId (rows.filter fun row => row.bookId = localBookId) remoteReady remoteReady
  | .syncReading localBookId present remoteReady (remote :: todo), .path relativePath =>
    some (.syncSelecting localBookId present remoteReady remote relativePath todo)
  | .syncSelecting localBookId present remoteReady remote relativePath todo, _ =>
    some (.syncWriting localBookId present remoteReady remote relativePath
      (findRemote localBookId remote.id rows) todo)
  | .syncWriting localBookId present remoteReady remote _ existing todo, _ =>
    -- an `INSERT` on an id that is taken throws
    if existing = none ∧ rows.any fun row => row.id = remote.id then none
    else syncNext localBookId present remoteReady todo
  | .syncDeletingBytes [], _ => none
  | .syncDeletingBytes (row :: todo), .done => some (.syncDeleting row todo)
  | .syncDeleting _ todo, _ => if todo = [] then none else some (.syncDeletingBytes todo)
  | .retryBinding _ _ _, .threw _ => none
  | .syncBinding _ _, .threw _ => none
  | .syncFetching _, .threw _ => none
  | .syncReading _ _ _ _, .threw _ => none
  | .syncDeletingBytes _, .threw _ => none
  | call, _ => some call

/-- What the awaited statement does to the rows. -/
def write (now : Int) : CloudCall → List CloudAttachment → List CloudAttachment
  | .upload attachment stage => stage.write attachment now
  | .retrying _ attachment stage _ => stage.write attachment now
  | .syncWriting localBookId _ _ remote relativePath existing _ =>
    upsertRemote localBookId remote relativePath existing
  | .syncDeleting row _ => deleteRow row.id
  | _ => id

/-- The upload that the call has in flight. -/
def upload? : CloudCall → Option (CloudAttachment × UploadStage)
  | .upload attachment stage => some (attachment, stage)
  | .retrying _ attachment stage _ => some (attachment, stage)
  | _ => none

end CloudCall

/-! ### The device -/

/-- The database, and the calls that are under way. -/
structure CloudDevice (Name : Type) where
  rows : List CloudAttachment
  calls : Name → Option CloudCall

/-- What happens next. A call is given the records that its caller read at some time before. -/
inductive CloudAction (Name : Type) where
  /-- An attachment is added to a transaction. -/
  | attach (record : LocalAttachmentRecord)
  | remove (id : String)
  | upload (name : Name) (sessionBookId : String) (attachment : CloudAttachment)
  | retryFailedUploads (name : Name) (localBookId sessionBookId : String) (limit : Nat)
  | syncRemote (name : Name) (localBookId sessionBookId : String)
  | answer (name : Name) (answer : CloudAnswer) (now : Int)
  | kill

section Device

variable {Name : Type} [DecidableEq Name]

/-- A device without attachments, on which no call runs. -/
def CloudDevice.start (Name : Type) : CloudDevice Name := ⟨[], fun _ => none⟩

/-- A name that is free is given to a new call. -/
def CloudDevice.begin (device : CloudDevice Name) (name : Name) (call : CloudCall) :
    CloudDevice Name :=
  if (device.calls name).isSome then device
  else { device with calls := Function.update device.calls name (some call) }

/-- What an action does to the device. A call begins under a name that is free. -/
def CloudDevice.step (device : CloudDevice Name) : CloudAction Name → CloudDevice Name
  | .attach record =>
    { device with rows := insertAttachment { toLocalAttachmentRecord := record } device.rows }
  | .remove id => { device with rows := deleteRow id device.rows }
  | .upload name sessionBookId attachment =>
    device.begin name (.upload attachment (.binding sessionBookId))
  | .retryFailedUploads name localBookId sessionBookId limit =>
    device.begin name (.retryBinding localBookId sessionBookId limit)
  | .syncRemote name localBookId sessionBookId =>
    device.begin name (.syncBinding localBookId sessionBookId)
  | .answer name answer now =>
    match device.calls name with
    | none => device
    | some call =>
      { rows := call.write now device.rows
        calls := Function.update device.calls name (call.next now device.rows answer) }
  | .kill => { device with calls := fun _ => none }

end Device

end Ledgerly
