/-
This file proves when no attachment is stuck in its upload. An upload marks its row before it begins
and marks it again when it ends, whatever it ends with; between the two, the mark of the row stands
for a call that is in flight. Only a kill of the app ends a call without its mark, and no retry
looks at a row that is marked as uploading: it stays so.
-/

import Ledgerly.AttachmentCloud

namespace Ledgerly

open Machine

/-! ### What a retry returns -/

instance : Std.Total CloudAttachment.retriesBefore where
  total one two := le_total one.retryKey two.retryKey

instance : IsTrans CloudAttachment CloudAttachment.retriesBefore where
  trans _ _ _ first second := le_trans (show CloudAttachment.retryKey _ ≤ _ from first) second

/-- What is sorted gives an item to those who take as many as there are not after it. -/
theorem mem_take_of_sorted {Item : Type} {before : Item → Item → Prop} [DecidableRel before]
    [Std.Total before] {items : List Item} (sorted : items.Pairwise before) {item : Item}
    (member : item ∈ items) {limit : Nat}
    (reached : (items.filter fun other => before other item).length ≤ limit) :
    item ∈ items.take limit := by
  induction items generalizing limit with
  | nil => cases member
  | cons first rest inductionHypothesis =>
    obtain ⟨after, sortedRest⟩ := List.pairwise_cons.mp sorted
    have firstBefore : before first item := by
      rcases List.mem_cons.mp member with rfl | later
      · exact (Std.Total.total item item).elim id id
      · exact after item later
    rw [List.filter_cons, if_pos (decide_eq_true firstBefore), List.length_cons] at reached
    obtain ⟨limit, rfl⟩ := Nat.exists_eq_succ_of_ne_zero (Nat.pos_iff_ne_zero.mp
      (Nat.zero_lt_of_lt reached))
    rw [List.take_succ_cons]
    rcases List.mem_cons.mp member with rfl | later
    · exact List.mem_cons_self
    · exact List.mem_cons_of_mem _
        (inductionHypothesis sortedRest later (Nat.le_of_succ_le_succ reached))

/-- From some time on, `listCloudRetryCandidates` returns the row to everyone whose limit reaches
it. -/
def CloudAttachment.WillBeReturned (row : CloudAttachment) (rows : List CloudAttachment) : Prop :=
  ∃ due, ∀ now, due ≤ now → ∀ limit,
    ((retryRows row.bookId maxAutomaticRetryAttempts now rows).filter fun other =>
      other.retriesBefore row).length ≤ limit →
    row ∈ listCloudRetryCandidates row.bookId maxAutomaticRetryAttempts now limit rows

/-- The row is not stuck. -/
def CloudAttachment.Settled (row : CloudAttachment) (rows : List CloudAttachment) : Prop :=
  row.cloudUploadStatus = .ready ∨ row.cloudUploadStatus = .localOnly ∨
    (row.cloudUploadStatus = .failed ∧ maxAutomaticRetryAttempts ≤ row.retryAttemptCount) ∨
    row.WillBeReturned rows

variable {rows : List CloudAttachment} {row : CloudAttachment}

theorem CloudAttachment.willBeReturned (member : row ∈ rows)
    (failed : row.cloudUploadStatus = .failed)
    (attempts : row.retryAttemptCount < maxAutomaticRetryAttempts) : row.WillBeReturned rows := by
  refine ⟨row.nextRetryAt.getD 0, fun now later limit reached => ?_⟩
  have due : row ∈ retryRows row.bookId maxAutomaticRetryAttempts now rows := by
    refine List.mem_filter.mpr ⟨member, decide_eq_true ⟨rfl, failed, attempts, ?_⟩⟩
    cases time : row.nextRetryAt with
    | none => rfl
    | some time' =>
      rw [time] at later
      exact decide_eq_true later
  have permuted := List.perm_insertionSort CloudAttachment.retriesBefore
    (retryRows row.bookId maxAutomaticRetryAttempts now rows)
  refine mem_take_of_sorted (List.pairwise_insertionSort _ _) (permuted.mem_iff.mpr due) ?_
  rw [(permuted.filter _).length_eq]
  exact reached

theorem CloudAttachment.not_willBeReturned (uploading : row.cloudUploadStatus = .uploading) :
    ¬row.WillBeReturned rows := by
  rintro ⟨due, returned⟩
  have member := returned due (le_refl due) _ (le_refl _)
  have isDue := (List.mem_insertionSort CloudAttachment.retriesBefore).mp (List.mem_of_mem_take member)
  have failed := (of_decide_eq_true (List.mem_filter.mp isDue).2).2.1
  rw [uploading] at failed
  cases failed

/-- A row is settled exactly if it is not marked as uploading. -/
theorem CloudAttachment.settled_iff (member : row ∈ rows) :
    row.Settled rows ↔ row.cloudUploadStatus ≠ .uploading := by
  constructor
  · rintro settled uploading
    rcases settled with ready | localOnly | ⟨failed, -⟩ | returned
    · rw [uploading] at ready
      cases ready
    · rw [uploading] at localOnly
      cases localOnly
    · rw [uploading] at failed
      cases failed
    · exact not_willBeReturned uploading returned
  · intro notUploading
    cases status : row.cloudUploadStatus with
    | localOnly => exact Or.inr (Or.inl status)
    | uploading => exact absurd status notUploading
    | ready => exact Or.inl status
    | failed =>
      by_cases attempts : row.retryAttemptCount < maxAutomaticRetryAttempts
      · exact Or.inr (Or.inr (Or.inr (willBeReturned member status attempts)))
      · exact Or.inr (Or.inr (Or.inl ⟨status, not_lt.mp attempts⟩))

/-! ### The stages of an upload -/

namespace UploadStage

/-- The upload has marked its row. -/
def Marked : UploadStage → Prop
  | .binding _ => False
  | .marking => False
  | _ => True

/-- The upload ends with a mark of its row. -/
def Settles : UploadStage → Prop
  | .settling _ => True
  | .finishing _ _ => True
  | .failing _ => True
  | _ => False

variable {attachment : CloudAttachment}

theorem marked_caught (multipartAttachmentId : Option String) (error : UploadError) :
    (caught attachment multipartAttachmentId error).Marked := by
  unfold caught
  split_ifs <;> trivial

theorem marked_multipart (session : MultipartSession) (missingParts : List Int) :
    (multipart session missingParts).Marked := by
  unfold multipart
  split_ifs <;> trivial

theorem marked_afterMeasuring (totalBytes : Int) : (afterMeasuring attachment totalBytes).Marked := by
  unfold afterMeasuring
  split_ifs <;> trivial

theorem marked_afterResuming (totalBytes : Int) (response : StatusResponse) :
    (afterResuming attachment totalBytes response).Marked := by
  unfold afterResuming
  cases resumeMultipart attachment totalBytes response with
  | error error => exact marked_caught _ _
  | ok session =>
    dsimp only
    split_ifs
    · trivial
    · exact marked_multipart _ _
    · trivial

theorem marked_afterCreating (totalBytes : Int) (response : SessionResponse) :
    (afterCreating attachment totalBytes response).Marked := by
  unfold afterCreating
  cases response.attachmentId.requiredString with
  | error error => exact marked_caught _ _
  | ok remoteAttachmentId =>
    cases response.objectKey.requiredString with
    | error error => exact marked_caught _ _
    | ok objectKey =>
      cases response.maxSizeBytes.optionalInt with
      | error error => exact marked_caught _ _
      | ok maxSizeBytes =>
        dsimp only [bind, Except.bind]
        by_cases large : maxSizeBytes.any fun limit => limit < totalBytes
        · rw [if_pos large]
          exact marked_caught _ _
        · rw [if_neg large]
          cases response.partSizeBytes.optionalInt with
          | error error => exact marked_caught _ _
          | ok partSizeBytes => trivial

theorem marked_afterStarting (totalBytes : Int) (response : SessionResponse)
    (remoteAttachmentId objectKey : String) :
    (afterStarting attachment totalBytes response remoteAttachmentId objectKey).Marked := by
  unfold afterStarting
  split_ifs
  · cases multipartSessionFromResponse response totalBytes with
    | error error => exact marked_caught _ _
    | ok session => exact marked_multipart _ _
  · trivial

theorem marked_afterReading (totalBytes : Int) (response : SessionResponse)
    (remoteAttachmentId objectKey : String) (bytes : Option Int) :
    (afterReading attachment totalBytes response remoteAttachmentId objectKey bytes).Marked := by
  unfold afterReading
  by_cases missing : bytes ≠ some totalBytes
  · rw [if_pos missing]
    exact marked_caught _ _
  · rw [if_neg missing]
    cases response.uploadUrl.requiredString with
    | error error => exact marked_caught _ _
    | ok url =>
      dsimp only
      split_ifs
      · trivial
      · exact marked_caught _ _

/-- An upload that has marked its row goes on as one that has, -/
theorem marked_next {stage after : UploadStage} {answer : CloudAnswer} (marked : stage.Marked)
    (goesOn : stage.next attachment answer = some after) : after.Marked := by
  revert marked goesOn
  fun_cases next attachment stage answer
  all_goals
    intro marked goesOn
    cases goesOn
  all_goals
    first
    | trivial
    | exact marked
    | exact marked_caught _ _
    | exact marked_multipart _ _
    | exact marked_afterMeasuring _
    | exact marked_afterResuming _ _
    | exact marked_afterCreating _ _
    | exact marked_afterStarting _ _ _ _
    | exact marked_afterReading _ _ _ _ _

/-- and is over only with a mark that ends it. -/
theorem settles_of_over {stage : UploadStage} {answer : CloudAnswer} (marked : stage.Marked)
    (ended : stage.next attachment answer = none) : stage.Settles := by
  revert marked ended
  fun_cases next attachment stage answer
  all_goals
    intro marked ended
    trivial

/-- The mark of the row by a stage, if it makes one. -/
def marks : UploadStage → Option AttachmentCloudStatus
  | .marking => some .uploading
  | .starting _ _ _ _ _ => some .uploading
  | .settling _ => some .ready
  | .finishing _ _ => some .ready
  | .failing _ => some .failed
  | _ => none

theorem marks_ne_none {stage : UploadStage} (settles : stage.Settles) : stage.marks ≠ none := by
  cases stage with
  | settling session => exact Option.some_ne_none _
  | finishing remoteAttachmentId objectKey => exact Option.some_ne_none _
  | failing error => exact Option.some_ne_none _
  | _ => exact False.elim settles

/-- An upload that marks its row as uploading does not end with that. -/
theorem of_marks_uploading {stage : UploadStage} (marks : stage.marks = some .uploading) :
    (stage = .marking ∨ stage.Marked) ∧ ¬stage.Settles := by
  cases stage with
  | marking => exact ⟨Or.inl rfl, id⟩
  | starting totalBytes response remoteAttachmentId objectKey partSizeBytes =>
    exact ⟨Or.inr trivial, id⟩
  | _ => cases marks

/-- An upload that has marked its row, or is about to, and does not end goes on. -/
theorem exists_next {stage : UploadStage} (marked : stage = .marking ∨ stage.Marked)
    (notOver : ¬stage.Settles) (answer : CloudAnswer) (attachment : CloudAttachment) :
    ∃ after, stage.next attachment answer = some after ∧ after.Marked := by
  rcases marked with rfl | marked
  · exact ⟨.measuring, rfl, trivial⟩
  · cases goesOn : stage.next attachment answer with
    | none => exact absurd (settles_of_over marked goesOn) notOver
    | some after => exact ⟨after, rfl, marked_next marked goesOn⟩

theorem mem_updateRows {id : String} {change : CloudAttachment → CloudAttachment}
    {row : CloudAttachment} {rows : List CloudAttachment}
    (member : row ∈ updateRows id change rows) :
    ∃ old ∈ rows, row = if old.id = id then change old else old := by
  obtain ⟨old, isOld, rfl⟩ := List.mem_map.mp member
  exact ⟨old, isOld, rfl⟩

/-- A statement changes the mark of the attachment's own row only, to the mark of the stage. -/
theorem mem_write {stage : UploadStage} {now : Int} {row : CloudAttachment}
    {rows : List CloudAttachment} (member : row ∈ stage.write attachment now rows) :
    ∃ old ∈ rows, row.id = old.id ∧ row.cloudUploadStatus =
      if old.id = attachment.id then stage.marks.getD old.cloudUploadStatus
      else old.cloudUploadStatus := by
  have unchanged : ∀ row ∈ rows, ∃ old ∈ rows, row.id = old.id ∧ row.cloudUploadStatus =
      if old.id = attachment.id then (none : Option AttachmentCloudStatus).getD old.cloudUploadStatus
      else old.cloudUploadStatus :=
    fun row isRow => ⟨row, isRow, rfl, (ite_self _).symm⟩
  have updated : ∀ (mark : Option AttachmentCloudStatus) (change : CloudAttachment → CloudAttachment),
      row ∈ updateRows attachment.id change rows → (∀ old, (change old).id = old.id) →
      (∀ old, (change old).cloudUploadStatus = mark.getD old.cloudUploadStatus) →
      ∃ old ∈ rows, row.id = old.id ∧ row.cloudUploadStatus =
        if old.id = attachment.id then mark.getD old.cloudUploadStatus
        else old.cloudUploadStatus := by
    intro mark change isRow sameId newMark
    obtain ⟨old, isOld, rfl⟩ := mem_updateRows isRow
    refine ⟨old, isOld, ?_⟩
    by_cases own : old.id = attachment.id
    · rw [if_pos own, if_pos own]
      exact ⟨sameId old, newMark old⟩
    · rw [if_neg own, if_neg own]
      exact ⟨rfl, rfl⟩
  cases stage with
  | marking => exact updated (some .uploading) _ member (fun _ => rfl) fun _ => rfl
  | settling session => exact updated (some .ready) _ member (fun _ => rfl) fun _ => rfl
  | clearing totalBytes => exact updated none _ member (fun _ => rfl) fun _ => rfl
  | starting totalBytes response remoteAttachmentId objectKey partSizeBytes =>
    exact updated (some .uploading) _ member (fun _ => rfl) fun _ => rfl
  | finishing remoteAttachmentId objectKey =>
    exact updated (some .ready) _ member (fun _ => rfl) fun _ => rfl
  | dropping error => exact updated none _ member (fun _ => rfl) fun _ => rfl
  | failing error => exact updated (some .failed) _ member (fun _ => rfl) fun _ => rfl
  | _ => exact unchanged row member

end UploadStage

/-! ### The calls of the device -/

namespace CloudCall

variable {attachment : CloudAttachment} {stage : UploadStage} {call : CloudCall} {now : Int}
  {answer : CloudAnswer}

/-- A call with an upload in flight goes on with the upload while it lasts. -/
theorem upload?_next (inFlight : call.upload? = some (attachment, stage)) {after : UploadStage}
    (goesOn : stage.next attachment answer = some after) :
    ∃ later, call.next now rows answer = some later ∧ later.upload? = some (attachment, after) := by
  cases call with
  | upload attachment' stage' =>
    obtain ⟨rfl, rfl⟩ := Prod.mk.inj (Option.some.inj inFlight)
    refine ⟨.upload attachment' after, ?_, rfl⟩
    rw [next, goesOn]
    rfl
  | retrying sessionBookId attachment' stage' rest =>
    obtain ⟨rfl, rfl⟩ := Prod.mk.inj (Option.some.inj inFlight)
    refine ⟨.retrying sessionBookId attachment' after rest, ?_, rfl⟩
    rw [next, goesOn]
  | _ => cases inFlight

theorem write_of_upload? (inFlight : call.upload? = some (attachment, stage)) :
    call.write now rows = stage.write attachment now rows := by
  cases call with
  | upload attachment' stage' =>
    obtain ⟨rfl, rfl⟩ := Prod.mk.inj (Option.some.inj inFlight)
    rfl
  | retrying sessionBookId attachment' stage' rest =>
    obtain ⟨rfl, rfl⟩ := Prod.mk.inj (Option.some.inj inFlight)
    rfl
  | _ => cases inFlight

/-- A call without one marks no row as uploading. -/
theorem mem_write_of_no_upload (idle : call.upload? = none) (member : row ∈ call.write now rows)
    (uploading : row.cloudUploadStatus = .uploading) : row ∈ rows := by
  cases call with
  | upload attachment stage => cases idle
  | retrying sessionBookId attachment stage rest => cases idle
  | syncWriting localBookId present remoteReady remote relativePath existing todo =>
    cases existing with
    | none =>
      rw [write, upsertRemote, insertAttachment] at member
      split_ifs at member
      · exact member
      · rcases List.mem_append.mp member with old | new
        · exact old
        · obtain rfl := List.mem_singleton.mp new
          cases uploading
    | some existing =>
      obtain ⟨old, isOld, rfl⟩ := UploadStage.mem_updateRows member
      by_cases own : old.id = existing.id
      · rw [if_pos own] at uploading
        cases uploading
      · rw [if_neg own]
        exact isOld
  | syncDeleting deleted todo => exact (List.mem_filter.mp member).1
  | _ => exact member

end CloudCall

namespace CloudDevice

variable {Name : Type} [DecidableEq Name] (device : CloudDevice Name)

/-- No upload is in flight. -/
def NoUpload : Prop := ∀ name call, device.calls name = some call → call.upload? = none

/-- No row is marked as uploading. -/
def NoneUploading : Prop := ∀ row ∈ device.rows, row.cloudUploadStatus ≠ .uploading

/-- No attachment is stuck. -/
def NoneStuck : Prop := ∀ row ∈ device.rows, row.Settled device.rows

/-- A marked upload of the attachment is in flight. -/
def InFlight (id : String) : Prop :=
  ∃ name call attachment stage, device.calls name = some call ∧
    call.upload? = some (attachment, stage) ∧ attachment.id = id ∧ stage.Marked

/-- Every row that is marked as uploading has its upload. -/
def Tracked : Prop :=
  ∀ row ∈ device.rows, row.cloudUploadStatus = .uploading → device.InFlight row.id

variable {device}

omit [DecidableEq Name] in
theorem noneStuck_iff : device.NoneStuck ↔ device.NoneUploading :=
  forall₂_congr fun _ member => CloudAttachment.settled_iff member

omit [DecidableEq Name] in
theorem Tracked.noneUploading (tracked : device.Tracked) (idle : device.NoUpload) :
    device.NoneUploading := by
  intro row member uploading
  obtain ⟨name, call, attachment, stage, isCall, inFlight, -⟩ := tracked row member uploading
  rw [idle name call isCall] at inFlight
  cases inFlight

theorem Tracked.begin (tracked : device.Tracked) (name : Name) (call : CloudCall) :
    (device.begin name call).Tracked := by
  unfold CloudDevice.begin
  split_ifs with taken
  · exact tracked
  · intro row member uploading
    obtain ⟨other, otherCall, attachment, stage, isCall, inFlight⟩ := tracked row member uploading
    have differs : other ≠ name := by
      rintro rfl
      rw [isCall] at taken
      exact taken rfl
    refine ⟨other, otherCall, attachment, stage, ?_, inFlight⟩
    rw [← isCall]
    exact Function.update_of_ne differs _ _

theorem Tracked.answer (tracked : device.Tracked) (name : Name) (answer : CloudAnswer) (now : Int) :
    (device.step (.answer name answer now)).Tracked := by
  cases isCall : device.calls name with
  | none =>
    rw [step, isCall]
    exact tracked
  | some call =>
    rw [step, isCall]
    intro row member uploading
    -- the upload of another call is still in flight
    have others : ∀ other otherCall attachment stage, other ≠ name →
        device.calls other = some otherCall → otherCall.upload? = some (attachment, stage) →
        attachment.id = row.id → stage.Marked → InFlight
          ⟨call.write now device.rows,
            Function.update device.calls name (call.next now device.rows answer)⟩ row.id := by
      intro other otherCall attachment stage differs isOther inFlight own marked
      refine ⟨other, otherCall, attachment, stage, ?_, inFlight, own, marked⟩
      rw [← isOther]
      exact Function.update_of_ne differs _ _
    cases inFlight : call.upload? with
    | none =>
      have old := CloudCall.mem_write_of_no_upload inFlight member uploading
      obtain ⟨other, otherCall, attachment, stage, isOther, otherFlight, own, marked⟩ :=
        tracked row old uploading
      refine others other otherCall attachment stage ?_ isOther otherFlight own marked
      rintro rfl
      obtain rfl := Option.some.inj (isCall.symm.trans isOther)
      rw [inFlight] at otherFlight
      cases otherFlight
    | some upload =>
      obtain ⟨attachment, stage⟩ := upload
      have goesOn : attachment.id = row.id → stage = .marking ∨ stage.Marked → ¬stage.Settles →
          InFlight ⟨call.write now device.rows,
            Function.update device.calls name (call.next now device.rows answer)⟩ row.id := by
        intro own marked notOver
        obtain ⟨after, next, afterMarked⟩ := UploadStage.exists_next marked notOver answer attachment
        obtain ⟨later, isLater, laterFlight⟩ := CloudCall.upload?_next inFlight next
        refine ⟨name, later, attachment, after, ?_, laterFlight, own, afterMarked⟩
        rw [← isLater]
        exact Function.update_self _ _ _
      have written : row ∈ call.write now device.rows := member
      rw [CloudCall.write_of_upload? inFlight] at written
      obtain ⟨old, isOld, sameId, status⟩ := UploadStage.mem_write written
      rw [uploading] at status
      -- a row that was uploading before has its upload, here or in another call
      have before : old.cloudUploadStatus = .uploading → (old.id = attachment.id → ¬stage.Settles) →
          InFlight ⟨call.write now device.rows,
            Function.update device.calls name (call.next now device.rows answer)⟩ row.id := by
        intro oldUploading notOver
        obtain ⟨other, otherCall, otherAttachment, otherStage, isOther, otherFlight, own, marked⟩ :=
          tracked old isOld oldUploading
        rw [← sameId] at own
        by_cases same : other = name
        · subst same
          obtain rfl := Option.some.inj (isCall.symm.trans isOther)
          obtain ⟨rfl, rfl⟩ := Prod.mk.inj (Option.some.inj (inFlight.symm.trans otherFlight))
          exact goesOn own (Or.inr marked) (notOver (sameId.symm.trans own.symm))
        · exact others other otherCall otherAttachment otherStage same isOther otherFlight own marked
      by_cases own : old.id = attachment.id
      · rw [if_pos own] at status
        cases marks : stage.marks with
        | none =>
          rw [marks] at status
          exact before status.symm fun _ settles => UploadStage.marks_ne_none settles marks
        | some mark =>
          rw [marks] at status
          obtain rfl := status
          obtain ⟨marked, notOver⟩ := UploadStage.of_marks_uploading marks
          exact goesOn (own.symm.trans sameId.symm) marked notOver
      · rw [if_neg own] at status
        exact before status.symm fun isOwn => absurd isOwn own

/-- Every step but a kill keeps track of the uploads, and a kill does where none is marked. -/
theorem Tracked.step (tracked : device.Tracked) (action : CloudAction Name)
    (noneCut : action = .kill → device.NoneUploading) : (device.step action).Tracked := by
  cases action with
  | attach record =>
    intro row member uploading
    rw [CloudDevice.step, insertAttachment] at member
    split_ifs at member
    · exact tracked row member uploading
    · rcases List.mem_append.mp member with old | new
      · exact tracked row old uploading
      · obtain rfl := List.mem_singleton.mp new
        cases uploading
  | remove id => exact fun row member => tracked row (List.mem_filter.mp member).1
  | upload name sessionBookId attachment => exact tracked.begin _ _
  | retryFailedUploads name localBookId sessionBookId limit => exact tracked.begin _ _
  | syncRemote name localBookId sessionBookId => exact tracked.begin _ _
  | answer name answer now => exact tracked.answer name answer now
  | kill => exact fun row member uploading => absurd uploading (noneCut rfl row member)

end CloudDevice

/-! ### Runs -/

section Run

variable {Name : Type} [DecidableEq Name]

/-- The condition on a step: the app is killed only while no row is marked as uploading. -/
def CutsNoUpload (device : CloudDevice Name) (action : CloudAction Name) : Prop :=
  action = .kill → device.NoneUploading

/-- Whenever no upload is in flight, no attachment is stuck, exactly in the runs in which no kill
cuts an upload off between its two marks. -/
theorem attachments_never_stuck_iff (actions : List (CloudAction Name)) :
    (∀ before after, actions = before ++ after →
        (run CloudDevice.step (CloudDevice.start Name) before).NoUpload →
        (run CloudDevice.step (CloudDevice.start Name) before).NoneStuck) ↔
      Guarded CloudDevice.step CutsNoUpload (CloudDevice.start Name) actions := by
  constructor
  · intro never
    rw [guarded_iff_forall]
    rintro before action after split rfl
    have killed := never (before ++ [.kill]) after (by rw [split, List.append_assoc]; rfl)
    rw [run_concat] at killed
    exact CloudDevice.noneStuck_iff.mp (killed fun name call isCall => nomatch isCall)
  · rintro guarded before after rfl idle
    have tracked : (run CloudDevice.step (CloudDevice.start Name) before).Tracked :=
      guarded_invariant (fun device action tracked cutsNone => tracked.step action cutsNone)
        (fun row member => nomatch member) ((guarded_append _ _ _).mp guarded).1
    exact CloudDevice.noneStuck_iff.mpr (tracked.noneUploading idle)

end Run

/-- A photo of a receipt. -/
def receiptPhoto : LocalAttachmentRecord where
  id := "att-1"
  bookId := "book-1"
  transactionId := "tx-1"
  fileName := "receipt.jpg"
  mime := "image/jpeg"
  relativePath := "attachments/att-1"
  createdAt := 1788705000000000

/-- Its upload is cut off when the row is marked. -/
def killedUpload : List (CloudAction Unit) :=
  [.attach receiptPhoto, .upload () "remote-1" { toLocalAttachmentRecord := receiptPhoto },
    .answer () (.syncState (some "remote-1")) 1788705000000, .answer () .done 1788705000001, .kill]

/-- The upload runs to its end. -/
def finishedUpload : List (CloudAction Unit) :=
  killedUpload.dropLast ++
    [.answer () (.length (some 3)) 1788705000002,
      .answer () (.session ⟨.text "remote-att", .text "books/b/remote-att", .absent, .absent, .absent,
        .text "https://store/remote-att", true⟩) 1788705000003,
      .answer () .done 1788705000004, .answer () (.length (some 3)) 1788705000005,
      .answer () .done 1788705000006, .answer () (.completed (.text "ready")) 1788705000007,
      .answer () .done 1788705000008]

example : (run CloudDevice.step (CloudDevice.start Unit) finishedUpload).rows.map
    (fun row => (row.cloudUploadStatus, row.remoteAttachmentId)) = [(.ready, some "remote-att")] := by
  decide

/-- The attachment of an upload that was cut off is stuck. -/
theorem killed_upload_is_stuck :
    (run CloudDevice.step (CloudDevice.start Unit) killedUpload).NoUpload ∧
      ¬(run CloudDevice.step (CloudDevice.start Unit) killedUpload).NoneStuck := by
  refine ⟨fun name call isCall => (nomatch isCall), fun settled => ?_⟩
  exact CloudDevice.noneStuck_iff.mp settled
    { toLocalAttachmentRecord := receiptPhoto, cloudUploadStatus := .uploading }
    List.mem_cons_self rfl

end Ledgerly
