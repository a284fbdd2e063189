/-
This file is about the promise that an attachment gives once it is ready: its object is stored and
has the recorded size and digest, and whoever is told that it is ready is told so while it is.

The row and the object are not changed together. So the promise is kept exactly in the runs in
which no bytes but the recorded ones are stored under a ready row, no object is dropped under one,
a row is marked only while the object is still the one that was looked at, and the row is neither
removed nor marked failed before the answer.
-/

import Ledgerly.AttachmentUploads
import Ledgerly.Library.Partial

namespace Ledgerly

open Machine

/-- The record says what the bytes are. -/
def AttachmentRecord.Records [Sha256] (record : AttachmentRecord) (bytes : List UInt8) : Prop :=
  record.sizeBytes = some (bytes.length : Int) ∧ record.contentHash = some (Sha256.hex bytes)

/-- The request is past its first statement and not answered. -/
def UploadPhase.Working : UploadPhase → Prop
  | .idle | .waiting _ | .answered _ => False
  | _ => True

namespace UploadWorld

variable {Name : Type} [DecidableEq Name] [Sha256] (config : UploadConfig) (bookId id : String)
  (world : UploadWorld Name)

/-- The promise, at one moment. -/
structure ReadyBacked : Prop where
  backed : ∀ record, world.row = some record → record.uploadStatus = "ready" →
    ∃ bytes, world.object = some bytes ∧ record.Records bytes
  answers : ∀ found ∈ world.readyAnswers, ∃ record : AttachmentRecord, found = some record ∧
    record.uploadStatus = "ready"

/-- The bytes can be stored: the row is not ready, or it has their size and digest. -/
def MayStore (bytes : List UInt8) : Prop :=
  ∀ record, world.row = some record → record.uploadStatus = "ready" → record.Records bytes

/-- The object can be dropped: the row is not ready. -/
def MayDrop : Prop := ∀ record, world.row = some record → record.uploadStatus ≠ "ready"

/-- The condition on the next call of a request, by its phase. -/
def GoesBacked (reply : Reply) : UploadPhase → Prop
  | .assembling _ uploadId partIds => reply.takesEffect →
    ∀ bytes, world.assembled config uploadId partIds = some bytes → world.MayStore bytes
  | .dropping | .deleting | .purgingObject => reply.takesEffect → world.MayDrop
  | .marking sizeBytes sha256 => world.lock = none → reply.takesEffect → world.row.isSome →
    ∃ bytes, world.object = some bytes ∧ bytes.length = sizeBytes ∧ Sha256.hex bytes = sha256
  | .signing => reply = .done →
    ∃ record, world.row = some record ∧ record.uploadStatus ≠ "failed"
  | _ => True

/-- The condition on a step. -/
def StaysBacked : UploadAction Name → Prop
  | .put body => world.uploadUrl → world.MayStore body
  | .go name reply => world.GoesBacked config reply (world.phases name)
  | _ => True

/-! ### What the requests count on -/

/-- Nobody works on an attachment that is not created, and between the UPDATE and the answer the
row is not pending again. -/
structure Sound : Prop where
  fresh : world.created = false → world.row = none ∧ ∀ name, ¬(world.phases name).Working
  signed : ∀ name, world.phases name = .signing → ∀ record, world.row = some record →
    record.uploadStatus = "ready" ∨ record.uploadStatus = "failed"

/-- What an effect may do to the row. -/
structure KeepsRow (before after : UploadWorld Name) : Prop where
  phases : after.phases = before.phases
  created : after.created = before.created
  absent : before.row = none → after.row = none
  status : ∀ record, after.row = some record →
    (record.uploadStatus = "ready" ∨ record.uploadStatus = "failed") ∨
      ∃ earlier, before.row = some earlier ∧ earlier.uploadStatus = record.uploadStatus

section Sound

variable {config bookId id world}

omit [DecidableEq Name] [Sha256] in
theorem keepsRow_of_row {after : UploadWorld Name} (phases : after.phases = world.phases)
    (created : after.created = world.created) (row : after.row = world.row) :
    world.KeepsRow after :=
  ⟨phases, created, fun absent => row.trans absent,
    fun record found => Or.inr ⟨record, row ▸ found, rfl⟩⟩

omit [DecidableEq Name] [Sha256] in
theorem keepsRow_map {change : AttachmentRecord → AttachmentRecord}
    (status : ∀ record, ((change record).uploadStatus = "ready" ∨
      (change record).uploadStatus = "failed") ∨
      (change record).uploadStatus = record.uploadStatus) :
    world.KeepsRow (world.writeRow fun row => row.map change) := by
  refine ⟨rfl, rfl, fun absent => ?_, fun record found => ?_⟩
  · show world.row.map change = none
    rw [absent, Option.map_none]
  · obtain ⟨earlier, was, rfl⟩ := Option.map_eq_some_iff.mp found
    exact (status earlier).imp_right fun same => ⟨earlier, was, same.symm⟩

omit [DecidableEq Name] [Sha256] in
theorem keepsRow_remove : world.KeepsRow (world.writeRow fun _ => none) :=
  ⟨rfl, rfl, fun _ => rfl, fun _ impossible => (nomatch impossible)⟩

omit [DecidableEq Name] [Sha256] in
theorem Sound.created_of_working (sound : world.Sound) {name : Name}
    (working : (world.phases name).Working) : world.created = true := by
  by_contra notCreated
  rw [Bool.not_eq_true] at notCreated
  exact (sound.fresh notCreated).2 name working

omit [Sha256] in
theorem Sound.move (sound : world.Sound) {after : UploadWorld Name} (keeps : world.KeepsRow after)
    {name : Name} {phase : UploadPhase} (working : phase.Working → world.created = true)
    (signing : phase = .signing → ∀ record, after.row = some record →
      record.uploadStatus = "ready" ∨ record.uploadStatus = "failed") :
    (after.move name phase).Sound := by
  constructor
  · intro notCreated
    have unborn : world.created = false := keeps.created ▸ notCreated
    refine ⟨keeps.absent (sound.fresh unborn).1, fun other => ?_⟩
    unfold UploadWorld.move
    dsimp only
    by_cases same : other = name
    · subst same
      rw [Function.update_self]
      intro isWorking
      rw [working isWorking] at unborn
      cases unborn
    · rw [Function.update_of_ne same, keeps.phases]
      exact (sound.fresh unborn).2 other
  · intro other isSigning record found
    unfold UploadWorld.move at isSigning
    dsimp only at isSigning
    by_cases same : other = name
    · subst same
      rw [Function.update_self] at isSigning
      exact signing isSigning record found
    · rw [Function.update_of_ne same, keeps.phases] at isSigning
      rcases keeps.status record found with known | ⟨earlier, was, same⟩
      · exact known
      · rw [← same]
        exact sound.signed other isSigning earlier was

omit [Sha256] in
theorem Sound.release (sound : world.Sound) (name : Name) : (world.release name).Sound := by
  unfold UploadWorld.release
  split_ifs
  · exact ⟨sound.fresh, sound.signed⟩
  · exact sound

omit [DecidableEq Name] [Sha256] in
theorem keepsRow_refl : world.KeepsRow world := keepsRow_of_row rfl rfl rfl

omit [Sha256] in
/-- A request that is answered with an error. -/
theorem Sound.answer (sound : world.Sound) {after : UploadWorld Name}
    (keeps : world.KeepsRow after) (name : Name) (answer : Except ApiError Unit) :
    (after.move name (.answered answer)).Sound :=
  sound.move keeps (fun isWorking => isWorking.elim) fun impossible => (nomatch impossible)

omit [Sha256] in
theorem Sound.call (sound : world.Sound) {effect : UploadWorld Name → UploadWorld Name}
    (keeps : world.KeepsRow (effect world)) {name : Name} {reply : Reply} {next : UploadPhase}
    {error : String → ApiError} (working : next.Working → world.created = true)
    (signing : next = .signing → ∀ record, (effect world).row = some record →
      record.uploadStatus = "ready" ∨ record.uploadStatus = "failed") :
    (world.call name reply effect next error).Sound := by
  cases reply with
  | done => exact sound.move keeps working signing
  | failed text => exact sound.answer keepsRow_refl name _
  | lost text => exact sound.answer keeps name _

omit [Sha256] in
theorem Sound.tryCall (sound : world.Sound) {effect : UploadWorld Name → UploadWorld Name}
    (keeps : world.KeepsRow (effect world)) {name : Name} {reply : Reply} {next : UploadPhase}
    (working : next.Working → world.created = true) (signing : next ≠ .signing) :
    (world.tryCall name reply effect next).Sound := by
  unfold UploadWorld.tryCall
  split_ifs
  · exact sound.move keeps working fun isSigning => absurd isSigning signing
  · exact sound.move keepsRow_refl working fun isSigning => absurd isSigning signing

omit [DecidableEq Name] [Sha256] in
/-- A request whose first statement finds no row does not go on. -/
theorem Sound.created_of_found (sound : world.Sound) {record : AttachmentRecord}
    (found : world.row = some record) : world.created = true := by
  by_contra notCreated
  rw [Bool.not_eq_true] at notCreated
  rw [(sound.fresh notCreated).1] at found
  cases found

omit [DecidableEq Name] [Sha256] in
theorem Sound.lock (sound : world.Sound) (lock : Option Name) :
    ({ world with lock := lock } : UploadWorld Name).Sound := ⟨sound.fresh, sound.signed⟩

end Sound

end UploadWorld

/-! ### The first statements -/

/-- A first statement goes on only with a row, and not straight to the answer. -/
def UploadPhase.Opens (found : Option AttachmentRecord) (phase : UploadPhase) : Prop :=
  phase ≠ .signing ∧ (phase.Working → found.isSome)

section Starts

variable {found : Option AttachmentRecord}

theorem opens_answered (answer : Except ApiError Unit) :
    (UploadPhase.answered answer).Opens found := ⟨UploadPhase.noConfusion, fun working => working.elim⟩

theorem opens_some {record : AttachmentRecord} {phase : UploadPhase} (goesOn : phase ≠ .signing) :
    phase.Opens (some record) := ⟨goesOn, fun _ => rfl⟩

theorem startComplete_opens : (startComplete found).Opens found := by
  unfold startComplete
  cases found with
  | none => exact opens_answered _
  | some record =>
    dsimp only
    generalize multipartPartCount = count
    split_ifs
    · cases record.sizeBytes with
      | none => exact opens_answered _
      | some sizeBytes =>
        dsimp only
        split_ifs
        · exact opens_answered _
        · exact opens_answered _
        · exact opens_some UploadPhase.noConfusion
    · exact opens_some UploadPhase.noConfusion

theorem startUploadPart_opens (partNumber : Nat) (body : List UInt8) (partId : PartId) :
    (startUploadPart found partNumber body partId).Opens found := by
  unfold startUploadPart
  split_ifs
  · exact opens_answered _
  · cases found with
    | none => exact opens_answered _
    | some record =>
      dsimp only
      cases validateMultipartPart record.uploadMode record.uploadStatus record.sizeBytes partNumber
          body.length with
      | error error => exact opens_answered _
      | ok _ => exact opens_some UploadPhase.noConfusion

theorem startAbort_opens : (startAbort found).Opens found := by
  unfold startAbort
  cases found with
  | none => exact opens_answered _
  | some record =>
    dsimp only
    split_ifs
    · exact opens_answered _
    · exact opens_some UploadPhase.noConfusion

theorem startDelete_opens : (startDelete found).Opens found := by
  unfold startDelete
  cases found with
  | none => exact opens_answered _
  | some record => exact opens_some UploadPhase.noConfusion

theorem startPurge_opens {phase : UploadPhase} (starts : startPurge found = some phase) :
    phase.Opens found := by
  unfold startPurge at starts
  cases found with
  | none => cases starts
  | some record =>
    dsimp only at starts
    split_ifs at starts <;> exact Option.some.inj starts ▸ opens_some UploadPhase.noConfusion

theorem completedParts_found {config : UploadConfig} {partNumber : Nat} {partId : String}
    {parts : List String} (made : completedParts config found partNumber partId = .ok parts) :
    found.isSome := by
  unfold completedParts at made
  split_ifs at made
  obtain ⟨normalized, _, made⟩ := Except.bind_eq_ok.mp made
  cases found with
  | none => cases made
  | some record => rfl

theorem checkSize_ne_signing (config : UploadConfig) (expectedSize : Option Int)
    (uploadId : Option String) (actualSize : Option Nat) :
    checkSize config expectedSize uploadId actualSize ≠ .signing := by
  unfold checkSize
  cases actualSize with
  | none => exact UploadPhase.noConfusion
  | some size =>
    dsimp only
    split_ifs <;> exact UploadPhase.noConfusion

theorem checkMetadata_ne_signing [Sha256] (actualSize : Nat) (uploadId : Option String)
    (object : Option (List UInt8)) : checkMetadata actualSize uploadId object ≠ .signing := by
  unfold checkMetadata
  cases object with
  | none => exact UploadPhase.noConfusion
  | some bytes =>
    dsimp only
    split_ifs <;> exact UploadPhase.noConfusion

end Starts

namespace UploadWorld

variable {Name : Type} [DecidableEq Name] [Sha256] {config : UploadConfig} {bookId id : String}
  {world : UploadWorld Name}

omit [Sha256] in
theorem Sound.opens (sound : world.Sound) {name : Name} {phase : UploadPhase}
    (opens : phase.Opens world.row) : (world.move name phase).Sound := by
  refine sound.move keepsRow_refl (fun working => ?_) fun isSigning => absurd isSigning opens.1
  obtain ⟨record, found⟩ := Option.isSome_iff_exists.mp (opens.2 working)
  exact sound.created_of_found found

omit [Sha256] in
theorem sound_start (sound : world.Sound) (name : Name) (request : UploadRequest) :
    (world.start config name request).Sound := by
  cases request with
  | complete => exact sound.opens startComplete_opens
  | uploadPart partNumber body partId =>
    rw [start]
    split_ifs
    · exact sound
    · have opens : (startUploadPart world.row partNumber body partId).Opens world.row :=
        startUploadPart_opens partNumber body partId
      split
      · rename_i starts
        exact (sound.opens (starts ▸ opens)).lock _
      · exact sound.opens opens
  | completePart partNumber partId =>
    rw [start]
    split_ifs
    · exact sound
    · cases made : completedParts config world.row partNumber partId with
      | error error => exact sound.answer keepsRow_refl name _
      | ok parts =>
        have opens : (UploadPhase.recordingPart parts).Opens world.row :=
          ⟨UploadPhase.noConfusion, fun _ => completedParts_found made⟩
        exact (sound.opens opens).lock _
  | abort => exact sound.opens startAbort_opens
  | delete => exact sound.opens startDelete_opens
  | purge =>
    rw [start]
    split_ifs
    · exact sound.answer keepsRow_refl name _
    · cases starts : startPurge world.row with
      | none => exact sound.answer keepsRow_refl name _
      | some phase => exact (sound.opens (startPurge_opens starts)).lock _

omit [DecidableEq Name] [Sha256] in
theorem keepsRow_abortMultipart (uploadId : Option String) :
    world.KeepsRow (world.abortMultipart config uploadId) := by
  unfold abortMultipart
  split_ifs <;> exact keepsRow_of_row rfl rfl rfl

omit [DecidableEq Name] [Sha256] in
theorem keepsRow_storePart (partId : PartId) (body : List UInt8) :
    world.KeepsRow (world.storePart partId body) := keepsRow_of_row rfl rfl rfl

omit [Sha256] in
theorem sound_assemble (sound : world.Sound) (created : world.created = true) (name : Name)
    (reply : Reply) (expectedSize : Option Int) (uploadId : Option String)
    (partIds : List String) :
    (world.assemble config name reply expectedSize uploadId partIds).Sound := by
  unfold assemble
  cases world.assembled config uploadId partIds with
  | none => exact sound.answer keepsRow_refl name _
  | some bytes =>
    exact sound.call (keepsRow_of_row rfl rfl rfl) (fun _ => created)
      fun impossible => (nomatch impossible)

omit [Sha256] in
theorem sound_mark (sound : world.Sound) (created : world.created = true) (name : Name)
    (reply : Reply) (sizeBytes : Nat) (sha256 : String) :
    (world.mark name reply sizeBytes sha256).Sound := by
  unfold mark
  split_ifs
  · exact sound
  · refine sound.call (keepsRow_map fun record => Or.inl (Or.inl rfl)) (fun _ => created)
      fun _ record found => ?_
    obtain ⟨earlier, _, rfl⟩ := Option.map_eq_some_iff.mp found
    exact Or.inl rfl

omit [Sha256] in
theorem sound_sign (sound : world.Sound) (name : Name) (reply : Reply) :
    (world.sign name reply).Sound := by
  have next (answer : Except ApiError Unit) : (world.move name (.answered answer)).Sound :=
    sound.answer keepsRow_refl name answer
  cases reply with
  | done => exact ⟨(next _).fresh, (next _).signed⟩
  | failed text => exact next _
  | lost text => exact next _

omit [Sha256] in
theorem sound_fail (sound : world.Sound) (name : Name) (reply : Reply) :
    (world.fail name reply).Sound := by
  unfold fail
  split_ifs
  · exact sound
  · exact sound.tryCall (keepsRow_map fun record => Or.inl (Or.inr rfl))
      (fun working => working.elim) UploadPhase.noConfusion

omit [Sha256] in
theorem sound_uploadPart (sound : world.Sound) (created : world.created = true) (name : Name)
    (reply : Reply) (parts : Except ApiError (List String)) (body : List UInt8)
    (partId : PartId) : (world.uploadPart name reply parts body partId).Sound := by
  have keeps : world.KeepsRow (world.storePart partId body) := keepsRow_storePart partId body
  unfold uploadPart
  cases reply with
  | done =>
    cases parts with
    | error error => exact (sound.answer keeps name _).release name
    | ok parts =>
      exact sound.move keeps (fun _ => created) fun impossible => (nomatch impossible)
  | failed text => exact (sound.answer keepsRow_refl name _).release name
  | lost text => exact (sound.answer keeps name _).release name

omit [Sha256] in
theorem sound_remove (sound : world.Sound) (name : Name) (reply : Reply) :
    (world.remove name reply).Sound := by
  unfold remove
  split_ifs
  · exact sound
  · exact sound.call keepsRow_remove (fun working => working.elim)
      fun impossible => (nomatch impossible)

omit [Sha256] in
theorem sound_commitPurge (sound : world.Sound) (name : Name) (reply : Reply) (deleted : Bool) :
    (world.commitPurge name reply deleted).Sound := by
  refine Sound.release ?_ name
  refine sound.call ?_ (fun working => working.elim) fun impossible => (nomatch impossible)
  cases deleted with
  | true => exact keepsRow_remove
  | false => exact keepsRow_refl

theorem sound_go (sound : world.Sound) (name : Name) (reply : Reply) :
    (world.go config name reply).Sound := by
  have created := @Sound.created_of_working _ world sound name
  unfold go
  cases phase : world.phases name with
  | idle => exact sound
  | waiting request => exact sound_start sound name request
  | answered answer => exact sound
  | assembling expectedSize uploadId partIds =>
    exact sound_assemble sound (created (phase ▸ trivial)) name reply expectedSize uploadId partIds
  | measuring expectedSize uploadId =>
    show (world.call name reply (fun world => world)
      (checkSize config expectedSize uploadId (world.object.map List.length))
      fun _ => objectStoreFailed).Sound
    refine sound.call ?_ ?_ ?_
    · exact keepsRow_refl
    · exact fun _ => created (phase ▸ trivial)
    · exact fun impossible => absurd impossible (checkSize_ne_signing _ _ _ _)
  | hashing actualSize uploadId =>
    show (world.call name reply (fun world => world)
      (checkMetadata actualSize uploadId world.object) fun _ => objectStoreFailed).Sound
    refine sound.call ?_ ?_ ?_
    · exact keepsRow_refl
    · exact fun _ => created (phase ▸ trivial)
    · exact fun impossible => absurd impossible (checkMetadata_ne_signing _ _ _)
  | marking sizeBytes sha256 =>
    exact sound_mark sound (created (phase ▸ trivial)) name reply sizeBytes sha256
  | signing => exact sound_sign sound name reply
  | rejecting uploadId =>
    refine sound.tryCall ?_ (fun _ => created (phase ▸ trivial)) UploadPhase.noConfusion
    split_ifs
    · exact keepsRow_abortMultipart uploadId
    · exact keepsRow_refl
  | dropping =>
    exact sound.tryCall (keepsRow_of_row rfl rfl rfl) (fun _ => created (phase ▸ trivial))
      UploadPhase.noConfusion
  | failing => exact sound_fail sound name reply
  | storingPart record partNumber body partId =>
    exact sound_uploadPart sound (created (phase ▸ trivial)) name reply _ body partId
  | recordingPart parts =>
    refine Sound.release ?_ name
    refine sound.call ?_ (fun working => working.elim) fun impossible => (nomatch impossible)
    exact keepsRow_map fun record => Or.inr rfl
  | aborting uploadId =>
    show (world.call name reply (fun world => world.abortMultipart config uploadId) .removing
      fun _ => objectStoreFailed).Sound
    refine sound.call ?_ ?_ ?_
    · exact keepsRow_abortMultipart uploadId
    · exact fun _ => created (phase ▸ trivial)
    · exact fun impossible => (nomatch impossible)
  | deleting =>
    exact sound.call (keepsRow_of_row rfl rfl rfl) (fun _ => created (phase ▸ trivial))
      fun impossible => (nomatch impossible)
  | removing => exact sound_remove sound name reply
  | purging uploadId =>
    show (world.tryCall name reply (fun world => world.abortMultipart config uploadId)
      (if reply = .done then .purgingObject else .committing false)).Sound
    refine sound.tryCall ?_ ?_ ?_
    · exact keepsRow_abortMultipart uploadId
    · exact fun _ => created (phase ▸ trivial)
    · split_ifs <;> exact UploadPhase.noConfusion
  | purgingObject =>
    exact sound.tryCall (keepsRow_of_row rfl rfl rfl) (fun _ => created (phase ▸ trivial))
      UploadPhase.noConfusion
  | committing deleted => exact sound_commitPurge sound name reply deleted

theorem sound_step (sound : world.Sound) (action : UploadAction Name) :
    (world.step config bookId id action).Sound := by
  cases action with
  | createSession size uploadId =>
    rw [step]
    split_ifs with created
    · exact sound
    · rw [Bool.not_eq_true] at created
      cases newAttachment config bookId id size uploadId with
      | none => exact sound
      | some record =>
        refine ⟨fun impossible => (nomatch impossible), fun name isSigning => ?_⟩
        have signing : world.phases name = .signing := isSigning
        exact absurd (signing ▸ trivial) ((sound.fresh created).2 name)
  | expireUrl => exact ⟨sound.fresh, sound.signed⟩
  | put body =>
    rw [step]
    split_ifs
    · exact ⟨sound.fresh, sound.signed⟩
    · exact sound
  | putPart partId body => exact ⟨sound.fresh, sound.signed⟩
  | request name request =>
    rw [step]
    split
    · exact sound.move keepsRow_refl (fun working => working.elim)
        fun impossible => (nomatch impossible)
    · exact sound
  | go name reply => exact sound_go sound name reply
  | cancel name => exact (sound.answer keepsRow_refl name _).release name

/-! ### The promise step by step -/

omit [DecidableEq Name] in
theorem readyBacked_congr {after : UploadWorld Name} (row : after.row = world.row)
    (object : after.object = world.object) (answers : after.readyAnswers = world.readyAnswers) :
    after.ReadyBacked ↔ world.ReadyBacked := by
  constructor
  · exact fun kept => ⟨row ▸ object ▸ kept.backed, answers ▸ kept.answers⟩
  · exact fun kept => ⟨row ▸ object ▸ kept.backed, answers ▸ kept.answers⟩

theorem readyBacked_move {name : Name} {phase : UploadPhase} :
    (world.move name phase).ReadyBacked ↔ world.ReadyBacked := readyBacked_congr rfl rfl rfl

theorem readyBacked_release {name : Name} :
    (world.release name).ReadyBacked ↔ world.ReadyBacked := by
  unfold UploadWorld.release
  split_ifs
  · exact readyBacked_congr rfl rfl rfl
  · exact Iff.rfl

theorem readyBacked_call (kept : world.ReadyBacked) {name : Name} {reply : Reply}
    {effect : UploadWorld Name → UploadWorld Name} {next : UploadPhase}
    {error : String → ApiError} :
    (world.call name reply effect next error).ReadyBacked ↔
      (reply.takesEffect → (effect world).ReadyBacked) := by
  cases reply with
  | done => exact readyBacked_move.trans (imp_iff_right rfl).symm
  | failed text =>
    exact iff_of_true (readyBacked_move.mpr kept) fun impossible => (nomatch impossible)
  | lost text => exact readyBacked_move.trans (imp_iff_right rfl).symm

theorem readyBacked_tryCall (kept : world.ReadyBacked) {name : Name} {reply : Reply}
    {effect : UploadWorld Name → UploadWorld Name} {next : UploadPhase} :
    (world.tryCall name reply effect next).ReadyBacked ↔
      (reply.takesEffect → (effect world).ReadyBacked) := by
  unfold UploadWorld.tryCall
  rw [readyBacked_move]
  split_ifs with effective
  · exact (imp_iff_right effective).symm
  · exact iff_of_true kept fun impossible => absurd impossible effective

omit [DecidableEq Name] in
theorem readyBacked_store (kept : world.ReadyBacked) (bytes : List UInt8) :
    (world.store bytes).ReadyBacked ↔ world.MayStore bytes := by
  constructor
  · intro after record found ready
    obtain ⟨stored, isStored, records⟩ := after.backed record found ready
    rwa [Option.some.inj isStored]
  · exact fun may => ⟨fun record found ready => ⟨bytes, rfl, may record found ready⟩, kept.answers⟩

omit [DecidableEq Name] in
theorem readyBacked_dropObject (kept : world.ReadyBacked) :
    world.dropObject.ReadyBacked ↔ world.MayDrop := by
  constructor
  · intro after record found ready
    obtain ⟨_, impossible, _⟩ := after.backed record found ready
    cases impossible
  · exact fun may => ⟨fun record found ready => absurd ready (may record found), kept.answers⟩

omit [DecidableEq Name] in
/-- The row gets the size and the digest of the bytes that were looked at. -/
theorem readyBacked_markReady (kept : world.ReadyBacked) (sizeBytes : Nat) (sha256 : String) :
    (world.writeRow fun row => row.map (markReady sizeBytes sha256)).ReadyBacked ↔
      (world.row.isSome → ∃ bytes, world.object = some bytes ∧ bytes.length = sizeBytes ∧
        Sha256.hex bytes = sha256) := by
  constructor
  · intro after there
    obtain ⟨record, found⟩ := Option.isSome_iff_exists.mp there
    have marked : (world.writeRow fun row => row.map (markReady sizeBytes sha256)).row =
        some (markReady sizeBytes sha256 record) := by
      show world.row.map _ = _
      rw [found, Option.map_some]
    obtain ⟨bytes, stored, size, digest⟩ := after.backed _ marked rfl
    refine ⟨bytes, stored, ?_, (Option.some.inj digest).symm⟩
    exact Int.ofNat.inj (Option.some.inj size).symm
  · refine fun same => ⟨fun record found _ => ?_, kept.answers⟩
    obtain ⟨earlier, was, rfl⟩ := Option.map_eq_some_iff.mp found
    obtain ⟨bytes, stored, rfl, rfl⟩ := same (by rw [was, Option.isSome_some])
    exact ⟨bytes, stored, rfl, rfl⟩

omit [DecidableEq Name] in
/-- A change that leaves no ready row but the one there was. -/
theorem readyBacked_writeRow (kept : world.ReadyBacked)
    (row : Option AttachmentRecord → Option AttachmentRecord)
    (keeps : ∀ record, row world.row = some record → record.uploadStatus = "ready" →
      ∃ earlier, world.row = some earlier ∧ earlier.uploadStatus = "ready" ∧
        ∀ bytes, earlier.Records bytes → record.Records bytes) :
    (world.writeRow row).ReadyBacked := by
  refine ⟨fun record found ready => ?_, kept.answers⟩
  obtain ⟨earlier, was, wasReady, same⟩ := keeps record found ready
  obtain ⟨bytes, stored, records⟩ := kept.backed earlier was wasReady
  exact ⟨bytes, stored, same bytes records⟩

omit [DecidableEq Name] in
theorem readyBacked_markFailed (kept : world.ReadyBacked) :
    (world.writeRow fun row => row.map markFailed).ReadyBacked := by
  refine readyBacked_writeRow kept _ fun record found ready => ?_
  obtain ⟨earlier, _, rfl⟩ := Option.map_eq_some_iff.mp found
  have failed : "failed" = "ready" := ready
  exact absurd failed (by decide)

omit [DecidableEq Name] in
theorem readyBacked_remove (kept : world.ReadyBacked) :
    (world.writeRow fun _ => none).ReadyBacked :=
  readyBacked_writeRow kept _ fun _ impossible => (nomatch impossible)

omit [DecidableEq Name] in
theorem readyBacked_recordParts (kept : world.ReadyBacked) (parts : List String) :
    (world.writeRow fun row => row.map fun record =>
      { record with multipartParts := parts }).ReadyBacked := by
  refine readyBacked_writeRow kept _ fun record found ready => ?_
  obtain ⟨earlier, was, rfl⟩ := Option.map_eq_some_iff.mp found
  exact ⟨earlier, was, ready, fun _ records => records⟩

omit [DecidableEq Name] in
theorem readyBacked_abortMultipart (uploadId : Option String) :
    (world.abortMultipart config uploadId).ReadyBacked ↔ world.ReadyBacked := by
  unfold abortMultipart
  split_ifs
  · exact Iff.rfl
  · exact readyBacked_congr rfl rfl rfl

omit [DecidableEq Name] in
theorem readyBacked_storePart (partId : PartId) (body : List UInt8) :
    (world.storePart partId body).ReadyBacked ↔ world.ReadyBacked := readyBacked_congr rfl rfl rfl

theorem readyBacked_start (name : Name) (request : UploadRequest) :
    (world.start config name request).ReadyBacked ↔ world.ReadyBacked := by
  cases request with
  | complete => exact readyBacked_move
  | uploadPart partNumber body partId =>
    rw [start]
    split_ifs
    · exact Iff.rfl
    · split <;> exact readyBacked_congr rfl rfl rfl
  | completePart partNumber partId =>
    rw [start]
    split_ifs
    · exact Iff.rfl
    · cases completedParts config world.row partNumber partId <;> exact readyBacked_congr rfl rfl rfl
  | abort => exact readyBacked_move
  | delete => exact readyBacked_move
  | purge =>
    rw [start]
    split_ifs
    · exact readyBacked_move
    · cases startPurge world.row <;> exact readyBacked_congr rfl rfl rfl

theorem readyBacked_assemble (kept : world.ReadyBacked) (name : Name) (reply : Reply)
    (expectedSize : Option Int) (uploadId : Option String) (partIds : List String) :
    (world.assemble config name reply expectedSize uploadId partIds).ReadyBacked ↔
      (reply.takesEffect → ∀ bytes, world.assembled config uploadId partIds = some bytes →
        world.MayStore bytes) := by
  unfold assemble
  cases world.assembled config uploadId partIds with
  | none =>
    exact iff_of_true (readyBacked_move.mpr kept) fun _ _ impossible => (nomatch impossible)
  | some bytes =>
    refine (readyBacked_call kept).trans (forall_congr' fun _ => ?_)
    have same : ({ world.store bytes with storedParts := fun _ => none } :
        UploadWorld Name).ReadyBacked ↔ (world.store bytes).ReadyBacked :=
      readyBacked_congr rfl rfl rfl
    rw [same, readyBacked_store kept]
    exact ⟨fun may other same => Option.some.inj same ▸ may, fun may => may bytes rfl⟩

theorem readyBacked_mark (kept : world.ReadyBacked) (name : Name) (reply : Reply)
    (sizeBytes : Nat) (sha256 : String) :
    (world.mark name reply sizeBytes sha256).ReadyBacked ↔
      (world.lock = none → reply.takesEffect → world.row.isSome →
        ∃ bytes, world.object = some bytes ∧ bytes.length = sizeBytes ∧
          Sha256.hex bytes = sha256) := by
  unfold mark
  split_ifs with locked
  · refine iff_of_true kept fun free => ?_
    rw [free] at locked
    cases locked
  · rw [Bool.not_eq_true, Option.isSome_eq_false_iff, Option.isNone_iff_eq_none] at locked
    rw [readyBacked_call kept, readyBacked_markReady kept]
    exact (imp_iff_right locked).symm

theorem readyBacked_sign (sound : world.Sound) (kept : world.ReadyBacked) {name : Name}
    (signing : world.phases name = .signing) (reply : Reply) :
    (world.sign name reply).ReadyBacked ↔ (reply = .done →
      ∃ record, world.row = some record ∧ record.uploadStatus ≠ "failed") := by
  cases reply with
  | done =>
    constructor
    · intro after _
      obtain ⟨record, found, ready⟩ := after.answers world.row List.mem_cons_self
      exact ⟨record, found, by rw [ready]; decide⟩
    · intro answered
      obtain ⟨record, found, notFailed⟩ := answered rfl
      refine ⟨kept.backed, fun answer member => ?_⟩
      rcases List.mem_cons.mp member with rfl | earlier
      · exact ⟨record, found, (sound.signed name signing record found).resolve_right notFailed⟩
      · exact kept.answers answer earlier
  | failed text =>
    exact iff_of_true (readyBacked_move.mpr kept) fun impossible => (nomatch impossible)
  | lost text =>
    exact iff_of_true (readyBacked_move.mpr kept) fun impossible => (nomatch impossible)

theorem readyBacked_uploadPart (name : Name) (reply : Reply)
    (parts : Except ApiError (List String)) (body : List UInt8) (partId : PartId) :
    (world.uploadPart name reply parts body partId).ReadyBacked ↔ world.ReadyBacked := by
  unfold uploadPart
  cases reply with
  | done =>
    cases parts with
    | error error => exact readyBacked_release.trans (readyBacked_congr rfl rfl rfl)
    | ok parts => exact readyBacked_congr rfl rfl rfl
  | failed text => exact readyBacked_release.trans readyBacked_move
  | lost text => exact readyBacked_release.trans (readyBacked_congr rfl rfl rfl)

omit [Sha256] in
theorem newAttachment_pending {size : Option Int} {uploadId : Option String}
    {record : AttachmentRecord} (made : newAttachment config bookId id size uploadId = some record) :
    record.uploadStatus = "pending" := by
  unfold newAttachment at made
  split at made
  · cases made
  · rw [← Option.some.inj made]

theorem readyBacked_go (sound : world.Sound) (kept : world.ReadyBacked) (name : Name)
    (reply : Reply) :
    (world.go config name reply).ReadyBacked ↔
      world.GoesBacked config reply (world.phases name) := by
  unfold go
  cases phase : world.phases name with
  | idle => exact iff_of_true kept trivial
  | answered answer => exact iff_of_true kept trivial
  | waiting request => exact iff_of_true ((readyBacked_start name request).mpr kept) trivial
  | assembling expectedSize uploadId partIds =>
    exact readyBacked_assemble kept name reply expectedSize uploadId partIds
  | measuring expectedSize uploadId =>
    refine iff_of_true ?_ trivial
    show (world.call name reply (fun world => world)
      (checkSize config expectedSize uploadId (world.object.map List.length))
      fun _ => objectStoreFailed).ReadyBacked
    exact (readyBacked_call kept).mpr fun _ => kept
  | hashing actualSize uploadId =>
    refine iff_of_true ?_ trivial
    show (world.call name reply (fun world => world)
      (checkMetadata actualSize uploadId world.object) fun _ => objectStoreFailed).ReadyBacked
    exact (readyBacked_call kept).mpr fun _ => kept
  | marking sizeBytes sha256 => exact readyBacked_mark kept name reply sizeBytes sha256
  | signing => exact readyBacked_sign sound kept phase reply
  | rejecting uploadId =>
    refine iff_of_true ((readyBacked_tryCall kept).mpr fun _ => ?_) trivial
    split_ifs
    · exact (readyBacked_abortMultipart uploadId).mpr kept
    · exact kept
  | dropping =>
    exact (readyBacked_tryCall kept).trans (imp_congr_right fun _ => readyBacked_dropObject kept)
  | failing =>
    refine iff_of_true ?_ trivial
    show (world.fail name reply).ReadyBacked
    unfold fail
    split_ifs
    · exact kept
    · exact (readyBacked_tryCall kept).mpr fun _ => readyBacked_markFailed kept
  | storingPart record partNumber body partId =>
    exact iff_of_true ((readyBacked_uploadPart name reply _ body partId).mpr kept) trivial
  | recordingPart parts =>
    refine iff_of_true (readyBacked_release.mpr ?_) trivial
    exact (readyBacked_call kept).mpr fun _ => readyBacked_recordParts kept parts
  | aborting uploadId =>
    refine iff_of_true ?_ trivial
    show (world.call name reply (fun world => world.abortMultipart config uploadId) .removing
      fun _ => objectStoreFailed).ReadyBacked
    exact (readyBacked_call kept).mpr fun _ => (readyBacked_abortMultipart uploadId).mpr kept
  | deleting =>
    exact (readyBacked_call kept).trans (imp_congr_right fun _ => readyBacked_dropObject kept)
  | removing =>
    refine iff_of_true ?_ trivial
    show (world.remove name reply).ReadyBacked
    unfold remove
    split_ifs
    · exact kept
    · exact (readyBacked_call kept).mpr fun _ => readyBacked_remove kept
  | purging uploadId =>
    refine iff_of_true ?_ trivial
    show (world.tryCall name reply (fun world => world.abortMultipart config uploadId)
      (if reply = .done then .purgingObject else .committing false)).ReadyBacked
    exact (readyBacked_tryCall kept).mpr fun _ => (readyBacked_abortMultipart uploadId).mpr kept
  | purgingObject =>
    exact (readyBacked_tryCall kept).trans (imp_congr_right fun _ => readyBacked_dropObject kept)
  | committing deleted =>
    refine iff_of_true (readyBacked_release.mpr ((readyBacked_call kept).mpr fun _ => ?_)) trivial
    cases deleted with
    | true => exact readyBacked_remove kept
    | false => exact kept

theorem readyBacked_step (sound : world.Sound) (kept : world.ReadyBacked)
    (action : UploadAction Name) :
    (world.step config bookId id action).ReadyBacked ↔ world.StaysBacked config action := by
  cases action with
  | createSession size uploadId =>
    refine iff_of_true ?_ trivial
    rw [step]
    split_ifs
    · exact kept
    · cases made : newAttachment config bookId id size uploadId with
      | none => exact kept
      | some record =>
        refine ⟨fun found same ready => ?_, kept.answers⟩
        obtain rfl := Option.some.inj same
        rw [newAttachment_pending made] at ready
        exact absurd ready (by decide)
  | expireUrl => exact iff_of_true ⟨kept.backed, kept.answers⟩ trivial
  | put body =>
    rw [step]
    unfold StaysBacked
    split_ifs with valid
    · rw [readyBacked_store kept]
      exact (imp_iff_right valid).symm
    · exact iff_of_true kept fun impossible => absurd impossible valid
  | putPart partId body => exact iff_of_true ((readyBacked_storePart partId body).mpr kept) trivial
  | request name request =>
    refine iff_of_true ?_ trivial
    rw [step]
    split
    · exact readyBacked_move.mpr kept
    · exact kept
  | go name reply => exact readyBacked_go sound kept name reply
  | cancel name =>
    exact iff_of_true (readyBacked_release.mpr (readyBacked_move.mpr kept)) trivial

end UploadWorld

/-- The promise is kept throughout a run exactly if every step of the run meets the condition. -/
theorem ready_backed_iff {Name : Type} [DecidableEq Name] [Sha256] (config : UploadConfig)
    (bookId id : String) (inputs : List (UploadAction Name)) :
    (∀ before, before <+: inputs →
      (run (UploadWorld.step config bookId id) {} before : UploadWorld Name).ReadyBacked) ↔
    Guarded (UploadWorld.step config bookId id)
      (fun world action => world.StaysBacked config action) {} inputs := by
  have sound : ({} : UploadWorld Name).Sound :=
    ⟨fun _ => ⟨rfl, fun _ working => working⟩, fun _ impossible => (nomatch impossible)⟩
  have kept : ({} : UploadWorld Name).ReadyBacked :=
    ⟨fun _ impossible => (nomatch impossible), fun _ impossible => (nomatch impossible)⟩
  have soundKept : ∀ (world : UploadWorld Name) action, world.Sound →
      (world.step config bookId id action).Sound :=
    fun _ action holds => UploadWorld.sound_step holds action
  have stepwise : ∀ (world : UploadWorld Name) action, world.Sound → world.ReadyBacked →
      ((world.step config bookId id action).ReadyBacked ↔ world.StaysBacked config action) :=
    fun _ action holds backed => UploadWorld.readyBacked_step holds backed action
  exact Machine.invariant_throughout_iff soundKept stepwise sound kept inputs

/-! ### Two runs in which it is broken -/

/-- The digest of no bytes but those of two notes. -/
@[reducible] def noteDigest : Sha256 where
  hex bytes := if bytes = [1, 2] then "first" else "other"

/-- A configuration with the local object store. -/
def noteConfig : UploadConfig := ⟨1048576, .localDisk⟩

/-- An attachment of two bytes is uploaded and completed; then its URL is used again. -/
def lateUpload : List (UploadAction Unit) :=
  [.createSession (some 2) none, .put [1, 2], .request () .complete, .go () .done, .go () .done,
    .go () .done, .go () .done, .go () .done, .put [3, 4]]

/-- The attachment is deleted before `complete_attachment` marks it. -/
def deletedUnderComplete : List (UploadAction Bool) :=
  [.createSession (some 2) none, .put [1, 2], .request true .complete, .go true .done,
    .go true .done, .go true .done, .request false .delete, .go false .done, .go false .done,
    .go false .done, .go true .done, .go true .done]

/-- A ready attachment has other bytes than the recorded ones, and a deleted one is called ready. -/
theorem ready_unbacked :
    let := noteDigest
    ¬(run (UploadWorld.step noteConfig "book" "note") {} lateUpload :
        UploadWorld Unit).ReadyBacked ∧
      ¬(run (UploadWorld.step noteConfig "book" "note") {} deletedUnderComplete :
        UploadWorld Bool).ReadyBacked := by
  intro digest
  constructor
  · intro kept
    have stored : (run (UploadWorld.step noteConfig "book" "note") {} lateUpload :
        UploadWorld Unit).object = some [3, 4] := by decide +kernel
    have ready : ((run (UploadWorld.step noteConfig "book" "note") {} lateUpload :
        UploadWorld Unit).row.map fun record => (record.uploadStatus, record.contentHash)) =
          some ("ready", some "first") := by decide +kernel
    obtain ⟨record, found, same⟩ := Option.map_eq_some_iff.mp ready
    obtain ⟨status, hash⟩ := Prod.mk.inj same
    obtain ⟨bytes, isStored, records⟩ := kept.backed record found status
    rw [stored] at isStored
    obtain rfl := Option.some.inj isStored
    rw [records.2] at hash
    exact absurd hash (by decide)
  · intro kept
    have answered : (run (UploadWorld.step noteConfig "book" "note") {} deletedUnderComplete :
        UploadWorld Bool).readyAnswers = [none] := by decide +kernel
    obtain ⟨record, impossible, _⟩ := kept.answers none (by rw [answered]; exact List.mem_cons_self)
    cases impossible

end Ledgerly
