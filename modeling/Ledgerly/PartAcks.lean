/-
This file is about the promise of a multipart upload: a part whose request was answered
successfully is in the list of parts, with the id of the answer, for as long as the attachment is
there, and no request panics.

`complete_multipart_part` writes back a list that it read under an earlier lock, and both handlers
of parts expect the record that they found then. So the promise is kept exactly in the runs in
which a list that is written back knows every part answered by then, and in which the record is
still there when a part is written.
-/

import Ledgerly.MultipartParts

namespace Ledgerly

open Machine

namespace PartWorld

variable {Name : Type} [DecidableEq Name] (backend : ObjectStoreBackend) (bookId id : String)
  (world : PartWorld Name)

/-- The request for a part was answered with an id. -/
def Acked (partNumber : Nat) (partId : PartId) : Prop :=
  world.parts partNumber = .answered (.ok partId)

/-- The promise, at one moment. -/
structure AcksKept : Prop where
  held : ∀ record, world.record? bookId id = some record → ∀ partNumber partId,
    world.Acked partNumber partId → record.multipartParts[partNumber - 1]? = some partId.text
  listed : ∀ record, world.record? bookId id = some record → ∀ partNumber partId,
    world.Acked partNumber partId →
      ∃ numbers, uploadedPartNumbers record = .ok numbers ∧ partNumber ∈ numbers
  calm : ∀ partNumber, world.parts partNumber ≠ .panicked

/-- The condition on a step. When a part is written, the record is there; and where a whole list
of parts is written back, every part answered by then is in that list. -/
def UpToDate : PartAction Name → Prop
  | .go partNumber =>
    match world.parts partNumber with
    | .recording _ _ => (world.record? bookId id).isSome
    | .merging partsJson _ => (world.record? bookId id).isSome ∧
      ∀ parts, parseMultipartParts partsJson = .ok parts → ∀ other otherId,
        world.Acked other otherId → parts[other - 1]? = some otherId.text
    | _ => True
  | _ => True

end PartWorld

/-! ### What the phases rest on -/

/-- The part is one of the plan of a multipart upload. -/
def PartPlanned (mode : String) (size : Option Int) (partNumber : Nat) : Prop :=
  mode = "multipart" ∧ ∃ sizeBytes : Int, size = some sizeBytes ∧ 0 ≤ sizeBytes ∧ 0 < partNumber ∧
    partNumber ≤ multipartPartCount sizeBytes.toNat

namespace PartPhase

/-- What is known of a request between its locks and after them. -/
def Sound (mode : String) (size : Option Int) (partNumber : Nat) : PartPhase → Prop
  | .storing sizeBytes => PartPlanned mode size partNumber ∧ size = some sizeBytes
  | .recording sizeBytes _ => PartPlanned mode size partNumber ∧ size = some sizeBytes
  | .merging partsJson partId => PartPlanned mode size partNumber ∧
    ∃ parts, partsJson = multipartPartsJson parts ∧ parts[partNumber - 1]? = some partId.text
  | .answered (.ok _) => PartPlanned mode size partNumber
  | _ => True

/-- A request that has neither succeeded nor panicked. -/
def Open : PartPhase → Prop
  | .answered (.ok _) => False
  | .panicked => False
  | _ => True

theorem eq_answered {phase : PartPhase} {text : String} (answered : phase.answeredId? = some text) :
    ∃ partId, phase = .answered (.ok partId) ∧ partId.text = text := by
  unfold answeredId? at answered
  split at answered
  · exact ⟨_, rfl, Option.some.inj answered⟩
  · cases answered

theorem eq_panicked {phase : PartPhase} (panicked : phase.isPanicked = true) :
    phase = .panicked := by
  unfold isPanicked at panicked
  split at panicked
  · rfl
  · cases panicked

theorem open_of_eq {phase other : PartPhase} (eq : phase = other) (isOpen : other.Open) :
    phase.Open := eq ▸ isOpen

end PartPhase

section Handlers

variable {found : Option AttachmentRecord} {partNumber : Nat}

theorem uploadMultipartPart_open (length : Nat) :
    (uploadMultipartPart found partNumber length).Open := by
  unfold uploadMultipartPart
  split_ifs
  · trivial
  · cases found with
    | none => trivial
    | some record =>
      dsimp only
      cases validateMultipartPart record.uploadMode record.uploadStatus
        (some (record.sizeBytes.getD 0)) partNumber length <;> trivial

theorem uploadMultipartPart_sound {mode : String} {size : Option Int}
    (known : ∀ record, found = some record → record.uploadMode = mode ∧ record.sizeBytes = size)
    (length : Nat) : (uploadMultipartPart found partNumber length).Sound mode size partNumber := by
  unfold uploadMultipartPart
  split_ifs
  · trivial
  · cases found with
    | none => trivial
    | some record =>
      obtain ⟨sameMode, sameSize⟩ := known record rfl
      dsimp only
      cases valid : validateMultipartPart record.uploadMode record.uploadStatus
          (some (record.sizeBytes.getD 0)) partNumber length with
      | error error => trivial
      | ok _ =>
        unfold validateMultipartPart at valid
        cases plan : validateMultipartPartPlan record.uploadMode record.uploadStatus
            (some (record.sizeBytes.getD 0)) partNumber with
        | error error =>
          rw [plan] at valid
          cases valid
        | ok expected =>
          obtain ⟨multipart, sizeBytes, read, nonnegative, positive, inPlan⟩ :=
            validateMultipartPartPlan_ok plan
          -- An upload without a size is read as one of size zero, which has no parts.
          have isSize : size = some sizeBytes := by
            rw [← sameSize]
            cases stored : record.sizeBytes with
            | none =>
              rw [stored, Option.getD_none, Option.some.injEq] at read
              rw [← read, Int.toNat_zero, multipartPartCount_zero] at inPlan
              exact absurd inPlan (Nat.not_le.mpr positive)
            | some _ => rwa [stored, Option.getD_some] at read
          have isRead : size = some (record.sizeBytes.getD 0) := by rw [isSize, ← read]
          exact ⟨⟨by rw [← sameMode, multipart], sizeBytes, isSize, nonnegative, positive, inPlan⟩,
            isRead⟩

theorem completeMultipartPart_open (backend : ObjectStoreBackend) (partId : String) :
    (completeMultipartPart backend found partNumber partId).Open := by
  unfold completeMultipartPart
  split_ifs
  · trivial
  · cases normalizeMultipartPartId partId with
    | error error => trivial
    | ok normalized =>
      cases found with
      | none => trivial
      | some record =>
        dsimp only
        cases validateMultipartPartPlan record.uploadMode record.uploadStatus record.sizeBytes
            partNumber with
        | error error => trivial
        | ok _ =>
          dsimp only
          cases updateMultipartPart (multipartPartsJson record.multipartParts)
            (record.sizeBytes.getD 0).toNat partNumber normalized.text <;> trivial

theorem completeMultipartPart_sound {mode : String} {size : Option Int}
    (known : ∀ record, found = some record → record.uploadMode = mode ∧ record.sizeBytes = size)
    (backend : ObjectStoreBackend) (partId : String) :
    (completeMultipartPart backend found partNumber partId).Sound mode size partNumber := by
  unfold completeMultipartPart
  split_ifs
  · trivial
  · cases normalizeMultipartPartId partId with
    | error error => trivial
    | ok normalized =>
      cases found with
      | none => trivial
      | some record =>
        obtain ⟨sameMode, sameSize⟩ := known record rfl
        dsimp only
        cases plan : validateMultipartPartPlan record.uploadMode record.uploadStatus
            record.sizeBytes partNumber with
        | error error => trivial
        | ok _ =>
          dsimp only
          obtain ⟨multipart, sizeBytes, read, nonnegative, positive, inPlan⟩ :=
            validateMultipartPartPlan_ok plan
          have planned : PartPlanned mode size partNumber :=
            ⟨by rw [← sameMode, multipart], sizeBytes, by rw [← sameSize, read], nonnegative,
              positive, inPlan⟩
          rw [read, Option.getD_some]
          cases updated : updateMultipartPart (multipartPartsJson record.multipartParts)
              sizeBytes.toNat partNumber normalized.text with
          | error error => trivial
          | ok partsJson =>
            obtain ⟨fits, made⟩ := updateMultipartPart_ok updated
            exact ⟨planned, _, made, getElem?_placePart_self fits positive inPlan⟩

end Handlers

namespace PartWorld

variable {Name : Type} [DecidableEq Name] {backend : ObjectStoreBackend} {bookId id : String}
  {world : PartWorld Name}

/-! ### One step -/

omit [DecidableEq Name] in
@[simp] theorem record?_answer (partNumber : Nat) (phase : PartPhase) :
    (world.answer partNumber phase).record? bookId id = world.record? bookId id := rfl

omit [DecidableEq Name] in
theorem acked_answer_open {partNumber : Nat} {phase : PartPhase} (isOpen : phase.Open)
    (was : (world.parts partNumber).Open) (other : Nat) (otherId : PartId) :
    (world.answer partNumber phase).Acked other otherId ↔ world.Acked other otherId := by
  unfold Acked answer
  dsimp only
  by_cases same : other = partNumber
  · subst same
    rw [Function.update_self]
    constructor
    · intro acked
      rw [acked] at isOpen
      exact isOpen.elim
    · intro acked
      rw [acked] at was
      exact was.elim
  · rw [Function.update_of_ne same]

/-- What every request counts on: the record keeps its mode and its size. -/
structure Sound (bookId id mode : String) (size : Option Int) (world : PartWorld Name) : Prop where
  known : ∀ record, world.record? bookId id = some record →
    record.uploadMode = mode ∧ record.sizeBytes = size
  phases : ∀ partNumber, (world.parts partNumber).Sound mode size partNumber

variable {mode : String} {size : Option Int}

omit [DecidableEq Name] in
theorem Sound.answer (sound : world.Sound bookId id mode size) {partNumber : Nat}
    {phase : PartPhase} (next : phase.Sound mode size partNumber) :
    (world.answer partNumber phase).Sound bookId id mode size := by
  refine ⟨sound.known, fun other => ?_⟩
  unfold PartWorld.answer
  dsimp only
  by_cases same : other = partNumber
  · subst same
    rw [Function.update_self]
    exact next
  · rw [Function.update_of_ne same]
    exact sound.phases other

omit [DecidableEq Name] in
theorem record?_write {partNumber : Nat} {phase : PartPhase} {parts : List String} :
    (PartWorld.record? bookId id
      { world with
        attachments := updateAttachment world.attachments bookId id fun record =>
          { record with multipartParts := parts }
        parts := Function.update world.parts partNumber phase }) =
      (world.record? bookId id).map fun record => { record with multipartParts := parts } :=
  findAttachment_update fun _ is => is

omit [DecidableEq Name] in
theorem Sound.writeParts (sound : world.Sound bookId id mode size) {partNumber : Nat}
    {partId : PartId} (planned : PartPlanned mode size partNumber)
    (parts : List String → Except ApiError (List String)) :
    (world.writeParts bookId id partNumber partId parts).Sound bookId id mode size := by
  unfold PartWorld.writeParts
  cases found : world.record? bookId id with
  | none => exact sound.answer trivial
  | some record =>
    dsimp only
    cases parts record.multipartParts with
    | error error => exact sound.answer trivial
    | ok parts =>
      have answered : (world.answer partNumber (.answered (.ok partId))).Sound bookId id mode size :=
        sound.answer planned
      refine ⟨?_, answered.phases⟩
      intro changed foundChanged
      rw [record?_write, found, Option.map_some] at foundChanged
      obtain rfl := Option.some.inj foundChanged
      exact sound.known record found

theorem sound_step (sound : world.Sound bookId id mode size) (action : PartAction Name) :
    (world.step backend bookId id action).Sound bookId id mode size := by
  cases action with
  | request partNumber request =>
    rw [step]
    cases world.parts partNumber with
    | idle => exact sound.answer trivial
    | _ => exact sound
  | go partNumber =>
    have here := sound.phases partNumber
    rw [step]
    cases phase : world.parts partNumber with
    | waiting request =>
      cases request with
      | upload length => exact sound.answer (uploadMultipartPart_sound sound.known length)
      | complete partId =>
        exact sound.answer (completeMultipartPart_sound sound.known backend partId)
    | recording sizeBytes partId =>
      rw [phase] at here
      exact sound.writeParts here.1 _
    | merging partsJson partId =>
      rw [phase] at here
      exact sound.writeParts here.1 _
    | _ => exact sound
  | stored partNumber result =>
    have here := sound.phases partNumber
    rw [step]
    cases phase : world.parts partNumber with
    | storing sizeBytes =>
      rw [phase] at here
      cases result with
      | none => exact sound.answer trivial
      | some partId => exact sound.answer here
    | _ => exact sound
  | remove name removal =>
    rw [step]
    cases world.removals name with
    | idle => exact ⟨sound.known, sound.phases⟩
    | _ => exact sound
  | goRemoval name =>
    rw [step]
    cases world.removals name with
    | waiting removal => exact ⟨sound.known, sound.phases⟩
    | removing =>
      refine ⟨fun record found => ?_, sound.phases⟩
      rw [record?, findAttachment_remove] at found
      cases found
    | _ => exact sound
  | dropped name succeeded =>
    rw [step]
    cases world.removals name with
    | dropping => exact ⟨sound.known, sound.phases⟩
    | _ => exact sound

/-! ### The promise step by step -/

omit [DecidableEq Name] in
/-- What is in its place is listed. -/
theorem acksKept_iff (sound : world.Sound bookId id mode size) :
    world.AcksKept bookId id ↔
      (∀ record, world.record? bookId id = some record → ∀ partNumber partId,
        world.Acked partNumber partId →
          record.multipartParts[partNumber - 1]? = some partId.text) ∧
      ∀ partNumber, world.parts partNumber ≠ .panicked := by
  refine ⟨fun kept => ⟨kept.held, kept.calm⟩, fun kept => ⟨kept.1, ?_, kept.2⟩⟩
  intro record found partNumber partId acked
  have planned := sound.phases partNumber
  rw [acked] at planned
  obtain ⟨multipart, sizeBytes, isSize, nonnegative, positive, -⟩ := planned
  obtain ⟨sameMode, sameSize⟩ := sound.known record found
  exact mem_uploadedPartNumbers (sameMode.trans multipart) (sameSize.trans isSize) nonnegative
    positive (kept.1 record found partNumber partId acked) partId.nonempty

omit [DecidableEq Name] in
/-- A request that only goes on keeps the promise. -/
theorem acksKept_answer {partNumber : Nat} {phase : PartPhase} (isOpen : phase.Open)
    (was : (world.parts partNumber).Open) (kept : world.AcksKept bookId id) :
    (world.answer partNumber phase).AcksKept bookId id := by
  refine ⟨fun record found other otherId acked => ?_, fun record found other otherId acked => ?_,
    fun other => ?_⟩
  · exact kept.held record found other otherId ((acked_answer_open isOpen was _ _).mp acked)
  · exact kept.listed record found other otherId ((acked_answer_open isOpen was _ _).mp acked)
  · unfold answer
    dsimp only
    by_cases same : other = partNumber
    · subst same
      rw [Function.update_self]
      intro panicked
      rw [panicked] at isOpen
      exact isOpen
    · rw [Function.update_of_ne same]
      exact kept.calm other

omit [DecidableEq Name] in
/-- A write of parts keeps the promise exactly if the record is there and its new parts, if it
gets any, hold the part and every part answered before. -/
theorem acksKept_writeParts (sound : world.Sound bookId id mode size)
    (kept : world.AcksKept bookId id) {partNumber : Nat} {partId : PartId}
    (planned : PartPlanned mode size partNumber) (was : (world.parts partNumber).Open)
    (parts : List String → Except ApiError (List String)) :
    (world.writeParts bookId id partNumber partId parts).AcksKept bookId id ↔
      ∃ record, world.record? bookId id = some record ∧
        ∀ written, parts record.multipartParts = .ok written →
          written[partNumber - 1]? = some partId.text ∧
          ∀ other otherId, world.Acked other otherId →
            written[other - 1]? = some otherId.text := by
  rw [acksKept_iff (sound.writeParts planned parts)]
  unfold writeParts
  cases found : world.record? bookId id with
  | none =>
    dsimp only
    constructor
    · rintro ⟨-, calm⟩
      refine absurd ?_ (calm partNumber)
      exact Function.update_self _ _ _
    · rintro ⟨record, impossible, -⟩
      cases impossible
  | some record =>
    dsimp only
    cases made : parts record.multipartParts with
    | error error =>
      have after : (world.answer partNumber (.answered (.error error))).AcksKept bookId id :=
        acksKept_answer trivial was kept
      refine ⟨fun _ => ⟨record, rfl, fun written impossible => ?_⟩,
        fun _ => ⟨after.held, after.calm⟩⟩
      rw [made] at impossible
      cases impossible
    | ok written =>
      rw [record?_write, found, Option.map_some]
      dsimp only [Acked]
      constructor
      · rintro ⟨held, -⟩
        refine ⟨record, rfl, fun same madeSame => ?_⟩
        rw [made] at madeSame
        obtain rfl := Except.ok.inj madeSame
        refine ⟨held _ rfl partNumber partId (Function.update_self _ _ _), ?_⟩
        intro other otherId acked
        refine held _ rfl other otherId ?_
        rw [Function.update_of_ne, acked]
        rintro rfl
        rw [acked] at was
        exact was
      · rintro ⟨same, isRecord, holds⟩
        obtain rfl := Option.some.inj isRecord
        obtain ⟨self, others⟩ := holds written made
        refine ⟨?_, fun other => ?_⟩
        · intro changed isChanged other otherId acked
          obtain rfl := Option.some.inj isChanged
          by_cases here : other = partNumber
          · subst here
            rw [Function.update_self] at acked
            obtain rfl := Except.ok.inj (PartPhase.answered.inj acked)
            exact self
          · rw [Function.update_of_ne here] at acked
            exact others other otherId acked
        · by_cases here : other = partNumber
          · subst here
            rw [Function.update_self]
            exact fun impossible => nomatch impossible
          · rw [Function.update_of_ne here]
            exact kept.calm other

/-- A step keeps the promise exactly if it meets the condition. -/
theorem acksKept_step (sound : world.Sound bookId id mode size)
    (kept : world.AcksKept bookId id) (action : PartAction Name) :
    (world.step backend bookId id action).AcksKept bookId id ↔
      world.UpToDate bookId id action := by
  have same {removals : Name → RemovalPhase} :
      (PartWorld.mk world.attachments world.parts removals).AcksKept bookId id :=
    ⟨kept.held, kept.listed, kept.calm⟩
  cases action with
  | request partNumber request =>
    refine iff_of_true ?_ trivial
    rw [step]
    cases phase : world.parts partNumber with
    | idle => exact acksKept_answer trivial (PartPhase.open_of_eq phase trivial) kept
    | _ => exact kept
  | go partNumber =>
    have here := sound.phases partNumber
    rw [step, UpToDate]
    cases phase : world.parts partNumber with
    | waiting request =>
      have was := PartPhase.open_of_eq phase trivial
      refine iff_of_true ?_ trivial
      cases request with
      | upload length => exact acksKept_answer (uploadMultipartPart_open length) was kept
      | complete partId => exact acksKept_answer (completeMultipartPart_open backend partId) was kept
    | recording sizeBytes partId =>
      rw [phase] at here
      dsimp only
      rw [acksKept_writeParts sound kept here.1 (PartPhase.open_of_eq phase trivial),
        Option.isSome_iff_exists]
      refine exists_congr fun record => and_iff_left_of_imp fun found written made => ?_
      obtain ⟨-, _, isSize, -, positive, inPlan⟩ := here.1
      obtain rfl := Option.some.inj (isSize.symm.trans here.2)
      unfold recordPart at made
      split_ifs at made with tooLong
      obtain rfl := Except.ok.inj made
      refine ⟨getElem?_placePart_self (Nat.not_lt.mp tooLong) positive inPlan, ?_⟩
      intro other otherId acked
      have planned := sound.phases other
      rw [acked] at planned
      obtain ⟨-, _, -, -, otherPositive, -⟩ := planned
      refine getElem?_placePart_of_ne positive otherPositive ?_
        (kept.held record found other otherId acked)
      rintro rfl
      exact nomatch acked.symm.trans phase
    | merging partsJson partId =>
      rw [phase] at here
      dsimp only
      rw [acksKept_writeParts sound kept here.1 (PartPhase.open_of_eq phase trivial),
        Option.isSome_iff_exists, exists_and_right]
      obtain ⟨-, parts, rfl, inPlace⟩ := here
      refine and_congr_right fun _ => forall_congr' fun written => ?_
      refine imp_congr_right fun made => and_iff_right ?_
      rw [parseMultipartParts_json] at made
      rwa [← Except.ok.inj made]
    | _ => exact iff_of_true kept trivial
  | stored partNumber result =>
    refine iff_of_true ?_ trivial
    rw [step]
    cases phase : world.parts partNumber with
    | storing sizeBytes =>
      have was := PartPhase.open_of_eq phase trivial
      cases result with
      | none => exact acksKept_answer trivial was kept
      | some partId => exact acksKept_answer trivial was kept
    | _ => exact kept
  | remove name removal =>
    refine iff_of_true ?_ trivial
    rw [step]
    cases world.removals name with
    | idle => exact same
    | _ => exact kept
  | goRemoval name =>
    refine iff_of_true ?_ trivial
    rw [step]
    cases world.removals name with
    | waiting removal => exact same
    | removing =>
      refine ⟨fun record found => ?_, fun record found => ?_, kept.calm⟩
      all_goals
        rw [record?, findAttachment_remove] at found
        cases found
    | _ => exact kept
  | dropped name succeeded =>
    refine iff_of_true ?_ trivial
    rw [step]
    cases world.removals name with
    | dropping => exact same
    | _ => exact kept

omit [DecidableEq Name] in
theorem sound_start (attachments : List AttachmentRecord) :
    ∃ mode size, (start Name attachments).Sound bookId id mode size := by
  cases found : findAttachment attachments bookId id with
  | none => exact ⟨"", none, ⟨fun record is => (nomatch found.symm.trans is), fun _ => trivial⟩⟩
  | some record =>
    refine ⟨record.uploadMode, record.sizeBytes, ⟨fun other is => ?_, fun _ => trivial⟩⟩
    rw [Option.some.inj (found.symm.trans is)]
    exact ⟨rfl, rfl⟩

omit [DecidableEq Name] in
theorem acksKept_start (attachments : List AttachmentRecord) :
    (start Name attachments).AcksKept bookId id :=
  ⟨fun _ _ _ _ acked => (nomatch acked), fun _ _ _ _ acked => (nomatch acked),
    fun _ panicked => (nomatch panicked)⟩

/-- The record stays where nobody asks to remove it. -/
theorem record?_isSome_of_no_removal {attachments : List AttachmentRecord}
    {inputs : List (PartAction Name)} (there : (findAttachment attachments bookId id).isSome)
    (noRemoval : ∀ action ∈ inputs, ∀ name removal, action ≠ .remove name removal) :
    ((run (step backend bookId id) (start Name attachments) inputs).record? bookId id).isSome := by
  suffices kept : ∀ world : PartWorld Name, ∀ action ∈ inputs,
      ((world.record? bookId id).isSome ∧ ∀ name, world.removals name = .idle) →
        ((world.step backend bookId id action).record? bookId id).isSome ∧
          ∀ name, (world.step backend bookId id action).removals name = .idle by
    have begins : ((start Name attachments).record? bookId id).isSome ∧
        ∀ name, (start Name attachments).removals name = .idle := ⟨there, fun _ => rfl⟩
    exact (Machine.run_invariant_of_mem kept begins).1
  intro world action member ⟨isThere, idle⟩
  have written {partNumber : Nat} {partId : PartId}
      {parts : List String → Except ApiError (List String)} :
      ((world.writeParts bookId id partNumber partId parts).record? bookId id).isSome ∧
        ∀ name, (world.writeParts bookId id partNumber partId parts).removals name = .idle := by
    unfold writeParts
    cases found : world.record? bookId id with
    | none => exact ⟨isThere, idle⟩
    | some record =>
      dsimp only
      cases parts record.multipartParts with
      | error error => exact ⟨isThere, idle⟩
      | ok parts =>
        refine ⟨?_, idle⟩
        rw [record?_write, found]
        rfl
  cases action with
  | request partNumber request =>
    rw [step]
    cases world.parts partNumber <;> exact ⟨isThere, idle⟩
  | go partNumber =>
    rw [step]
    cases world.parts partNumber with
    | waiting request => cases request <;> exact ⟨isThere, idle⟩
    | recording sizeBytes partId => exact written
    | merging partsJson partId => exact written
    | _ => exact ⟨isThere, idle⟩
  | stored partNumber result =>
    rw [step]
    cases world.parts partNumber with
    | storing sizeBytes => cases result <;> exact ⟨isThere, idle⟩
    | _ => exact ⟨isThere, idle⟩
  | remove name removal => exact absurd rfl (noRemoval _ member name removal)
  | goRemoval name =>
    rw [step, idle name]
    exact ⟨isThere, idle⟩
  | dropped name succeeded =>
    rw [step, idle name]
    exact ⟨isThere, idle⟩

end PartWorld

open PartWorld

/-- The promise is kept throughout a run exactly if every write of the run meets the condition;
and the attachment is there throughout a run in which nobody removes it. -/
theorem part_acks_kept_iff {Name : Type} [DecidableEq Name] (backend : ObjectStoreBackend)
    (bookId id : String) (attachments : List AttachmentRecord) (inputs : List (PartAction Name)) :
    ((∀ before, before <+: inputs →
        (run (step backend bookId id) (start Name attachments) before).AcksKept bookId id) ↔
      Guarded (step backend bookId id) (fun world action => world.UpToDate bookId id action)
        (start Name attachments) inputs) ∧
    ((findAttachment attachments bookId id).isSome →
      (∀ action ∈ inputs, ∀ name removal, action ≠ .remove name removal) →
        ((run (step backend bookId id) (start Name attachments) inputs).record?
          bookId id).isSome) := by
  obtain ⟨mode, size, sound⟩ : ∃ mode size,
      (start Name attachments).Sound bookId id mode size := sound_start attachments
  refine ⟨?_, record?_isSome_of_no_removal⟩
  have soundKept : ∀ (world : PartWorld Name) action, world.Sound bookId id mode size →
      (world.step backend bookId id action).Sound bookId id mode size :=
    fun _ action holds => sound_step holds action
  exact Machine.invariant_throughout_iff soundKept
    (fun _ action holds kept => acksKept_step holds kept action) sound
    (acksKept_start attachments) inputs

/-! ### Two runs in which it is broken -/

/-- A pending upload of two parts. -/
def twoPartUpload : AttachmentRecord where
  id := "file"
  bookId := "book"
  objectKey := "book/file"
  uploadStatus := "pending"
  sizeBytes := some 10485760
  contentHash := none
  uploadMode := "multipart"
  multipartUploadId := some "upload"
  multipartParts := []

/-- Both parts are completed on lists read before either is written. -/
def overlappingParts : List (PartAction Unit) :=
  [.request 1 (.complete "one"), .request 2 (.complete "two"), .go 1, .go 2, .go 1, .go 2]

/-- The attachment is deleted between the two locks of a part. -/
def deletedUnderPart : List (PartAction Unit) :=
  [.request 1 (.complete "one"), .go 1, .remove () .delete, .goRemoval (), .dropped () true,
    .goRemoval (), .go 1]

/-- An answered part is lost, and a request panics. -/
theorem part_ack_lost :
    ¬(run (step .s3 "book" "file") (start Unit [twoPartUpload]) overlappingParts).AcksKept
        "book" "file" ∧
      ¬(run (step .s3 "book" "file") (start Unit [twoPartUpload]) deletedUnderPart).AcksKept
        "book" "file" := by
  constructor
  · intro kept
    have answered : ((run (step .s3 "book" "file") (start Unit [twoPartUpload])
        overlappingParts).parts 1).answeredId? = some "one" := by decide +kernel
    have left : ((run (step .s3 "book" "file") (start Unit [twoPartUpload])
        overlappingParts).record? "book" "file").map AttachmentRecord.multipartParts =
          some ["", "two"] := by decide +kernel
    obtain ⟨record, found, parts⟩ := Option.map_eq_some_iff.mp left
    obtain ⟨partId, acked, isOne⟩ := PartPhase.eq_answered answered
    have held := kept.held record found 1 partId acked
    rw [parts, isOne] at held
    exact absurd held (by decide)
  · intro kept
    exact kept.calm 1 (PartPhase.eq_panicked (by decide +kernel))

end Ledgerly
