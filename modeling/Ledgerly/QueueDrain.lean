/-
This file proves when a sync gets past its push, whatever receipts the server gives.

The loop over the receipts knows three outcomes: an applied mutation leaves the queue, a
rejection with one of four codes becomes a conflict, and some rejections around categories are
tried again under a new id. Every other rejection is a throw, which ends the sync before it
pulls. The queue is handled in its order, so that one induction over queue and receipts says
what becomes of every mutation.
-/

import Ledgerly.QueueSound

namespace Ledgerly

/-! ### What becomes of a mutation -/

/-- A rejection after which a mutation is tried again. -/
def Retried (rejected : List String) (row : PendingMutationRow) (code : String) : Prop :=
  code = "INVALID_CATEGORY_PARENT" ∧ row.entityType = "account" ∨
    code = "ACCOUNT_NOT_FOUND" ∧
      (row.entityType = "account" ∧ row.entityId ∈ rejected ∨
        rejected ≠ [] ∧ row.entityType = "transaction")

/-- A receipt that the loop has an answer to. -/
def Settles (rejected : List String) (row : PendingMutationRow) (receipt : MutationReceiptDto) :
    Prop :=
  receipt.status = "applied" ∨ Retried rejected row receipt.resultCode ∨
    receipt.resultCode ∈ conflictCodes

/-- A receipt after which a mutation is not tried again. -/
def MutationReceiptDto.Final (receipt : MutationReceiptDto) : Prop :=
  receipt.status = "applied" ∨ receipt.resultCode ∈ conflictCodes

/-- The mutation that is tried again in the place of another. -/
structure RenewedAs (old new : PendingMutationRow) (newId : String) : Prop where
  renamed : new.mutationId = newId
  type : new.entityType = old.entityType
  entity : new.entityId = old.entityId

/-- The conflict that is recorded for a mutation. -/
structure SyncConflict.Records (conflict : SyncConflict) (row : PendingMutationRow)
    (code : String) : Prop where
  entity : conflict.entityId = row.entityId
  reason : conflict.reason = code
  payload : conflict.localPayload = row.payload

/-- What a receipt makes of its mutation: what is left in its place, and what is recorded. -/
inductive Outcome (rejected : List String) (newId : String) (row : PendingMutationRow)
    (receipt : MutationReceiptDto) : List PendingMutationRow → List SyncConflict → Prop
  | applied (applied : receipt.status = "applied") : Outcome rejected newId row receipt [] []
  | renewed {new : PendingMutationRow} (rejects : receipt.status ≠ "applied")
      (retried : Retried rejected row receipt.resultCode) (renewed : RenewedAs row new newId) :
      Outcome rejected newId row receipt [new] []
  | conflicted {conflict : SyncConflict} (rejects : receipt.status ≠ "applied")
      (code : receipt.resultCode ∈ conflictCodes) (named : conflict.id = newId)
      (records : conflict.Records row receipt.resultCode) :
      Outcome rejected newId row receipt [] [conflict]

/-- What the receipts make of the mutations of a queue. -/
inductive Processed (rejected : List String) (newId : Nat → String) :
    Nat → List PendingMutationRow → List MutationReceiptDto → List PendingMutationRow →
      List SyncConflict → Prop
  | nil {position : Nat} : Processed rejected newId position [] [] [] []
  | cons {position : Nat} {row : PendingMutationRow} {receipt : MutationReceiptDto}
      {rows left later : List PendingMutationRow} {receipts : List MutationReceiptDto}
      {recorded after : List SyncConflict}
      (outcome : Outcome rejected (newId position) row receipt left recorded)
      (rest : Processed rejected newId (position + 1) rows receipts later after) :
      Processed rejected newId position (row :: rows) (receipt :: receipts) (left ++ later)
        (recorded ++ after)

/-- Ids for the loop that are new to the device, from a position on. -/
structure Device.Spare (device : Device) (newId : Nat → String) (position : Nat) : Prop where
  pending : ∀ later, position ≤ later → ∀ row ∈ device.pending, row.mutationId ≠ newId later
  conflicts : ∀ later, position ≤ later → ∀ conflict ∈ device.conflicts,
    conflict.id ≠ newId later

/-! ### One receipt -/

section Receipt

variable {device : Device} {done rows : List PendingMutationRow} {row : PendingMutationRow}
  {newId : Nat → String} {position : Nat} {mutationId : String}

/-- The queue without the mutation that is being handled. -/
theorem filter_handled (queue : device.pending = done ++ row :: rows)
    (distinct : (device.pending.map PendingMutationRow.mutationId).Nodup) :
    device.pending.filter (fun other => other.mutationId ≠ row.mutationId) = done ++ rows := by
  rw [queue, List.map_append, List.map_cons, List.nodup_middle, List.nodup_cons] at distinct
  have others : ∀ other ∈ done ++ rows, other.mutationId ≠ row.mutationId := by
    intro other member same
    rw [← List.map_append] at distinct
    exact distinct.1 (List.mem_map.mpr ⟨other, member, same⟩)
  rw [queue, List.filter_append, List.filter_cons_of_neg (by simp), ← List.filter_append]
  exact List.filter_eq_self.mpr fun other member => decide_eq_true (others other member)

/-- The queue with another mutation in the place of the one that is being handled. -/
theorem map_handled (queue : device.pending = done ++ row :: rows)
    (distinct : (device.pending.map PendingMutationRow.mutationId).Nodup)
    (new : PendingMutationRow) :
    (device.pending.map fun other => if other.mutationId = row.mutationId then new else other) =
      done ++ new :: rows := by
  rw [queue, List.map_append, List.map_cons, List.nodup_middle, List.nodup_cons,
    ← List.map_append] at distinct
  have others : ∀ other ∈ done ++ rows, other.mutationId ≠ row.mutationId := fun other member same =>
    distinct.1 (List.mem_map.mpr ⟨other, member, same⟩)
  have kept : ∀ part : List PendingMutationRow, (∀ other ∈ part, other ∈ done ++ rows) →
      (part.map fun other => if other.mutationId = row.mutationId then new else other) = part := by
    intro part within
    conv_rhs => rw [← List.map_id part]
    exact List.map_congr_left fun other member => if_neg (others other (within other member))
  rw [queue, List.map_append, List.map_cons, if_pos rfl,
    kept done fun other member => List.mem_append_left _ member,
    kept rows fun other member => List.mem_append_right _ member]

/-- A mutation that is queued again under a new id. -/
theorem Device.requeue_handled (accounts : KeyMap String LocalAccount)
    (queue : device.pending = done ++ row :: rows)
    (distinct : (device.pending.map PendingMutationRow.mutationId).Nodup)
    (spare : device.Spare newId position) (new : PendingMutationRow)
    (renamed : new.mutationId = newId position) :
    ({ device with accounts := accounts } : Device).requeue row.mutationId new =
      some { device with
        accounts := accounts
        pending := done ++ new :: rows } := by
  have free : ¬(device.pending.any fun other =>
      other.mutationId ≠ row.mutationId && other.mutationId = new.mutationId) = true := by
    intro taken
    obtain ⟨other, member, same⟩ := List.any_eq_true.mp taken
    rw [Bool.and_eq_true, decide_eq_true_eq, decide_eq_true_eq, renamed] at same
    exact spare.pending position (le_refl _) other member same.2
  unfold Device.requeue
  rw [if_neg free]
  dsimp only
  rw [map_handled queue distinct]

/-- The mutation that is being handled is found in the queue. -/
theorem find?_handled (queue : device.pending = done ++ row :: rows)
    (distinct : (device.pending.map PendingMutationRow.mutationId).Nodup) :
    (device.pending.find? fun other => other.mutationId = row.mutationId) = some row := by
  cases found : device.pending.find? fun other => other.mutationId = row.mutationId with
  | none =>
    refine absurd (decide_eq_true rfl) (List.find?_eq_none.mp found row ?_)
    rw [queue]
    exact List.mem_append_right _ List.mem_cons_self
  | some other =>
    have same : other.mutationId = row.mutationId := by simpa using List.find?_some found
    refine congrArg some (List.inj_on_of_nodup_map distinct (List.mem_of_find?_eq_some found) ?_
      same)
    rw [queue]
    exact List.mem_append_right _ List.mem_cons_self

/-- The device in the middle of the loop: what is done, and the mutations that remain. -/
structure Handling (pending : List PendingMutationRow) (newId : Nat → String) (device : Device)
    (done rows : List PendingMutationRow) (position : Nat) : Prop where
  queue : device.pending = done ++ rows
  sound : device.QueueSound
  spare : device.Spare newId position
  original : ∀ row ∈ rows,
    (pending.find? fun other => other.mutationId = row.mutationId) = some row

variable {pending : List PendingMutationRow} {rejected : List String}
  {receipt : MutationReceiptDto}

/-- A rejection that is tried again is queued under the new id. -/
theorem Handling.retry (handling : Handling pending newId device done (row :: rows) position)
    (named : receipt.mutationId = row.mutationId) (rejects : receipt.status ≠ "applied")
    (retried : Retried rejected row receipt.resultCode) :
    ∃ after new, device.handleReceipt pending rejected (newId position) receipt = some after ∧
      RenewedAs row new (newId position) ∧ after.pending = done ++ new :: rows ∧
      after.conflicts = device.conflicts := by
  obtain ⟨queue, sound, spare, original⟩ := handling
  have inPending := original row List.mem_cons_self
  have inQueue := find?_handled queue sound.distinct
  have member : row ∈ device.pending := by
    rw [queue]
    exact List.mem_append_right _ List.mem_cons_self
  have asRoot : row.entityType = "account" → ∃ after new,
      device.retryCategoryMutationAsRoot row.mutationId (newId position) = some after ∧
      RenewedAs row new (newId position) ∧ after.pending = done ++ new :: rows ∧
      after.conflicts = device.conflicts := by
    intro isAccount
    obtain ⟨⟨fields, isObject⟩, known⟩ := sound.accounts row member isAccount
    obtain ⟨account, found⟩ := Option.isSome_iff_exists.mp known
    unfold Device.retryCategoryMutationAsRoot
    rw [inQueue]
    dsimp only
    rw [if_neg (not_not.mpr isAccount)]
    split
    · rw [Device.requeue_handled _ queue sound.distinct spare _ rfl]
      refine ⟨_, _, rfl, ?_, rfl, rfl⟩
      exact ⟨rfl, rfl, rfl⟩
    · rename_i noAccount
      exact absurd found (noAccount fields account isObject)
  have again : ∃ after new,
      device.renewPendingMutation row.mutationId (newId position) = some after ∧
      RenewedAs row new (newId position) ∧ after.pending = done ++ new :: rows ∧
      after.conflicts = device.conflicts := by
    unfold Device.renewPendingMutation
    rw [inQueue]
    dsimp only
    have requeued := Device.requeue_handled device.accounts queue sound.distinct spare
      { row with mutationId := newId position } rfl
    refine ⟨_, _, requeued, ?_, rfl, rfl⟩
    exact ⟨rfl, rfl, rfl⟩
  unfold Device.handleReceipt
  rw [named, inPending]
  dsimp only
  rw [if_neg rejects]
  rcases retried with ⟨code, isAccount⟩ | ⟨code, ⟨isAccount, isRejected⟩ | ⟨some, isTransaction⟩⟩
  · rw [if_pos ⟨code, isAccount⟩]
    exact asRoot isAccount
  · rw [if_neg (by rw [code]; simp), if_pos ⟨code, isAccount, isRejected⟩]
    exact asRoot isAccount
  · rw [if_neg (by rw [code]; simp), if_neg (by rw [isTransaction]; simp),
      if_pos ⟨code, some, isTransaction⟩]
    exact again

/-- A rejection with one of the codes of conflicts becomes one. -/
theorem Handling.conflict (handling : Handling pending newId device done (row :: rows) position)
    (named : receipt.mutationId = row.mutationId) (rejects : receipt.status ≠ "applied")
    (notRetried : ¬Retried rejected row receipt.resultCode)
    (code : receipt.resultCode ∈ conflictCodes) :
    ∃ after conflict,
      device.handleReceipt pending rejected (newId position) receipt = some after ∧
      conflict.id = newId position ∧ conflict.Records row receipt.resultCode ∧
      after.pending = done ++ rows ∧ after.conflicts = device.conflicts ++ [conflict] := by
  obtain ⟨queue, sound, spare, original⟩ := handling
  have inPending := original row List.mem_cons_self
  have free : ¬(device.conflicts.any fun conflict => conflict.id = newId position) = true := by
    intro taken
    obtain ⟨conflict, member, same⟩ := List.any_eq_true.mp taken
    exact spare.conflicts position (le_refl _) conflict member (of_decide_eq_true same)
  unfold Device.handleReceipt Device.addConflict
  rw [named, inPending]
  dsimp only
  rw [if_neg rejects, if_neg fun again => notRetried (Or.inl again),
    if_neg fun again => notRetried (Or.inr ⟨again.1, Or.inl again.2⟩),
    if_neg fun again => notRetried (Or.inr ⟨again.1, Or.inr again.2⟩), if_pos code, if_neg free]
  exact ⟨_, _, rfl, rfl, ⟨rfl, rfl, rfl⟩, filter_handled queue sound.distinct, rfl⟩

/-- A receipt that the loop has an answer to. -/
theorem Handling.outcome (handling : Handling pending newId device done (row :: rows) position)
    (named : receipt.mutationId = row.mutationId) (settles : Settles rejected row receipt) :
    ∃ after left recorded,
      device.handleReceipt pending rejected (newId position) receipt = some after ∧
      Outcome rejected (newId position) row receipt left recorded ∧
      after.pending = (done ++ left) ++ rows ∧ after.conflicts = device.conflicts ++ recorded := by
  by_cases applied : receipt.status = "applied"
  · refine ⟨device.removePending row.mutationId, [], [], ?_, .applied applied, ?_, ?_⟩
    · unfold Device.handleReceipt
      rw [named, handling.original row List.mem_cons_self]
      dsimp only
      rw [if_pos applied]
    · rw [List.append_nil]
      exact filter_handled handling.queue handling.sound.distinct
    · rw [List.append_nil]
      rfl
  · by_cases retried : Retried rejected row receipt.resultCode
    · obtain ⟨after, new, handled, renewed, queue, conflicts⟩ := handling.retry named applied retried
      refine ⟨after, [new], [], handled, .renewed applied retried renewed, ?_, ?_⟩
      · rw [queue, List.append_assoc]
        rfl
      · rw [conflicts, List.append_nil]
    · have code := (settles.resolve_left applied).resolve_left retried
      obtain ⟨after, conflict, handled, isNew, records, queue, conflicts⟩ :=
        handling.conflict named applied retried code
      refine ⟨after, [], [conflict], handled, .conflicted applied code isNew records, ?_,
        conflicts⟩
      rw [queue, List.append_nil]

/-- A receipt that the loop has no answer to is a throw. -/
theorem Handling.thrown (handling : Handling pending newId device done (row :: rows) position)
    (named : receipt.mutationId = row.mutationId) (unsettled : ¬Settles rejected row receipt) :
    device.handleReceipt pending rejected (newId position) receipt = none := by
  have notRetried : ¬Retried rejected row receipt.resultCode := fun retried =>
    unsettled (Or.inr (Or.inl retried))
  unfold Device.handleReceipt
  rw [named, handling.original row List.mem_cons_self]
  dsimp only
  rw [if_neg fun applied => unsettled (Or.inl applied),
    if_neg fun again => notRetried (Or.inl again),
    if_neg fun again => notRetried (Or.inr ⟨again.1, Or.inl again.2⟩),
    if_neg fun again => notRetried (Or.inr ⟨again.1, Or.inr again.2⟩),
    if_neg fun code => unsettled (Or.inr (Or.inr code))]

end Receipt

/-! ### The loop over the receipts -/

section Loop

variable {pending done rows left : List PendingMutationRow} {rejected : List String}
  {newId : Nat → String} {device after : Device} {position : Nat}
  {receipts : List MutationReceiptDto}

/-- One row further. -/
theorem Handling.next {row : PendingMutationRow} {receipt : MutationReceiptDto}
    {recorded : List SyncConflict} (injective : Function.Injective newId)
    (handling : Handling pending newId device done (row :: rows) position)
    (handled : device.handleReceipt pending rejected (newId position) receipt = some after)
    (outcome : Outcome rejected (newId position) row receipt left recorded)
    (queue : after.pending = (done ++ left) ++ rows)
    (conflicts : after.conflicts = device.conflicts ++ recorded) :
    Handling pending newId after (done ++ left) rows (position + 1) := by
  have unusedLeft : ∀ other ∈ left, other.mutationId = newId position := by
    cases outcome with
    | applied | conflicted => exact fun other member => absurd member List.not_mem_nil
    | renewed _ _ renewed =>
      intro other member
      rw [List.mem_singleton.mp member]
      exact renewed.renamed
  have unusedRecorded : ∀ conflict ∈ recorded, conflict.id = newId position := by
    cases outcome with
    | applied | renewed => exact fun other member => absurd member List.not_mem_nil
    | conflicted _ _ named =>
      intro other member
      rw [List.mem_singleton.mp member]
      exact named
  have later : ∀ next, position + 1 ≤ next → newId position ≠ newId next := by
    intro next beyond same
    have := injective same
    omega
  refine ⟨queue, handling.sound.handleReceipt handled, ⟨fun next beyond other member => ?_,
    fun next beyond conflict member => ?_⟩,
    fun other member => handling.original other (List.mem_cons_of_mem _ member)⟩
  · have old : ∀ kept ∈ device.pending, kept.mutationId ≠ newId next :=
      handling.spare.pending next (by omega)
    rw [handling.queue] at old
    rw [queue] at member
    rcases List.mem_append.mp member with first | inRows
    · rcases List.mem_append.mp first with inDone | inLeft
      · exact old other (List.mem_append_left _ inDone)
      · rw [unusedLeft other inLeft]
        exact later next beyond
    · exact old other (List.mem_append_right _ (List.mem_cons_of_mem _ inRows))
  · rw [conflicts] at member
    rcases List.mem_append.mp member with old | new
    · exact handling.spare.conflicts next (by omega) conflict old
    · rw [unusedRecorded conflict new]
      exact later next beyond

/-- The loop gets through exactly if it has an answer to every receipt, and then every mutation is
done with. -/
theorem Handling.processed (injective : Function.Injective newId)
    (handling : Handling pending newId device done rows position)
    (answers : List.Forall₂ (fun row receipt => receipt.mutationId = row.mutationId) rows
      receipts) :
    (∀ after, Device.handleReceipts pending rejected newId position device receipts = .ok after →
      List.Forall₂ (Settles rejected) rows receipts) ∧
    (List.Forall₂ (Settles rejected) rows receipts → ∃ after left recorded,
      Device.handleReceipts pending rejected newId position device receipts = .ok after ∧
      Processed rejected newId position rows receipts left recorded ∧
      after.pending = done ++ left ∧ after.conflicts = device.conflicts ++ recorded ∧
      after.QueueSound) := by
  induction answers generalizing device done position with
  | nil =>
    refine ⟨fun _ _ => .nil, fun _ => ⟨device, [], [], rfl, .nil, handling.queue, ?_,
      handling.sound⟩⟩
    rw [List.append_nil]
  | @cons row receipt rows receipts named answers inductionHypothesis =>
    rw [Device.handleReceipts]
    by_cases settles : Settles rejected row receipt
    · obtain ⟨next, one, recordedOne, handled, outcome, queue, conflicts⟩ :=
        handling.outcome named settles
      have further := handling.next injective handled outcome queue conflicts
      obtain ⟨only, enough⟩ := inductionHypothesis further
      rw [handled]
      refine ⟨fun after done => .cons settles (only after done), fun all => ?_⟩
      obtain ⟨after, left, recorded, loop, processed, queueAfter, conflictsAfter, sound⟩ :=
        enough (List.forall₂_cons.mp all).2
      refine ⟨after, one ++ left, recordedOne ++ recorded, loop, .cons outcome processed, ?_, ?_,
        sound⟩
      · rw [queueAfter, List.append_assoc]
      · rw [conflictsAfter, conflicts, List.append_assoc]
    · rw [handling.thrown named settles]
      refine ⟨fun after done => ?_, fun all => absurd (List.forall₂_cons.mp all).1 settles⟩
      cases done

/-- Mutations are left exactly if some are tried again. -/
theorem Processed.left_ne_nil_iff {recorded : List SyncConflict}
    (processed : Processed rejected newId position rows receipts left recorded) :
    left ≠ [] ↔ ∃ pair ∈ rows.zip receipts, pair.2.status ≠ "applied" ∧
      Retried rejected pair.1 pair.2.resultCode := by
  induction processed with
  | nil => simp
  | @cons position row receipt rows left later receipts recorded after outcome rest
      inductionHypothesis =>
    rw [List.zip_cons_cons, List.exists_mem_cons_iff, ← inductionHypothesis]
    cases outcome with
    | applied applied => simp [applied]
    | renewed rejects retried renewed => simp [rejects, retried]
    | conflicted rejects code =>
      have notRetried : ¬Retried rejected row receipt.resultCode := by
        rintro (⟨named, -⟩ | ⟨named, -⟩)
        · rw [named] at code
          exact absurd code (by decide)
        · rw [named] at code
          exact absurd code (by decide)
      simp [notRetried]

/-- Every rejected mutation is recorded as a conflict or left under a new id. -/
theorem Processed.settled {recorded : List SyncConflict}
    (processed : Processed rejected newId position rows receipts left recorded) :
    ∀ pair ∈ rows.zip receipts, pair.2.status ≠ "applied" →
      (∃ conflict ∈ recorded, conflict.Records pair.1 pair.2.resultCode) ∨
        ∃ new ∈ left, ∃ position, RenewedAs pair.1 new (newId position) := by
  induction processed with
  | nil => exact fun pair member => absurd member List.not_mem_nil
  | @cons position row receipt rows left later receipts recorded after outcome rest
      inductionHypothesis =>
    rw [List.zip_cons_cons, List.forall_mem_cons]
    refine ⟨fun rejects => ?_, fun pair member rejects => ?_⟩
    · cases outcome with
      | applied applied => exact absurd applied rejects
      | @renewed new _ _ renewed => exact Or.inr ⟨new, List.mem_cons_self, position, renewed⟩
      | @conflicted conflict _ _ _ records => exact Or.inl ⟨conflict, List.mem_cons_self, records⟩
    · refine (inductionHypothesis pair member rejects).imp ?_ ?_
      · rintro ⟨conflict, inRecorded, records⟩
        exact ⟨conflict, List.mem_append_right _ inRecorded, records⟩
      · rintro ⟨new, inLeft, renewed⟩
        exact ⟨new, List.mem_append_right _ inLeft, renewed⟩

/-- What is left and what is recorded have ids of the loop. -/
theorem Processed.ids {recorded : List SyncConflict}
    (processed : Processed rejected newId position rows receipts left recorded) :
    (∀ row ∈ left, ∃ position, row.mutationId = newId position) ∧
      ∀ conflict ∈ recorded, ∃ position, conflict.id = newId position := by
  induction processed with
  | nil => exact ⟨fun _ member => absurd member List.not_mem_nil,
      fun _ member => absurd member List.not_mem_nil⟩
  | @cons position row receipt rows left later receipts recorded after outcome rest
      inductionHypothesis =>
    obtain ⟨laterIds, afterIds⟩ := inductionHypothesis
    refine ⟨List.forall_mem_append.mpr ⟨?_, laterIds⟩, List.forall_mem_append.mpr ⟨?_, afterIds⟩⟩
    · cases outcome with
      | applied | conflicted => exact fun _ member => absurd member List.not_mem_nil
      | renewed _ _ renewed =>
        intro new member
        rw [List.mem_singleton.mp member]
        exact ⟨position, renewed.renamed⟩
    · cases outcome with
      | applied | renewed => exact fun _ member => absurd member List.not_mem_nil
      | conflicted _ _ named =>
        intro conflict member
        rw [List.mem_singleton.mp member]
        exact ⟨position, named⟩

end Loop

/-! ### A sync -/

section Sync

/-- The loop over the receipts of one push. -/
def Device.answered (device : Device) (newId : Nat → String)
    (receipts : List MutationReceiptDto) : Except Device Device :=
  Device.handleReceipts device.pending (rejectedCategories device.pending receipts) newId 0 device
    receipts

/-- The loop of `syncNow` over its pushes, with the receipts that the first and the second one
get. Where it does not throw, the pull is next. -/
def Device.pushLoop (device : Device) (newId : Nat → Nat → String)
    (first second : List MutationReceiptDto) : Except Device Device :=
  if device.pending = [] then .ok device
  else
    match device.answered (newId 0) first with
    | .error thrown => .error thrown
    | .ok pushed =>
      if pushed.pending = [] then .ok pushed
      else
        match pushed.answered (newId 1) second with
        | .error thrown => .error thrown
        | .ok again => if again.pending = [] then .ok again else .error again

/-- The ids that `newId` gives out during a sync are new to the device. -/
structure Device.SpareIds (device : Device) (newId : Nat → Nat → String) : Prop where
  pending : ∀ attempt position, ∀ row ∈ device.pending, row.mutationId ≠ newId attempt position
  conflicts : ∀ attempt position, ∀ conflict ∈ device.conflicts,
    conflict.id ≠ newId attempt position
  distinct : ∀ attempt position attempt' position',
    newId attempt position = newId attempt' position' → attempt = attempt' ∧ position = position'

/-- The receipts answer the queue, in its order. -/
def Device.AnsweredBy (device : Device) (receipts : List MutationReceiptDto) : Prop :=
  receipts.map MutationReceiptDto.mutationId = device.pending.map PendingMutationRow.mutationId

/-- A sync that gets to its pull with an empty queue, and every rejected mutation is recorded as a
conflict or was sent again under a new id. -/
structure Device.Drains (device : Device) (newId : Nat → Nat → String)
    (first second : List MutationReceiptDto) (pushed : Device) : Prop where
  pulls : device.pushLoop newId first second = .ok pushed
  emptied : pushed.pending = []
  settled : ∀ pair ∈ device.pending.zip first, pair.2.status ≠ "applied" →
    (∃ conflict ∈ pushed.conflicts, conflict.Records pair.1 pair.2.resultCode) ∨
      ∃ between, device.answered (newId 0) first = .ok between ∧
        ∃ new ∈ between.pending, ∃ position, RenewedAs pair.1 new (newId 0 position)

/-- The loop has an answer to every receipt of the first push; and if it tries mutations again,
it tries none of them a third time. -/
structure Device.Answerable (device : Device) (first second : List MutationReceiptDto) :
    Prop where
  settles : List.Forall₂ (Settles (rejectedCategories device.pending first)) device.pending first
  final : (∃ pair ∈ device.pending.zip first, pair.2.status ≠ "applied" ∧
      Retried (rejectedCategories device.pending first) pair.1 pair.2.resultCode) →
    ∀ receipt ∈ second, receipt.Final

variable {device : Device} {newId : Nat → Nat → String} {first second : List MutationReceiptDto}

theorem Device.SpareIds.injective (spare : device.SpareIds newId) (attempt : Nat) :
    Function.Injective (newId attempt) := fun position position' same =>
  (spare.distinct attempt position attempt position' same).2

/-- The loop over the receipts of one push gets through exactly if it has an answer to all. -/
theorem Device.QueueSound.answered (sound : device.QueueSound) {newId : Nat → String}
    (injective : Function.Injective newId) (spare : device.Spare newId 0)
    (answers : device.AnsweredBy first) :
    (∀ after, device.answered newId first = .ok after →
      List.Forall₂ (Settles (rejectedCategories device.pending first)) device.pending first) ∧
    (List.Forall₂ (Settles (rejectedCategories device.pending first)) device.pending first →
      ∃ after left recorded, device.answered newId first = .ok after ∧
        Processed (rejectedCategories device.pending first) newId 0 device.pending first left
          recorded ∧
        after.pending = left ∧ after.conflicts = device.conflicts ++ recorded ∧
        after.QueueSound) := by
  have handling : Handling device.pending newId device [] device.pending 0 := by
    refine ⟨rfl, sound, spare, fun row member => ?_⟩
    obtain ⟨before, after, split⟩ := List.append_of_mem member
    exact find?_handled split sound.distinct
  refine handling.processed injective ?_
  rw [Device.AnsweredBy, ← List.forall₂_eq_eq_eq, List.forall₂_map_left_iff,
    List.forall₂_map_right_iff] at answers
  exact answers.flip

/-- A receipt is final exactly if it settles its mutation and does not try it again. -/
theorem MutationReceiptDto.final_iff (rejected : List String) (row : PendingMutationRow)
    (receipt : MutationReceiptDto) :
    receipt.Final ↔ Settles rejected row receipt ∧
      ¬(receipt.status ≠ "applied" ∧ Retried rejected row receipt.resultCode) := by
  constructor
  · rintro (applied | code)
    · exact ⟨Or.inl applied, fun rejects => rejects.1 applied⟩
    · refine ⟨Or.inr (Or.inr code), ?_⟩
      rintro ⟨-, ⟨named, -⟩ | ⟨named, -⟩⟩
      · rw [named] at code
        exact absurd code (by decide)
      · rw [named] at code
        exact absurd code (by decide)
  · rintro ⟨applied | retried | code, notRetried⟩
    · exact Or.inl applied
    · by_cases applied : receipt.status = "applied"
      · exact Or.inl applied
      · exact absurd ⟨applied, retried⟩ notRetried
    · exact Or.inr code

/-- Receipts are final exactly if they settle the queue and try nothing again. -/
theorem final_iff_settles (rejected : List String) {rows : List PendingMutationRow}
    {receipts : List MutationReceiptDto} (length : rows.length = receipts.length) :
    (∀ receipt ∈ receipts, receipt.Final) ↔
      List.Forall₂ (Settles rejected) rows receipts ∧
        ¬∃ pair ∈ rows.zip receipts, pair.2.status ≠ "applied" ∧
          Retried rejected pair.1 pair.2.resultCode := by
  rw [List.forall₂_iff_zip, and_iff_right length]
  constructor
  · intro final
    refine ⟨fun inZip => ?_, ?_⟩
    · exact ((MutationReceiptDto.final_iff rejected _ _).mp
        (final _ (List.of_mem_zip inZip).2)).1
    · rintro ⟨⟨row, receipt⟩, inZip, again⟩
      exact ((MutationReceiptDto.final_iff rejected row receipt).mp
        (final receipt (List.of_mem_zip inZip).2)).2 again
  · rintro ⟨settles, notRetried⟩ receipt member
    obtain ⟨position, inRange, rfl⟩ := List.mem_iff_getElem.mp member
    have inRows : position < rows.length := by rwa [length]
    have inZip : (rows[position], receipts[position]) ∈ rows.zip receipts :=
      List.mem_iff_getElem.mpr
        ⟨position, by rw [List.length_zip]; omega, List.getElem_zip⟩
    exact (MutationReceiptDto.final_iff rejected rows[position] _).mpr ⟨settles inZip,
      fun again => notRetried ⟨_, inZip, again⟩⟩

/-- Whatever the receipts of the pushes are, as long as they answer the mutations that are sent: a
sync of a device with a sound queue drains the queue and pulls exactly if every receipt has an
answer, and none of those of a second push asks for a third. -/
theorem sync_drains_iff (sound : device.QueueSound) (spare : device.SpareIds newId)
    (answers : device.AnsweredBy first)
    (answersAgain : ∀ pushed, device.answered (newId 0) first = .ok pushed →
      pushed.pending ≠ [] → pushed.AnsweredBy second) :
    (∃ pushed, device.Drains newId first second pushed) ↔ device.Answerable first second := by
  have spareFirst : device.Spare (newId 0) 0 :=
    ⟨fun later _ => spare.pending 0 later, fun later _ => spare.conflicts 0 later⟩
  obtain ⟨only, enough⟩ := sound.answered (spare.injective 0) spareFirst answers
  by_cases idle : device.pending = []
  · have none : first = [] := by
      rw [Device.AnsweredBy, idle, List.map_nil, List.map_eq_nil_iff] at answers
      exact answers
    refine iff_of_true ⟨device, if_pos idle, idle, ?_⟩ ⟨?_, ?_⟩
    · rw [none, List.zip_nil_right]
      exact fun pair member => absurd member List.not_mem_nil
    · rw [idle, none]
      exact .nil
    · rintro ⟨pair, member, -⟩
      rw [none, List.zip_nil_right] at member
      exact absurd member List.not_mem_nil
  · have loop : ∀ {pushed}, device.answered (newId 0) first = .ok pushed →
        device.pushLoop newId first second =
          if pushed.pending = [] then .ok pushed
          else
            match pushed.answered (newId 1) second with
            | .error thrown => .error thrown
            | .ok again => if again.pending = [] then .ok again else .error again := by
      intro pushed done
      unfold Device.pushLoop
      rw [if_neg idle, done]
    by_cases settles : List.Forall₂ (Settles (rejectedCategories device.pending first))
        device.pending first
    · obtain ⟨pushed, left, recorded, done, processed, rfl, conflicts, pushedSound⟩ :=
        enough settles
      have settled := processed.settled
      have again := processed.left_ne_nil_iff
      by_cases drained : pushed.pending = []
      · refine iff_of_true ⟨pushed, (loop done).trans (if_pos drained), drained, ?_⟩
          ⟨settles, fun retried => absurd drained (again.mpr retried)⟩
        intro pair member rejects
        refine (settled pair member rejects).imp ?_ fun renewed => ⟨pushed, done, renewed⟩
        rintro ⟨conflict, inRecorded, records⟩
        refine ⟨conflict, ?_, records⟩
        rw [conflicts]
        exact List.mem_append_right _ inRecorded
      · obtain ⟨leftIds, recordedIds⟩ := processed.ids
        have spareSecond : pushed.Spare (newId 1) 0 := by
          refine ⟨fun later _ row member same => ?_, fun later _ conflict member => ?_⟩
          · obtain ⟨position, named⟩ := leftIds row member
            have := (spare.distinct 0 position 1 later (named.symm.trans same)).1
            omega
          · rw [conflicts] at member
            rcases List.mem_append.mp member with old | new
            · exact spare.conflicts 1 later conflict old
            · intro same
              obtain ⟨position, named⟩ := recordedIds conflict new
              have := (spare.distinct 0 position 1 later (named.symm.trans same)).1
              omega
        have answersSecond := answersAgain pushed done drained
        obtain ⟨onlySecond, enoughSecond⟩ :=
          pushedSound.answered (spare.injective 1) spareSecond answersSecond
        have length : pushed.pending.length = second.length := by
          have := congrArg List.length answersSecond
          rw [List.length_map, List.length_map] at this
          exact this.symm
        have final := final_iff_settles (rejectedCategories pushed.pending second) length
        constructor
        · rintro ⟨after, pulls, emptied, -⟩
          refine ⟨settles, fun _ => final.mpr ?_⟩
          rw [loop done, if_neg drained] at pulls
          split at pulls
          · cases pulls
          · rename_i last loopSecond
            split at pulls
            · cases pulls
              have settlesSecond := onlySecond after loopSecond
              obtain ⟨other, left, _, same, processedSecond, rfl, -⟩ := enoughSecond settlesSecond
              rw [loopSecond] at same
              cases same
              exact ⟨settlesSecond, fun retried =>
                processedSecond.left_ne_nil_iff.mpr retried emptied⟩
            · cases pulls
        · rintro ⟨-, isFinal⟩
          obtain ⟨settlesSecond, notRetried⟩ := final.mp (isFinal (again.mp drained))
          obtain ⟨after, left, recordedSecond, loopSecond, processedSecond, rfl,
            conflictsSecond, -⟩ := enoughSecond settlesSecond
          have emptied : after.pending = [] := by
            by_contra some
            exact notRetried (processedSecond.left_ne_nil_iff.mp some)
          refine ⟨after, ?_, emptied, fun pair member rejects => ?_⟩
          · rw [loop done, if_neg drained, loopSecond]
            exact if_pos emptied
          · refine (settled pair member rejects).imp ?_ fun renewed => ⟨pushed, done, renewed⟩
            rintro ⟨conflict, inRecorded, records⟩
            refine ⟨conflict, ?_, records⟩
            rw [conflictsSecond, conflicts]
            exact List.mem_append_left _ (List.mem_append_right _ inRecorded)
    · refine iff_of_false ?_ fun answerable => settles answerable.settles
      rintro ⟨after, pulls, -⟩
      unfold Device.pushLoop at pulls
      rw [if_neg idle] at pulls
      split at pulls
      · cases pulls
      · rename_i pushed done
        exact settles (only pushed done)

/-- Ids that are all different. -/
def spareIds (attempt position : Nat) : String :=
  String.ofList (List.replicate attempt 'a' ++ List.replicate position 'b')

theorem spareIds_distinct {attempt position attempt' position' : Nat}
    (same : spareIds attempt position = spareIds attempt' position') :
    attempt = attempt' ∧ position = position' := by
  have lists := congrArg String.toList same
  rw [spareIds, spareIds, String.toList_ofList, String.toList_ofList] at lists
  have attempts := congrArg (List.count 'a') lists
  have positions := congrArg (List.count 'b') lists
  simp [List.count_replicate] at attempts positions
  exact ⟨attempts, positions⟩

theorem mem_spareIds {attempt position : Nat} {character : Char}
    (member : character ∈ (spareIds attempt position).toList) : character = 'a' ∨ character = 'b' := by
  rw [spareIds, String.toList_ofList, List.mem_append, List.mem_replicate, List.mem_replicate] at member
  exact member.imp And.right And.right

/-- A device with a category, a child of it and a third category, none of them sent. -/
def teaDevice : Device :=
  (((Device.initial "phone" "local" ∅).act (.createAccount "local:tea"
      ⟨"Tea", "expense", "CNY", none⟩ "m1")).bind fun device =>
    (device.act (.createAccount "local:green" ⟨"Green", "expense", "CNY", some "local:tea"⟩
      "m2")).bind fun device =>
      device.act (.createAccount "local:milk" ⟨"Milk", "expense", "CNY", none⟩ "m3")).getD
    (Device.initial "phone" "local" ∅)

theorem teaDevice_sound : teaDevice.QueueSound := by
  have tea := Device.QueueSound.act (Device.initial_queueSound "phone" "local" ∅)
    (show (Device.initial "phone" "local" ∅).act (.createAccount "local:tea"
      ⟨"Tea", "expense", "CNY", none⟩ "m1") = some _ from rfl)
  have green := tea.act (show Device.act _ (.createAccount "local:green"
    ⟨"Green", "expense", "CNY", some "local:tea"⟩ "m2") = some _ from rfl)
  exact green.act (show Device.act _ (.createAccount "local:milk"
    ⟨"Milk", "expense", "CNY", none⟩ "m3") = some teaDevice from rfl)

/-- The first category is applied, the child is refused for its parent and goes out again without
one, and the third one is refused and becomes a conflict. -/
theorem sync_drains_once :
    ∃ pushed, teaDevice.Drains spareIds
      [⟨"m1", "applied", "OK", some 1⟩, ⟨"m2", "rejected", "INVALID_CATEGORY_PARENT", none⟩,
        ⟨"m3", "rejected", "INVALID_PAYLOAD", none⟩] [⟨"b", "applied", "OK", some 1⟩] pushed := by
  have isPending : teaDevice.pending.map PendingMutationRow.mutationId = ["m1", "m2", "m3"] := rfl
  have answers : teaDevice.AnsweredBy
      [⟨"m1", "applied", "OK", some 1⟩, ⟨"m2", "rejected", "INVALID_CATEGORY_PARENT", none⟩,
        ⟨"m3", "rejected", "INVALID_PAYLOAD", none⟩] := rfl
  refine (sync_drains_iff teaDevice_sound ⟨?_, ?_, ?_⟩ answers ?_).mpr ⟨?_, ?_⟩
  · intro attempt position row member same
    have named := List.mem_map_of_mem (f := PendingMutationRow.mutationId) member
    rw [isPending, same] at named
    have among : 'm' ∈ (spareIds attempt position).toList := by
      simp only [List.mem_cons, List.not_mem_nil, or_false] at named
      rcases named with named | named | named
      · rw [named]
        decide
      · rw [named]
        decide
      · rw [named]
        decide
    rcases mem_spareIds among with letter | letter
    · exact absurd letter (by decide)
    · exact absurd letter (by decide)
  · exact fun _ _ conflict member => absurd member List.not_mem_nil
  · exact fun _ _ _ _ same => spareIds_distinct same
  · intro pushed done _
    obtain rfl := Except.ok.inj done
    rfl
  · exact .cons (Or.inl rfl) (.cons (Or.inr (Or.inl (Or.inl ⟨rfl, rfl⟩)))
      (.cons (Or.inr (Or.inr (by decide))) .nil))
  · exact fun _ receipt member => Or.inl (List.mem_singleton.mp member ▸ rfl)

end Sync

/-! ### Against the memory server -/

section Memory

variable [Rfc3339] {bookId : String} {server : MemoryStore} {device : Device} {around : Around}
  {attempt : Nat}

variable (server) in
/-- An attempt whose mutations can be sent and that is not cut off gets receipts for the queue,
and works through them. -/
theorem Device.pushAttempt_answered {steps : List PushStep}
    (made : device.pending.zipIdx.mapM (fun row =>
      row.1.step device.deviceId device.bookId bookId (around.stamp attempt row.2)) = some steps)
    (answered : around.cut attempt = none) :
    device.pushAttempt bookId around attempt server =
        ⟨interleaved (around.others attempt) 0 steps,
          receiptsAmong (around.others attempt) 0 server steps,
          device.answered (around.newId attempt)
            (receiptsAmong (around.others attempt) 0 server steps)⟩ ∧
      List.Forall₂ (fun row step => ∃ stamp,
        row.step device.deviceId device.bookId bookId stamp = some step) device.pending steps ∧
      device.AnsweredBy (receiptsAmong (around.others attempt) 0 server steps) := by
  have attempted : device.pushAttempt bookId around attempt server =
      ⟨interleaved (around.others attempt) 0 steps,
        receiptsAmong (around.others attempt) 0 server steps,
        device.answered (around.newId attempt)
          (receiptsAmong (around.others attempt) 0 server steps)⟩ := by
    unfold Device.pushAttempt
    rw [made]
    dsimp only
    rw [answered]
    rfl
  have sent : List.Forall₂ (fun row step => ∃ stamp,
      row.step device.deviceId device.bookId bookId stamp = some step) device.pending steps := by
    rw [← List.zipIdx_map_fst 0 device.pending, List.forall₂_map_left_iff]
    exact (List.mapM_eq_some_iff.mp made).imp fun row step sent => ⟨_, sent⟩
  refine ⟨attempted, sent, (receiptsAmong_ids (around.others attempt) 0 server steps).trans ?_⟩
  rw [← List.forall₂_eq_eq_eq, List.forall₂_map_left_iff, List.forall₂_map_right_iff]
  refine sent.flip.imp ?_
  rintro step row ⟨stamp, made⟩
  obtain ⟨-, -, -, named, -⟩ := PendingMutationRow.step_fields made
  exact named

/-- The push of a sync whose attempts get their receipts is the loop over these. -/
theorem Device.pushPending_eq_pushLoop (first second : PushAttempt)
    (isFirst : first = device.pushAttempt bookId around 0 server)
    (answered : first.result = device.answered (around.newId 0) first.receipts)
    (isSecond : ∀ pushed, first.result = .ok pushed →
      second = pushed.pushAttempt bookId around 1 (Machine.run pushStep server first.served) ∧
        second.result = pushed.answered (around.newId 1) second.receipts) :
    (device.pushPending bookId around server).2 =
      device.pushLoop around.newId first.receipts second.receipts := by
  unfold Device.pushPending Device.pushLoop
  rw [← isFirst, ← answered]
  by_cases idle : device.pending = []
  · rw [if_pos idle, if_pos idle]
  · rw [if_neg idle, if_neg idle]
    dsimp only
    cases outcome : first.result with
    | error thrown => rfl
    | ok pushed =>
      dsimp only
      by_cases drained : pushed.pending = []
      · rw [if_pos drained, if_pos drained]
      · obtain ⟨again, answeredAgain⟩ := isSecond pushed outcome
        rw [if_neg drained, if_neg drained, ← again, ← answeredAgain]
        cases second.result with
        | error thrown => rfl
        | ok last => rfl

end Memory

end Ledgerly
