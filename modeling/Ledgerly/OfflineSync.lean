/-
This file proves that the next push of a device that is the only writer of its book lands:
every mutation is applied, and the book of the server is then the one of the device.

The proof carries `Tracked` through the syncs of the run. A complete sync leaves an empty queue
and a cursor at the end of the log, so that every transaction is as it is stored, and the
tracking starts over from there.
-/

import Ledgerly.OfflineWriter
import Ledgerly.QueueDrain

namespace Ledgerly

/-! ### The push of a queue on its course -/

section Push

variable [Rfc3339] {bookId : String} {server : MemoryStore} {device : Device} {around : Around}

omit [Rfc3339] in
/-- Receipts that are all applied empty the queue of their mutations. -/
theorem Device.handleReceipts_applied {pending : List PendingMutationRow} {rejected : List String}
    {newId : Nat → String} {receipts : List MutationReceiptDto}
    (applied : ∀ receipt ∈ receipts, receipt.status = "applied")
    (known : ∀ receipt ∈ receipts, ∃ row ∈ pending, row.mutationId = receipt.mutationId)
    (position : Nat) (device : Device) :
    Device.handleReceipts pending rejected newId position device receipts =
      .ok { device with pending := device.pending.filter fun row =>
        row.mutationId ∉ receipts.map MutationReceiptDto.mutationId } := by
  induction receipts generalizing position device with
  | nil =>
    have all : device.pending.filter (fun row => row.mutationId ∉ ([] : List String)) =
        device.pending := List.filter_eq_self.mpr fun _ _ => by simp
    rw [Device.handleReceipts, List.map_nil, all]
  | cons receipt rest inductionHypothesis =>
    obtain ⟨row, member, named⟩ := known receipt List.mem_cons_self
    have handled : device.handleReceipt pending rejected (newId position) receipt =
        some (device.removePending receipt.mutationId) := by
      unfold Device.handleReceipt
      cases found : pending.find? fun row => row.mutationId = receipt.mutationId with
      | none => exact absurd (decide_eq_true named) (List.find?_eq_none.mp found row member)
      | some found => exact if_pos (applied receipt List.mem_cons_self)
    have filtered : (device.removePending receipt.mutationId).pending.filter (fun row =>
          row.mutationId ∉ rest.map MutationReceiptDto.mutationId) =
        device.pending.filter fun row =>
          row.mutationId ∉ (receipt :: rest).map MutationReceiptDto.mutationId := by
      rw [Device.removePending, List.filter_filter]
      refine List.filter_congr fun row _ => ?_
      rw [← Bool.decide_and, decide_eq_decide, List.map_cons, List.mem_cons, not_or, and_comm]
    rw [Device.handleReceipts, handled]
    dsimp only
    rw [inductionHypothesis (fun other member => applied other (List.mem_cons_of_mem _ member))
      (fun other member => known other (List.mem_cons_of_mem _ member)), filtered]
    rfl

omit [Rfc3339] in
/-- A mutation that lands can be sent. -/
theorem LandsAs.sent {localBook bookId : String} {accounts : KeyMap String AccountRecord}
    {before next : Option ServerView} {row : PendingMutationRow}
    (lands : LandsAs localBook bookId accounts before row next)
    (isTransaction : row.entityType = "transaction") (deviceId : String) (stamp : Stamp) :
    ∃ step, row.step deviceId localBook bookId stamp = some step := by
  have notAccount : row.entityType ≠ "account" := by
    rw [isTransaction]
    decide
  have written : ∀ {tx : LedgerTransaction}, row.operation ≠ "delete" → row.payload.Carries tx →
      ∃ payload, row.sentPayload localBook bookId = some payload := by
    intro tx notDelete carries
    obtain ⟨fields, isObject⟩ := Json.exists_obj_of_get? carries.entries
    have same : row.sentPayload localBook bookId =
        rewriteTransactionPayload row.payload localBook bookId := by
      unfold PendingMutationRow.sentPayload
      rw [isObject]
      dsimp only
      rw [if_neg notAccount, if_neg notDelete]
    exact ⟨_, same.trans (rewriteTransactionPayload_of_carries localBook bookId carries)⟩
  have payload : ∃ payload, row.sentPayload localBook bookId = some payload := by
    cases lands with
    | create isCreate carries => exact written (by rw [isCreate]; decide) carries
    | update isUpdate _ carries => exact written (by rw [isUpdate]; decide) carries
    | delete isDelete _ isObject =>
      refine ⟨deletedPayload, ?_⟩
      unfold PendingMutationRow.sentPayload
      rw [isObject, deletedPayload]
      dsimp only
      rw [if_neg notAccount, if_pos isDelete]
  obtain ⟨payload, made⟩ := payload
  unfold PendingMutationRow.step
  split
  · rename_i none
    rw [made] at none
    cases none
  · exact ⟨_, rfl⟩

omit [Rfc3339] in
/-- The mutations of a queue on its course are all sent. -/
theorem Course.sent {final : String → Option ServerView}
    (course : Course bookId device.deviceId device.bookId server device.pending final)
    (stamp : Nat → Stamp) :
    ∃ steps, device.pending.zipIdx.mapM (fun row =>
        row.1.step device.deviceId device.bookId bookId (stamp row.2)) = some steps := by
  refine List.exists_mapM_eq_some fun row member => ?_
  have inQueue := List.fst_mem_of_mem_zipIdx member
  obtain ⟨before, next, lands⟩ := (course.leads row.1.entityId).exists_step
    (List.mem_filter.mpr ⟨inQueue, decide_eq_true rfl⟩)
  exact lands.sent (course.transactions row.1 inQueue) _ _

variable [ReadsDates] {final : String → Option ServerView}

/-- A push that is answered empties the queue, and leaves the server with the final views. -/
theorem Tracked.push (tracked : Tracked bookId server device final) {attempt : Nat}
    (answered : around.cut attempt = none)
    (elsewhere : ∀ position, ∀ step ∈ around.others attempt position, step.bookId ≠ bookId)
    (guarded : Machine.Guarded pushStep (Benign bookId device.deviceId) server
      (device.pushAttempt bookId around attempt server).served) :
    (∀ receipt ∈ (device.pushAttempt bookId around attempt server).receipts,
        receipt.status = "applied") ∧
      (device.pushAttempt bookId around attempt server).receipts.map
        MutationReceiptDto.mutationId = device.pending.map PendingMutationRow.mutationId ∧
      (device.pushAttempt bookId around attempt server).result =
        .ok { device with pending := [] } ∧
      Course bookId device.deviceId device.bookId (Machine.run pushStep server
        (device.pushAttempt bookId around attempt server).served) [] final := by
  obtain ⟨steps, made⟩ := tracked.course.sent (around.stamp attempt)
  obtain ⟨attempted, sent, receiptIds⟩ := Device.pushAttempt_answered server made answered
  rw [attempted] at guarded ⊢
  rw [Device.AnsweredBy] at receiptIds
  obtain ⟨applied, course⟩ := tracked.course.pushed elsewhere sent 0 guarded
  refine ⟨applied, receiptIds, ?_, course⟩
  dsimp only [Device.answered]
  rw [Device.handleReceipts_applied applied]
  · have none : device.pending.filter (fun row => row.mutationId ∉
        (receiptsAmong (around.others attempt) 0 server steps).map
          MutationReceiptDto.mutationId) = [] := by
      rw [receiptIds]
      refine List.filter_eq_nil_iff.mpr fun row member => ?_
      simpa using ⟨row, member, rfl⟩
    rw [none]
  · intro receipt member
    have named : receipt.mutationId ∈ device.pending.map PendingMutationRow.mutationId := by
      rw [← receiptIds]
      exact List.mem_map_of_mem member
    exact List.mem_map.mp named

/-- A push that does not throw empties the queue. -/
theorem Tracked.afterPush (tracked : Tracked bookId server device final)
    (elsewhere : ∀ position, ∀ step ∈ around.others 0 position, step.bookId ≠ bookId)
    {served : List PushStep} {pushed : Device}
    (done : device.pushPending bookId around server = (served, .ok pushed))
    (guarded : Machine.Guarded pushStep (Benign bookId device.deviceId) server served) :
    pushed = { device with pending := [] } ∧
      Course bookId device.deviceId device.bookId (Machine.run pushStep server served) []
        final := by
  by_cases idle : device.pending = []
  · have course := tracked.course
    unfold Device.pushPending at done
    rw [if_pos idle] at done
    cases done
    rw [idle] at course
    refine ⟨?_, course⟩
    rw [← idle]
  · unfold Device.pushPending at done
    rw [if_neg idle] at done
    dsimp only at done
    have answered : around.cut 0 = none := by
      cases cut : around.cut 0 with
      | none => rfl
      | some count =>
        obtain ⟨steps, made⟩ := tracked.course.sent (around.stamp 0)
        have failed : (device.pushAttempt bookId around 0 server).result = .error device := by
          unfold Device.pushAttempt
          rw [made]
          dsimp only
          rw [cut]
        rw [failed] at done
        cases done
    by_cases first : Machine.Guarded pushStep (Benign bookId device.deviceId) server
        (device.pushAttempt bookId around 0 server).served
    · obtain ⟨-, -, result, course⟩ := tracked.push answered elsewhere first
      rw [result] at done
      dsimp only at done
      rw [if_pos rfl] at done
      cases done
      exact ⟨rfl, course⟩
    · refine absurd ?_ first
      split at done
      · cases done
      · split at done
        · cases done
          exact guarded
        · split at done
          · cases done
          · obtain ⟨rfl, -⟩ := Prod.mk.inj done
            exact ((Machine.guarded_append _ _ _).mp guarded).1

end Push

/-! ### Starting over -/

section Restart

variable {bookId : String} {server : MemoryStore} {device : Device}

/-- The content of a copy that round-trips is the one that is stored. -/
theorem LocalTransaction.Mirrors.content {row : LocalTransaction} {record : TxRecord}
    {localBook : String} (mirrors : row.Mirrors bookId localBook record)
    (live : record.deleted = false) (roundTrips : record.content.RoundTrips localBook bookId) :
    row.content localBook bookId = record.content := by
  have date := (dateColumn_eq_iff record.occurredAt.val).mpr roundTrips.seconds
  have entries := congrArg (List.map fun read : String × Option Int × String =>
    (rewriteAccountId read.1 localBook bookId, read.2)) (mirrors.entries live)
  rw [List.map_map, List.map_map] at entries
  rw [LocalTransaction.content, mirrors.occurredAt live, mirrors.description live, date,
    TxRecord.content, Content.mk.injEq]
  refine ⟨rfl, rfl, Eq.trans entries (List.map_congr_left fun entry member => ?_)⟩
  have back := roundTrips.accounts _ (List.mem_map_of_mem member)
  exact congrArg (·, some entry.amountMinor, entry.currency) back

/-- At the end of the log nothing of the book is ahead. -/
theorem MemoryStore.LogOf.not_ahead [Rfc3339] (log : server.LogOf bookId)
    (atEnd : device.cursor = server.lastSequence bookId) (id : String) :
    ¬Ahead bookId server device id := by
  rintro ⟨change, member, beyond⟩
  obtain ⟨inLog, inBook, -⟩ := MemoryStore.mem_rowsIn.mp member
  have atMost := le_nextCursor_of_mem 0
    (log.increasing.filter fun change => change.bookId = bookId)
    (List.mem_filter.mpr ⟨inLog, decide_eq_true inBook⟩)
  rw [atEnd] at beyond
  exact absurd atMost (not_le.mpr beyond)

/-- A device with an empty queue at the end of the log is tracked from the views of the server. -/
theorem InStep.tracked [Rfc3339] (inStep : InStep bookId server device)
    (log : server.LogOf bookId) (idle : device.pending = [])
    (atEnd : device.cursor = server.lastSequence bookId)
    (roundTrips : ∀ id view, server.viewOf bookId id = some view →
      view.content.RoundTrips device.bookId bookId) :
    Tracked bookId server device (server.viewOf bookId) := by
  have noRows : ∀ id, mutationsOf device.pending id = [] := fun id => by rw [idle]; rfl
  refine ⟨⟨fun id => ?_, roundTrips, ?_, ?_, ?_⟩, fun id => ?_⟩
  · show Walk.Leads _ _ (mutationsOf device.pending id) _
    rw [noRows]
    rfl
  · rw [idle]
    exact fun row member => absurd member List.not_mem_nil
  · rw [idle]
    exact List.nodup_nil
  · rw [idle]
    exact fun row member => absurd member List.not_mem_nil
  · have agrees : Agrees bookId server device id := by
      rcases inStep.covered id with ahead | agrees | ⟨row, member, -⟩
      · exact absurd ahead (log.not_ahead atEnd id)
      · exact agrees
      · rw [idle] at member
        exact absurd member List.not_mem_nil
    rw [noRows]
    cases seen : server.viewOf bookId id with
    | none =>
      rw [agrees.absent (MemoryStore.viewOf_eq_none.mp seen)]
      exact .none
    | some view =>
      have whole := roundTrips id view seen
      obtain ⟨record, found, inBook, rfl⟩ := MemoryStore.viewOf_eq_some.mp seen
      obtain ⟨row, known, mirrors⟩ := agrees.mirrored record found inBook
      rw [known]
      exact .some ⟨mirrors.deleted, fun live => mirrors.content live whole,
        fun _ => mirrors.version, fun _ member => absurd member List.not_mem_nil⟩

end Restart

/-! ### Runs of a single writer -/

section Run

variable [Rfc3339] {bookId : String} {world : World}

/-- What a single writer does: it writes transactions over accounts of the server and deletes
them in step with its queue. -/
def DeviceAction.Solo (bookId : String) (world : World) : DeviceAction → Prop
  | .save tx _ _ => tx.Plain world.device.bookId bookId world.server.accounts
  | .update tx _ _ => tx.Plain world.device.bookId bookId world.server.accounts
  | .delete txId _ => world.device.DeletesInStep txId
  | _ => False

/-- A complete sync with the book: it succeeds and reaches the end of the log. -/
structure CompleteSync (bookId : String) (world : World) (around : Around) : Prop where
  toBook : around.session = some bookId
  ok : (world.device.syncNow around world.server).ok = true
  atEnd : (worldStep world (.sync around)).device.cursor =
    (worldStep world (.sync around)).server.lastSequence bookId

/-- An event of a run in which nobody but the device writes to the book. -/
def Solo (bookId : String) (world : World) : WorldEvent → Prop
  | .act action => Unanswered bookId world.server world.device action.mutationId ∧
      action.Solo bookId world
  | .sync around => Allowed bookId world (.sync around) ∧ CompleteSync bookId world around ∧
      (∀ attempt position, ∀ step ∈ around.others attempt position, step.bookId ≠ bookId) ∧
      ∀ step ∈ around.beforePull, step.bookId ≠ bookId
  | .other step => step.bookId ≠ bookId ∧ Benign bookId world.device.deviceId world.server step

/-- What holds in a run of a single writer. -/
structure World.Alone (bookId : String) (world : World) : Prop where
  kept : world.Kept bookId
  binds : world.device.remoteBookId = none ∨ world.device.remoteBookId = some bookId
  tracked : ∃ final, Tracked bookId world.server world.device final

theorem Solo.allowed {event : WorldEvent} (solo : Solo bookId world event) :
    Allowed bookId world event := by
  cases event with
  | act action =>
    refine ⟨solo.1, ?_⟩
    cases action with
    | save tx mutationId fingerprint => exact LedgerTransaction.Plain.dated solo.2
    | update tx baseVersion mutationId => exact LedgerTransaction.Plain.dated solo.2
    | delete | createAccount | renameAccount | updateCategory | resolve => exact trivial
  | sync around => exact solo.1
  | other step => exact ⟨fun own => solo.1 own.1, solo.2⟩

theorem World.initial_alone (books : KeyMap String BookRecord)
    (accounts : KeyMap String AccountRecord) (deviceId localBook : String)
    (localAccounts : KeyMap String LocalAccount) (bookId : String) :
    World.Alone bookId ⟨MemoryStore.initial books accounts,
      Device.initial deviceId localBook localAccounts⟩ := by
  have kept := World.initial_kept books accounts deviceId localBook localAccounts bookId
  have unseen : ∀ id, (MemoryStore.initial books accounts).viewOf bookId id = none := fun id => rfl
  refine ⟨kept, Or.inl rfl, _, (kept.inStep (Or.inl rfl)).tracked kept.log rfl rfl ?_⟩
  intro id view seen
  rw [unseen] at seen
  cases seen

/-- What a single writer does keeps it tracked. -/
theorem Tracked.afterAct {final : String → Option ServerView}
    (tracked : Tracked bookId world.server world.device final) {action : DeviceAction}
    (solo : Solo bookId world (.act action)) {after : Device}
    (acted : world.device.act action = some after) :
    ∃ final, Tracked bookId world.server after final := by
  obtain ⟨unanswered, solo⟩ := solo
  cases action with
  | save tx mutationId fingerprint => exact tracked.afterSave unanswered solo acted
  | update tx baseVersion mutationId => exact tracked.afterUpdate unanswered solo acted
  | delete txId mutationId => exact tracked.afterDelete unanswered solo acted
  | createAccount | renameAccount | updateCategory | resolve => exact solo.elim

omit [Rfc3339] in
/-- Binding the device leaves it tracked. -/
theorem Tracked.boundTo {server : MemoryStore} {device : Device}
    {final : String → Option ServerView} (tracked : Tracked bookId server device final)
    (unbound : device.remoteBookId = none → device.cursor = 0) :
    Tracked bookId server (device.boundTo bookId) final := by
  obtain ⟨writes, pending, transactions⟩ := Device.boundTo_writesAt unbound bookId
  obtain ⟨course, rows⟩ := tracked
  constructor
  · rw [writes.deviceId, writes.bookId, pending]
    exact course
  · rw [writes.bookId, pending, transactions]
    exact rows

variable [ReadsDates]

/-- A sync that succeeds empties the queue, and what the book holds round-trips. -/
theorem Tracked.afterSync {server : MemoryStore} {device : Device}
    {final : String → Option ServerView} (tracked : Tracked bookId server device final)
    {around : Around}
    (elsewhere : ∀ attempt position, ∀ step ∈ around.others attempt position,
      step.bookId ≠ bookId)
    (elsewhereBefore : ∀ step ∈ around.beforePull, step.bookId ≠ bookId)
    (ok : (device.syncBound bookId device.cursor around server).ok = true)
    (guarded : Machine.Guarded pushStep (Benign bookId device.deviceId) server
      (device.syncBound bookId device.cursor around server).served) :
    (device.syncBound bookId device.cursor around server).device.pending = [] ∧
      ∀ id view, (Machine.run pushStep server
          (device.syncBound bookId device.cursor around server).served).viewOf bookId id =
        some view → view.content.RoundTrips device.bookId bookId := by
  unfold Device.syncBound at ok guarded ⊢
  split at ok
  · cases ok
  · rename_i served pushed outcome
    simp only [outcome] at guarded ⊢
    obtain ⟨guardedPush, guardedBefore⟩ := (Machine.guarded_append _ _ _).mp guarded
    obtain ⟨rfl, course⟩ := tracked.afterPush (elsewhere 0) outcome guardedPush
    refine ⟨?_, ?_⟩
    · unfold Device.pullChanges
      split
      · obtain ⟨sameQueue, -⟩ := Device.applyChanges_keeps bookId around.now
          { device with pending := [] }
          (pullMem (Machine.run pushStep server (served ++ around.beforePull)) bookId device.cursor
            (some 500)).changes
        dsimp only
        split
        · rename_i thrown failed
          rw [failed] at sameQueue
          exact sameQueue.pending
        · rename_i applied made
          rw [made] at sameQueue
          exact sameQueue.pending
      · rfl
    · rw [Machine.run_append]
      exact (course.afterElsewhere elsewhereBefore guardedBefore).roundTrips

/-- A complete sync keeps the single writer tracked. -/
theorem World.Alone.sync (alone : world.Alone bookId) {around : Around}
    (solo : Solo bookId world (.sync around)) :
    (worldStep world (.sync around)).Alone bookId := by
  obtain ⟨allowed, ⟨toBook, ok, atEnd⟩, elsewhere, elsewhereBefore⟩ := solo
  obtain ⟨final, tracked⟩ := alone.tracked
  have kept := worldStep_kept alone.kept allowed
  obtain ⟨-, -, -, guarded⟩ := allowed
  rcases world.device.syncNow_cases around world.server with
    stopped | ⟨remoteBookId, session, binds, synced⟩
  · rw [stopped] at ok
    cases ok
  · obtain rfl := Option.some.inj (session.symm.trans toBook)
    obtain ⟨writes, -, -⟩ := Device.boundTo_writesAt alone.kept.unbound remoteBookId
    dsimp only [World.served] at guarded
    rw [synced] at ok guarded
    rw [← writes.deviceId] at guarded
    obtain ⟨idle, roundTrips⟩ := (tracked.boundTo alone.kept.unbound).afterSync elsewhere
      elsewhereBefore ok guarded
    have same := (world.device.boundTo remoteBookId).syncBound_sameBinding remoteBookId
      (world.device.boundTo remoteBookId).cursor around world.server
    rw [← synced] at idle roundTrips same
    have bound : (world.device.syncNow around world.server).device.remoteBookId = none ∨
        (world.device.syncNow around world.server).device.remoteBookId = some remoteBookId :=
      Or.inr (same.remoteBookId.trans (Device.boundTo_remoteBookId binds))
    refine ⟨kept, bound, _, (kept.inStep bound).tracked kept.log idle atEnd fun id view seen => ?_⟩
    have whole := roundTrips id view seen
    rwa [← same.bookId] at whole

/-- Every event of a single writer keeps it tracked. -/
theorem worldStep_alone (alone : world.Alone bookId) {event : WorldEvent}
    (solo : Solo bookId world event) : (worldStep world event).Alone bookId := by
  cases event with
  | sync around => exact alone.sync solo
  | act action =>
    have kept := worldStep_kept alone.kept solo.allowed
    obtain ⟨final, tracked⟩ := alone.tracked
    refine ⟨kept, ?_, ?_⟩
    · show ((world.device.act action).getD world.device).remoteBookId = none ∨
        ((world.device.act action).getD world.device).remoteBookId = some bookId
      cases acted : world.device.act action with
      | none => exact alone.binds
      | some after =>
        rw [Option.getD_some, (Device.act_samePlace acted).binding.remoteBookId]
        exact alone.binds
    · show ∃ final, Tracked bookId world.server ((world.device.act action).getD world.device) final
      cases acted : world.device.act action with
      | none => exact ⟨final, tracked⟩
      | some after => exact tracked.afterAct solo acted
  | other step =>
    have kept := worldStep_kept alone.kept solo.allowed
    obtain ⟨final, tracked⟩ := alone.tracked
    exact ⟨kept, alone.binds, final,
      tracked.course.elsewhere solo.1 solo.2.keepsBook, tracked.rows⟩

theorem run_alone (alone : world.Alone bookId) {events : List WorldEvent}
    (solo : Machine.Guarded worldStep (Solo bookId) world events) :
    (Machine.run worldStep world events).Alone bookId := by
  have preserved : ∀ (world : World) (event : WorldEvent), world.Alone bookId →
      Solo bookId world event → (worldStep world event).Alone bookId :=
    fun _ _ alone solo => worldStep_alone alone solo
  exact Machine.guarded_invariant preserved alone solo

end Run

/-! ### The next push lands -/

/-- The content of the live transaction of a book under an id. -/
def MemoryStore.liveContent (store : MemoryStore) (bookId id : String) : Option Content :=
  ((store.viewOf bookId id).filter fun view => !view.deleted).map ServerView.content

/-- The content of the live transaction of a device under an id, with the account ids of the book
it syncs with. -/
def Device.liveContent (device : Device) (bookId id : String) : Option Content :=
  ((device.transactions.lookup id).filter fun row => !row.deleted).map
    (LocalTransaction.content device.bookId bookId)

/-- A push in which every mutation is applied, that changes nothing of the device but its queue,
and after which the server has what the device has. -/
structure Landed [Rfc3339] (bookId : String) (server : MemoryStore) (device : Device)
    (attempt : PushAttempt) : Prop where
  applied : ∀ receipt ∈ attempt.receipts, receipt.status = "applied"
  answered : attempt.receipts.map MutationReceiptDto.mutationId =
    device.pending.map PendingMutationRow.mutationId
  emptied : attempt.result = .ok { device with pending := [] }
  live : ∀ id, (Machine.run pushStep server attempt.served).liveContent bookId id =
    device.liveContent bookId id

/-- Where a queue is empty on its course, the server has what the device has. -/
theorem Tracked.live_eq {bookId : String} {server after : MemoryStore} {device : Device}
    {final : String → Option ServerView} (tracked : Tracked bookId server device final)
    (course : Course bookId device.deviceId device.bookId after [] final) (id : String) :
    after.liveContent bookId id = device.liveContent bookId id := by
  have reached : final id = after.viewOf bookId id := course.leads id
  have rel := tracked.rows id
  rw [reached] at rel
  unfold MemoryStore.liveContent Device.liveContent
  generalize after.viewOf bookId id = view at rel ⊢
  generalize device.transactions.lookup id = row at rel ⊢
  cases rel with
  | none => rfl
  | @some view row fits =>
    cases deleted : view.deleted with
    | true =>
      have rowDeleted : row.deleted = true := fits.deleted.trans deleted
      rw [Option.filter_some_neg (by simp [deleted]), Option.filter_some_neg (by simp [rowDeleted])]
      rfl
    | false =>
      have rowLive : row.deleted = false := fits.deleted.trans deleted
      rw [Option.filter_some_pos (by simp [deleted]), Option.filter_some_pos (by simp [rowLive]),
        Option.map_some, Option.map_some, fits.content deleted]

/-- In every run in which nobody but the device writes to the book, the device writes transactions
of whole seconds over accounts of the server, its syncs are complete, and it deletes no
transaction ahead of its pending create, the next push lands. -/
theorem offline_work_lands [Rfc3339] [ReadsDates] (books : KeyMap String BookRecord)
    (accounts : KeyMap String AccountRecord) (deviceId localBook : String)
    (localAccounts : KeyMap String LocalAccount) (bookId : String) (events : List WorldEvent)
    (solo : Machine.Guarded worldStep (Solo bookId)
      ⟨MemoryStore.initial books accounts, Device.initial deviceId localBook localAccounts⟩ events)
    (around : Around) (answered : around.cut 0 = none)
    (elsewhere : ∀ position, ∀ step ∈ around.others 0 position, step.bookId ≠ bookId) :
    let world := Machine.run worldStep
      ⟨MemoryStore.initial books accounts, Device.initial deviceId localBook localAccounts⟩ events
    Machine.Guarded pushStep (Benign bookId world.device.deviceId) world.server
      ((world.device.boundTo bookId).pushAttempt bookId around 0 world.server).served →
    Landed bookId world.server (world.device.boundTo bookId)
      ((world.device.boundTo bookId).pushAttempt bookId around 0 world.server) := by
  intro world guarded
  have alone : world.Alone bookId :=
    run_alone (World.initial_alone books accounts deviceId localBook localAccounts bookId) solo
  obtain ⟨final, tracked⟩ := alone.tracked
  obtain ⟨writes, -, -⟩ := Device.boundTo_writesAt alone.kept.unbound bookId
  have bound := tracked.boundTo alone.kept.unbound
  rw [← writes.deviceId] at guarded
  obtain ⟨applied, ids, result, course⟩ := bound.push answered elsewhere guarded
  exact ⟨applied, ids, result, bound.live_eq course⟩

/-- One yuan for lunch. -/
def lunch : LedgerTransaction := lunchOf "t1" none none

/-- The server of a book and a device that has not synced yet. -/
def offlineStart : World :=
  ⟨MemoryStore.initial ∅ (withAccounts "A" ∅), Device.initial "phone" "local" ∅⟩

/-- A transaction that is saved and edited lands. -/
theorem offline_work_lands_once :
    let _ := utcClock
    let world := Machine.run worldStep offlineStart
      [.act (.save lunch "m1" none), .act (.update lunch 1 "m2")]
    Landed "A" world.server (world.device.boundTo "A")
      ((world.device.boundTo "A").pushAttempt "A" (quietSync "A") 0 world.server) := by
  intro clock world
  have readsDates : ReadsDates := utcClock_readsDates
  have plain : lunch.Plain "local" "A" (withAccounts "A" ∅) :=
    ⟨by decide, by decide, by decide, by decide⟩
  have solo : Machine.Guarded worldStep (Solo "A") offlineStart
      [.act (.save lunch "m1" none), .act (.update lunch 1 "m2")] :=
    ⟨⟨rfl, plain⟩, ⟨rfl, plain⟩, trivial⟩
  refine offline_work_lands ∅ (withAccounts "A" ∅) "phone" "local" ∅ "A" _ solo (quietSync "A")
    rfl (fun _ _ member => absurd member List.not_mem_nil) ⟨⟨?_, ?_, ?_⟩, trivial⟩
  · exact fun change member => absurd member List.not_mem_nil
  · exact fun takes => takes.1 rfl
  · exact fun _ _ _ _ => ⟨fun found stored => (by cases stored), rfl⟩

/-- A transaction that is saved, edited and deleted before the first sync: the delete is
rejected, and the server keeps what the device has deleted. -/
theorem offline_delete_conflicts :
    let _ := utcClock
    let world := Machine.run worldStep offlineStart
      [.act (.save lunch "m1" none), .act (.update lunch 1 "m2"), .act (.delete "t1" "m3")]
    let attempt := (world.device.boundTo "A").pushAttempt "A" (quietSync "A") 0 world.server
    (attempt.receipts.map MutationReceiptDto.resultCode = ["OK", "LEDGER_VERSION_CONFLICT"]) ∧
      (Machine.run pushStep world.server attempt.served).liveContent "A" "t1" ≠
        world.device.liveContent "A" "t1" := by
  decide

end Ledgerly
