/-
This file proves that a thrown rejection is for ever: the mutation stays in the queue under its
id, the server answers that id with the receipt it has stored, and the loop over the receipts
throws at that receipt again. No sync gets to its pull any more, whatever the user does and
whatever the server processes in between.
-/

import Ledgerly.Convergence
import Ledgerly.QueueDrain

namespace Ledgerly

/-! ### A thrown rejection -/

/-- A receipt that the loop has no answer to, wherever it stands. -/
structure MutationReceipt.Unanswerable (receipt : MutationReceipt) : Prop where
  rejected : receipt.status ≠ "applied"
  noConflict : receipt.resultCode ∉ conflictCodes
  notParent : receipt.resultCode ≠ "INVALID_CATEGORY_PARENT"
  notAccount : receipt.resultCode ≠ "ACCOUNT_NOT_FOUND"

/-- A device bound to the book has a mutation in its queue that the server has given such a
receipt. -/
structure Wedged (bookId mutationId : String) (world : World) : Prop where
  bound : world.device.remoteBookId = some bookId
  queued : ∃ row ∈ world.device.pending, row.mutationId = mutationId
  answered : ∃ receipt, world.server.mutations.lookup
    (bookId, world.device.deviceId, mutationId) = some receipt ∧ receipt.Unanswerable

section Wedge

variable {bookId mutationId : String} {device after : Device}

theorem Device.handleReceipt_unanswerable {pending : List PendingMutationRow}
    {rejected : List String} {newId : String} {receipt : MutationReceiptDto}
    (unanswerable : receipt.stored.Unanswerable) :
    device.handleReceipt pending rejected newId receipt = none := by
  obtain ⟨rejects, noConflict, notParent, notAccount⟩ := unanswerable
  dsimp only [MutationReceiptDto.stored] at rejects noConflict notParent notAccount
  unfold Device.handleReceipt
  split
  · rfl
  · rw [if_neg rejects, if_neg fun retried => notParent retried.1,
      if_neg fun retried => notAccount retried.1, if_neg fun retried => notAccount retried.1,
      if_neg noConflict]

/-- The loop throws at such a receipt at the latest, with the mutation still in the queue. -/
theorem Device.handleReceipts_unanswerable {pending : List PendingMutationRow}
    {rejected : List String} {newId : Nat → String} {receipts : List MutationReceiptDto}
    (position : Nat)
    (unanswerable : ∀ receipt ∈ receipts, receipt.mutationId = mutationId →
      receipt.stored.Unanswerable)
    (among : ∃ receipt ∈ receipts, receipt.mutationId = mutationId)
    (queued : ∃ row ∈ device.pending, row.mutationId = mutationId) :
    ∃ thrown, Device.handleReceipts pending rejected newId position device receipts =
        .error thrown ∧ ∃ row ∈ thrown.pending, row.mutationId = mutationId := by
  induction receipts generalizing device position with
  | nil =>
    obtain ⟨receipt, member, -⟩ := among
    exact absurd member List.not_mem_nil
  | cons receipt rest inductionHypothesis =>
    rw [Device.handleReceipts]
    cases handled : device.handleReceipt pending rejected (newId position) receipt with
    | none => exact ⟨device, rfl, queued⟩
    | some worked =>
      have other : receipt.mutationId ≠ mutationId := by
        intro same
        rw [Device.handleReceipt_unanswerable
          (unanswerable receipt List.mem_cons_self same)] at handled
        cases handled
      have stillQueued : ∃ row ∈ worked.pending, row.mutationId = mutationId := by
        obtain ⟨row, member, named⟩ := queued
        obtain ⟨-, effect⟩ := Device.handleReceipt_effect handled
        have different : row.mutationId ≠ receipt.mutationId := fun same =>
          other (same.symm.trans named)
        cases effect with
        | kept same => exact ⟨row, by rwa [same], named⟩
        | dropped _ left =>
          refine ⟨row, ?_, named⟩
          rw [left]
          exact List.mem_filter.mpr ⟨member, decide_eq_true different⟩
        | renewed old new _ _ _ _ left =>
          refine ⟨row, ?_, named⟩
          rw [left]
          exact List.mem_map.mpr ⟨row, member, if_neg different⟩
      obtain ⟨found, member, named⟩ := among
      refine inductionHypothesis (position + 1)
        (fun later laterMember => unanswerable later (List.mem_cons_of_mem _ laterMember))
        ⟨found, ?_, named⟩ stillQueued
      rcases List.mem_cons.mp member with rfl | later
      · exact absurd named other
      · exact later

/-- No action of the user takes a mutation out of the queue. -/
theorem Device.act_queued {action : DeviceAction} (acted : device.act action = some after)
    (queued : ∃ row ∈ device.pending, row.mutationId = mutationId) :
    ∃ row ∈ after.pending, row.mutationId = mutationId := by
  have joined : ∀ {wrote : Device} {row}, wrote.queue row = some after →
      wrote.pending = device.pending → ∃ row ∈ after.pending, row.mutationId = mutationId := by
    intro wrote row joins same
    obtain ⟨-, rfl⟩ := Device.queue_eq_some joins
    obtain ⟨old, member, named⟩ := queued
    refine ⟨old, List.mem_append_left _ ?_, named⟩
    rwa [same]
  cases Device.act_effect acted with
  | saved _ _ _ _ queued => exact joined queued rfl
  | updated _ _ _ _ queued => exact joined queued rfl
  | coalesced _ _ _ isAfter =>
    subst isAfter
    obtain ⟨row, member, named⟩ := queued
    refine ⟨_, List.mem_map.mpr ⟨row, member, rfl⟩, ?_⟩
    split
    · exact named
    · exact named
  | deleted _ _ _ queued => exact joined queued rfl
  | account _ _ queued => exact joined queued rfl
  | unresolved same => exact same ▸ queued
  | kept _ _ queued => exact joined queued rfl
  | dropped isAfter => exact isAfter ▸ queued

variable [Rfc3339] {world : World}

/-- A sync of a wedged device fails with the mutation still in the queue. -/
theorem Wedged.pushPending (wedged : Wedged bookId mutationId world) (around : Around) :
    ∃ served thrown, world.device.pushPending bookId around world.server =
        (served, .error thrown) ∧ ∃ row ∈ thrown.pending, row.mutationId = mutationId := by
  obtain ⟨-, queued, receipt, stored, unanswerable⟩ := wedged
  have some : world.device.pending ≠ [] := by
    rintro idle
    rw [idle] at queued
    obtain ⟨row, member, -⟩ := queued
    exact absurd member List.not_mem_nil
  have failed : ∃ thrown, (world.device.pushAttempt bookId around 0 world.server).result =
      .error thrown ∧ ∃ row ∈ thrown.pending, row.mutationId = mutationId := by
    cases made : world.device.pending.zipIdx.mapM fun row => row.1.step world.device.deviceId
        world.device.bookId bookId (around.stamp 0 row.2) with
    | none =>
      refine ⟨world.device, ?_, queued⟩
      unfold Device.pushAttempt
      rw [made]
    | some steps =>
      cases cut : around.cut 0 with
      | some count =>
        refine ⟨world.device, ?_, queued⟩
        unfold Device.pushAttempt
        rw [made]
        dsimp only
        rw [cut]
      | none =>
        obtain ⟨attempted, sent, answers⟩ :=
          Device.pushAttempt_answered world.server made cut
        rw [attempted]
        refine Device.handleReceipts_unanswerable 0 (fun found member named => ?_) ?_ queued
        · have own : ∀ step ∈ steps, step.Own bookId world.device.deviceId := by
            intro step inSteps
            obtain ⟨row, -, made⟩ := List.exists_of_mapM_eq_some made inSteps
            obtain ⟨book, deviceId, -⟩ := PendingMutationRow.step_fields made
            exact ⟨book, deviceId⟩
          have isStored := answered_receiptsAmong own 0 world.server found member
          rw [named, lookup_mutations_run stored] at isStored
          cases isStored
          exact unanswerable
        · obtain ⟨row, member, named⟩ := queued
          have inIds : mutationId ∈ world.device.pending.map PendingMutationRow.mutationId :=
            List.mem_map.mpr ⟨row, member, named⟩
          rw [← answers] at inIds
          exact List.mem_map.mp inIds
  obtain ⟨thrown, result, stillQueued⟩ := failed
  refine ⟨(world.device.pushAttempt bookId around 0 world.server).served, thrown, ?_,
    stillQueued⟩
  unfold Device.pushPending
  rw [if_neg some]
  dsimp only
  rw [result]

/-- A sync leaves a wedged device wedged, and does not pull. -/
theorem Wedged.sync (wedged : Wedged bookId mutationId world) (around : Around) :
    (world.device.syncNow around world.server).ok = false ∧
      (world.device.syncNow around world.server).device.cursor = world.device.cursor ∧
      Wedged bookId mutationId (worldStep world (.sync around)) := by
  obtain ⟨receipt, stored, unanswerable⟩ := wedged.answered
  rcases world.device.syncNow_cases around world.server with
    stopped | ⟨remoteBookId, session, binds, synced⟩
  · refine ⟨by rw [stopped], by rw [stopped], ?_⟩
    have same : worldStep world (.sync around) = world := by
      simp only [worldStep, World.served, stopped, Machine.run_nil]
    rwa [same]
  · have isBook : bookId = remoteBookId := by
      rcases binds with none | some
      · rw [wedged.bound] at none
        cases none
      · exact Option.some.inj (wedged.bound.symm.trans some)
    subst isBook
    have isBound : world.device.boundTo bookId = world.device := by
      unfold Device.boundTo
      rw [wedged.bound]
    rw [isBound] at synced
    obtain ⟨served, thrown, failed, queued⟩ := wedged.pushPending around
    have sameBooks := world.device.pushPending_sameBooks bookId around world.server
    rw [failed] at sameBooks
    replace sameBooks : world.device.SameBooks thrown := sameBooks
    have outcome : world.device.syncNow around world.server = ⟨served, thrown, false⟩ := by
      rw [synced]
      unfold Device.syncBound
      rw [failed]
    refine ⟨by rw [outcome], by rw [outcome]; exact sameBooks.cursor, ?_, ?_, receipt, ?_,
      unanswerable⟩
    · show (world.device.syncNow around world.server).device.remoteBookId = some bookId
      rw [outcome]
      exact sameBooks.remoteBookId.trans wedged.bound
    · show ∃ row ∈ (world.device.syncNow around world.server).device.pending, _
      rw [outcome]
      exact queued
    · show (Machine.run pushStep world.server
        (world.device.syncNow around world.server).served).mutations.lookup
          (bookId, (world.device.syncNow around world.server).device.deviceId, mutationId) = _
      rw [outcome]
      dsimp only
      rw [sameBooks.deviceId]
      exact lookup_mutations_run stored served

/-- A wedged device stays wedged, whatever happens, and its cursor stays where it is. -/
theorem worldStep_wedged (wedged : Wedged bookId mutationId world) (event : WorldEvent) :
    Wedged bookId mutationId (worldStep world event) ∧
      (worldStep world event).device.cursor = world.device.cursor := by
  obtain ⟨bound, queued, receipt, stored, unanswerable⟩ := wedged
  cases event with
  | sync around =>
    obtain ⟨-, cursor, kept⟩ := Wedged.sync ⟨bound, queued, receipt, stored, unanswerable⟩ around
    exact ⟨kept, cursor⟩
  | other step =>
    exact ⟨⟨bound, queued, receipt, lookup_mutations_pushStep stored step, unanswerable⟩, rfl⟩
  | act action =>
    show Wedged bookId mutationId ⟨world.server, (world.device.act action).getD world.device⟩ ∧
      ((world.device.act action).getD world.device).cursor = world.device.cursor
    cases acted : world.device.act action with
    | none => exact ⟨⟨bound, queued, receipt, stored, unanswerable⟩, rfl⟩
    | some after =>
      obtain ⟨binding, cursor⟩ := Device.act_samePlace acted
      refine ⟨⟨binding.remoteBookId.trans bound, Device.act_queued acted queued, receipt, ?_,
        unanswerable⟩, cursor⟩
      dsimp only [Option.getD_some]
      rw [binding.deviceId]
      exact stored

/-- So it is in every run: no sync succeeds or pulls any more. -/
theorem run_wedged (wedged : Wedged bookId mutationId world) (events : List WorldEvent) :
    Wedged bookId mutationId (Machine.run worldStep world events) ∧
      (Machine.run worldStep world events).device.cursor = world.device.cursor := by
  have preserved : ∀ (later : World) (event : WorldEvent),
      (Wedged bookId mutationId later ∧ later.device.cursor = world.device.cursor) →
      Wedged bookId mutationId (worldStep later event) ∧
        (worldStep later event).device.cursor = world.device.cursor := by
    rintro later event ⟨holds, cursor⟩
    obtain ⟨kept, same⟩ := worldStep_wedged holds event
    exact ⟨kept, same.trans cursor⟩
  exact Machine.run_invariant preserved ⟨wedged, rfl⟩ events

end Wedge

/-! ### A device that is wedged -/

/-- The fingerprint of a payment. -/
def paymentFingerprint : String :=
  "0123456789abcdef0123456789abcdef0123456789abcdef0123456789abcdef"

/-- One yuan for lunch, as a device that listens for payments records it. -/
def capturedLunch (id : String) : LedgerTransaction :=
  lunchOf id (some "auto_ledger") (some paymentFingerprint)

/-- Two devices capture the same payment; the second one syncs, so that its transaction is taken
for the first one's, and its user deletes it as a duplicate. -/
def duplicateDeleted : List WorldEvent :=
  createdElsewhere [("source", .str "auto_ledger"),
      ("sourceEventFingerprint", .str paymentFingerprint)] ++
    [.act (.save (capturedLunch "t2") "m2" none), .sync (quietSync "A"),
      .act (.delete "t2" "m3"), .sync (quietSync "A")]

/-- The server does not know what is deleted, and the device never syncs again. -/
theorem sync_wedges :
    let _ := utcClock
    let world := Machine.run worldStep
      ⟨MemoryStore.initial ∅ (withAccounts "A" ∅), Device.initial "phone" "local" ∅⟩
      duplicateDeleted
    ∀ events, let later := Machine.run worldStep world events
      (∃ row ∈ later.device.pending, row.mutationId = "m3") ∧
        later.device.cursor = world.device.cursor ∧
        ∀ around, (later.device.syncNow around later.server).ok = false := by
  intro clock world events later
  have wedged : Wedged "A" "m3" world := by
    refine ⟨by decide, by decide, ⟨"rejected", "NOT_FOUND", none⟩, by decide, ?_⟩
    exact ⟨by decide, by decide, by decide, by decide⟩
  obtain ⟨stillWedged, cursor⟩ := run_wedged wedged events
  exact ⟨stillWedged.queued, cursor, fun around => (stillWedged.sync around).1⟩

end Ledgerly
