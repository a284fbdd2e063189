/-
This file proves what every mutation in the queue of a device looks like.

It is about a transaction or an account. The deletes, and only they, are marked as such in their
payload, and they are deletes of transactions; the payload of an account has no entries. So what a
payload says of its operation can be relied on, as long as it is the payload of a transaction.
-/

import Ledgerly.Convergence
import Ledgerly.QueueSound

namespace Ledgerly

/-- A mutation as the functions of the repository queue it. -/
structure PendingMutationRow.Formed (row : PendingMutationRow) : Prop where
  type : row.entityType = "transaction" ∨ row.entityType = "account"
  marked : row.payload.get? "deleted" = some (.bool true) ↔ row.operation = "delete"
  account : row.entityType = "account" →
    row.operation ≠ "delete" ∧ row.payload.get? "entries" = none

/-- A queue of such mutations, under distinct ids. -/
structure Device.QueueFormed (device : Device) : Prop where
  sound : device.QueueSound
  rows : ∀ row ∈ device.pending, row.Formed

/-! ### What is queued -/

section Rows

variable {row : PendingMutationRow} {tx : LedgerTransaction} {fingerprint : Option String}

/-- A mutation of a transaction whose payload is not marked. -/
theorem PendingMutationRow.Formed.ofUpsert (isTransaction : row.entityType = "transaction")
    (isUpsert : row.operation = "create" ∨ row.operation = "update")
    (unmarked : row.payload.get? "deleted" = none) : row.Formed := by
  have notDelete : row.operation ≠ "delete" := by
    rcases isUpsert with isCreate | isUpdate
    · exact isCreate.trans_ne (by decide)
    · exact isUpdate.trans_ne (by decide)
  refine ⟨Or.inl isTransaction, ?_, fun isAccount => ?_⟩
  · rw [unmarked]
    exact iff_of_false (Option.some_ne_none _).symm notDelete
  · exact absurd (isTransaction.symm.trans isAccount) (by decide)

theorem LedgerTransaction.createPayload_unmarked :
    (tx.createPayload fingerprint).get? "deleted" = none := by
  simp [createPayload, Json.get?, List.lookup_cons]

theorem LedgerTransaction.updatePayload_unmarked : tx.updatePayload.get? "deleted" = none := by
  simp [updatePayload, Json.get?, List.lookup_cons]

/-- A queued mutation of an account. -/
theorem PendingMutationRow.CarriesAccount.formed {id operation : String} {account : LocalAccount}
    (carries : row.CarriesAccount id operation account) (notDelete : operation ≠ "delete") :
    row.Formed := by
  have unmarked : row.payload.get? "deleted" = none := by
    rw [carries.payload]
    simp [canonicalAccountPayload, Json.get?, List.lookup_cons]
  refine ⟨Or.inr carries.isAccount, ?_, fun _ => ⟨carries.operation.trans_ne notDelete, ?_⟩⟩
  · rw [unmarked, carries.operation]
    exact iff_of_false (Option.some_ne_none _).symm notDelete
  · rw [carries.payload]
    simp [canonicalAccountPayload, Json.get?, List.lookup_cons]

/-- A mutation that is tried again under another id. -/
theorem PendingMutationRow.Formed.renewed (formed : row.Formed) (newId : String) :
    ({ row with mutationId := newId } : PendingMutationRow).Formed :=
  ⟨formed.type, formed.marked, formed.account⟩

end Rows

section Queue

variable {device after : Device}

theorem Device.QueueFormed.congr (formed : device.QueueFormed) (sound : after.QueueSound)
    (pending : after.pending = device.pending) : after.QueueFormed :=
  ⟨sound, by rw [pending]; exact formed.rows⟩

/-- A row that joins the queue. -/
theorem Device.QueueFormed.queue {wrote : Device} {row : PendingMutationRow}
    (formed : device.QueueFormed) (queued : wrote.queue row = some after)
    (pending : wrote.pending = device.pending) (sound : after.QueueSound) (isFormed : row.Formed) :
    after.QueueFormed := by
  obtain ⟨-, rfl⟩ := Device.queue_eq_some queued
  refine ⟨sound, List.forall_mem_append.mpr ⟨by rw [pending]; exact formed.rows, ?_⟩⟩
  exact List.forall_mem_singleton.mpr isFormed

/-- A row that is queued again in the place of another. -/
theorem Device.QueueFormed.requeue {wrote : Device} {row : PendingMutationRow} {mutationId : String}
    (formed : device.QueueFormed) (requeued : wrote.requeue mutationId row = some after)
    (pending : wrote.pending = device.pending) (sound : after.QueueSound) (isFormed : row.Formed) :
    after.QueueFormed := by
  unfold Device.requeue at requeued
  split at requeued
  · cases requeued
  · cases requeued
    refine ⟨sound, List.forall_mem_map.mpr fun other member => ?_⟩
    split
    · exact isFormed
    · exact formed.rows other (by rw [← pending]; exact member)

/-! ### The receipts -/

theorem Device.QueueFormed.renew (formed : device.QueueFormed) {mutationId newId : String}
    (renewed : device.renewPendingMutation mutationId newId = some after) : after.QueueFormed := by
  have sound := formed.sound.renew renewed
  unfold Device.renewPendingMutation at renewed
  split at renewed
  · cases renewed
    exact formed
  · rename_i row found
    have isFormed := formed.rows row (List.mem_of_find?_eq_some found)
    exact formed.requeue renewed rfl sound (isFormed.renewed newId)

theorem Device.QueueFormed.retry (formed : device.QueueFormed) {mutationId newId : String}
    (retried : device.retryCategoryMutationAsRoot mutationId newId = some after) :
    after.QueueFormed := by
  have sound := formed.sound.retry retried
  unfold Device.retryCategoryMutationAsRoot at retried
  split at retried
  · cases retried
    exact formed
  · rename_i row found
    split at retried
    · cases retried
    · split at retried
      · rename_i fields account isObject known
        obtain ⟨type, marked, ofAccount⟩ := formed.rows row (List.mem_of_find?_eq_some found)
        rw [isObject] at marked ofAccount
        refine formed.requeue retried rfl sound
          ⟨type, ?_, fun isAccount => ⟨(ofAccount isAccount).1, ?_⟩⟩
        · rw [Json.get?_insert_of_ne _ _ _ _ (by decide)]
          exact marked
        · rw [Json.get?_insert_of_ne _ _ _ _ (by decide)]
          exact (ofAccount isAccount).2
      · cases retried

theorem Device.QueueFormed.handleReceipt (formed : device.QueueFormed)
    {pending : List PendingMutationRow} {rejected : List String} {newId : String}
    {receipt : MutationReceiptDto}
    (handled : device.handleReceipt pending rejected newId receipt = some after) :
    after.QueueFormed := by
  have sound := formed.sound.handleReceipt handled
  unfold Device.handleReceipt at handled
  split at handled
  · cases handled
  · split at handled
    · cases handled
      exact ⟨sound, fun row member => formed.rows row (List.mem_of_mem_filter member)⟩
    · split at handled
      · exact formed.retry handled
      · split at handled
        · exact formed.retry handled
        · split at handled
          · exact formed.renew handled
          · split at handled
            · obtain ⟨recorded, added, rfl⟩ := Option.map_eq_some_iff.mp handled
              refine ⟨sound, fun row member => formed.rows row ?_⟩
              have inRecorded := List.mem_of_mem_filter member
              unfold Device.addConflict at added
              split at added
              · cases added
              · cases added
                exact inRecorded
            · cases handled

/-! ### The actions -/

theorem Device.QueueFormed.act (formed : device.QueueFormed) {action : DeviceAction}
    (acted : device.act action = some after) : after.QueueFormed := by
  have sound := formed.sound.act acted
  cases Device.act_effect acted with
  | saved _ isTransaction isCreate payload queued =>
    refine formed.queue queued rfl sound (.ofUpsert isTransaction (Or.inl isCreate) ?_)
    rw [payload]
    exact LedgerTransaction.createPayload_unmarked
  | updated _ isTransaction isUpdate payload queued =>
    refine formed.queue queued rfl sound (.ofUpsert isTransaction (Or.inr isUpdate) ?_)
    rw [payload]
    exact LedgerTransaction.updatePayload_unmarked
  | coalesced _ inQueue creates isAfter =>
    subst isAfter
    refine ⟨sound, List.forall_mem_map.mpr fun row member => ?_⟩
    split
    · rename_i same
      obtain rfl := List.inj_on_of_nodup_map formed.sound.distinct member inQueue same
      obtain ⟨isTransaction, -, isCreate⟩ := creates
      exact .ofUpsert isTransaction (Or.inl isCreate) LedgerTransaction.updatePayload_unmarked
    · exact formed.rows row member
  | deleted isTransaction isDelete payload queued =>
    refine formed.queue queued rfl sound
      ⟨Or.inl isTransaction, ?_,
        fun isAccount => absurd (isTransaction.symm.trans isAccount) (by decide)⟩
    rw [payload]
    exact iff_of_true rfl isDelete
  | account carries notDelete queued =>
    exact formed.queue queued rfl sound (carries.formed notDelete)
  | unresolved same => exact same ▸ formed
  | kept isTransaction operation queued =>
    refine formed.queue queued rfl sound
      ⟨Or.inl isTransaction, ?_,
        fun isAccount => absurd (isTransaction.symm.trans isAccount) (by decide)⟩
    rw [operation]
    split
    · rename_i marked
      exact iff_of_true marked rfl
    · rename_i unmarked
      exact iff_of_false unmarked (by decide)
  | dropped isAfter =>
    subst isAfter
    exact formed.congr sound rfl

end Queue

/-! ### Runs -/

section Run

variable [Rfc3339] {device : Device}

theorem Device.QueueFormed.pushPending (formed : device.QueueFormed) (remoteBookId : String)
    (around : Around) (server : MemoryStore) :
    (Device.left (device.pushPending remoteBookId around server).2).QueueFormed :=
  Device.pushPending_keeps (fun formed handled => formed.handleReceipt handled) formed remoteBookId
    around server

/-- Pulling leaves the queue and the conflicts alone. -/
theorem Device.pullChanges_queue (device : Device) (remoteBookId : String) (cursor : Int)
    (around : Around) (server : MemoryStore) :
    (device.pullChanges remoteBookId cursor around server).1.pending = device.pending ∧
      (device.pullChanges remoteBookId cursor around server).1.conflicts = device.conflicts := by
  have same := (Device.applyChanges_keeps remoteBookId around.now device
    (pullMem server remoteBookId cursor (some 500)).changes).1
  unfold Device.pullChanges
  split
  · dsimp only
    split
    · rename_i failed
      rw [failed] at same
      exact ⟨same.pending, same.conflicts⟩
    · rename_i made
      rw [made] at same
      exact ⟨same.pending, same.conflicts⟩
  · exact ⟨rfl, rfl⟩

theorem Device.QueueFormed.syncNow (formed : device.QueueFormed) (around : Around)
    (server : MemoryStore) : (device.syncNow around server).device.QueueFormed := by
  have sound := formed.sound.syncNow around server
  have bound : ∀ {device : Device} remoteBookId cursor, device.QueueFormed →
      (device.syncBound remoteBookId cursor around server).device.QueueSound →
      (device.syncBound remoteBookId cursor around server).device.QueueFormed := by
    intro device remoteBookId cursor formed sound
    have pushed := formed.pushPending remoteBookId around server
    refine ⟨sound, ?_⟩
    unfold Device.syncBound
    split
    · rename_i outcome
      rw [outcome] at pushed
      exact pushed.rows
    · rename_i served after outcome
      rw [outcome] at pushed
      dsimp only
      rw [(Device.pullChanges_queue _ _ _ _ _).1]
      exact pushed.rows
  obtain same | ⟨remoteBookId, -, -, same⟩ := device.syncNow_cases around server
  · rw [same]
    exact formed
  · rw [same] at sound ⊢
    refine bound remoteBookId _ (formed.congr ?_ ?_) sound
    · unfold Device.boundTo
      split
      · exact ⟨formed.sound.distinct, formed.sound.accounts⟩
      · exact formed.sound
    · unfold Device.boundTo
      split <;> rfl

/-- The queue of a device is formed so after every run. -/
theorem run_queueFormed {world : World} (formed : world.device.QueueFormed)
    (events : List WorldEvent) : (Machine.run worldStep world events).device.QueueFormed := by
  have preserved : ∀ (world : World) (event : WorldEvent), world.device.QueueFormed →
      (worldStep world event).device.QueueFormed := by
    intro world event formed
    cases event with
    | act action =>
      show ((world.device.act action).getD world.device).QueueFormed
      cases acted : world.device.act action with
      | none => exact formed
      | some after => exact formed.act acted
    | sync around => exact formed.syncNow around world.server
    | other step => exact formed
  exact Machine.run_invariant preserved formed events

end Run

end Ledgerly
