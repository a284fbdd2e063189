/-
This file proves what the queue of a device always is: its mutation ids are distinct, and
behind every account mutation stands an account of the device and a payload that is an object.

No assumption is made about the events. The insert into the queue and the renewal of a
mutation check the ids, and no function of the repository deletes an account.
-/

import Ledgerly.DeviceActions

namespace Ledgerly

/-- A mutation of an account can be tried again as a root: its payload is an object, and the
account is there. -/
def PendingMutationRow.Sound (accounts : KeyMap String LocalAccount) (row : PendingMutationRow) :
    Prop :=
  row.entityType = "account" →
    (∃ fields, row.payload = .obj fields) ∧ (accounts.lookup row.entityId).isSome = true

/-- The queue of a device as the repository leaves it. -/
structure Device.QueueSound (device : Device) : Prop where
  distinct : (device.pending.map PendingMutationRow.mutationId).Nodup
  accounts : ∀ row ∈ device.pending, row.Sound device.accounts

section Queue

variable {device after : Device}

theorem Device.initial_queueSound (deviceId bookId : String)
    (accounts : KeyMap String LocalAccount) :
    (Device.initial deviceId bookId accounts).QueueSound :=
  ⟨List.nodup_nil, fun _ member => absurd member List.not_mem_nil⟩

/-- Accounts that are written are not lost. -/
theorem isSome_lookup_insert {accounts : KeyMap String LocalAccount} {id other : String}
    {account : LocalAccount} (known : (accounts.lookup other).isSome = true) :
    ((accounts.insert id account).lookup other).isSome = true := by
  rw [KeyMap.lookup_insert_eq]
  split
  · rfl
  · exact known

/-- A change that keeps the queue and loses no account. -/
theorem Device.QueueSound.congr (sound : device.QueueSound)
    (pending : after.pending = device.pending)
    (accounts : ∀ id, (device.accounts.lookup id).isSome = true →
      (after.accounts.lookup id).isSome = true) : after.QueueSound := by
  refine ⟨by rw [pending]; exact sound.distinct, fun row member isAccount => ?_⟩
  rw [pending] at member
  obtain ⟨isObject, known⟩ := sound.accounts row member isAccount
  exact ⟨isObject, accounts _ known⟩

/-- A row that joins the queue. -/
theorem Device.QueueSound.queue (sound : device.QueueSound) {row : PendingMutationRow}
    (isSound : row.Sound device.accounts)
    (queued : device.queue row = some after) : after.QueueSound := by
  obtain ⟨free, rfl⟩ := Device.queue_eq_some queued
  refine ⟨?_, List.forall_mem_append.mpr ⟨sound.accounts, fun other member => ?_⟩⟩
  · show ((device.pending ++ [row]).map PendingMutationRow.mutationId).Nodup
    rw [List.map_append, List.nodup_append]
    refine ⟨sound.distinct, List.nodup_singleton _, fun used member new isNew => ?_⟩
    obtain ⟨other, otherMember, rfl⟩ := List.mem_map.mp member
    rw [List.mem_singleton.mp isNew]
    exact free other otherMember
  · rw [List.mem_singleton.mp member]
    exact isSound

/-- Rows that leave the queue. -/
theorem Device.QueueSound.removePending (sound : device.QueueSound) (mutationId : String) :
    (device.removePending mutationId).QueueSound :=
  ⟨sound.distinct.sublist (List.filter_sublist.map _),
    fun row member => sound.accounts row (List.mem_of_mem_filter member)⟩

/-- A row that is queued again in the place of another. -/
theorem Device.QueueSound.requeue (sound : device.QueueSound) {mutationId : String}
    {row : PendingMutationRow}
    (isSound : row.Sound device.accounts)
    (requeued : device.requeue mutationId row = some after) : after.QueueSound := by
  unfold Device.requeue at requeued
  split at requeued
  · cases requeued
  · rename_i free
    cases requeued
    have spare : ∀ other ∈ device.pending, other.mutationId ≠ mutationId →
        other.mutationId ≠ row.mutationId := by
      intro other member different same
      refine free (List.any_eq_true.mpr ⟨other, member, ?_⟩)
      rw [Bool.and_eq_true]
      exact ⟨decide_eq_true different, decide_eq_true same⟩
    refine ⟨?_, List.forall_mem_map.mpr fun other member => ?_⟩
    · have apart : device.pending.Pairwise fun first second =>
          first.mutationId ≠ second.mutationId := List.pairwise_map.mp sound.distinct
      refine List.pairwise_map.mpr (List.pairwise_map.mpr (apart.imp_of_mem ?_))
      intro first second firstMember secondMember different
      split <;> split
      · rename_i here there
        exact absurd (here.trans there.symm) different
      · rename_i elsewhere
        exact (spare second secondMember elsewhere).symm
      · rename_i elsewhere _
        exact spare first firstMember elsewhere
      · exact different
    · split
      · exact isSound
      · exact sound.accounts other member

end Queue

/-! ### The receipts -/

section Receipts

variable {device after : Device}

theorem Device.QueueSound.renew (sound : device.QueueSound) {mutationId newId : String}
    (renewed : device.renewPendingMutation mutationId newId = some after) : after.QueueSound := by
  unfold Device.renewPendingMutation at renewed
  split at renewed
  · cases renewed
    exact sound
  · rename_i row found
    have isSound : ({ row with mutationId := newId } : PendingMutationRow).Sound device.accounts :=
      sound.accounts row (List.mem_of_find?_eq_some found)
    exact sound.requeue isSound renewed

theorem Device.QueueSound.retry (sound : device.QueueSound) {mutationId newId : String}
    (retried : device.retryCategoryMutationAsRoot mutationId newId = some after) :
    after.QueueSound := by
  unfold Device.retryCategoryMutationAsRoot at retried
  split at retried
  · cases retried
    exact sound
  · rename_i row found
    split at retried
    · cases retried
    · split at retried
      · rename_i fields account isObject known
        have kept : ({ device with
            accounts := device.accounts.insert row.entityId
              { account with parentAccountId := none } } : Device).QueueSound :=
          sound.congr rfl fun _ => isSome_lookup_insert
        refine kept.requeue (fun _ => ⟨⟨_, rfl⟩, ?_⟩) retried
        rw [AList.lookup_insert]
        rfl
      · cases retried

theorem Device.QueueSound.addConflict (sound : device.QueueSound) {newId reason : String}
    {row : PendingMutationRow} {remoteVersion : Option Int}
    (added : device.addConflict newId row reason remoteVersion = some after) :
    after.QueueSound := by
  unfold Device.addConflict at added
  split at added
  · cases added
  · cases added
    exact ⟨sound.distinct, sound.accounts⟩

theorem Device.QueueSound.handleReceipt (sound : device.QueueSound)
    {pending : List PendingMutationRow} {rejected : List String} {newId : String}
    {receipt : MutationReceiptDto}
    (handled : device.handleReceipt pending rejected newId receipt = some after) :
    after.QueueSound := by
  unfold Device.handleReceipt at handled
  split at handled
  · cases handled
  · split at handled
    · cases handled
      exact sound.removePending _
    · split at handled
      · exact sound.retry handled
      · split at handled
        · exact sound.retry handled
        · split at handled
          · exact sound.renew handled
          · split at handled
            · obtain ⟨recorded, added, rfl⟩ := Option.map_eq_some_iff.mp handled
              exact (sound.addConflict added).removePending receipt.mutationId
            · cases handled

theorem Device.QueueSound.handleReceipts (sound : device.QueueSound)
    (pending : List PendingMutationRow) (rejected : List String) (newId : Nat → String)
    (position : Nat) (receipts : List MutationReceiptDto) :
    (Device.left (Device.handleReceipts pending rejected newId position device receipts)).QueueSound :=
  Device.handleReceipts_keeps (fun sound handled => sound.handleReceipt handled) position sound
    receipts

end Receipts

/-! ### Runs -/

section Run

variable {device after : Device}

/-- A mutation of a transaction that is queued together with the transaction or without it. -/
theorem Device.QueueSound.queueTransaction (sound : device.QueueSound) {wrote : Device}
    {row : PendingMutationRow} (queued : wrote.queue row = some after)
    (pending : wrote.pending = device.pending) (accounts : wrote.accounts = device.accounts)
    (isTransaction : row.entityType = "transaction") : after.QueueSound := by
  have kept : wrote.QueueSound := sound.congr pending fun _ known => by rwa [accounts]
  refine kept.queue (fun isAccount => ?_) queued
  exact absurd (isTransaction.symm.trans isAccount) (by decide)

theorem Device.QueueSound.act (sound : device.QueueSound) {action : DeviceAction}
    (acted : device.act action = some after) : after.QueueSound := by
  cases Device.act_effect acted with
  | saved _ isTransaction _ _ queued => exact sound.queueTransaction queued rfl rfl isTransaction
  | updated _ isTransaction _ _ queued => exact sound.queueTransaction queued rfl rfl isTransaction
  | coalesced _ _ _ isAfter =>
    subst isAfter
    refine ⟨?_, List.forall_mem_map.mpr fun row member => ?_⟩
    · refine Eq.subst (motive := List.Nodup) (Eq.symm ?_) sound.distinct
      rw [List.map_map]
      refine List.map_congr_left fun row _ => ?_
      rw [Function.comp_apply]
      split <;> rfl
    · split
      · exact fun isAccount => ⟨⟨_, rfl⟩, (sound.accounts row member isAccount).2⟩
      · exact sound.accounts row member
  | deleted isTransaction _ _ queued => exact sound.queueTransaction queued rfl rfl isTransaction
  | @account _ id _ account _ carries _ queued =>
    have written : ({ device with accounts := device.accounts.insert id account } :
        Device).QueueSound := sound.congr rfl fun _ => isSome_lookup_insert
    refine written.queue (fun _ => ⟨⟨_, carries.payload⟩, ?_⟩) queued
    rw [carries.entity, AList.lookup_insert]
    rfl
  | unresolved same => exact same ▸ sound
  | kept isTransaction _ queued => exact sound.queueTransaction queued rfl rfl isTransaction
  | dropped isAfter =>
    subst isAfter
    exact sound.congr rfl fun _ known => known

variable [Rfc3339]

theorem Device.QueueSound.pushPending (sound : device.QueueSound) (remoteBookId : String)
    (around : Around) (server : MemoryStore) :
    (Device.left (device.pushPending remoteBookId around server).2).QueueSound :=
  Device.pushPending_keeps (fun sound handled => sound.handleReceipt handled) sound remoteBookId
    around server

omit [Rfc3339] in
theorem Device.QueueSound.applyChanges (sound : device.QueueSound) (remoteBookId : String)
    (now : Int) (changes : List ChangeRecord) :
    (Device.left (Device.applyChanges remoteBookId now device changes)).QueueSound := by
  induction changes generalizing device with
  | nil => exact sound
  | cons change rest inductionHypothesis =>
    rw [Device.applyChanges]
    cases applied : device.applyChange remoteBookId now change with
    | none => exact sound
    | some next =>
      refine inductionHypothesis (sound.congr
        (Device.applyChange_applies applied).sameQueue.pending fun id known => ?_)
      unfold Device.applyChange at applied
      split at applied
      · obtain ⟨payload, -, written⟩ := Option.bind_eq_some_iff.mp applied
        unfold Device.applyRemoteAccountUpsert at written
        split at written
        · cases written
          exact isSome_lookup_insert known
        · cases written
      · split at applied
        · cases applied
          exact known
        · split at applied
          · obtain ⟨payload, -, written⟩ := Option.bind_eq_some_iff.mp applied
            obtain ⟨row, -, rfl⟩ := Option.map_eq_some_iff.mp written
            exact known
          · split at applied
            · cases applied
              unfold Device.applyRemoteDelete
              split <;> exact known
            · cases applied
              exact known

theorem Device.QueueSound.syncNow (sound : device.QueueSound) (around : Around)
    (server : MemoryStore) : (device.syncNow around server).device.QueueSound := by
  have bound : ∀ {device : Device} remoteBookId cursor, device.QueueSound →
      (device.syncBound remoteBookId cursor around server).device.QueueSound := by
    intro device remoteBookId cursor sound
    have pushed := sound.pushPending remoteBookId around server
    unfold Device.syncBound
    split
    · rename_i outcome
      rw [outcome] at pushed
      exact pushed
    · rename_i served after outcome
      rw [outcome] at pushed
      replace pushed : after.QueueSound := pushed
      dsimp only
      unfold Device.pullChanges
      split
      · have pulled := pushed.applyChanges remoteBookId around.now (pullMem (Machine.run pushStep
          server (served ++ around.beforePull)) remoteBookId cursor (some 500)).changes
        dsimp only
        split
        · rename_i failed
          rw [failed] at pulled
          exact pulled
        · rename_i made
          rw [made] at pulled
          exact ⟨pulled.distinct, pulled.accounts⟩
      · exact pushed
  unfold Device.syncNow
  split
  · exact sound
  · split
    · exact bound _ _ ⟨sound.distinct, sound.accounts⟩
    · split
      · exact sound
      · exact bound _ _ sound

/-- The queue of a device is sound after every run. -/
theorem run_queueSound {world : World} (sound : world.device.QueueSound)
    (events : List WorldEvent) : (Machine.run worldStep world events).device.QueueSound := by
  have preserved : ∀ (world : World) (event : WorldEvent), world.device.QueueSound →
      (worldStep world event).device.QueueSound := by
    intro world event sound
    cases event with
    | act action =>
      show ((world.device.act action).getD world.device).QueueSound
      cases acted : world.device.act action with
      | none => exact sound
      | some after => exact sound.act acted
    | sync around => exact sound.syncNow around world.server
    | other step => exact sound
  exact Machine.run_invariant preserved sound events

end Run

end Ledgerly
