/-
This file follows a device through what its user does: every action keeps the device in step
with the server.

An action that writes a transaction queues a mutation for it, and the version of the local row
is the one that is stored, so that the mutation lands unless the log is ahead. A create that
is still in the queue takes the edits of its transaction in.
-/

import Ledgerly.DevicePull

namespace Ledgerly

section Actions

variable {bookId : String} {server : MemoryStore} {device wrote after : Device} {id : String}

/-- The insert into the queue writes one row under an id of its own. -/
theorem Device.queue_eq_some {row : PendingMutationRow} (queued : device.queue row = some after) :
    (∀ other ∈ device.pending, other.mutationId ≠ row.mutationId) ∧
      after = { device with pending := device.pending ++ [row] } := by
  unfold Device.queue at queued
  split at queued
  · cases queued
  · rename_i free
    refine ⟨fun other member same => free ?_, (Option.some.inj queued).symm⟩
    exact List.any_eq_true.mpr ⟨other, member, decide_eq_true same⟩

/-- A queued row carries the columns of an account. -/
structure PendingMutationRow.CarriesAccount (row : PendingMutationRow) (id operation : String)
    (account : LocalAccount) : Prop where
  isAccount : row.entityType = "account"
  entity : row.entityId = id
  operation : row.operation = operation
  payload : row.payload = canonicalAccountPayload account.name account.type account.currencyCode
    account.parentAccountId

theorem Device.queueAccountMutation_eq_some {operation mutationId : String}
    {account : LocalAccount}
    (queued : device.queueAccountMutation mutationId id operation account = some after) :
    ∃ row : PendingMutationRow, row.CarriesAccount id operation account ∧
      (∀ other ∈ device.pending, other.mutationId ≠ row.mutationId) ∧
      after = { device with pending := device.pending ++ [row] } := by
  obtain ⟨fresh, isAfter⟩ := Device.queue_eq_some queued
  exact ⟨_, ⟨rfl, rfl, rfl, rfl⟩, fresh, isAfter⟩

/-- A create that succeeds puts in its row and queues the mutation. -/
theorem Device.createLocalAccount_eq_some {mutationId : String} {account : LocalAccount}
    (created : device.createLocalAccount id account mutationId = some after) :
    device.accounts.lookup id = none ∧
      ∃ row : PendingMutationRow, row.CarriesAccount id "create" account ∧
        (∀ other ∈ device.pending, other.mutationId ≠ row.mutationId) ∧
        after = { device with
          accounts := device.accounts.insert id account
          pending := device.pending ++ [row] } := by
  unfold createLocalAccount at created
  split at created
  · cases created
  · rename_i missing
    exact ⟨Option.not_isSome_iff_eq_none.mp missing, Device.queueAccountMutation_eq_some created⟩

/-- An update that succeeds puts in the changed row of the account and queues the mutation. -/
theorem Device.updateLocalAccount_eq_some {mutationId : String}
    {change : LocalAccount → LocalAccount}
    (updated : device.updateLocalAccount id mutationId change = some after) :
    ∃ account, device.accounts.lookup id = some account ∧
      ∃ row : PendingMutationRow, row.CarriesAccount id "update" (change account) ∧
        (∀ other ∈ device.pending, other.mutationId ≠ row.mutationId) ∧
        after = { device with
          accounts := device.accounts.insert id (change account)
          pending := device.pending ++ [row] } := by
  unfold updateLocalAccount at updated
  split at updated
  · cases updated
  · rename_i account found
    exact ⟨account, found, Device.queueAccountMutation_eq_some updated⟩

/-- Which device it is, which books it keeps and syncs, and where it is in the log. -/
structure Device.SamePlace (before after : Device) : Prop where
  binding : before.SameBinding after
  cursor : after.cursor = before.cursor

theorem Device.SamePlace.ofQueue {row : PendingMutationRow} (queued : wrote.queue row = some after)
    (same : device.SamePlace wrote) : device.SamePlace after := by
  obtain ⟨-, rfl⟩ := Device.queue_eq_some queued
  exact ⟨⟨same.binding.deviceId, same.binding.bookId, same.binding.remoteBookId⟩, same.cursor⟩

/-- Everything an action that succeeds can do: it queues a mutation together with what it writes of
a transaction or an account, adds an edit to the pending create of its transaction, or drops a
conflict. -/
inductive Device.ActEffect (device after : Device) : DeviceAction → Prop
  | saved {tx : LedgerTransaction} {mutationId : String} {fingerprint : Option String}
      {written : LocalTransaction} {row : PendingMutationRow} (live : written.deleted = false)
      (isTransaction : row.entityType = "transaction") (isCreate : row.operation = "create")
      (payload : row.payload = tx.createPayload fingerprint)
      (queued : ({ device with transactions := device.transactions.insert tx.id written } :
        Device).queue row = some after) :
      ActEffect device after (.save tx mutationId fingerprint)
  | updated {tx : LedgerTransaction} {baseVersion : Int} {mutationId : String}
      {written : LocalTransaction} {row : PendingMutationRow} (live : written.deleted = false)
      (isTransaction : row.entityType = "transaction") (isUpdate : row.operation = "update")
      (payload : row.payload = tx.updatePayload)
      (queued : ({ device with transactions := device.transactions.insert tx.id written } :
        Device).queue row = some after) :
      ActEffect device after (.update tx baseVersion mutationId)
  | coalesced {tx : LedgerTransaction} {baseVersion : Int} {mutationId : String}
      {written : LocalTransaction} {pendingCreate : PendingMutationRow}
      (live : written.deleted = false) (member : pendingCreate ∈ device.pending)
      (creates : pendingCreate.Creates tx.id)
      (isAfter : after = { device with
        transactions := device.transactions.insert tx.id written
        pending := device.pending.map fun row =>
          if row.mutationId = pendingCreate.mutationId then
            { row with
              payload := tx.updatePayload
              entriesFit := tx.updatePayload_fits }
          else row }) :
      ActEffect device after (.update tx baseVersion mutationId)
  | deleted {txId mutationId : String} {written : LocalTransaction} {row : PendingMutationRow}
      (isTransaction : row.entityType = "transaction") (isDelete : row.operation = "delete")
      (payload : row.payload = deletedPayload)
      (queued : ({ device with transactions := device.transactions.insert txId written } :
        Device).queue row = some after) :
      ActEffect device after (.delete txId mutationId)
  | account {action : DeviceAction} {id operation : String} {account : LocalAccount}
      {row : PendingMutationRow} (carries : row.CarriesAccount id operation account)
      (notDelete : operation ≠ "delete")
      (queued : ({ device with accounts := device.accounts.insert id account } :
        Device).queue row = some after) :
      ActEffect device after action
  | unresolved {action : DeviceAction} (same : after = device) : ActEffect device after action
  | kept {action : DeviceAction} {conflict : SyncConflict} {row : PendingMutationRow}
      (isTransaction : row.entityType = "transaction")
      (operation : row.operation =
        match row.payload.get? "deleted" with
        | some (.bool true) => "delete"
        | _ => "update")
      (queued : ({ device with
        conflicts := device.conflicts.filter fun other => other.id ≠ conflict.id } :
          Device).queue row = some after) :
      ActEffect device after action
  | dropped {action : DeviceAction} {conflict : SyncConflict}
      (isAfter : after = { device with
        conflicts := device.conflicts.filter fun other => other.id ≠ conflict.id }) :
      ActEffect device after action

theorem Device.updateLocalAccount_effect {action : DeviceAction} {mutationId : String}
    {change : LocalAccount → LocalAccount}
    (updated : device.updateLocalAccount id mutationId change = some after) :
    device.ActEffect after action := by
  unfold Device.updateLocalAccount at updated
  split at updated
  · cases updated
  · exact .account ⟨rfl, rfl, rfl, rfl⟩ (show ("update" : String) ≠ "delete" by decide) updated

theorem Device.updateDomainTransaction_effect {tx : LedgerTransaction} {baseVersion : Int}
    {mutationId : String}
    (updated : device.updateDomainTransaction tx baseVersion mutationId = some after) :
    device.ActEffect after (.update tx baseVersion mutationId) := by
  unfold Device.updateDomainTransaction at updated
  split at updated
  · cases updated
  · split at updated
    · cases updated
    · rename_i accepted
      have live := Bool.eq_false_iff.mpr (not_or.mp accepted).1
      dsimp only at updated
      split at updated
      · refine .updated ?_ rfl rfl rfl updated
        exact live
      · rename_i pendingCreate only
        cases updated
        have among : pendingCreate ∈ device.pending.filter fun row => row.Creates tx.id := by
          rw [only]
          exact List.mem_singleton_self pendingCreate
        obtain ⟨member, isCreate⟩ := List.mem_filter.mp among
        refine .coalesced ?_ member (of_decide_eq_true isCreate) rfl
        exact live
      · cases updated

theorem Device.resolveConflict_effect {action : DeviceAction} {conflictId mutationId : String}
    {keepLocal : Bool}
    (resolved : device.resolveConflict conflictId keepLocal mutationId = some after) :
    device.ActEffect after action := by
  unfold Device.resolveConflict at resolved
  split at resolved
  · cases resolved
    exact .unresolved rfl
  · dsimp only at resolved
    split at resolved
    · split at resolved
      · exact .kept rfl rfl resolved
      · cases resolved
    · cases resolved
      exact .dropped rfl

theorem Device.act_effect {action : DeviceAction} (acted : device.act action = some after) :
    device.ActEffect after action := by
  cases action with
  | save tx mutationId fingerprint =>
    replace acted : device.saveDomainTransaction tx mutationId fingerprint = some after := acted
    unfold Device.saveDomainTransaction at acted
    split at acted
    · cases acted
    · exact .saved rfl rfl rfl rfl acted
  | update tx baseVersion mutationId => exact Device.updateDomainTransaction_effect acted
  | delete txId mutationId =>
    replace acted : device.softDeleteTransaction txId mutationId = some after := acted
    unfold Device.softDeleteTransaction at acted
    split at acted
    · cases acted
    · exact .deleted rfl rfl rfl acted
  | createAccount entityId account mutationId =>
    replace acted : device.createLocalAccount entityId account mutationId = some after := acted
    unfold Device.createLocalAccount at acted
    split at acted
    · cases acted
    · exact .account ⟨rfl, rfl, rfl, rfl⟩ (show ("create" : String) ≠ "delete" by decide) acted
  | renameAccount entityId name mutationId => exact Device.updateLocalAccount_effect acted
  | updateCategory entityId name parentAccountId mutationId =>
    exact Device.updateLocalAccount_effect acted
  | resolve conflictId keepLocal mutationId => exact Device.resolveConflict_effect acted

/-- No action changes which device it is, which books it keeps and where it is in the log. -/
theorem Device.act_samePlace {action : DeviceAction} (acted : device.act action = some after) :
    device.SamePlace after := by
  cases Device.act_effect acted with
  | saved _ _ _ _ queued => exact .ofQueue queued ⟨⟨rfl, rfl, rfl⟩, rfl⟩
  | updated _ _ _ _ queued => exact .ofQueue queued ⟨⟨rfl, rfl, rfl⟩, rfl⟩
  | coalesced _ _ _ isAfter => exact isAfter ▸ ⟨⟨rfl, rfl, rfl⟩, rfl⟩
  | deleted _ _ _ queued => exact .ofQueue queued ⟨⟨rfl, rfl, rfl⟩, rfl⟩
  | account _ _ queued => exact .ofQueue queued ⟨⟨rfl, rfl, rfl⟩, rfl⟩
  | unresolved same => exact same ▸ ⟨⟨rfl, rfl, rfl⟩, rfl⟩
  | kept _ _ queued => exact .ofQueue queued ⟨⟨rfl, rfl, rfl⟩, rfl⟩
  | dropped isAfter => exact isAfter ▸ ⟨⟨rfl, rfl, rfl⟩, rfl⟩

/-- A row that is queued keeps the device in step if it is no new create of a transaction the
device knows to be stored, and lands if its transaction was right before. -/
theorem InStep.afterQueue (inStep : InStep bookId server device)
    (writes : device.WritesAt id wrote) (samePending : wrote.pending = device.pending)
    {row : PendingMutationRow} (queued : wrote.queue row = some after)
    (creates : ∀ other, row.Creates other →
      Ahead bookId server device other ∨ ¬StoredIn server bookId other)
    (written : Agrees bookId server device id →
      wrote.transactions.lookup id = device.transactions.lookup id ∨
        row.entityId = id ∧ Lands bookId server device row) :
    InStep bookId server after := by
  obtain ⟨free, rfl⟩ := Device.queue_eq_some queued
  rw [samePending] at free
  have moved : ∀ other, Lands bookId server device other →
      Lands bookId server { wrote with pending := wrote.pending ++ [row] } other := fun other lands =>
    ⟨lands.isTransaction, lands.fits, lands.sendable, by
      show ∀ receipt, server.mutations.lookup (bookId, wrote.deviceId, _) = _ → _
      rw [writes.deviceId]
      exact lands.undecided⟩
  have writes : device.WritesAt id { wrote with pending := wrote.pending ++ [row] } :=
    ⟨writes.deviceId, writes.bookId, writes.cursor, writes.others, writes.known⟩
  refine inStep.ofWrite writes ?_ ?_ ?_ ?_
  · show ((wrote.pending ++ [row]).map PendingMutationRow.mutationId).Nodup
    rw [samePending, List.map_append, List.nodup_append]
    refine ⟨inStep.distinct, List.nodup_singleton _, ?_⟩
    intro used member new isNew
    obtain ⟨other, otherMember, rfl⟩ := List.mem_map.mp member
    rw [List.mem_singleton.mp isNew]
    exact free other otherMember
  · intro other member created isCreate
    rcases List.mem_append.mp member with old | new
    · rw [samePending] at old
      exact Or.inl ⟨other, old, isCreate⟩
    · rw [List.mem_singleton.mp new] at isCreate
      exact Or.inr (creates created isCreate)
  · intro other member lands
    exact ⟨other, List.mem_append_left _ (by rwa [samePending]), rfl, moved other lands⟩
  · intro agrees
    rcases written agrees with same | ⟨entity, lands⟩
    · exact Or.inr (Or.inl (writes.agrees same agrees))
    · exact Or.inr (Or.inr ⟨row, List.mem_append_right _ (List.mem_singleton_self row), entity,
        moved row lands⟩)

/-- A write under one id. -/
theorem Device.writesAt_insert (device : Device) (id : String) (row : LocalTransaction) :
    device.WritesAt id { device with transactions := device.transactions.insert id row } :=
  ⟨rfl, rfl, rfl, fun _ different => AList.lookup_insert_ne different,
    fun _ => by rw [AList.lookup_insert]; rfl⟩

/-- A mutation that is queued for the first time is undecided. -/
theorem Lands.new {row : PendingMutationRow} (isTransaction : row.entityType = "transaction")
    (fits : Fits bookId server row) (sendable : row.operation ≠ "delete" → row.Sendable)
    (unanswered : Unanswered bookId server device row.mutationId) :
    Lands bookId server device row :=
  ⟨isTransaction, fits, sendable, fun receipt found => by
    rw [unanswered] at found
    cases found⟩

/-- What the device has as it is stored goes with a mutation of its version. -/
theorem Agrees.fits {row : PendingMutationRow} {known : LocalTransaction}
    (agrees : Agrees bookId server device row.entityId)
    (found : device.transactions.lookup row.entityId = some known)
    (operation : row.operation = "update" ∨ row.operation = "delete")
    (base : row.baseVersion = known.version) : Fits bookId server row := by
  have stored : StoredIn server bookId row.entityId := by
    by_contra missing
    rw [agrees.absent missing] at found
    cases found
  obtain ⟨record, lookup, inBook⟩ := stored
  obtain ⟨other, same, mirrors⟩ := agrees.mirrored record lookup inBook
  rw [found] at same
  cases same
  have current := base.trans mirrors.version
  exact Or.inr ⟨record, lookup, inBook, operation.imp (fun isUpdate => ⟨isUpdate, current⟩)
    fun isDelete => ⟨isDelete, Or.inr current⟩⟩

theorem InStep.afterDelete (inStep : InStep bookId server device) {txId mutationId : String}
    (unanswered : Unanswered bookId server device mutationId)
    (deleted : device.softDeleteTransaction txId mutationId = some after) :
    InStep bookId server after := by
  unfold Device.softDeleteTransaction at deleted
  split at deleted
  · cases deleted
  · rename_i known found
    refine inStep.afterQueue (device.writesAt_insert txId _) rfl deleted ?_ fun agrees => ?_
    · rintro other ⟨-, -, isCreate⟩
      simp at isCreate
    · exact Or.inr ⟨rfl, .new rfl (agrees.fits found (Or.inr rfl) rfl)
        (fun notDelete => absurd rfl notDelete) unanswered⟩

/-- An account that is written and queued concerns no transaction. -/
theorem InStep.afterAccount (inStep : InStep bookId server device)
    {accounts : KeyMap String LocalAccount} {mutationId entityId operation : String}
    {account : LocalAccount}
    (queued : ({ device with accounts := accounts } : Device).queueAccountMutation mutationId
      entityId operation account = some after) : InStep bookId server after := by
  have writes : device.WritesAt "" { device with accounts := accounts } :=
    ⟨rfl, rfl, rfl, fun _ _ => rfl, fun known => known⟩
  refine inStep.afterQueue writes rfl queued ?_ fun _ => Or.inl rfl
  rintro other ⟨isTransaction, -⟩
  simp at isTransaction

theorem InStep.afterUpdateAccount (inStep : InStep bookId server device)
    {entityId mutationId : String} {change : LocalAccount → LocalAccount}
    (updated : device.updateLocalAccount entityId mutationId change = some after) :
    InStep bookId server after := by
  unfold Device.updateLocalAccount at updated
  split at updated
  · cases updated
  · exact inStep.afterAccount updated

theorem InStep.afterResolve (inStep : InStep bookId server device) {conflictId mutationId : String}
    {keepLocal : Bool} (resolved : device.resolveConflict conflictId keepLocal mutationId =
      some after) : InStep bookId server after := by
  unfold Device.resolveConflict at resolved
  split at resolved
  · cases resolved
    exact inStep
  · rename_i conflict found
    dsimp only at resolved
    have writes : device.WritesAt "" { device with
        conflicts := device.conflicts.filter fun other => other.id ≠ conflict.id } :=
      ⟨rfl, rfl, rfl, fun _ _ => rfl, fun known => known⟩
    split at resolved
    · split at resolved
      · refine inStep.afterQueue writes rfl resolved ?_ fun _ => Or.inl rfl
        rintro other ⟨-, -, isCreate⟩
        dsimp only at isCreate
        split at isCreate
        · exact absurd isCreate (by decide)
        · exact absurd isCreate (by decide)
      · cases resolved
    · cases resolved
      exact inStep.ofQueue ⟨rfl, rfl, rfl, rfl, rfl⟩ inStep.distinct
        (fun row member id isCreate => ⟨row, member, isCreate⟩) fun row member lands =>
          ⟨row, member, rfl, lands.isTransaction, lands.fits, lands.sendable, lands.undecided⟩

/-- An edit that a pending create takes in. -/
theorem InStep.afterCoalesce (inStep : InStep bookId server device) {tx : LedgerTransaction}
    (dated : (timestampOf tx.occurredAt).isSome = true) {known written : LocalTransaction}
    (found : device.transactions.lookup tx.id = some known) {pendingCreate : PendingMutationRow}
    (member : pendingCreate ∈ device.pending) (isCreate : pendingCreate.Creates tx.id) :
    InStep bookId server
      { device with
        transactions := device.transactions.insert tx.id written
        pending := device.pending.map fun row =>
          if row.mutationId = pendingCreate.mutationId then
            { row with
              payload := tx.updatePayload
              entriesFit := tx.updatePayload_fits }
          else row } := by
  refine inStep.ofWrite ⟨rfl, rfl, rfl, (device.writesAt_insert tx.id written).others,
    (device.writesAt_insert tx.id written).known⟩ ?_ ?_ ?_ ?_
  · refine Eq.subst (motive := List.Nodup) (Eq.symm ?_) inStep.distinct
    rw [List.map_map]
    refine List.map_congr_left fun row _ => ?_
    rw [Function.comp_apply]
    split <;> rfl
  · intro row rowMember other creates
    obtain ⟨old, oldMember, rfl⟩ := List.mem_map.mp rowMember
    refine Or.inl ⟨old, oldMember, ?_⟩
    split at creates
    · exact creates
    · exact creates
  · intro row rowMember lands
    refine ⟨_, List.mem_map.mpr ⟨row, rowMember, rfl⟩, ?_⟩
    split
    · exact ⟨rfl, lands.isTransaction, lands.fits,
        fun _ => ⟨tx, tx.updatePayload_carries, dated⟩, lands.undecided⟩
    · exact ⟨rfl, lands.isTransaction, lands.fits, lands.sendable, lands.undecided⟩
  · intro agrees
    rcases inStep.creates pendingCreate member tx.id isCreate with ahead | missing
    · exact Or.inl ahead
    · rw [agrees.absent missing] at found
      cases found

theorem InStep.afterUpdate (inStep : InStep bookId server device) {tx : LedgerTransaction}
    {baseVersion : Int} {mutationId : String}
    (unanswered : Unanswered bookId server device mutationId)
    (dated : (timestampOf tx.occurredAt).isSome = true)
    (updated : device.updateDomainTransaction tx baseVersion mutationId = some after) :
    InStep bookId server after := by
  unfold Device.updateDomainTransaction at updated
  split at updated
  · cases updated
  · rename_i current found
    split at updated
    · cases updated
    · rename_i accepted
      have base : baseVersion = current.version :=
        (not_not.mp (not_or.mp accepted).2).symm
      dsimp only at updated
      split at updated
      · refine inStep.afterQueue (device.writesAt_insert tx.id _) rfl updated ?_ fun agrees => ?_
        · rintro other ⟨-, -, isCreate⟩
          simp at isCreate
        · exact Or.inr ⟨rfl, .new rfl (agrees.fits found (Or.inl rfl) base)
            (fun _ => ⟨tx, tx.updatePayload_carries, dated⟩) unanswered⟩
      · rename_i pendingCreate only
        cases updated
        have among : pendingCreate ∈ device.pending.filter fun row => row.Creates tx.id := by
          rw [only]
          exact List.mem_singleton_self pendingCreate
        obtain ⟨member, isCreate⟩ := List.mem_filter.mp among
        exact inStep.afterCoalesce dated found member (of_decide_eq_true isCreate)
      · cases updated

variable [Rfc3339]

/-- What is stored and not ahead, the device has. -/
theorem InStep.notStored (inStep : InStep bookId server device) (log : server.LogOf bookId)
    (missing : device.transactions.lookup id = none) :
    Ahead bookId server device id ∨ ¬StoredIn server bookId id := by
  by_cases stored : StoredIn server bookId id
  · obtain ⟨record, found, inBook⟩ := stored
    obtain ⟨row, isLast, -⟩ := log.told id record found inBook
    have member := List.mem_of_getLast? isLast
    refine Or.inl ⟨row, member, ?_⟩
    by_contra behind
    have known := inStep.seen id row member (not_lt.mp behind)
    rw [missing] at known
    cases known
  · exact Or.inr stored

theorem InStep.afterSave (inStep : InStep bookId server device) (log : server.LogOf bookId)
    {tx : LedgerTransaction} {mutationId : String} {fingerprint : Option String}
    (unanswered : Unanswered bookId server device mutationId)
    (dated : (timestampOf tx.occurredAt).isSome = true)
    (saved : device.saveDomainTransaction tx mutationId fingerprint = some after) :
    InStep bookId server after := by
  unfold Device.saveDomainTransaction at saved
  split at saved
  · cases saved
  · rename_i unknown
    have missing : device.transactions.lookup tx.id = none := by simpa using unknown
    have notStored := inStep.notStored log missing
    refine inStep.afterQueue (device.writesAt_insert tx.id _) rfl saved ?_ fun agrees => ?_
    · rintro other ⟨-, rfl, -⟩
      exact notStored
    · have absent : ¬StoredIn server bookId tx.id := by
        rintro ⟨record, found, inBook⟩
        obtain ⟨row, known, -⟩ := agrees.mirrored record found inBook
        rw [missing] at known
        cases known
      exact Or.inr ⟨rfl, .new rfl (Or.inl ⟨rfl, absent⟩)
        (fun _ => ⟨tx, tx.createPayload_carries fingerprint, dated⟩) unanswered⟩

/-- What the user of a device does keeps it in step. -/
theorem InStep.afterAct (inStep : InStep bookId server device) (log : server.LogOf bookId)
    {action : DeviceAction} (unanswered : Unanswered bookId server device action.mutationId)
    (dated : action.Dated) (acted : device.act action = some after) :
    InStep bookId server after := by
  cases action with
  | save tx mutationId fingerprint => exact inStep.afterSave log unanswered dated acted
  | update tx baseVersion mutationId => exact inStep.afterUpdate unanswered dated acted
  | delete txId mutationId => exact inStep.afterDelete unanswered acted
  | createAccount entityId account mutationId =>
    replace acted : device.createLocalAccount entityId account mutationId = some after := acted
    unfold Device.createLocalAccount at acted
    split at acted
    · cases acted
    · exact inStep.afterAccount acted
  | renameAccount entityId name mutationId => exact inStep.afterUpdateAccount acted
  | updateCategory entityId name parentAccountId mutationId =>
    exact inStep.afterUpdateAccount acted
  | resolve conflictId keepLocal mutationId => exact inStep.afterResolve acted

end Actions

end Ledgerly
