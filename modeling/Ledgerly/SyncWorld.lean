/-
This file puts a device and the server together: what the device can do, what can happen in
what order, and which steps do no harm to a book and the device that syncs it.

The device acts and syncs one after the other, as its user makes it. The other devices are
present in the mutations that the server processes, between the events of this device and in
the middle of its syncs.
-/

import Ledgerly.BookLog
import Ledgerly.SyncService

namespace Ledgerly

/-- What the user of a device does, with the ids and versions the callers of the repository
pass on. -/
inductive DeviceAction where
  | save (tx : LedgerTransaction) (mutationId : String) (sourceEventFingerprint : Option String)
  | update (tx : LedgerTransaction) (baseVersion : Int) (mutationId : String)
  | delete (txId mutationId : String)
  | createAccount (id : String) (account : LocalAccount) (mutationId : String)
  | renameAccount (id name mutationId : String)
  | updateCategory (id name : String) (parentAccountId : Option String) (mutationId : String)
  | resolve (id : String) (keepLocal : Bool) (mutationId : String)

/-- The id a mutation that the action queues gets. -/
def DeviceAction.mutationId : DeviceAction → String
  | .save _ mutationId _ => mutationId
  | .update _ _ mutationId => mutationId
  | .delete _ mutationId => mutationId
  | .createAccount _ _ mutationId => mutationId
  | .renameAccount _ _ mutationId => mutationId
  | .updateCategory _ _ _ mutationId => mutationId
  | .resolve _ _ mutationId => mutationId

/-- The function of the repository an action calls. -/
def Device.act (device : Device) : DeviceAction → Option Device
  | .save tx mutationId fingerprint => device.saveDomainTransaction tx mutationId fingerprint
  | .update tx baseVersion mutationId => device.updateDomainTransaction tx baseVersion mutationId
  | .delete txId mutationId => device.softDeleteTransaction txId mutationId
  | .createAccount id account mutationId => device.createLocalAccount id account mutationId
  | .renameAccount id name mutationId => device.renameLocalAccount id name mutationId
  | .updateCategory id name parentAccountId mutationId =>
    device.updateLocalCategory id name parentAccountId mutationId
  | .resolve id keepLocal mutationId => device.resolveConflict id keepLocal mutationId

/-- The server and one device. -/
structure World where
  server : MemoryStore
  device : Device

/-- What happens next: the device acts or syncs, or the server processes a mutation of another
device. -/
inductive WorldEvent where
  | act (action : DeviceAction)
  | sync (around : Around)
  | other (step : PushStep)

section Step

variable [Rfc3339]

/-- The mutations the server processes during an event. -/
def World.served (world : World) : WorldEvent → List PushStep
  | .act _ => []
  | .sync around => (world.device.syncNow around world.server).served
  | .other step => [step]

/-- One event. An action that throws changes nothing. -/
def worldStep (world : World) (event : WorldEvent) : World where
  server := Machine.run pushStep world.server (world.served event)
  device :=
    match event with
    | .act action => (world.device.act action).getD world.device
    | .sync around => (world.device.syncNow around world.server).device
    | .other _ => world.device

/-! ### Steps that do no harm -/

/-- A mutation of the device, pushed to the book. -/
def PushStep.Own (bookId deviceId : String) (step : PushStep) : Prop :=
  step.bookId = bookId ∧ step.deviceId = deviceId

/-- A step under a new commit id that takes no transaction away from the book; and a new create
of the device finds no transaction of another book under its id, and none of the book that
records the same event. -/
structure Benign (bookId deviceId : String) (store : MemoryStore) (step : PushStep) : Prop where
  freshCommit : ∀ change ∈ store.changes, change.commitId ≠ step.stamp.commitId
  keepsBook : ¬TakesFrom bookId store step
  ownCreate : step.Own bookId deviceId → store.mutations.lookup step.key = none →
    step.mutation.entityType = "transaction" → step.mutation.operation = "create" →
    (∀ found, store.transactions.lookup step.mutation.entityId = some found →
      found.bookId = bookId) ∧ store.duplicateOf bookId step.mutation = none

/-- No mutation under the id has reached the server. -/
def Unanswered (bookId : String) (server : MemoryStore) (device : Device) (mutationId : String) :
    Prop :=
  server.mutations.lookup (bookId, device.deviceId, mutationId) = none

/-- The ids that `newId` gives out during a sync are new. -/
structure FreshIds (bookId : String) (world : World) (newId : Nat → Nat → String) : Prop where
  unanswered : ∀ attempt position,
    Unanswered bookId world.server world.device (newId attempt position)
  unused : ∀ attempt position, ∀ row ∈ world.device.pending,
    row.mutationId ≠ newId attempt position
  distinct : ∀ attempt position attempt' position',
    newId attempt position = newId attempt' position' → attempt = attempt' ∧ position = position'

/-- The dates of an action are dates that RFC 3339 can write. -/
def DeviceAction.Dated : DeviceAction → Prop
  | .save tx _ _ => (timestampOf tx.occurredAt).isSome = true
  | .update tx _ _ => (timestampOf tx.occurredAt).isSome = true
  | _ => True

/-- Events with ids of their own in which the server takes harmless steps only. -/
def Allowed (bookId : String) (world : World) : WorldEvent → Prop
  | .act action => Unanswered bookId world.server world.device action.mutationId ∧ action.Dated
  | .sync around => FreshIds bookId world around.newId ∧
      (∀ attempt position, ∀ step ∈ around.others attempt position,
        ¬step.Own bookId world.device.deviceId) ∧
      (∀ step ∈ around.beforePull, ¬step.Own bookId world.device.deviceId) ∧
      Machine.Guarded pushStep (Benign bookId world.device.deviceId) world.server
        (world.served (.sync around))
  | .other step => ¬step.Own bookId world.device.deviceId ∧
      Benign bookId world.device.deviceId world.server step

end Step

/-! ### The tables after one step of the server -/

section Tables

variable [Rfc3339] (store : MemoryStore) (step : PushStep)

/-- A step that writes a transaction, with its row. -/
structure Writes (record : TxRecord) (row : ChangeRecord) : Prop where
  isTransaction : step.mutation.entityType = "transaction"
  wrote : (pushStep store step).transactions =
    store.transactions.insert step.mutation.entityId record
  appended : (pushStep store step).changes = store.changes ++ [row]
  isRow : row.IsRowOf step.mutation.entityId
  rowBook : row.bookId = step.bookId
  recordBook : record.bookId = step.bookId
  next : row.sequence = (store.changes.length : Int) + 1
  owner : ∀ existing, store.transactions.lookup step.mutation.entityId = some existing →
    existing.bookId = step.bookId ∨ TakesOver store step

variable {store step}

/-- A new create or update that is accepted is written. -/
theorem writes_of_acceptsUpsert (new : store.mutations.lookup step.key = none)
    {existing : Option TxRecord} {requestedOccurredAt : Option Timestamp}
    {drafts : List EntryDraft}
    (accepts : AcceptsUpsert store step.bookId step.mutation existing requestedOccurredAt drafts) :
    ∃ row, Writes store step
      (upsertRecord step.bookId step.mutation existing requestedOccurredAt drafts step.stamp.now)
      row := by
  have processed := pushStep_processed new
  rw [processMutationMem_upsert accepts] at processed
  refine ⟨_, accepts.isTransaction, by rw [processed]; rfl, by rw [processed]; rfl, ⟨rfl, rfl⟩,
    rfl, rfl, rfl, fun found lookup => ?_⟩
  rw [accepts.found] at lookup
  subst lookup
  by_cases owned : found.bookId = step.bookId
  · exact Or.inl owned
  · exact Or.inr ⟨new, found, _, _, accepts, owned⟩

/-- A new delete that is accepted is written. -/
theorem writes_of_acceptsDelete (new : store.mutations.lookup step.key = none)
    {existing : TxRecord} (accepts : AcceptsDelete store step.bookId step.mutation existing) :
    ∃ row, Writes store step { existing with deleted := true, version := existing.version + 1 }
      row := by
  have processed := pushStep_processed new
  rw [processMutationMem_delete accepts] at processed
  refine ⟨_, accepts.isTransaction, by rw [processed]; rfl, by rw [processed]; rfl, ⟨rfl, rfl⟩,
    rfl, accepts.owned, rfl, fun found lookup => ?_⟩
  rw [accepts.found] at lookup
  cases lookup
  exact Or.inl accepts.owned

variable (store step)

/-- A step leaves the transactions and their rows alone, or writes one. -/
theorem pushStep_tables :
    ((pushStep store step).transactions = store.transactions ∧
      ∀ bookId id, (pushStep store step).rowsIn bookId id = store.rowsIn bookId id) ∨
    ∃ record row, Writes store step record row := by
  cases stored : store.mutations.lookup step.key with
  | some receipt =>
    rw [pushStep_replayed stored]
    exact Or.inl ⟨rfl, fun _ _ => rfl⟩
  | none =>
    have processed := pushStep_processed stored
    have effect := processMutationMem_effect store step.bookId step.mutation step.stamp
    generalize processMutationMem store step.bookId step.mutation step.stamp = outcome
      at processed effect
    cases effect with
    | refused | deduped =>
      rw [processed]
      exact Or.inl ⟨rfl, fun _ _ => rfl⟩
    | upserted existing requestedOccurredAt drafts accepts =>
      exact Or.inr ⟨_, writes_of_acceptsUpsert stored accepts⟩
    | deleted existing accepts => exact Or.inr ⟨_, writes_of_acceptsDelete stored accepts⟩
    | accountWritten record accepts =>
      refine Or.inl ⟨by rw [processed]; rfl, fun bookId id => ?_⟩
      have appended : (pushStep store step).changes = store.changes ++
          [accountChange store step.bookId step.mutation record step.stamp] := by
        rw [processed]
        rfl
      rw [rowsIn_concat bookId appended, if_neg, List.append_nil]
      rintro ⟨-, isTransaction, -⟩
      simp [accountChange, MemoryStore.nextChange] at isTransaction

variable {store step}

/-- A step stores no receipt but its own. -/
theorem lookup_mutations_of_ne {key : MutationKey} (other : key ≠ step.key) :
    (pushStep store step).mutations.lookup key = store.mutations.lookup key := by
  cases stored : store.mutations.lookup step.key with
  | some receipt => rw [pushStep_replayed stored]
  | none =>
    rw [pushStep_processed stored, AList.lookup_insert_ne other,
      (processMutationMem_effect _ _ _ step.stamp).mutations]

/-- The receipt of a new mutation is stored. -/
theorem lookup_mutations_self (new : store.mutations.lookup step.key = none) :
    (pushStep store step).mutations.lookup step.key =
      some (processMutationMem store step.bookId step.mutation step.stamp).2.stored := by
  rw [pushStep_processed new, AList.lookup_insert]

end Tables

end Ledgerly
