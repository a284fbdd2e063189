/-
This file states what a device and the server never lose sight of while the device syncs a
book.

For every transaction id one of three things is the case: the log has a row of the book that
the device has not pulled, or the local row is the stored record, or the queue holds a
mutation that the server will take over the record it has. Whatever happens, a transaction
only moves between the three; and once the queue is empty and the log is read to its end, the
second one is all that is left.
-/

import Ledgerly.SentMutation
import Ledgerly.SyncWorld

namespace Ledgerly

/-- A local entry with the amount its text spells. -/
def LocalEntry.read (entry : LocalEntry) : String × Option Int × String :=
  (entry.accountId, decimalInt entry.amountMinor, entry.currencyCode)

/-- A stored entry as a device with a book of its own sees it. -/
def StoredEntry.seenFrom (fromBook toBook : String) (entry : StoredEntry) :
    String × Option Int × String :=
  (rewriteAccountId entry.accountId fromBook toBook, some entry.amountMinor, entry.currency)

/-- The row is the local copy of the record; `source` is not copied. -/
structure LocalTransaction.Mirrors (row : LocalTransaction) (fromBook toBook : String)
    (record : TxRecord) : Prop where
  version : row.version = record.version
  deleted : row.deleted = record.deleted
  occurredAt : record.deleted = false → row.occurredAt = dateColumn (record.occurredAt.val / 1000)
  description : record.deleted = false → row.description = record.description
  entries : record.deleted = false → row.entries.map LocalEntry.read =
    record.entries.map (StoredEntry.seenFrom fromBook toBook)

/-- A receipt after which the device drops the mutation from its queue. -/
def MutationReceipt.GivesUp (receipt : MutationReceipt) : Prop :=
  receipt.status = "applied" ∨ receipt.resultCode ∈ conflictCodes

section Invariant

variable (bookId : String) (server : MemoryStore) (device : Device)

/-- The log has a row of the transaction beyond the cursor of the device. -/
def Ahead (id : String) : Prop :=
  ∃ change ∈ server.rowsIn bookId id, device.cursor < change.sequence

/-- The device has a transaction exactly if it is stored in the book, and then as it is. -/
structure Agrees (id : String) : Prop where
  mirrored : ∀ record, server.transactions.lookup id = some record → record.bookId = bookId →
    ∃ row, device.transactions.lookup id = some row ∧ row.Mirrors bookId device.bookId record
  absent : ¬StoredIn server bookId id → device.transactions.lookup id = none

/-- The mutation goes with what is stored: a create with nothing, an update or a delete with a
record of the book under its base version. -/
def Fits (row : PendingMutationRow) : Prop :=
  row.operation = "create" ∧ ¬StoredIn server bookId row.entityId ∨
  ∃ record, server.transactions.lookup row.entityId = some record ∧ record.bookId = bookId ∧
    (row.operation = "update" ∧ row.baseVersion = record.version ∨
      row.operation = "delete" ∧ (row.baseVersion = 0 ∨ row.baseVersion = record.version))

/-- A pending mutation the server will take, or has not been able to decide on. -/
structure Lands (row : PendingMutationRow) : Prop where
  isTransaction : row.entityType = "transaction"
  fits : Fits bookId server row
  sendable : row.operation ≠ "delete" → row.Sendable
  undecided : ∀ receipt,
    server.mutations.lookup (bookId, device.deviceId, row.mutationId) = some receipt →
      ¬receipt.GivesUp

/-- What the device has of a transaction is right, or will be put right by the log or by the
queue. -/
def Covered (id : String) : Prop :=
  Ahead bookId server device id ∨ Agrees bookId server device id ∨
    ∃ row ∈ device.pending, row.entityId = id ∧ Lands bookId server device row

/-- What holds between the server and a device that syncs the book. -/
structure InStep : Prop where
  reached : device.cursor = 0 ∨
    ∃ change ∈ server.changes, change.bookId = bookId ∧ change.sequence = device.cursor
  seen : ∀ id, ∀ change ∈ server.rowsIn bookId id, change.sequence ≤ device.cursor →
    (device.transactions.lookup id).isSome = true
  distinct : (device.pending.map PendingMutationRow.mutationId).Nodup
  creates : ∀ row ∈ device.pending, ∀ id, row.Creates id →
    Ahead bookId server device id ∨ ¬StoredIn server bookId id
  covered : ∀ id, Covered bookId server device id

end Invariant

/-! ### A write of the device -/

/-- Of the transactions of a device at most the one under the id is written, and none is
lost. -/
structure Device.WritesAt (id : String) (before after : Device) : Prop where
  deviceId : after.deviceId = before.deviceId
  bookId : after.bookId = before.bookId
  cursor : after.cursor = before.cursor
  others : ∀ other, other ≠ id →
    after.transactions.lookup other = before.transactions.lookup other
  known : (before.transactions.lookup id).isSome = true →
    (after.transactions.lookup id).isSome = true

section Write

variable {bookId : String} {server : MemoryStore} {device after : Device} {id : String}

theorem Device.WritesAt.ahead (writes : device.WritesAt id after) (other : String) :
    Ahead bookId server after other ↔ Ahead bookId server device other := by
  unfold Ahead
  rw [writes.cursor]

theorem Device.WritesAt.agrees (writes : device.WritesAt id after) {other : String}
    (same : after.transactions.lookup other = device.transactions.lookup other)
    (agrees : Agrees bookId server device other) : Agrees bookId server after other := by
  obtain ⟨mirrored, absent⟩ := agrees
  refine ⟨?_, ?_⟩
  · rw [same, writes.bookId]
    exact mirrored
  · rw [same]
    exact absent

/-- A write of the device keeps it in step if every mutation that lands has one that lands in
its place, no create is new to a transaction the device knows to be stored, and the
transaction that is written stays covered. -/
theorem InStep.ofWrite (inStep : InStep bookId server device) (writes : device.WritesAt id after)
    (distinct : (after.pending.map PendingMutationRow.mutationId).Nodup)
    (creates : ∀ row ∈ after.pending, ∀ other, row.Creates other →
      (∃ old ∈ device.pending, old.Creates other) ∨
        Ahead bookId server device other ∨ ¬StoredIn server bookId other)
    (lands : ∀ row ∈ device.pending, Lands bookId server device row →
      ∃ new ∈ after.pending, new.entityId = row.entityId ∧ Lands bookId server after new)
    (written : Agrees bookId server device id → Covered bookId server after id) :
    InStep bookId server after := by
  refine ⟨?_, fun other change member atMost => ?_, distinct, fun row member other isCreate => ?_,
    fun other => ?_⟩
  · rw [writes.cursor]
    exact inStep.reached
  · rw [writes.cursor] at atMost
    have was := inStep.seen other change member atMost
    by_cases same : other = id
    · subst same
      exact writes.known was
    · rwa [writes.others other same]
  · rw [writes.ahead]
    rcases creates row member other isCreate with ⟨old, oldMember, wasCreate⟩ | allowed
    · exact inStep.creates old oldMember other wasCreate
    · exact allowed
  · rcases inStep.covered other with ahead | agrees | ⟨row, member, rfl, landing⟩
    · exact Or.inl ((writes.ahead other).mpr ahead)
    · by_cases same : other = id
      · subst same
        exact written agrees
      · exact Or.inr (Or.inl (writes.agrees (writes.others other same) agrees))
    · obtain ⟨new, newMember, entity, landing⟩ := lands row member landing
      exact Or.inr (Or.inr ⟨new, newMember, entity, landing⟩)

end Write

/-! ### A step of the server -/

section Server

variable [Rfc3339] {bookId : String} {server : MemoryStore} {device : Device} {step : PushStep}

/-- The cursor is not beyond the log. -/
theorem InStep.cursor_le (inStep : InStep bookId server device)
    (log : server.LogOf bookId) : device.cursor ≤ server.changes.length := by
  rcases inStep.reached with zero | ⟨change, member, -, same⟩
  · omega
  · have := (log.below change member).2
    omega

/-- A row that is written lies beyond the cursor. -/
theorem Writes.ahead {record : TxRecord} {row : ChangeRecord}
    (writes : Writes server step record row) (inBook : step.bookId = bookId)
    (behind : device.cursor ≤ server.changes.length) :
    Ahead bookId (pushStep server step) device step.mutation.entityId := by
  refine ⟨row, ?_, by rw [writes.next]; omega⟩
  rw [rowsIn_concat bookId writes.appended, if_pos ⟨writes.rowBook.trans inBook, writes.isRow⟩]
  exact List.mem_append_right _ (List.mem_singleton_self row)

/-- A row of the log stays in it. -/
theorem mem_rowsIn_pushStep {id : String} {change : ChangeRecord}
    (member : change ∈ server.rowsIn bookId id) :
    change ∈ (pushStep server step).rowsIn bookId id := by
  rcases pushStep_tables server step with ⟨-, rows⟩ | ⟨record, row, writes⟩
  · rwa [rows]
  · rw [rowsIn_concat bookId writes.appended]
    exact List.mem_append_left _ member

theorem Ahead.afterStep {id : String} (ahead : Ahead bookId server device id) :
    Ahead bookId (pushStep server step) device id := by
  obtain ⟨change, member, beyond⟩ := ahead
  exact ⟨change, mem_rowsIn_pushStep member, beyond⟩

/-- A step changes the record of a transaction of the book together with the log of the book,
or not at all. -/
theorem record_pushStep (keeps : ¬TakesFrom bookId server step)
    (behind : device.cursor ≤ server.changes.length) (id : String) :
    Ahead bookId (pushStep server step) device id ∨
      ∀ record, record.bookId = bookId →
        ((pushStep server step).transactions.lookup id = some record ↔
          server.transactions.lookup id = some record) := by
  rcases pushStep_tables server step with ⟨same, -⟩ | ⟨written, row, writes⟩
  · exact Or.inr fun _ _ => by rw [same]
  · by_cases isEntity : id = step.mutation.entityId
    · subst isEntity
      by_cases inBook : step.bookId = bookId
      · exact Or.inl (writes.ahead inBook behind)
      · refine Or.inr fun record ofBook => ⟨fun found => ?_, fun found => ?_⟩
        · rw [writes.wrote, AList.lookup_insert] at found
          cases found
          exact absurd (writes.recordBook.symm.trans ofBook) inBook
        · rcases writes.owner record found with owned | taken
          · exact absurd (owned.symm.trans ofBook) inBook
          · exact absurd ⟨inBook, taken, record, found, ofBook⟩ keeps
    · exact Or.inr fun _ _ => by rw [writes.wrote, AList.lookup_insert_ne isEntity]

omit [Rfc3339] in
theorem storedIn_congr {after : MemoryStore} {id : String}
    (same : ∀ record, record.bookId = bookId →
      (after.transactions.lookup id = some record ↔ server.transactions.lookup id = some record)) :
    StoredIn after bookId id ↔ StoredIn server bookId id := by
  constructor
  · rintro ⟨record, found, inBook⟩
    exact ⟨record, (same record inBook).mp found, inBook⟩
  · rintro ⟨record, found, inBook⟩
    exact ⟨record, (same record inBook).mpr found, inBook⟩

omit [Rfc3339] in
theorem Agrees.congr {after : MemoryStore} {id : String} (agrees : Agrees bookId server device id)
    (same : ∀ record, record.bookId = bookId →
      (after.transactions.lookup id = some record ↔ server.transactions.lookup id = some record)) :
    Agrees bookId after device id :=
  ⟨fun record found inBook => agrees.mirrored record ((same record inBook).mp found) inBook,
    fun missing => agrees.absent fun stored => missing ((storedIn_congr same).mpr stored)⟩

omit [Rfc3339] in
theorem Fits.congr {after : MemoryStore} {row : PendingMutationRow}
    (fits : Fits bookId server row)
    (same : ∀ record, record.bookId = bookId →
      (after.transactions.lookup row.entityId = some record ↔
        server.transactions.lookup row.entityId = some record)) : Fits bookId after row := by
  rcases fits with ⟨isCreate, missing⟩ | ⟨record, found, inBook, current⟩
  · exact Or.inl ⟨isCreate, fun stored => missing ((storedIn_congr same).mp stored)⟩
  · exact Or.inr ⟨record, (same record inBook).mpr found, inBook, current⟩

/-- A benign step keeps the device in step, if every pending mutation that lands stays
undecided or gets its row into the log. -/
theorem InStep.afterStep (inStep : InStep bookId server device) (log : server.LogOf bookId)
    (keeps : ¬TakesFrom bookId server step)
    (undecided : ∀ row ∈ device.pending, Lands bookId server device row →
      Ahead bookId (pushStep server step) device row.entityId ∨
        ∀ receipt, (pushStep server step).mutations.lookup
          (bookId, device.deviceId, row.mutationId) = some receipt → ¬receipt.GivesUp) :
    InStep bookId (pushStep server step) device := by
  have behind := inStep.cursor_le log
  refine ⟨?_, ?_, inStep.distinct, ?_, ?_⟩
  · refine inStep.reached.imp_right fun ⟨change, member, inBook, same⟩ =>
      ⟨change, ?_, inBook, same⟩
    obtain ⟨rows, -, appended⟩ := changes_pushStep server step
    rw [appended]
    exact List.mem_append_left _ member
  · intro id change member atMost
    rcases pushStep_tables server step with ⟨-, rows⟩ | ⟨record, row, writes⟩
    · rw [rows] at member
      exact inStep.seen id change member atMost
    · rw [rowsIn_concat bookId writes.appended] at member
      rcases List.mem_append.mp member with old | new
      · exact inStep.seen id change old atMost
      · split at new
        · rw [List.mem_singleton.mp new, writes.next] at atMost
          omega
        · exact absurd new List.not_mem_nil
  · intro row member id isCreate
    rcases inStep.creates row member id isCreate with ahead | missing
    · exact Or.inl ahead.afterStep
    · exact (record_pushStep keeps behind id).imp_right fun same stored =>
        missing ((storedIn_congr same).mp stored)
  · intro id
    rcases record_pushStep keeps behind id with ahead | same
    · exact Or.inl ahead
    · rcases inStep.covered id with ahead | agrees | ⟨row, member, rfl, lands⟩
      · exact Or.inl ahead.afterStep
      · exact Or.inr (Or.inl (agrees.congr same))
      · rcases undecided row member lands with ahead | open'
        · exact Or.inl ahead
        · exact Or.inr (Or.inr ⟨row, member, rfl, lands.isTransaction, lands.fits.congr same,
            lands.sendable, open'⟩)

end Server

/-! ### A pending mutation that the server processes -/

section Own

variable [Rfc3339] {bookId deviceId localBook : String} {server : MemoryStore} {device : Device}
  {row : PendingMutationRow} {stamp : Stamp} {step : PushStep}
  (made : row.step deviceId localBook bookId stamp = some step)
  (isTransaction : row.entityType = "transaction")
  (new : server.mutations.lookup step.key = none)
  (anew : step.mutation.operation = "create" →
    (∀ found, server.transactions.lookup step.mutation.entityId = some found →
      found.bookId = bookId) ∧ server.duplicateOf bookId step.mutation = none)

include made isTransaction

omit [Rfc3339] in
/-- A delete that fits is accepted. -/
theorem Fits.acceptsDelete (fits : Fits bookId server row) (isDelete : row.operation = "delete") :
    ∃ existing, AcceptsDelete server step.bookId step.mutation existing := by
  obtain ⟨book, -, -, -, type, operation, base, entity⟩ := PendingMutationRow.step_fields made
  rcases fits with ⟨isCreate, -⟩ | ⟨record, found, inBook, ⟨isUpdate, -⟩ | ⟨-, current⟩⟩
  · rw [isDelete] at isCreate
    exact absurd isCreate (by decide)
  · rw [isDelete] at isUpdate
    exact absurd isUpdate (by decide)
  · exact ⟨record, type.trans isTransaction, operation.trans isDelete,
      by rw [entity isTransaction, found], inBook.trans book.symm, by rwa [base]⟩

include anew

/-- A create or update that fits and passes the checks is accepted, if the book has its
accounts. -/
theorem Fits.acceptsUpsert (fits : Fits bookId server row) (notDelete : row.operation ≠ "delete")
    {requestedOccurredAt : Option Timestamp} {drafts : List EntryDraft}
    (checked : checkedDrafts step.mutation = .ok (requestedOccurredAt, drafts))
    (balanced : validateBalanced drafts = .ok ())
    (accounts : ∀ draft ∈ drafts, accountInBook server.accounts bookId draft.accountId = true) :
    AcceptsUpsert server step.bookId step.mutation
      (server.transactions.lookup row.entityId) requestedOccurredAt drafts := by
  obtain ⟨book, -, -, -, type, operation, base, entity⟩ := PendingMutationRow.step_fields made
  obtain ⟨occurredAt, entries, -⟩ := checkedDrafts_eq_ok.mp checked
  have isWrite : row.operation = "create" ∨ row.operation = "update" := by
    rcases fits with ⟨isCreate, -⟩ | ⟨-, -, -, ⟨isUpdate, -⟩ | ⟨isDelete, -⟩⟩
    · exact Or.inl isCreate
    · exact Or.inr isUpdate
    · exact absurd isDelete notDelete
  refine ⟨type.trans isTransaction, by rwa [operation], occurredAt, entries, balanced,
    by rwa [book], by rw [entity isTransaction], ?_, ?_⟩
  · intro transaction stored
    rcases fits with ⟨isCreate, missing⟩ | ⟨record, found, -, ⟨isUpdate, current⟩ | ⟨isDelete, -⟩⟩
    · have ours := (anew (operation.trans isCreate)).1 transaction
        (by rw [entity isTransaction, stored])
      exact absurd ⟨transaction, stored, ours⟩ missing
    · rw [found] at stored
      cases stored
      exact ⟨operation.trans isUpdate, base.trans current⟩
    · exact absurd isDelete notDelete
  · intro missing
    rcases fits with ⟨isCreate, -⟩ | ⟨record, found, -, -⟩
    · rw [book]
      exact (anew (operation.trans isCreate)).2
    · rw [found] at missing
      cases missing

include new

omit isTransaction in
/-- A new mutation of the device that lands is written, or its receipt leaves it in the
queue. -/
theorem Lands.processed [ReadsDates] (lands : Lands bookId server device row) :
    (∃ record change, Writes server step record change) ∨
      ¬(processMutationMem server step.bookId step.mutation step.stamp).2.stored.GivesUp := by
  have isTransaction := lands.isTransaction
  have stays : ∀ code, code ∉ conflictCodes → ∀ version,
      ¬(rejectedReceipt step.mutation code version).stored.GivesUp := by
    rintro code kept version (applied | conflict)
    · exact absurd applied (by simp [rejectedReceipt, MutationReceiptDto.stored])
    · exact kept conflict
  by_cases isDelete : row.operation = "delete"
  · obtain ⟨existing, accepts⟩ := lands.fits.acceptsDelete made isTransaction isDelete
    exact Or.inl ⟨_, writes_of_acceptsDelete new accepts⟩
  · have isWrite : row.operation = "create" ∨ row.operation = "update" := by
      rcases lands.fits with ⟨isCreate, -⟩ | ⟨-, -, -, ⟨isUpdate, -⟩ | ⟨deleted, -⟩⟩
      · exact Or.inl isCreate
      · exact Or.inr isUpdate
      · exact absurd deleted isDelete
    obtain ⟨tx, carries, dated⟩ := lands.sendable isDelete
    obtain ⟨timestamp, dated⟩ := Option.isSome_iff_exists.mp dated
    obtain ⟨book, -, -, -, type, operation, -, -⟩ := PendingMutationRow.step_fields made
    have type' : step.mutation.entityType = "transaction" := type.trans isTransaction
    have notDelete : step.mutation.operation ≠ "delete" := by rwa [operation]
    rcases PendingMutationRow.checkedDrafts_step made isTransaction isWrite carries dated with
      ⟨checked, balanced⟩ | invalid
    · by_cases accounts : ∀ draft ∈ tx.entries.map (DomainEntry.sent localBook bookId),
          accountInBook server.accounts bookId draft.accountId = true
      · exact Or.inl ⟨_, writes_of_acceptsUpsert new (lands.fits.acceptsUpsert made isTransaction
          anew isDelete checked balanced accounts)⟩
      · right
        rw [processMutationMem, if_neg (notAccount_of_isTransaction type'),
          if_neg (not_not.mpr type'), if_neg notDelete, checked]
        simp only [processUpsertMem]
        rw [if_neg (by rw [List.all_eq_true, book]; exact accounts)]
        exact stays _ (by decide) _
    · right
      rw [processMutationMem, if_neg (notAccount_of_isTransaction type'),
        if_neg (not_not.mpr type'), if_neg notDelete, invalid]
      exact stays _ (by decide) _

end Own

/-! ### Runs of the server -/

section Runs

variable [Rfc3339] {bookId : String} {server : MemoryStore} {device : Device}

/-- A step of another device keeps this one in step. -/
theorem InStep.afterOther (inStep : InStep bookId server device) (log : server.LogOf bookId)
    {step : PushStep} (notOwn : ¬step.Own bookId device.deviceId)
    (benign : Benign bookId device.deviceId server step) :
    InStep bookId (pushStep server step) device := by
  refine inStep.afterStep log benign.keepsBook fun row _ lands => Or.inr fun receipt found => ?_
  have otherKey : (bookId, device.deviceId, row.mutationId) ≠ step.key := by
    intro same
    obtain ⟨book, rest⟩ := Prod.mk.inj same
    exact notOwn ⟨book.symm, (Prod.mk.inj rest).1.symm⟩
  rw [lookup_mutations_of_ne otherKey] at found
  exact lands.undecided receipt found

/-- The server processes a mutation of the queue. -/
theorem InStep.afterOwn [ReadsDates] (inStep : InStep bookId server device) (log : server.LogOf bookId)
    {row : PendingMutationRow} (member : row ∈ device.pending) {stamp : Stamp} {step : PushStep}
    (made : row.step device.deviceId device.bookId bookId stamp = some step)
    (benign : Benign bookId device.deviceId server step) :
    InStep bookId (pushStep server step) device := by
  have key := PendingMutationRow.step_key made
  refine inStep.afterStep log benign.keepsBook fun other otherMember lands => ?_
  by_cases same : other.mutationId = row.mutationId
  · have isRow : other = row := List.inj_on_of_nodup_map inStep.distinct otherMember member same
    subst isRow
    rw [← key]
    cases stored : server.mutations.lookup step.key with
    | some receipt =>
      rw [pushStep_replayed stored]
      refine Or.inr fun found lookup => lands.undecided found ?_
      rw [← key, lookup]
    | none =>
      obtain ⟨book, deviceId, -, -, type, -⟩ := PendingMutationRow.step_fields made
      have anew := benign.ownCreate ⟨book, deviceId⟩ stored (type.trans lands.isTransaction)
      rcases lands.processed made stored anew with ⟨record, change, writes⟩ | stays
      · obtain ⟨book, -, -, -, -, -, -, entity⟩ := PendingMutationRow.step_fields made
        left
        rw [← entity lands.isTransaction]
        exact writes.ahead book (inStep.cursor_le log)
      · refine Or.inr fun found lookup => ?_
        rw [lookup_mutations_self stored] at lookup
        cases lookup
        exact stays
  · refine Or.inr fun receipt found => ?_
    rw [lookup_mutations_of_ne] at found
    · exact lands.undecided receipt found
    · rw [key]
      intro equal
      exact same (Prod.mk.inj (Prod.mk.inj equal).2).2

/-- The server and its log keep in step with the device over a run of other devices. -/
theorem InStep.afterOthers (inStep : InStep bookId server device) (log : server.LogOf bookId)
    {steps : List PushStep} (notOwn : ∀ step ∈ steps, ¬step.Own bookId device.deviceId)
    (guarded : Machine.Guarded pushStep (Benign bookId device.deviceId) server steps) :
    InStep bookId (Machine.run pushStep server steps) device ∧
      (Machine.run pushStep server steps).LogOf bookId := by
  induction steps generalizing server with
  | nil => exact ⟨inStep, log⟩
  | cons step rest inductionHypothesis =>
    obtain ⟨benign, later⟩ := guarded
    exact inductionHypothesis (inStep.afterOther log (notOwn step List.mem_cons_self) benign)
      (pushStep_logOf log benign.freshCommit benign.keepsBook)
      (fun other member => notOwn other (List.mem_cons_of_mem _ member)) later

/-- Mutations of the queue among those of other devices. -/
theorem InStep.afterInterleaved [ReadsDates] (inStep : InStep bookId server device)
    (log : server.LogOf bookId) {others : Nat → List PushStep}
    (notOwn : ∀ position, ∀ step ∈ others position, ¬step.Own bookId device.deviceId)
    {steps : List PushStep}
    (own : ∀ step ∈ steps, ∃ row ∈ device.pending, ∃ stamp,
      row.step device.deviceId device.bookId bookId stamp = some step) (position : Nat)
    (guarded : Machine.Guarded pushStep (Benign bookId device.deviceId) server
      (interleaved others position steps)) :
    InStep bookId (Machine.run pushStep server (interleaved others position steps)) device ∧
      (Machine.run pushStep server (interleaved others position steps)).LogOf bookId := by
  induction steps generalizing server position with
  | nil => exact ⟨inStep, log⟩
  | cons step rest inductionHypothesis =>
    rw [interleaved] at guarded ⊢
    obtain ⟨before, benign, later⟩ := (Machine.guarded_append _ _ _).mp guarded
    obtain ⟨reached, reachedLog⟩ := inStep.afterOthers log (notOwn position) before
    obtain ⟨row, member, stamp, made⟩ := own step List.mem_cons_self
    rw [Machine.run_append, Machine.run_cons]
    exact inductionHypothesis (reached.afterOwn reachedLog member made benign)
      (pushStep_logOf reachedLog benign.freshCommit benign.keepsBook)
      (fun other otherMember => own other (List.mem_cons_of_mem _ otherMember)) (position + 1)
      later

end Runs

end Ledgerly
