/-
This file says once what one pushed mutation can do to the memory store.

`process_mutation_mem` leaves the store alone, or writes one transaction or one
account together with one change row. `processMutationMem_effect` lists the cases
with everything the code has checked on the way, and each invariant of the store is
proved from that list, never from the branches of the handlers. The converse lemmas
`processMutationMem_upsert`, `processMutationMem_delete` and the refusals evaluate
the handler on a mutation of a given kind.
-/

import Ledgerly.MemoryStore

namespace Ledgerly

theorem notAccount_of_isTransaction {mutation : SyncMutationDto}
    (isTransaction : mutation.entityType = "transaction") : mutation.entityType ≠ "account" := by
  rw [isTransaction]
  decide

section Effects

variable [Rfc3339] (store : MemoryStore) (bookId : String) (mutation : SyncMutationDto)

/-- Everything an accepted create or update has passed. -/
structure AcceptsUpsert (existing : Option TxRecord) (requestedOccurredAt : Option Timestamp)
    (drafts : List EntryDraft) : Prop where
  isTransaction : mutation.entityType = "transaction"
  isWrite : mutation.operation = "create" ∨ mutation.operation = "update"
  occurredAt : parseOccurredAt mutation = .ok requestedOccurredAt
  entries : parseEntries mutation = .ok drafts
  balanced : validateBalanced drafts = .ok ()
  accounts : ∀ draft ∈ drafts, accountInBook store.accounts bookId draft.accountId = true
  found : store.transactions.lookup mutation.entityId = existing
  current : ∀ transaction, existing = some transaction →
    mutation.operation = "update" ∧ mutation.baseVersion = transaction.version
  original : existing = none → store.duplicateOf bookId mutation = none

/-- Everything an accepted delete has passed. -/
structure AcceptsDelete (existing : TxRecord) : Prop where
  isTransaction : mutation.entityType = "transaction"
  isDelete : mutation.operation = "delete"
  found : store.transactions.lookup mutation.entityId = some existing
  owned : existing.bookId = bookId
  current : mutation.baseVersion = 0 ∨ mutation.baseVersion = existing.version

/-- The account record an accepted account mutation writes: a new one of the book, or a
stored one of the book under the next version. -/
structure AcceptsAccount (record : AccountRecord) : Prop where
  isAccount : mutation.entityType = "account"
  owned : record.bookId = bookId
  found : store.accounts.lookup mutation.entityId = none ∧ record.id = mutation.entityId ∧
      record.version = 1 ∨
    ∃ existing, store.accounts.lookup mutation.entityId = some existing ∧
      existing.bookId = bookId ∧ record.id = existing.id ∧
      record.version = existing.version + 1

/-- What one processed mutation does to the store, with its receipt. -/
inductive Effect (stamp : Stamp) : MemoryStore × MutationReceiptDto → Prop
  | refused (resultCode : String) (entityVersion : Option Int) :
      Effect stamp (store, rejectedReceipt mutation resultCode entityVersion)
  | deduped (duplicate : TxRecord) (isTransaction : mutation.entityType = "transaction")
      (notDelete : mutation.operation ≠ "delete")
      (fresh : store.transactions.lookup mutation.entityId = none)
      (found : store.duplicateOf bookId mutation = some duplicate) :
      Effect stamp (store, dedupedReceipt mutation duplicate.version)
  | upserted (existing : Option TxRecord) (requestedOccurredAt : Option Timestamp)
      (drafts : List EntryDraft)
      (accepts : AcceptsUpsert store bookId mutation existing requestedOccurredAt drafts) :
      Effect stamp (writeUpsertMem store bookId mutation existing requestedOccurredAt drafts stamp)
  | deleted (existing : TxRecord) (accepts : AcceptsDelete store bookId mutation existing) :
      Effect stamp (writeDeleteMem store bookId mutation existing stamp)
  | accountWritten (record : AccountRecord)
      (accepts : AcceptsAccount store bookId mutation record) :
      Effect stamp (writeAccountMem store bookId mutation record stamp)

variable {store bookId mutation}

theorem processDeleteMem_effect (isTransaction : mutation.entityType = "transaction")
    (isDelete : mutation.operation = "delete") (stamp : Stamp) :
    Effect store bookId mutation stamp (processDeleteMem store bookId mutation stamp) := by
  unfold processDeleteMem
  split
  · exact .refused _ _
  · rename_i existing found
    split
    · exact .refused _ _
    · rename_i owned
      split
      · exact .refused _ _
      · rename_i current
        exact .deleted existing
          ⟨isTransaction, isDelete, found, not_not.mp owned, by tauto⟩

theorem processUpsertMem_effect {requestedOccurredAt : Option Timestamp}
    {drafts : List EntryDraft} (isTransaction : mutation.entityType = "transaction")
    (notDelete : mutation.operation ≠ "delete")
    (checked : checkedDrafts mutation = .ok (requestedOccurredAt, drafts)) (stamp : Stamp) :
    Effect store bookId mutation stamp
      (processUpsertMem store bookId mutation requestedOccurredAt drafts stamp) := by
  obtain ⟨occurredAt, entries, valid⟩ := checkedDrafts_eq_ok.mp checked
  obtain ⟨-, isDelete | ⟨isWrite, balanced⟩⟩ := validateOrReject_eq_none.mp valid
  · exact absurd isDelete notDelete
  unfold processUpsertMem
  split
  · rename_i accounts
    have accounts := List.all_eq_true.mp accounts
    split
    · rename_i existing found
      split
      · exact .refused _ _
      · rename_i current
        obtain ⟨notCreate, sameVersion⟩ := not_or.mp current
        refine .upserted (some existing) _ _ ⟨isTransaction, isWrite, occurredAt, entries,
          balanced, accounts, found, ?_, by simp⟩
        rintro transaction ⟨⟩
        exact ⟨isWrite.resolve_left notCreate, not_not.mp sameVersion⟩
    · rename_i found
      split
      · rename_i duplicate duplicated
        exact .deduped duplicate isTransaction notDelete found duplicated
      · rename_i original
        exact .upserted none _ _ ⟨isTransaction, isWrite, occurredAt, entries, balanced,
          accounts, found, by simp, fun _ => original⟩
  · exact .refused _ _

theorem processAccountMutationMem_effect (isAccount : mutation.entityType = "account")
    (stamp : Stamp) :
    Effect store bookId mutation stamp
      (processAccountMutationMem store bookId mutation stamp) := by
  unfold processAccountMutationMem
  split
  · rename_i failed
    obtain ⟨code, rfl⟩ := parseAccountPayload_error failed
    exact .refused _ _
  · split
    · rename_i existing found
      split
      · exact .refused _ _
      · split
        · exact .refused _ _
        · rename_i owned
          simp only
          split
          · exact .accountWritten _ ⟨isAccount, not_not.mp owned,
              Or.inr ⟨existing, found, not_not.mp owned, rfl, rfl⟩⟩
          · exact .refused _ _
    · rename_i found
      split
      · simp only
        split
        · exact .accountWritten _ ⟨isAccount, rfl, Or.inl ⟨found, rfl, rfl⟩⟩
        · exact .refused _ _
      · exact .refused _ _

variable (store bookId mutation) in
/-- Everything one processed mutation can do. -/
theorem processMutationMem_effect (stamp : Stamp) :
    Effect store bookId mutation stamp (processMutationMem store bookId mutation stamp) := by
  unfold processMutationMem
  split
  · rename_i isAccount
    exact processAccountMutationMem_effect isAccount stamp
  · split
    · exact .refused _ _
    · rename_i isTransaction
      have isTransaction := not_not.mp isTransaction
      split
      · rename_i isDelete
        exact processDeleteMem_effect isTransaction isDelete stamp
      · rename_i notDelete
        split
        · rename_i failed
          obtain ⟨code, rfl⟩ := checkedDrafts_error failed
          exact .refused _ _
        · rename_i checked
          exact processUpsertMem_effect isTransaction notDelete checked stamp

/-- Processing a mutation touches no stored receipt. -/
theorem Effect.mutations {stamp : Stamp} {outcome : MemoryStore × MutationReceiptDto}
    (effect : Effect store bookId mutation stamp outcome) :
    outcome.1.mutations = store.mutations := by
  cases effect <;> rfl

/-- A receipt names the mutation it answers. -/
theorem Effect.mutationId {stamp : Stamp} {outcome : MemoryStore × MutationReceiptDto}
    (effect : Effect store bookId mutation stamp outcome) :
    outcome.2.mutationId = mutation.mutationId := by
  cases effect <;> rfl

end Effects

/-! ### The payload of a change row -/

/-- The payload of the row keeps the fields that are not set by the server. -/
theorem get?_upsertPayload_of_ne [Rfc3339] (mutation : SyncMutationDto)
    (existing : Option TxRecord) (occurredAt : Timestamp) {key : String}
    (notDate : key ≠ "occurredAt") (notSource : key ≠ "source") :
    (upsertPayload mutation existing occurredAt).get? key = mutation.payload.get? key := by
  unfold upsertPayload canonicalTransactionPayload
  simp only
  split
  · rw [Json.get?_insert_of_ne _ _ _ _ notSource, Json.get?_insert_of_ne _ _ _ _ notDate]
  · rw [Json.get?_insert_of_ne _ _ _ _ notDate]

/-- A payload with entries is an object, so that it gets the date of the record. -/
theorem get?_upsertPayload_occurredAt [Rfc3339] {mutation : SyncMutationDto} {entries : Json}
    (present : mutation.payload.get? "entries" = some entries) (existing : Option TxRecord)
    (occurredAt : Timestamp) :
    (upsertPayload mutation existing occurredAt).get? "occurredAt" =
      some (.str (Rfc3339.format occurredAt)) := by
  obtain ⟨fields, isObject⟩ := Json.exists_obj_of_get? present
  unfold upsertPayload canonicalTransactionPayload
  rw [isObject]
  simp only
  split
  · rw [Json.get?_insert_of_ne _ _ _ _ (by decide), Json.get?_insert_self]
  · rw [Json.get?_insert_self]

/-! ### Evaluating the handler -/

section Evaluation

variable [Rfc3339] {store : MemoryStore} {bookId : String} {mutation : SyncMutationDto}

theorem AcceptsUpsert.notDelete {existing : Option TxRecord}
    {requestedOccurredAt : Option Timestamp} {drafts : List EntryDraft}
    (accepts : AcceptsUpsert store bookId mutation existing requestedOccurredAt drafts) :
    mutation.operation ≠ "delete" := by
  rcases accepts.isWrite with isCreate | isUpdate
  · rw [isCreate]
    decide
  · rw [isUpdate]
    decide

theorem AcceptsUpsert.checked {existing : Option TxRecord}
    {requestedOccurredAt : Option Timestamp} {drafts : List EntryDraft}
    (accepts : AcceptsUpsert store bookId mutation existing requestedOccurredAt drafts) :
    checkedDrafts mutation = .ok (requestedOccurredAt, drafts) :=
  checkedDrafts_eq_ok.mpr ⟨accepts.occurredAt, accepts.entries,
    validateOrReject_eq_none.mpr ⟨accepts.isTransaction,
      Or.inr ⟨accepts.isWrite, accepts.balanced⟩⟩⟩

/-- A create or update that passes every check is written. -/
theorem processMutationMem_upsert {existing : Option TxRecord}
    {requestedOccurredAt : Option Timestamp} {drafts : List EntryDraft}
    (accepts : AcceptsUpsert store bookId mutation existing requestedOccurredAt drafts)
    (stamp : Stamp) :
    processMutationMem store bookId mutation stamp =
      writeUpsertMem store bookId mutation existing requestedOccurredAt drafts stamp := by
  rw [processMutationMem, if_neg (notAccount_of_isTransaction accepts.isTransaction),
    if_neg (not_not.mpr accepts.isTransaction), if_neg accepts.notDelete, accepts.checked]
  simp only [processUpsertMem]
  rw [if_pos (List.all_eq_true.mpr accepts.accounts), accepts.found]
  cases existing with
  | none => simp only [accepts.original rfl]
  | some transaction =>
    obtain ⟨isUpdate, sameVersion⟩ := accepts.current transaction rfl
    have notCreate : mutation.operation ≠ "create" := by
      rw [isUpdate]
      decide
    simp only [notCreate, sameVersion, ne_eq, not_true_eq_false, or_self, if_false]

/-- A delete that passes every check is written. -/
theorem processMutationMem_delete {existing : TxRecord}
    (accepts : AcceptsDelete store bookId mutation existing) (stamp : Stamp) :
    processMutationMem store bookId mutation stamp =
      writeDeleteMem store bookId mutation existing stamp := by
  have current : ¬(mutation.baseVersion ≠ 0 ∧ mutation.baseVersion ≠ existing.version) := by
    have := accepts.current
    tauto
  rw [processMutationMem, if_neg (notAccount_of_isTransaction accepts.isTransaction),
    if_neg (not_not.mpr accepts.isTransaction), if_pos accepts.isDelete, processDeleteMem,
    accepts.found]
  simp only [accepts.owned, ne_eq, not_true_eq_false, if_false]
  rw [if_neg current]

end Evaluation

/-! ### The loop body -/

section Push

variable [Rfc3339] {store : MemoryStore}

/-- A mutation with a stored receipt changes nothing and is answered with that receipt. -/
theorem pushMutation_replayed {step : PushStep} {receipt : MutationReceipt}
    (stored : store.mutations.lookup step.key = some receipt) :
    pushMutation store step.bookId step.deviceId step.mutation step.stamp =
      (store, receipt.replayed step.mutation.mutationId) := by
  simp only [PushStep.key] at stored
  simp only [pushMutation, stored]

/-- A new mutation is processed and its receipt stored. -/
theorem pushMutation_processed {step : PushStep}
    (fresh : store.mutations.lookup step.key = none) :
    pushMutation store step.bookId step.deviceId step.mutation step.stamp =
      let processed := processMutationMem store step.bookId step.mutation step.stamp
      ({ processed.1 with
          mutations := processed.1.mutations.insert step.key processed.2.stored },
        processed.2) := by
  simp only [PushStep.key] at fresh
  simp only [pushMutation, fresh, PushStep.key]

theorem pushStep_replayed {step : PushStep} {receipt : MutationReceipt}
    (stored : store.mutations.lookup step.key = some receipt) : pushStep store step = store := by
  rw [pushStep, pushMutation_replayed stored]

theorem pushReceipt_replayed {step : PushStep} {receipt : MutationReceipt}
    (stored : store.mutations.lookup step.key = some receipt) :
    pushReceipt store step = receipt.replayed step.mutation.mutationId := by
  rw [pushReceipt, pushMutation_replayed stored]

theorem pushStep_processed {step : PushStep}
    (fresh : store.mutations.lookup step.key = none) :
    pushStep store step =
      let processed := processMutationMem store step.bookId step.mutation step.stamp
      { processed.1 with
        mutations := processed.1.mutations.insert step.key processed.2.stored } := by
  rw [pushStep, pushMutation_processed fresh]

theorem pushReceipt_processed {step : PushStep}
    (fresh : store.mutations.lookup step.key = none) :
    pushReceipt store step =
      (processMutationMem store step.bookId step.mutation step.stamp).2 := by
  rw [pushReceipt, pushMutation_processed fresh]

/-- A fact about the store after one step, from the three writes a step can make. It must
not depend on the stored receipts. -/
theorem pushStep_elim {motive : MemoryStore → Prop} (step : PushStep)
    (receipts : ∀ written receipts, motive written → motive { written with mutations := receipts })
    (unchanged : motive store)
    (upserted : ∀ existing requestedOccurredAt drafts,
      AcceptsUpsert store step.bookId step.mutation existing requestedOccurredAt drafts →
        motive (writeUpsertMem store step.bookId step.mutation existing requestedOccurredAt
          drafts step.stamp).1)
    (deleted : ∀ existing, AcceptsDelete store step.bookId step.mutation existing →
      motive (writeDeleteMem store step.bookId step.mutation existing step.stamp).1)
    (accountWritten : ∀ record, AcceptsAccount store step.bookId step.mutation record →
      motive (writeAccountMem store step.bookId step.mutation record step.stamp).1) :
    motive (pushStep store step) := by
  cases stored : store.mutations.lookup step.key with
  | some receipt =>
    rw [pushStep_replayed stored]
    exact unchanged
  | none =>
    rw [pushStep_processed stored]
    refine receipts _ _ ?_
    have effect := processMutationMem_effect store step.bookId step.mutation step.stamp
    generalize processMutationMem store step.bookId step.mutation step.stamp = outcome at effect
    cases effect with
    | refused resultCode entityVersion => exact unchanged
    | deduped duplicate isTransaction notDelete fresh found => exact unchanged
    | upserted existing requestedOccurredAt drafts accepts => exact upserted _ _ _ accepts
    | deleted existing accepts => exact deleted _ accepts
    | accountWritten record accepts => exact accountWritten _ accepts

end Push

/-! ### Values to evaluate the handlers on -/

/-- The start of the Unix epoch. -/
def epoch : Timestamp := ⟨0, by decide⟩

/-- A clock that knows the epoch only. On that instant it reads and writes what RFC 3339
prescribes. -/
@[reducible] def epochClock : Rfc3339 where
  parse text := if text = "1970-01-01T00:00:00Z" then some epoch else none
  format _ := "1970-01-01T00:00:00Z"

/-- Two accounts of a book, one of each side of a transfer. -/
def withAccounts (bookId : String) (accounts : KeyMap String AccountRecord) :
    KeyMap String AccountRecord :=
  (accounts.insert (bookId ++ ":cash")
      ⟨bookId ++ ":cash", bookId, "Cash", "asset", "CNY", none, 1⟩).insert (bookId ++ ":food")
    ⟨bookId ++ ":food", bookId, "Food", "expense", "CNY", none, 1⟩

/-- A payload that moves one yuan between the two accounts, with further fields. -/
def transferPayload (bookId : String) (fields : List (String × Json)) : Json :=
  .obj (("entries", .arr
    [.obj [("accountId", .str (bookId ++ ":cash")), ("amountMinor", .str "-100")],
      .obj [("accountId", .str (bookId ++ ":food")), ("amountMinor", .str "100")]]) :: fields)

/-- The push of one transaction mutation with such a payload. -/
def transferStep (bookId mutationId entityId operation : String) (baseVersion : Int)
    (fields : List (String × Json)) : PushStep where
  bookId := bookId
  deviceId := "device"
  mutation := ⟨mutationId, "transaction", entityId, operation, baseVersion,
    transferPayload bookId fields⟩
  stamp := ⟨epoch, mutationId⟩
  entriesFit := by
    have two : (transferPayload bookId fields).arrayLength "entries" = 2 := by
      simp [transferPayload, Json.arrayLength, Json.get?]
    rw [two]
    decide

end Ledgerly
