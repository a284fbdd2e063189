/-
This file says once what one pushed mutation can do to the database.

As on the memory backend, a mutation leaves the tables alone or writes one transaction
or one account together with one change row. `processMutationPg_effect` lists the cases
with everything the handler has checked, and `pushStepPg_elim` turns them into a rule
for facts that do not depend on the stored receipts.
-/

import Ledgerly.Postgres

namespace Ledgerly

section Effects

variable [Rfc3339] (store : PgStore) (bookId : String) (mutation : SyncMutationDto)

/-- A create or update whose payload and accounts have passed the checks. -/
structure AdmittedPg (requestedOccurredAt : Option Timestamp) (drafts : List EntryDraft) :
    Prop where
  isTransaction : mutation.entityType = "transaction"
  notDelete : mutation.operation ≠ "delete"
  checked : checkedDrafts mutation = .ok (requestedOccurredAt, drafts)
  counted : store.countAccounts bookId (accountIds drafts) = (accountIds drafts).length

/-- What one processed mutation does to the database, with its receipt. -/
inductive EffectPg (stamp : Stamp) : PgStore × MutationReceiptDto → Prop
  | unchanged (receipt : MutationReceiptDto)
      (named : receipt.mutationId = mutation.mutationId) : EffectPg stamp (store, receipt)
  | updated (existing : TxRecord) (requestedOccurredAt : Option Timestamp)
      (drafts : List EntryDraft)
      (admitted : AdmittedPg store bookId mutation requestedOccurredAt drafts)
      (found : store.transactions.lookup mutation.entityId = some existing)
      (owned : existing.bookId = bookId)
      (current : mutation.operation ≠ "create" ∧ mutation.baseVersion = existing.version)
      (free : ¬store.violatesAutoEvent
        (updatedRow mutation existing requestedOccurredAt drafts) = true) :
      EffectPg stamp (writeUpsertPg store bookId mutation
        (updatedRow mutation existing requestedOccurredAt drafts)
        (upsertPayload mutation (some existing) (requestedOccurredAt.getD existing.occurredAt))
        stamp)
  | inserted (requestedOccurredAt : Option Timestamp) (drafts : List EntryDraft)
      (admitted : AdmittedPg store bookId mutation requestedOccurredAt drafts)
      (missing : store.transactions.lookup mutation.entityId = none)
      (free : ¬store.violatesAutoEvent
        (insertedRow bookId mutation requestedOccurredAt drafts stamp.now) = true) :
      EffectPg stamp (writeUpsertPg store bookId mutation
        (insertedRow bookId mutation requestedOccurredAt drafts stamp.now)
        (upsertPayload mutation none (requestedOccurredAt.getD stamp.now)) stamp)
  | deleted (existing : TxRecord) (isTransaction : mutation.entityType = "transaction")
      (isDelete : mutation.operation = "delete")
      (found : store.transactions.lookup mutation.entityId = some existing)
      (owned : existing.bookId = bookId) :
      EffectPg stamp (writeDeletePg store bookId mutation existing stamp)
  | accountWritten (record : AccountRecord) (isAccount : mutation.entityType = "account") :
      EffectPg stamp (writeAccountPg store bookId mutation record stamp)

variable {store bookId mutation}

omit [Rfc3339] in
theorem rowIn_eq_some {existing : TxRecord} {id : String}
    (found : store.rowIn bookId id = some existing) :
    store.transactions.lookup id = some existing ∧ existing.bookId = bookId := by
  obtain ⟨stored, inBook⟩ := Option.filter_eq_some_iff.mp found
  exact ⟨stored, by simpa using inBook⟩

theorem processDeletePg_effect (isTransaction : mutation.entityType = "transaction")
    (isDelete : mutation.operation = "delete") (stamp : Stamp) :
    EffectPg store bookId mutation stamp (processDeletePg store bookId mutation stamp) := by
  unfold processDeletePg
  split
  · exact .unchanged _ rfl
  · rename_i existing selected
    obtain ⟨found, owned⟩ := rowIn_eq_some selected
    split
    · exact .unchanged _ rfl
    · exact .deleted existing isTransaction isDelete found owned

omit [Rfc3339] in
theorem uniqueViolationReceipt_mutationId (mutation : SyncMutationDto) :
    (uniqueViolationReceipt mutation).mutationId = mutation.mutationId := by
  unfold uniqueViolationReceipt
  split <;> rfl

theorem processUpsertPg_effect {requestedOccurredAt : Option Timestamp}
    {drafts : List EntryDraft} (isTransaction : mutation.entityType = "transaction")
    (notDelete : mutation.operation ≠ "delete")
    (checked : checkedDrafts mutation = .ok (requestedOccurredAt, drafts)) (stamp : Stamp) :
    EffectPg store bookId mutation stamp
      (processUpsertPg store bookId mutation requestedOccurredAt drafts stamp) := by
  unfold processUpsertPg
  split
  · exact .unchanged _ rfl
  · rename_i counted
    have admitted : AdmittedPg store bookId mutation requestedOccurredAt drafts :=
      ⟨isTransaction, notDelete, checked, not_not.mp counted⟩
    split
    · rename_i existing selected
      obtain ⟨found, owned⟩ := rowIn_eq_some selected
      split
      · exact .unchanged _ rfl
      · rename_i current
        obtain ⟨notCreate, sameVersion⟩ := not_or.mp current
        simp only
        split
        · exact .unchanged _ (uniqueViolationReceipt_mutationId mutation)
        · rename_i free
          exact .updated existing _ _ admitted found owned
            ⟨notCreate, not_not.mp sameVersion⟩ free
    · split
      · exact .unchanged _ rfl
      · simp only
        split
        · exact .unchanged _ (uniqueViolationReceipt_mutationId mutation)
        · rename_i allowed
          obtain ⟨missing, free⟩ := not_or.mp allowed
          exact .inserted _ _ admitted (by simpa using missing) free

theorem processAccountMutationPg_effect (isAccount : mutation.entityType = "account")
    (stamp : Stamp) :
    EffectPg store bookId mutation stamp
      (processAccountMutationPg store bookId mutation stamp) := by
  unfold processAccountMutationPg
  split
  · rename_i failed
    obtain ⟨code, rfl⟩ := parseAccountPayload_error failed
    exact .unchanged _ rfl
  · split
    · split
      · exact .unchanged _ rfl
      · simp only
        split
        · exact .accountWritten _ isAccount
        · exact .unchanged _ rfl
    · split
      · exact .unchanged _ rfl
      · split
        · exact .unchanged _ rfl
        · simp only
          split
          · exact .accountWritten _ isAccount
          · exact .unchanged _ rfl

variable (store bookId mutation) in
/-- Everything one processed mutation can do to the database. -/
theorem processMutationPg_effect (stamp : Stamp) :
    EffectPg store bookId mutation stamp (processMutationPg store bookId mutation stamp) := by
  unfold processMutationPg
  split
  · rename_i isAccount
    exact processAccountMutationPg_effect isAccount stamp
  · split
    · exact .unchanged _ rfl
    · rename_i isTransaction
      have isTransaction := not_not.mp isTransaction
      split
      · rename_i isDelete
        exact processDeletePg_effect isTransaction isDelete stamp
      · rename_i notDelete
        split
        · rename_i failed
          obtain ⟨code, rfl⟩ := checkedDrafts_error failed
          exact .unchanged _ rfl
        · rename_i checked
          exact processUpsertPg_effect isTransaction notDelete checked stamp

/-- An update that passes every check is written. -/
theorem processMutationPg_update {existing : TxRecord}
    {requestedOccurredAt : Option Timestamp} {drafts : List EntryDraft}
    (admitted : AdmittedPg store bookId mutation requestedOccurredAt drafts)
    (found : store.transactions.lookup mutation.entityId = some existing)
    (owned : existing.bookId = bookId) (notCreate : mutation.operation ≠ "create")
    (current : mutation.baseVersion = existing.version)
    (free : ¬store.violatesAutoEvent
      (updatedRow mutation existing requestedOccurredAt drafts) = true) (stamp : Stamp) :
    processMutationPg store bookId mutation stamp =
      writeUpsertPg store bookId mutation
        (updatedRow mutation existing requestedOccurredAt drafts)
        (upsertPayload mutation (some existing) (requestedOccurredAt.getD existing.occurredAt))
        stamp := by
  have selected : store.rowIn bookId mutation.entityId = some existing := by
    rw [PgStore.rowIn, found, Option.filter_some, if_pos (decide_eq_true owned)]
  rw [processMutationPg, if_neg (notAccount_of_isTransaction admitted.isTransaction),
    if_neg (not_not.mpr admitted.isTransaction), if_neg admitted.notDelete, admitted.checked]
  simp only [processUpsertPg]
  rw [if_neg (not_not.mpr admitted.counted), selected]
  simp only
  rw [if_neg (not_or.mpr ⟨notCreate, not_not.mpr current⟩), if_neg free]

/-- A create of something new that passes every check is written. -/
theorem processMutationPg_insert {requestedOccurredAt : Option Timestamp}
    {drafts : List EntryDraft}
    (admitted : AdmittedPg store bookId mutation requestedOccurredAt drafts)
    (missing : store.transactions.lookup mutation.entityId = none)
    (original : store.duplicateOf bookId mutation = none) (stamp : Stamp)
    (free : ¬store.violatesAutoEvent
      (insertedRow bookId mutation requestedOccurredAt drafts stamp.now) = true) :
    processMutationPg store bookId mutation stamp =
      writeUpsertPg store bookId mutation
        (insertedRow bookId mutation requestedOccurredAt drafts stamp.now)
        (upsertPayload mutation none (requestedOccurredAt.getD stamp.now)) stamp := by
  have selected : store.rowIn bookId mutation.entityId = none := by
    rw [PgStore.rowIn, missing, Option.filter_none]
  rw [processMutationPg, if_neg (notAccount_of_isTransaction admitted.isTransaction),
    if_neg (not_not.mpr admitted.isTransaction), if_neg admitted.notDelete, admitted.checked]
  simp only [processUpsertPg]
  rw [if_neg (not_not.mpr admitted.counted), selected]
  simp only [original]
  rw [if_neg (not_or.mpr ⟨by simp [missing], free⟩)]

/-- Processing touches no stored receipt. -/
theorem EffectPg.mutations {stamp : Stamp} {outcome : PgStore × MutationReceiptDto}
    (effect : EffectPg store bookId mutation stamp outcome) :
    outcome.1.mutations = store.mutations := by
  cases effect <;> rfl

end Effects

/-! ### The loop body -/

section Push

variable [Rfc3339] {store : PgStore}

theorem pushMutationPg_replayed {step : PushStep} {receipt : MutationReceipt}
    (stored : store.mutations.lookup step.key = some receipt) :
    pushMutationPg store step = (store, receipt.replayed step.mutation.mutationId) := by
  simp only [pushMutationPg, stored]

theorem pushMutationPg_processed {step : PushStep}
    (fresh : store.mutations.lookup step.key = none) :
    pushMutationPg store step =
      let processed := processMutationPg store step.bookId step.mutation step.stamp
      ({ processed.1 with
          mutations := processed.1.mutations.insert step.key processed.2.stored },
        processed.2) := by
  simp only [pushMutationPg, fresh]

/-- A fact about the database after one step, from the four writes a step can make. It must
not depend on the stored receipts. -/
theorem pushStepPg_elim {motive : PgStore → Prop} (step : PushStep)
    (receipts : ∀ written receipts, motive written → motive { written with mutations := receipts })
    (unchanged : motive store)
    (updated : ∀ existing requestedOccurredAt drafts,
      AdmittedPg store step.bookId step.mutation requestedOccurredAt drafts →
      store.transactions.lookup step.mutation.entityId = some existing →
      existing.bookId = step.bookId →
      step.mutation.operation ≠ "create" ∧ step.mutation.baseVersion = existing.version →
      ¬store.violatesAutoEvent
        (updatedRow step.mutation existing requestedOccurredAt drafts) = true →
      motive (writeUpsertPg store step.bookId step.mutation
        (updatedRow step.mutation existing requestedOccurredAt drafts)
        (upsertPayload step.mutation (some existing)
          (requestedOccurredAt.getD existing.occurredAt)) step.stamp).1)
    (inserted : ∀ requestedOccurredAt drafts,
      AdmittedPg store step.bookId step.mutation requestedOccurredAt drafts →
      store.transactions.lookup step.mutation.entityId = none →
      ¬store.violatesAutoEvent (insertedRow step.bookId step.mutation requestedOccurredAt
        drafts step.stamp.now) = true →
      motive (writeUpsertPg store step.bookId step.mutation
        (insertedRow step.bookId step.mutation requestedOccurredAt drafts step.stamp.now)
        (upsertPayload step.mutation none (requestedOccurredAt.getD step.stamp.now))
        step.stamp).1)
    (deleted : ∀ existing, step.mutation.operation = "delete" →
      store.transactions.lookup step.mutation.entityId = some existing →
      existing.bookId = step.bookId →
      motive (writeDeletePg store step.bookId step.mutation existing step.stamp).1)
    (accountWritten : ∀ record,
      motive (writeAccountPg store step.bookId step.mutation record step.stamp).1) :
    motive (pushStepPg store step) := by
  cases stored : store.mutations.lookup step.key with
  | some receipt =>
    rw [pushStepPg, pushMutationPg_replayed stored]
    exact unchanged
  | none =>
    rw [pushStepPg, pushMutationPg_processed stored]
    refine receipts _ _ ?_
    have effect := processMutationPg_effect store step.bookId step.mutation step.stamp
    generalize processMutationPg store step.bookId step.mutation step.stamp = outcome at effect
    cases effect with
    | unchanged receipt named => exact unchanged
    | updated existing requestedOccurredAt drafts admitted found owned current free =>
      exact updated _ _ _ admitted found owned current free
    | inserted requestedOccurredAt drafts admitted missing free =>
      exact inserted _ _ admitted missing free
    | deleted existing isTransaction isDelete found owned => exact deleted _ isDelete found owned
    | accountWritten record isAccount => exact accountWritten _

end Push

/-! ### Constraints that hold of every database reached -/

/-- The constraints of the transactions table: rows are stored under their id, and the unique
index holds. -/
structure PgStore.Constrained (store : PgStore) : Prop where
  primaryKey : ∀ id row, store.transactions.lookup id = some row → row.id = id
  autoEvent : store.transactions.UniqueBy TxRecord.autoLedgerIndex

theorem PgStore.initial_constrained (accounts : KeyMap String AccountRecord) :
    (PgStore.initial accounts).Constrained :=
  ⟨fun id row found => by simp [PgStore.initial] at found, KeyMap.uniqueBy_empty _⟩

/-- A row violates the index exactly if another row has its entry. -/
theorem violatesAutoEvent_iff (store : PgStore) (row : TxRecord) :
    store.violatesAutoEvent row = true ↔
      ∃ bookId fingerprint other taken, row.autoLedgerIndex = some (bookId, fingerprint) ∧
        other ≠ row.id ∧ store.transactions.lookup other = some taken ∧
        taken.records bookId fingerprint = true := by
  simp only [PgStore.violatesAutoEvent, Bool.and_eq_true, Option.isSome_iff_exists,
    List.any_eq_true, decide_eq_true_eq, ← autoLedgerIndex_eq_some]
  constructor
  · rintro ⟨⟨⟨bookId, fingerprint⟩, inIndex⟩, ⟨other, taken⟩, member, different, conflict⟩
    exact ⟨bookId, fingerprint, other, taken, inIndex, different,
      AList.mem_lookup_iff.mpr member, conflict.trans inIndex⟩
  · rintro ⟨bookId, fingerprint, other, taken, inIndex, different, found, conflict⟩
    exact ⟨⟨_, inIndex⟩, ⟨other, taken⟩, AList.mem_lookup_iff.mp found, different,
      conflict.trans inIndex.symm⟩

/-- Writing a row under its id that violates no index keeps the constraints. -/
theorem PgStore.Constrained.write {store written : PgStore} (kept : store.Constrained)
    {id : String} (row : TxRecord) (named : row.id = id)
    (wrote : written.transactions = store.transactions.insert id row)
    (free : ¬store.violatesAutoEvent row = true) : written.Constrained := by
  subst named
  refine ⟨fun id other found => ?_, ?_⟩
  · rw [wrote] at found
    rcases KeyMap.lookup_insert_eq_some found with ⟨rfl, rfl⟩ | ⟨-, before⟩
    · rfl
    · exact kept.primaryKey id other before
  · rw [wrote, KeyMap.uniqueBy_insert_iff kept.autoEvent]
    rintro ⟨⟨bookId, fingerprint⟩, other, taken, inIndex, different, found, conflict⟩
    exact free ((violatesAutoEvent_iff store row).mpr ⟨bookId, fingerprint, other, taken,
      inIndex, different, found, autoLedgerIndex_eq_some.mp conflict⟩)

/-- Every step keeps the constraints. -/
theorem pushStepPg_constrained [Rfc3339] {store : PgStore} (kept : store.Constrained)
    (step : PushStep) : (pushStepPg store step).Constrained := by
  refine pushStepPg_elim (motive := PgStore.Constrained) step
    (fun _ _ holds => ⟨holds.primaryKey, holds.autoEvent⟩) kept ?_ ?_ ?_
    fun _ => ⟨kept.primaryKey, kept.autoEvent⟩
  · intro existing requestedOccurredAt drafts admitted found owned current free
    have named : (updatedRow step.mutation existing requestedOccurredAt drafts).id =
        step.mutation.entityId := by
      rw [← kept.primaryKey _ _ found]
      rfl
    exact kept.write _ named rfl free
  · intro requestedOccurredAt drafts admitted missing free
    exact kept.write _ rfl rfl free
  · intro existing isDelete found owned
    have named : existing.id = step.mutation.entityId := kept.primaryKey _ _ found
    have outOfIndex : ¬store.violatesAutoEvent
        { existing with deleted := true, version := existing.version + 1 } = true := by
      rw [violatesAutoEvent_iff]
      rintro ⟨bookId, fingerprint, other, taken, inIndex, -⟩
      simp [TxRecord.autoLedgerIndex] at inIndex
    exact kept.write { existing with deleted := true, version := existing.version + 1 } named rfl
      outOfIndex

end Ledgerly
