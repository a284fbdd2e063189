/-
This file says how the server reads what a device sends for its own transactions.

A transaction of the domain is balanced and its amounts travel as decimal text, so that the
server finds the same entries, under the account ids of its own book, and rejects them for
one reason only: an amount that its 64 bits do not hold.
-/

import Ledgerly.SyncService

namespace Ledgerly

/-- A payload that holds a transaction of the domain. -/
structure Json.Carries (payload : Json) (tx : LedgerTransaction) : Prop where
  occurredAt : payload.get? "occurredAt" = some (.str (toIso8601String tx.occurredAt))
  description : payload.get? "description" = some (.ofOption tx.description)
  entries : payload.get? "entries" = some (.arr (tx.entries.map DomainEntry.json))

theorem LedgerTransaction.createPayload_carries (tx : LedgerTransaction)
    (fingerprint : Option String) : (tx.createPayload fingerprint).Carries tx := by
  constructor <;> simp [createPayload, Json.get?, List.lookup_cons]

theorem LedgerTransaction.updatePayload_carries (tx : LedgerTransaction) :
    tx.updatePayload.Carries tx := by
  constructor <;> simp [updatePayload, Json.get?, List.lookup_cons]

/-- A pending mutation that holds a transaction of the domain with a date RFC 3339 can write. -/
def PendingMutationRow.Sendable (row : PendingMutationRow) : Prop :=
  ∃ tx : LedgerTransaction, row.payload.Carries tx ∧ (timestampOf tx.occurredAt).isSome = true

section Rewriting

variable (fromBook toBook : String)

/-- An entry with its account id as the server knows it. -/
def DomainEntry.sentJson (entry : DomainEntry) : Json :=
  entry.json.insert "accountId" (.str (rewriteAccountId entry.accountId fromBook toBook))

/-- What `parse_entries` makes of an entry that is sent. -/
def DomainEntry.sent (entry : DomainEntry) : EntryDraft where
  accountId := rewriteAccountId entry.accountId fromBook toBook
  amountMinor := (parseI128 (decimalText entry.minorUnits)).getD 0
  currency := entry.currency

theorem readEntry_sentJson (entry : DomainEntry) :
    readEntry (entry.sentJson fromBook toBook) = entry.sent fromBook toBook := by
  simp [DomainEntry.sentJson, DomainEntry.sent, DomainEntry.json, readEntry, Json.insert,
    Json.insertField, Json.get?, List.lookup_cons]

/-- The payload is sent with the account ids of the server, and else as it is. -/
theorem rewriteTransactionPayload_of_carries {payload : Json} {tx : LedgerTransaction}
    (carries : payload.Carries tx) :
    rewriteTransactionPayload payload fromBook toBook =
      some (payload.insert "entries"
        (.arr (tx.entries.map (DomainEntry.sentJson fromBook toBook)))) := by
  obtain ⟨fields, rfl⟩ := Json.exists_obj_of_get? carries.entries
  have each : (tx.entries.map DomainEntry.json).mapM (rewriteEntry fromBook toBook) =
      some (tx.entries.map (DomainEntry.sentJson fromBook toBook)) := by
    rw [List.mapM_eq_some_iff, List.forall₂_map_left_iff, List.forall₂_map_right_iff,
      List.forall₂_same]
    intro entry _
    rfl
  rw [rewriteTransactionPayload, entryList, carries.entries]
  simp only [Option.bind_some, each, Option.map_some]

/-- The step for a pending create or update of a transaction. -/
theorem PendingMutationRow.step_of_carries {row : PendingMutationRow} {tx : LedgerTransaction}
    {deviceId : String} {stamp : Stamp} {step : PushStep}
    (made : row.step deviceId fromBook toBook stamp = some step)
    (isTransaction : row.entityType = "transaction") (notDelete : row.operation ≠ "delete")
    (carries : row.payload.Carries tx) :
    step.mutation.payload = row.payload.insert "entries"
      (.arr (tx.entries.map (DomainEntry.sentJson fromBook toBook))) := by
  unfold PendingMutationRow.step at made
  split at made
  · cases made
  · rename_i payload sent
    cases made
    obtain ⟨fields, isObject⟩ := Json.exists_obj_of_get? carries.entries
    have notAccount : row.entityType ≠ "account" := by simp [isTransaction]
    have rewritten := rewriteTransactionPayload_of_carries fromBook toBook carries
    rw [PendingMutationRow.sentPayload, isObject] at sent
    simp only [if_neg notAccount, if_neg notDelete] at sent
    rw [← isObject, rewritten] at sent
    exact (Option.some.inj sent).symm

end Rewriting

/-- The fields of the step for a pending mutation that are not rewritten. -/
theorem PendingMutationRow.step_fields {row : PendingMutationRow}
    {deviceId fromBook toBook : String} {stamp : Stamp} {step : PushStep}
    (made : row.step deviceId fromBook toBook stamp = some step) :
    step.bookId = toBook ∧ step.deviceId = deviceId ∧ step.stamp = stamp ∧
      step.mutation.mutationId = row.mutationId ∧ step.mutation.entityType = row.entityType ∧
      step.mutation.operation = row.operation ∧ step.mutation.baseVersion = row.baseVersion ∧
      (row.entityType = "transaction" → step.mutation.entityId = row.entityId) := by
  unfold PendingMutationRow.step at made
  split at made
  · cases made
  · cases made
    refine ⟨rfl, rfl, rfl, rfl, rfl, rfl, rfl, fun isTransaction => ?_⟩
    exact if_neg (by simp [isTransaction])

/-- The key a pending mutation is answered under. -/
theorem PendingMutationRow.step_key {row : PendingMutationRow} {deviceId fromBook toBook : String}
    {stamp : Stamp} {step : PushStep}
    (made : row.step deviceId fromBook toBook stamp = some step) :
    step.key = (toBook, deviceId, row.mutationId) := by
  obtain ⟨book, device, -, named, -⟩ := PendingMutationRow.step_fields made
  rw [PushStep.key, book, device, named]

/-! ### The entries the server finds -/

section Drafts

variable (fromBook toBook : String) (tx : LedgerTransaction)

/-- An amount the server reads at all is read as it is. -/
theorem DomainEntry.sent_amountMinor {entry : DomainEntry}
    (nonzero : (entry.sent fromBook toBook).amountMinor ≠ 0) :
    (entry.sent fromBook toBook).amountMinor = entry.minorUnits := by
  rw [DomainEntry.sent] at nonzero ⊢
  simp only at nonzero ⊢
  cases parsed : parseI128 (decimalText entry.minorUnits) with
  | none => exact absurd (by rw [parsed]; rfl) nonzero
  | some value =>
    have spelled := parseI128_eq_some parsed
    rw [decimalInt_decimalText] at spelled
    exact (Option.some.inj spelled).symm

/-- The drafts are never out of balance: where their sum is reached at all, it is zero. -/
theorem LedgerTransaction.sent_not_unbalanced :
    validateBalanced (tx.entries.map (DomainEntry.sent fromBook toBook)) ≠ .error .unbalanced := by
  intro unbalanced
  match drafts : tx.entries.map (DomainEntry.sent fromBook toBook), unbalanced with
  | first :: second :: rest, unbalanced =>
    simp only [validateBalanced] at unbalanced
    split at unbalanced
    · rename_i error summed
      cases unbalanced
      exact sumEntries_ne_unbalanced _ _ _ summed
    · rename_i sum summed
      have sound := sound_of_sumEntries summed
      rw [← drafts] at sound
      have amounts : (tx.entries.map (DomainEntry.sent fromBook toBook)).map
          EntryDraft.amountMinor = tx.entries.map DomainEntry.minorUnits := by
        rw [List.map_map]
        refine List.map_congr_left fun entry member => ?_
        exact DomainEntry.sent_amountMinor fromBook toBook
          (sound _ (List.mem_map_of_mem member)).nonzero
      have balanced : Balanced (tx.entries.map (DomainEntry.sent fromBook toBook)) :=
        ⟨by rw [List.length_map]; exact tx.atLeastTwo, ⟨_, sound⟩, by rw [amounts]; exact tx.sumZero⟩
      have accepted := validateBalanced_of_balanced balanced
      rw [drafts] at accepted
      simp only [validateBalanced, summed] at accepted
      rw [accepted] at unbalanced
      cases unbalanced

/-- Amounts of 64 bits are read and balanced. -/
theorem LedgerTransaction.sent_balanced (fits : ∀ entry ∈ tx.entries, FitsI64 entry.minorUnits) :
    Balanced (tx.entries.map (DomainEntry.sent fromBook toBook)) ∧
      ∀ entry ∈ tx.entries, (entry.sent fromBook toBook).amountMinor = entry.minorUnits := by
  have amounts : ∀ entry ∈ tx.entries,
      (entry.sent fromBook toBook).amountMinor = entry.minorUnits := by
    intro entry member
    obtain ⟨lower, upper⟩ := fits entry member
    rw [DomainEntry.sent, parseI128_decimalText _ (by omega) (by omega)]
    rfl
  obtain ⟨currency, same⟩ := tx.oneCurrency
  refine ⟨⟨by rw [List.length_map]; exact tx.atLeastTwo, ⟨currency, ?_⟩, ?_⟩, amounts⟩
  · refine List.forall_mem_map.mpr fun entry member => ⟨same entry member, entry.currencyCode, ?_, ?_⟩
    · rw [amounts entry member]
      exact entry.nonzero
    · rw [amounts entry member]
      exact fits entry member
  · rw [List.map_map, ← tx.sumZero]
    congr 1
    exact List.map_congr_left amounts

end Drafts

/-! ### The checks of the handlers -/

section Checks

variable [Rfc3339] [ReadsDates] {row : PendingMutationRow} {tx : LedgerTransaction}
  {deviceId fromBook toBook : String} {stamp : Stamp} {step : PushStep} {timestamp : Timestamp}

/-- What the readers of the server find in a pending create or update of the device. -/
theorem PendingMutationRow.step_readers
    (made : row.step deviceId fromBook toBook stamp = some step)
    (isTransaction : row.entityType = "transaction") (notDelete : row.operation ≠ "delete")
    (carries : row.payload.Carries tx) (dated : timestampOf tx.occurredAt = some timestamp) :
    parseOccurredAt step.mutation = .ok (some timestamp) ∧
      parseEntries step.mutation = .ok (tx.entries.map (DomainEntry.sent fromBook toBook)) ∧
      (step.mutation.payload.get? "description").bind Json.asStr? = tx.description := by
  have payload := step_of_carries fromBook toBook made isTransaction notDelete carries
  refine ⟨?_, ?_, ?_⟩
  · have present : step.mutation.payload.get? "occurredAt" =
        some (.str (toIso8601String tx.occurredAt)) := by
      rw [payload, Json.get?_insert_of_ne _ _ _ _ (by decide), carries.occurredAt]
    simp only [parseOccurredAt, present, Json.asStr?_str,
      ReadsDates.parse_toIso8601String _ _ dated]
  · obtain ⟨fields, isObject⟩ := Json.exists_obj_of_get? carries.entries
    have present : step.mutation.payload.get? "entries" =
        some (.arr (tx.entries.map (DomainEntry.sentJson fromBook toBook))) := by
      rw [payload, isObject, Json.get?_insert_self]
    simp only [parseEntries, present, Option.bind_some, Json.asArray?_arr, List.map_map]
    exact congrArg Except.ok
      (List.map_congr_left fun entry _ => readEntry_sentJson fromBook toBook entry)
  · rw [payload, Json.get?_insert_of_ne _ _ _ _ (by decide), carries.description,
      Option.bind_some]
    cases tx.description <;> rfl

/-- A pending create or update of the device passes the checks, or an amount is out of range. -/
theorem PendingMutationRow.checkedDrafts_step
    (made : row.step deviceId fromBook toBook stamp = some step)
    (isTransaction : row.entityType = "transaction")
    (isWrite : row.operation = "create" ∨ row.operation = "update")
    (carries : row.payload.Carries tx) (dated : timestampOf tx.occurredAt = some timestamp) :
    checkedDrafts step.mutation =
        .ok (some timestamp, tx.entries.map (DomainEntry.sent fromBook toBook)) ∧
      validateBalanced (tx.entries.map (DomainEntry.sent fromBook toBook)) = .ok () ∨
    checkedDrafts step.mutation = .error (rejectedReceipt step.mutation "LEDGER_INVALID" none) := by
  have notDelete : row.operation ≠ "delete" := by
    rcases isWrite with isCreate | isUpdate
    · rw [isCreate]
      decide
    · rw [isUpdate]
      decide
  obtain ⟨date, entries, -⟩ := step_readers made isTransaction notDelete carries dated
  obtain ⟨-, -, -, -, type, operation, -⟩ := step_fields made
  have supported : ¬(step.mutation.entityType ≠ "transaction" ∨
      (step.mutation.operation ≠ "create" ∧ step.mutation.operation ≠ "update" ∧
        step.mutation.operation ≠ "delete")) := by
    rw [type, operation]
    tauto
  have notDeleted : step.mutation.operation ≠ "delete" := by rwa [operation]
  unfold checkedDrafts
  rw [date, entries]
  simp only [validateOrReject, if_neg supported, if_neg notDeleted]
  cases checked : validateBalanced (tx.entries.map (DomainEntry.sent fromBook toBook)) with
  | ok accepted => exact Or.inl ⟨rfl, rfl⟩
  | error error =>
    cases error with
    | unbalanced => exact absurd checked (tx.sent_not_unbalanced fromBook toBook)
    | zeroAmount | invalidCurrency | amountOutOfRange | tooFewEntries | currencyMismatch =>
      exact Or.inr rfl

end Checks

end Ledgerly
