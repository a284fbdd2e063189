/-
This file settles whether a mutation that is answered `AUTO_LEDGER_DEDUPED` is a duplicate.

The answer comes from the select of the book's transaction with the fingerprint, and from
any unique key a statement of the mutation meets when the mutation carries a fingerprint.
The index of the automatic bookings is one of those keys; the id of a transaction of another
book, the ids of entries, the number of a change and the id of a revision are others, and a
create that meets one of these is answered as applied with nothing stored.
-/

import Ledgerly.FailedPush
import Ledgerly.PostgresStep
import Ledgerly.Compaction

namespace Ledgerly

/-! ### The answer of a mutation that is processed alone -/

/-- What a script that ran alone ends with. -/
def verdict : Except (PgFailure × PgTables) (MutationReceiptDto × PgTables) →
    Except PgFailure MutationReceiptDto
  | .ok (receipt, _) => .ok receipt
  | .error (failure, _) => .error failure

/-- The receipt for what a script ends with. -/
def verdictReceipt (mutation : SyncMutationDto) :
    Except PgFailure MutationReceiptDto → MutationReceiptDto
  | .ok receipt => receipt
  | .error failure => errorReceipt mutation failure

section Answer

variable [Rfc3339] (tables : PgTables) (step : PushStep) (revisionId : String)

/-- What `process_mutation_pg` ends with on tables that nobody else changes. -/
def aloneVerdict : Except PgFailure MutationReceiptDto :=
  match pgPlan step.bookId step.deviceId step.mutation step.stamp revisionId with
  | .refused receipt => .ok receipt
  | .transaction script => verdict (script.alone tables)

/-- The receipt of a mutation that is processed alone. -/
def aloneReceipt : MutationReceiptDto :=
  verdictReceipt step.mutation (aloneVerdict tables step revisionId)

theorem processStatements_quiet :
    (processStatements .quiet tables step revisionId).2 = aloneReceipt tables step revisionId := by
  unfold processStatements aloneReceipt aloneVerdict
  cases pgPlan step.bookId step.deviceId step.mutation step.stamp revisionId with
  | refused receipt => rfl
  | transaction script =>
    simp only [Script.run_quiet]
    cases script.alone tables with
    | ok pair => rfl
    | error pair => rfl

/-- The book holds a live automatic booking with the fingerprint of the mutation. -/
def HoldsFingerprint : Prop :=
  ∃ fingerprint, autoLedgerFingerprint step.mutation = some fingerprint ∧
    ∃ id row, tables.transactions.lookup id = some row ∧
      row.records step.bookId fingerprint = true

/-- `AUTO_LEDGER_DEDUPED` means deduplicated, and a unique key other than the index of the
automatic bookings is not answered as applied. -/
structure DedupesTruly : Prop where
  holds : (aloneReceipt tables step revisionId).resultCode = "AUTO_LEDGER_DEDUPED" →
    HoldsFingerprint tables step
  otherKeys : ∀ key, aloneVerdict tables step revisionId = .error (.unique key) →
    key ≠ .autoEvent → (aloneReceipt tables step revisionId).status ≠ "applied"

/-- The number of the next change or the id of the revision is in use. -/
def NumberTaken : Prop :=
  (∃ change ∈ tables.changes, change.sequence = tables.nextSequence) ∨
    revisionId ∈ tables.revisionIds

/-- One of so many entry ids of a transaction is in use. -/
def EntryTaken (id : String) (start count : Nat) : Prop :=
  ∃ index, start ≤ index ∧ index < start + count ∧
    (tables.entryIds.lookup (PgTables.entryId id index)).isSome = true

/-- The write of a mutation meets a unique key that says nothing about its fingerprint. -/
inductive MeetsForeignKey : Prop
  | created (requestedOccurredAt : Option Timestamp) (drafts : List EntryDraft)
      (admitted : AdmittedPg tables.toPgStore step.bookId step.mutation requestedOccurredAt drafts)
      (absent : tables.rowIn step.bookId step.mutation.entityId = none)
      (original : tables.duplicateOf step.bookId step.mutation = none)
      (taken : (tables.transactions.lookup step.mutation.entityId).isSome = true ∨
        EntryTaken tables step.mutation.entityId 0 drafts.length ∨ NumberTaken tables revisionId)
  | updated (requestedOccurredAt : Option Timestamp) (drafts : List EntryDraft)
      (existing : TxRecord)
      (admitted : AdmittedPg tables.toPgStore step.bookId step.mutation requestedOccurredAt drafts)
      (found : tables.rowIn step.bookId step.mutation.entityId = some existing)
      (current : step.mutation.operation ≠ "create" ∧
        step.mutation.baseVersion = existing.version)
      (taken : if tables.violatesAutoEvent
            (updatedRow step.mutation existing requestedOccurredAt drafts) = true
          then ¬HoldsFingerprint tables step
          else EntryTaken (tables.deleteEntries step.mutation.entityId) step.mutation.entityId 0
              drafts.length ∨ NumberTaken tables revisionId)
  | deleted (existing : TxRecord) (isTransaction : step.mutation.entityType = "transaction")
      (isDelete : step.mutation.operation = "delete")
      (found : tables.rowIn step.bookId step.mutation.entityId = some existing)
      (current : step.mutation.baseVersion = 0 ∨ step.mutation.baseVersion = existing.version)
      (taken : NumberTaken tables revisionId)

end Answer

/-! ### The statements that meet a key -/

/-- A script ends with a key other than the index where one is taken, and with the receipt
otherwise. -/
def EndsBy (taken : Prop) (receipt : MutationReceiptDto)
    (ending : Except PgFailure MutationReceiptDto) : Prop :=
  (taken ∧ ∃ key, key ≠ UniqueKey.autoEvent ∧ ending = .error (.unique key)) ∨
    (¬taken ∧ ending = .ok receipt)

theorem EndsBy.congr {taken other : Prop} {receipt : MutationReceiptDto}
    {ending : Except PgFailure MutationReceiptDto} (ends : EndsBy taken receipt ending)
    (same : taken ↔ other) : EndsBy other receipt ending := by
  rwa [propext same] at ends

/-- Tables with the same numbers of changes, revisions and receipts. -/
structure SameNumbers (tables other : PgTables) : Prop where
  changes : other.changes = tables.changes
  nextSequence : other.nextSequence = tables.nextSequence
  revisionIds : other.revisionIds = tables.revisionIds
  mutations : other.mutations = tables.mutations

theorem SameNumbers.numberTaken_iff {tables other : PgTables} (same : SameNumbers tables other)
    (revisionId : String) : NumberTaken other revisionId ↔ NumberTaken tables revisionId := by
  rw [NumberTaken, NumberTaken, same.changes, same.nextSequence, same.revisionIds]

theorem entryId_injective {id : String} {first second : Nat}
    (same : PgTables.entryId id first = PgTables.entryId id second) : first = second :=
  Int.ofNat.inj (decimalText_injective ((String.append_right_inj _).mp same))

/-- The ids from the second on. -/
theorem entryTaken_succ_iff {tables : PgTables} {id : String} {index count : Nat}
    (free : ¬(tables.entryIds.lookup (PgTables.entryId id index)).isSome = true) :
    EntryTaken tables id index (count + 1) ↔ EntryTaken tables id (index + 1) count := by
  constructor
  · rintro ⟨position, lower, upper, taken⟩
    have other : position ≠ index := by
      rintro rfl
      exact free taken
    exact ⟨position, by omega, by omega, taken⟩
  · rintro ⟨position, lower, upper, taken⟩
    exact ⟨position, by omega, by omega, taken⟩

section Write

variable [Rfc3339] (tables : PgTables) {bookId deviceId : String} {mutation : SyncMutationDto}
  {stamp : Stamp} {revisionId : String}

omit [Rfc3339] in
theorem verdict_answer (new : tables.mutations.lookup (receiptKey bookId deviceId mutation) = none)
    (receipt : MutationReceiptDto) :
    verdict ((answer bookId deviceId mutation receipt).alone tables) = .ok receipt := by
  have stored : ∃ written, tables.insertReceipt (receiptKey bookId deviceId mutation) receipt =
      .ok written := ⟨_, by rw [PgTables.insertReceipt, new]; rfl⟩
  obtain ⟨written, writes⟩ := stored
  rw [answer, Script.alone_tryWrite_ok tables writes]
  rfl

omit [Rfc3339] in
/-- The revision and the receipt of an applied mutation. -/
theorem endsBy_revision
    (new : tables.mutations.lookup (receiptKey bookId deviceId mutation) = none)
    (receipt : MutationReceiptDto) :
    EndsBy (revisionId ∈ tables.revisionIds) receipt
      (verdict ((Script.tryWrite (fun tables : PgTables => tables.insertRevision revisionId) <|
        answer bookId deviceId mutation receipt).alone tables)) := by
  by_cases revised : revisionId ∈ tables.revisionIds
  · have fails : tables.insertRevision revisionId = .error (.unique .revisionId) := if_pos revised
    refine Or.inl ⟨revised, .revisionId, by decide, ?_⟩
    rw [Script.alone_tryWrite_error tables fails]
    rfl
  · have writes : tables.insertRevision revisionId = .ok { tables with
        revisionIds := revisionId :: tables.revisionIds } := if_neg revised
    refine Or.inr ⟨revised, ?_⟩
    rw [Script.alone_tryWrite_ok tables writes]
    refine verdict_answer _ ?_ receipt
    exact new

omit [Rfc3339] in
/-- The change, the revision and the receipt of an applied mutation. -/
theorem endsBy_numbers
    (new : tables.mutations.lookup (receiptKey bookId deviceId mutation) = none)
    (entityType operation : String) (version : Int) (payload : Json) :
    EndsBy (NumberTaken tables revisionId) (appliedReceipt mutation version)
      (verdict ((Script.tryWrite (fun tables : PgTables => tables.insertChange bookId
          stamp.commitId entityType mutation.entityId operation version payload) <|
        Script.tryWrite (fun tables : PgTables => tables.insertRevision revisionId) <|
        answer bookId deviceId mutation (appliedReceipt mutation version)).alone tables)) := by
  have numbered_iff : (tables.changes.any fun change => change.sequence = tables.nextSequence) =
      true ↔ ∃ change ∈ tables.changes, change.sequence = tables.nextSequence := by
    simp
  by_cases numbered : ∃ change ∈ tables.changes, change.sequence = tables.nextSequence
  · have fails : tables.insertChange bookId stamp.commitId entityType mutation.entityId operation
        version payload = .error (.unique .changeSequence) := if_pos (numbered_iff.mpr numbered)
    refine Or.inl ⟨Or.inl numbered, .changeSequence, by decide, ?_⟩
    rw [Script.alone_tryWrite_error tables fails]
    rfl
  · have writes : tables.insertChange bookId stamp.commitId entityType mutation.entityId operation
        version payload = .ok _ := if_neg (mt numbered_iff.mp numbered)
    rw [Script.alone_tryWrite_ok tables writes]
    refine EndsBy.congr (endsBy_revision _ ?_ _) ?_
    · exact new
    · exact (or_iff_right numbered).symm

omit [Rfc3339] in
/-- The entries, and the last statements of a create or an update after them. -/
theorem endsBy_entries (drafts : List EntryDraft) (index : Nat) (version : Int) (payload : Json)
    {other : PgTables} (same : SameNumbers tables other)
    (new : tables.mutations.lookup (receiptKey bookId deviceId mutation) = none) :
    EndsBy (EntryTaken other mutation.entityId index drafts.length ∨ NumberTaken tables revisionId)
      (appliedReceipt mutation version)
      (verdict ((insertEntries mutation.entityId drafts index
        (finishUpsert bookId deviceId mutation stamp revisionId version payload)).alone
          other)) := by
  induction drafts generalizing index other with
  | nil =>
    have none : ¬EntryTaken other mutation.entityId index 0 := by
      rintro ⟨position, lower, upper, _⟩
      omega
    have ends : EndsBy (NumberTaken other revisionId) (appliedReceipt mutation version)
        (verdict ((finishUpsert bookId deviceId mutation stamp revisionId version payload).alone
          other)) :=
      endsBy_numbers other (by rwa [same.mutations]) "transaction" "upsert" version payload
    exact ends.congr ((same.numberTaken_iff revisionId).trans (or_iff_right none).symm)
  | cons draft rest inductionHypothesis =>
    rw [insertEntries]
    by_cases taken : (other.entryIds.lookup
        (PgTables.entryId mutation.entityId index)).isSome = true
    · refine Or.inl ⟨Or.inl ⟨index, le_rfl, by simp, taken⟩, .entryId, by decide, ?_⟩
      rw [Script.alone_tryWrite_error other (if_pos taken : other.insertEntry mutation.entityId
        draft index = _)]
      rfl
    · rw [Script.alone_tryWrite_ok other (if_neg taken : other.insertEntry mutation.entityId
        draft index = _)]
      refine EndsBy.congr (inductionHypothesis (index + 1) ?_) ?_
      · exact ⟨same.changes, same.nextSequence, same.revisionIds, same.mutations⟩
      · refine or_congr_left ?_
        rw [List.length_cons, entryTaken_succ_iff taken]
        refine exists_congr fun position => and_congr_right fun lower =>
          and_congr_right fun _ => ?_
        have different : PgTables.entryId mutation.entityId position ≠
            PgTables.entryId mutation.entityId index := by
          intro equal
          have := entryId_injective equal
          omega
        rw [AList.lookup_insert_ne different]

variable (bookId deviceId mutation stamp revisionId) in
/-- An update writes the same whatever payload it logs. -/
theorem alone_updateScript (existing : TxRecord) (requestedOccurredAt : Option Timestamp)
    (drafts : List EntryDraft) :
    ∃ payload, (updateScript bookId deviceId mutation stamp revisionId existing
        requestedOccurredAt drafts).alone tables =
      (updateWrites bookId deviceId mutation stamp revisionId existing requestedOccurredAt drafts
        payload).alone tables := by
  simp only [updateScript]
  split
  · exact ⟨_, rfl⟩
  · rw [Script.alone_select]
    split
    · exact ⟨_, rfl⟩
    · exact ⟨_, rfl⟩

omit [Rfc3339] in
/-- The statement of an update that can meet the index. -/
theorem updateRow_eq {existing : TxRecord}
    (found : tables.rowIn bookId mutation.entityId = some existing)
    (current : mutation.baseVersion = existing.version)
    (requestedOccurredAt : Option Timestamp) :
    tables.updateRow bookId mutation existing requestedOccurredAt =
      tables.writeRow mutation.entityId
        { updatedRow mutation existing requestedOccurredAt [] with
          entries := existing.entries } := by
  rw [PgTables.updateRow, found]
  simp only
  rw [if_neg (not_not.mpr current.symm)]
  rfl

theorem verdict_update_violates {existing : TxRecord}
    (found : tables.rowIn bookId mutation.entityId = some existing)
    (current : mutation.baseVersion = existing.version)
    (requestedOccurredAt : Option Timestamp) (drafts : List EntryDraft)
    (violates : tables.violatesAutoEvent
      (updatedRow mutation existing requestedOccurredAt drafts) = true) :
    verdict ((updateScript bookId deviceId mutation stamp revisionId existing requestedOccurredAt
      drafts).alone tables) = .error (.unique .autoEvent) := by
  obtain ⟨payload, same⟩ := alone_updateScript tables bookId deviceId mutation stamp revisionId
    existing requestedOccurredAt drafts
  have fails : tables.updateRow bookId mutation existing requestedOccurredAt =
      .error (.unique .autoEvent) := by
    rw [updateRow_eq tables found current]
    exact if_pos violates
  rw [same, updateWrites, Script.alone_tryWrite_error tables fails]
  rfl

variable (stamp revisionId) in
theorem endsBy_update {existing : TxRecord}
    (found : tables.rowIn bookId mutation.entityId = some existing)
    (current : mutation.baseVersion = existing.version)
    (new : tables.mutations.lookup (receiptKey bookId deviceId mutation) = none)
    (requestedOccurredAt : Option Timestamp) (drafts : List EntryDraft)
    (free : ¬tables.violatesAutoEvent
      (updatedRow mutation existing requestedOccurredAt drafts) = true) :
    EndsBy (EntryTaken (tables.deleteEntries mutation.entityId) mutation.entityId 0 drafts.length ∨
        NumberTaken tables revisionId) (appliedReceipt mutation (existing.version + 1))
      (verdict ((updateScript bookId deviceId mutation stamp revisionId existing
        requestedOccurredAt drafts).alone tables)) := by
  obtain ⟨payload, same⟩ := alone_updateScript tables bookId deviceId mutation stamp revisionId
    existing requestedOccurredAt drafts
  have writes : tables.updateRow bookId mutation existing requestedOccurredAt = .ok _ :=
    (updateRow_eq tables found current requestedOccurredAt).trans (if_neg free)
  rw [same, updateWrites, Script.alone_tryWrite_ok tables writes, Script.alone_write]
  refine EndsBy.congr (endsBy_entries tables drafts 0 _ payload ?_ new) ?_
  · exact ⟨rfl, rfl, rfl, rfl⟩
  · exact Iff.rfl

omit [Rfc3339] in
/-- The row of a create that duplicates nothing meets no index. -/
theorem insertedRow_free (original : tables.duplicateOf bookId mutation = none)
    (requestedOccurredAt : Option Timestamp) (now : Timestamp) :
    ¬tables.violatesAutoEvent (insertedRow bookId mutation requestedOccurredAt [] now) = true := by
  rw [violatesAutoEvent_iff]
  rintro ⟨owner, fingerprint, other, taken, inIndex, -, stored, records⟩
  rw [autoLedgerIndex_eq_some, TxRecord.records] at inIndex
  simp only [Bool.and_eq_true, decide_eq_true_eq] at inIndex
  obtain ⟨⟨⟨rfl, autoLedger⟩, fingerprinted⟩, -⟩ := inIndex
  exact duplicateIn_ne_none (autoLedgerFingerprint_eq autoLedger fingerprinted) stored records
    original

variable (stamp revisionId) in
theorem endsBy_insert (original : tables.duplicateOf bookId mutation = none)
    (new : tables.mutations.lookup (receiptKey bookId deviceId mutation) = none)
    (requestedOccurredAt : Option Timestamp) (drafts : List EntryDraft) :
    EndsBy ((tables.transactions.lookup mutation.entityId).isSome = true ∨
        EntryTaken tables mutation.entityId 0 drafts.length ∨ NumberTaken tables revisionId)
      (appliedReceipt mutation 1)
      (verdict ((insertScript bookId deviceId mutation stamp revisionId requestedOccurredAt
        drafts).alone tables)) := by
  rw [insertScript]
  by_cases taken : (tables.transactions.lookup mutation.entityId).isSome = true
  · have fails : tables.insertRow bookId mutation requestedOccurredAt stamp.now =
        .error (.unique .transactionId) := if_pos taken
    refine Or.inl ⟨Or.inl taken, .transactionId, by decide, ?_⟩
    rw [Script.alone_tryWrite_error tables fails]
    rfl
  · have writes : tables.insertRow bookId mutation requestedOccurredAt stamp.now = .ok _ :=
      (if_neg taken).trans (if_neg (insertedRow_free tables original requestedOccurredAt _))
    rw [Script.alone_tryWrite_ok tables writes]
    refine EndsBy.congr (endsBy_entries tables drafts 0 _ _ ?_ new) ?_
    · exact ⟨rfl, rfl, rfl, rfl⟩
    · exact (or_iff_right taken).symm

variable (stamp revisionId) in
omit [Rfc3339] in
theorem endsBy_delete {existing : TxRecord}
    (found : tables.rowIn bookId mutation.entityId = some existing)
    (current : mutation.baseVersion = 0 ∨ mutation.baseVersion = existing.version)
    (new : tables.mutations.lookup (receiptKey bookId deviceId mutation) = none) :
    EndsBy (NumberTaken tables revisionId) (appliedReceipt mutation (existing.version + 1))
      (verdict ((deleteScript bookId deviceId mutation stamp revisionId).alone tables)) := by
  have writes : tables.markDeleted bookId mutation.entityId existing.version =
      .ok { tables with
        transactions := tables.transactions.insert mutation.entityId
          { existing with deleted := true, version := existing.version + 1 } } := by
    rw [PgTables.markDeleted, found]
    exact if_neg (not_not.mpr rfl)
  rw [deleteScript, Script.alone_select, found]
  simp only
  rw [if_neg (by tauto), Script.alone_tryWrite_ok tables writes]
  refine EndsBy.congr (endsBy_numbers _ ?_ "transaction" "delete" _ _) ?_
  · exact new
  · exact Iff.rfl

end Write

/-! ### The codes of refusals -/

/-- A receipt that does not say that the mutation was deduplicated. -/
def Plain (receipt : MutationReceiptDto) : Prop := receipt.resultCode ≠ "AUTO_LEDGER_DEDUPED"

theorem plain_applied (mutation : SyncMutationDto) (version : Int) :
    Plain (appliedReceipt mutation version) := by
  simp [Plain, appliedReceipt]

theorem checkedDrafts_plain [Rfc3339] {mutation : SyncMutationDto} {receipt : MutationReceiptDto}
    (failed : checkedDrafts mutation = .error receipt) : Plain receipt := by
  unfold checkedDrafts at failed
  split at failed
  · rename_i occurred
    cases failed
    rw [parseOccurredAt_error occurred]
    simp [Plain, rejectedReceipt]
  · split at failed
    · rename_i parsed
      cases failed
      rw [parseEntries_error parsed]
      simp [Plain, rejectedReceipt]
    · split at failed
      · rename_i rejected
        cases failed
        unfold validateOrReject at rejected
        split at rejected
        · cases rejected
          simp [Plain, rejectedReceipt]
        · split at rejected
          · cases rejected
          · split at rejected
            · cases rejected
            · cases rejected
              simp [Plain, rejectedReceipt]
            · cases rejected
              simp [Plain, rejectedReceipt]
      · cases failed

theorem parseAccountPayload_plain {bookId : String} {mutation : SyncMutationDto}
    {receipt : MutationReceiptDto} (failed : parseAccountPayload bookId mutation = .error receipt) :
    Plain receipt := by
  simp only [parseAccountPayload] at failed
  split at failed
  · cases failed
    simp [Plain, rejectedReceipt]
  · split at failed
    · cases failed
      simp [Plain, rejectedReceipt]
    · split at failed
      · split at failed
        · split at failed
          · cases failed
          · cases failed
            simp [Plain, rejectedReceipt]
        · cases failed
          simp [Plain, rejectedReceipt]
      · cases failed
        simp [Plain, rejectedReceipt]

section Accounts

variable (bookId deviceId : String) (mutation : SyncMutationDto) (stamp : Stamp)

theorem answers_answer {receipt : MutationReceiptDto} (plain : Plain receipt) :
    (answer bookId deviceId mutation receipt).Answers Plain :=
  fun _ => plain

theorem answers_refuse {code : String} (version : Option Int)
    (other : code ≠ "AUTO_LEDGER_DEDUPED") :
    (answer bookId deviceId mutation (rejectedReceipt mutation code version)).Answers Plain :=
  answers_answer bookId deviceId mutation other

theorem answers_validParent (accountType : String) (parentAccountId : Option String)
    {next : Bool → PgScript} (answers : ∀ valid, (next valid).Answers Plain) :
    (validParentScript bookId mutation accountType parentAccountId next).Answers Plain := by
  unfold validParentScript
  split
  · exact answers true
  · split
    · exact answers false
    · intro parent
      cases parent with
      | none => exact answers false
      | some parent =>
        simp only
        split
        · exact answers false
        · exact fun children => answers _

theorem answers_finishAccount (name accountType currency : String)
    (parentAccountId : Option String) (version : Int) :
    (finishAccount bookId deviceId mutation stamp name accountType currency parentAccountId
      version).Answers Plain :=
  fun _ => answers_answer bookId deviceId mutation (plain_applied mutation version)

/-- An account mutation is never answered as deduplicated. -/
theorem answers_accountWrite (payload : AccountPayload) (existing : Option AccountRecord) :
    (accountWriteScript bookId deviceId mutation stamp payload existing).Answers Plain := by
  have refuse (code : String) (version : Option Int) (other : code ≠ "AUTO_LEDGER_DEDUPED") :=
    answers_refuse bookId deviceId mutation version other
  unfold accountWriteScript
  split
  · cases existing with
    | some existing => exact refuse _ _ (by simp)
    | none =>
      refine answers_validParent bookId mutation _ _ fun valid => ?_
      split
      · exact fun _ => answers_finishAccount bookId deviceId mutation stamp _ _ _ _ _
      · exact refuse _ _ (by simp)
  · cases existing with
    | none => exact refuse _ _ (by simp)
    | some existing =>
      simp only
      split
      · exact refuse _ _ (by simp)
      · refine answers_validParent bookId mutation _ _ fun valid => ?_
        split
        · exact fun _ => answers_finishAccount bookId deviceId mutation stamp _ _ _ _ _
        · exact refuse _ _ (by simp)

end Accounts

/-! ### The condition -/

section Decided

variable [Rfc3339] {tables : PgTables} {step : PushStep} {revisionId : String}

/-- The receipt of a committed transaction says what its code means. -/
theorem dedupesTruly_of_ok {receipt : MutationReceiptDto}
    (ended : aloneVerdict tables step revisionId = .ok receipt)
    (truly : Plain receipt ∨ HoldsFingerprint tables step) :
    DedupesTruly tables step revisionId := by
  have same : aloneReceipt tables step revisionId = receipt := by
    rw [aloneReceipt, ended]
    rfl
  refine ⟨fun deduped => ?_, fun key failed => ?_⟩
  · rw [same] at deduped
    exact truly.resolve_left fun plain => plain deduped
  · rw [ended] at failed
    cases failed

/-- The failure of a mutation that is not for a transaction is a rejection. -/
theorem dedupesTruly_of_error {failure : PgFailure}
    (ended : aloneVerdict tables step revisionId = .error failure)
    (other : step.mutation.entityType ≠ "transaction") :
    DedupesTruly tables step revisionId := by
  have same : aloneReceipt tables step revisionId = dbErrorReceipt step.mutation := by
    rw [aloneReceipt, ended, verdictReceipt]
    cases failure with
    | unique key => exact if_neg other
    | other => rfl
  refine ⟨fun deduped => ?_, fun _ _ _ applied => ?_⟩
  · rw [same] at deduped
    simp [dbErrorReceipt, rejectedReceipt] at deduped
  · rw [same] at applied
    simp [dbErrorReceipt, rejectedReceipt] at applied

/-- A mutation that meets a unique key is answered as deduplicated if it carries a
fingerprint. -/
theorem dedupesTruly_unique_iff {key : UniqueKey}
    (ended : aloneVerdict tables step revisionId = .error (.unique key))
    (isTransaction : step.mutation.entityType = "transaction") :
    DedupesTruly tables step revisionId ↔
      ((autoLedgerFingerprint step.mutation).isSome = true →
        key = .autoEvent ∧ HoldsFingerprint tables step) := by
  have same : aloneReceipt tables step revisionId = uniqueViolationReceipt step.mutation := by
    rw [aloneReceipt, ended, verdictReceipt]
    exact if_pos isTransaction
  by_cases captured : (autoLedgerFingerprint step.mutation).isSome = true
  · rw [uniqueViolationReceipt, if_pos captured] at same
    refine ⟨fun truly _ => ?_, fun truly => ?_⟩
    · refine ⟨?_, truly.holds (by rw [same]; rfl)⟩
      by_contra other
      exact truly.otherKeys key ended other (by rw [same]; rfl)
    · refine ⟨fun _ => (truly captured).2, fun again failed other => ?_⟩
      rw [ended] at failed
      cases failed
      exact absurd (truly captured).1 other
  · rw [uniqueViolationReceipt, if_neg captured] at same
    refine ⟨fun _ carried => absurd carried captured, fun _ => ?_⟩
    refine ⟨fun deduped => ?_, fun _ _ _ applied => ?_⟩
    · rw [same] at deduped
      simp [dbErrorReceipt, rejectedReceipt] at deduped
    · rw [same] at applied
      simp [dbErrorReceipt, rejectedReceipt] at applied

theorem dedupesTruly_endsBy_iff {taken : Prop} {receipt : MutationReceiptDto}
    (ends : EndsBy taken receipt (aloneVerdict tables step revisionId)) (plain : Plain receipt)
    (isTransaction : step.mutation.entityType = "transaction") :
    DedupesTruly tables step revisionId ↔
      ((autoLedgerFingerprint step.mutation).isSome = true → ¬taken) := by
  rcases ends with ⟨taken, key, other, ended⟩ | ⟨free, ended⟩
  · rw [dedupesTruly_unique_iff ended isTransaction]
    refine forall_congr' fun _ => ?_
    simp [other, taken]
  · exact ⟨fun _ _ => free, fun _ => dedupesTruly_of_ok ended (Or.inl plain)⟩

/-- A verdict that is a receipt needs no condition where no key is met. -/
theorem dedupesTruly_iff_of_ok (receipt : MutationReceiptDto)
    (ended : aloneVerdict tables step revisionId = .ok receipt)
    (truly : Plain receipt ∨ HoldsFingerprint tables step)
    (free : ¬MeetsForeignKey tables step revisionId) :
    DedupesTruly tables step revisionId ↔
      ((autoLedgerFingerprint step.mutation).isSome = true →
        ¬MeetsForeignKey tables step revisionId) :=
  ⟨fun _ _ => free, fun _ => dedupesTruly_of_ok ended truly⟩

section New

variable (new : tables.mutations.lookup step.key = none)

include new

variable (revisionId) in
theorem aloneVerdict_delete (isTransaction : step.mutation.entityType = "transaction")
    (isDelete : step.mutation.operation = "delete") :
    aloneVerdict tables step revisionId =
      verdict ((deleteScript step.bookId step.deviceId step.mutation step.stamp
        revisionId).alone tables) := by
  have unanswered : tables.mutations.lookup
      (receiptKey step.bookId step.deviceId step.mutation) = none := new
  rw [aloneVerdict, pgPlan, if_neg (by rw [isTransaction]; simp), if_neg (not_not.mpr isTransaction),
    if_pos isDelete]
  simp only [transactionScript, takeLock, Script.alone_select]
  rw [unanswered]

variable (revisionId) in
/-- The verdict on a create or an update whose payload is well formed. -/
theorem aloneVerdict_upsert (isTransaction : step.mutation.entityType = "transaction")
    (notDelete : step.mutation.operation ≠ "delete") {requestedOccurredAt : Option Timestamp}
    {drafts : List EntryDraft}
    (checked : checkedDrafts step.mutation = .ok (requestedOccurredAt, drafts)) :
    aloneVerdict tables step revisionId =
      if tables.countAccounts step.bookId (accountIds drafts) ≠ (accountIds drafts).length then
        .ok (rejectedReceipt step.mutation "ACCOUNT_NOT_FOUND" none)
      else verdict ((upsertScript step.bookId step.deviceId step.mutation step.stamp revisionId
        requestedOccurredAt drafts).alone tables) := by
  have unanswered : tables.mutations.lookup
      (receiptKey step.bookId step.deviceId step.mutation) = none := new
  rw [aloneVerdict, pgPlan, if_neg (by rw [isTransaction]; simp), if_neg (not_not.mpr isTransaction),
    if_neg notDelete, checked]
  simp only [transactionScript, takeLock, Script.alone_select]
  rw [unanswered]
  simp only [Script.alone_select]
  split
  · exact verdict_answer tables unanswered _
  · rfl

/-- A delete means what it says unless it meets a number in use. -/
theorem dedupesTruly_delete_iff (isTransaction : step.mutation.entityType = "transaction")
    (isDelete : step.mutation.operation = "delete") :
    DedupesTruly tables step revisionId ↔
      ((autoLedgerFingerprint step.mutation).isSome = true →
        ¬MeetsForeignKey tables step revisionId) := by
  have ended := aloneVerdict_delete revisionId new isTransaction isDelete
  have meets_iff : MeetsForeignKey tables step revisionId ↔
      ∃ existing, tables.rowIn step.bookId step.mutation.entityId = some existing ∧
        (step.mutation.baseVersion = 0 ∨ step.mutation.baseVersion = existing.version) ∧
        NumberTaken tables revisionId := by
    constructor
    · rintro (⟨_, _, admitted⟩ | ⟨_, _, _, admitted⟩ | ⟨existing, -, -, found, current, taken⟩)
      · exact absurd isDelete admitted.notDelete
      · exact absurd isDelete admitted.notDelete
      · exact ⟨existing, found, current, taken⟩
    · rintro ⟨existing, found, current, taken⟩
      exact .deleted existing isTransaction isDelete found current taken
  cases found : tables.rowIn step.bookId step.mutation.entityId with
  | none =>
    refine dedupesTruly_iff_of_ok (rejectedReceipt step.mutation "NOT_FOUND" none)
      ?_ (Or.inl (by simp [Plain, rejectedReceipt])) ?_
    · rw [ended, deleteScript, Script.alone_select, found]
      exact verdict_answer tables new _
    · rw [meets_iff]
      rintro ⟨existing, present, -⟩
      rw [found] at present
      cases present
  | some existing =>
    by_cases current : step.mutation.baseVersion = 0 ∨
        step.mutation.baseVersion = existing.version
    · have ends := endsBy_delete tables step.stamp revisionId found current new
      rw [← ended] at ends
      rw [dedupesTruly_endsBy_iff ends (plain_applied _ _) isTransaction, meets_iff]
      refine forall_congr' fun _ => not_congr ⟨fun taken => ⟨existing, found, current, taken⟩, ?_⟩
      rintro ⟨_, _, _, taken⟩
      exact taken
    · refine dedupesTruly_iff_of_ok (rejectedReceipt step.mutation
        "LEDGER_VERSION_CONFLICT" (some existing.version)) ?_
        (Or.inl (by simp [Plain, rejectedReceipt])) ?_
      · rw [ended, deleteScript, Script.alone_select, found]
        simp only
        rw [if_pos (by tauto)]
        exact verdict_answer tables new _
      · rw [meets_iff]
        rintro ⟨other, present, again, -⟩
        rw [found] at present
        cases present
        exact current again

/-- A create means what it says unless its write meets a key in use. -/
theorem dedupesTruly_insert_iff {requestedOccurredAt : Option Timestamp}
    {drafts : List EntryDraft}
    (admitted : AdmittedPg tables.toPgStore step.bookId step.mutation requestedOccurredAt drafts)
    (absent : tables.rowIn step.bookId step.mutation.entityId = none) :
    DedupesTruly tables step revisionId ↔
      ((autoLedgerFingerprint step.mutation).isSome = true →
        ¬MeetsForeignKey tables step revisionId) := by
  have ended := aloneVerdict_upsert revisionId new admitted.isTransaction
    admitted.notDelete admitted.checked
  rw [if_neg (not_not.mpr admitted.counted), upsertScript, Script.alone_select, absent] at ended
  have meets_iff : MeetsForeignKey tables step revisionId ↔
      tables.duplicateOf step.bookId step.mutation = none ∧
        ((tables.transactions.lookup step.mutation.entityId).isSome = true ∨
          EntryTaken tables step.mutation.entityId 0 drafts.length ∨
          NumberTaken tables revisionId) := by
    constructor
    · rintro (⟨_, _, again, -, original, taken⟩ | ⟨_, _, _, -, found, -⟩ |
        ⟨_, -, isDelete, -⟩)
      · have same := again.checked
        rw [admitted.checked] at same
        cases same
        exact ⟨original, taken⟩
      · rw [absent] at found
        cases found
      · exact absurd isDelete admitted.notDelete
    · rintro ⟨original, taken⟩
      exact .created _ _ admitted absent original taken
  cases searched : tables.duplicateOf step.bookId step.mutation with
  | some duplicate =>
    obtain ⟨fingerprint, id, named, stored, records⟩ := duplicateIn_eq_some searched
    refine dedupesTruly_iff_of_ok (dedupedReceipt step.mutation duplicate.version) ?_
      (Or.inr ⟨fingerprint, named, id, duplicate, stored, records⟩) ?_
    · rw [ended]
      simp only
      rw [if_pos (by rw [named]; rfl), Script.alone_select, searched]
      exact verdict_answer tables new _
    · rw [meets_iff, searched]
      rintro ⟨original, -⟩
      cases original
  | none =>
    have inserted : aloneVerdict tables step revisionId =
        verdict ((insertScript step.bookId step.deviceId step.mutation step.stamp revisionId
          requestedOccurredAt drafts).alone tables) := by
      rw [ended]
      simp only
      split
      · rw [Script.alone_select, searched]
      · rfl
    have ends := endsBy_insert tables step.stamp revisionId searched new requestedOccurredAt
      drafts
    rw [← inserted] at ends
    rw [dedupesTruly_endsBy_iff ends (plain_applied _ _) admitted.isTransaction, meets_iff]
    exact forall_congr' fun _ => not_congr (and_iff_right searched).symm

/-- An update means what it says unless it meets the index over another fingerprint, or
another key. -/
theorem dedupesTruly_update_iff {requestedOccurredAt : Option Timestamp}
    {drafts : List EntryDraft} {existing : TxRecord}
    (admitted : AdmittedPg tables.toPgStore step.bookId step.mutation requestedOccurredAt drafts)
    (found : tables.rowIn step.bookId step.mutation.entityId = some existing) :
    DedupesTruly tables step revisionId ↔
      ((autoLedgerFingerprint step.mutation).isSome = true →
        ¬MeetsForeignKey tables step revisionId) := by
  have ended := aloneVerdict_upsert revisionId new admitted.isTransaction
    admitted.notDelete admitted.checked
  rw [if_neg (not_not.mpr admitted.counted), upsertScript, Script.alone_select, found] at ended
  simp only at ended
  have meets_iff : MeetsForeignKey tables step revisionId ↔
      (step.mutation.operation ≠ "create" ∧ step.mutation.baseVersion = existing.version) ∧
        if tables.violatesAutoEvent
            (updatedRow step.mutation existing requestedOccurredAt drafts) = true
        then ¬HoldsFingerprint tables step
        else EntryTaken (tables.deleteEntries step.mutation.entityId) step.mutation.entityId 0
            drafts.length ∨ NumberTaken tables revisionId := by
    constructor
    · rintro (⟨_, _, -, absent, -⟩ | ⟨_, _, other, again, present, current, taken⟩ |
        ⟨_, -, isDelete, -⟩)
      · rw [found] at absent
        cases absent
      · have same := again.checked
        rw [admitted.checked] at same
        rw [found] at present
        cases same
        cases present
        exact ⟨current, taken⟩
      · exact absurd isDelete admitted.notDelete
    · rintro ⟨current, taken⟩
      exact .updated _ _ _ admitted found current taken
  by_cases conflict : step.mutation.operation = "create" ∨
      step.mutation.baseVersion ≠ existing.version
  · refine dedupesTruly_iff_of_ok (rejectedReceipt step.mutation
      "LEDGER_VERSION_CONFLICT" (some existing.version)) ?_
      (Or.inl (by simp [Plain, rejectedReceipt])) ?_
    · rw [ended, if_pos conflict]
      exact verdict_answer tables new _
    · rw [meets_iff]
      tauto
  · rw [if_neg conflict] at ended
    obtain ⟨notCreate, current⟩ := not_or.mp conflict
    have current := not_not.mp current
    have asked : step.mutation.operation ≠ "create" ∧
        step.mutation.baseVersion = existing.version := ⟨notCreate, current⟩
    rw [meets_iff, and_iff_right asked]
    by_cases violates : tables.violatesAutoEvent
        (updatedRow step.mutation existing requestedOccurredAt drafts) = true
    · rw [verdict_update_violates tables found current requestedOccurredAt drafts violates] at ended
      rw [dedupesTruly_unique_iff ended admitted.isTransaction, if_pos violates, not_not]
      exact forall_congr' fun _ => and_iff_right rfl
    · have ends := endsBy_update tables step.stamp revisionId found current new
        requestedOccurredAt drafts violates
      rw [← ended] at ends
      rw [dedupesTruly_endsBy_iff ends (plain_applied _ _) admitted.isTransaction, if_neg violates]

omit new in
/-- What is not admitted meets no key. -/
theorem not_meets_of_unchecked (notDelete : step.mutation.operation ≠ "delete")
    (refused : ∀ requestedOccurredAt drafts,
      ¬AdmittedPg tables.toPgStore step.bookId step.mutation requestedOccurredAt drafts) :
    ¬MeetsForeignKey tables step revisionId := by
  rintro (⟨_, _, admitted⟩ | ⟨_, _, _, admitted⟩ | ⟨_, -, isDelete⟩)
  · exact refused _ _ admitted
  · exact refused _ _ admitted
  · exact notDelete isDelete

theorem dedupesTruly_transaction_iff (isTransaction : step.mutation.entityType = "transaction") :
    DedupesTruly tables step revisionId ↔
      ((autoLedgerFingerprint step.mutation).isSome = true →
        ¬MeetsForeignKey tables step revisionId) := by
  by_cases isDelete : step.mutation.operation = "delete"
  · exact dedupesTruly_delete_iff new isTransaction isDelete
  cases checked : checkedDrafts step.mutation with
  | error receipt =>
    refine dedupesTruly_iff_of_ok receipt ?_ (Or.inl (checkedDrafts_plain checked)) ?_
    · rw [aloneVerdict, pgPlan, if_neg (by rw [isTransaction]; simp),
        if_neg (not_not.mpr isTransaction), if_neg isDelete, checked]
    · refine not_meets_of_unchecked isDelete fun _ _ admitted => ?_
      have same := admitted.checked
      rw [checked] at same
      cases same
  | ok pair =>
    obtain ⟨requestedOccurredAt, drafts⟩ := pair
    by_cases counted : tables.countAccounts step.bookId (accountIds drafts) =
        (accountIds drafts).length
    · have admitted : AdmittedPg tables.toPgStore step.bookId step.mutation requestedOccurredAt
          drafts := ⟨isTransaction, isDelete, checked, counted⟩
      cases found : tables.rowIn step.bookId step.mutation.entityId with
      | none => exact dedupesTruly_insert_iff new admitted found
      | some existing => exact dedupesTruly_update_iff new admitted found
    · have ended := aloneVerdict_upsert revisionId new isTransaction isDelete checked
      rw [if_pos counted] at ended
      refine dedupesTruly_iff_of_ok _ ended (Or.inl (by simp [Plain, rejectedReceipt])) ?_
      refine not_meets_of_unchecked isDelete fun _ _ admitted => counted ?_
      have same := admitted.checked
      rw [checked] at same
      cases same
      exact admitted.counted

/-- Anything else is refused or rejected where it meets a key. -/
theorem dedupesTruly_other (other : step.mutation.entityType ≠ "transaction") :
    DedupesTruly tables step revisionId := by
  have unanswered : tables.mutations.lookup
      (receiptKey step.bookId step.deviceId step.mutation) = none := new
  by_cases isAccount : step.mutation.entityType = "account"
  · cases ended : aloneVerdict tables step revisionId with
    | error failure => exact dedupesTruly_of_error ended other
    | ok receipt =>
      refine dedupesTruly_of_ok ended (Or.inl ?_)
      rw [aloneVerdict, pgPlan, if_pos isAccount] at ended
      simp only [accountScript, takeLock, Script.alone_select] at ended
      rw [unanswered] at ended
      cases parsed : parseAccountPayload step.bookId step.mutation with
      | error refused =>
        rw [parsed] at ended
        have same := (verdict_answer tables unanswered refused).symm.trans ended
        cases same
        exact parseAccountPayload_plain parsed
      | ok payload =>
        rw [parsed] at ended
        simp only [Script.alone_select] at ended
        have answers := answers_accountWrite step.bookId step.deviceId step.mutation step.stamp
          payload (tables.accounts.lookup step.mutation.entityId)
        cases ran : (accountWriteScript step.bookId step.deviceId step.mutation step.stamp payload
            (tables.accounts.lookup step.mutation.entityId)).alone tables with
        | error pair =>
          rw [ran] at ended
          cases ended
        | ok pair =>
          rw [ran] at ended
          cases ended
          exact answers.alone ran
  · have ended : aloneVerdict tables step revisionId =
        .ok (rejectedReceipt step.mutation "UNSUPPORTED_MUTATION" none) := by
      rw [aloneVerdict, pgPlan, if_neg isAccount, if_pos other]
    exact dedupesTruly_of_ok ended (Or.inl (by simp [Plain, rejectedReceipt]))

end New

/-- What `push` answers means what it says: deduplicated stands for a live automatic booking with
the fingerprint, and a unique key other than their index is not answered as applied. -/
structure AnswersTruly (tables : PgTables) (step : PushStep) (revisionId : String) : Prop where
  holds : ∀ receipt, (pushTurn .quiet tables step revisionId).2 = some receipt →
    receipt.resultCode = "AUTO_LEDGER_DEDUPED" → HoldsFingerprint tables step
  otherKeys : ∀ receipt key, (pushTurn .quiet tables step revisionId).2 = some receipt →
    tables.mutations.lookup step.key = none →
    aloneVerdict tables step revisionId = .error (.unique key) → key ≠ .autoEvent →
    receipt.status ≠ "applied"

variable (revisionId) in
theorem pushTurn_quiet_new (new : tables.mutations.lookup step.key = none) :
    (pushTurn .quiet tables step revisionId).2 = some (aloneReceipt tables step revisionId) := by
  have unanswered : (TurnSurroundings.quiet.beforeLookup tables).mutations.lookup step.key =
      none := new
  rw [pushTurn_answer _ _ _ _ rfl, unanswered]
  exact (if_neg Bool.false_ne_true).trans
    (congrArg some (processStatements_quiet tables step revisionId))

/-- Over every database and every mutation: a recorded answer is repeated, whatever the book
holds by now, and a new mutation with a fingerprint must not meet a key that says nothing about
it. -/
theorem answersTruly_iff (tables : PgTables) (step : PushStep) (revisionId : String) :
    AnswersTruly tables step revisionId ↔
      (∀ receipt, tables.mutations.lookup step.key = some receipt →
          receipt.resultCode = "AUTO_LEDGER_DEDUPED" → HoldsFingerprint tables step) ∧
        (tables.mutations.lookup step.key = none →
          (autoLedgerFingerprint step.mutation).isSome = true →
          ¬MeetsForeignKey tables step revisionId) := by
  cases found : tables.mutations.lookup step.key with
  | some recorded =>
    have replayed : (pushTurn .quiet tables step revisionId).2 =
        some (recorded.replayed step.mutation.mutationId) := by
      have answered : (TurnSurroundings.quiet.beforeLookup tables).mutations.lookup step.key =
          some recorded := found
      rw [pushTurn_answer _ _ _ _ rfl, answered]
    constructor
    · intro truly
      refine ⟨fun receipt same deduped => ?_, fun impossible => by cases impossible⟩
      cases same
      exact truly.holds _ replayed deduped
    · rintro ⟨recordedTruly, -⟩
      refine ⟨fun receipt answered deduped => ?_, fun _ _ _ new => ?_⟩
      · rw [replayed] at answered
        cases answered
        exact recordedTruly recorded rfl deduped
      · rw [found] at new
        cases new
  | none =>
    have answer := pushTurn_quiet_new revisionId found
    have truly_iff : AnswersTruly tables step revisionId ↔ DedupesTruly tables step revisionId := by
      constructor
      · exact fun truly => ⟨truly.holds _ answer, fun key => truly.otherKeys _ key answer found⟩
      · intro truly
        refine ⟨fun receipt answered => ?_, fun receipt key answered _ => ?_⟩
        · rw [answer] at answered
          cases answered
          exact truly.holds
        · rw [answer] at answered
          cases answered
          exact truly.otherKeys key
    have noReceipt : ∀ receipt, (none : Option MutationReceipt) = some receipt →
        receipt.resultCode = "AUTO_LEDGER_DEDUPED" → HoldsFingerprint tables step := by
      intro receipt impossible
      cases impossible
    rw [truly_iff, and_iff_right noReceipt, forall_prop_of_true rfl]
    by_cases isTransaction : step.mutation.entityType = "transaction"
    · exact dedupesTruly_transaction_iff found isTransaction
    · refine ⟨fun _ _ meets => isTransaction ?_, fun _ => dedupesTruly_other found isTransaction⟩
      cases meets with
      | created _ _ admitted => exact admitted.isTransaction
      | updated _ _ _ admitted => exact admitted.isTransaction
      | deleted _ isTransaction => exact isTransaction

end Decided

/-! ### The id of a transaction of another book -/

/-- A captured payment of book `A`, under an id that book `B` has used. -/
def capturedUnderUsedId : PushStep :=
  transferStep "A" "m1" "t1" "create" 0 [("source", .str "auto_ledger"),
    ("sourceEventFingerprint",
      .str "0123456789abcdef0123456789abcdef0123456789abcdef0123456789abcdef")]

/-- The tables of both books. -/
def bothTables : PgTables where
  toPgStore := .initial bothBooks
  entryIds := ∅
  revisionIds := []

/-- Book `B` creates `t1`, and then the payment is pushed: it is answered as deduplicated, book `A`
holds no automatic booking, and nothing of the payment is stored. -/
theorem used_id_is_deduped : let _ := epochClock
    let tables := (pushTurn .quiet bothTables (transferStep "B" "m0" "t1" "create" 0 []) "r0").1
    let answered := pushTurn .quiet tables capturedUnderUsedId "r1"
    answered.2 = some (dedupedReceipt capturedUnderUsedId.mutation 1) ∧
      ¬AnswersTruly tables capturedUnderUsedId "r1" ∧
      (answered.1.transactions.values.all fun row => row.bookId ≠ "A") = true := by
  intro clock tables answered
  have receipt : answered.2 = some (dedupedReceipt capturedUnderUsedId.mutation 1) := by decide
  refine ⟨receipt, fun truly => ?_, by decide⟩
  obtain ⟨fingerprint, -, id, row, stored, records⟩ := truly.holds _ receipt rfl
  have foreign : ∀ row ∈ tables.transactions.values, row.bookId ≠ "A" := by decide
  rw [TxRecord.records, Bool.and_eq_true, Bool.and_eq_true, Bool.and_eq_true] at records
  exact foreign row (KeyMap.mem_values_of_lookup stored) (of_decide_eq_true records.1.1.1)

end Ledgerly
