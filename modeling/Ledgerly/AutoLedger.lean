/-
This file settles the uniqueness of automatic bookings in the memory backend.

PostgreSQL holds a partial unique index over the live `auto_ledger` transactions of a
book and their fingerprints. The memory backend has no index: it looks for a duplicate
when it inserts, and only then. An update writes source, fingerprint and `deleted = false`
without looking, so it can give a transaction the fingerprint of another one, or bring a
deleted transaction back next to its replacement. The theorem says that these updates are
the only way to lose uniqueness.
-/

import Ledgerly.MemoryStep

namespace Ledgerly

/-- The entry of a transaction in the index `uq_transactions_auto_event`. -/
def TxRecord.autoLedgerIndex (transaction : TxRecord) : Option (String × String) :=
  if transaction.source = some "auto_ledger" ∧ transaction.deleted = false then
    transaction.sourceEventFingerprint.map fun fingerprint => (transaction.bookId, fingerprint)
  else none

/-- Each book has at most one live `auto_ledger` transaction for a fingerprint. -/
def MemoryStore.UniqueAutoLedger (store : MemoryStore) : Prop :=
  store.transactions.UniqueBy TxRecord.autoLedgerIndex

theorem autoLedgerIndex_eq_some {transaction : TxRecord} {bookId fingerprint : String} :
    transaction.autoLedgerIndex = some (bookId, fingerprint) ↔
      transaction.records bookId fingerprint = true := by
  unfold TxRecord.autoLedgerIndex TxRecord.records
  split
  · rename_i indexed
    simp [indexed, and_comm]
  · rename_i notIndexed
    simp only [reduceCtorEq, false_iff, Bool.and_eq_true, decide_eq_true_eq, Bool.not_eq_true',
      not_and]
    tauto

variable [Rfc3339]

/-- A new mutation that updates a stored transaction to a live `auto_ledger` one with a
fingerprint that another live transaction of the book already records. -/
def DuplicatesAutoLedger (store : MemoryStore) (step : PushStep) : Prop :=
  store.mutations.lookup step.key = none ∧ ∃ existing requestedOccurredAt drafts fingerprint,
    AcceptsUpsert store step.bookId step.mutation (some existing) requestedOccurredAt drafts ∧
      (parseSource step.mutation).or existing.source = some "auto_ledger" ∧
      parseSourceEventFingerprint step.mutation = some fingerprint ∧
      ∃ other taken, other ≠ step.mutation.entityId ∧
        store.transactions.lookup other = some taken ∧
        taken.records step.bookId fingerprint = true

omit [Rfc3339] in
/-- A fingerprint on an `auto_ledger` mutation is what it is deduplicated by. -/
theorem autoLedgerFingerprint_eq {mutation : SyncMutationDto} {fingerprint : String}
    (autoLedger : parseSource mutation = some "auto_ledger")
    (fingerprinted : parseSourceEventFingerprint mutation = some fingerprint) :
    autoLedgerFingerprint mutation = some fingerprint := by
  rw [autoLedgerFingerprint, if_pos autoLedger, fingerprinted]

omit [Rfc3339] in
/-- The entry of the record an accepted create or update writes. -/
theorem upsertRecord_index (bookId : String) (mutation : SyncMutationDto)
    (existing : Option TxRecord) (requestedOccurredAt : Option Timestamp)
    (drafts : List EntryDraft) (now : Timestamp) {owner fingerprint : String} :
    (upsertRecord bookId mutation existing requestedOccurredAt drafts now).autoLedgerIndex =
        some (owner, fingerprint) ↔
      owner = bookId ∧
        (parseSource mutation).or (existing.bind TxRecord.source) = some "auto_ledger" ∧
        parseSourceEventFingerprint mutation = some fingerprint := by
  rw [autoLedgerIndex_eq_some, TxRecord.records, upsertRecord]
  simp only [Bool.and_eq_true, decide_eq_true_eq, Bool.not_false, and_true]
  rw [and_assoc, eq_comm]

/-- The write of an accepted create or update keeps the index unique exactly if it is not
such an update. -/
theorem writeUpsertMem_unique_iff {store : MemoryStore} (unique : store.UniqueAutoLedger)
    {step : PushStep} (new : store.mutations.lookup step.key = none)
    {existing : Option TxRecord} {requestedOccurredAt : Option Timestamp}
    {drafts : List EntryDraft}
    (accepts : AcceptsUpsert store step.bookId step.mutation existing requestedOccurredAt drafts) :
    (writeUpsertMem store step.bookId step.mutation existing requestedOccurredAt drafts
        step.stamp).1.UniqueAutoLedger ↔ ¬DuplicatesAutoLedger store step := by
  refine (KeyMap.uniqueBy_insert_iff unique _ _).trans (not_congr ?_)
  constructor
  · rintro ⟨⟨owner, fingerprint⟩, other, taken, inIndex, different, found, conflict⟩
    obtain ⟨rfl, autoLedger, fingerprinted⟩ := (upsertRecord_index ..).mp inIndex
    have records := autoLedgerIndex_eq_some.mp conflict
    cases existing with
    | none =>
      rw [Option.bind_none, Option.or_none] at autoLedger
      exact absurd (accepts.original rfl)
        (duplicateIn_ne_none (autoLedgerFingerprint_eq autoLedger fingerprinted) found records)
    | some transaction =>
      exact ⟨new, transaction, _, _, fingerprint, accepts, autoLedger, fingerprinted, other,
        taken, different, found, records⟩
  · rintro ⟨-, stored, _, _, fingerprint, again, autoLedger, fingerprinted, other, taken,
      different, found, records⟩
    obtain rfl : existing = some stored := accepts.found.symm.trans again.found
    exact ⟨(step.bookId, fingerprint), other, taken,
      (upsertRecord_index ..).mpr ⟨rfl, autoLedger, fingerprinted⟩, different, found,
      autoLedgerIndex_eq_some.mpr records⟩

omit [Rfc3339] in
/-- The write of an accepted delete takes a transaction out of the index. -/
theorem writeDeleteMem_unique {store : MemoryStore} (unique : store.UniqueAutoLedger)
    (bookId : String) (mutation : SyncMutationDto) (existing : TxRecord) (stamp : Stamp) :
    (writeDeleteMem store bookId mutation existing stamp).1.UniqueAutoLedger := by
  refine (KeyMap.uniqueBy_insert_iff unique _ _).mpr ?_
  rintro ⟨entry, -, -, inIndex, -⟩
  simp [TxRecord.autoLedgerIndex] at inIndex

/-- One step keeps the index unique exactly if it does not duplicate. -/
theorem pushStep_unique_iff {store : MemoryStore} (unique : store.UniqueAutoLedger)
    (step : PushStep) :
    (pushStep store step).UniqueAutoLedger ↔ ¬DuplicatesAutoLedger store step := by
  by_cases upserts : store.mutations.lookup step.key = none ∧
      ∃ existing requestedOccurredAt drafts,
        AcceptsUpsert store step.bookId step.mutation existing requestedOccurredAt drafts
  · obtain ⟨new, existing, requestedOccurredAt, drafts, accepts⟩ := upserts
    rw [pushStep_processed new, processMutationMem_upsert accepts]
    exact writeUpsertMem_unique_iff unique new accepts
  · refine iff_of_true ?_ ?_
    · cases stored : store.mutations.lookup step.key with
      | some receipt =>
        rw [pushStep_replayed stored]
        exact unique
      | none =>
        exact pushStep_elim (motive := MemoryStore.UniqueAutoLedger) step
          (fun _ _ holds => holds) unique
          (fun _ _ _ accepts => absurd ⟨stored, _, _, _, accepts⟩ upserts)
          (fun existing _ => writeDeleteMem_unique unique _ _ existing _) (fun _ _ => unique)
    · rintro ⟨new, existing, requestedOccurredAt, drafts, _, accepts, -⟩
      exact upserts ⟨new, _, _, _, accepts⟩

/-- In a run of pushes every state reached has at most one live `auto_ledger` transaction per
book and fingerprint exactly if no update of the run takes a fingerprint that another live
transaction of its book records at that point. -/
theorem autoLedger_unique_throughout_iff (books : KeyMap String BookRecord)
    (accounts : KeyMap String AccountRecord) (steps : List PushStep) :
    (∀ before, before <+: steps →
        (Machine.run pushStep (.initial books accounts) before).UniqueAutoLedger) ↔
      Machine.Guarded pushStep (fun store step => ¬DuplicatesAutoLedger store step)
        (.initial books accounts) steps := by
  have exact : ∀ (store : MemoryStore) (step : PushStep), True → store.UniqueAutoLedger →
      ((pushStep store step).UniqueAutoLedger ↔ ¬DuplicatesAutoLedger store step) :=
    fun _ step _ unique => pushStep_unique_iff unique step
  have empty : (MemoryStore.initial books accounts).UniqueAutoLedger := KeyMap.uniqueBy_empty _
  exact Machine.invariant_throughout_iff (fun _ _ _ => trivial) exact trivial empty steps

omit [Rfc3339] in
/-- A payment is booked, deleted and booked again; an update of the deleted booking brings it
back, and the book has the payment twice. -/
theorem autoLedger_duplicated_by_update :
    let _ := epochClock
    let payment := [("source", Json.str "auto_ledger"), ("sourceEventFingerprint",
      Json.str "0123456789abcdef0123456789abcdef0123456789abcdef0123456789abcdef")]
    ¬(Machine.run pushStep (.initial ∅ (withAccounts "A" ∅))
      [transferStep "A" "m1" "t1" "create" 0 payment, transferStep "A" "m2" "t1" "delete" 1 [],
        transferStep "A" "m3" "t2" "create" 0 payment,
        transferStep "A" "m4" "t1" "update" 2 payment]).UniqueAutoLedger := by
  intro _ payment unique
  have index : ∀ id ∈ ["t1", "t2"], ((Machine.run pushStep (.initial ∅ (withAccounts "A" ∅))
      [transferStep "A" "m1" "t1" "create" 0 payment, transferStep "A" "m2" "t1" "delete" 1 [],
        transferStep "A" "m3" "t2" "create" 0 payment,
        transferStep "A" "m4" "t1" "update" 2 payment]).transactions.lookup id).bind
          TxRecord.autoLedgerIndex = some ("A",
            "0123456789abcdef0123456789abcdef0123456789abcdef0123456789abcdef") := by
    decide
  obtain ⟨one, foundOne, inOne⟩ := Option.bind_eq_some_iff.mp (index "t1" (by simp))
  obtain ⟨two, foundTwo, inTwo⟩ := Option.bind_eq_some_iff.mp (index "t2" (by simp))
  exact absurd (unique _ _ _ _ _ foundOne foundTwo inOne inTwo) (by decide)

end Ledgerly
