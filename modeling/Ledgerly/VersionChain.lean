/-
This file proves the optimistic-concurrency law of the memory backend.

The version of a transaction is written in three places, the insert, the update and the
delete, and each compares the base version on its own. `VersionChain` ties what they
write to the change log: the rows of a transaction carry the versions 1, 2, ..., n in
sequence order and n is the stored version. `AppliedOver.base` is the comparison: what
is applied over a stored transaction was based on the version it replaces. Since no
step lowers a version, two updates of one transaction never share a base.
-/

import Ledgerly.Idempotency

namespace Ledgerly

/-- The integers 1, 2, ..., n. -/
def oneTo (n : Nat) : List Int := (List.range n).map fun k : Nat => (k : Int) + 1

theorem oneTo_succ (n : Nat) : oneTo (n + 1) = oneTo n ++ [(n : Int) + 1] := by
  rw [oneTo, List.range_succ, List.map_append]
  rfl

/-- The stored version of a transaction, zero if there is none. -/
def MemoryStore.versionOf (store : MemoryStore) (id : String) : Int :=
  ((store.transactions.lookup id).map TxRecord.version).getD 0

/-- The row of a transaction. -/
def ChangeRecord.IsRowOf (change : ChangeRecord) (id : String) : Prop :=
  change.entityType = "transaction" ∧ change.entityId = id

instance (change : ChangeRecord) (id : String) : Decidable (change.IsRowOf id) :=
  inferInstanceAs (Decidable (_ ∧ _))

/-- The change rows of a transaction, in the order of the log. -/
def MemoryStore.rowsOf (store : MemoryStore) (id : String) : List ChangeRecord :=
  store.changes.filter fun change => change.IsRowOf id

/-- The log is numbered in order, and the rows of each transaction carry the versions from
one up to the stored one. -/
structure MemoryStore.VersionChain (store : MemoryStore) : Prop where
  sequences : store.changes.map ChangeRecord.sequence = oneTo store.changes.length
  versions : ∀ id, ∃ n : Nat, store.versionOf id = n ∧
    (store.transactions.lookup id = none ↔ n = 0) ∧
    (store.rowsOf id).map ChangeRecord.entityVersion = oneTo n

/-- The answer to a mutation that was applied, and not only recognised as a duplicate. -/
def MutationReceiptDto.Applied (receipt : MutationReceiptDto) : Prop :=
  receipt.status = "applied" ∧ receipt.resultCode = "OK"

variable [Rfc3339]

/-- The step is new and applies a transaction mutation over a stored transaction. -/
structure AppliedOver (store : MemoryStore) (step : PushStep) (existing : TxRecord) : Prop where
  new : store.mutations.lookup step.key = none
  isTransaction : step.mutation.entityType = "transaction"
  found : store.transactions.lookup step.mutation.entityId = some existing
  applied : (pushReceipt store step).Applied

/-- The version law over a run. -/
structure VersionLaw (start : MemoryStore) (steps : List PushStep) : Prop where
  /-- Every state reached has a version chain for each transaction. -/
  chain : ∀ i, (Machine.stateAt pushStep start steps i).VersionChain
  /-- What is applied over a stored transaction is an update with the version it replaces as
  its base, or a delete with that base or none, and writes the next version. -/
  base : ∀ i step existing, steps[i]? = some step →
    AppliedOver (Machine.stateAt pushStep start steps i) step existing →
    (step.mutation.operation = "update" ∧ step.mutation.baseVersion = existing.version ∨
      step.mutation.operation = "delete" ∧
        (step.mutation.baseVersion = 0 ∨ step.mutation.baseVersion = existing.version)) ∧
    (Machine.stateAt pushStep start steps (i + 1)).versionOf step.mutation.entityId =
      existing.version + 1
  /-- A mutation with any other answer changes no stored version. -/
  silent : ∀ i step, steps[i]? = some step →
    ¬(pushReceipt (Machine.stateAt pushStep start steps i) step).Applied →
    ∀ id, (Machine.stateAt pushStep start steps (i + 1)).versionOf id =
      (Machine.stateAt pushStep start steps i).versionOf id
  /-- No two updates of one transaction are applied over the same version. -/
  noLostUpdate : ∀ i j first second before after, i ≠ j →
    steps[i]? = some first → steps[j]? = some second →
    AppliedOver (Machine.stateAt pushStep start steps i) first before →
    AppliedOver (Machine.stateAt pushStep start steps j) second after →
    first.mutation.operation = "update" → second.mutation.operation = "update" →
    first.mutation.entityId = second.mutation.entityId →
    first.mutation.baseVersion ≠ second.mutation.baseVersion

/-! ### What one write does to the chain -/

omit [Rfc3339] in
theorem versionOf_insert {store written : MemoryStore} {key : String} {record : TxRecord}
    (wrote : written.transactions = store.transactions.insert key record) (id : String) :
    written.versionOf id = if id = key then record.version else store.versionOf id := by
  simp only [MemoryStore.versionOf, wrote, KeyMap.lookup_insert_eq]
  by_cases same : id = key
  · rw [if_pos same, if_pos same]
    rfl
  · rw [if_neg same, if_neg same]

omit [Rfc3339] in
theorem sequences_append {changes : List ChangeRecord} {row : ChangeRecord}
    (numbered : changes.map ChangeRecord.sequence = oneTo changes.length)
    (next : row.sequence = (changes.length : Int) + 1) :
    (changes ++ [row]).map ChangeRecord.sequence = oneTo (changes ++ [row]).length := by
  rw [List.map_append, numbered, List.length_append, List.length_singleton, oneTo_succ,
    List.map_singleton, next]

omit [Rfc3339] in
/-- Writing a transaction under the next version, with its row, continues its chain. -/
theorem MemoryStore.VersionChain.write {store : MemoryStore} (kept : store.VersionChain) {id : String}
    {record : TxRecord} {row : ChangeRecord} (isRow : row.IsRowOf id)
    (next : row.sequence = (store.changes.length : Int) + 1)
    (rowVersion : row.entityVersion = record.version)
    (version : record.version = store.versionOf id + 1) :
    ({ store with transactions := store.transactions.insert id record
                  changes := store.changes ++ [row] } : MemoryStore).VersionChain := by
  refine ⟨sequences_append kept.sequences next, fun other => ?_⟩
  obtain ⟨n, stored, present, rows⟩ := kept.versions other
  rw [versionOf_insert rfl]
  simp only [MemoryStore.rowsOf, KeyMap.lookup_insert_eq, List.filter_append]
  by_cases same : other = id
  · subst same
    refine ⟨n + 1, ?_, ?_, ?_⟩
    · rw [if_pos rfl, version, stored]
      push_cast
      rfl
    · simp
    · have single : [row].filter (fun change => change.IsRowOf other) = [row] := by
        rw [List.filter_singleton, decide_eq_true isRow]
        rfl
      rw [MemoryStore.rowsOf] at rows
      rw [List.map_append, rows, single, List.map_singleton, rowVersion, version, stored,
        oneTo_succ]
  · refine ⟨n, ?_, ?_, ?_⟩
    · rw [if_neg same, stored]
    · rw [if_neg same, present]
    · have foreign : [row].filter (fun change => change.IsRowOf other) = [] := by
        rw [List.filter_singleton, decide_eq_false fun isOther =>
          same (isOther.2.symm.trans isRow.2)]
        rfl
      rw [foreign, List.append_nil]
      exact rows

omit [Rfc3339] in
/-- A row that is not a transaction's changes no chain. -/
theorem MemoryStore.VersionChain.append {store : MemoryStore} (kept : store.VersionChain)
    {accounts : KeyMap String AccountRecord} {row : ChangeRecord}
    (foreign : row.entityType ≠ "transaction")
    (next : row.sequence = (store.changes.length : Int) + 1) :
    ({ store with accounts := accounts
                  changes := store.changes ++ [row] } : MemoryStore).VersionChain := by
  refine ⟨sequences_append kept.sequences next, fun id => ?_⟩
  obtain ⟨n, stored, present, rows⟩ := kept.versions id
  refine ⟨n, stored, present, ?_⟩
  have noRow : [row].filter (fun change => change.IsRowOf id) = [] := by
    rw [List.filter_singleton, decide_eq_false fun isRow => foreign isRow.1]
    rfl
  rw [MemoryStore.rowsOf, List.filter_append, noRow, List.append_nil]
  exact rows

/-- The version an accepted create or update writes is the next one. -/
theorem AcceptsUpsert.version {store : MemoryStore} {bookId : String}
    {mutation : SyncMutationDto} {existing : Option TxRecord}
    {requestedOccurredAt : Option Timestamp} {drafts : List EntryDraft}
    (accepts : AcceptsUpsert store bookId mutation existing requestedOccurredAt drafts)
    (now : Timestamp) :
    (upsertRecord bookId mutation existing requestedOccurredAt drafts now).version =
      store.versionOf mutation.entityId + 1 := by
  rw [MemoryStore.versionOf, accepts.found]
  cases existing <;> rfl

/-- One step continues every chain. -/
theorem pushStep_versionChain {store : MemoryStore} (kept : store.VersionChain)
    (step : PushStep) : (pushStep store step).VersionChain := by
  refine pushStep_elim (motive := MemoryStore.VersionChain) step
    (fun _ _ holds => ⟨holds.sequences, holds.versions⟩) kept ?_ ?_ ?_
  · intro existing requestedOccurredAt drafts accepts
    exact kept.write ⟨rfl, rfl⟩ rfl rfl (accepts.version step.stamp.now)
  · intro existing accepts
    refine kept.write ⟨rfl, rfl⟩ rfl rfl ?_
    rw [MemoryStore.versionOf, accepts.found]
    rfl
  · intro record accepts
    exact kept.append (by simp [accountChange, MemoryStore.nextChange]) rfl

/-- The chain holds in every store that is reached from one without transactions. -/
theorem run_versionChain (books : KeyMap String BookRecord)
    (accounts : KeyMap String AccountRecord) (steps : List PushStep) :
    (Machine.run pushStep (.initial books accounts) steps).VersionChain := by
  have fresh : (MemoryStore.initial books accounts).VersionChain :=
    ⟨rfl, fun id => ⟨0, by simp [MemoryStore.versionOf, MemoryStore.initial],
      by simp [MemoryStore.initial], rfl⟩⟩
  have preserved : ∀ (store : MemoryStore) (step : PushStep),
      store.VersionChain → (pushStep store step).VersionChain :=
    fun _ step kept => pushStep_versionChain kept step
  exact Machine.run_invariant preserved fresh steps

/-! ### The law along a run -/

/-- A step leaves every version alone, or is an applied transaction mutation that writes the
next version of its entity and of nothing else. -/
theorem pushStep_versionOf (store : MemoryStore) (step : PushStep) :
    (∀ id, (pushStep store step).versionOf id = store.versionOf id) ∨
      (pushReceipt store step).Applied ∧ ∀ id, (pushStep store step).versionOf id =
        if id = step.mutation.entityId then store.versionOf id + 1 else store.versionOf id := by
  cases stored : store.mutations.lookup step.key with
  | some receipt =>
    rw [pushStep_replayed stored]
    exact Or.inl fun _ => rfl
  | none =>
    rw [pushStep_processed stored, pushReceipt_processed stored]
    have effect := processMutationMem_effect store step.bookId step.mutation step.stamp
    generalize processMutationMem store step.bookId step.mutation step.stamp = outcome at effect
    cases effect with
    | refused | deduped | accountWritten => exact Or.inl fun _ => rfl
    | upserted existing requestedOccurredAt drafts accepts =>
      refine Or.inr ⟨⟨rfl, rfl⟩, fun id => ?_⟩
      rw [versionOf_insert rfl]
      by_cases same : id = step.mutation.entityId
      · rw [if_pos same, if_pos same, accepts.version step.stamp.now, same]
      · rw [if_neg same, if_neg same]
    | deleted existing accepts =>
      refine Or.inr ⟨⟨rfl, rfl⟩, fun id => ?_⟩
      rw [versionOf_insert rfl]
      by_cases same : id = step.mutation.entityId
      · rw [if_pos same, if_pos same, same, MemoryStore.versionOf, accepts.found]
        rfl
      · rw [if_neg same, if_neg same]

theorem versionOf_le_pushStep (store : MemoryStore) (step : PushStep) (id : String) :
    store.versionOf id ≤ (pushStep store step).versionOf id := by
  rcases pushStep_versionOf store step with same | ⟨-, written⟩
  · rw [same id]
  · rw [written id]
    split <;> omega

/-- What is applied over a stored transaction was based on the version it replaces, and
writes the next one. -/
theorem AppliedOver.base {store : MemoryStore} {step : PushStep} {existing : TxRecord}
    (replaces : AppliedOver store step existing) :
    (step.mutation.operation = "update" ∧ step.mutation.baseVersion = existing.version ∨
      step.mutation.operation = "delete" ∧
        (step.mutation.baseVersion = 0 ∨ step.mutation.baseVersion = existing.version)) ∧
      (pushStep store step).versionOf step.mutation.entityId = existing.version + 1 := by
  have applied := replaces.applied
  rw [pushReceipt_processed replaces.new] at applied
  rw [pushStep_processed replaces.new]
  have effect := processMutationMem_effect store step.bookId step.mutation step.stamp
  generalize processMutationMem store step.bookId step.mutation step.stamp = outcome at *
  cases effect with
  | refused resultCode entityVersion => exact absurd applied.1 (by simp [rejectedReceipt])
  | deduped => exact absurd applied.2 (by simp [dedupedReceipt])
  | upserted found requestedOccurredAt drafts accepts =>
    obtain rfl : some existing = found := replaces.found.symm.trans accepts.found
    refine ⟨Or.inl (accepts.current existing rfl), ?_⟩
    rw [versionOf_insert rfl, if_pos rfl]
    rfl
  | deleted found accepts =>
    obtain rfl : existing = found := Option.some.inj (replaces.found.symm.trans accepts.found)
    refine ⟨Or.inr ⟨accepts.isDelete, accepts.current⟩, ?_⟩
    rw [versionOf_insert rfl, if_pos rfl]
  | accountWritten record accepts =>
    exact absurd accepts.isAccount (notAccount_of_isTransaction replaces.isTransaction)

/-- Versions never fall along a run. -/
theorem versionOf_mono (start : MemoryStore) (steps : List PushStep) (id : String) {i j : Nat}
    (ordered : i ≤ j) :
    (Machine.stateAt pushStep start steps i).versionOf id ≤
      (Machine.stateAt pushStep start steps j).versionOf id := by
  obtain ⟨between, continued⟩ := Machine.exists_run_stateAt pushStep start steps ordered
  rw [continued]
  have preserved : ∀ (store : MemoryStore) (step : PushStep),
      (Machine.stateAt pushStep start steps i).versionOf id ≤ store.versionOf id →
        (Machine.stateAt pushStep start steps i).versionOf id ≤
          (pushStep store step).versionOf id :=
    fun store step kept => le_trans kept (versionOf_le_pushStep store step id)
  exact Machine.run_invariant preserved (le_refl _) between

/-- Of two updates of one transaction the later one is based on a later version. -/
theorem base_lt_of_lt {start : MemoryStore} {steps : List PushStep} {i j : Nat}
    {first second : PushStep} {before after : TxRecord} (ordered : i < j)
    (foundFirst : steps[i]? = some first)
    (overFirst : AppliedOver (Machine.stateAt pushStep start steps i) first before)
    (overSecond : AppliedOver (Machine.stateAt pushStep start steps j) second after)
    (firstUpdate : first.mutation.operation = "update")
    (secondUpdate : second.mutation.operation = "update")
    (same : first.mutation.entityId = second.mutation.entityId) :
    first.mutation.baseVersion < second.mutation.baseVersion := by
  obtain ⟨⟨-, firstBase⟩ | ⟨isDelete, -⟩, written⟩ := overFirst.base
  · obtain ⟨⟨-, secondBase⟩ | ⟨isDelete, -⟩, -⟩ := overSecond.base
    · rw [← Machine.stateAt_succ pushStep foundFirst] at written
      have grown := versionOf_mono start steps first.mutation.entityId
        (Nat.succ_le_of_lt ordered)
      have current : (Machine.stateAt pushStep start steps j).versionOf
          first.mutation.entityId = after.version := by
        rw [MemoryStore.versionOf, same, overSecond.found]
        rfl
      rw [Nat.succ_eq_add_one, written, current] at grown
      omega
    · rw [secondUpdate] at isDelete
      exact absurd isDelete (by decide)
  · rw [firstUpdate] at isDelete
    exact absurd isDelete (by decide)

/-- In every run of pushes the change rows of each transaction carry the versions from one
to the stored version in sequence order, applied mutations replace the version they were
based on, all others change no version, and no two updates are applied over one version. -/
theorem memory_version_law (books : KeyMap String BookRecord)
    (accounts : KeyMap String AccountRecord) (steps : List PushStep) :
    VersionLaw (.initial books accounts) steps := by
  refine ⟨fun i => ?_, ?_, ?_, ?_⟩
  · exact run_versionChain books accounts _
  · intro i step existing found replaces
    rw [Machine.stateAt_succ pushStep found]
    exact replaces.base
  · intro i step found notApplied id
    rw [Machine.stateAt_succ pushStep found]
    rcases pushStep_versionOf (Machine.stateAt pushStep _ steps i) step with same | ⟨applied, -⟩
    · exact same id
    · exact absurd applied notApplied
  · intro i j first second before after different foundFirst foundSecond overFirst overSecond
      firstUpdate secondUpdate same equal
    rcases Nat.lt_or_gt_of_ne different with ordered | ordered
    · have later := base_lt_of_lt ordered foundFirst overFirst overSecond firstUpdate
        secondUpdate same
      omega
    · have later := base_lt_of_lt ordered foundSecond overSecond overFirst secondUpdate
        firstUpdate same.symm
      omega

end Ledgerly
