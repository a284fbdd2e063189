/-
This file proves that a mutation is applied at most once.

A mutation is named by its book, its device and its id. `push` looks for a receipt
under that key before anything else, and every way through the loop body stores one
under the same key; a stored receipt is never replaced. So the first push of a key
decides, and each later one, whatever it carries, is answered with the first receipt
and leaves the store as it was.
-/

import Ledgerly.MemoryStep

namespace Ledgerly

variable [Rfc3339]

/-- The step changes the transactions, the accounts or the change log. -/
def ChangesLedger (store : MemoryStore) (step : PushStep) : Prop :=
  ¬((pushStep store step).transactions = store.transactions ∧
    (pushStep store step).accounts = store.accounts ∧
    (pushStep store step).changes = store.changes)

/-- The pushes of one key over a whole run. -/
structure AppliedAtMostOnce (start : MemoryStore) (steps : List PushStep)
    (key : MutationKey) : Prop where
  /-- At most one position of the run pushes the key and changes the ledger. -/
  effect : ∀ i j first second, steps[i]? = some first → steps[j]? = some second →
    first.key = key → second.key = key →
    ChangesLedger (Machine.stateAt pushStep start steps i) first →
    ChangesLedger (Machine.stateAt pushStep start steps j) second → i = j
  /-- What such a position appends to the change log is one row. -/
  rows : ∀ i step, steps[i]? = some step →
    ∃ rows, rows.length ≤ 1 ∧ (Machine.stateAt pushStep start steps (i + 1)).changes =
      (Machine.stateAt pushStep start steps i).changes ++ rows
  /-- Every later push of the key changes nothing at all and gets the first receipt. -/
  replay : ∀ i j first again, i < j → steps[i]? = some first → steps[j]? = some again →
    first.key = key → again.key = key →
    pushStep (Machine.stateAt pushStep start steps j) again =
        Machine.stateAt pushStep start steps j ∧
      pushReceipt (Machine.stateAt pushStep start steps j) again =
        pushReceipt (Machine.stateAt pushStep start steps i) first

/-! ### Receipts are stored once and kept -/

section Effects

variable {store : MemoryStore} {bookId : String} {mutation : SyncMutationDto} {stamp : Stamp}
  {outcome : MemoryStore × MutationReceiptDto}

/-- Processing a mutation appends at most one change row. -/
theorem Effect.changes (effect : Effect store bookId mutation stamp outcome) :
    ∃ rows, rows.length ≤ 1 ∧ outcome.1.changes = store.changes ++ rows := by
  cases effect with
  | refused | deduped => exact ⟨[], Nat.zero_le 1, (List.append_nil _).symm⟩
  | upserted | deleted | accountWritten => exact ⟨[_], le_refl 1, rfl⟩

end Effects

/-- A step appends at most one change row. -/
theorem changes_pushStep (store : MemoryStore) (step : PushStep) :
    ∃ rows, rows.length ≤ 1 ∧ (pushStep store step).changes = store.changes ++ rows := by
  cases stored : store.mutations.lookup step.key with
  | some receipt => exact ⟨[], Nat.zero_le 1, by rw [pushStep_replayed stored, List.append_nil]⟩
  | none =>
    rw [pushStep_processed stored]
    exact (processMutationMem_effect _ _ _ step.stamp).changes

/-- A stored receipt is kept by every step. -/
theorem lookup_mutations_pushStep {store : MemoryStore} {key : MutationKey}
    {receipt : MutationReceipt} (stored : store.mutations.lookup key = some receipt)
    (step : PushStep) : (pushStep store step).mutations.lookup key = some receipt := by
  cases found : store.mutations.lookup step.key with
  | some other => rw [pushStep_replayed found, stored]
  | none =>
    have different : key ≠ step.key := by
      rintro rfl
      rw [found] at stored
      cases stored
    rw [pushStep_processed found, AList.lookup_insert_ne different,
      (processMutationMem_effect _ _ _ step.stamp).mutations, stored]

/-- A receipt that is stored stays stored. -/
theorem lookup_mutations_run {store : MemoryStore} {key : MutationKey} {receipt : MutationReceipt}
    (stored : store.mutations.lookup key = some receipt) (steps : List PushStep) :
    (Machine.run pushStep store steps).mutations.lookup key = some receipt := by
  have kept : ∀ (store : MemoryStore) (step : PushStep),
      store.mutations.lookup key = some receipt →
        (pushStep store step).mutations.lookup key = some receipt :=
    fun _ step stored => lookup_mutations_pushStep stored step
  exact Machine.run_invariant kept stored steps

/-- After a step its key has a receipt, and that receipt replays the answer of the step. -/
theorem stored_pushReceipt (store : MemoryStore) (step : PushStep) :
    ∃ receipt, (pushStep store step).mutations.lookup step.key = some receipt ∧
      receipt.replayed step.mutation.mutationId = pushReceipt store step := by
  cases found : store.mutations.lookup step.key with
  | some receipt =>
    exact ⟨receipt, by rw [pushStep_replayed found, found], (pushReceipt_replayed found).symm⟩
  | none =>
    have named := (processMutationMem_effect store step.bookId step.mutation step.stamp).mutationId
    refine ⟨(pushReceipt store step).stored, ?_, ?_⟩
    · rw [pushStep_processed found, pushReceipt_processed found, AList.lookup_insert]
    · rw [pushReceipt_processed found, ← named]
      rfl

/-- From the first push of a key on, every state holds the receipt it was answered with. -/
theorem stored_at_later (start : MemoryStore) {steps : List PushStep} {i j : Nat}
    {first : PushStep} (ordered : i < j) (found : steps[i]? = some first) :
    ∃ receipt,
      (Machine.stateAt pushStep start steps j).mutations.lookup first.key = some receipt ∧
      receipt.replayed first.mutation.mutationId =
        pushReceipt (Machine.stateAt pushStep start steps i) first := by
  obtain ⟨receipt, stored, answered⟩ :=
    stored_pushReceipt (Machine.stateAt pushStep start steps i) first
  obtain ⟨between, continued⟩ :=
    Machine.exists_run_stateAt pushStep start steps (Nat.succ_le_of_lt ordered)
  rw [← Machine.stateAt_succ pushStep found] at stored
  have preserved : ∀ (store : MemoryStore) (step : PushStep),
      store.mutations.lookup first.key = some receipt →
        (pushStep store step).mutations.lookup first.key = some receipt :=
    fun _ step kept => lookup_mutations_pushStep kept step
  refine ⟨receipt, ?_, answered⟩
  rw [continued]
  exact Machine.run_invariant preserved stored between

/-- A repeated push of a key changes nothing and is answered as the first one was. -/
theorem push_replay (start : MemoryStore) {steps : List PushStep} {i j : Nat}
    {first again : PushStep} (ordered : i < j) (foundFirst : steps[i]? = some first)
    (same : again.key = first.key) :
    pushStep (Machine.stateAt pushStep start steps j) again =
        Machine.stateAt pushStep start steps j ∧
      pushReceipt (Machine.stateAt pushStep start steps j) again =
        pushReceipt (Machine.stateAt pushStep start steps i) first := by
  obtain ⟨receipt, stored, answered⟩ := stored_at_later start ordered foundFirst
  have sameId : again.mutation.mutationId = first.mutation.mutationId := by
    simp only [PushStep.key, Prod.mk.injEq] at same
    exact same.2.2
  rw [← same] at stored
  exact ⟨pushStep_replayed stored, by rw [pushReceipt_replayed stored, sameId, answered]⟩

/-- Over any run of pushes from any store, in any order and with any repetition, a mutation
takes effect at most once, and every repetition of its key is answered with the receipt of
the first push and leaves the whole store as it was. -/
theorem push_applies_at_most_once (start : MemoryStore) (steps : List PushStep)
    (key : MutationKey) : AppliedAtMostOnce start steps key := by
  have silent : ∀ i j first again, i < j → steps[i]? = some first →
      first.key = key → again.key = key →
      ¬ChangesLedger (Machine.stateAt pushStep start steps j) again := by
    intro i j first again ordered found firstKey againKey changed
    obtain ⟨unchanged, -⟩ :=
      push_replay start ordered found (againKey.trans firstKey.symm)
    exact changed ⟨by rw [unchanged], by rw [unchanged], by rw [unchanged]⟩
  refine ⟨?_, ?_, ?_⟩
  · intro i j first second foundFirst foundSecond firstKey secondKey firstChange secondChange
    rcases lt_trichotomy i j with before | same | after
    · exact absurd secondChange (silent i j first second before foundFirst firstKey secondKey)
    · exact same
    · exact absurd firstChange (silent j i second first after foundSecond secondKey firstKey)
  · intro i step found
    rw [Machine.stateAt_succ pushStep found]
    exact changes_pushStep _ step
  · intro i j first again ordered foundFirst _ firstKey againKey
    exact push_replay start ordered foundFirst (againKey.trans firstKey.symm)

end Ledgerly
