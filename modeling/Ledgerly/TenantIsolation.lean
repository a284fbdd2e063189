/-
This file settles what a push to one book can do to the other books of the store.

Entities are keyed by id across all books, so each path has to look at the owner of the
entity a mutation names. `process_delete_mem` and the account path do. The update path of
`process_mutation_mem` compares the version only, so an update that names a transaction of
another book with its current version moves that transaction to the caller's book. The
theorem says that this is the only way: a push leaves every other book alone exactly if
none of its mutations does that.
-/

import Ledgerly.MemoryStep

namespace Ledgerly

/-- Nothing of a book other than `bookId` differs between two stores. -/
structure OthersUntouched (bookId : String) (before after : MemoryStore) : Prop where
  transactions : ∀ id transaction, before.transactions.lookup id = some transaction →
    transaction.bookId ≠ bookId → after.transactions.lookup id = some transaction
  accounts : ∀ id account, before.accounts.lookup id = some account →
    account.bookId ≠ bookId → after.accounts.lookup id = some account
  changes : ∃ rows, after.changes = before.changes ++ rows ∧ ∀ row ∈ rows, row.bookId = bookId

theorem OthersUntouched.refl (bookId : String) (store : MemoryStore) :
    OthersUntouched bookId store store :=
  ⟨fun _ _ found _ => found, fun _ _ found _ => found, [], by simp, by simp⟩

theorem OthersUntouched.trans {bookId : String} {first second third : MemoryStore}
    (before : OthersUntouched bookId first second)
    (after : OthersUntouched bookId second third) : OthersUntouched bookId first third := by
  obtain ⟨rows, appended, own⟩ := before.changes
  obtain ⟨more, appendedMore, ownMore⟩ := after.changes
  refine ⟨?_, ?_, rows ++ more, ?_, ?_⟩
  · exact fun id transaction found foreign =>
      after.transactions id transaction (before.transactions id transaction found foreign) foreign
  · exact fun id account found foreign =>
      after.accounts id account (before.accounts id account found foreign) foreign
  · rw [appendedMore, appended, List.append_assoc]
  · intro row member
    rcases List.mem_append.mp member with early | late
    · exact own row early
    · exact ownMore row late

variable [Rfc3339]

/-- A new mutation that updates, over its current version and with a payload that passes every
check, a transaction stored in a book other than the one it is pushed to. -/
def TakesOver (store : MemoryStore) (step : PushStep) : Prop :=
  store.mutations.lookup step.key = none ∧ ∃ existing requestedOccurredAt drafts,
    AcceptsUpsert store step.bookId step.mutation (some existing) requestedOccurredAt drafts ∧
      existing.bookId ≠ step.bookId

/-! ### One step -/

/-- A step that takes nothing over leaves the other books alone. -/
theorem pushStep_othersUntouched {store : MemoryStore} {step : PushStep}
    (allowed : ¬TakesOver store step) :
    OthersUntouched step.bookId store (pushStep store step) := by
  cases stored : store.mutations.lookup step.key with
  | some receipt =>
    rw [pushStep_replayed stored]
    exact .refl _ _
  | none =>
    refine pushStep_elim (motive := OthersUntouched step.bookId store) step
      (fun _ _ holds => ⟨holds.transactions, holds.accounts, holds.changes⟩) (.refl _ _) ?_ ?_ ?_
    · intro existing requestedOccurredAt drafts accepts
      refine ⟨fun id transaction found foreign => ?_, fun _ _ found _ => found, _, rfl, by
        simp [MemoryStore.nextChange]⟩
      have different : id ≠ step.mutation.entityId := by
        rintro rfl
        rw [accepts.found] at found
        subst found
        exact allowed ⟨stored, transaction, _, _, accepts, foreign⟩
      exact (AList.lookup_insert_ne different).trans found
    · intro existing accepts
      refine ⟨fun id transaction found foreign => ?_, fun _ _ found _ => found, _, rfl, by
        simp [MemoryStore.nextChange]⟩
      have different : id ≠ step.mutation.entityId := by
        rintro rfl
        rw [accepts.found] at found
        cases found
        exact foreign accepts.owned
      exact (AList.lookup_insert_ne different).trans found
    · intro record accepts
      refine ⟨fun _ _ found _ => found, fun id account found foreign => ?_, _, rfl, by
        simp [accountChange, MemoryStore.nextChange]⟩
      have different : id ≠ step.mutation.entityId := by
        rintro rfl
        rcases accepts.found with ⟨missing, -, -⟩ | ⟨existing, present, owned, -, -⟩
        · rw [missing] at found
          cases found
        · rw [present] at found
          cases found
          exact foreign owned
      exact (AList.lookup_insert_ne different).trans found

/-- A step writes transactions into its own book only. -/
theorem lookup_of_pushStep {store : MemoryStore} {step : PushStep} {id : String}
    {transaction : TxRecord} (found : (pushStep store step).transactions.lookup id =
      some transaction) (foreign : transaction.bookId ≠ step.bookId) :
    store.transactions.lookup id = some transaction := by
  revert found
  refine pushStep_elim
    (motive := fun after => after.transactions.lookup id = some transaction →
      store.transactions.lookup id = some transaction) step (fun _ _ holds => holds)
    (fun found => found) ?_ ?_ fun _ _ found => found
  · intro existing requestedOccurredAt drafts accepts found
    rcases KeyMap.lookup_insert_eq_some found with ⟨-, rfl⟩ | ⟨-, before⟩
    · exact absurd rfl foreign
    · exact before
  · intro existing accepts found
    rcases KeyMap.lookup_insert_eq_some found with ⟨-, rfl⟩ | ⟨-, before⟩
    · exact absurd accepts.owned foreign
    · exact before

/-- The transaction is stored in the book. -/
def StoredIn (store : MemoryStore) (bookId id : String) : Prop :=
  ∃ transaction, store.transactions.lookup id = some transaction ∧ transaction.bookId = bookId

omit [Rfc3339] in
/-- Writing a record of the book keeps what the book has and adds the key. -/
theorem storedIn_insert {store written : MemoryStore} {bookId id key : String}
    {record : TxRecord} (wrote : written.transactions = store.transactions.insert key record)
    (owned : record.bookId = bookId) (stored : id = key ∨ StoredIn store bookId id) :
    StoredIn written bookId id := by
  by_cases same : id = key
  · exact ⟨record, by rw [wrote, same, AList.lookup_insert], owned⟩
  · obtain ⟨transaction, found, inBook⟩ := stored.resolve_left same
    exact ⟨transaction, by rw [wrote, AList.lookup_insert_ne same, found], inBook⟩

theorem storedIn_pushStep {store : MemoryStore} {step : PushStep} {id : String}
    (stored : StoredIn store step.bookId id) : StoredIn (pushStep store step) step.bookId id := by
  refine pushStep_elim (motive := fun after => StoredIn after step.bookId id) step
    (fun _ _ holds => holds) stored ?_ ?_ fun _ _ => stored
  · exact fun _ _ _ _ => storedIn_insert rfl rfl (Or.inr stored)
  · exact fun _ accepts => storedIn_insert rfl accepts.owned (Or.inr stored)

/-- A takeover moves the transaction to the caller's book. -/
theorem storedIn_of_takesOver {store : MemoryStore} {step : PushStep}
    (taken : TakesOver store step) :
    StoredIn (pushStep store step) step.bookId step.mutation.entityId := by
  obtain ⟨new, existing, requestedOccurredAt, drafts, accepts, -⟩ := taken
  rw [pushStep_processed new, processMutationMem_upsert accepts]
  exact storedIn_insert rfl rfl (Or.inl rfl)

/-! ### A whole push -/

/-- A request of a member is a run of its mutations, any other changes nothing. -/
theorem push_store (store : MemoryStore) (request : PushRequest) :
    (push store request).1 =
      if requireBookMember store request.userId request.bookId = .ok () then
        Machine.run pushStep store request.steps
      else store := by
  unfold push
  split
  · rename_i error refused
    rw [refused, if_neg (by simp)]
  · rename_i admitted
    rw [admitted, if_pos rfl]

/-- Over steps for one book, what stands in another book was there before. -/
theorem lookup_of_run {bookId : String} {steps : List PushStep}
    (addressed : ∀ step ∈ steps, step.bookId = bookId) (start : MemoryStore) {id : String}
    {transaction : TxRecord} (foreign : transaction.bookId ≠ bookId)
    (found : (Machine.run pushStep start steps).transactions.lookup id = some transaction) :
    start.transactions.lookup id = some transaction := by
  have preserved : ∀ store : MemoryStore, ∀ step ∈ steps,
      (store.transactions.lookup id = some transaction →
        start.transactions.lookup id = some transaction) →
      (pushStep store step).transactions.lookup id = some transaction →
        start.transactions.lookup id = some transaction := by
    intro store step member before after
    exact before (lookup_of_pushStep after (by rw [addressed step member]; exact foreign))
  exact Machine.run_invariant_of_mem preserved (fun same => same) found

theorem storedIn_run {bookId id : String} {steps : List PushStep}
    (addressed : ∀ step ∈ steps, step.bookId = bookId) {start : MemoryStore}
    (stored : StoredIn start bookId id) :
    StoredIn (Machine.run pushStep start steps) bookId id := by
  have preserved : ∀ store : MemoryStore, ∀ step ∈ steps,
      StoredIn store bookId id → StoredIn (pushStep store step) bookId id := by
    intro store step member kept
    rw [← addressed step member] at kept ⊢
    exact storedIn_pushStep kept
  exact Machine.run_invariant_of_mem preserved stored

/-- Steps for one book leave the others alone exactly if none takes a transaction over. -/
theorem run_othersUntouched_iff {bookId : String} {steps : List PushStep}
    (addressed : ∀ step ∈ steps, step.bookId = bookId) (start : MemoryStore) :
    OthersUntouched bookId start (Machine.run pushStep start steps) ↔
      Machine.Guarded pushStep (fun store step => ¬TakesOver store step) start steps := by
  constructor
  · intro untouched
    rw [Machine.guarded_iff_forall]
    rintro before step after rfl taken
    have addressedBefore : ∀ other ∈ before, other.bookId = bookId :=
      fun other member => addressed other (List.mem_append_left _ member)
    have addressedStep : step.bookId = bookId :=
      addressed step (List.mem_append_right _ List.mem_cons_self)
    have addressedAfter : ∀ other ∈ after, other.bookId = bookId :=
      fun other member => addressed other
        (List.mem_append_right _ (List.mem_cons_of_mem _ member))
    obtain ⟨new, existing, requestedOccurredAt, drafts, accepts, foreign⟩ := taken
    rw [addressedStep] at foreign
    have moved := storedIn_of_takesOver ⟨new, existing, _, _, accepts, by
      rw [addressedStep]; exact foreign⟩
    rw [addressedStep] at moved
    obtain ⟨transaction, found, owned⟩ := storedIn_run addressedAfter moved
    have kept := untouched.transactions _ existing
      (lookup_of_run addressedBefore start foreign accepts.found) foreign
    rw [Machine.run_append, Machine.run_cons, found] at kept
    cases kept
    exact foreign owned
  · intro guarded
    have preserved : ∀ (store : MemoryStore) (step : PushStep),
        OthersUntouched bookId start store → (step.bookId = bookId ∧ ¬TakesOver store step) →
        OthersUntouched bookId start (pushStep store step) := by
      rintro store step kept ⟨rfl, allowed⟩
      exact kept.trans (pushStep_othersUntouched allowed)
    refine Machine.guarded_invariant preserved (.refl _ _) ?_
    rw [Machine.guarded_iff_forall] at guarded ⊢
    rintro before step after split
    refine ⟨addressed step ?_, guarded before step after split⟩
    rw [split]
    exact List.mem_append_right _ List.mem_cons_self

/-- A push by a member of a book leaves all other books as they were exactly if none of its
mutations, at the state it is processed in, is an update of another book's transaction. -/
theorem push_isolates_books_iff (store : MemoryStore) (request : PushRequest) :
    OthersUntouched request.bookId store (push store request).1 ↔
      (requireBookMember store request.userId request.bookId = .ok () →
        Machine.Guarded pushStep (fun reached step => ¬TakesOver reached step) store
          request.steps) := by
  have addressed : ∀ step ∈ request.steps, step.bookId = request.bookId :=
    fun step member => (request.addressed step member).1
  rw [push_store]
  by_cases member : requireBookMember store request.userId request.bookId = .ok ()
  · rw [if_pos member, run_othersUntouched_iff addressed]
    exact ⟨fun guarded _ => guarded, fun guarded => guarded member⟩
  · rw [if_neg member]
    exact ⟨fun _ admitted => absurd admitted member, fun _ => .refl _ _⟩

omit [Rfc3339] in
/-- The owner of one book takes over a transaction of another owner's book by updating it
under its id and version. -/
theorem push_takes_over_foreign_transaction :
    let _ := epochClock
    let store := Machine.run pushStep
      (.initial ((AList.singleton "A" ⟨"A", "Home", "alice"⟩).insert "B" ⟨"B", "Shop", "bob"⟩)
        (withAccounts "B" (withAccounts "A" ∅)))
      [transferStep "A" "m1" "t1" "create" 0 []]
    let request : PushRequest := ⟨"bob", "B", "device",
      [transferStep "B" "m2" "t1" "update" 1 []], by simp [transferStep]⟩
    requireBookMember store "bob" "B" = .ok () ∧
      ¬OthersUntouched "B" store (push store request).1 := by
  intro _ store request
  have before : (store.transactions.lookup "t1").map TxRecord.bookId = some "A" := by decide
  have after : ((push store request).1.transactions.lookup "t1").map TxRecord.bookId =
      some "B" := by decide
  refine ⟨by decide, fun untouched => ?_⟩
  obtain ⟨transaction, found, inA⟩ := Option.map_eq_some_iff.mp before
  have kept := untouched.transactions "t1" transaction found (by rw [inA]; decide)
  rw [kept, Option.map_some, inA] at after
  exact absurd after (by decide)

end Ledgerly
