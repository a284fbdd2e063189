/-
This file says what the change log of a book tells about its transactions on the memory
backend, which is all that a device learns by pulling.

The rows of a transaction begin with an upsert, and the last of them tells the record that is
stored. This holds of every store the server reaches, provided that no other book takes a
transaction of the book over and that every commit has an id of its own.
-/

import Mathlib.Data.List.Sort
import Ledgerly.Pull
import Ledgerly.TenantIsolation
import Ledgerly.VersionChain

namespace Ledgerly

/-- The change rows of a transaction in a book, in the order of the log. -/
def MemoryStore.rowsIn (store : MemoryStore) (bookId id : String) : List ChangeRecord :=
  store.changes.filter fun change => change.bookId = bookId ∧ change.IsRowOf id

/-- The sequence number of the last change of a book, zero if there is none. -/
def MemoryStore.lastSequence (store : MemoryStore) (bookId : String) : Int :=
  nextCursor 0 (store.changes.filter fun change => change.bookId = bookId)

/-- Entries of a payload that a stored transaction was written from. -/
structure StoredFrom (entries : List StoredEntry) (items : List Json) : Prop where
  read : entries = items.map fun item => (readEntry item).stored
  sound : ∀ item ∈ items, (readEntry item).amountMinor ≠ 0 ∧ FitsI64 (readEntry item).amountMinor

variable [Rfc3339]

/-- The row describes the record. -/
structure ChangeRecord.Tells (change : ChangeRecord) (record : TxRecord) : Prop where
  version : change.entityVersion = record.version
  operation : change.operation = if record.deleted then "delete" else "upsert"
  occurredAt : record.deleted = false →
    change.payload.get? "occurredAt" = some (.str (Rfc3339.format record.occurredAt))
  description : record.deleted = false →
    (change.payload.get? "description").bind Json.asStr? = record.description
  entries : record.deleted = false → ∃ items,
    change.payload.get? "entries" = some (.arr items) ∧ StoredFrom record.entries items

/-- What the log tells of a book. -/
structure MemoryStore.LogOf (store : MemoryStore) (bookId : String) : Prop where
  increasing : store.changes.Pairwise fun first second => first.sequence < second.sequence
  below : ∀ change ∈ store.changes, 0 < change.sequence ∧
    change.sequence ≤ store.changes.length
  commits : store.changes.Pairwise fun first second => first.commitId ≠ second.commitId
  told : ∀ id record, store.transactions.lookup id = some record → record.bookId = bookId →
    ∃ row, (store.rowsIn bookId id).getLast? = some row ∧ row.Tells record
  untold : ∀ id, ¬StoredIn store bookId id → store.rowsIn bookId id = []
  opened : ∀ id row, (store.rowsIn bookId id).head? = some row → row.operation = "upsert"

theorem MemoryStore.initial_logOf (books : KeyMap String BookRecord)
    (accounts : KeyMap String AccountRecord) (bookId : String) :
    (MemoryStore.initial books accounts).LogOf bookId where
  increasing := List.Pairwise.nil
  below _ member := absurd member List.not_mem_nil
  commits := List.Pairwise.nil
  told _ _ found := by simp [initial] at found
  untold _ _ := rfl
  opened _ _ first := by simp [rowsIn, initial] at first

/-! ### Writing -/

section Write

variable {store written : MemoryStore} {bookId : String} {row : ChangeRecord}

omit [Rfc3339] in
variable (bookId) in
theorem rowsIn_concat (appended : written.changes = store.changes ++ [row]) (id : String) :
    written.rowsIn bookId id = store.rowsIn bookId id ++
      if row.bookId = bookId ∧ row.IsRowOf id then [row] else [] := by
  rw [MemoryStore.rowsIn, appended, List.filter_append, List.filter_singleton]
  by_cases isRow : row.bookId = bookId ∧ row.IsRowOf id
  · rw [if_pos isRow, decide_eq_true isRow]
    rfl
  · rw [if_neg isRow, decide_eq_false isRow]
    rfl

/-- One more row, under the next number and a commit id of its own. -/
structure Appended (store written : MemoryStore) (row : ChangeRecord) : Prop where
  appended : written.changes = store.changes ++ [row]
  next : row.sequence = (store.changes.length : Int) + 1
  fresh : ∀ change ∈ store.changes, change.commitId ≠ row.commitId

/-- Another row keeps the numbering. -/
theorem MemoryStore.LogOf.numbered (log : store.LogOf bookId) (grown : Appended store written row) :
    written.changes.Pairwise (fun first second => first.sequence < second.sequence) ∧
      (∀ change ∈ written.changes, 0 < change.sequence ∧
        change.sequence ≤ written.changes.length) ∧
      written.changes.Pairwise fun first second => first.commitId ≠ second.commitId := by
  obtain ⟨appended, next, fresh⟩ := grown
  rw [appended]
  refine ⟨List.pairwise_append.mpr ⟨log.increasing, List.pairwise_singleton _ _, ?_⟩, ?_,
    List.pairwise_append.mpr ⟨log.commits, List.pairwise_singleton _ _, ?_⟩⟩
  · intro earlier member last isLast
    rw [List.mem_singleton.mp isLast, next]
    have := (log.below earlier member).2
    omega
  · intro change member
    rw [List.length_append, List.length_singleton]
    push_cast
    rcases List.mem_append.mp member with earlier | last
    · have := log.below change earlier
      omega
    · rw [List.mem_singleton.mp last, next]
      omega
  · intro earlier member last isLast
    rw [List.mem_singleton.mp isLast]
    exact fresh earlier member

/-- A transaction is written together with a row that tells it. -/
theorem MemoryStore.LogOf.write (log : store.LogOf bookId) (grown : Appended store written row)
    {id : String} {record : TxRecord}
    (wrote : written.transactions = store.transactions.insert id record) (isRow : row.IsRowOf id)
    (owned : row.bookId = record.bookId) (tells : record.bookId = bookId → row.Tells record)
    (opens : record.bookId = bookId → StoredIn store bookId id ∨ row.operation = "upsert")
    (keeps : record.bookId ≠ bookId → ¬StoredIn store bookId id) : written.LogOf bookId := by
  obtain ⟨increasing, below, commits⟩ := log.numbered grown
  have rows := rowsIn_concat bookId grown.appended
  have others : ∀ other, other ≠ id → written.rowsIn bookId other = store.rowsIn bookId other := by
    intro other different
    rw [rows, if_neg fun both => different (both.2.2.symm.trans isRow.2), List.append_nil]
  have elsewhere : record.bookId ≠ bookId →
      written.rowsIn bookId id = store.rowsIn bookId id := by
    intro foreign
    rw [rows, if_neg fun both => foreign (owned.symm.trans both.1), List.append_nil]
  have here : record.bookId = bookId →
      written.rowsIn bookId id = store.rowsIn bookId id ++ [row] := by
    intro inBook
    rw [rows, if_pos ⟨owned.trans inBook, isRow⟩]
  refine ⟨increasing, below, commits, ?_, ?_, ?_⟩
  · intro other found lookup inBook
    rw [wrote] at lookup
    rcases KeyMap.lookup_insert_eq_some lookup with ⟨rfl, rfl⟩ | ⟨different, before⟩
    · exact ⟨row, by rw [here inBook, List.getLast?_concat], tells inBook⟩
    · rw [others other different]
      exact log.told other found before inBook
  · intro other missing
    by_cases same : other = id
    · subst same
      have foreign : record.bookId ≠ bookId := fun inBook =>
        missing ⟨record, by rw [wrote, AList.lookup_insert], inBook⟩
      rw [elsewhere foreign]
      exact log.untold other (keeps foreign)
    · rw [others other same]
      refine log.untold other fun stored => missing ?_
      obtain ⟨found, lookup, inBook⟩ := stored
      exact ⟨found, by rw [wrote, AList.lookup_insert_ne same, lookup], inBook⟩
  · intro other first isFirst
    by_cases same : other = id
    · subst same
      by_cases inBook : record.bookId = bookId
      · rw [here inBook] at isFirst
        rcases opens inBook with stored | isUpsert
        · obtain ⟨found, lookup, ofBook⟩ := stored
          obtain ⟨last, isLast, -⟩ := log.told other found lookup ofBook
          rw [List.head?_append_of_ne_nil _ (List.ne_nil_of_mem (List.mem_of_getLast? isLast))]
            at isFirst
          exact log.opened other first isFirst
        · cases before : store.rowsIn bookId other with
          | nil =>
            rw [before] at isFirst
            cases isFirst
            exact isUpsert
          | cons head tail =>
            rw [before] at isFirst
            exact log.opened other first (by rw [before]; exact isFirst)
      · rw [elsewhere inBook] at isFirst
        exact log.opened other first isFirst
    · rw [others other same] at isFirst
      exact log.opened other first isFirst

/-- A row that is of no transaction tells nothing. -/
theorem MemoryStore.LogOf.append (log : store.LogOf bookId) (grown : Appended store written row)
    (wrote : written.transactions = store.transactions)
    (noRow : row.entityType ≠ "transaction") : written.LogOf bookId := by
  obtain ⟨increasing, below, commits⟩ := log.numbered grown
  have rows : ∀ id, written.rowsIn bookId id = store.rowsIn bookId id := fun id => by
    rw [rowsIn_concat bookId grown.appended, if_neg fun both => noRow both.2.1, List.append_nil]
  refine ⟨increasing, below, commits, ?_, ?_, ?_⟩
  · intro id record lookup inBook
    rw [wrote] at lookup
    rw [rows]
    exact log.told id record lookup inBook
  · intro id missing
    rw [rows]
    exact log.untold id fun ⟨record, lookup, inBook⟩ => missing ⟨record, by rw [wrote, lookup], inBook⟩
  · intro id first isFirst
    rw [rows] at isFirst
    exact log.opened id first isFirst

end Write

/-! ### One mutation -/

/-- A mutation pushed to another book takes a transaction of the book over. -/
def TakesFrom (bookId : String) (store : MemoryStore) (step : PushStep) : Prop :=
  step.bookId ≠ bookId ∧ TakesOver store step ∧ StoredIn store bookId step.mutation.entityId

/-- The row of an accepted create or update tells the record it writes. -/
theorem AcceptsUpsert.tells {store : MemoryStore} {bookId : String} {mutation : SyncMutationDto}
    {existing : Option TxRecord} {requestedOccurredAt : Option Timestamp}
    {drafts : List EntryDraft}
    (accepts : AcceptsUpsert store bookId mutation existing requestedOccurredAt drafts)
    (stamp : Stamp) {row : ChangeRecord} {record : TxRecord}
    (recorded : record =
      upsertRecord bookId mutation existing requestedOccurredAt drafts stamp.now)
    (version : row.entityVersion = record.version) (operation : row.operation = "upsert")
    (payload : row.payload = upsertPayload mutation existing record.occurredAt) :
    row.Tells record := by
  obtain ⟨items, present, drafted⟩ := parseEntries_ok accepts.entries
  obtain ⟨currency, sound⟩ := sound_of_validateBalanced accepts.balanced
  subst recorded
  refine ⟨version, operation, fun _ => ?_, fun _ => ?_, fun _ => ⟨items, ?_, ?_, ?_⟩⟩
  · rw [payload, get?_upsertPayload_occurredAt present]
  · rw [payload, get?_upsertPayload_of_ne _ _ _ (by decide) (by decide)]
    rfl
  · rw [payload, get?_upsertPayload_of_ne _ _ _ (by decide) (by decide), present]
  · rw [upsertRecord, drafted, List.map_map]
    rfl
  · intro item member
    have drafted := sound (readEntry item) (by rw [drafted]; exact List.mem_map_of_mem member)
    exact ⟨drafted.nonzero, drafted.inRange⟩

/-- A step with a commit id of its own that takes nothing from the book keeps its log. -/
theorem pushStep_logOf {store : MemoryStore} {bookId : String} (log : store.LogOf bookId)
    {step : PushStep} (fresh : ∀ change ∈ store.changes, change.commitId ≠ step.stamp.commitId)
    (keeps : ¬TakesFrom bookId store step) : (pushStep store step).LogOf bookId := by
  cases stored : store.mutations.lookup step.key with
  | some receipt =>
    rw [pushStep_replayed stored]
    exact log
  | none =>
    refine pushStep_elim (motive := fun after => after.LogOf bookId) step
      (fun _ _ holds => ⟨holds.increasing, holds.below, holds.commits, holds.told, holds.untold,
        holds.opened⟩) log ?_ ?_ ?_
    · intro existing requestedOccurredAt drafts accepts
      refine log.write ⟨rfl, rfl, fresh⟩ rfl ⟨rfl, rfl⟩ rfl
        (fun _ => accepts.tells step.stamp rfl rfl rfl rfl) (fun _ => Or.inr rfl) ?_
      rintro foreign ⟨record, found, inBook⟩
      rw [accepts.found] at found
      subst found
      exact keeps ⟨foreign, ⟨stored, record, _, _, accepts, fun same =>
        foreign (same.symm.trans inBook)⟩, record, accepts.found, inBook⟩
    · intro existing accepts
      refine log.write ⟨rfl, rfl, fresh⟩ rfl ⟨rfl, rfl⟩ accepts.owned.symm
        (fun _ => ⟨rfl, rfl, by simp, by simp, by simp⟩)
        (fun inBook => Or.inl ⟨existing, accepts.found, inBook⟩) ?_
      rintro foreign ⟨record, found, inBook⟩
      rw [accepts.found] at found
      cases found
      exact foreign inBook
    · intro record accepts
      exact log.append ⟨rfl, rfl, fresh⟩ rfl (by simp [accountChange, MemoryStore.nextChange])

end Ledgerly
