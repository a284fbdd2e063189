/-
This file proves the double-entry invariant of the synced ledger.

Every stored transaction is balanced over the integers, has the amounts the client
sent, and books to accounts of its own book. The invariant rests on three readers
agreeing: `parse_entries` reads an amount as an `i128` and falls back to zero,
`Money::new` refuses zero and everything outside an `i64`, and `validate_balanced`
adds up in an `i128` what is then stored in an `i64`. Whatever passes all three is
the integer the text spells.
-/

import Ledgerly.MemoryStep

namespace Ledgerly

/-- The entries of a transaction keep the books: two entries at least, one currency, no
zero amount, sum zero, all on accounts of the transaction's book. -/
structure TxRecord.DoubleEntry (transaction : TxRecord)
    (accounts : KeyMap String AccountRecord) : Prop where
  atLeastTwo : 2 ≤ transaction.entries.length
  oneCurrency : ∃ currency, ∀ entry ∈ transaction.entries, entry.currency = currency
  nonzero : ∀ entry ∈ transaction.entries, entry.amountMinor ≠ 0
  sumZero : (transaction.entries.map StoredEntry.amountMinor).sum = 0
  owned : ∀ entry ∈ transaction.entries,
    accountInBook accounts transaction.bookId entry.accountId = true

/-- A stored entry has the account and the currency of an element of a payload, and the
amount which that element's text spells. -/
structure StoredEntry.ReadFrom (entry : StoredEntry) (item : Json) : Prop where
  account : entry.accountId = (readEntry item).accountId
  currency : entry.currency = (readEntry item).currency
  amount : ∃ text, item.get? "amountMinor" = some (.str text) ∧
    decimalInt text = some entry.amountMinor

/-- A mutation that sent the entries of a transaction, one by one. -/
structure PushStep.Sent (step : PushStep) (transaction : TxRecord) : Prop where
  entity : step.mutation.entityId = transaction.id
  book : step.bookId = transaction.bookId
  entries : ∃ items, step.mutation.payload.get? "entries" = some (.arr items) ∧
    List.Forall₂ StoredEntry.ReadFrom transaction.entries items

/-- The double-entry invariant of a store that was reached by pushing `steps`. -/
def MemoryStore.DoubleEntry (store : MemoryStore) (steps : List PushStep) : Prop :=
  ∀ id transaction, store.transactions.lookup id = some transaction →
    transaction.id = id ∧ transaction.DoubleEntry store.accounts ∧
      ∃ step ∈ steps, step.Sent transaction

/-! ### What an accepted payload stores -/

/-- Balanced drafts are stored without loss. -/
theorem stored_amountMinor {entries : List EntryDraft} (balanced : Balanced entries) :
    ∀ draft ∈ entries, draft.stored.amountMinor = draft.amountMinor := by
  obtain ⟨currency, sound⟩ := balanced.oneCurrency
  exact fun draft member => asI64_of_fits (sound draft member).inRange

theorem sum_stored {entries : List EntryDraft} (balanced : Balanced entries) :
    ((entries.map EntryDraft.stored).map StoredEntry.amountMinor).sum = 0 := by
  have same : (entries.map EntryDraft.stored).map StoredEntry.amountMinor =
      entries.map EntryDraft.amountMinor := by
    rw [List.map_map]
    exact List.map_congr_left (stored_amountMinor balanced)
  rw [same, balanced.sumZero]

/-- What the check accepts is stored as a double entry on accounts of the book. -/
theorem doubleEntry_of_balanced {transaction : TxRecord} {entries : List EntryDraft}
    {accounts : KeyMap String AccountRecord} (balanced : Balanced entries)
    (stored : transaction.entries = entries.map EntryDraft.stored)
    (owned : ∀ draft ∈ entries,
      accountInBook accounts transaction.bookId draft.accountId = true) :
    transaction.DoubleEntry accounts := by
  obtain ⟨currency, sound⟩ := balanced.oneCurrency
  refine ⟨?_, ⟨currency, ?_⟩, ?_, ?_, ?_⟩
  · rw [stored, List.length_map]
    exact balanced.atLeastTwo
  · rw [stored, List.forall_mem_map]
    exact fun draft member => (sound draft member).currencyEq
  · rw [stored, List.forall_mem_map]
    intro draft member
    rw [stored_amountMinor balanced draft member]
    exact (sound draft member).nonzero
  · rw [stored]
    exact sum_stored balanced
  · rw [stored, List.forall_mem_map]
    exact owned

/-- Every balanced payload is stored as the integers its texts spell. -/
theorem readFrom_of_balanced {items : List Json} (balanced : Balanced (items.map readEntry)) :
    List.Forall₂ StoredEntry.ReadFrom ((items.map readEntry).map EntryDraft.stored) items := by
  obtain ⟨currency, sound⟩ := balanced.oneCurrency
  rw [List.map_map, List.forall₂_map_left_iff, List.forall₂_same]
  intro item member
  have read : readEntry item ∈ items.map readEntry := List.mem_map_of_mem member
  obtain ⟨text, present, spelled⟩ := readEntry_amountMinor (sound _ read).nonzero
  refine ⟨rfl, rfl, text, present, ?_⟩
  rw [Function.comp_apply, stored_amountMinor balanced _ read, spelled]

/-! ### The invariant along a run -/

/-- An account write moves no account out of a book. -/
theorem accountInBook_insert [Rfc3339] {store : MemoryStore} {bookId : String}
    {mutation : SyncMutationDto} {record : AccountRecord}
    (accepts : AcceptsAccount store bookId mutation record) {owner accountId : String}
    (owned : accountInBook store.accounts owner accountId = true) :
    accountInBook (store.accounts.insert mutation.entityId record) owner accountId = true := by
  obtain ⟨account, found, inBook⟩ := accountInBook_iff.mp owned
  rw [accountInBook_iff, KeyMap.lookup_insert_eq]
  by_cases same : accountId = mutation.entityId
  · refine ⟨record, if_pos same, ?_⟩
    rcases accepts.found with ⟨missing, -, -⟩ | ⟨existing, stored, inOwn, -, -⟩
    · rw [same, missing] at found
      cases found
    · rw [same, stored] at found
      cases found
      rw [accepts.owned, ← inBook, inOwn]
  · exact ⟨account, by rw [if_neg same, found], inBook⟩

theorem TxRecord.DoubleEntry.mono {transaction : TxRecord}
    {accounts later : KeyMap String AccountRecord} (kept : transaction.DoubleEntry accounts)
    (grown : ∀ bookId accountId, accountInBook accounts bookId accountId = true →
      accountInBook later bookId accountId = true) : transaction.DoubleEntry later :=
  { kept with owned := fun entry member => grown _ _ (kept.owned entry member) }

/-- The record of an accepted create or update keeps the books and was sent by the step. -/
theorem upsertRecord_doubleEntry [Rfc3339] {store : MemoryStore} {step : PushStep}
    {existing : Option TxRecord} {requestedOccurredAt : Option Timestamp}
    {drafts : List EntryDraft}
    (accepts : AcceptsUpsert store step.bookId step.mutation existing requestedOccurredAt drafts)
    (now : Timestamp) :
    let record := upsertRecord step.bookId step.mutation existing requestedOccurredAt drafts now
    record.DoubleEntry store.accounts ∧ step.Sent record := by
  obtain ⟨items, present, rfl⟩ := parseEntries_ok accepts.entries
  have fits : (items.map readEntry).length ≤ isizeMax := by
    have bound := step.entriesFit
    simpa [Json.arrayLength, present] using bound
  have balanced := (validateBalanced_iff fits).mp accepts.balanced
  exact ⟨doubleEntry_of_balanced balanced rfl accepts.accounts,
    ⟨rfl, rfl, items, present, readFrom_of_balanced balanced⟩⟩

/-- One step keeps the double-entry invariant. -/
theorem pushStep_doubleEntry [Rfc3339] {store : MemoryStore} {steps : List PushStep}
    (kept : store.DoubleEntry steps) {step : PushStep} (member : step ∈ steps) :
    (pushStep store step).DoubleEntry steps := by
  refine pushStep_elim (motive := fun after => after.DoubleEntry steps) step
    (fun _ _ holds => holds) kept ?_ ?_ ?_
  · intro existing requestedOccurredAt drafts accepts id transaction found
    rcases KeyMap.lookup_insert_eq_some found with ⟨rfl, rfl⟩ | ⟨-, before⟩
    · obtain ⟨books, sent⟩ := upsertRecord_doubleEntry accepts step.stamp.now
      exact ⟨rfl, books, step, member, sent⟩
    · exact kept id transaction before
  · intro existing accepts id transaction found
    rcases KeyMap.lookup_insert_eq_some found with ⟨rfl, rfl⟩ | ⟨-, before⟩
    · obtain ⟨same, books, sender, sentIn, sent⟩ := kept _ _ accepts.found
      exact ⟨same, ⟨books.atLeastTwo, books.oneCurrency, books.nonzero, books.sumZero,
        books.owned⟩, sender, sentIn, ⟨sent.entity, sent.book, sent.entries⟩⟩
    · exact kept id transaction before
  · intro record accepts id transaction found
    obtain ⟨same, books, sent⟩ := kept id transaction found
    exact ⟨same, books.mono fun _ _ owned => accountInBook_insert accepts owned, sent⟩

/-- Every state of the memory backend keeps the books: whatever is pushed, by whom and in
whatever order, a stored transaction has at least two entries in one currency, none of them
zero, summing to zero over the integers, each with the amount some push of this transaction
spelled and on an account of the transaction's own book. -/
theorem memory_keeps_double_entry [Rfc3339] (books : KeyMap String BookRecord)
    (accounts : KeyMap String AccountRecord) (steps : List PushStep) :
    (Machine.run pushStep (.initial books accounts) steps).DoubleEntry steps := by
  have preserved : ∀ store : MemoryStore, ∀ step ∈ steps, store.DoubleEntry steps →
      (pushStep store step).DoubleEntry steps :=
    fun _ _ member kept => pushStep_doubleEntry kept member
  refine Machine.run_invariant_of_mem preserved ?_
  intro id transaction found
  rw [MemoryStore.initial, AList.lookup_empty] at found
  cases found

end Ledgerly
