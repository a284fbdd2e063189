/-
This file follows a device through the second half of a sync: the page of changes it pulls
and applies.

A page holds the rows of a book between two cursors. For a transaction with a row in the page
the last one decides: either the log goes on behind the page, or that row tells the record
that is stored, and the device has it afterwards.
-/

import Ledgerly.DevicePush

namespace Ledgerly

/-! ### The page -/

section Page

variable [Rfc3339] {store : MemoryStore} {bookId : String}

/-- The rows beyond a cursor, in increasing order. -/
theorem MemoryStore.LogOf.selected_increasing (log : store.LogOf bookId) (cursor : Int) :
    (selectChanges store.changes bookId cursor).Pairwise fun first second =>
      first.sequence < second.sequence :=
  selectChanges_increasing (log.increasing.imp fun less => ne_of_lt less) bookId cursor

/-- Every row is a commit of its own, so that a page is cut at the limit. -/
theorem MemoryStore.LogOf.pullRowsMem_eq (log : store.LogOf bookId) (cursor : Int)
    (limit : Option Nat) : pullRowsMem store.changes bookId cursor limit =
      (selectChanges store.changes bookId cursor).take (pullLimit limit) :=
  Paging.page_eq_take _ _ _ (selectChanges_apart log.commits bookId cursor)

theorem MemoryStore.LogOf.page_increasing (log : store.LogOf bookId) (cursor : Int)
    (limit : Option Nat) :
    (pullRowsMem store.changes bookId cursor limit).Pairwise fun first second =>
      first.sequence < second.sequence := by
  rw [log.pullRowsMem_eq]
  exact (log.selected_increasing cursor).sublist (List.take_sublist _ _)

/-- A page holds the rows of the book between the cursor and the next one. -/
theorem MemoryStore.LogOf.mem_page (log : store.LogOf bookId) (cursor : Int)
    (limit : Option Nat) {change : ChangeRecord} :
    change ∈ pullRowsMem store.changes bookId cursor limit ↔
      change ∈ store.changes ∧ change.bookId = bookId ∧ cursor < change.sequence ∧
        change.sequence ≤ nextCursor cursor (pullRowsMem store.changes bookId cursor limit) := by
  constructor
  · intro member
    have atMost := le_nextCursor_of_mem cursor (log.page_increasing cursor limit) member
    rw [log.pullRowsMem_eq] at member
    obtain ⟨inLog, inBook, beyond⟩ := mem_selectChanges.mp (List.mem_of_mem_take member)
    exact ⟨inLog, inBook, beyond, atMost⟩
  · rintro ⟨inLog, inBook, beyond, atMost⟩
    rw [log.pullRowsMem_eq] at atMost ⊢
    exact mem_take_of_le_nextCursor (log.selected_increasing cursor)
      (mem_selectChanges.mpr ⟨inLog, inBook, beyond⟩) atMost

end Page

/-! ### One change -/

/-- Nothing but the transactions and the accounts of a device differ. -/
structure Device.SameQueue (before after : Device) : Prop where
  deviceId : after.deviceId = before.deviceId
  bookId : after.bookId = before.bookId
  pending : after.pending = before.pending
  conflicts : after.conflicts = before.conflicts
  remoteBookId : after.remoteBookId = before.remoteBookId
  cursor : after.cursor = before.cursor

theorem Device.SameQueue.refl (device : Device) : device.SameQueue device :=
  ⟨rfl, rfl, rfl, rfl, rfl, rfl⟩

theorem Device.SameQueue.trans {first second third : Device} (before : first.SameQueue second)
    (after : second.SameQueue third) : first.SameQueue third :=
  ⟨after.deviceId.trans before.deviceId, after.bookId.trans before.bookId,
    after.pending.trans before.pending, after.conflicts.trans before.conflicts,
    after.remoteBookId.trans before.remoteBookId, after.cursor.trans before.cursor⟩

/-- What applying a change does to the transactions of a device. -/
structure Device.Applies (remoteBookId : String) (now : Int) (before : Device)
    (change : ChangeRecord) (after : Device) : Prop where
  sameQueue : before.SameQueue after
  others : ∀ id, ¬change.IsRowOf id →
    after.transactions.lookup id = before.transactions.lookup id
  kept : ∀ id, (before.transactions.lookup id).isSome = true →
    (after.transactions.lookup id).isSome = true
  source : ∀ id, (after.transactions.lookup id).bind LocalTransaction.source =
    (before.transactions.lookup id).bind LocalTransaction.source
  upserted : ∀ id, change.IsRowOf id → change.operation = "upsert" → ∃ payload row,
    rewriteTransactionPayload change.payload remoteBookId before.bookId = some payload ∧
      remoteTransaction (before.transactions.lookup id) change.entityVersion payload now =
        some row ∧
      after.transactions.lookup id = some row
  deleted : ∀ id, change.IsRowOf id → change.operation = "delete" →
    after.transactions.lookup id = (before.transactions.lookup id).map fun existing =>
      { existing with
        deleted := true
        version := change.entityVersion }

section Change

variable {device after : Device} {remoteBookId : String} {now : Int} {change : ChangeRecord}

/-- A change of the transactions under the id of the row. -/
theorem Device.Applies.ofInsert (notDelete : change.operation ≠ "delete")
    {payload : Json} {row : LocalTransaction} (isTransaction : change.entityType = "transaction")
    (rewritten : rewriteTransactionPayload change.payload remoteBookId device.bookId = some payload)
    (read : remoteTransaction (device.transactions.lookup change.entityId) change.entityVersion
      payload now = some row) :
    device.Applies remoteBookId now change
      { device with transactions := device.transactions.insert change.entityId row } := by
  have source : row.source =
      (device.transactions.lookup change.entityId).bind LocalTransaction.source := by
    unfold remoteTransaction at read
    split at read <;> cases read
    rfl
  refine ⟨⟨rfl, rfl, rfl, rfl, rfl, rfl⟩, fun id other => ?_, fun id known => ?_, fun id => ?_,
    fun id isRow _ => ?_, fun _ _ isDelete => absurd isDelete notDelete⟩
  · exact AList.lookup_insert_ne fun same => other ⟨isTransaction, same.symm⟩
  · rw [KeyMap.lookup_insert_eq]
    split
    · rfl
    · exact known
  · rw [KeyMap.lookup_insert_eq]
    split
    · rename_i same
      rw [same, Option.bind_some, source]
    · rfl
  · obtain ⟨-, rfl⟩ := isRow
    exact ⟨payload, row, rewritten, read, AList.lookup_insert _⟩

theorem Device.applyRemoteDelete_applies (isTransaction : change.entityType = "transaction")
    (isDelete : change.operation = "delete") :
    device.Applies remoteBookId now change
      (device.applyRemoteDelete change.entityId change.entityVersion) := by
  have notUpsert : change.operation ≠ "upsert" := by
    rw [isDelete]
    decide
  unfold Device.applyRemoteDelete
  split
  · rename_i missing
    refine ⟨.refl device, fun _ _ => rfl, fun _ known => known, fun _ => rfl,
      fun _ _ isUpsert => absurd isUpsert notUpsert, fun id isRow _ => ?_⟩
    obtain ⟨-, rfl⟩ := isRow
    rw [missing]
    rfl
  · rename_i existing found
    refine ⟨⟨rfl, rfl, rfl, rfl, rfl, rfl⟩, fun id other => ?_, fun id known => ?_,
      fun id => ?_, fun _ _ isUpsert => absurd isUpsert notUpsert, fun id isRow _ => ?_⟩
    · exact AList.lookup_insert_ne fun same => other ⟨isTransaction, same.symm⟩
    · rw [KeyMap.lookup_insert_eq]
      split
      · rfl
      · exact known
    · rw [KeyMap.lookup_insert_eq]
      split
      · rename_i same
        rw [same, found]
        rfl
      · rfl
    · obtain ⟨-, rfl⟩ := isRow
      rw [AList.lookup_insert, found]
      rfl

/-- Everything the body of the loop over the pulled changes can do. -/
theorem Device.applyChange_applies
    (applied : device.applyChange remoteBookId now change = some after) :
    device.Applies remoteBookId now change after := by
  unfold Device.applyChange at applied
  split at applied
  · rename_i isAccount
    obtain ⟨payload, -, written⟩ := Option.bind_eq_some_iff.mp applied
    unfold Device.applyRemoteAccountUpsert at written
    split at written
    · cases written
      have noRow : ∀ id, ¬change.IsRowOf id := fun id isRow => by
        have := isRow.1.symm.trans isAccount.1
        exact absurd this (by decide)
      exact ⟨⟨rfl, rfl, rfl, rfl, rfl, rfl⟩, fun _ _ => rfl, fun _ known => known, fun _ => rfl,
        fun id isRow => absurd isRow (noRow id), fun id isRow => absurd isRow (noRow id)⟩
    · cases written
  · split at applied
    · rename_i other
      cases applied
      exact ⟨.refl device, fun _ _ => rfl, fun _ known => known, fun _ => rfl,
        fun id isRow => absurd isRow.1 other, fun id isRow => absurd isRow.1 other⟩
    · rename_i isTransaction
      have isTransaction := not_not.mp isTransaction
      split at applied
      · rename_i isUpsert
        obtain ⟨payload, rewritten, written⟩ := Option.bind_eq_some_iff.mp applied
        obtain ⟨row, read, rfl⟩ := Option.map_eq_some_iff.mp written
        exact .ofInsert (by rw [isUpsert]; decide) isTransaction rewritten read
      · rename_i notUpsert
        split at applied
        · rename_i isDelete
          cases applied
          exact applyRemoteDelete_applies isTransaction isDelete
        · rename_i notDelete
          cases applied
          exact ⟨.refl device, fun _ _ => rfl, fun _ known => known, fun _ => rfl,
            fun _ _ isUpsert => absurd isUpsert notUpsert,
            fun _ _ isDelete => absurd isDelete notDelete⟩

end Change

/-! ### A list of changes -/

section Changes

variable {device after : Device} {remoteBookId : String} {now : Int}

/-- Applying changes, also where it throws, loses no transaction, sets no source, and leaves
transactions without a change alone. -/
theorem Device.applyChanges_keeps (remoteBookId : String) (now : Int) (device : Device)
    (changes : List ChangeRecord) :
    device.SameQueue (Device.left (Device.applyChanges remoteBookId now device changes)) ∧
      ∀ id,
        ((device.transactions.lookup id).isSome = true →
          ((Device.left (Device.applyChanges remoteBookId now device changes)).transactions.lookup
            id).isSome = true) ∧
        ((Device.left (Device.applyChanges remoteBookId now device changes)).transactions.lookup
            id).bind LocalTransaction.source =
          (device.transactions.lookup id).bind LocalTransaction.source ∧
        ((∀ change ∈ changes, ¬change.IsRowOf id) →
          (Device.left (Device.applyChanges remoteBookId now device changes)).transactions.lookup
            id = device.transactions.lookup id) := by
  induction changes generalizing device with
  | nil => exact ⟨.refl device, fun _ => ⟨fun known => known, rfl, fun _ => rfl⟩⟩
  | cons change rest inductionHypothesis =>
    rw [Device.applyChanges]
    cases applied : device.applyChange remoteBookId now change with
    | none => exact ⟨.refl device, fun _ => ⟨fun known => known, rfl, fun _ => rfl⟩⟩
    | some next =>
      have applies := Device.applyChange_applies applied
      obtain ⟨sameQueue, keeps⟩ := inductionHypothesis next
      refine ⟨applies.sameQueue.trans sameQueue, fun id => ?_⟩
      obtain ⟨known, source, untouched⟩ := keeps id
      refine ⟨fun was => known (applies.kept id was), source.trans (applies.source id),
        fun none => ?_⟩
      refine (untouched fun other member => none other (List.mem_cons_of_mem _ member)).trans ?_
      exact applies.others id (none change List.mem_cons_self)

/-- Changes that are all applied are applied up to any of them, and that one after it. -/
theorem Device.applyChanges_split {before rest : List ChangeRecord} {change : ChangeRecord}
    (applied : Device.applyChanges remoteBookId now device (before ++ change :: rest) =
      .ok after) :
    ∃ reached next, Device.applyChanges remoteBookId now device before = .ok reached ∧
      reached.applyChange remoteBookId now change = some next ∧
      Device.applyChanges remoteBookId now next rest = .ok after := by
  induction before generalizing device with
  | nil =>
    rw [List.nil_append, Device.applyChanges] at applied
    split at applied
    · cases applied
    · rename_i next made
      exact ⟨device, next, rfl, made, applied⟩
  | cons first before inductionHypothesis =>
    rw [List.cons_append, Device.applyChanges] at applied
    rw [Device.applyChanges]
    split at applied
    · cases applied
    · rename_i next made
      exact inductionHypothesis applied

/-- The last change of a transaction decides what becomes of it. -/
theorem Device.lookup_applyChanges {before rest : List ChangeRecord} {change : ChangeRecord}
    {id : String}
    (applied : Device.applyChanges remoteBookId now device (before ++ change :: rest) =
      .ok after) (last : ∀ later ∈ rest, ¬later.IsRowOf id) :
    ∃ reached next, device.SameQueue reached ∧ reached.Applies remoteBookId now change next ∧
      after.transactions.lookup id = next.transactions.lookup id := by
  obtain ⟨reached, next, first, step, final⟩ := Device.applyChanges_split applied
  have sameQueue := (Device.applyChanges_keeps remoteBookId now device before).1
  have untouched := ((Device.applyChanges_keeps remoteBookId now next rest).2 id).2.2 last
  rw [first] at sameQueue
  rw [final] at untouched
  exact ⟨reached, next, sameQueue, Device.applyChange_applies step, untouched⟩

/-- A transaction with an upsert among the changes is there afterwards. -/
theorem Device.isSome_of_upsert {changes : List ChangeRecord} {change : ChangeRecord}
    {id : String} (applied : Device.applyChanges remoteBookId now device changes = .ok after)
    (member : change ∈ changes) (isRow : change.IsRowOf id)
    (isUpsert : change.operation = "upsert") :
    (after.transactions.lookup id).isSome = true := by
  obtain ⟨before, rest, rfl⟩ := List.append_of_mem member
  obtain ⟨reached, next, -, step, final⟩ := Device.applyChanges_split applied
  obtain ⟨-, row, -, -, written⟩ := (Device.applyChange_applies step).upserted id isRow isUpsert
  have keeps := ((Device.applyChanges_keeps remoteBookId now next rest).2 id).1
    (by rw [written]; rfl)
  rwa [final] at keeps

end Changes

/-! ### What a row tells the device -/

section Reading

variable {fromBook toBook : String}

theorem optionalText_insert_of_ne {payload value : Json} {key other : String}
    (different : other ≠ key) : optionalText (payload.insert key value) other =
      optionalText payload other := by
  rw [optionalText, optionalText, Json.get?_insert_of_ne _ _ _ _ different]

/-- A text the device accepts is the text the server reads. -/
theorem asStr?_of_optionalText {payload : Json} {key : String} {text : Option String}
    (read : optionalText payload key = some text) :
    (payload.get? key).bind Json.asStr? = text := by
  unfold optionalText at read
  split at read <;> cases read <;> rename_i present <;> rw [present] <;> rfl

/-- The device reads of an entry what the server stored of it. -/
theorem read_remoteEntry {item sent : Json} {entry : LocalEntry}
    (rewritten : rewriteEntry fromBook toBook item = some sent)
    (read : remoteEntry sent = some entry)
    (sound : (readEntry item).amountMinor ≠ 0 ∧ FitsI64 (readEntry item).amountMinor) :
    entry.read = (readEntry item).stored.seenFrom fromBook toBook := by
  obtain ⟨text, amount, spelled⟩ := readEntry_amountMinor sound.1
  obtain ⟨fields, rfl⟩ := Json.exists_obj_of_get? amount
  unfold rewriteEntry at rewritten
  split at rewritten
  · rename_i id account
    cases rewritten
    have accountId : (readEntry (.obj fields)).accountId = id := by
      simp only [readEntry, account, Option.bind_some, Json.asStr?_str, Option.getD_some]
    have stored : (readEntry (.obj fields)).stored.amountMinor =
        (readEntry (.obj fields)).amountMinor := asI64_of_fits sound.2
    unfold remoteEntry at read
    rw [Json.get?_insert_self, optionalText_insert_of_ne (by decide),
      Json.get?_insert_of_ne _ _ _ _ (by decide), amount] at read
    split at read
    · rename_i named currency isText isCurrency
      cases isText
      cases read
      have sameCurrency : currency.getD "CNY" = (readEntry (.obj fields)).currency := by
        rw [readEntry, asStr?_of_optionalText isCurrency]
      rw [StoredEntry.seenFrom, stored, ← spelled]
      show (rewriteAccountId id fromBook toBook, decimalInt text, currency.getD "CNY") =
        (rewriteAccountId (readEntry (.obj fields)).accountId fromBook toBook, decimalInt text,
          (readEntry (.obj fields)).currency)
      rw [accountId, sameCurrency]
    · cases read
  · cases rewritten

/-- And so of every entry of a payload. -/
theorem read_remoteEntries {items sent : List Json} {entries : List LocalEntry}
    (rewritten : items.mapM (rewriteEntry fromBook toBook) = some sent)
    (read : sent.mapM remoteEntry = some entries)
    (sound : ∀ item ∈ items, (readEntry item).amountMinor ≠ 0 ∧
      FitsI64 (readEntry item).amountMinor) :
    entries.map LocalEntry.read =
      items.map fun item => (readEntry item).stored.seenFrom fromBook toBook := by
  rw [List.mapM_eq_some_iff] at rewritten read
  induction rewritten generalizing entries with
  | nil =>
    cases read
    rfl
  | cons first _ inductionHypothesis =>
    cases read with
    | cons entry rest =>
      rw [List.map_cons, List.map_cons, read_remoteEntry first entry (sound _ List.mem_cons_self),
        inductionHypothesis rest fun item member => sound item (List.mem_cons_of_mem _ member)]

/-- The row that tells a live record makes the device copy it. -/
theorem ChangeRecord.Tells.mirrors [Rfc3339] [ReadsDates] {change : ChangeRecord}
    {record : TxRecord} (tells : change.Tells record) (live : record.deleted = false)
    {payload : Json} {known : Option LocalTransaction} {now : Int} {row : LocalTransaction}
    (rewritten : rewriteTransactionPayload change.payload fromBook toBook = some payload)
    (read : remoteTransaction known change.entityVersion payload now = some row) :
    row.Mirrors fromBook toBook record ∧ row.source = known.bind LocalTransaction.source := by
  obtain ⟨items, present, stored, sound⟩ := tells.entries live
  obtain ⟨fields, isObject⟩ := Json.exists_obj_of_get? present
  unfold rewriteTransactionPayload at rewritten
  rw [isObject] at rewritten present
  simp only [entryList, present, Option.bind_some] at rewritten
  obtain ⟨sent, rewriting, rfl⟩ := Option.map_eq_some_iff.mp rewritten
  unfold remoteTransaction at read
  split at read
  · rename_i occurredAt description entries isDate isDescription isEntries
    cases read
    simp only [remoteDate, Json.get?_insert_of_ne, ne_eq, String.reduceEq, not_false_eq_true,
      ← isObject, tells.occurredAt live, ReadsDates.remoteOccurredAt_format, Option.map_some,
      Option.some.injEq] at isDate
    rw [optionalText_insert_of_ne (by decide), ← isObject] at isDescription
    simp only [entryList, Json.get?_insert_self, Option.bind_some] at isEntries
    refine ⟨⟨tells.version, live.symm, fun _ => isDate.symm, fun _ => ?_, fun _ => ?_⟩, rfl⟩
    · rw [← tells.description live, asStr?_of_optionalText isDescription]
    · rw [read_remoteEntries rewriting isEntries sound, stored, List.map_map]
      rfl
  · cases read

end Reading

/-! ### The last row of a transaction -/

theorem MemoryStore.mem_rowsIn {store : MemoryStore} {bookId id : String} {change : ChangeRecord} :
    change ∈ store.rowsIn bookId id ↔
      change ∈ store.changes ∧ change.bookId = bookId ∧ change.IsRowOf id := by
  rw [rowsIn, List.mem_filter, decide_eq_true_eq]

section Backfill

variable [Rfc3339] (change : ChangeRecord) (occurredAt : Option Timestamp)

theorem ChangeRecord.isRowOf_backfilled {id : String} :
    (change.backfilled occurredAt).IsRowOf id ↔ change.IsRowOf id := by
  obtain ⟨type, entity, -⟩ := change.backfilled_fields occurredAt
  rw [IsRowOf, IsRowOf, type, entity]

variable {change} in
/-- A row that tells a record has its date and gets no other. -/
theorem ChangeRecord.Tells.backfilled {record : TxRecord} (tells : change.Tells record) :
    change.backfilled occurredAt = change := by
  unfold ChangeRecord.backfilled
  split
  · rename_i isUpsert
    have live : record.deleted = false := by
      by_contra deleted
      have operation := tells.operation
      rw [if_pos (by simpa using deleted), isUpsert.2] at operation
      exact absurd operation (by decide)
    split
    · rw [backfillTransactionOccurredAt, tells.occurredAt live]
      rfl
    · rfl
  · rfl

end Backfill

section Last

variable [Rfc3339] {server : MemoryStore} {bookId : String} (log : server.LogOf bookId)

include log

theorem MemoryStore.LogOf.rowsIn_increasing (id : String) :
    (server.rowsIn bookId id).Pairwise fun first second => first.sequence < second.sequence :=
  log.increasing.filter _

/-- The first row of a transaction in the log is an upsert. -/
theorem MemoryStore.LogOf.exists_opening {id : String} {change : ChangeRecord}
    (member : change ∈ server.rowsIn bookId id) :
    ∃ first ∈ server.rowsIn bookId id, first.operation = "upsert" ∧
      first.sequence ≤ change.sequence := by
  have increasing := log.rowsIn_increasing id
  have opened := log.opened id
  cases rows : server.rowsIn bookId id with
  | nil =>
    rw [rows] at member
    exact absurd member List.not_mem_nil
  | cons first rest =>
    rw [rows] at member increasing opened
    refine ⟨first, List.mem_cons_self, opened first rfl, ?_⟩
    rcases List.mem_cons.mp member with rfl | later
    · exact le_refl _
    · exact le_of_lt ((List.pairwise_cons.mp increasing).1 change later)

/-- A transaction with rows in a page and none behind it: the last one tells the record. -/
theorem MemoryStore.LogOf.last_in_page {cursor : Int} {limit : Option Nat} {id : String}
    {change : ChangeRecord} (member : change ∈ pullRowsMem server.changes bookId cursor limit)
    (isRow : change.IsRowOf id)
    (reached : ∀ row ∈ server.rowsIn bookId id,
      row.sequence ≤ nextCursor cursor (pullRowsMem server.changes bookId cursor limit)) :
    ∃ record row before rest, server.transactions.lookup id = some record ∧
      record.bookId = bookId ∧ row.IsRowOf id ∧ row.Tells record ∧
      pullRowsMem server.changes bookId cursor limit = before ++ row :: rest ∧
      ∀ later ∈ rest, ¬later.IsRowOf id := by
  obtain ⟨inLog, inBook, beyond, -⟩ := (log.mem_page cursor limit).mp member
  have inRows : change ∈ server.rowsIn bookId id :=
    MemoryStore.mem_rowsIn.mpr ⟨inLog, inBook, isRow⟩
  have stored : StoredIn server bookId id := by
    by_contra missing
    rw [log.untold id missing] at inRows
    exact absurd inRows List.not_mem_nil
  obtain ⟨record, found, ofBook⟩ := stored
  obtain ⟨row, isLast, tells⟩ := log.told id record found ofBook
  have increasing := log.rowsIn_increasing id
  obtain ⟨earlier, rows⟩ := List.getLast?_eq_some_iff.mp isLast
  have atMost : ∀ other ∈ server.rowsIn bookId id, other.sequence ≤ row.sequence := by
    intro other otherMember
    rw [rows] at otherMember increasing
    rcases List.mem_append.mp otherMember with before | last
    · exact le_of_lt ((List.pairwise_append.mp increasing).2.2 other before row
        (List.mem_singleton_self row))
    · rw [List.mem_singleton.mp last]
  obtain ⟨rowInLog, rowInBook, rowIsRow⟩ :=
    MemoryStore.mem_rowsIn.mp (List.mem_of_getLast? isLast)
  have inPage : row ∈ pullRowsMem server.changes bookId cursor limit :=
    (log.mem_page cursor limit).mpr ⟨rowInLog, rowInBook,
      lt_of_lt_of_le beyond (atMost change inRows), reached row (List.mem_of_getLast? isLast)⟩
  obtain ⟨before, rest, split⟩ := List.append_of_mem inPage
  refine ⟨record, row, before, rest, found, ofBook, rowIsRow, tells, split, ?_⟩
  intro later laterMember laterIsRow
  have laterInPage : later ∈ pullRowsMem server.changes bookId cursor limit := by
    rw [split]
    exact List.mem_append_right _ (List.mem_cons_of_mem _ laterMember)
  obtain ⟨laterInLog, laterInBook, -⟩ := (log.mem_page cursor limit).mp laterInPage
  have behind := atMost later (MemoryStore.mem_rowsIn.mpr ⟨laterInLog, laterInBook, laterIsRow⟩)
  have pageIncreasing := log.page_increasing cursor limit
  rw [split] at pageIncreasing
  have ahead := (List.pairwise_cons.mp (List.pairwise_append.mp pageIncreasing).2.1).1 later
    laterMember
  omega

end Last

/-! ### A page, applied -/

section Pull

variable [Rfc3339] {server : MemoryStore} {bookId : String} {device after : Device} {now : Int}
  {limit : Option Nat} (inStep : InStep bookId server device) (log : server.LogOf bookId)
  (applied : Device.applyChanges bookId now device
    (pullMem server bookId device.cursor limit).changes = .ok after)

/-- The rows of the response are those of the page. -/
theorem pullMem_changes (server : MemoryStore) (bookId : String) (cursor : Int)
    (limit : Option Nat) : ∃ occurredAt : ChangeRecord → Option Timestamp,
      (pullMem server bookId cursor limit).changes =
        (pullRowsMem server.changes bookId cursor limit).map fun change =>
          change.backfilled (occurredAt change) := ⟨_, rfl⟩

include inStep log applied

/-- The device has every transaction with a row up to the new cursor. -/
theorem InStep.seen_afterPull {id : String} {change : ChangeRecord}
    (member : change ∈ server.rowsIn bookId id)
    (atMost : change.sequence ≤ (pullMem server bookId device.cursor limit).nextCursor) :
    (after.transactions.lookup id).isSome = true := by
  obtain ⟨first, firstMember, isUpsert, earliest⟩ := log.exists_opening member
  by_cases behind : first.sequence ≤ device.cursor
  · have keeps := ((Device.applyChanges_keeps bookId now device
      (pullMem server bookId device.cursor limit).changes).2 id).1
      (inStep.seen id first firstMember behind)
    rwa [applied] at keeps
  · obtain ⟨inLog, inBook, isRow⟩ := MemoryStore.mem_rowsIn.mp firstMember
    have inPage : first ∈ pullRowsMem server.changes bookId device.cursor limit :=
      (log.mem_page _ _).mpr ⟨inLog, inBook, not_le.mp behind, le_trans earliest atMost⟩
    obtain ⟨occurredAt, changes⟩ := pullMem_changes server bookId device.cursor limit
    have pulled : first.backfilled (occurredAt first) ∈
        (pullMem server bookId device.cursor limit).changes := by
      rw [changes]
      exact List.mem_map.mpr ⟨first, inPage, rfl⟩
    exact Device.isSome_of_upsert applied pulled ((first.isRowOf_backfilled _).mpr isRow)
      ((first.backfilled_fields _).2.2.trans isUpsert)

/-- A transaction with no row behind the page: the page has none either and leaves it alone, or
it is as it is stored. -/
theorem InStep.decided_afterPull [ReadsDates] {id : String}
    (reached : ∀ row ∈ server.rowsIn bookId id,
      row.sequence ≤ (pullMem server bookId device.cursor limit).nextCursor) :
    after.transactions.lookup id = device.transactions.lookup id ∧
        (∀ row ∈ server.rowsIn bookId id, row.sequence ≤ device.cursor) ∨
      Agrees bookId server after id := by
  obtain ⟨occurredAt, changes⟩ := pullMem_changes server bookId device.cursor limit
  have keeps := Device.applyChanges_keeps bookId now device
    (pullMem server bookId device.cursor limit).changes
  rw [applied, Device.left] at keeps
  by_cases inPage : ∃ change ∈ pullRowsMem server.changes bookId device.cursor limit,
      change.IsRowOf id
  · obtain ⟨change, member, isRow⟩ := inPage
    obtain ⟨record, row, before, rest, found, inBook, rowIsRow, tells, split, last⟩ :=
      log.last_in_page member isRow reached
    have known : (after.transactions.lookup id).isSome = true := by
      obtain ⟨inLog, ofBook, -, atMost⟩ := (log.mem_page _ _).mp member
      exact inStep.seen_afterPull log applied (MemoryStore.mem_rowsIn.mpr ⟨inLog, ofBook, isRow⟩)
        atMost
    have applied := applied
    rw [changes, split, List.map_append, List.map_cons, tells.backfilled] at applied
    obtain ⟨between, next, sameQueue, applies, final⟩ := Device.lookup_applyChanges applied (by
      rintro later laterMember isLater
      obtain ⟨original, originalMember, rfl⟩ := List.mem_map.mp laterMember
      exact last original originalMember ((original.isRowOf_backfilled _).mp isLater))
    right
    refine ⟨fun stored lookup _ => ?_, fun missing => absurd ⟨record, found, inBook⟩ missing⟩
    rw [found] at lookup
    cases lookup
    rw [keeps.1.bookId]
    cases deleted : record.deleted with
    | true =>
      have isDelete := tells.operation
      rw [deleted, if_pos rfl] at isDelete
      rw [applies.deleted id rowIsRow isDelete] at final
      cases was : between.transactions.lookup id with
      | none =>
        rw [final, was] at known
        cases known
      | some existing =>
        rw [was] at final
        exact ⟨_, final, tells.version, deleted.symm, by simp [deleted], by simp [deleted],
          by simp [deleted]⟩
    | false =>
      have isUpsert := tells.operation
      rw [deleted, if_neg (by decide)] at isUpsert
      obtain ⟨payload, written, rewritten, read, stored⟩ := applies.upserted id rowIsRow isUpsert
      rw [sameQueue.bookId] at rewritten
      exact ⟨written, final.trans stored, (tells.mirrors deleted rewritten read).1⟩
  · left
    refine ⟨(keeps.2 id).2.2 fun change member isRow => ?_, fun row member => ?_⟩
    · rw [changes] at member
      obtain ⟨original, originalMember, rfl⟩ := List.mem_map.mp member
      exact inPage ⟨original, originalMember, (original.isRowOf_backfilled _).mp isRow⟩
    · by_contra beyond
      obtain ⟨inLog, inBook, isRow⟩ := MemoryStore.mem_rowsIn.mp member
      exact inPage ⟨row, (log.mem_page _ _).mpr ⟨inLog, inBook, not_le.mp beyond,
        reached row member⟩, isRow⟩

/-- A page that is applied keeps the device in step under the new cursor. -/
theorem InStep.afterPull [ReadsDates] (idle : device.pending = []) :
    InStep bookId server
      { after with cursor := (pullMem server bookId device.cursor limit).nextCursor } := by
  obtain ⟨sameQueue, -⟩ := Device.applyChanges_keeps bookId now device
    (pullMem server bookId device.cursor limit).changes
  rw [applied, Device.left] at sameQueue
  have empty : after.pending = [] := sameQueue.pending.trans idle
  refine ⟨?_, fun id change member atMost => inStep.seen_afterPull log applied member atMost,
    by rw [empty]; exact List.nodup_nil, fun row member => ?_, fun id => ?_⟩
  · show (pullMem server bookId device.cursor limit).nextCursor = 0 ∨ _
    rw [pullMem]
    unfold nextCursor
    cases last : (pullRowsMem server.changes bookId device.cursor limit).getLast? with
    | none => exact inStep.reached
    | some change =>
      obtain ⟨inLog, inBook, -⟩ := (log.mem_page _ _).mp (List.mem_of_getLast? last)
      exact Or.inr ⟨change, inLog, inBook, rfl⟩
  · rw [empty] at member
    exact absurd member List.not_mem_nil
  · by_cases ahead : ∃ change ∈ server.rowsIn bookId id,
        (pullMem server bookId device.cursor limit).nextCursor < change.sequence
    · exact Or.inl ahead
    · have reached : ∀ row ∈ server.rowsIn bookId id,
          row.sequence ≤ (pullMem server bookId device.cursor limit).nextCursor :=
        fun row member => not_lt.mp fun beyond => ahead ⟨row, member, beyond⟩
      rcases inStep.decided_afterPull log applied reached with ⟨same, behind⟩ | agrees
      · rcases inStep.covered id with ⟨change, member, beyond⟩ | agrees | ⟨row, member, -⟩
        · exact absurd (behind change member) (not_le.mpr beyond)
        · refine Or.inr (Or.inl ⟨?_, ?_⟩)
          · show ∀ record, _ → _ → ∃ row, after.transactions.lookup id = some row ∧
              row.Mirrors bookId after.bookId record
            rw [same, sameQueue.bookId]
            exact agrees.mirrored
          · show _ → after.transactions.lookup id = none
            rw [same]
            exact agrees.absent
        · rw [idle] at member
          exact absurd member List.not_mem_nil
      · exact Or.inr (Or.inl ⟨agrees.mirrored, agrees.absent⟩)

omit inStep log applied in
/-- A page that is applied in part leaves the cursor and keeps the device in step. -/
theorem InStep.afterThrow (inStep : InStep bookId server device) (log : server.LogOf bookId)
    (now : Int) (limit : Option Nat) :
    InStep bookId server (Device.left (Device.applyChanges bookId now device
      (pullMem server bookId device.cursor limit).changes)) := by
  obtain ⟨occurredAt, changes⟩ := pullMem_changes server bookId device.cursor limit
  obtain ⟨sameQueue, keeps⟩ := Device.applyChanges_keeps bookId now device
    (pullMem server bookId device.cursor limit).changes
  generalize Device.left (Device.applyChanges bookId now device
    (pullMem server bookId device.cursor limit).changes) = thrown at sameQueue keeps ⊢
  have ahead : ∀ id, Ahead bookId server device id → Ahead bookId server thrown id := by
    intro id ahead
    unfold Ahead
    rwa [sameQueue.cursor]
  refine ⟨?_, fun id change member atMost => ?_, ?_, fun row member id isCreate => ?_,
    fun id => ?_⟩
  · rw [sameQueue.cursor]
    exact inStep.reached
  · rw [sameQueue.cursor] at atMost
    exact (keeps id).1 (inStep.seen id change member atMost)
  · rw [sameQueue.pending]
    exact inStep.distinct
  · rw [sameQueue.pending] at member
    exact (inStep.creates row member id isCreate).imp_left (ahead id)
  · by_cases inPage : ∃ change ∈ pullRowsMem server.changes bookId device.cursor limit,
        change.IsRowOf id
    · obtain ⟨change, member, isRow⟩ := inPage
      obtain ⟨inLog, inBook, beyond, -⟩ := (log.mem_page _ _).mp member
      exact Or.inl (ahead id ⟨change, MemoryStore.mem_rowsIn.mpr ⟨inLog, inBook, isRow⟩, beyond⟩)
    · have same := (keeps id).2.2 fun change member isRow => by
        rw [changes] at member
        obtain ⟨original, originalMember, rfl⟩ := List.mem_map.mp member
        exact inPage ⟨original, originalMember, (original.isRowOf_backfilled _).mp isRow⟩
      rcases inStep.covered id with beyond | agrees | ⟨row, member, entity, lands⟩
      · exact Or.inl (ahead id beyond)
      · refine Or.inr (Or.inl ⟨?_, ?_⟩)
        · rw [same, sameQueue.bookId]
          exact agrees.mirrored
        · rw [same]
          exact agrees.absent
      · refine Or.inr (Or.inr ⟨row, by rwa [sameQueue.pending], entity, lands.isTransaction,
          lands.fits, lands.sendable, ?_⟩)
        rw [sameQueue.deviceId]
        exact lands.undecided

end Pull

/-! ### A sync -/

section Sync

variable [Rfc3339] {server : MemoryStore} {bookId : String} {device : Device} {around : Around}

/-- The pull keeps a device with an empty queue in step. -/
theorem InStep.afterPullChanges [ReadsDates] (inStep : InStep bookId server device)
    (log : server.LogOf bookId) (idle : device.pending = []) :
    InStep bookId server (device.pullChanges bookId device.cursor around server).1 := by
  unfold Device.pullChanges
  split
  · dsimp only
    split
    · rename_i thrown failed
      have kept := inStep.afterThrow log around.now (some 500)
      rwa [failed] at kept
    · rename_i applied made
      exact inStep.afterPull log made idle
  · exact inStep

/-- Which device it is, which book it keeps, and which one it is bound to. -/
structure Device.SameBinding (before after : Device) : Prop where
  deviceId : after.deviceId = before.deviceId
  bookId : after.bookId = before.bookId
  remoteBookId : after.remoteBookId = before.remoteBookId

/-- A sync changes nothing about that. -/
theorem Device.syncBound_sameBinding (device : Device) (bookId : String) (cursor : Int)
    (around : Around) (server : MemoryStore) :
    device.SameBinding (device.syncBound bookId cursor around server).device := by
  have sameBooks := device.pushPending_sameBooks bookId around server
  unfold Device.syncBound
  split
  · rename_i served thrown outcome
    rw [outcome] at sameBooks
    exact ⟨sameBooks.deviceId, sameBooks.bookId, sameBooks.remoteBookId⟩
  · rename_i served pushed outcome
    rw [outcome] at sameBooks
    dsimp only
    unfold Device.pullChanges
    split
    · obtain ⟨sameQueue, -⟩ := Device.applyChanges_keeps bookId around.now pushed
        (pullMem (Machine.run pushStep server (served ++ around.beforePull)) bookId cursor
          (some 500)).changes
      have both : device.SameBinding _ := ⟨sameQueue.deviceId.trans sameBooks.deviceId,
        sameQueue.bookId.trans sameBooks.bookId,
        sameQueue.remoteBookId.trans sameBooks.remoteBookId⟩
      dsimp only
      split
      · rename_i failed
        rw [failed] at both
        exact both
      · rename_i made
        rw [made] at both
        exact ⟨both.deviceId, both.bookId, both.remoteBookId⟩
    · exact ⟨sameBooks.deviceId, sameBooks.bookId, sameBooks.remoteBookId⟩

/-- A sync keeps the device in step, wherever it ends. -/
theorem InStep.afterSync [ReadsDates] (inStep : InStep bookId server device)
    (log : server.LogOf bookId) (fresh : FreshIds bookId ⟨server, device⟩ around.newId)
    (notOwn : ∀ attempt position, ∀ step ∈ around.others attempt position,
      ¬step.Own bookId device.deviceId)
    (notOwnBefore : ∀ step ∈ around.beforePull, ¬step.Own bookId device.deviceId)
    (guarded : Machine.Guarded pushStep (Benign bookId device.deviceId) server
      (device.syncBound bookId device.cursor around server).served) :
    InStep bookId
      (Machine.run pushStep server (device.syncBound bookId device.cursor around server).served)
      (device.syncBound bookId device.cursor around server).device := by
  have pushKeeps := inStep.afterPush log fresh notOwn
  have sameBooks := device.pushPending_sameBooks bookId around server
  unfold Device.syncBound at guarded ⊢
  split
  · rename_i served thrown outcome
    simp only [outcome] at guarded pushKeeps
    exact (pushKeeps guarded).2
  · rename_i served pushed outcome
    simp only [outcome] at guarded pushKeeps
    rw [outcome] at sameBooks
    obtain ⟨guardedPush, guardedBefore⟩ := (Machine.guarded_append _ _ _).mp guarded
    obtain ⟨keptLog, kept⟩ := pushKeeps guardedPush
    simp only [Device.left] at kept sameBooks
    rw [← sameBooks.deviceId] at notOwnBefore guardedBefore
    obtain ⟨reached, reachedLog⟩ := kept.afterOthers keptLog notOwnBefore guardedBefore
    rw [← sameBooks.cursor, Machine.run_append]
    exact reached.afterPullChanges reachedLog (Device.pending_of_pushPending outcome)

end Sync

end Ledgerly
