/-
This file settles when the change log of a book and its bootstrap tell the same story.

A device can come by the ledger in two ways: it pulls the change rows from the first one
on and applies them in order, or it asks for a bootstrap, which reads the state tables.
On PostgreSQL the two agree as long as nobody updates a deleted transaction: such an
update logs an upsert, which brings the transaction back for those who pull, and leaves
its deletion mark, which hides it from those who bootstrap.
-/

import Mathlib.Data.List.Sort
import Ledgerly.Library.KeyedLog
import Ledgerly.PostgresStep

namespace Ledgerly

/-- What a device knows about a live transaction: version and entries. -/
abbrev LedgerEntry := Int × List EntryDraft

/-- `SELECT ... FROM sync_changes WHERE book_id=$1 ORDER BY sequence`. -/
def PgStore.bookLog (store : PgStore) (bookId : String) : List ChangeRecord :=
  (store.changes.filter fun change => change.bookId = bookId).insertionSort
    fun first second => first.sequence ≤ second.sequence

/-- The entries of a payload, as both ends read them. -/
def payloadEntries (payload : Json) : List EntryDraft :=
  (((payload.get? "entries").bind Json.asArray?).getD []).map readEntry

/-- An upsert sets a transaction to its payload and version, a delete removes it. -/
def ChangeRecord.applyTo (change : ChangeRecord) (known : Option LedgerEntry) :
    Option LedgerEntry :=
  if change.operation = "upsert" then some (change.entityVersion, payloadEntries change.payload)
  else if change.operation = "delete" then none
  else known

/-- The ledger of a device that has applied the change rows in order. -/
def ledgerOfLog (changes : List ChangeRecord) : KeyMap String LedgerEntry :=
  KeyedLog.replay ChangeRecord.entityId ChangeRecord.applyTo ∅
    (changes.filter fun change => change.entityType = "transaction")

/-- One transaction of a bootstrap response. -/
structure BootstrapTransaction where
  id : String
  version : Int
  occurredAt : String
  description : Option String
  source : Option String
  entries : List Json

/-- The transactions of `bootstrap`: the rows of the book without a deletion mark. -/
def PgStore.bootstrapTransactions [Rfc3339] (store : PgStore) (bookId : String) :
    List BootstrapTransaction :=
  (store.transactions.values.filter fun row => row.bookId = bookId ∧ row.deleted = false).map
    fun row =>
      { id := row.id
        version := row.version
        occurredAt := Rfc3339.format row.occurredAt
        description := row.description
        source := row.source
        entries := row.entries.map fun entry => .obj
          [("accountId", .str entry.accountId),
            ("amountMinor", .str (decimalText entry.amountMinor)),
            ("currency", .str entry.currency)] }

/-- The ledger of a device that has read a bootstrap. -/
def ledgerOfBootstrap (transactions : List BootstrapTransaction) (id : String) :
    Option LedgerEntry :=
  (transactions.find? fun transaction => transaction.id = id).map fun transaction =>
    (transaction.version, transaction.entries.map readEntry)

/-- Pulling the log of a book from the start and bootstrapping it give one ledger. -/
def LogMatchesBootstrap [Rfc3339] (bookId : String) (store : PgStore) : Prop :=
  ∀ id, (ledgerOfLog (store.bookLog bookId)).lookup id =
    ledgerOfBootstrap (store.bootstrapTransactions bookId) id

/-- A new update that passes every check and names a deleted transaction of the book. -/
def UpdatesDeleted [Rfc3339] (store : PgStore) (step : PushStep) : Prop :=
  store.mutations.lookup step.key = none ∧ ∃ existing requestedOccurredAt drafts,
    AdmittedPg store step.bookId step.mutation requestedOccurredAt drafts ∧
      store.transactions.lookup step.mutation.entityId = some existing ∧
      existing.bookId = step.bookId ∧ step.mutation.operation ≠ "create" ∧
      step.mutation.baseVersion = existing.version ∧ existing.deleted = true

/-! ### The bootstrap, key by key -/

/-- A stored entry, as its bootstrap text is read. -/
def StoredEntry.draft (entry : StoredEntry) : EntryDraft where
  accountId := entry.accountId
  amountMinor := entry.amountMinor
  currency := entry.currency

/-- What a bootstrap tells about a stored transaction of the book. -/
def TxRecord.shownIn (bookId : String) (row : TxRecord) : Option LedgerEntry :=
  if row.bookId = bookId ∧ row.deleted = false then
    some (row.version, row.entries.map StoredEntry.draft)
  else none

/-- The amounts of a stored transaction fit their column. -/
def TxRecord.InRange (row : TxRecord) : Prop := ∀ entry ∈ row.entries, FitsI64 entry.amountMinor

theorem asI64_fits (value : Int) : FitsI64 (asI64 value) := by
  have lower := Int.le_bmod (x := value) (m := 2 ^ 64) (by decide)
  have upper := Int.bmod_lt (x := value) (m := 2 ^ 64) (by decide)
  exact ⟨by rw [asI64]; omega, by rw [asI64]; omega⟩

/-- The text of a bootstrap entry is read back as the entry. -/
theorem readEntry_bootstrap {entry : StoredEntry} (fits : FitsI64 entry.amountMinor) :
    readEntry (.obj [("accountId", .str entry.accountId),
      ("amountMinor", .str (decimalText entry.amountMinor)),
      ("currency", .str entry.currency)]) = entry.draft := by
  obtain ⟨lower, upper⟩ := fits
  have read := parseI128_decimalText entry.amountMinor (by omega) (by omega)
  simp [readEntry, Json.get?, List.lookup_cons, read, StoredEntry.draft]

/-- What stands under a key is the only value of its name, so that a search by name among the
selected values is a lookup. -/
theorem find?_values_filter {map : KeyMap String TxRecord}
    (named : ∀ id row, map.lookup id = some row → row.id = id) (selected : TxRecord → Bool)
    (id : String) :
    (map.values.filter selected).find? (fun row => row.id = id) =
      (map.lookup id).filter selected := by
  cases found : (map.values.filter selected).find? (fun row => row.id = id) with
  | some row =>
    obtain ⟨member, isSelected⟩ := List.mem_filter.mp (List.mem_of_find?_eq_some found)
    obtain ⟨key, stored⟩ := KeyMap.mem_values_iff.mp member
    have atKey : key = id := (named key row stored).symm.trans (by
      have isNamed := List.find?_some found
      simpa using isNamed)
    rw [← atKey, stored, Option.filter_some, if_pos isSelected]
  | none =>
    cases stored : map.lookup id with
    | none => rfl
    | some row =>
      rw [Option.filter_some]
      by_cases isSelected : selected row = true
      · have member : row ∈ map.values.filter selected :=
          List.mem_filter.mpr ⟨KeyMap.mem_values_of_lookup stored, isSelected⟩
        have absent := List.find?_eq_none.mp found row member
        exact absurd (named id row stored) (by simpa using absent)
      · rw [if_neg isSelected]

/-- A bootstrap shows of each id what its row shows. -/
theorem ledgerOfBootstrap_eq [Rfc3339] {store : PgStore} (constrained : store.Constrained)
    (inRange : ∀ id row, store.transactions.lookup id = some row → row.InRange)
    (bookId id : String) :
    ledgerOfBootstrap (store.bootstrapTransactions bookId) id =
      (store.transactions.lookup id).bind (TxRecord.shownIn bookId) := by
  rw [ledgerOfBootstrap, PgStore.bootstrapTransactions, List.find?_map, Option.map_map]
  have search := find?_values_filter constrained.primaryKey
    (fun row => decide (row.bookId = bookId ∧ row.deleted = false)) id
  simp only [Function.comp_def] at search ⊢
  rw [search]
  cases stored : store.transactions.lookup id with
  | none => rfl
  | some row =>
    rw [Option.filter_some, Option.bind_some, TxRecord.shownIn]
    by_cases shown : row.bookId = bookId ∧ row.deleted = false
    · rw [if_pos (decide_eq_true shown), if_pos shown, Option.map_some, List.map_map]
      have read : row.entries.map (readEntry ∘ fun entry => .obj
          [("accountId", .str entry.accountId),
            ("amountMinor", .str (decimalText entry.amountMinor)),
            ("currency", .str entry.currency)]) = row.entries.map StoredEntry.draft :=
        List.map_congr_left fun entry member =>
          readEntry_bootstrap (inRange id row stored entry member)
      rw [read]
    · rw [if_neg (by simpa using shown), if_neg shown]
      rfl

/-! ### The log, row by row -/

/-- The rows of the log stand in the order of their sequence numbers. -/
structure PgStore.Ordered (store : PgStore) : Prop where
  increasing : store.changes.Pairwise fun first second => first.sequence < second.sequence
  below : ∀ change ∈ store.changes, change.sequence < store.nextSequence

/-- In an ordered log the rows of a book need no sorting. -/
theorem PgStore.Ordered.bookLog {store : PgStore} (ordered : store.Ordered) (bookId : String) :
    store.bookLog bookId = store.changes.filter fun change => change.bookId = bookId :=
  List.Pairwise.insertionSort_eq
    ((ordered.increasing.filter _).imp fun less => le_of_lt less)

theorem PgStore.Ordered.concat {store written : PgStore} (ordered : store.Ordered)
    {change : ChangeRecord} (logged : written.changes = store.changes ++ [change])
    (numbered : change.sequence = store.nextSequence)
    (next : written.nextSequence = store.nextSequence + 1) : written.Ordered := by
  refine ⟨?_, ?_⟩
  · rw [logged, List.pairwise_append]
    refine ⟨ordered.increasing, List.pairwise_singleton _ _, fun earlier member last isLast => ?_⟩
    rw [List.mem_singleton.mp isLast, numbered]
    exact ordered.below earlier member
  · intro row member
    rw [logged] at member
    rw [next]
    rcases List.mem_append.mp member with earlier | last
    · have below := ordered.below row earlier
      omega
    · rw [List.mem_singleton.mp last, numbered]
      omega

/-- One more row changes the ledger of its own transaction only. -/
theorem lookup_ledgerOfLog_concat (changes : List ChangeRecord) (change : ChangeRecord)
    (id : String) :
    (ledgerOfLog (changes ++ [change])).lookup id =
      if change.entityType = "transaction" ∧ id = change.entityId then
        change.applyTo ((ledgerOfLog changes).lookup id)
      else (ledgerOfLog changes).lookup id := by
  rw [ledgerOfLog, List.filter_append]
  by_cases isTransaction : change.entityType = "transaction"
  · have kept : [change].filter (fun row => decide (row.entityType = "transaction")) =
        [change] := by
      rw [List.filter_singleton, decide_eq_true isTransaction]
      rfl
    rw [kept, KeyedLog.lookup_replay_concat]
    by_cases same : id = change.entityId
    · rw [if_pos same, if_pos ⟨isTransaction, same⟩]
      rfl
    · rw [if_neg same, if_neg fun both => same both.2]
      rfl
  · have dropped : [change].filter (fun row => decide (row.entityType = "transaction")) = [] := by
      rw [List.filter_singleton, decide_eq_false isTransaction]
      rfl
    rw [dropped, List.append_nil, if_neg fun both => isTransaction both.1]
    rfl

/-- What the comparison rests on: the constraints of the table, an ordered log, and amounts
that fit their column. -/
structure PgStore.Regular (store : PgStore) : Prop where
  constrained : store.Constrained
  ordered : store.Ordered
  inRange : ∀ id row, store.transactions.lookup id = some row → row.InRange

/-- The log of a book leads to what its rows show. -/
def PgStore.LogShows (store : PgStore) (bookId : String) : Prop :=
  ∀ id, (ledgerOfLog (store.changes.filter fun change => change.bookId = bookId)).lookup id =
    (store.transactions.lookup id).bind (TxRecord.shownIn bookId)

theorem logMatchesBootstrap_iff [Rfc3339] {store : PgStore} (regular : store.Regular)
    (bookId : String) : LogMatchesBootstrap bookId store ↔ store.LogShows bookId := by
  refine forall_congr' fun id => ?_
  rw [regular.ordered.bookLog, ledgerOfBootstrap_eq regular.constrained regular.inRange]

/-- Writing a row with its change keeps the log right exactly if, in the book of the row, the
change leaves what the row shows. -/
theorem logShows_write_iff {store written : PgStore} {owner bookId key : String}
    (shows : store.LogShows bookId) (row : TxRecord) {change : ChangeRecord}
    (wrote : written.transactions = store.transactions.insert key row)
    (logged : written.changes = store.changes ++ [change])
    (isTransaction : change.entityType = "transaction") (ofKey : change.entityId = key)
    (inOwner : change.bookId = owner) (owned : row.bookId = owner)
    (before : ∀ existing, store.transactions.lookup key = some existing →
      existing.bookId = owner)
    {left : Option LedgerEntry} (leaves : ∀ known, change.applyTo known = left) :
    written.LogShows bookId ↔ (owner = bookId → left = row.shownIn bookId) := by
  rw [PgStore.LogShows, wrote, logged, List.filter_append]
  by_cases inBook : owner = bookId
  · have kept : [change].filter (fun row => decide (row.bookId = bookId)) = [change] := by
      rw [List.filter_singleton, decide_eq_true (inOwner.trans inBook)]
      rfl
    rw [kept]
    constructor
    · intro after _
      have atKey := after key
      rw [lookup_ledgerOfLog_concat, if_pos ⟨isTransaction, ofKey.symm⟩, leaves,
        AList.lookup_insert, Option.bind_some] at atKey
      exact atKey
    · intro agrees id
      rw [lookup_ledgerOfLog_concat, ofKey, leaves, KeyMap.lookup_insert_eq]
      by_cases same : id = key
      · rw [if_pos ⟨isTransaction, same⟩, if_pos same, agrees inBook, Option.bind_some]
      · rw [if_neg fun both => same both.2, if_neg same, shows id]
  · have dropped : [change].filter (fun row => decide (row.bookId = bookId)) = [] := by
      rw [List.filter_singleton, decide_eq_false fun same => inBook (inOwner.symm.trans same)]
      rfl
    rw [dropped, List.append_nil]
    refine iff_of_true (fun id => ?_) fun same => absurd same inBook
    rw [shows id, KeyMap.lookup_insert_eq]
    by_cases same : id = key
    · have hidden : ∀ other : TxRecord, other.bookId = owner → other.shownIn bookId = none :=
        fun other ofOwner => if_neg fun shown => inBook (ofOwner.symm.trans shown.1)
      rw [if_pos same, Option.bind_some, hidden row owned, same]
      cases stored : store.transactions.lookup key with
      | none => rfl
      | some existing => exact hidden existing (before existing stored)
    · rw [if_neg same]

/-! ### One mutation -/

section Step

variable [Rfc3339] {store : PgStore} {step : PushStep}

omit [Rfc3339] in
/-- Balanced drafts are stored as they were read. -/
theorem stored_draft {drafts : List EntryDraft} (balanced : validateBalanced drafts = .ok ()) :
    (drafts.map EntryDraft.stored).map StoredEntry.draft = drafts := by
  obtain ⟨currency, sound⟩ := sound_of_validateBalanced balanced
  rw [List.map_map]
  refine (List.map_congr_left fun draft member => ?_).trans (List.map_id drafts)
  simp only [Function.comp_apply, StoredEntry.draft, EntryDraft.stored,
    asI64_of_fits (sound draft member).inRange, id_eq]

/-- The entries of the logged payload are those of the mutation. -/
theorem payloadEntries_upsertPayload {mutation : SyncMutationDto} {drafts : List EntryDraft}
    (parsed : parseEntries mutation = .ok drafts) (existing : Option TxRecord)
    (occurredAt : Timestamp) :
    payloadEntries (upsertPayload mutation existing occurredAt) = drafts := by
  obtain ⟨items, present, rfl⟩ := parseEntries_ok parsed
  rw [payloadEntries, get?_upsertPayload_of_ne _ _ _ (by decide) (by decide), present]
  rfl

/-- The payload of an admitted create or update is balanced. -/
theorem AdmittedPg.drafts {bookId : String} {mutation : SyncMutationDto}
    {requestedOccurredAt : Option Timestamp} {drafts : List EntryDraft}
    (admitted : AdmittedPg store bookId mutation requestedOccurredAt drafts) :
    parseEntries mutation = .ok drafts ∧ validateBalanced drafts = .ok () := by
  obtain ⟨-, parsed, valid⟩ := checkedDrafts_eq_ok.mp admitted.checked
  obtain ⟨-, isDelete | ⟨-, balanced⟩⟩ := validateOrReject_eq_none.mp valid
  · exact absurd isDelete admitted.notDelete
  · exact ⟨parsed, balanced⟩

/-- An upsert keeps the log of a book right exactly if it does not write a deleted row of that
book. -/
theorem writeUpsertPg_logShows_iff {bookId : String} (shows : store.LogShows bookId)
    {requestedOccurredAt : Option Timestamp} {drafts : List EntryDraft}
    (admitted : AdmittedPg store step.bookId step.mutation requestedOccurredAt drafts)
    (row : TxRecord) (owned : row.bookId = step.bookId)
    (entries : row.entries = drafts.map EntryDraft.stored)
    (before : ∀ existing, store.transactions.lookup step.mutation.entityId = some existing →
      existing.bookId = step.bookId) (existing : Option TxRecord) (occurredAt : Timestamp) :
    (writeUpsertPg store step.bookId step.mutation row
        (upsertPayload step.mutation existing occurredAt) step.stamp).1.LogShows bookId ↔
      (step.bookId = bookId → row.deleted = false) := by
  obtain ⟨parsed, balanced⟩ := admitted.drafts
  have leaves : ∀ known, ChangeRecord.applyTo
      { sequence := store.nextSequence, bookId := step.bookId, commitId := step.stamp.commitId,
        entityType := "transaction", entityId := step.mutation.entityId, operation := "upsert",
        entityVersion := row.version,
        payload := upsertPayload step.mutation existing occurredAt } known =
      some (row.version, drafts) := by
    intro known
    rw [ChangeRecord.applyTo, if_pos rfl, payloadEntries_upsertPayload parsed]
  rw [logShows_write_iff shows row rfl rfl rfl rfl rfl owned before leaves]
  refine forall_congr' fun inBook => ?_
  rw [TxRecord.shownIn, entries, stored_draft balanced]
  by_cases live : row.deleted = false
  · rw [if_pos ⟨owned.trans inBook, live⟩]
    exact iff_of_true rfl live
  · rw [if_neg fun shown => live shown.2]
    exact iff_of_false (by simp) live

omit [Rfc3339] in
/-- A delete keeps the log of every book right. -/
theorem writeDeletePg_logShows {bookId : String} (shows : store.LogShows bookId)
    {existing : TxRecord}
    (found : store.transactions.lookup step.mutation.entityId = some existing)
    (owned : existing.bookId = step.bookId) :
    (writeDeletePg store step.bookId step.mutation existing step.stamp).1.LogShows bookId := by
  have leaves : ∀ known, ChangeRecord.applyTo
      { sequence := store.nextSequence, bookId := step.bookId, commitId := step.stamp.commitId,
        entityType := "transaction", entityId := step.mutation.entityId, operation := "delete",
        entityVersion := existing.version + 1, payload := step.mutation.payload } known = none :=
    fun _ => rfl
  refine (logShows_write_iff shows
    { existing with deleted := true, version := existing.version + 1 } rfl rfl rfl rfl rfl owned
    ?_ leaves).mpr fun _ => ?_
  · intro other stored
    rw [found] at stored
    cases stored
    exact owned
  · rw [TxRecord.shownIn, if_neg (by simp)]

omit [Rfc3339] in
/-- An account row is none of the transactions' business. -/
theorem writeAccountPg_logShows {bookId : String} (shows : store.LogShows bookId)
    (record : AccountRecord) :
    (writeAccountPg store step.bookId step.mutation record step.stamp).1.LogShows bookId := by
  intro id
  have notTransaction : ("account" : String) ≠ "transaction" := by decide
  refine Eq.trans ?_ (shows id)
  simp only [writeAccountPg, PgStore.logged, List.filter_append]
  by_cases inBook : step.bookId = bookId
  · rw [List.filter_singleton, decide_eq_true inBook]
    simp only [cond_true]
    rw [lookup_ledgerOfLog_concat, if_neg fun both => notTransaction both.1]
  · rw [List.filter_singleton, decide_eq_false inBook]
    simp only [cond_false, List.append_nil]

/-- What every step keeps. -/
theorem pushStepPg_regular (regular : store.Regular) (step : PushStep) :
    (pushStepPg store step).Regular := by
  have constrained := pushStepPg_constrained regular.constrained step
  have written : (pushStepPg store step).Ordered ∧
      ∀ id row, (pushStepPg store step).transactions.lookup id = some row → row.InRange := by
    refine pushStepPg_elim (motive := fun after => after.Ordered ∧
      ∀ id row, after.transactions.lookup id = some row → row.InRange) step
      (fun _ _ holds => ⟨⟨holds.1.increasing, holds.1.below⟩, holds.2⟩)
      ⟨regular.ordered, regular.inRange⟩ ?_ ?_ ?_
      fun record => ⟨regular.ordered.concat rfl rfl rfl, regular.inRange⟩
    · intro existing requestedOccurredAt drafts admitted found owned current free
      refine ⟨regular.ordered.concat rfl rfl rfl, fun id row holds => ?_⟩
      rcases KeyMap.lookup_insert_eq_some holds with ⟨-, rfl⟩ | ⟨-, before⟩
      · exact List.forall_mem_map.mpr fun draft _ => asI64_fits draft.amountMinor
      · exact regular.inRange id row before
    · intro requestedOccurredAt drafts admitted missing free
      refine ⟨regular.ordered.concat rfl rfl rfl, fun id row holds => ?_⟩
      rcases KeyMap.lookup_insert_eq_some holds with ⟨-, rfl⟩ | ⟨-, before⟩
      · exact List.forall_mem_map.mpr fun draft _ => asI64_fits draft.amountMinor
      · exact regular.inRange id row before
    · intro existing isDelete found owned
      refine ⟨regular.ordered.concat rfl rfl rfl, fun id row holds => ?_⟩
      rcases KeyMap.lookup_insert_eq_some holds with ⟨-, rfl⟩ | ⟨-, before⟩
      · exact regular.inRange _ existing found
      · exact regular.inRange id row before
  exact ⟨constrained, written.1, written.2⟩

/-- One step keeps the log of a book right exactly if it updates no deleted transaction of
that book. -/
theorem pushStepPg_logShows_iff {bookId : String} (shows : store.LogShows bookId)
    (step : PushStep) :
    (pushStepPg store step).LogShows bookId ↔
      ¬(step.bookId = bookId ∧ UpdatesDeleted store step) := by
  by_cases updates : UpdatesDeleted store step
  · obtain ⟨new, existing, requestedOccurredAt, drafts, admitted, found, owned, notCreate,
      current, deleted⟩ := updates
    have free : ¬store.violatesAutoEvent
        (updatedRow step.mutation existing requestedOccurredAt drafts) = true := by
      rw [violatesAutoEvent_iff]
      rintro ⟨owner, fingerprint, other, taken, inIndex, -⟩
      simp [TxRecord.autoLedgerIndex, updatedRow, deleted] at inIndex
    have before : ∀ other, store.transactions.lookup step.mutation.entityId = some other →
        other.bookId = step.bookId := by
      intro other stored
      rw [found] at stored
      cases stored
      exact owned
    rw [pushStepPg, pushMutationPg_processed new,
      processMutationPg_update admitted found owned notCreate current free]
    refine (writeUpsertPg_logShows_iff shows admitted
      (updatedRow step.mutation existing requestedOccurredAt drafts) owned rfl before _ _).trans ?_
    rw [updatedRow, deleted]
    constructor
    · rintro impossible ⟨inBook, -⟩
      exact absurd (impossible inBook) (by decide)
    · exact fun allowed inBook => absurd ⟨inBook, new, existing, _, _, admitted, found, owned,
        notCreate, current, deleted⟩ allowed
  · refine iff_of_true ?_ fun both => updates both.2
    cases stored : store.mutations.lookup step.key with
    | some receipt =>
      rw [pushStepPg, pushMutationPg_replayed stored]
      exact shows
    | none =>
      refine pushStepPg_elim (motive := fun after => after.LogShows bookId) step
        (fun _ _ holds => holds) shows ?_ ?_
        (fun existing _ found owned => writeDeletePg_logShows shows found owned)
        (fun record => writeAccountPg_logShows shows record)
      · intro existing requestedOccurredAt drafts admitted found owned current free
        refine (writeUpsertPg_logShows_iff shows admitted
          (updatedRow step.mutation existing requestedOccurredAt drafts) owned rfl ?_ _ _).mpr
          fun _ => ?_
        · intro other present
          rw [found] at present
          cases present
          exact owned
        · by_contra deleted
          exact updates ⟨stored, existing, _, _, admitted, found, owned, current.1, current.2,
            by simpa [updatedRow] using deleted⟩
      · intro requestedOccurredAt drafts admitted missing free
        refine (writeUpsertPg_logShows_iff shows admitted
          (insertedRow step.bookId step.mutation requestedOccurredAt drafts step.stamp.now) rfl
          rfl ?_ _ _).mpr fun _ => rfl
        intro other present
        rw [missing] at present
        cases present

end Step

/-- In a run of pushes to the database, folding the change rows of a book in sequence order
gives the live transactions that a bootstrap of the book returns, at every state reached,
exactly if no mutation of the run updates a deleted transaction of the book. -/
theorem log_matches_bootstrap_iff [Rfc3339] (accounts : KeyMap String AccountRecord)
    (bookId : String) (steps : List PushStep) :
    (∀ before, before <+: steps →
        LogMatchesBootstrap bookId (Machine.run pushStepPg (.initial accounts) before)) ↔
      Machine.Guarded pushStepPg
        (fun store step => ¬(step.bookId = bookId ∧ UpdatesDeleted store step))
        (.initial accounts) steps := by
  have regular : (PgStore.initial accounts).Regular :=
    ⟨PgStore.initial_constrained accounts,
      ⟨List.Pairwise.nil, fun _ member => absurd member List.not_mem_nil⟩,
      fun id row found => by simp [PgStore.initial] at found⟩
  have empty : LogMatchesBootstrap bookId (PgStore.initial accounts) :=
    (logMatchesBootstrap_iff regular bookId).mpr fun id => by
      simp [PgStore.initial, ledgerOfLog, KeyedLog.replay]
  have exact : ∀ (store : PgStore) (step : PushStep), store.Regular →
      LogMatchesBootstrap bookId store →
        (LogMatchesBootstrap bookId (pushStepPg store step) ↔
          ¬(step.bookId = bookId ∧ UpdatesDeleted store step)) := by
    intro store step holds matching
    rw [logMatchesBootstrap_iff (pushStepPg_regular holds step)]
    exact pushStepPg_logShows_iff ((logMatchesBootstrap_iff holds bookId).mp matching) step
  have keeps : ∀ (store : PgStore) (step : PushStep),
      store.Regular → (pushStepPg store step).Regular :=
    fun _ step holds => pushStepPg_regular holds step
  exact Machine.invariant_throughout_iff keeps exact regular empty steps

/-- A transaction is created, deleted and updated: whoever pulls has it at version three,
whoever bootstraps does not have it. -/
theorem log_differs_after_update_of_deleted :
    let _ := epochClock
    ¬LogMatchesBootstrap "A" (Machine.run pushStepPg (.initial (withAccounts "A" ∅))
      [transferStep "A" "m1" "t1" "create" 0 [], transferStep "A" "m2" "t1" "delete" 1 [],
        transferStep "A" "m3" "t1" "update" 2 []]) := by
  intro _ matching
  have pulled : ((ledgerOfLog ((Machine.run pushStepPg (.initial (withAccounts "A" ∅))
      [transferStep "A" "m1" "t1" "create" 0 [], transferStep "A" "m2" "t1" "delete" 1 [],
        transferStep "A" "m3" "t1" "update" 2 []]).bookLog "A")).lookup "t1").map Prod.fst =
          some 3 := by decide
  have bootstrapped : (ledgerOfBootstrap ((Machine.run pushStepPg (.initial (withAccounts "A" ∅))
      [transferStep "A" "m1" "t1" "create" 0 [], transferStep "A" "m2" "t1" "delete" 1 [],
        transferStep "A" "m3" "t1" "update" 2 []]).bootstrapTransactions "A") "t1").map
          Prod.fst = none := by decide
  have same := (congrArg (Option.map Prod.fst) (matching "t1")).trans bootstrapped
  exact absurd (pulled.symm.trans same) (by decide)

end Ledgerly
