/-
This file settles when compacting the log is safe for a device that is still behind it.

`compact_sync_log` keeps the last 100000 numbers of the log of all books together, whoever has
read them. A device that comes back with a cursor from before only sees the rows that are left.
It ends up with the ledger of the server as long as every row it misses was superseded by a
later one of the same transaction; of a row that was the last word on its transaction nothing
tells it, and the cursor it is given goes past the gap.

The device is one ledger with one cursor. It keeps what it had at any cursor the server gave
it for as long as it makes no further pull, so that a run of the machine is also the run of a
device that has been away for any time.
-/

import Ledgerly.ChangeLog
import Ledgerly.Pull
import Ledgerly.VersionChain

namespace Ledgerly

/-- `COALESCE(MAX(sequence), 0) - 100000`. -/
def PgStore.compactionFloor (store : PgStore) : Int :=
  ((store.changes.map ChangeRecord.sequence).max?).getD 0 - 100000

/-- The job `compact_sync_log`. -/
def PgStore.compactSyncLog (store : PgStore) : PgStore :=
  { store with
    changes := store.changes.filter fun change => store.compactionFloor ≤ change.sequence }

/-- The transactions of a book that are not deleted, with version and entries. -/
def PgStore.liveLedger (store : PgStore) (bookId id : String) : Option LedgerEntry :=
  (store.transactions.lookup id).bind (TxRecord.shownIn bookId)

/-- The ledger of a device after it has applied further changes. -/
def ledgerAfter (ledger : KeyMap String LedgerEntry) (changes : List ChangeRecord) :
    KeyMap String LedgerEntry :=
  KeyedLog.replay ChangeRecord.entityId ChangeRecord.applyTo ledger
    (changes.filter fun change => change.entityType = "transaction")

/-- The server, the cursor and the ledger of a device, and the rows of its book that have been
compacted away. -/
structure CompactionWorld where
  server : PgStore
  cursor : Int
  ledger : KeyMap String LedgerEntry
  removed : List ChangeRecord

/-- An empty log, and a device that has pulled nothing. -/
def CompactionWorld.initial (accounts : KeyMap String AccountRecord) : CompactionWorld where
  server := .initial accounts
  cursor := 0
  ledger := ∅
  removed := []

/-- What can happen to the log and the device. -/
inductive CompactionEvent where
  | push (step : PushStep)
  | compact
  | pull (limit : Option Nat)

section World

variable [Rfc3339] (bookId : String)

/-- What the device is answered. -/
def CompactionWorld.response (world : CompactionWorld) (limit : Option Nat) : SyncPullResponse :=
  pullPg world.server bookId world.cursor limit

/-- The rows of the book that a compaction removes now. -/
def CompactionWorld.doomed (world : CompactionWorld) : List ChangeRecord :=
  world.server.changes.filter fun change =>
    change.bookId = bookId ∧ change.sequence < world.server.compactionFloor

/-- What an event does. -/
def compactionStep (world : CompactionWorld) : CompactionEvent → CompactionWorld
  | .push step => { world with server := pushStepPg world.server step }
  | .compact =>
    { world with
      server := world.server.compactSyncLog
      removed := world.removed ++ world.doomed bookId }
  | .pull limit =>
    { world with
      cursor := (world.response bookId limit).nextCursor
      ledger := ledgerAfter world.ledger (world.response bookId limit).changes }

/-- No push updates a deleted transaction of the book, which is its own defect, and a
compaction removes a row the device has not received only if a later row of the same
transaction is left. -/
def KeepsLastWord (world : CompactionWorld) : CompactionEvent → Prop
  | .push step => ¬(step.bookId = bookId ∧ UpdatesDeleted world.server step)
  | .compact => ∀ row ∈ world.doomed bookId, row.entityType = "transaction" →
      world.cursor < row.sequence → ∃ later ∈ world.server.compactSyncLog.changes,
        later.bookId = bookId ∧ later.IsRowOf row.entityId ∧ row.sequence < later.sequence
  | .pull _ => True

/-- A compaction removes only what the device has received. -/
def RemovesReceived (world : CompactionWorld) : CompactionEvent → Prop
  | .push step => ¬(step.bookId = bookId ∧ UpdatesDeleted world.server step)
  | .compact => ∀ row ∈ world.doomed bookId, row.sequence ≤ world.cursor
  | .pull _ => True

/-- The pull says that nothing is left, and the device has the ledger of the server. -/
def CompactionWorld.SyncsClean (world : CompactionWorld) (limit : Option Nat) : Prop :=
  (world.response bookId limit).hasMore = false → ∀ id,
    (compactionStep bookId world (.pull limit)).ledger.lookup id =
      world.server.liveLedger bookId id

/-- The pull leads past no row that was compacted away before the device got it. -/
def CompactionWorld.SkipsNothing (world : CompactionWorld) (limit : Option Nat) : Prop :=
  ∀ row ∈ world.removed,
    ¬(world.cursor < row.sequence ∧ row.sequence ≤ (world.response bookId limit).nextCursor)

end World

/-! ### The invariant -/

/-- A row of a transaction in a book. -/
def ChangeRecord.Concerns (change : ChangeRecord) (bookId id : String) : Prop :=
  change.bookId = bookId ∧ change.IsRowOf id

/-- The device has what is live and the log says no more about it, or the last row of the
transaction is still ahead and tells what is live. -/
def CompactionWorld.Decided (bookId : String) (world : CompactionWorld) (id : String) : Prop :=
  (world.ledger.lookup id = world.server.liveLedger bookId id ∧
    ∀ change ∈ world.server.changes, change.Concerns bookId id →
      change.sequence ≤ world.cursor) ∨
  ∃ row ∈ world.server.changes, row.Concerns bookId id ∧ world.cursor < row.sequence ∧
    (∀ change ∈ world.server.changes, change.Concerns bookId id →
      change.sequence ≤ row.sequence) ∧
    ∀ known, row.applyTo known = world.server.liveLedger bookId id

/-- The invariant: the log is in order, the cursor is behind its end, and every transaction of the
book is decided. -/
structure CompactionWorld.Sound (bookId : String) (world : CompactionWorld) : Prop where
  ordered : world.server.Ordered
  behind : world.cursor < world.server.nextSequence
  decided : ∀ id, world.Decided bookId id

theorem CompactionWorld.initial_sound (accounts : KeyMap String AccountRecord)
    (bookId : String) : (CompactionWorld.initial accounts).Sound bookId where
  ordered := ⟨List.Pairwise.nil, fun _ member => absurd member List.not_mem_nil⟩
  behind := show (0 : Int) < 1 by decide
  decided id := Or.inl ⟨by simp [initial, PgStore.liveLedger, PgStore.initial],
    fun _ member => absurd member List.not_mem_nil⟩

section Writes

variable {bookId : String} {world : CompactionWorld} {written : PgStore} {change : ChangeRecord}

/-- A row of something else decides nothing. -/
theorem CompactionWorld.Decided.append {id : String} (decided : world.Decided bookId id)
    (logged : written.changes = world.server.changes ++ [change])
    (same : written.liveLedger bookId id = world.server.liveLedger bookId id)
    (other : ¬change.Concerns bookId id) :
    { world with server := written }.Decided bookId id := by
  have older : ∀ row ∈ written.changes, row.Concerns bookId id → row ∈ world.server.changes := by
    intro row member concerns
    rw [logged] at member
    rcases List.mem_append.mp member with earlier | last
    · exact earlier
    · rw [List.mem_singleton.mp last] at concerns
      exact absurd concerns other
  rcases decided with ⟨has, received⟩ | ⟨row, member, concerns, ahead, last, tells⟩
  · exact Or.inl ⟨has.trans same.symm, fun row member concerns =>
      received row (older row member concerns) concerns⟩
  · refine Or.inr ⟨row, ?_, concerns, ahead, fun other member ofId =>
      last other (older other member ofId) ofId, fun known => (tells known).trans same.symm⟩
    show row ∈ written.changes
    rw [logged]
    exact List.mem_append_left _ member

/-- A transaction is written together with a row that tells it. -/
theorem CompactionWorld.Sound.write (sound : world.Sound bookId) (row : TxRecord) {key : String}
    (wrote : written.transactions = world.server.transactions.insert key row)
    (logged : written.changes = world.server.changes ++ [change])
    (numbered : change.sequence = world.server.nextSequence)
    (next : written.nextSequence = world.server.nextSequence + 1)
    (isRow : change.IsRowOf key) (owned : row.bookId = change.bookId)
    (before : ∀ existing, world.server.transactions.lookup key = some existing →
      existing.bookId = change.bookId)
    (tells : change.bookId = bookId → ∀ known, change.applyTo known = row.shownIn bookId) :
    { world with server := written }.Sound bookId := by
  have behind := sound.behind
  refine ⟨sound.ordered.concat logged numbered next, ?_, fun id => ?_⟩
  · show world.cursor < written.nextSequence
    omega
  have live : written.liveLedger bookId id = if id = key then row.shownIn bookId
      else world.server.liveLedger bookId id := by
    rw [PgStore.liveLedger, wrote, KeyMap.lookup_insert_eq]
    split <;> rfl
  by_cases here : change.bookId = bookId ∧ id = key
  · obtain ⟨inBook, rfl⟩ := here
    refine Or.inr ⟨change, ?_, ⟨inBook, isRow⟩, ?_, ?_, fun known => ?_⟩
    · rw [logged]
      exact List.mem_append_right _ (List.mem_singleton_self change)
    · rw [numbered]
      exact behind
    · intro other member _
      rw [logged] at member
      rcases List.mem_append.mp member with earlier | last
      · have below := sound.ordered.below other earlier
        omega
      · rw [List.mem_singleton.mp last]
    · rw [live, if_pos rfl, tells inBook]
  · have same : written.liveLedger bookId id = world.server.liveLedger bookId id := by
      rw [live]
      split
      · rename_i isKey
        subst isKey
        have foreign : change.bookId ≠ bookId := fun inBook => here ⟨inBook, rfl⟩
        have hidden : ∀ other : TxRecord, other.bookId = change.bookId →
            other.shownIn bookId = none :=
          fun other ofBook => if_neg fun shown => foreign (ofBook.symm.trans shown.1)
        rw [hidden row owned, PgStore.liveLedger]
        cases stored : world.server.transactions.lookup id with
        | none => rfl
        | some existing => exact (hidden existing (before existing stored)).symm
      · rfl
    have notHere : ¬change.Concerns bookId id := fun concerns =>
      here ⟨concerns.1, concerns.2.2.symm.trans isRow.2⟩
    exact (sound.decided id).append logged same notHere

/-- An account is written. -/
theorem CompactionWorld.Sound.writeAccount (sound : world.Sound bookId)
    (wrote : written.transactions = world.server.transactions)
    (logged : written.changes = world.server.changes ++ [change])
    (numbered : change.sequence = world.server.nextSequence)
    (next : written.nextSequence = world.server.nextSequence + 1)
    (noRow : change.entityType ≠ "transaction") :
    { world with server := written }.Sound bookId := by
  have behind := sound.behind
  refine ⟨sound.ordered.concat logged numbered next, ?_, fun id => ?_⟩
  · show world.cursor < written.nextSequence
    omega
  · refine (sound.decided id).append logged ?_ fun concerns => noRow concerns.2.1
    rw [PgStore.liveLedger, wrote]
    rfl

end Writes

/-! ### One step -/

section Steps

variable [Rfc3339] {bookId : String} {world : CompactionWorld}

/-- The row of an admitted create or update tells the transaction, unless that is deleted. -/
theorem AdmittedPg.applyTo {store : PgStore} {step : PushStep}
    {requestedOccurredAt : Option Timestamp} {drafts : List EntryDraft}
    (admitted : AdmittedPg store step.bookId step.mutation requestedOccurredAt drafts)
    (row : TxRecord) (entries : row.entries = drafts.map EntryDraft.stored)
    (live : row.deleted = false) (existing : Option TxRecord) (occurredAt : Timestamp)
    {change : ChangeRecord} (isUpsert : change.operation = "upsert")
    (version : change.entityVersion = row.version)
    (payload : change.payload = upsertPayload step.mutation existing occurredAt)
    (known : Option LedgerEntry) :
    change.applyTo known = row.shownIn row.bookId := by
  obtain ⟨parsed, balanced⟩ := admitted.drafts
  rw [ChangeRecord.applyTo, if_pos isUpsert, version, payload, payloadEntries_upsertPayload parsed,
    TxRecord.shownIn, if_pos ⟨rfl, live⟩, entries, stored_draft balanced]

/-- A push that updates no deleted transaction of the book. -/
theorem CompactionWorld.Sound.push (sound : world.Sound bookId) {step : PushStep}
    (allowed : ¬(step.bookId = bookId ∧ UpdatesDeleted world.server step)) :
    { world with server := pushStepPg world.server step }.Sound bookId := by
  cases stored : world.server.mutations.lookup step.key with
  | some receipt =>
    rw [pushStepPg, pushMutationPg_replayed stored]
    exact sound
  | none =>
    refine pushStepPg_elim (motive := fun after => { world with server := after }.Sound bookId) step
      (fun _ _ holds => ⟨⟨holds.ordered.increasing, holds.ordered.below⟩, holds.behind,
        holds.decided⟩) sound ?_ ?_ ?_ ?_
    · intro existing requestedOccurredAt drafts admitted found owned current free
      refine sound.write (updatedRow step.mutation existing requestedOccurredAt drafts) rfl rfl rfl
        rfl ⟨rfl, rfl⟩ owned ?_ ?_
      · intro other present
        rw [found] at present
        cases present
        exact owned
      · intro inBook known
        have live : existing.deleted = false := by
          by_contra deleted
          exact allowed ⟨inBook, stored, existing, _, _, admitted, found, owned, current.1,
            current.2, by simpa using deleted⟩
        rw [← show existing.bookId = bookId from owned.trans inBook]
        exact admitted.applyTo (updatedRow step.mutation existing requestedOccurredAt drafts) rfl
          live (some existing) (requestedOccurredAt.getD existing.occurredAt) rfl rfl rfl known
    · intro requestedOccurredAt drafts admitted missing free
      refine sound.write (insertedRow step.bookId step.mutation requestedOccurredAt drafts
        step.stamp.now) rfl rfl rfl rfl ⟨rfl, rfl⟩ rfl ?_ ?_
      · intro other present
        rw [missing] at present
        cases present
      · intro inBook known
        rw [← inBook]
        exact admitted.applyTo (insertedRow step.bookId step.mutation requestedOccurredAt drafts
          step.stamp.now) rfl rfl none (requestedOccurredAt.getD step.stamp.now) rfl rfl rfl known
    · intro existing isDelete found owned
      refine sound.write { existing with deleted := true, version := existing.version + 1 } rfl rfl
        rfl rfl ⟨rfl, rfl⟩ owned ?_ ?_
      · intro other present
        rw [found] at present
        cases present
        exact owned
      · intro _ known
        rw [TxRecord.shownIn, if_neg (by simp)]
        rfl
    · intro record
      exact sound.writeAccount rfl rfl rfl rfl (by simp)

/-- A compaction that leaves the last word on every transaction the device has not got. -/
theorem CompactionWorld.Sound.compact (sound : world.Sound bookId)
    (keeps : KeepsLastWord bookId world .compact) :
    (compactionStep bookId world .compact).Sound bookId := by
  have left : ∀ row ∈ world.server.compactSyncLog.changes, row ∈ world.server.changes :=
    fun row member => (List.mem_filter.mp member).1
  refine ⟨⟨sound.ordered.increasing.filter _, fun row member =>
    sound.ordered.below row (left row member)⟩, sound.behind, fun id => ?_⟩
  rcases sound.decided id with ⟨has, received⟩ | ⟨row, member, concerns, ahead, last, tells⟩
  · exact Or.inl ⟨has, fun row member => received row (left row member)⟩
  · refine Or.inr ⟨row, ?_, concerns, ahead, fun other member => last other (left other member),
      tells⟩
    by_contra gone
    have old : row.sequence < world.server.compactionFloor := by
      by_contra young
      exact gone (List.mem_filter.mpr ⟨member, by simpa using not_lt.mp young⟩)
    obtain ⟨later, kept, inBook, isRow, newer⟩ := keeps row
      (List.mem_filter.mpr ⟨member, by simpa using ⟨concerns.1, old⟩⟩) concerns.2.1 ahead
    have atMost := last later (left later kept) ⟨inBook, isRow.1, isRow.2.trans concerns.2.2⟩
    omega

/-- A row of the response acts on the ledger as the row of the log does. -/
theorem ChangeRecord.applyTo_backfilled (change : ChangeRecord) (joined : Option Timestamp)
    (known : Option LedgerEntry) :
    (change.backfilled joined).applyTo known = change.applyTo known := by
  obtain ⟨-, -, operation⟩ := change.backfilled_fields joined
  obtain ⟨version, entries⟩ := change.backfilled_content joined
    (show ("entries" : String) ≠ "occurredAt" by decide)
  rw [applyTo, applyTo, operation, version, payloadEntries, payloadEntries, entries]

omit [Rfc3339] in
/-- A page holds the rows of the book between the cursor and the next one. -/
theorem PgStore.Ordered.mem_page {store : PgStore} (ordered : store.Ordered) (bookId : String)
    (cursor : Int) (limit : Option Nat) (change : ChangeRecord) :
    change ∈ pullRowsPg store.changes bookId cursor limit ↔
      change ∈ store.changes ∧ change.bookId = bookId ∧ cursor < change.sequence ∧
        change.sequence ≤
          nextCursor cursor (pullRowsPg store.changes bookId cursor limit) := by
  have increasing := selectChanges_increasing
    (ordered.increasing.imp fun less => ne_of_lt less) bookId cursor
  have isPrefix := pullRowsPg_isPrefix store.changes bookId cursor limit
  constructor
  · intro member
    obtain ⟨inLog, inBook, beyond⟩ := mem_selectChanges.mp (isPrefix.subset member)
    exact ⟨inLog, inBook, beyond,
      le_nextCursor_of_mem cursor (increasing.sublist isPrefix.sublist) member⟩
  · rintro ⟨inLog, inBook, beyond, atMost⟩
    rw [List.prefix_iff_eq_take.mp isPrefix] at atMost ⊢
    exact mem_take_of_le_nextCursor increasing (mem_selectChanges.mpr ⟨inLog, inBook, beyond⟩)
      atMost

/-- And so do all the rows of a response. -/
theorem ledgerAfter_backfilled (joined : ChangeRecord → Option Timestamp)
    (ledger : KeyMap String LedgerEntry) (changes : List ChangeRecord) :
    ledgerAfter ledger (changes.map fun change => change.backfilled (joined change)) =
      ledgerAfter ledger changes := by
  have step : ∀ ledger change, KeyedLog.applyEntry ChangeRecord.entityId ChangeRecord.applyTo
      ledger (change.backfilled (joined change)) =
        KeyedLog.applyEntry ChangeRecord.entityId ChangeRecord.applyTo ledger change := by
    intro ledger change
    rw [KeyedLog.applyEntry, KeyedLog.applyEntry, ChangeRecord.applyTo_backfilled,
      (change.backfilled_fields (joined change)).2.1]
  have same : (fun change : ChangeRecord =>
      decide ((change.backfilled (joined change)).entityType = "transaction")) =
      fun change => decide (change.entityType = "transaction") :=
    funext fun change => by rw [(change.backfilled_fields (joined change)).1]
  rw [ledgerAfter, ledgerAfter, List.filter_map, KeyedLog.replay, List.foldl_map]
  show List.foldl _ _ (changes.filter fun change =>
    decide ((change.backfilled (joined change)).entityType = "transaction")) = _
  rw [same, KeyedLog.replay]
  congr 1
  exact funext fun ledger => funext fun change => step ledger change

omit [Rfc3339] in
/-- Changes that do not concern a transaction leave it alone. -/
theorem lookup_ledgerAfter_of_none {ledger : KeyMap String LedgerEntry}
    {changes : List ChangeRecord} {id : String} (none : ∀ change ∈ changes, ¬change.IsRowOf id) :
    (ledgerAfter ledger changes).lookup id = ledger.lookup id := by
  refine KeyedLog.lookup_replay_of_forall_ne _ _ _ _ _ fun change member same => ?_
  obtain ⟨inChanges, isTransaction⟩ := List.mem_filter.mp member
  exact none change inChanges ⟨by simpa using isTransaction, same⟩

omit [Rfc3339] in
/-- The last change of a transaction decides. -/
theorem lookup_ledgerAfter_last {ledger : KeyMap String LedgerEntry}
    {changes : List ChangeRecord} {row : ChangeRecord} {id : String}
    (increasing : changes.Pairwise fun first second => first.sequence < second.sequence)
    (member : row ∈ changes) (isRow : row.IsRowOf id)
    (last : ∀ change ∈ changes, change.IsRowOf id → change.sequence ≤ row.sequence)
    {value : Option LedgerEntry} (tells : ∀ known, row.applyTo known = value) :
    (ledgerAfter ledger changes).lookup id = value := by
  obtain ⟨isTransaction, rfl⟩ := isRow
  have isKept : row ∈ changes.filter fun change => decide (change.entityType = "transaction") :=
    List.mem_filter.mpr ⟨member, decide_eq_true isTransaction⟩
  obtain ⟨before, rest, split⟩ := List.append_of_mem isKept
  rw [ledgerAfter, split]
  refine KeyedLog.lookup_replay_last _ _ _ _ _ _ (fun later inRest same => ?_) tells
  have sorted := increasing.filter fun change => decide (change.entityType = "transaction")
  rw [split, List.pairwise_append, List.pairwise_cons] at sorted
  have newer := sorted.2.1.1 later inRest
  have kept : later ∈ changes.filter fun change => decide (change.entityType = "transaction") := by
    rw [split]
    exact List.mem_append_right _ (List.mem_cons_of_mem _ inRest)
  obtain ⟨inChanges, laterTransaction⟩ := List.mem_filter.mp kept
  have atMost := last later inChanges ⟨by simpa using laterTransaction, same⟩
  omega

/-- A pull. -/
theorem CompactionWorld.Sound.pull (sound : world.Sound bookId) (limit : Option Nat) :
    (compactionStep bookId world (.pull limit)).Sound bookId := by
  have page := sound.ordered.mem_page bookId world.cursor limit
  have forward : world.cursor ≤
      nextCursor world.cursor (pullRowsPg world.server.changes bookId world.cursor limit) :=
    le_nextCursor fun change member => ((page change).mp member).2.2.1
  have ledger : (compactionStep bookId world (.pull limit)).ledger =
      ledgerAfter world.ledger (pullRowsPg world.server.changes bookId world.cursor limit) :=
    ledgerAfter_backfilled _ _ _
  have cursor : (compactionStep bookId world (.pull limit)).cursor =
      nextCursor world.cursor (pullRowsPg world.server.changes bookId world.cursor limit) := rfl
  refine ⟨sound.ordered, ?_, fun id => ?_⟩
  · rw [cursor, nextCursor]
    cases last : (pullRowsPg world.server.changes bookId world.cursor limit).getLast? with
    | none => exact sound.behind
    | some row => exact sound.ordered.below row ((page row).mp (List.mem_of_getLast? last)).1
  rw [Decided, ledger, cursor]
  rcases sound.decided id with ⟨has, received⟩ | ⟨row, member, concerns, ahead, last, tells⟩
  · refine Or.inl ⟨?_, fun change member concerns =>
      (received change member concerns).trans forward⟩
    rw [lookup_ledgerAfter_of_none]
    · exact has
    · intro change inPage isRow
      obtain ⟨inLog, inBook, beyond, -⟩ := (page change).mp inPage
      exact absurd (received change inLog ⟨inBook, isRow⟩) (not_le.mpr beyond)
  · by_cases inPage : row.sequence ≤
        nextCursor world.cursor (pullRowsPg world.server.changes bookId world.cursor limit)
    · refine Or.inl ⟨?_, fun change isIn concerning => (last change isIn concerning).trans inPage⟩
      have increasing := (selectChanges_increasing
        (sound.ordered.increasing.imp fun less => ne_of_lt less) bookId world.cursor).sublist
          (pullRowsPg_isPrefix world.server.changes bookId world.cursor limit).sublist
      refine lookup_ledgerAfter_last increasing ((page row).mpr ⟨member, concerns.1, ahead, inPage⟩)
        concerns.2 (fun change isIn isRow => ?_) tells
      obtain ⟨inLog, inBook, -⟩ := (page change).mp isIn
      exact last change inLog ⟨inBook, isRow⟩
    · exact Or.inr ⟨row, member, concerns, not_le.mp inPage, last, tells⟩

/-- One step. -/
theorem compactionStep_sound (sound : world.Sound bookId) (event : CompactionEvent)
    (allowed : KeepsLastWord bookId world event) :
    (compactionStep bookId world event).Sound bookId := by
  cases event with
  | push step => exact sound.push allowed
  | compact => exact sound.compact allowed
  | pull limit => exact sound.pull limit

/-- A device that is told that nothing is left has the ledger of the server. -/
theorem CompactionWorld.Sound.syncsClean (sound : world.Sound bookId) (limit : Option Nat) :
    world.SyncsClean bookId limit := by
  intro done id
  rcases (sound.pull limit).decided id with ⟨has, -⟩ | ⟨row, member, concerns, ahead, -⟩
  · exact has
  · have none := List.any_eq_false.mp done row member
    exact absurd none (by simpa using ⟨concerns.1, ahead⟩)

/-- What was removed had been received, and stays so. -/
theorem compactionStep_received (received : ∀ row ∈ world.removed, row.sequence ≤ world.cursor)
    (event : CompactionEvent) (allowed : RemovesReceived bookId world event) :
    ∀ row ∈ (compactionStep bookId world event).removed,
      row.sequence ≤ (compactionStep bookId world event).cursor := by
  cases event with
  | push step => exact received
  | compact =>
    intro row member
    rcases List.mem_append.mp member with earlier | now
    · exact received row earlier
    · exact allowed row now
  | pull limit =>
    intro row member
    refine (received row member).trans (le_nextCursor fun change inPage => ?_)
    exact (mem_selectChanges.mp ((pullRowsPg_isPrefix _ _ _ _).subset inPage)).2.2

end Steps

/-- In a run of pushes to the database, compactions and pulls of one device, a device that is
told that nothing is left has the ledger of the server in every state, as long as no push
updates a deleted transaction of the book and every row that is removed before the device has
got it was superseded by a later row that is left. And its pulls lead past no removed row, as
long as compaction removes only what the device has received. -/
theorem compaction_safe [Rfc3339] (accounts : KeyMap String AccountRecord) (bookId : String)
    (events : List CompactionEvent) :
    (Machine.Guarded (compactionStep bookId) (KeepsLastWord bookId) (.initial accounts) events →
      ∀ limit, (Machine.run (compactionStep bookId) (.initial accounts) events).SyncsClean bookId
        limit) ∧
    (Machine.Guarded (compactionStep bookId) (RemovesReceived bookId) (.initial accounts) events →
      ∀ limit, (Machine.run (compactionStep bookId) (.initial accounts) events).SyncsClean bookId
          limit ∧
        (Machine.run (compactionStep bookId) (.initial accounts) events).SkipsNothing bookId
          limit) := by
  constructor
  · intro guarded limit
    have keeps : ∀ (world : CompactionWorld) (event : CompactionEvent), world.Sound bookId →
        KeepsLastWord bookId world event → (compactionStep bookId world event).Sound bookId :=
      fun _ event sound allowed => compactionStep_sound sound event allowed
    exact (Machine.guarded_invariant keeps (CompactionWorld.initial_sound accounts bookId)
      guarded).syncsClean limit
  · intro guarded limit
    have keeps : ∀ (world : CompactionWorld) (event : CompactionEvent),
        (world.Sound bookId ∧ ∀ row ∈ world.removed, row.sequence ≤ world.cursor) →
        RemovesReceived bookId world event →
        (compactionStep bookId world event).Sound bookId ∧
          ∀ row ∈ (compactionStep bookId world event).removed,
            row.sequence ≤ (compactionStep bookId world event).cursor := by
      intro world event both allowed
      refine ⟨compactionStep_sound both.1 event ?_, compactionStep_received both.2 event allowed⟩
      cases event with
      | push step => exact allowed
      | compact =>
        exact fun row doomed _ ahead => absurd (allowed row doomed) (not_le.mpr ahead)
      | pull limit => trivial
    obtain ⟨sound, received⟩ := Machine.guarded_invariant keeps
      ⟨CompactionWorld.initial_sound accounts bookId, fun _ none => absurd none List.not_mem_nil⟩
      guarded
    exact ⟨sound.syncsClean limit, fun row gone ahead =>
      absurd (received row gone) (not_le.mpr ahead.1)⟩

/-- A device pulls what was pushed, and then the log is compacted. -/
theorem compaction_safe_once : let _ := epochClock
    let world := Machine.run (compactionStep "A") (.initial (withAccounts "A" ∅))
      [.push (transferStep "A" "m1" "t1" "create" 0 []), .pull none, .compact]
    world.SyncsClean "A" none ∧ world.SkipsNothing "A" none := by
  intro clock world
  have guarded : Machine.Guarded (compactionStep "A") (RemovesReceived "A")
      (.initial (withAccounts "A" ∅))
      [.push (transferStep "A" "m1" "t1" "create" 0 []), .pull none, .compact] := by
    refine ⟨?_, trivial, ?_, trivial⟩
    · rintro ⟨-, -, existing, -, -, -, found, -⟩
      exact absurd found (by simp [CompactionWorld.initial, PgStore.initial])
    · show ∀ row ∈ CompactionWorld.doomed "A" _, _
      decide
  exact (compaction_safe (withAccounts "A" ∅) "A" _).2 guarded none

/-! ### A change that is gone before anyone has read it -/

/-- One of many deletes in the second book. -/
def neighbourDelete (position : Nat) : PushStep :=
  transferStep "B" ("d" ++ decimalText position) "t2" "delete" 0 []

/-- A transaction of the first book, a transaction of the second one that is deleted again and
again, and another transaction of the first book. -/
def busyNeighbour (count : Nat) : List PushStep :=
  [transferStep "A" "m1" "t1" "create" 0 [], transferStep "B" "m2" "t2" "create" 0 []] ++
    (List.range count).map neighbourDelete ++ [transferStep "A" "m3" "t3" "create" 0 []]

/-- The accounts of both books. -/
def bothBooks : KeyMap String AccountRecord := withAccounts "B" (withAccounts "A" ∅)

/-- The database while the second transaction is being deleted. -/
structure PgStore.Filled (store first : PgStore) (count : Nat) : Prop where
  accounts : store.accounts = first.accounts
  kept : ∀ id, id ≠ "t2" → store.transactions.lookup id = first.transactions.lookup id
  filler : ∃ row, store.transactions.lookup "t2" = some row ∧ row.bookId = "B"
  fresh : ∀ position, count ≤ position → store.mutations.lookup
    ("B", "device", "d" ++ decimalText position) = none
  free : store.mutations.lookup ("A", "device", "m3") = none
  numbered : store.nextSequence = first.nextSequence + count
  logged : ∃ rows, store.changes = first.changes ++ rows ∧ ∀ row ∈ rows,
    row.bookId = "B" ∧ first.nextSequence ≤ row.sequence ∧ row.sequence < store.nextSequence

/-- One more delete. -/
theorem PgStore.Filled.delete [Rfc3339] {store first : PgStore} {count : Nat}
    (filled : store.Filled first count) :
    (pushStepPg store (neighbourDelete count)).Filled first (count + 1) := by
  obtain ⟨row, stored, inBook⟩ := filled.filler
  have selected : store.rowIn "B" "t2" = some row := by
    rw [rowIn, stored, Option.filter_some, if_pos (decide_eq_true inBook)]
  have processed : pushStepPg store (neighbourDelete count) =
      { (writeDeletePg store "B" (neighbourDelete count).mutation row
          ⟨epoch, "d" ++ decimalText count⟩).1 with
        mutations := store.mutations.insert ("B", "device", "d" ++ decimalText count)
          ⟨"applied", "OK", some (row.version + 1)⟩ } := by
    have fresh : store.mutations.lookup (neighbourDelete count).key = none :=
      filled.fresh count le_rfl
    rw [pushStepPg, pushMutationPg_processed fresh]
    simp only [processMutationPg, neighbourDelete, transferStep, processDeletePg, selected]
    rfl
  rw [processed]
  obtain ⟨rows, changes, each⟩ := filled.logged
  have numbered := filled.numbered
  refine ⟨filled.accounts, fun id other => ?_, ⟨_, AList.lookup_insert _, inBook⟩,
    fun position after => ?_, ?_, ?_, ?_⟩
  · exact (AList.lookup_insert_ne other).trans (filled.kept id other)
  · refine (AList.lookup_insert_ne fun same => ?_).trans (filled.fresh position (by omega))
    have texts := congrArg (fun key : MutationKey => key.2.2) same
    have digits := congrArg String.toList texts
    simp only [String.toList_append, List.append_cancel_left_eq, String.toList_inj] at digits
    have equal := decimalText_injective digits
    omega
  · refine (AList.lookup_insert_ne fun same => ?_).trans filled.free
    exact absurd (congrArg Prod.fst same) (by simp)
  · show store.nextSequence + 1 = first.nextSequence + ((count + 1 : Nat) : Int)
    push_cast
    omega
  · refine ⟨rows ++ [_], (congrArg (· ++ [_]) changes).trans (List.append_assoc _ _ _), ?_⟩
    intro other member
    show other.bookId = "B" ∧ first.nextSequence ≤ other.sequence ∧
      other.sequence < store.nextSequence + 1
    rcases List.mem_append.mp member with earlier | last
    · obtain ⟨ofBook, lower, upper⟩ := each other earlier
      exact ⟨ofBook, lower, by omega⟩
    · rw [List.mem_singleton.mp last]
      refine ⟨rfl, ?_, ?_⟩
      · show first.nextSequence ≤ store.nextSequence
        omega
      · show store.nextSequence < store.nextSequence + 1
        omega

/-- The other transaction of the first book. -/
theorem PgStore.Filled.create {store first : PgStore} {count : Nat}
    (filled : store.Filled first count) (accounts : first.accounts = bothBooks)
    (missing : first.transactions.lookup "t3" = none) : let _ := epochClock
    ∃ change, change.bookId = "A" ∧ change.entityId = "t3" ∧
      change.sequence = store.nextSequence ∧
      (pushStepPg store (transferStep "A" "m3" "t3" "create" 0 [])).changes =
        store.changes ++ [change] ∧
      (pushStepPg store (transferStep "A" "m3" "t3" "create" 0 [])).transactions.lookup "t1" =
        first.transactions.lookup "t1" := by
  intro clock
  have fresh : store.mutations.lookup (transferStep "A" "m3" "t3" "create" 0 []).key = none :=
    filled.free
  have admitted : AdmittedPg store "A" (transferStep "A" "m3" "t3" "create" 0 []).mutation none
      [⟨"A:cash", -100, "CNY"⟩, ⟨"A:food", 100, "CNY"⟩] := by
    refine ⟨rfl, by decide, rfl, ?_⟩
    rw [countAccounts, filled.accounts, accounts]
    decide
  have unnamed : autoLedgerFingerprint (transferStep "A" "m3" "t3" "create" 0 []).mutation =
      none := by decide
  have original : store.duplicateOf "A" (transferStep "A" "m3" "t3" "create" 0 []).mutation =
      none := by
    rw [duplicateOf, duplicateIn, unnamed, Option.bind_none]
  have new : store.transactions.lookup "t3" = none := (filled.kept "t3" (by decide)).trans missing
  have outOfIndex : (insertedRow "A" (transferStep "A" "m3" "t3" "create" 0 []).mutation none
      [⟨"A:cash", -100, "CNY"⟩, ⟨"A:food", 100, "CNY"⟩] epoch).autoLedgerIndex = none := by decide
  have written := processMutationPg_insert admitted new original ⟨epoch, "m3"⟩ (by
    rw [violatesAutoEvent_iff]
    rintro ⟨bookId, fingerprint, other, taken, inIndex, -⟩
    exact absurd (outOfIndex.symm.trans inIndex) (by simp))
  have stepped : (pushStepPg store (transferStep "A" "m3" "t3" "create" 0 [])).changes =
        (processMutationPg store "A" (transferStep "A" "m3" "t3" "create" 0 []).mutation
          ⟨epoch, "m3"⟩).1.changes ∧
      (pushStepPg store (transferStep "A" "m3" "t3" "create" 0 [])).transactions =
        (processMutationPg store "A" (transferStep "A" "m3" "t3" "create" 0 []).mutation
          ⟨epoch, "m3"⟩).1.transactions := by
    rw [pushStepPg, pushMutationPg_processed fresh]
    exact ⟨rfl, rfl⟩
  rw [stepped.1, stepped.2, written]
  exact ⟨_, rfl, rfl, rfl, rfl,
    (AList.lookup_insert_ne (by decide)).trans (filled.kept "t1" (by decide))⟩

/-- The highest number of a log ends it. -/
theorem PgStore.compactionFloor_concat {store : PgStore} {before : List ChangeRecord}
    {last : ChangeRecord} (logged : store.changes = before ++ [last])
    (below : ∀ row ∈ before, row.sequence ≤ last.sequence) :
    store.compactionFloor = last.sequence - 100000 := by
  have highest : (store.changes.map ChangeRecord.sequence).max? = some last.sequence := by
    rw [logged, List.max?_eq_some_iff]
    refine ⟨by simp, ?_⟩
    intro number member
    obtain ⟨row, isRow, rfl⟩ := List.mem_map.mp member
    rcases List.mem_append.mp isRow with earlier | isLast
    · exact below row earlier
    · rw [List.mem_singleton.mp isLast]
  rw [compactionFloor, highest, Option.getD_some]

/-- Pushes change nothing but the server. -/
theorem run_pushes [Rfc3339] (bookId : String) (world : CompactionWorld) (steps : List PushStep) :
    Machine.run (compactionStep bookId) world (steps.map .push) =
      { world with server := Machine.run pushStepPg world.server steps } := by
  induction steps generalizing world with
  | nil => rfl
  | cons step rest inductionHypothesis =>
    rw [List.map_cons, Machine.run_cons, Machine.run_cons, inductionHypothesis]
    rfl

section Loss

/-- The database after the first two creates. -/
def twoCreated : PgStore :=
  let _ := epochClock
  Machine.run pushStepPg (.initial bothBooks)
    [transferStep "A" "m1" "t1" "create" 0 [], transferStep "B" "m2" "t2" "create" 0 []]

theorem twoCreated_filled : twoCreated.Filled twoCreated 0 := by
  have keys : twoCreated.mutations = ((∅ : KeyMap MutationKey MutationReceipt).insert
      ("A", "device", "m1") ⟨"applied", "OK", some 1⟩).insert ("B", "device", "m2")
        ⟨"applied", "OK", some 1⟩ := by rfl
  have notFirst : ∀ rest : String, "d" ++ rest ≠ "m2" := by
    intro rest same
    have letters := congrArg String.toList same
    rw [String.toList_append] at letters
    exact absurd (List.cons.inj letters).1 (by decide)
  refine ⟨rfl, fun _ _ => rfl, ?_, fun position _ => ?_, by decide, by decide,
    [], (List.append_nil _).symm, fun _ none => absurd none List.not_mem_nil⟩
  · have owned : (twoCreated.transactions.lookup "t2").map TxRecord.bookId = some "B" := by decide
    obtain ⟨row, stored, inBook⟩ := Option.map_eq_some_iff.mp owned
    exact ⟨row, stored, inBook⟩
  · rw [keys, AList.lookup_insert_ne, AList.lookup_insert_ne]
    · rfl
    · exact fun same => absurd (congrArg Prod.fst same) (by simp)
    · exact fun same => notFirst _ (congrArg (fun key : MutationKey => key.2.2) same)

/-- The database after any number of deletes. -/
theorem deletes_filled (count : Nat) : let _ := epochClock
    (Machine.run pushStepPg twoCreated ((List.range count).map neighbourDelete)).Filled twoCreated
      count := by
  intro clock
  induction count with
  | zero => exact twoCreated_filled
  | succ count inductionHypothesis =>
    rw [List.range_succ, List.map_append, Machine.run_append]
    exact inductionHypothesis.delete

/-- After enough deletes in the other book, a device that has been away is led past the change
it misses. -/
theorem busyNeighbour_loses {count : Nat} (enough : 99999 ≤ count) : let _ := epochClock
    let world := Machine.run (compactionStep "A") (.initial bothBooks)
      ((busyNeighbour count).map .push ++ [.compact])
    (world.response "A" none).hasMore = false ∧ ¬world.SyncsClean "A" none ∧
      ¬world.SkipsNothing "A" none := by
  intro clock world
  have filled := deletes_filled count
  obtain ⟨change, inBook, isThird, numbered, logged, kept⟩ := filled.create rfl (by decide)
  obtain ⟨rows, filler, each⟩ := filled.logged
  have reached : ∃ store, world = ⟨PgStore.compactSyncLog store, 0, ∅,
      [] ++ CompactionWorld.doomed "A" ⟨store, 0, ∅, []⟩⟩ ∧ store.changes =
        (twoCreated.changes ++ rows) ++ [change] ∧
      store.transactions.lookup "t1" = twoCreated.transactions.lookup "t1" := by
    refine ⟨_, ?_, (logged.trans (congrArg (· ++ [change]) filler)), kept⟩
    show Machine.run (compactionStep "A") (.initial bothBooks)
      ((busyNeighbour count).map .push ++ [.compact]) = _
    rw [Machine.run_append, run_pushes, busyNeighbour, Machine.run_append, Machine.run_append]
    rfl
  obtain ⟨store, isWorld, changes, first⟩ := reached
  have number : change.sequence = 3 + count := by
    rw [numbered, filled.numbered]
    rfl
  have firstRows : ∀ row ∈ twoCreated.changes, row.sequence < 3 ∧
      (row.bookId = "A" → row.sequence = 1) := by decide
  have older : ∀ row ∈ twoCreated.changes ++ rows, row.sequence ≤ change.sequence ∧
      (row.bookId = "A" → row.sequence = 1) := by
    intro row member
    rcases List.mem_append.mp member with early | late
    · obtain ⟨small, isFirst⟩ := firstRows row early
      exact ⟨by omega, isFirst⟩
    · obtain ⟨ofOther, -, below⟩ := each row late
      refine ⟨by omega, fun ofFirst => ?_⟩
      exact absurd (ofFirst.symm.trans ofOther) (by decide)
  have floor := PgStore.compactionFloor_concat changes fun row member => (older row member).1
  rw [number] at floor
  have selected : selectChanges store.compactSyncLog.changes "A" 0 = [change] := by
    have gone : (twoCreated.changes ++ rows).filter (fun row =>
        decide (row.bookId = "A" ∧ 0 < row.sequence) &&
          decide (store.compactionFloor ≤ row.sequence)) = [] := by
      refine List.filter_eq_nil_iff.mpr fun row member => ?_
      have isFirst := (older row member).2
      simp only [Bool.and_eq_true, decide_eq_true_eq, not_and, floor]
      rintro ⟨ofFirst, -⟩
      have := isFirst ofFirst
      omega
    have left : store.compactionFloor ≤ change.sequence := by omega
    rw [selectChanges, PgStore.compactSyncLog, changes, List.filter_filter, List.filter_append, gone,
      List.filter_singleton, decide_eq_true left, inBook, decide_eq_true ⟨rfl, by omega⟩]
    rfl
  have page : pullRowsPg store.compactSyncLog.changes "A" 0 none = [change] := by
    rw [pullRowsPg, selected]
    exact Paging.page_eq_self _ _ _ (by simp [pullLimit])
  have response : world.response "A" none =
      ⟨[change.backfilled ((store.compactSyncLog.rowIn "A" change.entityId).map
          TxRecord.occurredAt)], change.sequence,
        store.compactSyncLog.changes.any fun row =>
          row.bookId = "A" && change.sequence < row.sequence⟩ := by
    rw [isWorld]
    simp only [CompactionWorld.response, pullPg, page]
    rfl
  have done : (world.response "A" none).hasMore = false := by
    rw [response]
    refine List.any_eq_false.mpr fun row member => ?_
    have stored := (List.mem_filter.mp member).1
    rw [changes] at stored
    have atMost : row.sequence ≤ change.sequence := by
      rcases List.mem_append.mp stored with early | last
      · exact (older row early).1
      · rw [List.mem_singleton.mp last]
    simpa using fun _ => atMost
  refine ⟨done, fun clean => ?_, fun skips => ?_⟩
  · have has := clean done "t1"
    have nothing : (compactionStep "A" world (.pull none)).ledger.lookup "t1" = none := by
      show (ledgerAfter world.ledger (world.response "A" none).changes).lookup "t1" = none
      rw [response, lookup_ledgerAfter_of_none]
      · rw [isWorld]
        rfl
      · intro row member isRow
        rw [List.mem_singleton.mp member] at isRow
        have named := (change.backfilled_fields ((store.compactSyncLog.rowIn "A"
          change.entityId).map TxRecord.occurredAt)).2.1
        exact absurd (isThird.symm.trans (named.symm.trans isRow.2)) (by decide)
    have live : (world.server.liveLedger "A" "t1").isSome = true := by
      rw [isWorld]
      show ((store.transactions.lookup "t1").bind (TxRecord.shownIn "A")).isSome = true
      rw [first]
      decide
    rw [← has, nothing] at live
    exact absurd live (by decide)
  · have lost : ∃ row ∈ twoCreated.changes, row.bookId = "A" ∧ row.sequence = 1 := by decide
    obtain ⟨row, member, ofBook, isFirst⟩ := lost
    refine skips row ?_ ⟨?_, ?_⟩
    · rw [isWorld]
      refine List.mem_append_right _ (List.mem_filter.mpr ⟨?_, ?_⟩)
      · show row ∈ store.changes
        rw [changes]
        exact List.mem_append_left _ (List.mem_append_left _ member)
      · show decide (row.bookId = "A" ∧ row.sequence < store.compactionFloor) = true
        rw [floor, isFirst]
        exact decide_eq_true ⟨ofBook, by omega⟩
    · rw [isWorld, isFirst]
      exact Int.zero_lt_one
    · rw [response, isFirst]
      show 1 ≤ change.sequence
      omega

/-- A device that was away while another book was busy is told that it has everything, and
misses a transaction that nobody has deleted. -/
theorem compaction_loses_change : let _ := epochClock
    let world := Machine.run (compactionStep "A") (.initial bothBooks)
      ((busyNeighbour 100000).map .push ++ [.compact])
    (world.response "A" none).hasMore = false ∧ ¬world.SyncsClean "A" none ∧
      ¬world.SkipsNothing "A" none :=
  busyNeighbour_loses (by omega)

end Loss

end Ledgerly
