/-
This file settles that a bootstrap which was read while others pushed is a sound start.

`bootstrap` reads the cursor, the transactions of the book and then the entries of each of
them by statements of their own, and pushes commit in between, so that it can return a row of
one version with the entries of another. What a push changed after the cursor was read stands
in the log behind the cursor; applying it puts every such row right, since a change row says
everything about its transaction. A transaction without such a change was not written, and
all statements saw it alike.
-/

import Ledgerly.ChangeLog

namespace Ledgerly

/-! ### The statements of bootstrap -/

/-- `SELECT COALESCE(MAX(sequence),0) FROM sync_changes WHERE book_id=$1`. -/
def PgStore.highWater (store : PgStore) (bookId : String) : Int :=
  (((store.changes.filter fun change => change.bookId = bookId).map
    ChangeRecord.sequence).max?).getD 0

/-- A row of `SELECT id, version, description, occurred_at, source FROM transactions`. -/
structure BootstrapRow where
  id : String
  version : Int
  description : Option String
  occurredAt : Timestamp
  source : Option String

/-- The select of the live transactions of the book. -/
def PgStore.bootstrapRows (store : PgStore) (bookId : String) : List BootstrapRow :=
  (store.transactions.values.filter fun row => row.bookId = bookId ∧ row.deleted = false).map
    fun row => ⟨row.id, row.version, row.description, row.occurredAt, row.source⟩

/-- `SELECT ... FROM transaction_entries WHERE transaction_id=$1 ORDER BY entry_index`. -/
def PgStore.entriesOf (store : PgStore) (id : String) : List StoredEntry :=
  ((store.transactions.lookup id).map TxRecord.entries).getD []

/-- An element of the response. -/
def BootstrapRow.withEntries [Rfc3339] (row : BootstrapRow) (entries : List StoredEntry) :
    BootstrapTransaction where
  id := row.id
  version := row.version
  occurredAt := Rfc3339.format row.occurredAt
  description := row.description
  source := row.source
  entries := entries.map fun entry => .obj
    [("accountId", .str entry.accountId),
      ("amountMinor", .str (decimalText entry.amountMinor)),
      ("currency", .str entry.currency)]

/-- How far a bootstrap has come. It has answered when no row is left to read the entries of. -/
inductive BootstrapProgress
  | started
  | counted (highWaterCursor : Int)
  | listed (highWaterCursor : Int) (rows : List BootstrapRow)
  | reading (highWaterCursor : Int) (rows : List BootstrapRow) (out : List BootstrapTransaction)

/-- The server while a bootstrap of a book is under way. -/
structure BootstrapState where
  server : PgStore
  progress : BootstrapProgress

/-- A push is committed, or the bootstrap runs its next statement. -/
inductive BootstrapEvent
  | pushed (step : PushStep)
  | statement

section Statements

variable [Rfc3339] (bookId : String)

/-- The next statement of `bootstrap`, on what is committed. The select of the accounts stands
between that of the transactions and those of the entries. -/
def PgStore.bootstrapStatement (store : PgStore) : BootstrapProgress → BootstrapProgress
  | .started => .counted (store.highWater bookId)
  | .counted high => .listed high (store.bootstrapRows bookId)
  | .listed high rows => .reading high rows []
  | .reading high (row :: rest) out =>
    .reading high rest (out ++ [row.withEntries (store.entriesOf row.id)])
  | .reading high [] out => .reading high [] out

/-- A push by anybody, or the next statement of the bootstrap. -/
def BootstrapState.step (state : BootstrapState) : BootstrapEvent → BootstrapState
  | .pushed step => { state with server := pushStepPg state.server step }
  | .statement =>
    { state with progress := state.server.bootstrapStatement bookId state.progress }

/-- The push updates no deleted transaction of the book. -/
def BootstrapState.Allows (state : BootstrapState) : BootstrapEvent → Prop
  | .pushed step => ¬(step.bookId = bookId ∧ UpdatesDeleted state.server step)
  | .statement => True

end Statements

/-- What is known of a transaction after a bootstrap and the change rows behind it. -/
def catchUp (transactions : List BootstrapTransaction) (changes : List ChangeRecord)
    (id : String) : Option LedgerEntry :=
  KeyedLog.fate ChangeRecord.entityId ChangeRecord.applyTo
    (changes.filter fun change => change.entityType = "transaction") id
    (ledgerOfBootstrap transactions id)

/-! ### What a push adds to the log -/

/-- The change is about a transaction of the book. -/
def ChangeRecord.Touches (change : ChangeRecord) (bookId id : String) : Prop :=
  change.bookId = bookId ∧ change.entityType = "transaction" ∧ change.entityId = id

/-- The operation of a change to a transaction. -/
def ChangeRecord.Decides (change : ChangeRecord) : Prop :=
  change.entityType = "transaction" → change.operation = "upsert" ∨ change.operation = "delete"

theorem ChangeRecord.Decides.applyTo_congr {change : ChangeRecord} (decides : change.Decides)
    (isTransaction : change.entityType = "transaction") (known other : Option LedgerEntry) :
    change.applyTo known = change.applyTo other := by
  rw [ChangeRecord.applyTo, ChangeRecord.applyTo]
  rcases decides isTransaction with isUpsert | isDelete
  · rw [if_pos isUpsert, if_pos isUpsert]
  · rw [if_neg (by rw [isDelete]; decide), if_pos isDelete, if_neg (by rw [isDelete]; decide),
      if_pos isDelete]

/-- The store continues another one: its log is longer, and a transaction of the book that no new
change is about has not been written. -/
def PgStore.Continues (bookId : String) (base store : PgStore) : Prop :=
  ∃ added, store.changes = base.changes ++ added ∧
    (∀ change ∈ added, base.nextSequence ≤ change.sequence ∧ change.Decides) ∧
    base.nextSequence ≤ store.nextSequence ∧
    ∀ id, (∀ change ∈ added, ¬change.Touches bookId id) →
      store.rowIn bookId id = base.rowIn bookId id

theorem PgStore.Continues.refl (bookId : String) (store : PgStore) :
    store.Continues bookId store :=
  ⟨[], (List.append_nil _).symm, fun _ member => absurd member List.not_mem_nil, le_rfl,
    fun _ _ => rfl⟩

theorem PgStore.Continues.trans {bookId : String} {first second third : PgStore}
    (earlier : first.Continues bookId second) (later : second.Continues bookId third) :
    first.Continues bookId third := by
  obtain ⟨added, logged, sound, ordered, kept⟩ := earlier
  obtain ⟨more, loggedMore, soundMore, orderedMore, keptMore⟩ := later
  refine ⟨added ++ more, ?_, ?_, ordered.trans orderedMore, fun id untouched => ?_⟩
  · rw [loggedMore, logged, List.append_assoc]
  · intro change member
    rcases List.mem_append.mp member with old | new
    · exact sound change old
    · exact ⟨ordered.trans (soundMore change new).1, (soundMore change new).2⟩
  · rw [keptMore id fun change member => untouched change (List.mem_append_right _ member),
      kept id fun change member => untouched change (List.mem_append_left _ member)]

/-- One more change leaves the transactions it is not about. -/
theorem PgStore.continues_write {store written : PgStore} {bookId : String}
    (owner key : String) (row : TxRecord) {change : ChangeRecord}
    (wrote : written.transactions = store.transactions.insert key row)
    (logged : written.changes = store.changes ++ [change])
    (numbered : change.sequence = store.nextSequence)
    (next : written.nextSequence = store.nextSequence + 1) (decides : change.Decides)
    (about : change.Touches owner key) (owned : row.bookId = owner)
    (before : ∀ existing, store.transactions.lookup key = some existing →
      existing.bookId = owner) :
    store.Continues bookId written := by
  refine ⟨[change], logged, fun other member => ?_, by omega, fun id untouched => ?_⟩
  · rw [List.mem_singleton.mp member]
    exact ⟨numbered.ge, decides⟩
  · rw [rowIn, wrote, KeyMap.lookup_insert_eq, rowIn]
    by_cases same : id = key
    · have elsewhere : owner ≠ bookId := fun inBook => untouched change (List.mem_singleton_self _)
        ⟨about.1.trans inBook, about.2.1, about.2.2.trans same.symm⟩
      rw [if_pos same, Option.filter_some, if_neg (by rw [owned]; simpa using elsewhere), same]
      cases stored : store.transactions.lookup key with
      | none => rfl
      | some existing =>
        rw [Option.filter_some, if_neg (by rw [before existing stored]; simpa using elsewhere)]
    · rw [if_neg same]

section Push

variable [Rfc3339] (bookId : String) (store : PgStore)

theorem pushStepPg_continues (step : PushStep) :
    store.Continues bookId (pushStepPg store step) := by
  refine pushStepPg_elim (motive := store.Continues bookId) step (fun _ _ holds => holds)
    (PgStore.Continues.refl bookId store) ?_ ?_ ?_ ?_
  · intro existing requestedOccurredAt drafts admitted found owned current free
    refine PgStore.continues_write step.bookId step.mutation.entityId
      (updatedRow step.mutation existing requestedOccurredAt drafts) rfl rfl rfl rfl
      (fun _ => Or.inl rfl) ⟨rfl, rfl, rfl⟩ owned ?_
    intro other stored
    rw [found] at stored
    cases stored
    exact owned
  · intro requestedOccurredAt drafts admitted missing free
    refine PgStore.continues_write step.bookId step.mutation.entityId
      (insertedRow step.bookId step.mutation requestedOccurredAt drafts step.stamp.now) rfl rfl rfl
      rfl (fun _ => Or.inl rfl) ⟨rfl, rfl, rfl⟩ rfl ?_
    intro other stored
    rw [missing] at stored
    cases stored
  · intro existing isDelete found owned
    refine PgStore.continues_write step.bookId step.mutation.entityId
      { existing with deleted := true, version := existing.version + 1 } rfl rfl rfl rfl
      (fun _ => Or.inr rfl) ⟨rfl, rfl, rfl⟩ owned ?_
    intro other stored
    rw [found] at stored
    cases stored
    exact owned
  · intro record
    refine ⟨_, rfl, fun change member => ?_, by simp [writeAccountPg, PgStore.logged],
      fun _ _ => rfl⟩
    rw [List.mem_singleton.mp member]
    exact ⟨le_rfl, fun isTransaction => absurd isTransaction (by simp)⟩

end Push

/-! ### The invariant of an interleaving -/

section Invariant

variable [Rfc3339] (bookId : String)

/-- What every run keeps of the server. -/
structure PgStore.Sound (store : PgStore) : Prop where
  regular : store.Regular
  shows : store.LogShows bookId
  positive : 0 < store.nextSequence
  numbered : ∀ change ∈ store.changes, 0 < change.sequence
  decides : ∀ change ∈ store.changes, change.Decides

omit [Rfc3339] in
theorem PgStore.initial_sound (accounts : KeyMap String AccountRecord) :
    (PgStore.initial accounts).Sound bookId where
  regular := ⟨PgStore.initial_constrained accounts,
    ⟨List.Pairwise.nil, fun _ member => absurd member List.not_mem_nil⟩,
    fun id row found => by simp [PgStore.initial] at found⟩
  shows id := by simp [PgStore.initial, ledgerOfLog, KeyedLog.replay]
  positive := Int.one_pos
  numbered _ member := absurd member List.not_mem_nil
  decides _ member := absurd member List.not_mem_nil

theorem PgStore.Sound.push {store : PgStore} (sound : store.Sound bookId) (step : PushStep)
    (allowed : ¬(step.bookId = bookId ∧ UpdatesDeleted store step)) :
    (pushStepPg store step).Sound bookId := by
  obtain ⟨added, logged, new, next, -⟩ := pushStepPg_continues bookId store step
  refine ⟨pushStepPg_regular sound.regular step, (pushStepPg_logShows_iff sound.shows step).mpr
    allowed, sound.positive.trans_le next, fun change member => ?_, fun change member => ?_⟩
  · rw [logged] at member
    rcases List.mem_append.mp member with old | added
    · exact sound.numbered change old
    · exact sound.positive.trans_le (new change added).1
  · rw [logged] at member
    rcases List.mem_append.mp member with old | added
    · exact sound.decides change old
    · exact (new change added).2

/-- A transaction of the book that no change since then is about. -/
def PgStore.Untouched (base store : PgStore) (id : String) : Prop :=
  ∀ change ∈ store.changes.drop base.changes.length, ¬change.Touches bookId id

/-- The response as it would be if all entries were read now. -/
def PgStore.responseNow (store : PgStore) (rows : List BootstrapRow)
    (out : List BootstrapTransaction) : List BootstrapTransaction :=
  out ++ rows.map fun row => row.withEntries (store.entriesOf row.id)

/-- What has been read so far shows the untouched transactions as they were. -/
def PgStore.Reads (base store : PgStore) (rows : List BootstrapRow)
    (out : List BootstrapTransaction) : Prop :=
  ∀ id, base.Untouched bookId store id →
    ledgerOfBootstrap (store.responseNow rows out) id =
      (base.rowIn bookId id).bind (TxRecord.shownIn bookId)

/-- The cursor was read on a store that the server continues. -/
structure PgStore.CursorOf (base store : PgStore) (high : Int) : Prop where
  sound : base.Sound bookId
  high_eq : high = base.highWater bookId
  continues : base.Continues bookId store

/-- What the bootstrap has read, for each of its statements. -/
def BootstrapProgress.Holds (store : PgStore) : BootstrapProgress → Prop
  | .started => True
  | .counted high => ∃ base, PgStore.CursorOf bookId base store high
  | .listed high rows =>
    ∃ base, PgStore.CursorOf bookId base store high ∧ base.Reads bookId store rows []
  | .reading high rows out =>
    ∃ base, PgStore.CursorOf bookId base store high ∧ base.Reads bookId store rows out

omit [Rfc3339] in
variable {bookId} in
/-- What is untouched later is untouched now. -/
theorem PgStore.Untouched.earlier {base store later : PgStore} {id : String}
    (untouched : base.Untouched bookId later id) (continues : base.Continues bookId store)
    (next : store.Continues bookId later) : base.Untouched bookId store id := by
  obtain ⟨added, logged, -⟩ := continues
  obtain ⟨more, loggedMore, -⟩ := next
  intro change member
  refine untouched change ?_
  rw [loggedMore, logged, List.append_assoc, List.drop_left]
  rw [logged, List.drop_left] at member
  exact List.mem_append_left _ member

omit [Rfc3339] in
variable {bookId} in
/-- The row of an untouched transaction is the one there was. -/
theorem PgStore.Untouched.rowIn_eq {base store : PgStore} {id : String}
    (untouched : base.Untouched bookId store id) (continues : base.Continues bookId store) :
    store.rowIn bookId id = base.rowIn bookId id := by
  obtain ⟨added, logged, -, -, kept⟩ := continues
  rw [Untouched, logged, List.drop_left] at untouched
  exact kept id untouched

omit [Rfc3339] in
theorem bind_rowIn_shownIn (store : PgStore) (id : String) :
    (store.rowIn bookId id).bind (TxRecord.shownIn bookId) =
      (store.transactions.lookup id).bind (TxRecord.shownIn bookId) := by
  rw [PgStore.rowIn]
  cases store.transactions.lookup id with
  | none => rfl
  | some row =>
    by_cases inBook : row.bookId = bookId
    · rw [Option.filter_some, if_pos (by simpa using inBook)]
    · rw [Option.filter_some, if_neg (by simpa using inBook), Option.bind_some,
        TxRecord.shownIn, if_neg fun shown => inBook shown.1]
      rfl

/-- What a device would know of an id from the response. -/
theorem ledgerOfBootstrap_responseNow (store : PgStore) (rows : List BootstrapRow)
    (out : List BootstrapTransaction) (id : String) :
    ledgerOfBootstrap (store.responseNow rows out) id =
      ((out.find? fun transaction => transaction.id = id).or
        ((rows.find? fun row => row.id = id).map fun row =>
          row.withEntries (store.entriesOf row.id))).map fun transaction =>
        (transaction.version, transaction.entries.map readEntry) := by
  rw [ledgerOfBootstrap, PgStore.responseNow, List.find?_append, List.find?_map]
  rfl

/-- A push leaves what the bootstrap shows of the transactions it does not touch. -/
theorem PgStore.Reads.push {base store later : PgStore} {rows : List BootstrapRow}
    {out : List BootstrapTransaction} (reads : base.Reads bookId store rows out)
    (continues : base.Continues bookId store) (next : store.Continues bookId later) :
    base.Reads bookId later rows out := by
  intro id untouched
  have before := untouched.earlier continues next
  rw [← reads id before]
  have shown := reads id before
  rw [ledgerOfBootstrap_responseNow] at shown ⊢
  rw [ledgerOfBootstrap_responseNow]
  cases read : out.find? fun transaction => transaction.id = id with
  | some transaction => rfl
  | none =>
    cases pending : rows.find? fun row => row.id = id with
    | none => rfl
    | some row =>
      have named : row.id = id := by simpa using List.find?_some pending
      rw [read, pending] at shown
      cases present : base.rowIn bookId id with
      | none =>
        rw [present] at shown
        cases shown
      | some existing =>
        have now : store.transactions.lookup id = some existing :=
          (rowIn_eq_some ((before.rowIn_eq continues).trans present)).1
        have then_ : later.transactions.lookup id = some existing :=
          (rowIn_eq_some ((untouched.rowIn_eq (continues.trans next)).trans present)).1
        rw [Option.map_some, Option.map_some, named, entriesOf, entriesOf, now, then_]

/-- The rows that are listed show what the server holds. -/
theorem PgStore.Reads.list {base store : PgStore} (sound : store.Sound bookId)
    (continues : base.Continues bookId store) :
    base.Reads bookId store (store.bootstrapRows bookId) [] := by
  intro id untouched
  have response : store.responseNow (store.bootstrapRows bookId) [] =
      store.bootstrapTransactions bookId := by
    rw [responseNow, List.nil_append, bootstrapRows, List.map_map, bootstrapTransactions]
    refine List.map_congr_left fun row member => ?_
    obtain ⟨key, stored⟩ := KeyMap.mem_values_iff.mp (List.mem_filter.mp member).1
    have named := sound.regular.constrained.primaryKey key row stored
    rw [Function.comp_apply, BootstrapRow.withEntries, entriesOf, named, stored]
    rfl
  rw [response, ledgerOfBootstrap_eq sound.regular.constrained sound.regular.inRange,
    ← bind_rowIn_shownIn, untouched.rowIn_eq continues]

/-- Reading the entries of the next row changes nothing of the response. -/
theorem PgStore.responseNow_cons (store : PgStore) (row : BootstrapRow)
    (rest : List BootstrapRow) (out : List BootstrapTransaction) :
    store.responseNow rest (out ++ [row.withEntries (store.entriesOf row.id)]) =
      store.responseNow (row :: rest) out := by
  rw [responseNow, responseNow, List.map_cons, List.append_assoc, List.singleton_append]

/-- What every interleaving keeps. -/
structure BootstrapState.Good (state : BootstrapState) : Prop where
  sound : state.server.Sound bookId
  holds : state.progress.Holds bookId state.server

/-- One event keeps what the bootstrap has read. -/
theorem BootstrapState.Good.step {state : BootstrapState} (good : state.Good bookId)
    (event : BootstrapEvent) (allowed : state.Allows bookId event) :
    (state.step bookId event).Good bookId := by
  obtain ⟨sound, holds⟩ := good
  cases event with
  | pushed step =>
    refine ⟨sound.push bookId step allowed, ?_⟩
    have next := pushStepPg_continues bookId state.server step
    simp only [BootstrapState.step]
    cases progress : state.progress with
    | started => trivial
    | counted high =>
      rw [progress] at holds
      obtain ⟨base, cursor⟩ := holds
      exact ⟨base, cursor.sound, cursor.high_eq, cursor.continues.trans next⟩
    | listed high rows =>
      rw [progress] at holds
      obtain ⟨base, cursor, reads⟩ := holds
      exact ⟨base, ⟨cursor.sound, cursor.high_eq, cursor.continues.trans next⟩,
        reads.push bookId cursor.continues next⟩
    | reading high rows out =>
      rw [progress] at holds
      obtain ⟨base, cursor, reads⟩ := holds
      exact ⟨base, ⟨cursor.sound, cursor.high_eq, cursor.continues.trans next⟩,
        reads.push bookId cursor.continues next⟩
  | statement =>
    refine ⟨sound, ?_⟩
    simp only [BootstrapState.step]
    cases progress : state.progress with
    | started => exact ⟨state.server, sound, rfl, PgStore.Continues.refl bookId _⟩
    | counted high =>
      rw [progress] at holds
      obtain ⟨base, cursor⟩ := holds
      exact ⟨base, cursor, PgStore.Reads.list bookId sound cursor.continues⟩
    | listed high rows =>
      rw [progress] at holds
      exact holds
    | reading high rows out =>
      rw [progress] at holds
      cases rows with
      | nil => exact holds
      | cons row rest =>
        obtain ⟨base, cursor, reads⟩ := holds
        refine ⟨base, cursor, fun id untouched => ?_⟩
        rw [PgStore.responseNow_cons]
        exact reads id untouched

end Invariant

/-! ### Catching up -/

section CatchUp

variable [Rfc3339] {bookId : String}

omit [Rfc3339] in
/-- The cursor is the last number of the book. -/
theorem PgStore.le_highWater {store : PgStore} {change : ChangeRecord}
    (member : change ∈ store.changes) (inBook : change.bookId = bookId) :
    change.sequence ≤ store.highWater bookId := by
  have listed : change.sequence ∈ (store.changes.filter fun change =>
      decide (change.bookId = bookId)).map ChangeRecord.sequence :=
    List.mem_map_of_mem (List.mem_filter.mpr ⟨member, by simpa using inBook⟩)
  rw [highWater]
  cases greatest : ((store.changes.filter fun change =>
      decide (change.bookId = bookId)).map ChangeRecord.sequence).max? with
  | none =>
    rw [List.max?_eq_none_iff.mp greatest] at listed
    exact absurd listed List.not_mem_nil
  | some high => exact (List.max?_eq_some_iff.mp greatest).2 _ listed

omit [Rfc3339] in
/-- The cursor is zero or a number of the log. -/
theorem PgStore.highWater_lt {store : PgStore} (ordered : store.Ordered)
    (positive : 0 < store.nextSequence) : store.highWater bookId < store.nextSequence := by
  rw [highWater]
  cases greatest : ((store.changes.filter fun change =>
      decide (change.bookId = bookId)).map ChangeRecord.sequence).max? with
  | none => exact positive
  | some high =>
    obtain ⟨change, member, same⟩ := List.mem_map.mp (List.max?_eq_some_iff.mp greatest).1
    rw [Option.getD_some, ← same]
    exact ordered.below change (List.mem_filter.mp member).1

omit [Rfc3339] in
/-- The changes of the book behind the cursor are those that were added. -/
theorem changes_behind {base store : PgStore} {added : List ChangeRecord}
    (ordered : store.Ordered) (baseOrdered : base.Ordered) (positive : 0 < base.nextSequence)
    (logged : store.changes = base.changes ++ added)
    (numbered : ∀ change ∈ added, base.nextSequence ≤ change.sequence) :
    ((store.bookLog bookId).filter fun change => base.highWater bookId < change.sequence) =
      added.filter fun change => change.bookId = bookId := by
  rw [ordered.bookLog, logged, List.filter_append, List.filter_append]
  have old : ((base.changes.filter fun change => decide (change.bookId = bookId)).filter
      fun change => decide (base.highWater bookId < change.sequence)) = [] := by
    refine List.filter_eq_nil_iff.mpr fun change member => ?_
    obtain ⟨member, inBook⟩ := List.mem_filter.mp member
    have bound := PgStore.le_highWater member (of_decide_eq_true inBook)
    simpa using bound
  have new : ((added.filter fun change => decide (change.bookId = bookId)).filter
      fun change => decide (base.highWater bookId < change.sequence)) =
        added.filter fun change => decide (change.bookId = bookId) := by
    refine List.filter_eq_self.mpr fun change member => decide_eq_true ?_
    exact (PgStore.highWater_lt baseOrdered positive).trans_le
      (numbered change (List.mem_filter.mp member).1)
  rw [old, new, List.nil_append]

/-- Whatever a bootstrap has read by the time it answers, the changes behind its cursor lead to
what the server holds. -/
theorem catchUp_of_reads {base store : PgStore} {high : Int} {out : List BootstrapTransaction}
    (sound : store.Sound bookId) (cursor : PgStore.CursorOf bookId base store high)
    (reads : base.Reads bookId store [] out) (id : String) :
    catchUp out ((store.bookLog bookId).filter fun change => high < change.sequence) id =
      (store.transactions.lookup id).bind (TxRecord.shownIn bookId) := by
  obtain ⟨added, logged, new, -, kept⟩ := cursor.continues
  rw [cursor.high_eq, changes_behind sound.regular.ordered cursor.sound.regular.ordered
    cursor.sound.positive logged fun change member => (new change member).1, catchUp]
  by_cases touched : ∃ change ∈ added, change.Touches bookId id
  · -- The last change of the transaction decides, as it does for the whole log.
    obtain ⟨change, member, inBook, isTransaction, isId⟩ := touched
    rw [← sound.shows id, logged, List.filter_append, ledgerOfLog, List.filter_append,
      KeyedLog.lookup_replay_fate, KeyedLog.fate_append]
    refine KeyedLog.fate_congr_of_mem _ _ ?_ ⟨change, ?_, isId⟩ _ _
    · intro entry listed
      obtain ⟨listed, transaction⟩ := List.mem_filter.mp listed
      exact ChangeRecord.Decides.applyTo_congr (new entry (List.mem_filter.mp listed).1).2
        (of_decide_eq_true transaction)
    · exact List.mem_filter.mpr ⟨List.mem_filter.mpr ⟨member, decide_eq_true inBook⟩,
        decide_eq_true isTransaction⟩
  · -- Nobody wrote the transaction since the cursor was read.
    have others : ∀ change ∈ added, ¬change.Touches bookId id :=
      fun change member touches => touched ⟨change, member, touches⟩
    have untouched : base.Untouched bookId store id := by
      rw [PgStore.Untouched, logged, List.drop_left]
      exact others
    rw [KeyedLog.fate_of_forall_ne, ← bind_rowIn_shownIn, kept id others]
    · have shown := reads id untouched
      rwa [PgStore.responseNow, List.map_nil, List.append_nil] at shown
    · intro change listed isId
      obtain ⟨listed, isTransaction⟩ := List.mem_filter.mp listed
      obtain ⟨member, inBook⟩ := List.mem_filter.mp listed
      exact others change member ⟨of_decide_eq_true inBook, of_decide_eq_true isTransaction, isId⟩

end CatchUp

/-- For every interleaving of the statements of a bootstrap with pushes that update no deleted
transaction of the book: whoever takes the transactions of the response and applies the changes
behind its cursor in order has the live transactions of the server with their versions and
entries, and nothing else. -/
theorem bootstrap_catches_up [Rfc3339] (accounts : KeyMap String AccountRecord) (bookId : String)
    (events : List BootstrapEvent)
    (allowed : Machine.Guarded (BootstrapState.step bookId)
      (fun state event => state.Allows bookId event) ⟨.initial accounts, .started⟩ events)
    {server : PgStore} {high : Int} {out : List BootstrapTransaction}
    (answered : Machine.run (BootstrapState.step bookId) ⟨.initial accounts, .started⟩ events =
      ⟨server, .reading high [] out⟩) (id : String) :
    catchUp out ((server.bookLog bookId).filter fun change => high < change.sequence) id =
      (server.transactions.lookup id).bind (TxRecord.shownIn bookId) := by
  have good : (Machine.run (BootstrapState.step bookId) ⟨.initial accounts, .started⟩ events).Good
      bookId :=
    Machine.guarded_invariant (fun _ event good allows => good.step bookId event allows)
      ⟨PgStore.initial_sound bookId accounts, trivial⟩ allowed
  rw [answered] at good
  obtain ⟨sound, base, cursor, reads⟩ := good
  exact catchUp_of_reads sound cursor reads id

/-! ### A torn response -/

/-- An update of `t1` in book `A` that turns the transfer round. -/
def reversal : PushStep where
  bookId := "A"
  deviceId := "device"
  mutation := ⟨"m2", "transaction", "t1", "update", 1, .obj [("entries", .arr
    [.obj [("accountId", .str "A:cash"), ("amountMinor", .str "100")],
      .obj [("accountId", .str "A:food"), ("amountMinor", .str "-100")]])]⟩
  stamp := ⟨epoch, "m2"⟩
  entriesFit := two_le_isizeMax

/-- A bootstrap of book `A` whose transaction is updated after its row was read and before its
entries are. -/
def tornEvents : List BootstrapEvent :=
  [.pushed (transferStep "A" "m1" "t1" "create" 0 []), .statement, .statement,
    .pushed reversal, .statement, .statement]

/-- Version 1 with the entries of version 2. -/
def tornResponse : List BootstrapTransaction :=
  [⟨"t1", 1, "1970-01-01T00:00:00Z", none, none,
    [.obj [("accountId", .str "A:cash"), ("amountMinor", .str "100"), ("currency", .str "CNY")],
      .obj [("accountId", .str "A:food"), ("amountMinor", .str "-100"),
        ("currency", .str "CNY")]]⟩]

theorem torn_bootstrap_catches_up : let _ := epochClock
    let final := Machine.run (BootstrapState.step "A") ⟨.initial (withAccounts "A" ∅), .started⟩
      tornEvents
    final.progress = .reading 1 [] tornResponse ∧
      catchUp tornResponse ((final.server.bookLog "A").filter fun change => 1 < change.sequence)
        "t1" = (final.server.transactions.lookup "t1").bind (TxRecord.shownIn "A") := by
  intro clock final
  have progress : final.progress = .reading 1 [] tornResponse := rfl
  refine ⟨progress, bootstrap_catches_up (withAccounts "A" ∅) "A" tornEvents ?_ ?_ "t1"⟩
  · refine ⟨?_, trivial, trivial, ?_, trivial, trivial, trivial⟩
    · rintro ⟨-, -, existing, _, _, -, found, -⟩
      simp [PgStore.initial] at found
    · rintro ⟨-, -, existing, _, _, -, found, -, -, -, deleted⟩
      have live : (((pushStepPg (.initial (withAccounts "A" ∅))
          (transferStep "A" "m1" "t1" "create" 0 [])).transactions.lookup "t1").map
            TxRecord.deleted) = some false := by decide
      have stored : (pushStepPg (.initial (withAccounts "A" ∅))
          (transferStep "A" "m1" "t1" "create" 0 [])).transactions.lookup "t1" =
            some existing := found
      rw [stored, Option.map_some, deleted] at live
      cases live
  · rw [← progress]

end Ledgerly
