/-
This file proves when a device that syncs has what the server has.

A device with an empty queue that completes a sync is as far as its page reaches: it has the
book of the server exactly if the page is the last one, every live transaction has the source
that the device knows it under, and no live date falls between two seconds. The rest follows
from the invariant that device and server keep over every run.
-/

import Ledgerly.DeviceActions

namespace Ledgerly

/-! ### What is compared -/

/-- A live transaction: its date in nanoseconds, and its entries with the amounts as
integers. -/
structure LiveTransaction where
  version : Int
  occurredAt : Int
  description : Option String
  source : Option String
  entries : List (String × Option Int × String)
  deriving DecidableEq

/-- A local row as a live transaction. -/
def LocalTransaction.live (row : LocalTransaction) : Option LiveTransaction :=
  if row.deleted then none
  else some ⟨row.version, row.occurredAt * 1000000000, row.description, row.source,
    row.entries.map LocalEntry.read⟩

/-- A stored record as a live transaction of the book, under the account ids of a local book. -/
def TxRecord.liveIn (record : TxRecord) (bookId localBook : String) : Option LiveTransaction :=
  if record.deleted = true ∨ record.bookId ≠ bookId then none
  else some ⟨record.version, record.occurredAt.val, record.description, record.source,
    record.entries.map (StoredEntry.seenFrom bookId localBook)⟩

/-- The live transaction of a device under an id. -/
def Device.live (device : Device) (id : String) : Option LiveTransaction :=
  (device.transactions.lookup id).bind LocalTransaction.live

/-- The live transaction of a book under an id, under the account ids of a local book. -/
def MemoryStore.live (store : MemoryStore) (bookId localBook id : String) :
    Option LiveTransaction :=
  (store.transactions.lookup id).bind fun record => record.liveIn bookId localBook

/-- The device has the live transactions of the book, and its cursor is at the end of the
log. -/
structure Converged (bookId : String) (server : MemoryStore) (device : Device) : Prop where
  live : ∀ id, device.live id = server.live bookId device.bookId id
  cursor : device.cursor = server.lastSequence bookId

/-- A record is live in the book. -/
structure LiveRecord (bookId : String) (server : MemoryStore) (id : String) (record : TxRecord) :
    Prop where
  found : server.transactions.lookup id = some record
  inBook : record.bookId = bookId
  notDeleted : record.deleted = false

/-- What a sync needs to converge: one page, and of every live transaction the source that the
device has and a date of whole seconds. -/
structure Convergent (bookId : String) (server : MemoryStore) (device : Device) : Prop where
  onePage : (selectChanges server.changes bookId device.cursor).length ≤ 500
  sources : ∀ id record, LiveRecord bookId server id record →
    record.source = (device.transactions.lookup id).bind LocalTransaction.source
  seconds : ∀ id record, LiveRecord bookId server id record →
    record.occurredAt.val % 1000000000 = 0

/-! ### One transaction -/

/-- The column holds a date exactly if it is one of whole seconds. -/
theorem dateColumn_eq_iff (nanos : Int) :
    dateColumn (nanos / 1000) * 1000000000 = nanos ↔ nanos % 1000000000 = 0 := by
  unfold dateColumn
  rw [Int.tdiv_eq_ediv, Int.tdiv_eq_ediv]
  constructor
  · intro same
    omega
  · intro whole
    split <;> split <;> omega

section Transaction

variable {bookId id : String} {server : MemoryStore} {device : Device}

/-- A transaction that is as it is stored is seen alike, up to its source and its date. -/
theorem Agrees.live_iff (agrees : Agrees bookId server device id) :
    device.live id = server.live bookId device.bookId id ↔
      ∀ record, LiveRecord bookId server id record →
        record.source = (device.transactions.lookup id).bind LocalTransaction.source ∧
          record.occurredAt.val % 1000000000 = 0 := by
  by_cases stored : StoredIn server bookId id
  · obtain ⟨record, found, inBook⟩ := stored
    obtain ⟨row, known, mirrors⟩ := agrees.mirrored record found inBook
    have onlyRecord : ∀ other, LiveRecord bookId server id other → other = record :=
      fun other live => Option.some.inj (live.found.symm.trans found)
    cases deleted : record.deleted with
    | true =>
      have rowDeleted : row.deleted = true := mirrors.deleted.trans deleted
      refine ⟨fun _ other live => ?_, fun _ => ?_⟩
      · have same := onlyRecord other live
        have notDeleted := live.notDeleted
        rw [same, deleted] at notDeleted
        cases notDeleted
      · rw [Device.live, MemoryStore.live, known, found, Option.bind_some, Option.bind_some,
          LocalTransaction.live, TxRecord.liveIn, if_pos rowDeleted, if_pos (Or.inl deleted)]
    | false =>
      have rowLive : ¬row.deleted = true := by
        rw [mirrors.deleted, deleted]
        decide
      have recordLive : ¬(record.deleted = true ∨ record.bookId ≠ bookId) := by
        rintro (isDeleted | foreign)
        · rw [deleted] at isDeleted
          cases isDeleted
        · exact foreign inBook
      rw [Device.live, MemoryStore.live, known, found, Option.bind_some, Option.bind_some,
        LocalTransaction.live, TxRecord.liveIn, if_neg rowLive, if_neg recordLive,
        mirrors.version, mirrors.description deleted, mirrors.entries deleted,
        mirrors.occurredAt deleted, Option.some.injEq, LiveTransaction.mk.injEq]
      constructor
      · rintro ⟨-, date, -, source, -⟩ other live
        rw [onlyRecord other live]
        exact ⟨source.symm, (dateColumn_eq_iff _).mp date⟩
      · intro same
        obtain ⟨source, date⟩ := same record ⟨found, inBook, deleted⟩
        exact ⟨rfl, (dateColumn_eq_iff _).mpr date, rfl, source.symm, rfl⟩
  · have noRecord : server.live bookId device.bookId id = none := by
      rw [MemoryStore.live, Option.bind_eq_none_iff]
      intro record found
      exact if_pos (Or.inr fun inBook => stored ⟨record, found, inBook⟩)
    rw [Device.live, agrees.absent stored, noRecord]
    exact ⟨fun _ record live => absurd ⟨record, live.found, live.inBook⟩ stored, fun _ => rfl⟩

end Transaction

/-! ### The cursor -/

section Cursor

variable [Rfc3339] {bookId : String} {server : MemoryStore} (log : server.LogOf bookId)
  {cursor : Int}

include log

/-- The rows beyond a cursor of the book end where the book ends. -/
theorem MemoryStore.LogOf.nextCursor_selected
    (reached : cursor = 0 ∨
      ∃ change ∈ server.changes, change.bookId = bookId ∧ change.sequence = cursor) :
    nextCursor cursor (selectChanges server.changes bookId cursor) =
      server.lastSequence bookId := by
  have increasing := log.increasing.filter fun change => change.bookId = bookId
  have selected := log.selected_increasing cursor
  have inBook : ∀ change,
      change ∈ server.changes.filter (fun change => change.bookId = bookId) ↔
        change ∈ server.changes ∧ change.bookId = bookId := fun change => by
    rw [List.mem_filter, decide_eq_true_eq]
  rw [MemoryStore.lastSequence]
  refine le_antisymm ?_ ?_
  · unfold nextCursor
    cases last : (selectChanges server.changes bookId cursor).getLast? with
    | some change =>
      obtain ⟨inLog, ofBook, -⟩ := mem_selectChanges.mp (List.mem_of_getLast? last)
      exact le_nextCursor_of_mem 0 increasing ((inBook change).mpr ⟨inLog, ofBook⟩)
    | none =>
      rcases reached with zero | ⟨change, inLog, ofBook, same⟩
      · rw [zero]
        exact le_nextCursor fun change member => (log.below change ((inBook change).mp member).1).1
      · have atMost := le_nextCursor_of_mem 0 increasing ((inBook change).mpr ⟨inLog, ofBook⟩)
        rwa [same] at atMost
  · unfold nextCursor
    cases last : (server.changes.filter fun change => change.bookId = bookId).getLast? with
    | some change =>
      obtain ⟨inLog, ofBook⟩ := (inBook change).mp (List.mem_of_getLast? last)
      rw [Option.map_some, Option.getD_some]
      by_cases beyond : cursor < change.sequence
      · exact le_nextCursor_of_mem cursor selected
          (mem_selectChanges.mpr ⟨inLog, ofBook, beyond⟩)
      · exact le_trans (not_lt.mp beyond)
          (le_nextCursor fun other member => (mem_selectChanges.mp member).2.2)
    | none =>
      rcases reached with zero | ⟨change, inLog, ofBook, same⟩
      · refine le_trans ?_ (le_nextCursor fun other member => (mem_selectChanges.mp member).2.2)
        rw [zero]
        exact le_refl _
      · have member := (inBook change).mpr ⟨inLog, ofBook⟩
        rw [List.getLast?_eq_none_iff.mp last] at member
        exact absurd member List.not_mem_nil

/-- A page reaches the end of the book exactly if it is the last one. -/
theorem MemoryStore.LogOf.nextCursor_page_iff
    (reached : cursor = 0 ∨
      ∃ change ∈ server.changes, change.bookId = bookId ∧ change.sequence = cursor)
    (limit : Option Nat) :
    nextCursor cursor (pullRowsMem server.changes bookId cursor limit) =
        server.lastSequence bookId ↔
      (selectChanges server.changes bookId cursor).length ≤ pullLimit limit := by
  rw [← log.nextCursor_selected reached, log.pullRowsMem_eq]
  constructor
  · intro same
    by_contra more
    have increasing := log.selected_increasing cursor
    have selected : ∀ change ∈ selectChanges server.changes bookId cursor,
        change.sequence ≤
          nextCursor cursor (selectChanges server.changes bookId cursor) :=
      fun change member => le_nextCursor_of_mem cursor increasing member
    -- the first row behind the page has a larger number than the page ends with
    have behind : pullLimit limit < (selectChanges server.changes bookId cursor).length :=
      not_le.mp more
    have member := List.getElem_mem behind
    have inPage := mem_take_of_le_nextCursor increasing member
      (by rw [same]; exact selected _ member)
    obtain ⟨position, inRange, equal⟩ := List.mem_take_iff_getElem.mp inPage
    have distinct := List.pairwise_iff_getElem.mp increasing position (pullLimit limit)
      (by omega) behind (by omega)
    rw [equal] at distinct
    exact lt_irrefl _ distinct
  · intro fits
    rw [List.take_of_length_le fits]

end Cursor

/-! ### Runs -/

/-- What holds of the server and a device that is bound to the book or to none yet. -/
structure World.Kept [Rfc3339] (bookId : String) (world : World) : Prop where
  log : world.server.LogOf bookId
  inStep : world.device.remoteBookId = none ∨ world.device.remoteBookId = some bookId →
    InStep bookId world.server world.device
  unbound : world.device.remoteBookId = none → world.device.cursor = 0

section Run

variable [Rfc3339] {bookId : String} {world : World}

theorem World.initial_kept (books : KeyMap String BookRecord)
    (accounts : KeyMap String AccountRecord) (deviceId localBook : String)
    (localAccounts : KeyMap String LocalAccount) (bookId : String) :
    World.Kept bookId ⟨MemoryStore.initial books accounts,
      Device.initial deviceId localBook localAccounts⟩ where
  log := MemoryStore.initial_logOf books accounts bookId
  inStep _ := by
    refine ⟨Or.inl rfl, fun id change member => ?_, List.nodup_nil, fun row member => ?_,
      fun id => Or.inr (Or.inl ⟨fun record found => ?_, fun _ => rfl⟩)⟩
    · exact absurd member List.not_mem_nil
    · exact absurd member List.not_mem_nil
    · rw [MemoryStore.initial, AList.lookup_empty] at found
      cases found
  unbound _ := rfl

/-- Harmless steps keep the log of the book. -/
theorem MemoryStore.LogOf.afterRun {server : MemoryStore} {deviceId : String}
    (log : server.LogOf bookId) {steps : List PushStep}
    (guarded : Machine.Guarded pushStep (Benign bookId deviceId) server steps) :
    (Machine.run pushStep server steps).LogOf bookId := by
  have preserved : ∀ (store : MemoryStore) (step : PushStep), store.LogOf bookId →
      Benign bookId deviceId store step → (pushStep store step).LogOf bookId :=
    fun _ _ kept benign => pushStep_logOf kept benign.freshCommit benign.keepsBook
  exact Machine.guarded_invariant preserved log guarded

/-- The device that a sync with a book goes on with: bound to it, at the beginning of the log if
it was bound to none. -/
def Device.boundTo (device : Device) (remoteBookId : String) : Device :=
  match device.remoteBookId with
  | none => { device with
      remoteBookId := some remoteBookId
      cursor := 0 }
  | some _ => device

/-- A sync stops before it begins, or is one of a device bound to the book of the session. -/
theorem Device.syncNow_cases (device : Device) (around : Around) (server : MemoryStore) :
    device.syncNow around server = ⟨[], device, false⟩ ∨
      ∃ remoteBookId, around.session = some remoteBookId ∧
        (device.remoteBookId = none ∨ device.remoteBookId = some remoteBookId) ∧
        device.syncNow around server = (device.boundTo remoteBookId).syncBound remoteBookId
          (device.boundTo remoteBookId).cursor around server := by
  unfold Device.syncNow Device.boundTo
  cases around.session with
  | none => exact Or.inl rfl
  | some remoteBookId =>
    cases device.remoteBookId with
    | none => exact Or.inr ⟨remoteBookId, rfl, Or.inl rfl, rfl⟩
    | some bound =>
      dsimp only
      by_cases other : bound ≠ remoteBookId
      · exact Or.inl (if_pos other)
      · rw [not_not.mp other]
        exact Or.inr ⟨remoteBookId, rfl, Or.inr rfl, if_neg (not_not.mpr rfl)⟩

omit [Rfc3339] in
theorem Device.boundTo_remoteBookId {device : Device} {remoteBookId : String}
    (binds : device.remoteBookId = none ∨ device.remoteBookId = some remoteBookId) :
    (device.boundTo remoteBookId).remoteBookId = some remoteBookId := by
  unfold Device.boundTo
  rcases binds with none | some
  · rw [none]
  · rw [some]
    exact some

omit [Rfc3339] in
/-- Binding a device that has not synced changes nothing but that. -/
theorem Device.boundTo_writesAt {device : Device}
    (start : device.remoteBookId = none → device.cursor = 0) (remoteBookId : String) :
    device.WritesAt "" (device.boundTo remoteBookId) ∧
      (device.boundTo remoteBookId).pending = device.pending ∧
      (device.boundTo remoteBookId).transactions = device.transactions := by
  unfold Device.boundTo
  cases unbound : device.remoteBookId with
  | none =>
    exact ⟨⟨rfl, rfl, (start unbound).symm, fun _ _ => rfl, fun known => known⟩, rfl, rfl⟩
  | some _ => exact ⟨⟨rfl, rfl, rfl, fun _ _ => rfl, fun known => known⟩, rfl, rfl⟩

/-- The device that a sync with the book goes on with is in step. -/
theorem World.Kept.boundTo (kept : world.Kept bookId)
    (binds : world.device.remoteBookId = none ∨ world.device.remoteBookId = some bookId) :
    InStep bookId world.server (world.device.boundTo bookId) := by
  obtain ⟨writes, pending, transactions⟩ := Device.boundTo_writesAt kept.unbound bookId
  have inStep := kept.inStep binds
  refine inStep.ofWrite writes ?_ ?_ ?_ ?_
  · rw [pending]
    exact inStep.distinct
  · rw [pending]
    exact fun row member other isCreate => Or.inl ⟨row, member, isCreate⟩
  · rw [pending]
    refine fun row member lands => ⟨row, member, rfl, lands.isTransaction, lands.fits,
      lands.sendable, ?_⟩
    rw [writes.deviceId]
    exact lands.undecided
  · exact fun agrees => Or.inr (Or.inl (writes.agrees (by rw [transactions]) agrees))

variable [ReadsDates]

/-- A sync keeps what holds. -/
theorem World.Kept.sync (kept : world.Kept bookId) {around : Around}
    (allowed : Allowed bookId world (.sync around)) :
    (worldStep world (.sync around)).Kept bookId := by
  obtain ⟨fresh, notOwn, notOwnBefore, guarded⟩ := allowed
  have log := kept.log.afterRun guarded
  dsimp only [World.served] at guarded log
  rcases world.device.syncNow_cases around world.server with
    stopped | ⟨remoteBookId, -, binds, synced⟩
  · refine ⟨log, ?_, ?_⟩
    · simp only [worldStep, World.served, stopped]
      exact kept.inStep
    · simp only [worldStep, stopped]
      exact kept.unbound
  · obtain ⟨-, -, same⟩ := (world.device.boundTo remoteBookId).syncBound_sameBinding remoteBookId
      (world.device.boundTo remoteBookId).cursor around world.server
    rw [Device.boundTo_remoteBookId binds, ← synced] at same
    refine ⟨log, fun toBook => ?_, fun none => ?_⟩
    · have sameBook : remoteBookId = bookId := by
        dsimp only [worldStep] at toBook
        rw [same] at toBook
        simpa using toBook
      subst sameBook
      obtain ⟨writes, pending, -⟩ := Device.boundTo_writesAt kept.unbound remoteBookId
      simp only [worldStep, World.served, synced] at guarded ⊢
      rw [← writes.deviceId] at notOwn notOwnBefore guarded
      have freshBound : FreshIds remoteBookId
          ⟨world.server, world.device.boundTo remoteBookId⟩ around.newId := by
        refine ⟨fun attempt position => ?_, ?_, fresh.distinct⟩
        · have unanswered := fresh.unanswered attempt position
          unfold Unanswered at unanswered ⊢
          rwa [writes.deviceId]
        · dsimp only
          rw [pending]
          exact fresh.unused
      exact (kept.boundTo binds).afterSync kept.log freshBound notOwn notOwnBefore guarded
    · dsimp only [worldStep] at none
      rw [same] at none
      cases none

/-- Every allowed event keeps what holds. -/
theorem worldStep_kept (kept : world.Kept bookId) {event : WorldEvent}
    (allowed : Allowed bookId world event) : (worldStep world event).Kept bookId := by
  cases event with
  | sync around => exact kept.sync allowed
  | act action =>
    obtain ⟨unanswered, dated⟩ := allowed
    show World.Kept bookId ⟨world.server, (world.device.act action).getD world.device⟩
    cases acted : world.device.act action with
    | none => exact kept
    | some after =>
      have same := Device.act_samePlace acted
      refine ⟨kept.log, fun toBook => ?_, fun none => ?_⟩
      · rw [Option.getD_some, same.binding.remoteBookId] at toBook
        exact (kept.inStep toBook).afterAct kept.log unanswered dated acted
      · rw [Option.getD_some, same.binding.remoteBookId] at none
        exact same.cursor.trans (kept.unbound none)
  | other step =>
    obtain ⟨notOwn, benign⟩ := allowed
    exact ⟨pushStep_logOf kept.log benign.freshCommit benign.keepsBook,
      fun toBook => (kept.inStep toBook).afterOther kept.log notOwn benign, kept.unbound⟩

theorem run_kept (kept : world.Kept bookId) {events : List WorldEvent}
    (allowed : Machine.Guarded worldStep (Allowed bookId) world events) :
    (Machine.run worldStep world events).Kept bookId := by
  have preserved : ∀ (world : World) (event : WorldEvent), world.Kept bookId →
      Allowed bookId world event → (worldStep world event).Kept bookId :=
    fun _ _ kept allowed => worldStep_kept kept allowed
  exact Machine.guarded_invariant preserved kept allowed

end Run

/-! ### A quiet sync -/

section Quiet

variable [Rfc3339] {bookId : String} {server : MemoryStore} {device : Device} {around : Around}

/-- A sync that succeeds with nothing to send, while nobody pushes, applies one page. -/
theorem Device.syncBound_quiet (idle : device.pending = []) (quiet : around.beforePull = [])
    (ok : (device.syncBound bookId device.cursor around server).ok = true) :
    ∃ applied, Device.applyChanges bookId around.now device
        (pullMem server bookId device.cursor (some 500)).changes = .ok applied ∧
      (device.syncBound bookId device.cursor around server).device =
        { applied with cursor := (pullMem server bookId device.cursor (some 500)).nextCursor } := by
  have pushed : device.pushPending bookId around server = ([], .ok device) := if_pos idle
  unfold Device.syncBound at ok ⊢
  simp only [pushed, quiet, List.append_nil, Machine.run_nil] at ok ⊢
  unfold Device.pullChanges at ok ⊢
  split at ok
  · rename_i answered
    rw [if_pos answered]
    dsimp only at ok ⊢
    split at ok
    · cases ok
    · rename_i applied made
      exact ⟨applied, made, rfl⟩
  · cases ok

/-- What a quiet sync of a device in step leads to. -/
theorem InStep.converged_iff [ReadsDates] (inStep : InStep bookId server device)
    (log : server.LogOf bookId) (idle : device.pending = []) (quiet : around.beforePull = [])
    (ok : (device.syncBound bookId device.cursor around server).ok = true) :
    Converged bookId server (device.syncBound bookId device.cursor around server).device ↔
      Convergent bookId server device := by
  obtain ⟨applied, made, after⟩ := Device.syncBound_quiet idle quiet ok
  obtain ⟨sameQueue, keeps⟩ := Device.applyChanges_keeps bookId around.now device
    (pullMem server bookId device.cursor (some 500)).changes
  rw [made, Device.left] at sameQueue keeps
  have final := inStep.afterPull log made idle
  rw [after]
  have atEnd := log.nextCursor_page_iff inStep.reached (some 500)
  -- where the page is the last one, every transaction is as it is stored
  have lives : (selectChanges server.changes bookId device.cursor).length ≤ 500 → ∀ id,
      applied.live id = server.live bookId applied.bookId id ↔
        ∀ record, LiveRecord bookId server id record →
          record.source = (device.transactions.lookup id).bind LocalTransaction.source ∧
            record.occurredAt.val % 1000000000 = 0 := by
    intro onePage id
    rw [← (keeps id).2.1]
    rcases final.covered id with ⟨change, member, beyond⟩ | agrees | ⟨row, member, -⟩
    · obtain ⟨inLog, inBook, -⟩ := MemoryStore.mem_rowsIn.mp member
      have reached := atEnd.mpr onePage
      have atMost := le_nextCursor_of_mem 0
        (log.increasing.filter fun change => change.bookId = bookId)
        (List.mem_filter.mpr ⟨inLog, decide_eq_true inBook⟩)
      dsimp only [pullMem] at beyond
      rw [reached] at beyond
      exact absurd atMost (not_le.mpr beyond)
    · exact Agrees.live_iff ⟨agrees.mirrored, agrees.absent⟩
    · dsimp only at member
      rw [sameQueue.pending, idle] at member
      exact absurd member List.not_mem_nil
  constructor
  · rintro ⟨live, cursor⟩
    have onePage := atEnd.mp cursor
    refine ⟨onePage, fun id record isLive => ?_, fun id record isLive => ?_⟩
    · exact ((lives onePage id).mp (live id) record isLive).1
    · exact ((lives onePage id).mp (live id) record isLive).2
  · rintro ⟨onePage, sources, seconds⟩
    exact ⟨fun id => (lives onePage id).mpr fun record isLive =>
      ⟨sources id record isLive, seconds id record isLive⟩, atEnd.mpr onePage⟩

end Quiet

/-! ### The device converges -/

/-- In every world that is reached by allowed events, a device with nothing to send whose sync
succeeds while nobody pushes has the live transactions of the book and stands at the end of its
log, exactly if the page is the last one, the live transactions have the sources the device
has, and their dates are whole seconds. -/
theorem sync_converges_iff [Rfc3339] [ReadsDates] (books : KeyMap String BookRecord)
    (accounts : KeyMap String AccountRecord) (deviceId localBook : String)
    (localAccounts : KeyMap String LocalAccount) (bookId : String) (events : List WorldEvent)
    (allowed : Machine.Guarded worldStep (Allowed bookId)
      ⟨MemoryStore.initial books accounts, Device.initial deviceId localBook localAccounts⟩ events)
    (around : Around) (toBook : around.session = some bookId) (quiet : around.beforePull = []) :
    let world := Machine.run worldStep
      ⟨MemoryStore.initial books accounts, Device.initial deviceId localBook localAccounts⟩ events
    world.device.pending = [] → (world.device.syncNow around world.server).ok = true →
      (Converged bookId world.server (world.device.syncNow around world.server).device ↔
        Convergent bookId world.server world.device) := by
  intro world idle ok
  have kept : world.Kept bookId :=
    run_kept (World.initial_kept books accounts deviceId localBook localAccounts bookId) allowed
  rcases world.device.syncNow_cases around world.server with
    stopped | ⟨remoteBookId, session, binds, synced⟩
  · rw [stopped] at ok
    cases ok
  · obtain rfl := Option.some.inj (session.symm.trans toBook)
    obtain ⟨writes, pending, transactions⟩ := Device.boundTo_writesAt kept.unbound remoteBookId
    rw [synced] at ok ⊢
    rw [(kept.boundTo binds).converged_iff kept.log (pending.trans idle) quiet ok]
    constructor
    · rintro ⟨onePage, sources, seconds⟩
      rw [writes.cursor] at onePage
      rw [transactions] at sources
      exact ⟨onePage, sources, seconds⟩
    · rintro ⟨onePage, sources, seconds⟩
      rw [← writes.cursor] at onePage
      rw [← transactions] at sources
      exact ⟨onePage, sources, seconds⟩

/-- A sync with a book that nothing comes between. -/
def quietSync (bookId : String) : Around where
  session := some bookId
  now := 0
  stamp _ _ := ⟨epoch, "c"⟩
  newId _ _ := "id"
  others _ _ := []
  cut _ := none
  beforePull := []
  pullAnswered := true

/-- Another device creates a transaction in the book. -/
def createdElsewhere (fields : List (String × Json)) : List WorldEvent :=
  [.other (transferStep "A" "m1" "t1" "create" 0
    (("occurredAt", .str "1970-01-01T00:00:00Z") :: fields))]

/-- A device pulls what another one has created. -/
theorem sync_converges_once :
    let _ := utcClock
    let world := Machine.run worldStep
      ⟨MemoryStore.initial ∅ (withAccounts "A" ∅), Device.initial "phone" "local" ∅⟩
      (createdElsewhere [])
    Converged "A" world.server (world.device.syncNow (quietSync "A") world.server).device := by
  intro clock world
  have readsDates : ReadsDates := utcClock_readsDates
  have allowed : Machine.Guarded worldStep (Allowed "A")
      ⟨MemoryStore.initial ∅ (withAccounts "A" ∅), Device.initial "phone" "local" ∅⟩
      (createdElsewhere []) := by
    have notOwn : ∀ fields, ¬(transferStep "A" "m1" "t1" "create" 0 fields).Own "A" "phone" :=
      fun fields own =>
        absurd own.2 (show ¬("device" : String) = "phone" by decide)
    refine ⟨⟨notOwn _, fun change member => absurd member List.not_mem_nil,
      fun takes => takes.1 rfl, fun own => absurd own (notOwn _)⟩, trivial⟩
  have stored : ∀ id record, LiveRecord "A" world.server id record →
      record.source = none ∧ record.occurredAt.val % 1000000000 = 0 := by
    have all : ∀ record ∈ world.server.transactions.values,
        record.source = none ∧ record.occurredAt.val % 1000000000 = 0 := by decide
    exact fun id record live => all record (KeyMap.mem_values_of_lookup live.found)
  refine (sync_converges_iff ∅ (withAccounts "A" ∅) "phone" "local" ∅ "A" (createdElsewhere [])
    allowed (quietSync "A") rfl rfl rfl (by decide)).mpr ⟨by decide, ?_, ?_⟩
  · exact fun id record live => (stored id record live).1
  · exact fun id record live => (stored id record live).2

/-- The source that another device gave a transaction is not pulled. -/
theorem sync_drops_source :
    let _ := utcClock
    let world := Machine.run worldStep
      ⟨MemoryStore.initial ∅ (withAccounts "A" ∅), Device.initial "phone" "local" ∅⟩
      (createdElsewhere [("source", .str "manual")])
    world.device.pending = [] ∧ world.device.conflicts = [] ∧
      (world.device.syncNow (quietSync "A") world.server).ok = true ∧
      ¬Converged "A" world.server (world.device.syncNow (quietSync "A") world.server).device := by
  intro clock world
  refine ⟨rfl, rfl, by decide, fun converged => ?_⟩
  have different : (world.device.syncNow (quietSync "A") world.server).device.live "t1" ≠
      world.server.live "A" (world.device.syncNow (quietSync "A") world.server).device.bookId
        "t1" := by decide
  exact different (converged.live "t1")
end Ledgerly
