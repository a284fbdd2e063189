/-
This file follows one transaction that a device has created and that nobody deletes: it stays
live on the device, and it is live on the server too or its create is on the way there.

The create is a mutation in the queue, under its first id or a renewed one. The server takes it
when it processes it, or leaves it undecided; no receipt makes the device drop it before the
server has the transaction. Nothing is assumed of what else the device and the server do.
-/

import Ledgerly.DevicePush
import Ledgerly.DevicePull
import Ledgerly.Convergence
import Ledgerly.QueueSound

namespace Ledgerly

/-! ### On the server -/

/-- A step that leaves the transaction in the book and does not delete it. -/
def PushStep.Spares (bookId id : String) (step : PushStep) : Prop :=
  step.mutation.entityType = "transaction" → step.mutation.entityId = id →
    step.bookId = bookId ∧ step.mutation.operation ≠ "delete"

/-- Where the server has the transaction it has it live in the book, and the log of the book does
not delete it. -/
structure Unharmed (bookId id : String) (server : MemoryStore) : Prop where
  records : ∀ record, server.transactions.lookup id = some record →
    record.bookId = bookId ∧ record.deleted = false
  rows : ∀ change ∈ server.rowsIn bookId id, change.operation ≠ "delete"

/-- The server has the transaction. -/
def Stored (id : String) (server : MemoryStore) : Prop :=
  (server.transactions.lookup id).isSome = true

section Server

variable [Rfc3339] {bookId id : String} {server : MemoryStore} {step : PushStep}

omit [Rfc3339] in
/-- A write of the transaction keeps it unharmed if it writes it live in the book. -/
theorem Unharmed.write (unharmed : Unharmed bookId id server) {written : MemoryStore}
    {entityId : String} {record : TxRecord} {row : ChangeRecord}
    (wrote : written.transactions = server.transactions.insert entityId record)
    (appended : written.changes = server.changes ++ [row]) (isRow : row.IsRowOf entityId)
    (live : entityId = id →
      record.bookId = bookId ∧ record.deleted = false ∧ row.operation ≠ "delete") :
    Unharmed bookId id written := by
  refine ⟨fun found lookup => ?_, fun change member => ?_⟩
  · rw [wrote] at lookup
    obtain ⟨rfl, rfl⟩ | ⟨-, old⟩ := KeyMap.lookup_insert_eq_some lookup
    · exact ⟨(live rfl).1, (live rfl).2.1⟩
    · exact unharmed.records found old
  · rw [rowsIn_concat bookId appended] at member
    obtain old | new := List.mem_append.mp member
    · exact unharmed.rows change old
    · split at new
      · rename_i ofId
        rw [List.mem_singleton.mp new]
        exact (live (isRow.2.symm.trans ofId.2.2)).2.2
      · exact absurd new List.not_mem_nil

theorem Unharmed.afterStep (unharmed : Unharmed bookId id server)
    (spares : step.Spares bookId id) : Unharmed bookId id (pushStep server step) := by
  refine pushStep_elim (motive := Unharmed bookId id) step
    (fun _ _ kept => ⟨kept.records, kept.rows⟩) unharmed ?_ ?_ ?_
  · intro existing requestedOccurredAt drafts accepts
    refine unharmed.write rfl rfl ⟨rfl, rfl⟩ fun same => ?_
    exact ⟨(spares accepts.isTransaction same).1, rfl, show "upsert" ≠ "delete" by decide⟩
  · intro existing accepts
    refine unharmed.write rfl rfl ⟨rfl, rfl⟩ fun same => ?_
    exact absurd accepts.isDelete (spares accepts.isTransaction same).2
  · intro record accepts
    refine ⟨unharmed.records, fun change member => ?_⟩
    rw [rowsIn_concat bookId rfl,
      if_neg (by simp [accountChange, ChangeRecord.IsRowOf, MemoryStore.nextChange]),
      List.append_nil] at member
    exact unharmed.rows change member

theorem Stored.afterStep (landed : Stored id server) : Stored id (pushStep server step) := by
  unfold Stored at landed ⊢
  obtain ⟨same, -⟩ | ⟨record, row, writes⟩ := pushStep_tables server step
  · rwa [same]
  · rw [writes.wrote, KeyMap.lookup_insert_eq]
    split
    · rfl
    · exact landed

omit [Rfc3339] in
/-- The transaction is live for the book as soon as the server has it. -/
theorem Stored.live (landed : Stored id server) (unharmed : Unharmed bookId id server)
    (localBook : String) : (server.live bookId localBook id).isSome = true := by
  obtain ⟨record, found⟩ := Option.isSome_iff_exists.mp landed
  obtain ⟨inBook, live⟩ := unharmed.records record found
  rw [MemoryStore.live, found, Option.bind_some, TxRecord.liveIn, if_neg]
  · rfl
  · simp [inBook, live]

end Server

/-! ### A create on its way -/

/-- A payload that the server does not take for a captured payment. -/
def Json.Uncaptured (payload : Json) : Prop :=
  ∀ mutation : SyncMutationDto, mutation.payload = payload → autoLedgerFingerprint mutation = none

/-- A pending create of the transaction that the server will take, or has not been able to decide
on. -/
structure Awaits (bookId id : String) (server : MemoryStore) (device : Device)
    (row : PendingMutationRow) : Prop where
  entity : row.entityId = id
  isCreate : row.operation = "create"
  lands : Lands bookId server device row
  uncaptured : row.payload.Uncaptured

/-- The server has the transaction, or its create is in the queue. -/
def Secured (bookId id : String) (server : MemoryStore) (device : Device) : Prop :=
  Stored id server ∨ ∃ row ∈ device.pending, Awaits bookId id server device row

section Create

variable {bookId id deviceId localBook : String} {server : MemoryStore} {device after : Device}
  {row : PendingMutationRow} {stamp : Stamp} {step : PushStep}

/-- The entries of a payload do not make it a captured payment. -/
theorem Json.Uncaptured.insertEntries {payload : Json} (uncaptured : payload.Uncaptured)
    (entries : Json) : (payload.insert "entries" entries).Uncaptured := by
  intro mutation isPayload
  have same := uncaptured { mutation with payload := payload } rfl
  unfold autoLedgerFingerprint parseSource parseSourceEventFingerprint at same ⊢
  rw [isPayload, Json.get?_insert_of_ne _ _ _ _ (by decide),
    Json.get?_insert_of_ne _ _ _ _ (by decide), Json.get?_insert_of_ne _ _ _ _ (by decide)]
  exact same

theorem LedgerTransaction.updatePayload_uncaptured (tx : LedgerTransaction) :
    tx.updatePayload.Uncaptured := by
  intro mutation isPayload
  unfold autoLedgerFingerprint
  split
  · simp [parseSourceEventFingerprint, isPayload, updatePayload, Json.get?, List.lookup_cons]
  · rfl

/-- The create of a transaction with another source. -/
theorem LedgerTransaction.createPayload_uncaptured {tx : LedgerTransaction}
    {fingerprint : Option String} {source : String} (named : tx.source = some source)
    (other : trim source ≠ "auto_ledger") : (tx.createPayload fingerprint).Uncaptured := by
  intro mutation isPayload
  have present : mutation.payload.get? "source" = some (.str source) := by
    simp [isPayload, createPayload, named, Json.ofOption, Json.get?, List.lookup_cons]
  rw [autoLedgerFingerprint, if_neg]
  unfold parseSource
  rw [present]
  dsimp only
  split
  · intro same
    cases same
  · exact fun same => other (Option.some.inj same)

/-- A pending create is not a duplicate of anything. -/
theorem Awaits.anew (awaits : Awaits bookId id server device row)
    (unharmed : Unharmed bookId id server)
    (made : row.step deviceId localBook bookId stamp = some step) :
    step.mutation.operation = "create" →
      (∀ found, server.transactions.lookup step.mutation.entityId = some found →
        found.bookId = bookId) ∧ server.duplicateOf bookId step.mutation = none := by
  intro isCreate
  have isTransaction := awaits.lands.isTransaction
  have notDelete : row.operation ≠ "delete" := by
    rw [awaits.isCreate]
    decide
  obtain ⟨-, -, -, -, -, -, -, entity⟩ := PendingMutationRow.step_fields made
  obtain ⟨tx, carries, -⟩ := awaits.lands.sendable notDelete
  have payload := PendingMutationRow.step_of_carries localBook bookId made isTransaction notDelete
    carries
  have uncaptured := awaits.uncaptured.insertEntries _ step.mutation payload
  refine ⟨fun found lookup => ?_, ?_⟩
  · rw [entity isTransaction, awaits.entity] at lookup
    exact (unharmed.records found lookup).1
  · rw [MemoryStore.duplicateOf, duplicateIn, uncaptured, Option.bind_none]

/-- A device with the same identity awaits the same. -/
theorem Awaits.congr (awaits : Awaits bookId id server device row)
    (deviceId : after.deviceId = device.deviceId) : Awaits bookId id server after row :=
  ⟨awaits.entity, awaits.isCreate, ⟨awaits.lands.isTransaction, awaits.lands.fits,
    awaits.lands.sendable, by rw [deviceId]; exact awaits.lands.undecided⟩, awaits.uncaptured⟩

end Create

/-! ### Runs of the server -/

section Runs

variable [Rfc3339] {bookId id : String} {server : MemoryStore} {device after : Device}
  {row : PendingMutationRow} {stamp : Stamp} {step : PushStep}

/-- A step keeps the transaction secured if every create that awaits stays undecided or lands. -/
theorem Secured.afterStep (secured : Secured bookId id server device)
    (undecided : ∀ row ∈ device.pending, Awaits bookId id server device row →
      Stored id (pushStep server step) ∨
        ∀ receipt, (pushStep server step).mutations.lookup
          (bookId, device.deviceId, row.mutationId) = some receipt → ¬receipt.GivesUp) :
    Secured bookId id (pushStep server step) device := by
  obtain landed | ⟨row, member, awaits⟩ := secured
  · exact Or.inl landed.afterStep
  · obtain landed | open' := undecided row member awaits
    · exact Or.inl landed
    · by_cases landed : Stored id (pushStep server step)
      · exact Or.inl landed
      · have missing : ¬StoredIn (pushStep server step) bookId row.entityId := by
          rintro ⟨record, found, -⟩
          rw [awaits.entity] at found
          exact landed (Option.isSome_iff_exists.mpr ⟨record, found⟩)
        exact Or.inr ⟨row, member, awaits.entity, awaits.isCreate,
          ⟨awaits.lands.isTransaction, Or.inl ⟨awaits.isCreate, missing⟩, awaits.lands.sendable,
            open'⟩, awaits.uncaptured⟩

/-- A step of another device. -/
theorem Secured.afterOther (secured : Secured bookId id server device)
    (notOwn : ¬step.Own bookId device.deviceId) :
    Secured bookId id (pushStep server step) device := by
  refine secured.afterStep fun row _ awaits => Or.inr fun receipt found => ?_
  have otherKey : (bookId, device.deviceId, row.mutationId) ≠ step.key := by
    intro same
    obtain ⟨book, rest⟩ := Prod.mk.inj same
    exact notOwn ⟨book.symm, (Prod.mk.inj rest).1.symm⟩
  rw [lookup_mutations_of_ne otherKey] at found
  exact awaits.lands.undecided receipt found

/-- The server processes a mutation of the queue. -/
theorem Secured.afterOwn [ReadsDates] (secured : Secured bookId id server device)
    (unharmed : Unharmed bookId id server) (sound : device.QueueSound) (member : row ∈ device.pending)
    (made : row.step device.deviceId device.bookId bookId stamp = some step) :
    Secured bookId id (pushStep server step) device := by
  have key := PendingMutationRow.step_key made
  refine secured.afterStep fun other otherMember awaits => ?_
  by_cases same : other.mutationId = row.mutationId
  · have isRow : other = row := List.inj_on_of_nodup_map sound.distinct otherMember member same
    subst isRow
    rw [← key]
    cases stored : server.mutations.lookup step.key with
    | some receipt =>
      rw [pushStep_replayed stored]
      refine Or.inr fun found lookup => awaits.lands.undecided found ?_
      rw [← key, lookup]
    | none =>
      obtain ⟨record, change, writes⟩ | stays :=
        awaits.lands.processed made stored (awaits.anew unharmed made)
      · obtain ⟨-, -, -, -, -, -, -, entity⟩ := PendingMutationRow.step_fields made
        left
        rw [Stored, writes.wrote, entity awaits.lands.isTransaction, awaits.entity,
          AList.lookup_insert]
        rfl
      · refine Or.inr fun found lookup => ?_
        rw [lookup_mutations_self stored] at lookup
        cases lookup
        exact stays
  · refine Or.inr fun receipt found => ?_
    rw [lookup_mutations_of_ne] at found
    · exact awaits.lands.undecided receipt found
    · rw [key]
      intro equal
      exact same (Prod.mk.inj (Prod.mk.inj equal).2).2

theorem Unharmed.afterRun (unharmed : Unharmed bookId id server) {steps : List PushStep}
    (spare : ∀ step ∈ steps, step.Spares bookId id) :
    Unharmed bookId id (Machine.run pushStep server steps) :=
  Machine.run_invariant_of_mem (fun _ step member kept => kept.afterStep (spare step member))
    unharmed

theorem Secured.afterOthers (secured : Secured bookId id server device) {steps : List PushStep}
    (notOwn : ∀ step ∈ steps, ¬step.Own bookId device.deviceId) :
    Secured bookId id (Machine.run pushStep server steps) device :=
  @Machine.run_invariant_of_mem _ _ pushStep (fun server => Secured bookId id server device) steps
    (fun _ step member kept => kept.afterOther (notOwn step member)) server secured

/-- Mutations of the queue among those of other devices. -/
theorem Secured.afterInterleaved [ReadsDates] (secured : Secured bookId id server device)
    (unharmed : Unharmed bookId id server) (sound : device.QueueSound)
    {others : Nat → List PushStep}
    (notOwn : ∀ position, ∀ step ∈ others position, ¬step.Own bookId device.deviceId)
    {steps : List PushStep}
    (own : ∀ step ∈ steps, ∃ row ∈ device.pending, ∃ stamp,
      row.step device.deviceId device.bookId bookId stamp = some step) (position : Nat)
    (spare : ∀ step ∈ interleaved others position steps, step.Spares bookId id) :
    Secured bookId id (Machine.run pushStep server (interleaved others position steps)) device := by
  induction steps generalizing server position with
  | nil => exact secured
  | cons step rest inductionHypothesis =>
    rw [interleaved] at spare ⊢
    obtain ⟨before, spares⟩ := List.forall_mem_append.mp spare
    obtain ⟨mine, later⟩ := List.forall_mem_cons.mp spares
    obtain ⟨row, member, stamp, made⟩ := own step List.mem_cons_self
    have reached := unharmed.afterRun before
    rw [Machine.run_append, Machine.run_cons]
    exact inductionHypothesis
      ((secured.afterOthers (notOwn position)).afterOwn reached sound member made)
      (reached.afterStep mine) (fun other otherMember => own other (List.mem_cons_of_mem _ otherMember))
      (position + 1) later

end Runs

/-! ### The receipts -/

section Receipts

variable {bookId id : String} {server : MemoryStore} {device after : Device}

/-- Working through a receipt that the server has stored drops no create that awaits. -/
theorem Secured.afterReceipt (secured : Secured bookId id server device) (sound : device.QueueSound)
    {receipt : MutationReceiptDto} {newId : String} (same : device.SameBooks after)
    (effect : QueueEffect device receipt newId after)
    (answered : server.mutations.lookup (bookId, device.deviceId, receipt.mutationId) =
      some receipt.stored)
    (spare : Unanswered bookId server device newId) : Secured bookId id server after := by
  obtain landed | ⟨row, member, awaits⟩ := secured
  · exact Or.inl landed
  · right
    cases effect with
    | kept unchanged =>
      rw [unchanged]
      exact ⟨row, member, awaits.congr same.deviceId⟩
    | dropped givesUp left =>
      rw [left]
      refine ⟨row, List.mem_filter.mpr ⟨member, decide_eq_true fun named => ?_⟩,
        awaits.congr same.deviceId⟩
      exact awaits.lands.undecided receipt.stored (by rw [named, answered]) givesUp
    | renewed old new oldMember named renews free left =>
      rw [left]
      by_cases here : row.mutationId = receipt.mutationId
      · have isOld : row = old :=
          List.inj_on_of_nodup_map sound.distinct member oldMember (here.trans named.symm)
        subst isOld
        obtain ⟨entity, lands⟩ := awaits.lands.renewed same renews spare
        obtain ⟨-, -, operation, -, payload⟩ := renews.same.resolve_right fun accounts => by
          have := awaits.lands.isTransaction.symm.trans accounts.1
          exact absurd this (by decide)
        refine ⟨new, List.mem_map.mpr ⟨row, member, if_pos here⟩, entity.trans awaits.entity,
          operation.trans awaits.isCreate, lands, ?_⟩
        rw [payload]
        exact awaits.uncaptured
      · exact ⟨row, List.mem_map.mpr ⟨row, member, if_neg here⟩, awaits.congr same.deviceId⟩

theorem Secured.afterReceipts {pending : List PendingMutationRow} {rejected : List String}
    {newId : Nat → String} {receipts : List MutationReceiptDto}
    (secured : Secured bookId id server device) (sound : device.QueueSound)
    (answered : ∀ receipt ∈ receipts,
      server.mutations.lookup (bookId, device.deviceId, receipt.mutationId) = some receipt.stored)
    (spare : ∀ position, Unanswered bookId server device (newId position)) (position : Nat) :
    Secured bookId id server
      (Device.left (Device.handleReceipts pending rejected newId position device receipts)) := by
  induction receipts generalizing device position with
  | nil => exact secured
  | cons receipt rest inductionHypothesis =>
    rw [Device.handleReceipts]
    cases handled : device.handleReceipt pending rejected (newId position) receipt with
    | none => exact secured
    | some worked =>
      obtain ⟨same, effect⟩ := Device.handleReceipt_effect handled
      refine inductionHypothesis (secured.afterReceipt sound same effect
        (answered receipt List.mem_cons_self) (spare position)) (sound.handleReceipt handled)
        (fun other member => ?_) (fun later => ?_) (position + 1)
      · rw [same.deviceId]
        exact answered other (List.mem_cons_of_mem _ member)
      · unfold Unanswered
        rw [same.deviceId]
        exact spare later

end Receipts

/-! ### A push -/

section Push

variable [Rfc3339] {bookId id : String} {server : MemoryStore} {device : Device} {around : Around}

omit [Rfc3339] in
/-- The mutations of an attempt to push that are the device's own are those of its queue. -/
theorem Device.mem_pending_of_sent {remoteBookId : String} {attempt : Nat} {steps : List PushStep}
    (made : (device.pending.zipIdx.mapM fun row =>
      row.1.step device.deviceId device.bookId remoteBookId (around.stamp attempt row.2)) =
        some steps) :
    ∀ step ∈ steps, ∃ row ∈ device.pending, ∃ stamp,
      row.step device.deviceId device.bookId remoteBookId stamp = some step := by
  intro step member
  obtain ⟨row, rowMember, sent⟩ := List.exists_of_mapM_eq_some made member
  exact ⟨row.1, List.fst_mem_of_mem_zipIdx rowMember, _, sent⟩

/-- An attempt to push keeps the transaction secured, whether it succeeds or not. -/
theorem Secured.afterAttempt [ReadsDates] (secured : Secured bookId id server device)
    (unharmed : Unharmed bookId id server) (sound : device.QueueSound) {attempt : Nat}
    (spare : ∀ position, Unanswered bookId server device (around.newId attempt position))
    (unused : ∀ position, ∀ row ∈ device.pending,
      row.mutationId ≠ around.newId attempt position)
    (notOwn : ∀ position, ∀ step ∈ around.others attempt position,
      ¬step.Own bookId device.deviceId)
    (spares : ∀ step ∈ (device.pushAttempt bookId around attempt server).served,
      step.Spares bookId id) :
    Secured bookId id
      (Machine.run pushStep server (device.pushAttempt bookId around attempt server).served)
      (Device.left (device.pushAttempt bookId around attempt server).result) := by
  have ids := Device.pushAttempt_ids server notOwn
  unfold Device.pushAttempt at spares ids ⊢
  split
  · exact secured
  · rename_i steps made
    simp only [made] at spares ids
    have queued := Device.mem_pending_of_sent made
    split
    · rename_i count cut
      simp only [cut] at spares
      exact secured.afterInterleaved unharmed sound notOwn
        (fun step member => queued step (List.mem_of_mem_take member)) 0 spares
    · rename_i answered
      simp only [answered] at spares ids
      have kept := secured.afterInterleaved unharmed sound notOwn queued 0 spares
      have own : ∀ step ∈ steps, step.Own bookId device.deviceId := by
        intro step member
        obtain ⟨row, -, stamp, sent⟩ := queued step member
        obtain ⟨book, deviceId, -⟩ := PendingMutationRow.step_fields sent
        exact ⟨book, deviceId⟩
      exact kept.afterReceipts sound (answered_receiptsAmong own 0 server)
        (fun position => (spare position).afterRun ids (unused position)) 0

/-- An attempt leaves the ids of the queue, and new ones. -/
theorem Device.pushAttempt_left_ids (device : Device) (bookId : String) (around : Around)
    (attempt : Nat) (server : MemoryStore) :
    ∀ row ∈ (Device.left (device.pushAttempt bookId around attempt server).result).pending,
      (∃ old ∈ device.pending, old.mutationId = row.mutationId) ∨
        ∃ position, row.mutationId = around.newId attempt position := by
  unfold Device.pushAttempt
  split
  · exact fun row member => Or.inl ⟨row, member, rfl⟩
  · split
    · exact fun row member => Or.inl ⟨row, member, rfl⟩
    · exact Device.handleReceipts_ids _ _ _ _ 0

theorem Device.QueueSound.pushAttempt (sound : device.QueueSound) (bookId : String)
    (around : Around) (attempt : Nat) (server : MemoryStore) :
    (Device.left (device.pushAttempt bookId around attempt server).result).QueueSound := by
  unfold Device.pushAttempt
  split
  · exact sound
  · split
    · exact sound
    · exact sound.handleReceipts _ _ _ 0 _

/-- The push keeps the transaction secured, whether it succeeds or not. -/
theorem Secured.afterPush [ReadsDates] (secured : Secured bookId id server device)
    (unharmed : Unharmed bookId id server) (sound : device.QueueSound)
    (fresh : FreshIds bookId ⟨server, device⟩ around.newId)
    (notOwn : ∀ attempt position, ∀ step ∈ around.others attempt position,
      ¬step.Own bookId device.deviceId) :
    (∀ step ∈ (device.pushPending bookId around server).1, step.Spares bookId id) →
      Secured bookId id
        (Machine.run pushStep server (device.pushPending bookId around server).1)
        (Device.left (device.pushPending bookId around server).2) := by
  have firstKeeps := secured.afterAttempt unharmed sound (fresh.unanswered 0) (fresh.unused 0)
    (notOwn 0)
  refine Device.pushPending_elim (motive := fun outcome =>
      (∀ step ∈ outcome.1, step.Spares bookId id) →
        Secured bookId id (Machine.run pushStep server outcome.1) (Device.left outcome.2))
    device around server ?_ ?_ ?_
  · exact fun _ _ => secured
  · rintro first rfl spares
    exact firstKeeps spares
  · intro first second pushed isFirst worked isSecond result same spares
    obtain ⟨sparesFirst, sparesSecond⟩ := List.forall_mem_append.mp spares
    have sameBooks := Device.pushAttempt_sameBooks device bookId around 0 server
    have ids := Device.pushAttempt_left_ids device bookId around 0 server
    have queue := sound.pushAttempt bookId around 0 server
    have own := Device.pushAttempt_ids server (notOwn 0)
    rw [← isFirst] at firstKeeps sameBooks own ids queue
    have kept := firstKeeps sparesFirst
    simp only [worked, Device.left] at sameBooks kept ids queue
    obtain ⟨spare, unused⟩ := fresh.afterFirst sameBooks own ids
    rw [isSecond] at sparesSecond
    rw [same, isSecond, Machine.run_append]
    exact kept.afterAttempt (unharmed.afterRun sparesFirst) queue spare unused
      (by rw [sameBooks.deviceId]; exact notOwn 1) sparesSecond

end Push

/-! ### A pull -/

section Pull

variable {bookId id : String} {device after : Device} {change : ChangeRecord} {now : Int}

theorem Device.isSome_live :
    (device.live id).isSome = true ↔
      ∃ row, device.transactions.lookup id = some row ∧ row.deleted = false := by
  unfold Device.live LocalTransaction.live
  cases found : device.transactions.lookup id with
  | none => simp
  | some row => cases deleted : row.deleted <;> simp [deleted]

/-- A transaction is live if it is written so, or was live and is not written. -/
theorem Device.live_insert {other : String} {row : LocalTransaction}
    (live : (device.live id).isSome = true) (written : id = other → row.deleted = false) :
    (({ device with transactions := device.transactions.insert other row } : Device).live
      id).isSome = true := by
  obtain ⟨known, found, notDeleted⟩ := isSome_live.mp live
  rw [isSome_live]
  dsimp only
  rw [KeyMap.lookup_insert_eq]
  split
  · rename_i same
    exact ⟨row, rfl, written same⟩
  · exact ⟨known, found, notDeleted⟩

/-- A change that is no delete of the transaction leaves it live. -/
theorem Device.live_applyChange (live : (device.live id).isSome = true)
    (keeps : change.IsRowOf id → change.operation ≠ "delete")
    (applied : device.applyChange bookId now change = some after) :
    (after.live id).isSome = true := by
  unfold Device.applyChange at applied
  split at applied
  · obtain ⟨payload, -, written⟩ := Option.bind_eq_some_iff.mp applied
    unfold Device.applyRemoteAccountUpsert at written
    split at written
    · cases written
      exact live
    · cases written
  · split at applied
    · cases applied
      exact live
    · rename_i isTransaction
      split at applied
      · obtain ⟨payload, -, written⟩ := Option.bind_eq_some_iff.mp applied
        obtain ⟨row, read, rfl⟩ := Option.map_eq_some_iff.mp written
        refine Device.live_insert live fun _ => ?_
        unfold remoteTransaction at read
        split at read
        · cases read
          rfl
        · cases read
      · split at applied
        · rename_i isDelete
          cases applied
          unfold Device.applyRemoteDelete
          split
          · exact live
          · refine Device.live_insert live fun same => ?_
            exact absurd isDelete (keeps ⟨not_not.mp isTransaction, same.symm⟩)
        · cases applied
          exact live

theorem Device.live_applyChanges (bookId : String) (now : Int)
    (live : (device.live id).isSome = true) {changes : List ChangeRecord}
    (keep : ∀ change ∈ changes, change.IsRowOf id → change.operation ≠ "delete") :
    ((Device.left (Device.applyChanges bookId now device changes)).live id).isSome = true := by
  induction changes generalizing device with
  | nil => exact live
  | cons change rest inductionHypothesis =>
    obtain ⟨first, later⟩ := List.forall_mem_cons.mp keep
    rw [Device.applyChanges]
    cases applied : device.applyChange bookId now change with
    | none => exact live
    | some next => exact inductionHypothesis (Device.live_applyChange live first applied) later

/-- What is pulled does not delete a transaction that the log does not delete. -/
theorem Unharmed.pulled [Rfc3339] {server : MemoryStore} (unharmed : Unharmed bookId id server)
    (cursor : Int) (limit : Option Nat) :
    ∀ change ∈ (pullMem server bookId cursor limit).changes,
      change.IsRowOf id → change.operation ≠ "delete" := by
  obtain ⟨occurredAt, changes⟩ := pullMem_changes server bookId cursor limit
  rw [changes]
  refine List.forall_mem_map.mpr fun change member isRow => ?_
  have same : (change.backfilled (occurredAt change)).operation = change.operation ∧
      (change.backfilled (occurredAt change)).IsRowOf id = change.IsRowOf id := by
    unfold ChangeRecord.backfilled
    split
    · split
      · exact ⟨rfl, rfl⟩
      · exact ⟨rfl, rfl⟩
    · exact ⟨rfl, rfl⟩
  have selected : change ∈ selectChanges server.changes bookId cursor :=
    (Paging.page_prefix _ _ _).subset member
  obtain ⟨inLog, inBook, -⟩ := mem_selectChanges.mp selected
  rw [same.1]
  rw [same.2] at isRow
  exact unharmed.rows change (List.mem_filter.mpr ⟨inLog, decide_eq_true ⟨inBook, isRow⟩⟩)

end Pull

/-! ### A sync -/

section Sync

variable {bookId id : String} {server : MemoryStore} {device after : Device} {around : Around}

/-- A device with the same queue keeps the transaction secured. -/
theorem Secured.congr (secured : Secured bookId id server device)
    (pending : after.pending = device.pending) (deviceId : after.deviceId = device.deviceId) :
    Secured bookId id server after := by
  refine secured.imp_right fun ⟨row, member, awaits⟩ => ⟨row, ?_, awaits.congr deviceId⟩
  rwa [pending]

theorem Device.live_congr (same : after.transactions = device.transactions) :
    after.live id = device.live id := by
  rw [Device.live, Device.live, same]

/-- What the device needs of a sync to keep a transaction. -/
structure KeepingSync [Rfc3339] (bookId id : String) (server : MemoryStore) (device : Device)
    (around : Around) (served : List PushStep) : Prop where
  fresh : FreshIds bookId ⟨server, device⟩ around.newId
  notOwn : ∀ attempt position, ∀ step ∈ around.others attempt position,
    ¬step.Own bookId device.deviceId
  notOwnBefore : ∀ step ∈ around.beforePull, ¬step.Own bookId device.deviceId
  spares : ∀ step ∈ served, step.Spares bookId id

variable [Rfc3339]

/-- A pull leaves the queue alone and the transaction live. -/
theorem Device.pullChanges_keeps (live : (device.live id).isSome = true)
    (unharmed : Unharmed bookId id server) (cursor : Int) (around : Around) :
    (device.pullChanges bookId cursor around server).1.pending = device.pending ∧
      (device.pullChanges bookId cursor around server).1.deviceId = device.deviceId ∧
      ((device.pullChanges bookId cursor around server).1.live id).isSome = true := by
  have keeps := (Device.applyChanges_keeps bookId around.now device
    (pullMem server bookId cursor (some 500)).changes).1
  have stays := Device.live_applyChanges bookId around.now live
    (unharmed.pulled cursor (some 500))
  unfold Device.pullChanges
  split
  · dsimp only
    split
    · rename_i thrown failed
      rw [failed] at keeps stays
      exact ⟨keeps.pending, keeps.deviceId, stays⟩
    · rename_i applied made
      rw [made] at keeps stays
      exact ⟨keeps.pending, keeps.deviceId, stays⟩
  · exact ⟨rfl, rfl, live⟩

/-- A sync with the book keeps the transaction live and secured. -/
theorem Secured.afterSync [ReadsDates] (secured : Secured bookId id server device)
    (unharmed : Unharmed bookId id server) (sound : device.QueueSound)
    (live : (device.live id).isSome = true) (cursor : Int)
    (keeping : KeepingSync bookId id server device around
      (device.syncBound bookId cursor around server).served) :
    ((device.syncBound bookId cursor around server).device.live id).isSome = true ∧
      Secured bookId id
        (Machine.run pushStep server (device.syncBound bookId cursor around server).served)
        (device.syncBound bookId cursor around server).device := by
  obtain ⟨fresh, notOwn, notOwnBefore, spares⟩ := keeping
  have pushed := secured.afterPush unharmed sound fresh notOwn
  have sameBooks := Device.pushPending_sameBooks device bookId around server
  unfold Device.syncBound at spares ⊢
  split
  · rename_i served thrown failed
    simp only [failed, Device.left] at spares pushed sameBooks
    refine ⟨?_, pushed spares⟩
    rw [Device.live_congr sameBooks.transactions]
    exact live
  · rename_i served left worked
    simp only [worked, Device.left] at spares pushed sameBooks
    obtain ⟨sparesPush, -⟩ := List.forall_mem_append.mp spares
    have stillLive : (left.live id).isSome = true := by
      rw [Device.live_congr sameBooks.transactions]
      exact live
    obtain ⟨pending, deviceId, pulledLive⟩ := Device.pullChanges_keeps stillLive
      (unharmed.afterRun spares) cursor around
    refine ⟨pulledLive, Secured.congr ?_ pending deviceId⟩
    rw [Machine.run_append]
    refine (pushed sparesPush).afterOthers fun step member => ?_
    rw [sameBooks.deviceId]
    exact notOwnBefore step member

end Sync

/-! ### What the user does -/

/-- An action that does not delete the transaction, and writes it with a date that RFC 3339 can
write. -/
def DeviceAction.Spares (id : String) : DeviceAction → Prop
  | .update tx _ _ => tx.id = id → (timestampOf tx.occurredAt).isSome = true
  | .delete txId _ => txId ≠ id
  | _ => True

section Act

variable {bookId id : String} {server : MemoryStore} {device after : Device}

/-- A row that joins the queue leaves the others in it. -/
theorem Device.queue_keeps {row : PendingMutationRow} (queued : device.queue row = some after) :
    after.deviceId = device.deviceId ∧ after.transactions = device.transactions ∧
      ∀ other ∈ device.pending, other ∈ after.pending := by
  obtain ⟨-, rfl⟩ := Device.queue_eq_some queued
  exact ⟨rfl, rfl, fun other member => List.mem_append_left _ member⟩

/-- A device with the rows of another one keeps the transaction secured. -/
theorem Secured.grow (secured : Secured bookId id server device)
    (deviceId : after.deviceId = device.deviceId)
    (rows : ∀ row ∈ device.pending, row ∈ after.pending) : Secured bookId id server after :=
  secured.imp_right fun ⟨row, member, awaits⟩ => ⟨row, rows row member, awaits.congr deviceId⟩

/-- A write of a transaction together with its mutation. -/
theorem Secured.afterWrite (secured : Secured bookId id server device)
    (live : (device.live id).isSome = true) {other : String} {written : LocalTransaction}
    {row : PendingMutationRow}
    (queued : ({ device with transactions := device.transactions.insert other written } :
      Device).queue row = some after)
    (stays : id = other → written.deleted = false) :
    (after.live id).isSome = true ∧ Secured bookId id server after := by
  obtain ⟨deviceId, transactions, rows⟩ := Device.queue_keeps queued
  refine ⟨?_, secured.grow deviceId rows⟩
  rw [Device.live_congr transactions]
  exact Device.live_insert live stays

/-- A mutation of an account or of a conflict. -/
theorem Secured.afterQueue (secured : Secured bookId id server device)
    (live : (device.live id).isSome = true) {changed : Device} {row : PendingMutationRow}
    (queued : changed.queue row = some after) (deviceId : changed.deviceId = device.deviceId)
    (transactions : changed.transactions = device.transactions)
    (pending : changed.pending = device.pending) :
    (after.live id).isSome = true ∧ Secured bookId id server after := by
  obtain ⟨sameDevice, same, rows⟩ := Device.queue_keeps queued
  rw [pending] at rows
  refine ⟨?_, secured.grow (sameDevice.trans deviceId) rows⟩
  rw [Device.live_congr (same.trans transactions)]
  exact live

/-- An edit that a pending create takes in. -/
theorem Secured.afterCoalesce (secured : Secured bookId id server device)
    (sound : device.QueueSound) {tx : LedgerTransaction} {written : LocalTransaction}
    (dated : tx.id = id → (timestampOf tx.occurredAt).isSome = true)
    {pendingCreate : PendingMutationRow} (member : pendingCreate ∈ device.pending)
    (isCreate : pendingCreate.Creates tx.id) :
    Secured bookId id server
      { device with
        transactions := device.transactions.insert tx.id written
        pending := device.pending.map fun row =>
          if row.mutationId = pendingCreate.mutationId then
            { row with
              payload := tx.updatePayload
              entriesFit := tx.updatePayload_fits }
          else row } := by
  obtain landed | ⟨row, rowMember, awaits⟩ := secured
  · exact Or.inl landed
  · refine Or.inr ⟨_, List.mem_map.mpr ⟨row, rowMember, rfl⟩, ?_⟩
    split
    · rename_i same
      have isRow : row = pendingCreate :=
        List.inj_on_of_nodup_map sound.distinct rowMember member same
      subst isRow
      have ofId : tx.id = id := isCreate.2.1.symm.trans awaits.entity
      exact ⟨awaits.entity, awaits.isCreate, ⟨awaits.lands.isTransaction, awaits.lands.fits,
        fun _ => ⟨tx, tx.updatePayload_carries, dated ofId⟩, awaits.lands.undecided⟩,
        tx.updatePayload_uncaptured⟩
    · exact awaits.congr rfl

theorem Secured.afterAct (secured : Secured bookId id server device) (sound : device.QueueSound)
    (live : (device.live id).isSome = true) {action : DeviceAction} (spares : action.Spares id)
    (acted : device.act action = some after) :
    (after.live id).isSome = true ∧ Secured bookId id server after := by
  cases Device.act_effect acted with
  | saved fresh _ _ _ queued => exact secured.afterWrite live queued fun _ => fresh
  | updated undeleted _ _ _ queued => exact secured.afterWrite live queued fun _ => undeleted
  | coalesced undeleted member creates isAfter =>
    subst isAfter
    exact ⟨Device.live_insert live fun _ => undeleted,
      secured.afterCoalesce sound spares member creates⟩
  | deleted _ _ _ queued => exact secured.afterWrite live queued fun same => absurd same.symm spares
  | account _ _ queued => exact secured.afterQueue live queued rfl rfl rfl
  | unresolved same => exact same ▸ ⟨live, secured⟩
  | kept _ _ queued => exact secured.afterQueue live queued rfl rfl rfl
  | dropped isAfter =>
    subst isAfter
    exact ⟨live, secured.congr rfl rfl⟩

end Act

/-! ### The run -/

/-- The transaction is live on the device, and the server has it or will get it, as long as the
device syncs with the book. -/
structure World.Keeps (bookId id : String) (world : World) : Prop where
  unharmed : Unharmed bookId id world.server
  sound : world.device.QueueSound
  secured : world.device.remoteBookId = none ∨ world.device.remoteBookId = some bookId →
    (world.device.live id).isSome = true ∧ Secured bookId id world.server world.device

section Run

variable [Rfc3339] {bookId id : String} {world : World}

/-- An event that keeps the transaction. -/
def SparesEvent (bookId id : String) (world : World) : WorldEvent → Prop
  | .act action => action.Spares id
  | .sync around => KeepingSync bookId id world.server world.device around
      (world.served (.sync around))
  | .other step => ¬step.Own bookId world.device.deviceId ∧ step.Spares bookId id

omit [Rfc3339] in
theorem Device.boundTo_keeps (device : Device) (remoteBookId : String) :
    (device.boundTo remoteBookId).deviceId = device.deviceId ∧
      (device.boundTo remoteBookId).pending = device.pending ∧
      (device.boundTo remoteBookId).accounts = device.accounts ∧
      (device.boundTo remoteBookId).transactions = device.transactions := by
  unfold Device.boundTo
  split <;> exact ⟨rfl, rfl, rfl, rfl⟩

theorem World.Keeps.sync [ReadsDates] (keeps : world.Keeps bookId id) {around : Around}
    (spares : SparesEvent bookId id world (.sync around)) :
    (worldStep world (.sync around)).Keeps bookId id := by
  obtain ⟨unharmed, sound, secured⟩ := keeps
  refine ⟨unharmed.afterRun spares.spares, sound.syncNow around world.server, ?_⟩
  obtain stopped | ⟨remoteBookId, -, binds, synced⟩ :=
    world.device.syncNow_cases around world.server
  · simp only [worldStep, World.served, stopped]
    exact secured
  · obtain ⟨-, -, same⟩ := (world.device.boundTo remoteBookId).syncBound_sameBinding remoteBookId
      (world.device.boundTo remoteBookId).cursor around world.server
    rw [Device.boundTo_remoteBookId binds, ← synced] at same
    intro toBook
    have sameBook : remoteBookId = bookId := by
      dsimp only [worldStep] at toBook
      rw [same] at toBook
      simpa using toBook
    subst sameBook
    obtain ⟨live, holds⟩ := secured binds
    obtain ⟨deviceId, pending, accounts, transactions⟩ :=
      world.device.boundTo_keeps remoteBookId
    obtain ⟨fresh, notOwn, notOwnBefore, spares⟩ := spares
    simp only [worldStep, World.served, synced] at spares ⊢
    refine (holds.congr pending deviceId).afterSync unharmed (sound.congr pending ?_) ?_ _
      ⟨⟨fun attempt position => ?_, ?_, fresh.distinct⟩, ?_, ?_, spares⟩
    · rw [accounts]
      exact fun _ known => known
    · rw [Device.live_congr transactions]
      exact live
    · have unanswered := fresh.unanswered attempt position
      unfold Unanswered at unanswered ⊢
      rwa [deviceId]
    · dsimp only
      rw [pending]
      exact fresh.unused
    · rw [deviceId]
      exact notOwn
    · rw [deviceId]
      exact notOwnBefore

/-- Every event that spares the transaction keeps it. -/
theorem worldStep_keeps [ReadsDates] (keeps : world.Keeps bookId id) {event : WorldEvent}
    (spares : SparesEvent bookId id world event) : (worldStep world event).Keeps bookId id := by
  cases event with
  | sync around => exact keeps.sync spares
  | act action =>
    show World.Keeps bookId id ⟨world.server, (world.device.act action).getD world.device⟩
    cases acted : world.device.act action with
    | none => exact keeps
    | some after =>
      refine ⟨keeps.unharmed, keeps.sound.act acted, fun toBook => ?_⟩
      have place := Device.act_samePlace acted
      dsimp only [Option.getD_some] at toBook
      rw [place.binding.remoteBookId] at toBook
      obtain ⟨live, secured⟩ := keeps.secured toBook
      exact secured.afterAct keeps.sound live spares acted
  | other step =>
    obtain ⟨notOwn, spares⟩ := spares
    refine ⟨keeps.unharmed.afterStep spares, keeps.sound, fun toBook => ?_⟩
    obtain ⟨live, secured⟩ := keeps.secured toBook
    exact ⟨live, secured.afterOther notOwn⟩

omit [Rfc3339] in
theorem Device.QueueSound.save {device after : Device} (sound : device.QueueSound)
    {tx : LedgerTransaction} {mutationId : String} {fingerprint : Option String}
    (saved : device.saveDomainTransaction tx mutationId fingerprint = some after) :
    after.QueueSound :=
  sound.act (show device.act (.save tx mutationId fingerprint) = some after from saved)

omit [Rfc3339] in
/-- A transaction that is new everywhere is kept from its save on. -/
theorem World.Keeps.ofSave (sound : world.device.QueueSound) {tx : LedgerTransaction}
    {mutationId source : String} {fingerprint : Option String} {after : Device}
    (unanswered : Unanswered bookId world.server world.device mutationId)
    (missing : world.server.transactions.lookup tx.id = none)
    (unlogged : world.server.rowsIn bookId tx.id = [])
    (dated : (timestampOf tx.occurredAt).isSome = true) (named : tx.source = some source)
    (other : trim source ≠ "auto_ledger")
    (saved : world.device.saveDomainTransaction tx mutationId fingerprint = some after) :
    World.Keeps bookId tx.id ⟨world.server, after⟩ := by
  have keptSound := sound.save saved
  unfold Device.saveDomainTransaction at saved
  split at saved
  · cases saved
  · obtain ⟨-, rfl⟩ := Device.queue_eq_some saved
    refine ⟨⟨fun record found => ?_, ?_⟩, keptSound, fun _ => ⟨?_, Or.inr ⟨_,
      List.mem_append_right _ List.mem_cons_self, rfl, rfl, ⟨rfl, Or.inl ⟨rfl, ?_⟩,
        fun _ => ⟨tx, tx.createPayload_carries fingerprint, dated⟩, ?_⟩,
        LedgerTransaction.createPayload_uncaptured named other⟩⟩⟩
    · rw [missing] at found
      cases found
    · dsimp only
      rw [unlogged]
      exact fun _ member => absurd member List.not_mem_nil
    · rw [Device.isSome_live]
      dsimp only
      rw [AList.lookup_insert]
      exact ⟨_, rfl, rfl⟩
    · rintro ⟨record, found, -⟩
      dsimp only at found
      rw [missing] at found
      cases found
    · intro receipt found
      unfold Unanswered at unanswered
      dsimp only at found
      rw [unanswered] at found
      cases found

end Run

end Ledgerly
