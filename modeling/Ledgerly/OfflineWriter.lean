/-
This file proves that what one device does offline lands, if nobody else writes to its book.

`Tracked` ties three things together: the views of the server, the final views the queue
leads to, and the local rows. A local write queues a mutation that lands behind the others; a
sync drains the queue and starts over from the views of the server. The delete of a
transaction whose create is still in the queue is the exception: its base version is the local
one, and edits that the create has taken in have moved that ahead of the queue.
-/

import Ledgerly.Convergence
import Ledgerly.OfflineQueue

namespace Ledgerly

/-! ### The local rows -/

/-- The local row of a transaction is what its mutations in the queue lead to. A row whose create
is in the queue has no version of the server's. -/
structure RowMatches (localBook bookId : String) (rows : List PendingMutationRow)
    (view : ServerView) (row : LocalTransaction) : Prop where
  deleted : row.deleted = view.deleted
  content : view.deleted = false → row.content localBook bookId = view.content
  version : (∀ mutation ∈ rows, mutation.operation ≠ "create") → row.version = view.version
  created : ∀ mutation ∈ rows, mutation.operation = "create" →
    ∀ other ∈ rows, other.operation = "create" ∨ other.operation = "delete"

/-- The mutations of one transaction in a queue. -/
def mutationsOf (rows : List PendingMutationRow) (id : String) : List PendingMutationRow :=
  rows.filter fun row => row.entityId = id

/-- The queue of the device is on its course, and leads to what the device has. -/
structure Tracked (bookId : String) (server : MemoryStore) (device : Device)
    (final : String → Option ServerView) : Prop where
  course : Course bookId device.deviceId device.bookId server device.pending final
  rows : ∀ id, Option.Rel (RowMatches device.bookId bookId (mutationsOf device.pending id))
    (final id) (device.transactions.lookup id)

/-! ### A mutation joins the queue -/

section Queue

variable {bookId deviceId localBook : String} {server : MemoryStore}
  {rows : List PendingMutationRow} {final : String → Option ServerView}

theorem mutationsOf_concat (row : PendingMutationRow) (id : String) :
    mutationsOf (rows ++ [row]) id =
      if row.entityId = id then mutationsOf rows id ++ [row] else mutationsOf rows id := by
  rw [mutationsOf, List.filter_append]
  split
  · rename_i same
    rw [List.filter_cons_of_pos (by simpa using same), List.filter_nil, mutationsOf]
  · rename_i other
    rw [List.filter_cons_of_neg (by simpa using other), List.filter_nil, List.append_nil,
      mutationsOf]

/-- A mutation that lands behind the queue joins it. -/
theorem Course.queued (course : Course bookId deviceId localBook server rows final)
    {row : PendingMutationRow} {next : Option ServerView}
    (isTransaction : row.entityType = "transaction")
    (unanswered : server.mutations.lookup (bookId, deviceId, row.mutationId) = none)
    (free : ∀ other ∈ rows, other.mutationId ≠ row.mutationId)
    (lands : LandsAs localBook bookId server.accounts (final row.entityId) row next) :
    Course bookId deviceId localBook server (rows ++ [row])
      (Function.update final row.entityId next) := by
  refine ⟨fun id => ?_, course.roundTrips, ?_, ?_, ?_⟩
  · show Walk.Leads _ _ (mutationsOf (rows ++ [row]) id) _
    rw [mutationsOf_concat]
    by_cases same : row.entityId = id
    · subst same
      rw [if_pos rfl, Function.update_self]
      exact (course.leads row.entityId).concat lands
    · rw [if_neg same, Function.update_of_ne (Ne.symm same)]
      exact course.leads id
  · refine List.forall_mem_append.mpr ⟨course.unanswered, fun other member => ?_⟩
    rw [List.mem_singleton.mp member]
    exact unanswered
  · rw [List.map_append, List.nodup_append]
    refine ⟨course.distinct, List.nodup_singleton _, fun used member new isNew => ?_⟩
    obtain ⟨other, otherMember, rfl⟩ := List.mem_map.mp member
    rw [List.mem_singleton.mp isNew]
    exact free other otherMember
  · refine List.forall_mem_append.mpr ⟨course.transactions, fun other member => ?_⟩
    rw [List.mem_singleton.mp member]
    exact isTransaction

/-- A local write with its mutation keeps the queue tracked. -/
theorem Tracked.queued {device after : Device} (tracked : Tracked bookId server device final)
    (next : ServerView) {row : PendingMutationRow} {written : LocalTransaction}
    (queued : ({ device with
      transactions := device.transactions.insert row.entityId written } : Device).queue row =
        some after)
    (isTransaction : row.entityType = "transaction")
    (unanswered : Unanswered bookId server device row.mutationId)
    (lands : LandsAs device.bookId bookId server.accounts (final row.entityId) row (some next))
    (fits : RowMatches device.bookId bookId (mutationsOf device.pending row.entityId ++ [row])
      next written) :
    Tracked bookId server after (Function.update final row.entityId (some next)) := by
  obtain ⟨free, rfl⟩ := Device.queue_eq_some queued
  refine ⟨tracked.course.queued isTransaction unanswered free lands, fun id => ?_⟩
  dsimp only
  rw [mutationsOf_concat]
  by_cases same : row.entityId = id
  · subst same
    rw [if_pos rfl, Function.update_self, AList.lookup_insert]
    exact .some fits
  · rw [if_neg same, Function.update_of_ne (Ne.symm same),
      AList.lookup_insert_ne (Ne.symm same)]
    exact tracked.rows id

end Queue

/-! ### What the device writes -/

section Writes

variable {bookId : String} {server : MemoryStore} {device after : Device}
  {final : String → Option ServerView}

/-- The local row of a transaction of the domain has its content. -/
theorem LedgerTransaction.content_row {tx : LedgerTransaction} {row : LocalTransaction}
    (localBook bookId : String) (seconds : tx.occurredAt % 1000000 = 0)
    (occurredAt : row.occurredAt = dateColumn tx.occurredAt)
    (description : row.description = tx.description) (entries : row.entries = tx.localEntries) :
    row.content localBook bookId = tx.content localBook bookId := by
  have date : row.occurredAt * 1000000000 = tx.occurredAt * 1000 := by
    have whole := (dateColumn_eq_iff (tx.occurredAt * 1000)).mpr (by omega)
    rwa [Int.mul_ediv_cancel _ (by decide), ← occurredAt] at whole
  rw [LocalTransaction.content, LedgerTransaction.content, date, description, entries,
    LedgerTransaction.localEntries, List.map_map, Content.mk.injEq]
  refine ⟨rfl, rfl, List.map_congr_left fun entry _ => ?_⟩
  show (_, decimalInt (decimalText entry.minorUnits), entry.currency) = _
  rw [decimalInt_decimalText]

/-- Local rows and final views are there for the same transactions. -/
theorem Tracked.matched (tracked : Tracked bookId server device final) {id : String}
    {row : LocalTransaction} (known : device.transactions.lookup id = some row) :
    ∃ view, final id = some view ∧
      RowMatches device.bookId bookId (mutationsOf device.pending id) view row := by
  have rel := tracked.rows id
  rw [known] at rel
  generalize final id = view at rel ⊢
  cases rel with
  | some fits => exact ⟨_, rfl, fits⟩

theorem Tracked.unknown (tracked : Tracked bookId server device final) {id : String}
    (missing : device.transactions.lookup id = none) :
    final id = none ∧ mutationsOf device.pending id = [] := by
  have rel := tracked.rows id
  have leads := tracked.course.leads id
  rw [missing] at rel
  generalize final id = view at rel leads ⊢
  cases rel with
  | none => exact ⟨rfl, leads_to_none leads⟩

theorem Tracked.afterSave (tracked : Tracked bookId server device final)
    {tx : LedgerTransaction} {mutationId : String} {fingerprint : Option String}
    (unanswered : Unanswered bookId server device mutationId)
    (plain : tx.Plain device.bookId bookId server.accounts)
    (saved : device.saveDomainTransaction tx mutationId fingerprint = some after) :
    ∃ final, Tracked bookId server after final := by
  unfold Device.saveDomainTransaction at saved
  split at saved
  · cases saved
  · rename_i unknown
    obtain ⟨absent, noRows⟩ := tracked.unknown (by simpa using unknown)
    refine ⟨_, tracked.queued ⟨1, false, tx.content device.bookId bookId⟩ saved rfl unanswered
      ?_ ?_⟩
    · rw [absent]
      exact .create rfl (tx.createPayload_carries fingerprint) plain
    · rw [noRows, List.nil_append]
      refine ⟨rfl, fun _ => tx.content_row device.bookId bookId plain.seconds rfl rfl rfl,
        fun noCreate => absurd rfl (noCreate _ (List.mem_singleton_self _)),
        fun mutation member isCreate other otherMember => ?_⟩
      rw [List.mem_singleton.mp otherMember]
      exact Or.inl rfl

/-- A live transaction whose create is in the queue has no other mutation there. -/
theorem Tracked.onlyCreate (tracked : Tracked bookId server device final) {id : String}
    {known : LocalTransaction} (found : device.transactions.lookup id = some known)
    (live : known.deleted = false) {pendingCreate : PendingMutationRow}
    (member : pendingCreate ∈ mutationsOf device.pending id)
    (isCreate : pendingCreate.operation = "create") :
    server.viewOf bookId id = none ∧ mutationsOf device.pending id = [pendingCreate] := by
  obtain ⟨view, isFinal, fits⟩ := tracked.matched found
  have leads := tracked.course.leads id
  rw [isFinal] at leads
  obtain ⟨rest, between, split, start, -, later, -⟩ := leads_created leads member isCreate
  replace split : mutationsOf device.pending id = pendingCreate :: rest := split
  obtain ⟨final', same, -, noCreate⟩ := leads_from_some later
  cases same
  have deletes : ∀ row ∈ rest, row.operation = "delete" := fun row rowMember =>
    (fits.created pendingCreate member isCreate row (by
      rw [split]
      exact List.mem_cons_of_mem _ rowMember)).resolve_left (noCreate row rowMember)
  rcases leads_deletes later deletes with rfl | deleted
  · exact ⟨start, split⟩
  · rw [← fits.deleted, live] at deleted
    cases deleted

/-- A queue with a mutation renewed in place leads where the renewed mutations lead. -/
theorem Tracked.replaced (tracked : Tracked bookId server device final)
    {replace : PendingMutationRow → PendingMutationRow}
    (same : ∀ row, (replace row).mutationId = row.mutationId ∧
      (replace row).entityId = row.entityId ∧ (replace row).entityType = row.entityType)
    {id : String} {next : ServerView} {written : LocalTransaction}
    (others : ∀ row ∈ device.pending, row.entityId ≠ id → replace row = row)
    (leads : Walk.Leads (LandsAs device.bookId bookId server.accounts) (server.viewOf bookId id)
      ((mutationsOf device.pending id).map replace) (some next))
    (fits : RowMatches device.bookId bookId ((mutationsOf device.pending id).map replace) next
      written) :
    Tracked bookId server
      { device with
        transactions := device.transactions.insert id written
        pending := device.pending.map replace } (Function.update final id (some next)) := by
  have filtered : ∀ other, mutationsOf (device.pending.map replace) other =
      (mutationsOf device.pending other).map replace := by
    intro other
    rw [mutationsOf, List.filter_map, mutationsOf]
    refine congrArg _ (List.filter_congr fun row _ => ?_)
    rw [Function.comp_apply, (same row).2.1]
  have untouched : ∀ other, other ≠ id → mutationsOf (device.pending.map replace) other =
      mutationsOf device.pending other := by
    intro other different
    rw [filtered]
    conv_rhs => rw [← List.map_id (mutationsOf device.pending other)]
    refine List.map_congr_left fun row member => ?_
    obtain ⟨inQueue, entity⟩ := List.mem_filter.mp member
    exact others row inQueue fun isId => different.symm (by simpa [isId] using entity)
  refine ⟨⟨fun other => ?_, tracked.course.roundTrips, ?_, ?_, ?_⟩, fun other => ?_⟩
  · show Walk.Leads _ _ (mutationsOf (device.pending.map replace) other) _
    by_cases isId : other = id
    · subst isId
      rw [filtered, Function.update_self]
      exact leads
    · rw [untouched other isId, Function.update_of_ne isId]
      exact tracked.course.leads other
  · refine List.forall_mem_map.mpr fun row member => ?_
    rw [(same row).1]
    exact tracked.course.unanswered row member
  · have ids : (device.pending.map replace).map PendingMutationRow.mutationId =
        device.pending.map PendingMutationRow.mutationId := by
      rw [List.map_map]
      exact List.map_congr_left fun row _ => (same row).1
    rw [ids]
    exact tracked.course.distinct
  · refine List.forall_mem_map.mpr fun row member => ?_
    rw [(same row).2.2]
    exact tracked.course.transactions row member
  · dsimp only
    by_cases isId : other = id
    · subst isId
      rw [filtered, Function.update_self, AList.lookup_insert]
      exact .some fits
    · rw [untouched other isId, Function.update_of_ne isId, AList.lookup_insert_ne isId]
      exact tracked.rows other

/-- An edit that a pending create takes in. -/
theorem Tracked.afterCoalesce (tracked : Tracked bookId server device final)
    {tx : LedgerTransaction} (plain : tx.Plain device.bookId bookId server.accounts)
    {current : LocalTransaction} (found : device.transactions.lookup tx.id = some current)
    (live : current.deleted = false) {pendingCreate : PendingMutationRow}
    (member : pendingCreate ∈ mutationsOf device.pending tx.id)
    (isCreate : pendingCreate.operation = "create") :
    Tracked bookId server
      { device with
        transactions := device.transactions.insert tx.id
          { current with
            occurredAt := dateColumn tx.occurredAt
            description := tx.description
            version := current.version + 1
            entries := tx.localEntries }
        pending := device.pending.map fun row =>
          if row.mutationId = pendingCreate.mutationId then
            { row with
              payload := tx.updatePayload
              entriesFit := tx.updatePayload_fits }
          else row }
      (Function.update final tx.id (some ⟨1, false, tx.content device.bookId bookId⟩)) := by
  obtain ⟨start, single⟩ := tracked.onlyCreate found live member isCreate
  refine tracked.replaced ?_ ?_ ?_ ?_
  · intro row
    split <;> exact ⟨rfl, rfl, rfl⟩
  · intro row rowMember other
    refine if_neg fun same => other ?_
    obtain ⟨createMember, entity⟩ := List.mem_filter.mp member
    rw [List.inj_on_of_nodup_map tracked.course.distinct rowMember createMember same]
    simpa using entity
  · rw [start, single, List.map_singleton, if_pos rfl]
    exact ⟨_, .create isCreate tx.updatePayload_carries plain, rfl⟩
  · rw [single, List.map_singleton, if_pos rfl]
    refine ⟨live, fun _ => tx.content_row device.bookId bookId plain.seconds rfl rfl rfl,
      fun noCreate => (noCreate _ (List.mem_singleton_self _) isCreate).elim,
      fun mutation _ _ other otherMember => ?_⟩
    rw [List.mem_singleton.mp otherMember]
    exact Or.inl isCreate

theorem Tracked.afterUpdate (tracked : Tracked bookId server device final)
    {tx : LedgerTransaction} {baseVersion : Int} {mutationId : String}
    (unanswered : Unanswered bookId server device mutationId)
    (plain : tx.Plain device.bookId bookId server.accounts)
    (updated : device.updateDomainTransaction tx baseVersion mutationId = some after) :
    ∃ final, Tracked bookId server after final := by
  unfold Device.updateDomainTransaction at updated
  split at updated
  · cases updated
  · rename_i current found
    split at updated
    · cases updated
    · rename_i accepted
      have live : current.deleted = false := by simpa using (not_or.mp accepted).1
      have base : current.version = baseVersion := not_not.mp (not_or.mp accepted).2
      obtain ⟨view, isFinal, fits⟩ := tracked.matched found
      have isCreates : ∀ row, row ∈ device.pending.filter (fun row => row.Creates tx.id) ↔
          row ∈ mutationsOf device.pending tx.id ∧ row.operation = "create" := by
        intro row
        rw [List.mem_filter, decide_eq_true_eq, mutationsOf, List.mem_filter, decide_eq_true_eq]
        constructor
        · rintro ⟨member, -, entity, operation⟩
          exact ⟨⟨member, entity⟩, operation⟩
        · rintro ⟨⟨member, entity⟩, operation⟩
          exact ⟨member, tracked.course.transactions row member, entity, operation⟩
      dsimp only at updated
      split at updated
      · rename_i none
        have noCreate : ∀ row ∈ mutationsOf device.pending tx.id, row.operation ≠ "create" := by
          intro row member isCreate
          have among := (isCreates row).mpr ⟨member, isCreate⟩
          rw [none] at among
          exact absurd among List.not_mem_nil
        have version := fits.version noCreate
        refine ⟨_, tracked.queued ⟨view.version + 1, false, tx.content device.bookId bookId⟩ updated
          rfl unanswered ?_ ?_⟩
        · rw [isFinal]
          exact .update rfl (base.symm.trans version) tx.updatePayload_carries plain
        · refine ⟨live, fun _ => tx.content_row device.bookId bookId plain.seconds rfl rfl rfl,
            fun _ => congrArg (· + 1) version, fun mutation member isCreate => ?_⟩
          rcases List.mem_append.mp member with old | new
          · exact absurd isCreate (noCreate mutation old)
          · rw [List.mem_singleton.mp new] at isCreate
            simp at isCreate
      · rename_i pendingCreate only
        cases updated
        have among : pendingCreate ∈ device.pending.filter fun row => row.Creates tx.id := by
          rw [only]
          exact List.mem_singleton_self pendingCreate
        obtain ⟨member, isCreate⟩ := (isCreates pendingCreate).mp among
        exact ⟨_, tracked.afterCoalesce plain found live member isCreate⟩
      · cases updated

/-- The delete of a transaction whose create is in the queue has the version the server will have
then, if the local row has not been edited ahead of it. -/
def Device.DeletesInStep (device : Device) (txId : String) : Prop :=
  ∀ row ∈ device.pending, row.Creates txId → ∀ known, device.transactions.lookup txId = some known →
    known.version = 0 ∨ known.version = (mutationsOf device.pending txId).length

theorem Tracked.afterDelete (tracked : Tracked bookId server device final)
    {txId mutationId : String} (unanswered : Unanswered bookId server device mutationId)
    (inStep : device.DeletesInStep txId)
    (deleted : device.softDeleteTransaction txId mutationId = some after) :
    ∃ final, Tracked bookId server after final := by
  unfold Device.softDeleteTransaction at deleted
  split at deleted
  · cases deleted
  · rename_i known found
    obtain ⟨view, isFinal, fits⟩ := tracked.matched found
    have current : known.version = 0 ∨ known.version = view.version := by
      by_cases noCreate : ∀ row ∈ mutationsOf device.pending txId, row.operation ≠ "create"
      · exact Or.inr (fits.version noCreate)
      · simp only [not_forall, not_not] at noCreate
        obtain ⟨create, member, isCreate⟩ := noCreate
        obtain ⟨inQueue, entity⟩ := List.mem_filter.mp member
        have leads := tracked.course.leads txId
        rw [isFinal] at leads
        obtain ⟨-, -, -, -, -, -, counted⟩ := leads_created leads member isCreate
        refine (inStep create inQueue ⟨tracked.course.transactions create inQueue,
          by simpa using entity, isCreate⟩ known found).imp_right fun version => ?_
        rw [version, counted]
        rfl
    refine ⟨_, tracked.queued ⟨view.version + 1, true, view.content⟩ deleted rfl unanswered ?_ ?_⟩
    · rw [isFinal]
      exact .delete rfl current rfl
    · refine ⟨rfl, fun live => Bool.noConfusion live, fun noCreate => ?_, ?_⟩
      · exact congrArg (· + 1) (fits.version fun row member =>
          noCreate row (List.mem_append_left _ member))
      · intro mutation member isCreate other otherMember
        rcases List.mem_append.mp member with old | new
        · rcases List.mem_append.mp otherMember with otherOld | otherNew
          · exact fits.created mutation old isCreate other otherOld
          · rw [List.mem_singleton.mp otherNew]
            exact Or.inr rfl
        · rw [List.mem_singleton.mp new] at isCreate
          simp at isCreate

end Writes

end Ledgerly
