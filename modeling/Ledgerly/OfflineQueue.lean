/-
This file proves that the server takes a whole queue, one mutation after the other, if the
queue leads somewhere from the views the server has and nobody else writes to the book.

`Course` is what holds before each mutation of the rest of the queue: the rest leads from the
views of the moment to the final ones. Steps on other books leave it alone, and the first
mutation of the rest is applied.
-/

import Ledgerly.ServerView

namespace Ledgerly

/-- The queue leads from the views of the server to final ones, and the server has not seen its
mutations. -/
structure Course (bookId deviceId localBook : String) (server : MemoryStore)
    (rows : List PendingMutationRow) (final : String → Option ServerView) : Prop where
  leads : ∀ id, Walk.Leads (LandsAs localBook bookId server.accounts) (server.viewOf bookId id)
    (rows.filter fun row => row.entityId = id) (final id)
  roundTrips : ∀ id view, server.viewOf bookId id = some view →
    view.content.RoundTrips localBook bookId
  unanswered : ∀ row ∈ rows, server.mutations.lookup (bookId, deviceId, row.mutationId) = none
  distinct : (rows.map PendingMutationRow.mutationId).Nodup
  transactions : ∀ row ∈ rows, row.entityType = "transaction"

section Frame

variable [Rfc3339] {bookId : String} {server : MemoryStore} {step : PushStep}

/-- A step leaves the views of other transactions alone. -/
theorem viewOf_pushStep_of_ne {id : String} (other : id ≠ step.mutation.entityId) :
    (pushStep server step).viewOf bookId id = server.viewOf bookId id := by
  rcases pushStep_tables server step with ⟨same, -⟩ | ⟨record, row, writes⟩
  · rw [MemoryStore.viewOf, MemoryStore.viewOf, same]
  · rw [MemoryStore.viewOf, MemoryStore.viewOf, writes.wrote, AList.lookup_insert_ne other]

/-- A step on another book that takes nothing leaves every view of the book alone. -/
theorem viewOf_pushStep_elsewhere (elsewhere : step.bookId ≠ bookId)
    (keeps : ¬TakesFrom bookId server step) (id : String) :
    (pushStep server step).viewOf bookId id = server.viewOf bookId id := by
  by_cases other : id ≠ step.mutation.entityId
  · exact viewOf_pushStep_of_ne other
  · have same := not_not.mp other
    subst same
    rcases pushStep_tables server step with ⟨same, -⟩ | ⟨record, row, writes⟩
    · rw [MemoryStore.viewOf, MemoryStore.viewOf, same]
    · have after : (pushStep server step).viewOf bookId step.mutation.entityId = none := by
        rw [MemoryStore.viewOf_eq_none]
        rintro ⟨found, lookup, inBook⟩
        rw [writes.wrote, AList.lookup_insert] at lookup
        cases lookup
        exact elsewhere (writes.recordBook.symm.trans inBook)
      have before : server.viewOf bookId step.mutation.entityId = none := by
        rw [MemoryStore.viewOf_eq_none]
        rintro ⟨found, lookup, inBook⟩
        rcases writes.owner found lookup with owned | taken
        · exact elsewhere (owned.symm.trans inBook)
        · exact keeps ⟨elsewhere, taken, found, lookup, inBook⟩
      rw [after, before]

end Frame

/-- With more accounts the same mutations land. -/
theorem LandsAs.mono {localBook bookId : String} {accounts later : KeyMap String AccountRecord}
    (grown : ∀ accountId, accountInBook accounts bookId accountId = true →
      accountInBook later bookId accountId = true)
    {before next : Option ServerView} {row : PendingMutationRow}
    (lands : LandsAs localBook bookId accounts before row next) :
    LandsAs localBook bookId later before row next := by
  have plain : ∀ {tx : LedgerTransaction}, tx.Plain localBook bookId accounts →
      tx.Plain localBook bookId later := fun plain =>
    ⟨plain.dated, plain.seconds, plain.amounts, fun entry member =>
      grown _ (plain.accounts entry member)⟩
  cases lands with
  | create isCreate carries good => exact .create isCreate carries (plain good)
  | update isUpdate current carries good => exact .update isUpdate current carries (plain good)
  | delete isDelete current isObject => exact .delete isDelete current isObject

/-- What a mutation leads to comes back from the device as it was sent. -/
theorem LandsAs.roundTrips {localBook bookId : String} {accounts : KeyMap String AccountRecord}
    {before next : Option ServerView} {row : PendingMutationRow}
    (lands : LandsAs localBook bookId accounts before row next)
    (was : ∀ view, before = some view → view.content.RoundTrips localBook bookId) :
    ∀ view, next = some view → view.content.RoundTrips localBook bookId := by
  rintro view rfl
  cases lands with
  | create isCreate carries plain => exact plain.roundTrips
  | update isUpdate current carries plain => exact plain.roundTrips
  | @delete _ old isDelete current isObject =>
    have kept := was old rfl
    exact ⟨kept.seconds, kept.accounts⟩

/-! ### Where a queue leads -/

section Walks

variable {localBook bookId : String} {accounts : KeyMap String AccountRecord}
  {rows : List PendingMutationRow} {start : Option ServerView}

/-- A queue that ends without the transaction is empty. -/
theorem leads_to_none (leads : Walk.Leads (LandsAs localBook bookId accounts) start rows none) :
    rows = [] := by
  induction rows generalizing start with
  | nil => rfl
  | cons row rest inductionHypothesis =>
    obtain ⟨next, lands, later⟩ := leads
    obtain rfl := inductionHypothesis later
    rw [Walk.leads_nil] at later
    subst later
    cases lands

/-- From a stored transaction on, the versions count the mutations, and none is a create. -/
theorem leads_from_some {before : ServerView} {final : Option ServerView}
    (leads : Walk.Leads (LandsAs localBook bookId accounts) (some before) rows final) :
    ∃ view, final = some view ∧ view.version = before.version + rows.length ∧
      ∀ row ∈ rows, row.operation ≠ "create" := by
  induction rows generalizing before with
  | nil => exact ⟨before, leads, by simp, fun row member => absurd member List.not_mem_nil⟩
  | cons row rest inductionHypothesis =>
    obtain ⟨next, lands, later⟩ := leads
    have advances : ∃ after : ServerView, next = some after ∧ after.version = before.version + 1 ∧
        row.operation ≠ "create" := by
      cases lands with
      | update isUpdate => exact ⟨_, rfl, rfl, by rw [isUpdate]; decide⟩
      | delete isDelete => exact ⟨_, rfl, rfl, by rw [isDelete]; decide⟩
    obtain ⟨after, rfl, version, notCreate⟩ := advances
    obtain ⟨view, rfl, counted, others⟩ := inductionHypothesis later
    refine ⟨view, rfl, ?_, List.forall_mem_cons.mpr ⟨notCreate, others⟩⟩
    rw [counted, version, List.length_cons]
    push_cast
    ring

/-- A queue with a create begins with it, where nothing is stored, and the versions count its
mutations. -/
theorem leads_created {view : ServerView}
    (leads : Walk.Leads (LandsAs localBook bookId accounts) start rows (some view))
    {row : PendingMutationRow} (member : row ∈ rows) (isCreate : row.operation = "create") :
    ∃ rest between, rows = row :: rest ∧ start = none ∧
      LandsAs localBook bookId accounts none row (some between) ∧
      Walk.Leads (LandsAs localBook bookId accounts) (some between) rest (some view) ∧
      view.version = rows.length := by
  cases start with
  | some before =>
    obtain ⟨-, -, -, noCreate⟩ := leads_from_some leads
    exact absurd isCreate (noCreate row member)
  | none =>
    cases rows with
    | nil => exact absurd member List.not_mem_nil
    | cons first rest =>
      obtain ⟨next, lands, later⟩ := leads
      have opens : ∃ between : ServerView, next = some between ∧ between.version = 1 := by
        cases lands
        exact ⟨_, rfl, rfl⟩
      obtain ⟨between, rfl, opened⟩ := opens
      obtain ⟨final, same, counted, noCreate⟩ := leads_from_some later
      cases same
      rcases List.mem_cons.mp member with rfl | further
      · refine ⟨rest, between, rfl, rfl, lands, later, ?_⟩
        rw [counted, opened, List.length_cons]
        push_cast
        ring
      · exact absurd isCreate (noCreate row further)

/-- After deletes alone a transaction is deleted, if there are any. -/
theorem leads_deletes {before view : ServerView}
    (leads : Walk.Leads (LandsAs localBook bookId accounts) (some before) rows (some view))
    (deletes : ∀ row ∈ rows, row.operation = "delete") : rows = [] ∨ view.deleted = true := by
  induction rows generalizing before with
  | nil => exact Or.inl rfl
  | cons row rest inductionHypothesis =>
    obtain ⟨next, lands, later⟩ := leads
    have isDelete := deletes row List.mem_cons_self
    have removes : ∃ after : ServerView, next = some after ∧ after.deleted = true := by
      cases lands with
      | update isUpdate =>
        rw [isDelete] at isUpdate
        exact absurd isUpdate (by decide)
      | delete => exact ⟨_, rfl, rfl⟩
    obtain ⟨after, rfl, removed⟩ := removes
    rcases inductionHypothesis later fun other member =>
      deletes other (List.mem_cons_of_mem _ member) with rfl | deleted
    · rw [Walk.leads_nil] at later
      cases later
      exact Or.inr removed
    · exact Or.inr deleted

end Walks

/-! ### Steps -/

section Steps

variable [Rfc3339] {bookId deviceId localBook : String} {server : MemoryStore}
  {rows : List PendingMutationRow} {final : String → Option ServerView} {step : PushStep}

/-- A step on another book leaves the rest of the queue on its course. -/
theorem Course.elsewhere (course : Course bookId deviceId localBook server rows final)
    (elsewhere : step.bookId ≠ bookId) (keeps : ¬TakesFrom bookId server step) :
    Course bookId deviceId localBook (pushStep server step) rows final := by
  have views := viewOf_pushStep_elsewhere elsewhere keeps
  refine ⟨fun id => ?_, fun id view seen => ?_, fun row member => ?_, course.distinct,
    course.transactions⟩
  · rw [views id]
    exact (course.leads id).mono fun _ _ _ lands =>
      lands.mono fun _ owned => accountInBook_pushStep step owned
  · rw [views id] at seen
    exact course.roundTrips id view seen
  · rw [lookup_mutations_of_ne, course.unanswered row member]
    intro key
    exact elsewhere (Prod.mk.inj key).1.symm

/-- The first mutation of the queue is applied, and the rest stays on its course. -/
theorem Course.first [ReadsDates] {row : PendingMutationRow}
    (course : Course bookId deviceId localBook server (row :: rows) final) {stamp : Stamp}
    (made : row.step deviceId localBook bookId stamp = some step)
    (benign : Benign bookId deviceId server step) :
    (pushReceipt server step).status = "applied" ∧
      Course bookId deviceId localBook (pushStep server step) rows final := by
  have isTransaction := course.transactions row List.mem_cons_self
  have key := PendingMutationRow.step_key made
  have new : server.mutations.lookup step.key = none := by
    rw [key]
    exact course.unanswered row List.mem_cons_self
  have entity : step.mutation.entityId = row.entityId := by
    obtain ⟨-, -, -, -, -, -, -, entity⟩ := PendingMutationRow.step_fields made
    exact entity isTransaction
  have own := course.leads row.entityId
  rw [List.filter_cons_of_pos (by simp)] at own
  obtain ⟨next, lands, later⟩ := own
  obtain ⟨applied, written⟩ := lands.accepted rfl made isTransaction new benign
  have others : ∀ id, id ≠ row.entityId →
      (pushStep server step).viewOf bookId id = server.viewOf bookId id := fun id different =>
    viewOf_pushStep_of_ne (by rwa [entity])
  have grown : ∀ accountId, accountInBook server.accounts bookId accountId = true →
      accountInBook (pushStep server step).accounts bookId accountId = true :=
    fun _ owned => accountInBook_pushStep step owned
  refine ⟨applied, fun id => ?_, fun id view seen => ?_, fun other member => ?_,
    (List.nodup_cons.mp course.distinct).2,
    fun other member => course.transactions other (List.mem_cons_of_mem _ member)⟩
  · by_cases same : id = row.entityId
    · subst same
      rw [written]
      exact later.mono fun _ _ _ lands => lands.mono grown
    · have leads := course.leads id
      rw [List.filter_cons_of_neg (by simpa using fun equal => same equal.symm)] at leads
      rw [others id same]
      exact leads.mono fun _ _ _ lands => lands.mono grown
  · by_cases same : id = row.entityId
    · subst same
      exact lands.roundTrips (course.roundTrips row.entityId) view (written.symm.trans seen)
    · rw [others id same] at seen
      exact course.roundTrips id view seen
  · rw [lookup_mutations_of_ne, course.unanswered other (List.mem_cons_of_mem _ member)]
    rw [key]
    intro equal
    have same := (Prod.mk.inj (Prod.mk.inj equal).2).2
    exact (List.nodup_cons.mp course.distinct).1 (List.mem_map.mpr ⟨other, member, same⟩)

/-- Steps on other books leave the queue on its course. -/
theorem Course.afterElsewhere (course : Course bookId deviceId localBook server rows final)
    {steps : List PushStep} (elsewhere : ∀ step ∈ steps, step.bookId ≠ bookId)
    (guarded : Machine.Guarded pushStep (Benign bookId deviceId) server steps) :
    Course bookId deviceId localBook (Machine.run pushStep server steps) rows final := by
  induction steps generalizing server with
  | nil => exact course
  | cons step rest inductionHypothesis =>
    exact inductionHypothesis
      (course.elsewhere (elsewhere step List.mem_cons_self) guarded.1.keepsBook)
      (fun other member => elsewhere other (List.mem_cons_of_mem _ member)) guarded.2

/-- The whole queue is applied, among steps on other books, and leaves the final views. -/
theorem Course.pushed [ReadsDates] (course : Course bookId deviceId localBook server rows final)
    {others : Nat → List PushStep}
    (elsewhere : ∀ position, ∀ step ∈ others position, step.bookId ≠ bookId)
    {steps : List PushStep}
    (sent : List.Forall₂ (fun row step => ∃ stamp,
      row.step deviceId localBook bookId stamp = some step) rows steps) (position : Nat)
    (guarded : Machine.Guarded pushStep (Benign bookId deviceId) server
      (interleaved others position steps)) :
    (∀ receipt ∈ receiptsAmong others position server steps, receipt.status = "applied") ∧
      Course bookId deviceId localBook
        (Machine.run pushStep server (interleaved others position steps)) [] final := by
  induction sent generalizing server position with
  | nil => exact ⟨fun _ member => absurd member List.not_mem_nil, course⟩
  | cons made _ inductionHypothesis =>
    obtain ⟨stamp, made⟩ := made
    obtain ⟨before, benign, later⟩ := (Machine.guarded_append _ _ _).mp guarded
    have reached := course.afterElsewhere (elsewhere position) before
    obtain ⟨applied, rest⟩ := reached.first made benign
    obtain ⟨allApplied, final⟩ := inductionHypothesis rest (position + 1) later
    rw [interleaved, Machine.run_append, Machine.run_cons]
    refine ⟨fun receipt member => ?_, final⟩
    rcases List.mem_cons.mp member with rfl | tail
    · exact applied
    · exact allApplied receipt tail

end Steps

end Ledgerly
