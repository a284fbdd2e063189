/-
This file relates account pushes that run at the same time on PostgreSQL to a memory store that
takes them one after the other.

A push takes its turn in the memory store when it draws its sequence number, when its refusal is
written, or when it finds its receipt. From then on the memory store is ahead of the database by
what the session has not committed. A session reads in a book only while it holds the lock of
its hierarchy, so that nobody is ahead there; and it looks for its receipt, and writes it, while
it holds the lock of the mutation.
-/

import Ledgerly.AccountTransaction

namespace Ledgerly

/-! ### What a phase tells -/

/-- The transaction holds the lock of its mutation. -/
def Phase.holdsMutation : Phase → Bool
  | .asked | .ended _ => false
  | _ => true

/-- The transaction holds the lock of the hierarchy, as far as that matters. -/
def Phase.holdsHierarchy : Phase → Bool
  | .asked | .mutationLocked | .malformed _ | .parsed _ | .ended _ => false
  | .closing writes _ => writes.change.isSome
  | _ => true

/-- The transaction has found no receipt and has not settled on one. -/
def Phase.unanswered : Phase → Bool
  | .asked | .mutationLocked | .logged _ _ _ | .closing _ _ | .ended _ => false
  | _ => true

/-- The receipt a push has settled on. -/
def Phase.settled : Phase → Option MutationReceiptDto
  | .logged _ _ receipt | .closing _ receipt | .ended receipt => some receipt
  | _ => none

/-- What a settled push has not committed. -/
def Phase.writes : Phase → PendingWrites
  | .logged row change receipt => ⟨row, some change, some receipt.stored⟩
  | .closing writes _ => writes
  | _ => .none

theorem Phase.holdsHierarchy_of_change {phase : Phase} {change : ChangeRecord}
    (written : phase.writes.change = some change) : phase.holdsHierarchy = true := by
  cases phase with
  | logged _ _ _ => rfl
  | closing writes _ => exact Option.isSome_iff_exists.mpr ⟨change, written⟩
  | _ => cases written

theorem Phase.holdsMutation_of_receipt {phase : Phase} {receipt : MutationReceipt}
    (written : phase.writes.receipt = some receipt) : phase.holdsMutation = true := by
  cases phase with
  | asked => cases written
  | ended _ => cases written
  | _ => rfl

theorem Phase.holdsMutation_of_unanswered {phase : Phase} (isOpen : phase.unanswered = true) :
    phase.holdsMutation = true := by
  cases phase with
  | asked => cases isOpen
  | ended _ => cases isOpen
  | _ => rfl

/-- The columns are those of the mutation over what stands under its id. -/
structure Selected (accounts : KeyMap String AccountRecord) (step : PushStep)
    (payload : AccountPayload) (columns : AccountColumns) : Prop where
  parsed : parseAccountPayload step.bookId step.mutation = .ok payload
  finds : Finds step.bookId step.mutation (accounts.lookup step.mutation.entityId)
  columns : columns = payload.columns (accounts.lookup step.mutation.entityId)

/-- The part of `valid_account_parent_pg` before the first query has passed. -/
def Parentable (step : PushStep) (columns : AccountColumns) (parentId : String) : Prop :=
  columns.parentAccountId = some parentId ∧
    (columns.accountType = "expense" ∨ columns.accountType = "income") ∧
      parentId ≠ step.mutation.entityId

/-- What a transaction has learned about the accounts. -/
def Knows (accounts : KeyMap String AccountRecord) (step : PushStep) : Phase → Prop
  | .malformed receipt => parseAccountPayload step.bookId step.mutation = .error receipt
  | .parsed payload | .hierarchyLocked payload | .entityLocked payload =>
    parseAccountPayload step.bookId step.mutation = .ok payload
  | .parentNamed payload columns parentId =>
    Selected accounts step payload columns ∧ Parentable step columns parentId
  | .parentFound payload columns =>
    Selected accounts step payload columns ∧ ∃ parentId, Parentable step columns parentId ∧
      ∃ parent, accounts.lookup parentId = some parent ∧ parent.bookId = step.bookId ∧
        parent.accountType = columns.accountType ∧ parent.parentAccountId = none
  | .accepted payload columns =>
    Selected accounts step payload columns ∧ validAccountParent accounts step.bookId
      step.mutation.entityId columns.accountType columns.parentAccountId = true
  | .written payload columns row =>
    Selected accounts step payload columns ∧ validAccountParent accounts step.bookId
      step.mutation.entityId columns.accountType columns.parentAccountId = true ∧
      row = some (payload.row step.bookId step.mutation.entityId columns
        (accounts.lookup step.mutation.entityId))
  | .refused receipt => AccountDecision accounts step.bookId step.mutation (.error receipt)
  | _ => True

section Knowledge

variable {first second : KeyMap String AccountRecord} {step : PushStep}

theorem Selected.entity {accounts : KeyMap String AccountRecord} {payload : AccountPayload}
    {columns : AccountColumns} (selected : Selected accounts step payload columns) :
    ∃ key, step.mutation.entityId = scopedAccountId step.bookId key :=
  parseAccountPayload_scoped selected.parsed

theorem Selected.parent {accounts : KeyMap String AccountRecord} {payload : AccountPayload}
    {columns : AccountColumns} (selected : Selected accounts step payload columns)
    (placed : AccountsPlaced accounts) :
    ∀ parentId, columns.parentAccountId = some parentId →
      ∃ key, parentId = scopedAccountId step.bookId key := by
  intro parentId named
  rw [selected.columns] at named
  exact columns_parent selected.parsed placed selected.finds named

theorem Selected.congr (agree : AgreeOn step.bookId first second) {payload : AccountPayload}
    {columns : AccountColumns} (selected : Selected first step payload columns) :
    Selected second step payload columns ∧
      second.lookup step.mutation.entityId = first.lookup step.mutation.entityId := by
  obtain ⟨key, entity⟩ := selected.entity
  have same : second.lookup step.mutation.entityId = first.lookup step.mutation.entityId := by
    rw [entity]
    exact (agree key).symm
  exact ⟨⟨selected.parsed, same ▸ selected.finds, same ▸ selected.columns⟩, same⟩

/-- What a transaction has learned stays as long as nobody changes the book it reads in. -/
theorem Knows.congr {phase : Phase}
    (agree : phase.holdsHierarchy = true → AgreeOn step.bookId first second)
    (placedFirst : AccountsPlaced first) (placedSecond : AccountsPlaced second)
    (plain : ':' ∉ step.bookId.toList) (knows : Knows first step phase) :
    Knows second step phase := by
  have valid : ∀ {payload columns}, AgreeOn step.bookId first second →
      Selected first step payload columns → validAccountParent first step.bookId
        step.mutation.entityId columns.accountType columns.parentAccountId = true →
      validAccountParent second step.bookId step.mutation.entityId columns.accountType
        columns.parentAccountId = true := by
    intro payload columns agrees selected before
    obtain ⟨key, entity⟩ := selected.entity
    rw [entity] at before ⊢
    exact agrees.validAccountParent_imp placedSecond plain (selected.parent placedFirst) before
  cases phase with
  | asked => trivial
  | mutationLocked => trivial
  | malformed receipt => exact knows
  | parsed payload => exact knows
  | hierarchyLocked payload => exact knows
  | entityLocked payload => exact knows
  | parentNamed payload columns parentId =>
    exact ⟨(knows.1.congr (agree rfl)).1, knows.2⟩
  | parentFound payload columns =>
    obtain ⟨selected, parentId, parentable, parent, found, fits⟩ := knows
    obtain ⟨key, rfl⟩ := selected.parent placedFirst parentId parentable.1
    exact ⟨(selected.congr (agree rfl)).1, _, parentable, parent,
      ((agree rfl) key).symm.trans found, fits⟩
  | accepted payload columns =>
    exact ⟨(knows.1.congr (agree rfl)).1, valid (agree rfl) knows.1 knows.2⟩
  | written payload columns row =>
    obtain ⟨selected, before, written⟩ := knows
    obtain ⟨after, same⟩ := selected.congr (agree rfl)
    exact ⟨after, valid (agree rfl) selected before, same ▸ written⟩
  | logged row change receipt => trivial
  | refused receipt => exact AccountDecision.congr (agree rfl) placedFirst placedSecond plain knows
  | closing writes receipt => trivial
  | ended receipt => trivial

/-- What follows the select of the account is known. -/
theorem knows_afterSelect {accounts : KeyMap String AccountRecord} {payload : AccountPayload}
    (parsed : parseAccountPayload step.bookId step.mutation = .ok payload) :
    Knows accounts step
      (afterSelect step payload (accounts.lookup step.mutation.entityId)) := by
  have check : ∀ {columns}, Selected accounts step payload columns →
      Knows accounts step (checkParent step payload columns) := by
    intro columns selected
    unfold checkParent
    cases named : columns.parentAccountId with
    | none =>
      refine ⟨selected, ?_⟩
      rw [named]
      rfl
    | some parentId =>
      simp only
      split
      · rename_i bad
        refine .badParent parsed selected.finds (Bool.eq_false_iff.mpr fun valid => ?_)
        rw [← selected.columns, named, validAccountParent_iff] at valid
        rcases bad with wrongType | isSelf
        · exact wrongType (by simpa using valid.1)
        · exact valid.2.1 isSelf
      · rename_i passed
        obtain ⟨type, notSelf⟩ := not_or.mp passed
        exact ⟨selected, named, by simpa using not_not.mp type, notSelf⟩
  unfold afterSelect
  split
  · rename_i isCreate
    cases found : accounts.lookup step.mutation.entityId with
    | some existing => exact .taken parsed isCreate found
    | none =>
      refine check ⟨parsed, ?_, by rw [found]⟩
      rw [found]
      exact isCreate
  · rename_i notCreate
    cases found : accounts.lookup step.mutation.entityId with
    | none =>
      refine .missing parsed notCreate fun existing isThere => ?_
      rw [found] at isThere
      cases isThere
    | some existing =>
      simp only
      split
      · rename_i foreign
        refine .missing parsed notCreate fun other isThere => ?_
        rw [found] at isThere
        cases isThere
        exact foreign
      · rename_i owned
        refine check ⟨parsed, ?_, by rw [found]⟩
        rw [found]
        exact ⟨notCreate, not_not.mp owned⟩

/-- A parent that does not fit is refused. -/
theorem refused_of_parent {accounts : KeyMap String AccountRecord} {payload : AccountPayload}
    {columns : AccountColumns} (selected : Selected accounts step payload columns)
    (invalid : ¬validAccountParent accounts step.bookId step.mutation.entityId columns.accountType
      columns.parentAccountId = true) :
    AccountDecision accounts step.bookId step.mutation
      (.error (rejectedReceipt step.mutation "INVALID_CATEGORY_PARENT" none)) := by
  rw [selected.columns] at invalid
  exact .badParent selected.parsed selected.finds (Bool.eq_false_iff.mpr invalid)

/-- What follows the select of the parent is known. -/
theorem knows_afterParent {accounts : KeyMap String AccountRecord} {payload : AccountPayload}
    {columns : AccountColumns} {parentId : String}
    (knows : Knows accounts step (.parentNamed payload columns parentId)) :
    Knows accounts step (afterParent step payload columns (accounts.lookup parentId)) := by
  obtain ⟨selected, parentable⟩ := knows
  unfold afterParent
  cases found : accounts.lookup parentId with
  | none =>
    refine refused_of_parent selected fun valid => ?_
    rw [parentable.1, validAccountParent_iff] at valid
    obtain ⟨-, -, ⟨parent, isThere, -⟩, -⟩ := valid
    rw [found] at isThere
    cases isThere
  | some parent =>
    simp only
    split
    · rename_i bad
      refine refused_of_parent selected fun valid => ?_
      rw [parentable.1, validAccountParent_iff] at valid
      obtain ⟨-, -, ⟨other, isThere, book, type, root⟩, -⟩ := valid
      rw [found] at isThere
      cases isThere
      rcases bad with wrongBook | wrongType | hasParent
      · exact wrongBook book
      · exact wrongType type
      · rw [root] at hasParent
        cases hasParent
    · rename_i fits
      simp only [not_or, not_not] at fits
      exact ⟨selected, parentId, parentable, parent, found, fits.1, fits.2.1,
        Option.not_isSome_iff_eq_none.mp fits.2.2⟩

/-- The count of the children decides the rest. -/
theorem knows_afterCount {accounts : KeyMap String AccountRecord} {payload : AccountPayload}
    {columns : AccountColumns} (knows : Knows accounts step (.parentFound payload columns)) :
    Selected accounts step payload columns ∧
      (validAccountParent accounts step.bookId step.mutation.entityId columns.accountType
        columns.parentAccountId = true ↔
        ∀ id account, accounts.lookup id = some account →
          account.parentAccountId ≠ some step.mutation.entityId) := by
  obtain ⟨selected, parentId, parentable, parent, found, fits⟩ := knows
  refine ⟨selected, ?_⟩
  rw [parentable.1, validAccountParent_iff]
  exact ⟨fun valid => valid.2.2.2, fun none =>
    ⟨parentable.2.1, parentable.2.2, ⟨parent, found, fits⟩, none⟩⟩

theorem row_fields (payload : AccountPayload) (bookId entityId : String)
    (existing : Option AccountRecord) :
    let columns := payload.columns existing
    let row := payload.row bookId entityId columns existing
    row.name = payload.name ∧ row.accountType = columns.accountType ∧
      row.currency = columns.currency ∧ row.parentAccountId = columns.parentAccountId ∧
      row.version = columns.version := by
  cases existing with
  | none => exact ⟨rfl, rfl, rfl, rfl, rfl⟩
  | some existing => exact ⟨rfl, rfl, rfl, rfl, rfl⟩

/-- The row that is written is the one that is decided, and its change row is that of the memory
backend. -/
theorem decision_of_written {accounts : KeyMap String AccountRecord} {payload : AccountPayload}
    {columns : AccountColumns} {row : Option AccountRecord}
    (knows : Knows accounts step (.written payload columns row)) :
    ∃ record, row = some record ∧
      AccountDecision accounts step.bookId step.mutation (.ok record) ∧
      record.version = columns.version ∧
      ∀ memory : MemoryStore, accountChange memory step.bookId step.mutation record step.stamp =
        accountChangeRow step payload columns ((memory.changes.length : Int) + 1) := by
  obtain ⟨selected, valid, isRow⟩ := knows
  have fields := row_fields payload step.bookId step.mutation.entityId
    (accounts.lookup step.mutation.entityId)
  rw [selected.columns] at isRow valid ⊢
  obtain ⟨name, accountType, currency, parent, version⟩ := fields
  refine ⟨_, isRow, .accepted selected.parsed selected.finds valid, version, fun memory => ?_⟩
  rw [accountChange, accountChangeRow, name, accountType, currency, parent, version]
  rfl

end Knowledge

/-! ### The invariant -/

/-- The change rows of a book. -/
def changesOf (bookId : String) (changes : List ChangeRecord) : List ChangeRecord :=
  changes.filter fun change => change.bookId = bookId

theorem changesOf_append_self {bookId : String} {change : ChangeRecord}
    (inBook : change.bookId = bookId) (changes : List ChangeRecord) :
    changesOf bookId (changes ++ [change]) = changesOf bookId changes ++ [change] := by
  rw [changesOf, changesOf, List.filter_append]
  exact congrArg _ (List.filter_cons_of_pos (decide_eq_true inBook))

theorem changesOf_append_ne {bookId : String} {change : ChangeRecord}
    (elsewhere : change.bookId ≠ bookId) (changes : List ChangeRecord) :
    changesOf bookId (changes ++ [change]) = changesOf bookId changes := by
  rw [changesOf, changesOf, List.filter_append, List.filter_cons_of_neg (by simpa using elsewhere),
    List.filter_nil, List.append_nil]

section Commit

variable {database : PgStore} {step : PushStep} {writes : PendingWrites}

theorem commit_accounts_of_row {row : AccountRecord} (isRow : writes.row = some row) :
    (database.commit step writes).accounts =
      database.accounts.insert step.mutation.entityId row := by
  simp only [PgStore.commit, isRow]

theorem commit_accounts_of_none (nothing : writes.row = none) :
    (database.commit step writes).accounts = database.accounts := by
  simp only [PgStore.commit, nothing]

theorem commit_mutations_of_receipt {receipt : MutationReceipt}
    (isReceipt : writes.receipt = some receipt) :
    (database.commit step writes).mutations = database.mutations.insert step.key receipt := by
  simp only [PgStore.commit, isReceipt]

theorem commit_mutations_of_none (nothing : writes.receipt = none) :
    (database.commit step writes).mutations = database.mutations := by
  simp only [PgStore.commit, nothing]

/-- A commit writes the receipt of its own mutation only. -/
theorem commit_mutations_ne {key : MutationKey} (different : key ≠ step.key) :
    (database.commit step writes).mutations.lookup key = database.mutations.lookup key := by
  cases isReceipt : writes.receipt with
  | none => rw [commit_mutations_of_none isReceipt]
  | some receipt => rw [commit_mutations_of_receipt isReceipt, AList.lookup_insert_ne different]

/-- A commit takes no receipt away. -/
theorem commit_mutations_grow {key : MutationKey}
    (present : (database.mutations.lookup key).isSome = true) :
    ((database.commit step writes).mutations.lookup key).isSome = true := by
  cases isReceipt : writes.receipt with
  | none => rwa [commit_mutations_of_none isReceipt]
  | some receipt =>
    rw [commit_mutations_of_receipt isReceipt, KeyMap.lookup_insert_eq]
    split
    · rfl
    · exact present

end Commit

section Invariant

variable {Hash Session : Type} (hashtext : String → Hash)

/-- What holds of a session in the middle of a push: its locks, what it has learned, and how far
the memory store is ahead of the database for it. -/
structure Stands (locks : List (AdvisoryLock Hash × Session)) (database : PgStore)
    (memory : MemoryStore) (session : Session) (step : PushStep) (phase : Phase) : Prop where
  plain : ':' ∉ step.bookId.toList
  isAccount : step.mutation.entityType = "account"
  mutation : phase.holdsMutation = true → (mutationLock hashtext step, session) ∈ locks
  hierarchy : phase.holdsHierarchy = true → (hierarchyLock hashtext step, session) ∈ locks
  unanswered : phase.unanswered = true → memory.mutations.lookup step.key = none
  knows : Knows memory.accounts step phase
  row : ∀ row, phase.writes.row = some row →
    memory.accounts.lookup step.mutation.entityId = some row ∧
      (∃ key, step.mutation.entityId = scopedAccountId step.bookId key) ∧
      phase.writes.change.isSome = true
  change : ∀ change, phase.writes.change = some change → change.bookId = step.bookId ∧
    changesOf step.bookId memory.changes = changesOf step.bookId database.changes ++ [change]
  receipt : ∀ receipt, phase.writes.receipt = some receipt →
    memory.mutations.lookup step.key = some receipt ∧
      database.mutations.lookup step.key = none
  answered : phase.settled.isSome = true → phase.writes.receipt = none →
    (database.mutations.lookup step.key).isSome = true

/-- A push of the session is under way, with these writes to commit. -/
def AccountWorld.Writing (world : AccountWorld Hash Session) (session : Session)
    (step : PushStep) (writes : PendingWrites) : Prop :=
  ∃ request phase, world.sessions session = some (request, phase) ∧ request.step = step ∧
    phase.writes = writes

/-- The memory store is ahead of the database by what the sessions have not committed. -/
structure Follows (world : AccountWorld Hash Session) (memory : MemoryStore) : Prop where
  exclusive : ∀ lock first second, (lock, first) ∈ world.locks → (lock, second) ∈ world.locks →
    first = second
  sessions : ∀ session request phase, world.sessions session = some (request, phase) →
    Stands hashtext world.locks world.database memory session request.step phase
  accounts : ∀ id, (∀ session step writes row, world.Writing session step writes →
      writes.row = some row → step.mutation.entityId ≠ id) →
    world.database.accounts.lookup id = memory.accounts.lookup id
  changes : ∀ bookId, (∀ session step writes change, world.Writing session step writes →
      writes.change = some change → step.bookId ≠ bookId) →
    changesOf bookId world.database.changes = changesOf bookId memory.changes
  receipts : ∀ key, (∀ session step writes receipt, world.Writing session step writes →
      writes.receipt = some receipt → step.key ≠ key) →
    world.database.mutations.lookup key = memory.mutations.lookup key
  sequence : world.database.nextSequence = (memory.changes.length : Int) + 1
  placedMemory : AccountsPlaced memory.accounts
  placedDatabase : AccountsPlaced world.database.accounts

variable {hashtext} {world : AccountWorld Hash Session} {memory : MemoryStore} {session : Session}
  {request : AccountPush} {phase : Phase}

/-- Nobody is ahead of the database in a book whose hierarchy a session has locked without having
written. -/
theorem Follows.agreeOn (follows : Follows hashtext world memory)
    (found : world.sessions session = some (request, phase))
    (holds : (hierarchyLock hashtext request.step, session) ∈ world.locks)
    (nothing : phase.writes = .none) :
    AgreeOn request.step.bookId world.database.accounts memory.accounts := by
  intro key
  refine follows.accounts _ fun other step writes row writing written same => ?_
  obtain ⟨otherRequest, otherPhase, there, rfl, rfl⟩ := writing
  have stands := follows.sessions other otherRequest otherPhase there
  obtain ⟨-, ⟨otherKey, entity⟩, changed⟩ := stands.row row written
  have sameBook : otherRequest.step.bookId = request.step.bookId :=
    bookId_eq_of_scoped stands.plain (follows.sessions session request phase found).plain
      (entity.symm.trans same)
  have holdsToo : (hierarchyLock hashtext request.step, other) ∈ world.locks := by
    obtain ⟨change, isChange⟩ := Option.isSome_iff_exists.mp changed
    have lock := stands.hierarchy (Phase.holdsHierarchy_of_change isChange)
    rwa [hierarchyLock, sameBook] at lock
  obtain rfl := follows.exclusive _ _ _ holds holdsToo
  rw [found] at there
  cases there
  rw [nothing] at written
  cases written

/-- The database has the receipts of the memory store for a mutation that a session has locked
without having written. -/
theorem Follows.sameReceipt (follows : Follows hashtext world memory)
    (found : world.sessions session = some (request, phase))
    (holds : (mutationLock hashtext request.step, session) ∈ world.locks)
    (nothing : phase.writes = .none) :
    world.database.mutations.lookup request.step.key =
      memory.mutations.lookup request.step.key := by
  refine follows.receipts _ fun other step writes receipt writing written same => ?_
  obtain ⟨otherRequest, otherPhase, there, rfl, rfl⟩ := writing
  have stands := follows.sessions other otherRequest otherPhase there
  have holdsToo : (mutationLock hashtext request.step, other) ∈ world.locks := by
    have lock := stands.mutation (Phase.holdsMutation_of_receipt written)
    simp only [PushStep.key, Prod.mk.injEq] at same
    rwa [mutationLock, same.1, same.2.1, same.2.2] at lock
  obtain rfl := follows.exclusive _ _ _ holds holdsToo
  rw [found] at there
  cases there
  rw [nothing] at written
  cases written

/-- Nobody is ahead of the change rows of a book whose hierarchy a session has locked without
having written. -/
theorem Follows.sameChanges (follows : Follows hashtext world memory)
    (found : world.sessions session = some (request, phase))
    (holds : (hierarchyLock hashtext request.step, session) ∈ world.locks)
    (nothing : phase.writes = .none) :
    changesOf request.step.bookId world.database.changes =
      changesOf request.step.bookId memory.changes := by
  refine follows.changes _ fun other step writes change writing written same => ?_
  obtain ⟨otherRequest, otherPhase, there, rfl, rfl⟩ := writing
  have stands := follows.sessions other otherRequest otherPhase there
  have holdsToo : (hierarchyLock hashtext request.step, other) ∈ world.locks := by
    have lock := stands.hierarchy (Phase.holdsHierarchy_of_change written)
    rwa [hierarchyLock, same] at lock
  obtain rfl := follows.exclusive _ _ _ holds holdsToo
  rw [found] at there
  cases there
  rw [nothing] at written
  cases written

/-- The database never has a receipt that the memory store does not have. -/
theorem Follows.receipt_kept (follows : Follows hashtext world memory) {key : MutationKey}
    {receipt : MutationReceipt}
    (stored : world.database.mutations.lookup key = some receipt) :
    memory.mutations.lookup key = some receipt := by
  rw [← follows.receipts key, stored]
  intro other step writes pending writing written same
  obtain ⟨otherRequest, otherPhase, there, rfl, rfl⟩ := writing
  obtain ⟨-, missing⟩ := (follows.sessions other otherRequest otherPhase there).receipt pending
    written
  rw [same, stored] at missing
  cases missing

theorem AccountWorld.writing_self (found : world.sessions session = some (request, phase))
    {step : PushStep} {writes : PendingWrites} :
    world.Writing session step writes ↔ request.step = step ∧ phase.writes = writes := by
  constructor
  · rintro ⟨otherRequest, otherPhase, there, same⟩
    rw [found] at there
    cases there
    exact same
  · intro same
    exact ⟨request, phase, found, same⟩

/-- Taking more locks. -/
theorem Stands.mono {locks more : List (AdvisoryLock Hash × Session)} {database : PgStore}
    {step : PushStep} (stands : Stands hashtext locks database memory session step phase)
    (grows : ∀ lock, (lock, session) ∈ locks → (lock, session) ∈ more) :
    Stands hashtext more database memory session step phase :=
  { stands with
    mutation := fun locked => grows _ (stands.mutation locked)
    hierarchy := fun locked => grows _ (stands.hierarchy locked) }

/-- What a session is in the middle of stands when another one changes only what it has
locked. -/
theorem Follows.others (follows : Follows hashtext world memory) (request : AccountPush)
    (after : MemoryStore) (database : PgStore) {locks : List (AdvisoryLock Hash × Session)}
    (kept : ∀ lock other, other ≠ session → (lock, other) ∈ world.locks → (lock, other) ∈ locks)
    (placed : AccountsPlaced after.accounts)
    (book : ∀ bookId, ((hierarchyLock hashtext request.step, session) ∈ world.locks →
        bookId ≠ request.step.bookId) → ':' ∉ bookId.toList →
      AgreeOn bookId memory.accounts after.accounts ∧
        changesOf bookId after.changes = changesOf bookId memory.changes ∧
        changesOf bookId database.changes = changesOf bookId world.database.changes)
    (key : ∀ key, ((mutationLock hashtext request.step, session) ∈ world.locks →
        key ≠ request.step.key) →
      after.mutations.lookup key = memory.mutations.lookup key ∧
        database.mutations.lookup key = world.database.mutations.lookup key)
    (grows : ∀ key, (world.database.mutations.lookup key).isSome = true →
      (database.mutations.lookup key).isSome = true)
    {other : Session} {otherRequest : AccountPush} {otherPhase : Phase}
    (different : other ≠ session)
    (there : world.sessions other = some (otherRequest, otherPhase)) :
    Stands hashtext locks database after other otherRequest.step otherPhase := by
  have stands := follows.sessions other otherRequest otherPhase there
  have sameBook : otherPhase.holdsHierarchy = true →
      AgreeOn otherRequest.step.bookId memory.accounts after.accounts ∧
        changesOf otherRequest.step.bookId after.changes =
          changesOf otherRequest.step.bookId memory.changes ∧
        changesOf otherRequest.step.bookId database.changes =
          changesOf otherRequest.step.bookId world.database.changes := by
    intro locked
    refine book _ (fun holds same => different ?_) stands.plain
    have lock := stands.hierarchy locked
    rw [hierarchyLock, same] at lock
    exact follows.exclusive _ _ _ lock holds
  have sameKey : otherPhase.holdsMutation = true →
      after.mutations.lookup otherRequest.step.key =
          memory.mutations.lookup otherRequest.step.key ∧
        database.mutations.lookup otherRequest.step.key =
          world.database.mutations.lookup otherRequest.step.key := by
    intro locked
    refine key _ fun holds same => different ?_
    have lock := stands.mutation locked
    simp only [PushStep.key, Prod.mk.injEq] at same
    rw [mutationLock, same.1, same.2.1, same.2.2] at lock
    exact follows.exclusive _ _ _ lock holds
  refine ⟨stands.plain, stands.isAccount, fun locked => kept _ _ different (stands.mutation locked),
    fun locked => kept _ _ different (stands.hierarchy locked), fun isOpen => ?_,
    stands.knows.congr (fun locked => (sameBook locked).1) follows.placedMemory placed
      stands.plain, fun row written => ?_, fun change written => ?_, fun receipt written => ?_,
    fun settled nothing => grows _ (stands.answered settled nothing)⟩
  · rw [(sameKey (Phase.holdsMutation_of_unanswered isOpen)).1]
    exact stands.unanswered isOpen
  · obtain ⟨found, ⟨entityKey, entity⟩, changed⟩ := stands.row row written
    obtain ⟨change, isChange⟩ := Option.isSome_iff_exists.mp changed
    refine ⟨?_, ⟨entityKey, entity⟩, changed⟩
    rw [entity, ← (sameBook (Phase.holdsHierarchy_of_change isChange)).1 entityKey, ← entity]
    exact found
  · obtain ⟨inBook, ahead⟩ := stands.change change written
    obtain ⟨-, inMemory, inDatabase⟩ := sameBook (Phase.holdsHierarchy_of_change written)
    exact ⟨inBook, by rw [inMemory, inDatabase, ahead]⟩
  · obtain ⟨inMemory, inDatabase⟩ := sameKey (Phase.holdsMutation_of_receipt written)
    rw [inMemory, inDatabase]
    exact stands.receipt receipt written

section Steps

variable [DecidableEq Session]

theorem AccountWorld.writing_update_ne {other : Session} (different : other ≠ session)
    {entry : Option (AccountPush × Phase)} {database : PgStore}
    {locks : List (AdvisoryLock Hash × Session)} {answers : List (PushStep × MutationReceiptDto)}
    {step : PushStep} {writes : PendingWrites} :
    (AccountWorld.mk database locks (Function.update world.sessions session entry)
      answers).Writing other step writes ↔ world.Writing other step writes := by
  unfold AccountWorld.Writing
  simp only [Function.update_of_ne different]

/-- A session that has written nothing does not matter to what the others have written. -/
theorem AccountWorld.Writing.update (found : world.sessions session = some (request, phase))
    (nothing : phase.writes = .none) {entry : Option (AccountPush × Phase)} {database : PgStore}
    {locks : List (AdvisoryLock Hash × Session)} {answers : List (PushStep × MutationReceiptDto)}
    {other : Session} {step : PushStep} {writes : PendingWrites} (something : writes ≠ .none)
    (writing : world.Writing other step writes) :
    (AccountWorld.mk database locks (Function.update world.sessions session entry)
      answers).Writing other step writes := by
  by_cases isSession : other = session
  · subst isSession
    obtain ⟨-, rfl⟩ := (AccountWorld.writing_self found).mp writing
    exact absurd nothing something
  · exact (AccountWorld.writing_update_ne isSession).mpr writing

/-- A session that takes locks or reads. -/
theorem Follows.quiet (follows : Follows hashtext world memory)
    {locks : List (AdvisoryLock Hash × Session)} {entry : Option (AccountPush × Phase)}
    (grows : ∀ lock ∈ world.locks, lock ∈ locks)
    (exclusive : ∀ lock first second, (lock, first) ∈ locks → (lock, second) ∈ locks →
      first = second)
    (same : ∀ step writes, writes ≠ .none → world.Writing session step writes →
      ∃ request phase, entry = some (request, phase) ∧ request.step = step ∧ phase.writes = writes)
    (stands : ∀ request phase, entry = some (request, phase) →
      Stands hashtext locks world.database memory session request.step phase)
    (answers : List (PushStep × MutationReceiptDto)) :
    Follows hashtext
      ⟨world.database, locks, Function.update world.sessions session entry, answers⟩ memory := by
  have still : ∀ other step writes, writes ≠ .none → world.Writing other step writes →
      (AccountWorld.mk world.database locks (Function.update world.sessions session entry)
        answers).Writing other step writes := by
    intro other step writes something writing
    by_cases isSession : other = session
    · subst isSession
      obtain ⟨request, phase, isEntry, rest⟩ := same step writes something writing
      exact ⟨request, phase, (Function.update_self _ _ _).trans isEntry, rest⟩
    · exact (AccountWorld.writing_update_ne isSession).mpr writing
  refine ⟨exclusive, fun other otherRequest otherPhase there => ?_, fun id free => ?_,
    fun bookId free => ?_, fun key free => ?_, follows.sequence, follows.placedMemory,
    follows.placedDatabase⟩
  · change Function.update world.sessions session entry other = _ at there
    by_cases isSession : other = session
    · subst isSession
      rw [Function.update_self] at there
      exact stands otherRequest otherPhase there
    · rw [Function.update_of_ne isSession] at there
      exact (follows.sessions other otherRequest otherPhase there).mono fun lock => grows _
  · refine follows.accounts id fun other step writes row writing written => ?_
    refine free other step writes row (still other step writes ?_ writing) written
    rintro rfl
    cases written
  · refine follows.changes bookId fun other step writes change writing written => ?_
    refine free other step writes change (still other step writes ?_ writing) written
    rintro rfl
    cases written
  · refine follows.receipts key fun other step writes receipt writing written => ?_
    refine free other step writes receipt (still other step writes ?_ writing) written
    rintro rfl
    cases written

/-- A session writes its receipt and nothing else. -/
theorem Follows.settleReceipt (follows : Follows hashtext world memory)
    (found : world.sessions session = some (request, phase)) (nothing : phase.writes = .none)
    (locked : phase.holdsMutation = true) (unanswered : phase.unanswered = true)
    (receipt : MutationReceiptDto) :
    Follows hashtext (world.goTo session request (.closing ⟨none, none, some receipt.stored⟩ receipt))
      { memory with mutations := memory.mutations.insert request.step.key receipt.stored } := by
  have stands := follows.sessions session request phase found
  have holds := stands.mutation locked
  have missing := follows.sameReceipt found holds nothing
  rw [stands.unanswered unanswered] at missing
  refine ⟨follows.exclusive, fun other otherRequest otherPhase there => ?_, fun id free => ?_,
    fun bookId free => ?_, fun key free => ?_, follows.sequence, follows.placedMemory,
    follows.placedDatabase⟩
  · change Function.update world.sessions session _ other = _ at there
    by_cases isSession : other = session
    · subst isSession
      rw [Function.update_self] at there
      cases there
      refine ⟨stands.plain, stands.isAccount, fun _ => holds, (absurd · Bool.false_ne_true),
        (absurd · Bool.false_ne_true), trivial, fun row none => ?_, fun change none => ?_,
        fun pending isReceipt => ?_, fun _ none => ?_⟩
      · cases none
      · cases none
      · cases isReceipt
        exact ⟨AList.lookup_insert _, missing⟩
      · cases none
    · rw [Function.update_of_ne isSession] at there
      refine follows.others request
        { memory with mutations := memory.mutations.insert request.step.key receipt.stored }
        world.database (fun _ _ _ => id) follows.placedMemory (fun _ _ _ => ⟨fun _ => rfl, rfl, rfl⟩)
        (fun key different => ⟨?_, rfl⟩) (fun _ => id) isSession there
      exact AList.lookup_insert_ne (different holds)
  · refine follows.accounts id fun other step writes row writing written => ?_
    refine free other step writes row (.update found nothing ?_ writing) written
    rintro rfl
    cases written
  · refine follows.changes bookId fun other step writes change writing written => ?_
    refine free other step writes change (.update found nothing ?_ writing) written
    rintro rfl
    cases written
  · have different : request.step.key ≠ key :=
      free session request.step _ receipt.stored
        ⟨request, _, Function.update_self _ _ _, rfl, rfl⟩ rfl
    rw [AList.lookup_insert_ne different.symm]
    refine follows.receipts key fun other step writes pending writing written => ?_
    refine free other step writes pending (.update found nothing ?_ writing) written
    rintro rfl
    cases written

/-- A session draws its sequence number. -/
theorem Follows.settleWrite (follows : Follows hashtext world memory) {payload : AccountPayload}
    {columns : AccountColumns} {record : AccountRecord} (receipt : MutationReceiptDto)
    (found : world.sessions session = some (request, .written payload columns (some record)))
    (decision : AccountDecision memory.accounts request.step.bookId request.step.mutation
      (.ok record)) :
    let change := accountChangeRow request.step payload columns world.database.nextSequence
    Follows hashtext ({ world with database := { world.database with
          nextSequence := world.database.nextSequence + 1 } }.goTo session request
        (.logged (some record) change receipt))
      { memory with
        accounts := memory.accounts.insert request.step.mutation.entityId record
        changes := memory.changes ++ [change]
        mutations := memory.mutations.insert request.step.key receipt.stored } := by
  intro change
  have stands := follows.sessions session request _ found
  have holds := stands.mutation rfl
  have locked := stands.hierarchy rfl
  have missing := follows.sameReceipt found holds rfl
  rw [stands.unanswered rfl] at missing
  have sameChanges := follows.sameChanges found locked rfl
  obtain ⟨entityKey, entity⟩ := decision.writesAccount.placed
  have placed := decision.writesAccount.insert_placed follows.placedMemory stands.plain
  have elsewhere : ∀ bookId, bookId ≠ request.step.bookId →
      changesOf bookId (memory.changes ++ [change]) = changesOf bookId memory.changes := by
    exact fun bookId different => changesOf_append_ne different.symm _
  have writing : (AccountWorld.mk { world.database with
        nextSequence := world.database.nextSequence + 1 } world.locks
      (Function.update world.sessions session (some (request, .logged (some record) change
        receipt))) world.answers).Writing session request.step
      ⟨some record, some change, some receipt.stored⟩ :=
    ⟨request, _, Function.update_self _ _ _, rfl, rfl⟩
  refine ⟨follows.exclusive, fun other otherRequest otherPhase there => ?_, fun id free => ?_,
    fun bookId free => ?_, fun key free => ?_, ?_, placed, follows.placedDatabase⟩
  · change Function.update world.sessions session _ other = _ at there
    by_cases isSession : other = session
    · subst isSession
      rw [Function.update_self] at there
      cases there
      refine ⟨stands.plain, stands.isAccount, fun _ => holds, fun _ => locked,
        (absurd · Bool.false_ne_true), trivial, fun row isRow => ?_, fun row isRow => ?_,
        fun pending isReceipt => ?_, fun _ none => ?_⟩
      · cases isRow
        exact ⟨AList.lookup_insert _, ⟨entityKey, entity⟩, rfl⟩
      · cases isRow
        have inBook : change.bookId = request.step.bookId := rfl
        exact ⟨inBook, (changesOf_append_self inBook memory.changes).trans
          (congrArg (· ++ [change]) sameChanges.symm)⟩
      · cases isReceipt
        exact ⟨AList.lookup_insert _, missing⟩
      · cases none
    · rw [Function.update_of_ne isSession] at there
      refine follows.others request
        { memory with
          accounts := memory.accounts.insert request.step.mutation.entityId record
          changes := memory.changes ++ [change]
          mutations := memory.mutations.insert request.step.key receipt.stored }
        { world.database with nextSequence := world.database.nextSequence + 1 }
        (fun _ _ _ => id) placed (fun bookId different plain => ⟨fun key => ?_, ?_, rfl⟩)
        (fun key different => ⟨AList.lookup_insert_ne (different holds), rfl⟩) (fun _ => id)
        isSession there
      · refine (AList.lookup_insert_ne fun same => different locked ?_).symm
        exact bookId_eq_of_scoped plain stands.plain (same.trans entity)
      · exact elsewhere bookId (different locked)
  · have different := free session request.step _ record writing rfl
    rw [AList.lookup_insert_ne different.symm]
    refine follows.accounts id fun other step writes row writing written => ?_
    refine free other step writes row (.update found rfl ?_ writing) written
    rintro rfl
    cases written
  · have different := free session request.step _ change writing rfl
    rw [elsewhere bookId different.symm]
    refine follows.changes bookId fun other step writes pending writing written => ?_
    refine free other step writes pending (.update found rfl ?_ writing) written
    rintro rfl
    cases written
  · have different := free session request.step _ receipt.stored writing rfl
    rw [AList.lookup_insert_ne different.symm]
    refine follows.receipts key fun other step writes pending writing written => ?_
    refine free other step writes pending (.update found rfl ?_ writing) written
    rintro rfl
    cases written
  · show world.database.nextSequence + 1 = ((memory.changes ++ [change]).length : Int) + 1
    rw [follows.sequence, List.length_append, List.length_singleton, Nat.cast_add, Nat.cast_one]

/-! ### A commit -/

/-- The world after a session has committed and answered. -/
def AccountWorld.committed (world : AccountWorld Hash Session) (session : Session)
    (request : AccountPush) (writes : PendingWrites) (receipt : MutationReceiptDto) :
    AccountWorld Hash Session :=
  { world with database := world.database.commit request.step writes }.leave session request receipt

section Commit

variable {writes : PendingWrites} {receipt : MutationReceiptDto}

/-- Who writes before a commit writes after it as well, but for the session that commits. -/
theorem AccountWorld.Writing.committed
    (found : world.sessions session = some (request, .closing writes receipt)) {other : Session}
    {step : PushStep} {pending : PendingWrites} (writing : world.Writing other step pending) :
    (world.committed session request writes receipt).Writing other step pending ∨
      request.step = step ∧ writes = pending := by
  by_cases isSession : other = session
  · subst isSession
    exact .inr ((AccountWorld.writing_self found).mp writing)
  · exact .inl ((AccountWorld.writing_update_ne isSession).mpr writing)

omit [DecidableEq Session] in
/-- A commit adds a change to the book of its mutation only. -/
theorem Stands.changes_commit_ne
    (stands : Stands hashtext world.locks world.database memory session request.step
      (.closing writes receipt)) {bookId : String}
    (different : writes.change.isSome = true → bookId ≠ request.step.bookId) :
    changesOf bookId (world.database.commit request.step writes).changes =
      changesOf bookId world.database.changes := by
  show changesOf bookId (world.database.changes ++ writes.change.toList) = _
  cases isChange : writes.change with
  | none => rw [Option.toList_none, List.append_nil]
  | some change =>
    refine changesOf_append_ne ?_ _
    rw [(stands.change change isChange).1]
    exact (different (Option.isSome_iff_exists.mpr ⟨change, isChange⟩)).symm

/-- Every other push stands as before. -/
theorem Follows.stands_committed (follows : Follows hashtext world memory)
    (found : world.sessions session = some (request, .closing writes receipt)) {other : Session}
    {otherRequest : AccountPush} {otherPhase : Phase}
    (there : (world.committed session request writes receipt).sessions other =
      some (otherRequest, otherPhase)) :
    Stands hashtext (world.committed session request writes receipt).locks
      (world.database.commit request.step writes) memory other otherRequest.step otherPhase := by
  have stands := follows.sessions session request _ found
  change Function.update world.sessions session _ other = _ at there
  by_cases isSession : other = session
  · subst isSession
    rw [Function.update_self] at there
    cases there
    refine ⟨stands.plain, stands.isAccount, (absurd · Bool.false_ne_true),
      (absurd · Bool.false_ne_true), (absurd · Bool.false_ne_true), trivial,
      fun _ none => ?_, fun _ none => ?_, fun _ none => ?_, fun _ _ => ?_⟩
    · cases none
    · cases none
    · cases none
    · cases isReceipt : writes.receipt with
      | none => exact commit_mutations_grow (stands.answered rfl isReceipt)
      | some receipt =>
        rw [commit_mutations_of_receipt isReceipt, AList.lookup_insert]
        rfl
  · rw [Function.update_of_ne isSession] at there
    refine follows.others request memory (world.database.commit request.step writes)
      (fun lock holder different member => ?_) follows.placedMemory
      (fun bookId different _ => ⟨fun _ => rfl, rfl, ?_⟩)
      (fun key different => ⟨rfl, commit_mutations_ne (different (stands.mutation rfl))⟩)
      (fun key present => commit_mutations_grow present) isSession there
    · exact List.mem_filter.mpr ⟨member, decide_eq_true different⟩
    · exact stands.changes_commit_ne fun isChange => different (stands.hierarchy isChange)

/-- The database catches up with the account that the session has written, -/
theorem Follows.accounts_committed (follows : Follows hashtext world memory)
    (found : world.sessions session = some (request, .closing writes receipt)) {id : String}
    (free : ∀ other step pending row,
      (world.committed session request writes receipt).Writing other step pending →
        pending.row = some row → step.mutation.entityId ≠ id) :
    (world.database.commit request.step writes).accounts.lookup id = memory.accounts.lookup id := by
  have elsewhere : (∀ row, writes.row = some row → request.step.mutation.entityId ≠ id) →
      world.database.accounts.lookup id = memory.accounts.lookup id := by
    intro apart
    refine follows.accounts id fun other step pending row writing written => ?_
    rcases writing.committed found with still | ⟨rfl, rfl⟩
    · exact free other step pending row still written
    · exact apart row written
  cases isRow : writes.row with
  | some row =>
    rw [commit_accounts_of_row isRow]
    by_cases same : id = request.step.mutation.entityId
    · rw [same, AList.lookup_insert, ((follows.sessions session request _ found).row row isRow).1]
    · rw [AList.lookup_insert_ne same]
      exact elsewhere fun _ _ equal => same equal.symm
  | none =>
    rw [commit_accounts_of_none isRow]
    refine elsewhere fun row written => ?_
    rw [isRow] at written
    cases written

/-- with its change, -/
theorem Follows.changes_committed (follows : Follows hashtext world memory)
    (found : world.sessions session = some (request, .closing writes receipt)) {bookId : String}
    (free : ∀ other step pending change,
      (world.committed session request writes receipt).Writing other step pending →
        pending.change = some change → step.bookId ≠ bookId) :
    changesOf bookId (world.database.commit request.step writes).changes =
      changesOf bookId memory.changes := by
  have stands := follows.sessions session request _ found
  by_cases isChange : writes.change.isSome = true ∧ bookId = request.step.bookId
  · obtain ⟨isSome, rfl⟩ := isChange
    obtain ⟨change, isChange⟩ := Option.isSome_iff_exists.mp isSome
    obtain ⟨inBook, ahead⟩ := stands.change change isChange
    show changesOf _ (world.database.changes ++ writes.change.toList) = _
    rw [ahead, isChange, Option.toList_some, changesOf_append_self inBook]
  · rw [stands.changes_commit_ne fun isSome same => isChange ⟨isSome, same⟩]
    refine follows.changes bookId fun other step pending change writing written => ?_
    rcases writing.committed found with still | ⟨rfl, rfl⟩
    · exact free other step pending change still written
    · exact fun same => isChange ⟨Option.isSome_iff_exists.mpr ⟨change, written⟩, same.symm⟩

/-- and with its receipt. -/
theorem Follows.receipts_committed (follows : Follows hashtext world memory)
    (found : world.sessions session = some (request, .closing writes receipt)) {key : MutationKey}
    (free : ∀ other step pending stored,
      (world.committed session request writes receipt).Writing other step pending →
        pending.receipt = some stored → step.key ≠ key) :
    (world.database.commit request.step writes).mutations.lookup key =
      memory.mutations.lookup key := by
  have elsewhere : (∀ stored, writes.receipt = some stored → request.step.key ≠ key) →
      world.database.mutations.lookup key = memory.mutations.lookup key := by
    intro apart
    refine follows.receipts key fun other step pending stored writing written => ?_
    rcases writing.committed found with still | ⟨rfl, rfl⟩
    · exact free other step pending stored still written
    · exact apart stored written
  cases isReceipt : writes.receipt with
  | some stored =>
    rw [commit_mutations_of_receipt isReceipt]
    by_cases same : key = request.step.key
    · rw [same, AList.lookup_insert,
        ((follows.sessions session request _ found).receipt stored isReceipt).1]
    · rw [AList.lookup_insert_ne same]
      exact elsewhere fun _ _ equal => same equal.symm
  | none =>
    rw [commit_mutations_of_none isReceipt]
    refine elsewhere fun stored written => ?_
    rw [isReceipt] at written
    cases written

omit [DecidableEq Session] in
/-- Its accounts are of the books that their ids name. -/
theorem Follows.placed_committed (follows : Follows hashtext world memory)
    (found : world.sessions session = some (request, .closing writes receipt)) :
    AccountsPlaced (world.database.commit request.step writes).accounts := by
  intro id account isThere
  cases isRow : writes.row with
  | some row =>
    rw [commit_accounts_of_row isRow] at isThere
    rcases KeyMap.lookup_insert_eq_some isThere with ⟨rfl, rfl⟩ | ⟨-, before⟩
    · exact follows.placedMemory _ _ ((follows.sessions session request _ found).row _ isRow).1
    · exact follows.placedDatabase id account before
  | none =>
    rw [commit_accounts_of_none isRow] at isThere
    exact follows.placedDatabase id account isThere

/-- A session commits. -/
theorem Follows.commit (follows : Follows hashtext world memory)
    (found : world.sessions session = some (request, .closing writes receipt)) :
    Follows hashtext (world.committed session request writes receipt) memory where
  exclusive lock first second holdsFirst holdsSecond :=
    follows.exclusive lock first second (List.mem_of_mem_filter holdsFirst)
      (List.mem_of_mem_filter holdsSecond)
  sessions _ _ _ there := follows.stands_committed found there
  accounts _ free := follows.accounts_committed found free
  changes _ free := follows.changes_committed found free
  receipts _ free := follows.receipts_committed found free
  sequence := follows.sequence
  placedMemory := follows.placedMemory
  placedDatabase := follows.placed_committed found

end Commit

omit [DecidableEq Session] in
/-- After a commit nobody is ahead of the database in the book. -/
theorem Follows.agreeOn_commit (follows : Follows hashtext world memory) {writes : PendingWrites}
    {receipt : MutationReceiptDto}
    (found : world.sessions session = some (request, .closing writes receipt))
    {row : AccountRecord} (isRow : writes.row = some row) :
    AgreeOn request.step.bookId memory.accounts
      (world.database.commit request.step writes).accounts := by
  have stands := follows.sessions session request _ found
  obtain ⟨inMemory, -, changed⟩ := stands.row row isRow
  obtain ⟨change, isChange⟩ := Option.isSome_iff_exists.mp changed
  have holds := stands.hierarchy (Phase.holdsHierarchy_of_change isChange)
  intro key
  rw [commit_accounts_of_row isRow, KeyMap.lookup_insert_eq]
  split
  · rename_i isEntity
    rw [isEntity, inMemory]
  · rename_i notEntity
    refine (follows.accounts _ fun other step pending otherRow writing written same => ?_).symm
    obtain ⟨otherRequest, otherPhase, there, rfl, rfl⟩ := writing
    have otherStands := follows.sessions other otherRequest otherPhase there
    obtain ⟨-, ⟨otherKey, entity⟩, otherChanged⟩ := otherStands.row otherRow written
    obtain ⟨otherChange, isOther⟩ := Option.isSome_iff_exists.mp otherChanged
    have sameBook : otherRequest.step.bookId = request.step.bookId :=
      bookId_eq_of_scoped otherStands.plain stands.plain (entity.symm.trans same)
    have lock := otherStands.hierarchy (Phase.holdsHierarchy_of_change isOther)
    rw [hierarchyLock, sameBook] at lock
    obtain rfl := follows.exclusive _ _ _ holds lock
    rw [found] at there
    cases there
    exact notEntity same.symm

end Steps

end Invariant

end Ledgerly
