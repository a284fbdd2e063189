/-
This file models pushes of account mutations on PostgreSQL that run at the same time, one
statement of `process_account_mutation_pg` at a time.

A database transaction reads what is committed when the statement runs (read committed), keeps
its own writes to itself until it commits, and holds its advisory locks until then. A sequence
number is drawn when the change row is inserted. Row locks and the waits on unique keys only
delay a statement; they are left out here, which leaves more interleavings. A unique key that is
taken fails the statement, and the transaction is rolled back.
-/

import Mathlib.Logic.Function.Basic
import Ledgerly.AccountDecision
import Ledgerly.Postgres

namespace Ledgerly

/-! ### Advisory locks -/

/-- The namespace of the locks on mutation ids, -/
def accountMutationLockNamespace : Int := 0x4C410001

/-- of those on the accounts of a book, -/
def accountHierarchyLockNamespace : Int := 0x4C410002

/-- and of those on single accounts. -/
def accountEntityLockNamespace : Int := 0x4C410003

/-- The two keys of `pg_advisory_xact_lock(namespace, hashtext(text))`. -/
abbrev AdvisoryLock (Hash : Type) := Int × Hash

section Locks

variable {Hash : Type} (hashtext : String → Hash) (step : PushStep)

/-- The lock on the mutation, which keeps a second push of it waiting. -/
def mutationLock : AdvisoryLock Hash :=
  (accountMutationLockNamespace, hashtext
    (step.bookId ++ ":mutation:" ++ step.deviceId ++ ":" ++ step.mutation.mutationId))

/-- The lock on the tree of the book's accounts. -/
def hierarchyLock : AdvisoryLock Hash :=
  (accountHierarchyLockNamespace, hashtext (step.bookId ++ ":account-hierarchy"))

/-- The lock on the account that the mutation names. -/
def entityLock : AdvisoryLock Hash :=
  (accountEntityLockNamespace, hashtext (step.bookId ++ ":account:" ++ step.mutation.entityId))

end Locks

/-! ### Transactions -/

/-- A push of an account mutation to a book of the server. The id of the book is a UUID. -/
structure AccountPush where
  step : PushStep
  isAccount : step.mutation.entityType = "account"
  plain : ':' ∉ step.bookId.toList

/-- What a transaction has written and not committed. -/
structure PendingWrites where
  row : Option AccountRecord
  change : Option ChangeRecord
  receipt : Option MutationReceipt

/-- A transaction that has only read. -/
def PendingWrites.none : PendingWrites := ⟨.none, .none, .none⟩

/-- The writes of a transaction, as its commit makes them visible. -/
def PgStore.commit (store : PgStore) (step : PushStep) (writes : PendingWrites) : PgStore :=
  { store with
    accounts := match writes.row with
      | some row => store.accounts.insert step.mutation.entityId row
      | none => store.accounts
    changes := store.changes ++ writes.change.toList
    mutations := match writes.receipt with
      | some receipt => store.mutations.insert step.key receipt
      | none => store.mutations }

/-- Where a push stands, named by what has been done: each phase has the statement that comes
next. -/
inductive Phase where
  /-- `push` has found no receipt; the lock of the mutation is next. -/
  | asked
  /-- The select of the receipt is next. -/
  | mutationLocked
  /-- The payload is refused; its receipt is next. -/
  | malformed (receipt : MutationReceiptDto)
  /-- The lock of the hierarchy is next. -/
  | parsed (payload : AccountPayload)
  /-- The lock of the account is next. -/
  | hierarchyLocked (payload : AccountPayload)
  /-- The select of the account is next. -/
  | entityLocked (payload : AccountPayload)
  /-- The select of the parent is next. -/
  | parentNamed (payload : AccountPayload) (columns : AccountColumns) (parentId : String)
  /-- The count of the children is next. -/
  | parentFound (payload : AccountPayload) (columns : AccountColumns)
  /-- The insert or update of the account is next. -/
  | accepted (payload : AccountPayload) (columns : AccountColumns)
  /-- The insert of the change is next. -/
  | written (payload : AccountPayload) (columns : AccountColumns) (row : Option AccountRecord)
  /-- The insert of the receipt is next. -/
  | logged (row : Option AccountRecord) (change : ChangeRecord) (receipt : MutationReceiptDto)
  /-- The mutation is refused; its receipt is next. -/
  | refused (receipt : MutationReceiptDto)
  /-- The commit is next. -/
  | closing (writes : PendingWrites) (receipt : MutationReceiptDto)
  /-- The transaction has ended; the insert of the receipt by `push` is next. -/
  | ended (receipt : MutationReceiptDto)

/-- `valid_account_parent_pg` up to its first query. -/
def checkParent (step : PushStep) (payload : AccountPayload) (columns : AccountColumns) : Phase :=
  match columns.parentAccountId with
  | none => .accepted payload columns
  | some parentId =>
    if columns.accountType ∉ ["expense", "income"] ∨ parentId = step.mutation.entityId then
      .refused (rejectedReceipt step.mutation "INVALID_CATEGORY_PARENT" none)
    else .parentNamed payload columns parentId

/-- What follows the select of the account. -/
def afterSelect (step : PushStep) (payload : AccountPayload) (existing : Option AccountRecord) :
    Phase :=
  if step.mutation.operation = "create" then
    match existing with
    | some existing =>
      .refused (rejectedReceipt step.mutation "LEDGER_VERSION_CONFLICT" (some existing.version))
    | none => checkParent step payload (payload.columns none)
  else
    match existing with
    | none => .refused (rejectedReceipt step.mutation "ACCOUNT_NOT_FOUND" none)
    | some existing =>
      if existing.bookId ≠ step.bookId then
        .refused (rejectedReceipt step.mutation "ACCOUNT_NOT_FOUND" none)
      else checkParent step payload (payload.columns (some existing))

/-- What follows the select of the parent. -/
def afterParent (step : PushStep) (payload : AccountPayload) (columns : AccountColumns)
    (parent : Option AccountRecord) : Phase :=
  match parent with
  | none => .refused (rejectedReceipt step.mutation "INVALID_CATEGORY_PARENT" none)
  | some parent =>
    if parent.bookId ≠ step.bookId ∨ parent.accountType ≠ columns.accountType ∨
        parent.parentAccountId.isSome then
      .refused (rejectedReceipt step.mutation "INVALID_CATEGORY_PARENT" none)
    else .parentFound payload columns

/-- The change row of `INSERT INTO sync_changes`. -/
def accountChangeRow (step : PushStep) (payload : AccountPayload) (columns : AccountColumns)
    (sequence : Int) : ChangeRecord where
  sequence := sequence
  bookId := step.bookId
  commitId := step.stamp.commitId
  entityType := "account"
  entityId := step.mutation.entityId
  operation := "upsert"
  entityVersion := columns.version
  payload := canonicalAccountPayload payload.name columns.accountType columns.currency
    columns.parentAccountId

/-! ### The world -/

section World

variable (Hash Session : Type)

/-- The database, who holds which lock, where every session stands, and what has been
answered. -/
structure AccountWorld where
  database : PgStore
  locks : List (AdvisoryLock Hash × Session)
  sessions : Session → Option (AccountPush × Phase)
  answers : List (PushStep × MutationReceiptDto)

/-- A database no account has been pushed to yet. -/
def AccountWorld.initial (accounts : KeyMap String AccountRecord) : AccountWorld Hash Session where
  database := .initial accounts
  locks := []
  sessions _ := none
  answers := []

/-- A session gets a push to answer, or comes to its next statement. -/
inductive AccountEvent where
  | ask (session : Session) (request : AccountPush)
  | advance (session : Session)

variable {Hash Session} [DecidableEq Hash] [DecidableEq Session] (hashtext : String → Hash)
  (world : AccountWorld Hash Session) (session : Session) (request : AccountPush)

/-- The session goes on with its request in another phase. -/
def AccountWorld.goTo (phase : Phase) : AccountWorld Hash Session :=
  { world with sessions := Function.update world.sessions session (some (request, phase)) }

/-- A statement that takes a lock waits until nobody else holds it. -/
def AccountWorld.take (lock : AdvisoryLock Hash) (phase : Phase) : AccountWorld Hash Session :=
  if world.locks.all fun entry => entry.1 ≠ lock || entry.2 = session then
    { world with locks := (lock, session) :: world.locks }.goTo session request phase
  else world

/-- The transaction is over. -/
def AccountWorld.leave (receipt : MutationReceiptDto) : AccountWorld Hash Session :=
  { world with locks := world.locks.filter fun entry => entry.2 ≠ session }.goTo session request
    (.ended receipt)

/-- The statement violates a unique constraint. -/
def AccountWorld.rollback : AccountWorld Hash Session :=
  world.leave session request (dbErrorReceipt request.step.mutation)

/-- `insert_pg_receipt`. -/
def AccountWorld.insertReceipt (row : Option AccountRecord) (change : Option ChangeRecord)
    (receipt : MutationReceiptDto) : AccountWorld Hash Session :=
  if (world.database.mutations.lookup request.step.key).isSome then
    world.rollback session request
  else world.goTo session request (.closing ⟨row, change, some receipt.stored⟩ receipt)

/-- The next statement of a session. -/
def AccountWorld.statement : Phase → AccountWorld Hash Session
  | .asked => world.take session request (mutationLock hashtext request.step) .mutationLocked
  | .mutationLocked =>
    match world.database.mutations.lookup request.step.key with
    | some existing => world.goTo session request
        (.closing .none (existing.replayed request.step.mutation.mutationId))
    | none =>
      match parseAccountPayload request.step.bookId request.step.mutation with
      | .error receipt => world.goTo session request (.malformed receipt)
      | .ok payload => world.goTo session request (.parsed payload)
  | .malformed receipt => world.insertReceipt session request none none receipt
  | .parsed payload =>
    world.take session request (hierarchyLock hashtext request.step) (.hierarchyLocked payload)
  | .hierarchyLocked payload =>
    world.take session request (entityLock hashtext request.step) (.entityLocked payload)
  | .entityLocked payload => world.goTo session request (afterSelect request.step payload
      (world.database.accounts.lookup request.step.mutation.entityId))
  | .parentNamed payload columns parentId => world.goTo session request
      (afterParent request.step payload columns (world.database.accounts.lookup parentId))
  | .parentFound payload columns =>
    if (world.database.accounts.values.filter fun account =>
        account.parentAccountId = some request.step.mutation.entityId).length = 0 then
      world.goTo session request (.accepted payload columns)
    else world.goTo session request
      (.refused (rejectedReceipt request.step.mutation "INVALID_CATEGORY_PARENT" none))
  | .accepted payload columns =>
    if request.step.mutation.operation = "create" then
      if (world.database.accounts.lookup request.step.mutation.entityId).isSome then
        world.rollback session request
      else world.goTo session request (.written payload columns
        (some (payload.row request.step.bookId request.step.mutation.entityId columns none)))
    else world.goTo session request (.written payload columns
      (((world.database.accounts.lookup request.step.mutation.entityId).filter fun existing =>
        existing.bookId = request.step.bookId).map fun existing =>
          payload.row request.step.bookId request.step.mutation.entityId columns (some existing)))
  | .written payload columns row =>
    { world with database := { world.database with
        nextSequence := world.database.nextSequence + 1 } }.goTo session request
      (.logged row (accountChangeRow request.step payload columns world.database.nextSequence)
        (appliedReceipt request.step.mutation columns.version))
  | .logged row change receipt => world.insertReceipt session request row (some change) receipt
  | .refused receipt => world.insertReceipt session request none none receipt
  | .closing writes receipt =>
    { world with database := world.database.commit request.step writes }.leave session request
      receipt
  | .ended receipt =>
    { world with
      database := if (world.database.mutations.lookup request.step.key).isSome then world.database
        else { world.database with
          mutations := world.database.mutations.insert request.step.key receipt.stored }
      sessions := Function.update world.sessions session none
      answers := world.answers ++ [(request.step, receipt)] }

/-- One step. A session answers one push after the other; `push` looks for a receipt before the
transaction begins. -/
def AccountWorld.step : AccountEvent Session → AccountWorld Hash Session
  | .ask session request =>
    match world.sessions session with
    | some _ => world
    | none =>
      match world.database.mutations.lookup request.step.key with
      | some existing => { world with
          answers := world.answers ++
            [(request.step, existing.replayed request.step.mutation.mutationId)] }
      | none => world.goTo session request .asked
  | .advance session =>
    match world.sessions session with
    | none => world
    | some (request, phase) => world.statement hashtext session request phase

end World

end Ledgerly
