/-
This file settles that pushes of accounts and transactions on PostgreSQL never wait for each
other in a circle.

A push takes advisory locks, locks rows that it selects for update and the accounts that its
entries refer to, and waits where it inserts a unique key that another transaction has inserted
and not committed. Which of these it asks for depends on what it reads; the answers are left
open here. Every path asks in one order of the kinds: the locks of the mutation, the hierarchy
and the account, the lock of the transaction, its row, its keys, accounts, and the receipt last.
Two modes are needed for the accounts: an entry shares its account with other entries, and an
account push excludes them.
-/

import Ledgerly.Library.LockOrder
import Ledgerly.AccountSerial

namespace Ledgerly

open Locking

/-- What a push may wait for. -/
inductive SyncLock (Hash : Type) where
  /-- `pg_advisory_xact_lock(namespace, hashtext(text))` -/
  | pair (lock : AdvisoryLock Hash)
  /-- `pg_advisory_xact_lock(hashtext(text))` -/
  | single (hash : Hash)
  | transactionRow (id : String)
  | transactionKey (id : String)
  /-- An entry of `uq_transactions_auto_event`. -/
  | eventKey (bookId fingerprint : String)
  | accountRow (id : String)
  | accountKey (id : String)
  | receiptKey (key : MutationKey)

/-- The two strengths of a lock on a row. -/
inductive LockMode where
  | exclusive
  | keyShare
  deriving DecidableEq

/-- Two sessions can have a lock at once only if both share it. -/
def LockMode.conflicts (first second : LockMode) : Prop :=
  ¬(first = .keyShare ∧ second = .keyShare)

section Programs

variable {Hash : Type}

/-- A program of a session. -/
abbrev SyncProgram (Hash : Type) := Program (SyncLock Hash) LockMode

/-- A request that excludes everybody else. -/
def askAlone (lock : SyncLock Hash) (next : SyncProgram Hash) : SyncProgram Hash :=
  .ask ⟨lock, .exclusive⟩ next

/-- `insert_pg_receipt`, and the commit after it. -/
def receiptLocks (step : PushStep) : SyncProgram Hash := askAlone (.receiptKey step.key) .done

/-- A lock that is needed only for some rows. -/
def askIf (lock : Option (SyncLock Hash)) (next : SyncProgram Hash) : SyncProgram Hash :=
  match lock with
  | some lock => askAlone lock next
  | none => next

variable (hashtext : String → Hash) (step : PushStep)

/-- `process_account_mutation_pg` from the select of the account on. The checks of the parent
only read. -/
def accountWriteLocks (payload : AccountPayload) (existing : Option AccountRecord) :
    SyncProgram Hash :=
  match afterSelect step payload existing with
  | .refused _ => receiptLocks step
  | _ => .read fun valid : Bool =>
    if valid then
      askIf (if step.mutation.operation = "create" then
        some (.accountKey step.mutation.entityId) else none) (receiptLocks step)
    else receiptLocks step

/-- `process_account_mutation_pg`. -/
def accountLocks : SyncProgram Hash :=
  askAlone (.pair (mutationLock hashtext step)) <| .read fun receipt : Option MutationReceipt =>
    match receipt with
    | some _ => .done
    | none =>
      match parseAccountPayload step.bookId step.mutation with
      | .error _ => receiptLocks step
      | .ok payload =>
        askAlone (.pair (hierarchyLock hashtext step)) <|
        askAlone (.pair (entityLock hashtext step)) <|
        .read fun existing : Option AccountRecord =>
          askIf (existing.map fun _ => .accountRow step.mutation.entityId)
            (accountWriteLocks step payload existing)

/-- The foreign keys of the entries that are inserted, one after the other. -/
def entryLocks (drafts : List EntryDraft) (next : SyncProgram Hash) : SyncProgram Hash :=
  drafts.foldr (fun draft rest => .ask ⟨.accountRow draft.accountId, .keyShare⟩ rest) next

/-- The entry of `uq_transactions_auto_event` that a row has. -/
def eventLock (row : TxRecord) : Option (SyncLock Hash) :=
  row.autoLedgerIndex.map fun entry => .eventKey entry.1 entry.2

/-- The delete of `process_mutation_pg`. The row leaves the index, and whoever inserts its key
waits for the end of the transaction. -/
def deleteLocks (existing : Option TxRecord) : SyncProgram Hash :=
  match existing with
  | none => receiptLocks step
  | some existing =>
    if step.mutation.baseVersion ≠ 0 ∧ step.mutation.baseVersion ≠ existing.version then
      receiptLocks step
    else askIf (eventLock existing) (receiptLocks step)

/-- The update of `process_mutation_pg`. An entry of the index that the row has, or gets, is
written. -/
def updateLocks [Rfc3339] (requestedOccurredAt : Option Timestamp) (drafts : List EntryDraft)
    (existing : TxRecord) : SyncProgram Hash :=
  if step.mutation.operation = "create" ∨ step.mutation.baseVersion ≠ existing.version then
    receiptLocks step
  else askIf ((eventLock existing).or
      (eventLock (updatedRow step.mutation existing requestedOccurredAt drafts)))
    (entryLocks drafts (receiptLocks step))

/-- The insert of `process_mutation_pg`, after the select of a duplicate. -/
def insertLocks [Rfc3339] (requestedOccurredAt : Option Timestamp) (drafts : List EntryDraft) :
    SyncProgram Hash :=
  let row := insertedRow step.bookId step.mutation requestedOccurredAt drafts step.stamp.now
  let insert : SyncProgram Hash := askAlone (.transactionKey step.mutation.entityId) <|
    askIf (eventLock row) (entryLocks drafts (receiptLocks step))
  if (autoLedgerFingerprint step.mutation).isSome then
    .read fun duplicate : Option (String × Int) =>
      match duplicate with
      | some _ => receiptLocks step
      | none => insert
  else insert

/-- `process_mutation_pg` from the select of the transaction on. -/
def transactionWriteLocks [Rfc3339] (write : Option TxRecord → SyncProgram Hash) :
    SyncProgram Hash :=
  .read fun existing : Option TxRecord =>
    askIf (existing.map fun _ => .transactionRow step.mutation.entityId) (write existing)

/-- `process_mutation_pg` from its advisory lock to the select of the receipt. -/
def transactionLocks (next : SyncProgram Hash) : SyncProgram Hash :=
  askAlone (.single (hashtext (step.bookId ++ ":" ++ step.mutation.entityId))) <|
    .read fun receipt : Option MutationReceipt =>
      match receipt with
      | some _ => .done
      | none => next

/-- `process_mutation_pg`. -/
def mutationLocks [Rfc3339] : SyncProgram Hash :=
  if step.mutation.entityType = "account" then accountLocks hashtext step
  else if step.mutation.entityType ≠ "transaction" then .done
  else if step.mutation.operation = "delete" then
    transactionLocks hashtext step (transactionWriteLocks step (deleteLocks step))
  else
    match checkedDrafts step.mutation with
    | .error _ => .done
    | .ok (requestedOccurredAt, drafts) =>
      transactionLocks hashtext step <| .read fun known : Bool =>
        if known then transactionWriteLocks step fun existing =>
          match existing with
          | some existing => updateLocks step requestedOccurredAt drafts existing
          | none => insertLocks step requestedOccurredAt drafts
        else receiptLocks step

/-- What a session of the server runs: the transaction of a mutation, or the insert of the
receipt that `push` makes afterwards on its own. -/
def SyncStarts [Rfc3339] (program : SyncProgram Hash) : Prop :=
  ∃ step : PushStep, program = mutationLocks hashtext step ∨ program = receiptLocks step

end Programs

/-! ### The order -/

section Order

variable {Hash : Type}

/-- The order of the kinds. -/
def lockRank : Request (SyncLock Hash) LockMode → Nat
  | ⟨.pair lock, _⟩ =>
    if lock.1 = accountMutationLockNamespace then 1
    else if lock.1 = accountHierarchyLockNamespace then 2
    else 3
  | ⟨.single _, _⟩ => 4
  | ⟨.transactionRow _, _⟩ => 5
  | ⟨.transactionKey _, _⟩ => 6
  | ⟨.eventKey _ _, _⟩ => 7
  | ⟨.accountRow _, .exclusive⟩ => 8
  | ⟨.accountRow _, .keyShare⟩ => 9
  | ⟨.accountKey _, _⟩ => 10
  | ⟨.receiptKey _, _⟩ => 11

/-- The highest rank of a request that waits for a lock. A shared account makes only the
account pushes wait, which ask for it early. -/
def lockBound : Request (SyncLock Hash) LockMode → Nat
  | ⟨.accountRow _, .exclusive⟩ => 9
  | ⟨.accountRow _, .keyShare⟩ => 8
  | request => lockRank request

theorem lockRank_le_bound {request held : Request (SyncLock Hash) LockMode}
    (clash : Clash LockMode.conflicts request held) : lockRank request ≤ lockBound held := by
  obtain ⟨lock, mode⟩ := request
  obtain ⟨heldLock, heldMode⟩ := held
  obtain ⟨same, conflict⟩ := clash
  simp only at same conflict
  subst same
  cases lock with
  | accountRow id =>
    cases mode with
    | exclusive =>
      cases heldMode with
      | exclusive => exact Nat.le_succ 8
      | keyShare => exact Nat.le_refl 8
    | keyShare =>
      cases heldMode with
      | exclusive => exact Nat.le_refl 9
      | keyShare => exact absurd ⟨rfl, rfl⟩ conflict
  | _ => exact Nat.le_refl _

variable {level : Nat} {step : PushStep} {next : SyncProgram Hash}

/-- The program rises above a level. -/
abbrev RisesAbove (level : Nat) (program : SyncProgram Hash) : Prop :=
  Rises lockRank lockBound level program

theorem receiptLocks_rises (low : level < 11) :
    RisesAbove level (receiptLocks step : SyncProgram Hash) :=
  ⟨low, trivial⟩

theorem askIf_rises {lock : Option (SyncLock Hash)} {high : Nat}
    (ranks : ∀ taken, lock = some taken →
      level < lockRank ⟨taken, .exclusive⟩ ∧ lockBound ⟨taken, .exclusive⟩ ≤ high)
    (rises : RisesAbove (max level high) next) : RisesAbove level (askIf lock next) := by
  cases lock with
  | none => exact rises.mono (le_max_left _ _)
  | some taken =>
    obtain ⟨rank, bound⟩ := ranks taken rfl
    exact ⟨rank, rises.mono (max_le_max le_rfl bound)⟩

/-- The entries share their accounts, so that their requests may come in any order. -/
theorem entryLocks_rises (drafts : List EntryDraft) (low : level < 9) :
    RisesAbove level (entryLocks drafts (receiptLocks step) : SyncProgram Hash) := by
  induction drafts generalizing level with
  | nil => exact receiptLocks_rises (low.trans (by decide))
  | cons draft rest inductionHypothesis =>
    exact ⟨low, inductionHypothesis (max_lt low (by decide : 8 < 9))⟩

/-- An optional entry of the index. -/
theorem askIf_eventLock_rises {lock : Option (SyncLock Hash)}
    (isEvent : ∀ taken, lock = some taken → ∃ bookId fingerprint, taken = .eventKey bookId fingerprint)
    (low : level < 7) (rises : RisesAbove 7 next) : RisesAbove level (askIf lock next) := by
  refine askIf_rises (fun taken isSome => ?_) (by rwa [max_eq_right low.le])
  obtain ⟨bookId, fingerprint, rfl⟩ := isEvent taken isSome
  exact ⟨low, Nat.le_refl 7⟩

theorem eventLock_eq_some {row : TxRecord} {taken : SyncLock Hash}
    (isSome : eventLock row = some taken) :
    ∃ bookId fingerprint, taken = .eventKey bookId fingerprint := by
  obtain ⟨entry, -, rfl⟩ := Option.map_eq_some_iff.mp isSome
  exact ⟨entry.1, entry.2, rfl⟩

variable (step)

theorem deleteLocks_rises (existing : Option TxRecord) (low : level < 7) :
    RisesAbove level (deleteLocks step existing : SyncProgram Hash) := by
  have receipt : ∀ {above : Nat}, above < 11 →
      RisesAbove above (receiptLocks step : SyncProgram Hash) := receiptLocks_rises
  unfold deleteLocks
  split
  · exact receipt (low.trans (by decide))
  · split
    · exact receipt (low.trans (by decide))
    · exact askIf_eventLock_rises (fun _ => eventLock_eq_some) low (receipt (by decide))

variable [Rfc3339] (requestedOccurredAt : Option Timestamp) (drafts : List EntryDraft)

theorem updateLocks_rises (existing : TxRecord) (low : level < 7) :
    RisesAbove level (updateLocks step requestedOccurredAt drafts existing : SyncProgram Hash) := by
  unfold updateLocks
  split
  · exact receiptLocks_rises (low.trans (by decide))
  · refine askIf_eventLock_rises (fun taken isSome => ?_) low (entryLocks_rises drafts (by decide))
    rcases Option.or_eq_some_iff.mp isSome with before | ⟨-, after⟩
    · exact eventLock_eq_some before
    · exact eventLock_eq_some after

theorem insertLocks_rises (low : level < 6) :
    RisesAbove level (insertLocks step requestedOccurredAt drafts : SyncProgram Hash) := by
  have inserts : RisesAbove level (askAlone (.transactionKey step.mutation.entityId)
      (askIf (eventLock (insertedRow step.bookId step.mutation requestedOccurredAt drafts
        step.stamp.now)) (entryLocks drafts (receiptLocks step))) : SyncProgram Hash) := by
    refine ⟨low, askIf_eventLock_rises (fun _ => eventLock_eq_some) ?_
      (entryLocks_rises drafts (by decide))⟩
    exact max_lt (low.trans (by decide)) (by decide : 6 < 7)
  unfold insertLocks
  simp only
  split
  · intro duplicate
    cases duplicate with
    | some _ => exact receiptLocks_rises (low.trans (by decide))
    | none => exact inserts
  · exact inserts

theorem transactionWriteLocks_rises (low : level < 5) {write : Option TxRecord → SyncProgram Hash}
    (rises : ∀ existing, RisesAbove 5 (write existing)) :
    RisesAbove level (transactionWriteLocks step write) := by
  intro existing
  refine askIf_rises (fun taken isSome => ?_) (by rw [max_eq_right low.le]; exact rises existing)
  obtain ⟨row, -, rfl⟩ := Option.map_eq_some_iff.mp isSome
  exact ⟨low, Nat.le_refl 5⟩

omit [Rfc3339] in
theorem accountWriteLocks_rises (payload : AccountPayload) (existing : Option AccountRecord)
    (low : level < 10) :
    RisesAbove level (accountWriteLocks step payload existing : SyncProgram Hash) := by
  have receipt : RisesAbove level (receiptLocks step : SyncProgram Hash) :=
    receiptLocks_rises (low.trans (by decide))
  unfold accountWriteLocks
  split
  · exact receipt
  · intro valid
    cases valid with
    | false => exact receipt
    | true =>
      refine askIf_rises (fun taken isSome => ?_)
        (receiptLocks_rises (max_lt (low.trans (by decide)) (by decide : 10 < 11)))
      split at isSome
      · cases isSome
        exact ⟨low, Nat.le_refl 10⟩
      · cases isSome

omit [Rfc3339] in
theorem accountLocks_rises (hashtext : String → Hash) :
    RisesAbove 0 (accountLocks hashtext step) := by
  refine ⟨(by decide : 0 < 1), fun receipt => ?_⟩
  cases receipt with
  | some _ => trivial
  | none =>
    show RisesAbove 1 _
    cases parseAccountPayload step.bookId step.mutation with
    | error _ => exact receiptLocks_rises (by decide)
    | ok payload =>
      refine ⟨(by decide : 1 < 2), (by decide : 2 < 3), fun existing => ?_⟩
      show RisesAbove 3 _
      refine askIf_rises (fun taken isSome => ?_)
        (accountWriteLocks_rises step payload existing (by decide : max 3 9 < 10))
      obtain ⟨row, -, rfl⟩ := Option.map_eq_some_iff.mp isSome
      exact ⟨(by decide : 3 < 8), Nat.le_refl 9⟩

/-- Every transaction of a push asks in the order. -/
theorem mutationLocks_rises (hashtext : String → Hash) :
    RisesAbove 0 (mutationLocks hashtext step) := by
  have guarded : ∀ {next : SyncProgram Hash}, RisesAbove 4 next →
      RisesAbove 0 (transactionLocks hashtext step next) := by
    refine fun rises => ⟨(by decide : 0 < 4), fun receipt => ?_⟩
    cases receipt with
    | some _ => trivial
    | none => exact rises
  unfold mutationLocks
  split
  · exact accountLocks_rises step hashtext
  · split
    · trivial
    · split
      · exact guarded (transactionWriteLocks_rises step (by decide) fun existing =>
          deleteLocks_rises step existing (by decide))
      · split
        · trivial
        · refine guarded fun known => ?_
          cases known with
          | false => exact receiptLocks_rises (by decide)
          | true =>
            refine transactionWriteLocks_rises step (by decide) fun existing => ?_
            cases existing with
            | some existing => exact updateLocks_rises step _ _ existing (by decide)
            | none => exact insertLocks_rises step _ _ (by decide)

omit step in
/-- In no state that any number of concurrent pushes can reach, whatever they read and however
the lock keys collide, is there a circle of transactions that each wait for a lock of the
next. -/
theorem sync_never_circles {Session : Type} [DecidableEq Session] (hashtext : String → Hash)
    {table : Session → State (SyncLock Hash) LockMode}
    (reachable : Reachable LockMode.conflicts (SyncStarts hashtext) table) (session : Session) :
    ¬Relation.TransGen (WaitsFor LockMode.conflicts table) session session := by
  have rises : ∀ program, SyncStarts hashtext program → RisesAbove 0 program := by
    rintro program ⟨step, rfl | rfl⟩
    · exact mutationLocks_rises step hashtext
    · exact receiptLocks_rises (by decide)
  exact no_circle (fun _ _ => lockRank_le_bound) rises reachable session

omit [Rfc3339] in
/-- Two pushes whose lock keys collide: one waits for the other, and there is no circle. -/
theorem colliding_pushes_wait : let := epochClock
    ∃ table : Bool → State (SyncLock Unit) LockMode,
      WaitsFor LockMode.conflicts table false true ∧
      ∀ session, ¬Relation.TransGen (WaitsFor LockMode.conflicts table) session session := by
  intro clock
  let phone := (moveUnder "phone" "book:food" "Food" "book:fun").step
  let tablet := (moveUnder "tablet" "book:fun" "Fun" "book:food").step
  let hashtext : String → Unit := fun _ => ()
  have started : Step LockMode.conflicts (SyncStarts hashtext) (fun _ : Bool => .idle) _ :=
    Step.start true ⟨phone, Or.inl rfl⟩ rfl
  have both := (Relation.ReflTransGen.single started).tail
    (Step.start false ⟨tablet, Or.inl rfl⟩ rfl)
  have reachable := both.tail (Step.take true rfl fun other different held member => by
    cases other with
    | true => exact absurd rfl different
    | false => exact absurd member List.not_mem_nil)
  refine ⟨_, ⟨by decide, ?_⟩, sync_never_circles hashtext reachable⟩
  refine ⟨⟨.pair (mutationLock hashtext tablet), .exclusive⟩, _, rfl,
    ⟨.pair (mutationLock hashtext phone), .exclusive⟩, List.mem_cons_self, rfl, ?_⟩
  exact fun both => absurd both.1 (by decide)

end Order

end Ledgerly
