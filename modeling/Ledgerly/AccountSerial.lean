/-
This file proves that account pushes on PostgreSQL that run at the same time come to what some
order of them comes to on the memory backend, one after the other: the same receipts, accounts
and change rows.
-/

import Mathlib.Data.List.Perm.Basic
import Ledgerly.AccountInterleaving

namespace Ledgerly

/-! ### The order -/

/-- Pushes in an order, the receipts the memory backend gives them, and the store it ends in. -/
structure Serial [Rfc3339] (start : MemoryStore) (order : List (PushStep × MutationReceiptDto))
    (memory : MemoryStore) : Prop where
  run : Machine.run pushStep start (order.map Prod.fst) = memory
  receipts : pushReceipts start (order.map Prod.fst) = order.map Prod.snd

theorem pushReceipts_concat [Rfc3339] (start : MemoryStore) (steps : List PushStep)
    (step : PushStep) : pushReceipts start (steps ++ [step]) =
      pushReceipts start steps ++ [pushReceipt (Machine.run pushStep start steps) step] := by
  induction steps generalizing start with
  | nil => rfl
  | cons head rest inductionHypothesis =>
    rw [List.cons_append, pushReceipts, inductionHypothesis, pushReceipts, List.cons_append,
      Machine.run_cons]

/-- One more push. -/
theorem Serial.concat [Rfc3339] {start memory : MemoryStore}
    {order : List (PushStep × MutationReceiptDto)} (serial : Serial start order memory)
    (step : PushStep) :
    Serial start (order ++ [(step, pushReceipt memory step)]) (pushStep memory step) := by
  refine ⟨?_, ?_⟩
  · rw [List.map_append, List.map_singleton, Machine.run_concat, serial.run]
  · rw [List.map_append, List.map_singleton, pushReceipts_concat, serial.run, serial.receipts,
      List.map_append, List.map_singleton]

section Waiting

variable {Session : Type} {sessions : Session → Option (AccountPush × Phase)}
  {waiting : List (Session × PushStep × MutationReceiptDto)}

/-- A session has settled on a receipt and has not answered yet. -/
def Settled (sessions : Session → Option (AccountPush × Phase)) (session : Session)
    (step : PushStep) (receipt : MutationReceiptDto) : Prop :=
  ∃ request phase, sessions session = some (request, phase) ∧ request.step = step ∧
    phase.settled = some receipt

/-- The list of the sessions that have settled and not answered. -/
structure Waits (sessions : Session → Option (AccountPush × Phase))
    (waiting : List (Session × PushStep × MutationReceiptDto)) : Prop where
  complete : ∀ session step receipt,
    (session, step, receipt) ∈ waiting ↔ Settled sessions session step receipt
  nodup : waiting.Nodup

variable [DecidableEq Session] {session : Session} {request : AccountPush} {phase : Phase}

theorem settled_update_ne {other : Session} (different : other ≠ session)
    {entry : Option (AccountPush × Phase)} {step : PushStep} {receipt : MutationReceiptDto} :
    Settled (Function.update sessions session entry) other step receipt ↔
      Settled sessions other step receipt := by
  unfold Settled
  simp only [Function.update_of_ne different]

theorem settled_update_self {entry : Option (AccountPush × Phase)} {step : PushStep}
    {receipt : MutationReceiptDto} :
    Settled (Function.update sessions session entry) session step receipt ↔
      ∃ request phase, entry = some (request, phase) ∧ request.step = step ∧
        phase.settled = some receipt := by
  unfold Settled
  simp only [Function.update_self]

omit [DecidableEq Session] in
/-- A session whose next phase has settled on the same has settled on nothing new. -/
theorem settled_iff_of_found {request : AccountPush} {phase next : Phase}
    (found : sessions session = some (request, phase)) (same : next.settled = phase.settled)
    (step : PushStep) (receipt : MutationReceiptDto) :
    Settled sessions session step receipt ↔
      ∃ other later, some (request, next) = some (other, later) ∧ other.step = step ∧
        later.settled = some receipt := by
  constructor
  · rintro ⟨other, earlier, there, rfl, isSettled⟩
    rw [found] at there
    cases there
    exact ⟨request, next, rfl, rfl, same.trans isSettled⟩
  · rintro ⟨other, later, there, rfl, isSettled⟩
    cases there
    exact ⟨request, phase, found, rfl, same.symm.trans isSettled⟩

/-- A session that settles on nothing new. -/
theorem Waits.same (waits : Waits sessions waiting) {entry : Option (AccountPush × Phase)}
    (same : ∀ step receipt, Settled sessions session step receipt ↔
      ∃ request phase, entry = some (request, phase) ∧ request.step = step ∧
        phase.settled = some receipt) :
    Waits (Function.update sessions session entry) waiting := by
  refine ⟨fun other step receipt => ?_, waits.nodup⟩
  rw [waits.complete]
  by_cases isSession : other = session
  · subst isSession
    rw [settled_update_self, same]
  · rw [settled_update_ne isSession]

/-- A session settles. -/
theorem Waits.settle (waits : Waits sessions waiting)
    (before : ∀ step receipt, ¬Settled sessions session step receipt)
    {receipt : MutationReceiptDto} (settled : phase.settled = some receipt) :
    Waits (Function.update sessions session (some (request, phase)))
      ((session, request.step, receipt) :: waiting) := by
  refine ⟨fun other step pending => ?_, List.nodup_cons.mpr ⟨fun member => ?_, waits.nodup⟩⟩
  · rw [List.mem_cons, waits.complete]
    by_cases isSession : other = session
    · subst isSession
      rw [settled_update_self]
      constructor
      · rintro (same | already)
        · cases same
          exact ⟨request, phase, rfl, rfl, settled⟩
        · exact absurd already (before _ _)
      · rintro ⟨otherRequest, otherPhase, same, rfl, isSettled⟩
        cases same
        rw [settled] at isSettled
        cases isSettled
        exact Or.inl rfl
    · rw [settled_update_ne isSession]
      refine or_iff_right fun same => isSession ?_
      exact congrArg Prod.fst same
  · exact before _ _ ((waits.complete _ _ _).mp member)

/-- A session answers. -/
theorem Waits.answer (waits : Waits sessions waiting)
    (found : sessions session = some (request, phase)) {receipt : MutationReceiptDto}
    (settled : phase.settled = some receipt) :
    ∃ rest, waiting.Perm ((session, request.step, receipt) :: rest) ∧
      Waits (Function.update sessions session none) rest := by
  have member : (session, request.step, receipt) ∈ waiting :=
    (waits.complete _ _ _).mpr ⟨request, phase, found, rfl, settled⟩
  obtain ⟨before, after, rfl⟩ := List.append_of_mem member
  have perm := @List.perm_middle _ (session, request.step, receipt) before after
  have nodup := perm.nodup_iff.mp waits.nodup
  obtain ⟨notMember, restNodup⟩ := List.nodup_cons.mp nodup
  refine ⟨before ++ after, perm, fun other step pending => ?_, restNodup⟩
  by_cases isSession : other = session
  · subst isSession
    rw [settled_update_self]
    constructor
    · intro inRest
      obtain ⟨otherRequest, otherPhase, there, rfl, isSettled⟩ :=
        (waits.complete _ _ _).mp (perm.mem_iff.mpr (List.mem_cons_of_mem _ inRest))
      rw [found] at there
      cases there
      rw [settled] at isSettled
      cases isSettled
      exact absurd inRest notMember
    · rintro ⟨_, _, none, -⟩
      cases none
  · rw [settled_update_ne isSession, ← waits.complete, perm.mem_iff, List.mem_cons]
    exact (or_iff_right fun same => isSession (congrArg Prod.fst same)).symm

end Waiting

/-! ### The simulation -/

section Single

variable {Hash Session : Type} {hashtext : String → Hash} {memory : MemoryStore}
  {world : AccountWorld Hash Session} {session : Session} {request : AccountPush}
  {phase next : Phase}

/-- What stands for a phase in which nothing is written. -/
theorem Stands.reading {locks more : List (AdvisoryLock Hash × Session)}
    (stands : Stands hashtext locks world.database memory session request.step phase)
    (mutation : next.holdsMutation = true → (mutationLock hashtext request.step, session) ∈ more)
    (hierarchy : next.holdsHierarchy = true →
      (hierarchyLock hashtext request.step, session) ∈ more)
    (unanswered : next.unanswered = true → memory.mutations.lookup request.step.key = none)
    (knows : Knows memory.accounts request.step next) (writes : next.writes = .none)
    (settled : next.settled = none) :
    Stands hashtext more world.database memory session request.step next := by
  refine ⟨stands.plain, stands.isAccount, mutation, hierarchy, unanswered, knows,
    fun _ none => ?_, fun _ none => ?_, fun _ none => ?_, fun isSome => ?_⟩
  · rw [writes] at none
    cases none
  · rw [writes] at none
    cases none
  · rw [writes] at none
    cases none
  · rw [settled] at isSome
    cases isSome

theorem not_settled (found : world.sessions session = some (request, phase))
    (settled : phase.settled = none) (step : PushStep) (receipt : MutationReceiptDto) :
    ¬Settled world.sessions session step receipt := by
  rintro ⟨otherRequest, otherPhase, there, -, isSettled⟩
  rw [found] at there
  cases there
  rw [settled] at isSettled
  cases isSettled

variable [Rfc3339]

/-- A refused mutation on the memory backend. -/
theorem pushStep_refused {step : PushStep} {receipt : MutationReceiptDto}
    (isAccount : step.mutation.entityType = "account")
    (unanswered : memory.mutations.lookup step.key = none)
    (decision : AccountDecision memory.accounts step.bookId step.mutation (.error receipt)) :
    pushStep memory step =
        { memory with mutations := memory.mutations.insert step.key receipt.stored } ∧
      pushReceipt memory step = receipt := by
  rw [pushStep_processed unanswered, pushReceipt_processed unanswered, processMutationMem,
    if_pos isAccount, decision.refuses step.stamp]
  exact ⟨rfl, rfl⟩

/-- An accepted mutation on the memory backend. -/
theorem pushStep_written {step : PushStep} {record : AccountRecord}
    (isAccount : step.mutation.entityType = "account")
    (unanswered : memory.mutations.lookup step.key = none)
    (decision : AccountDecision memory.accounts step.bookId step.mutation (.ok record)) :
    pushStep memory step = { memory with
        accounts := memory.accounts.insert step.mutation.entityId record
        changes := memory.changes ++
          [accountChange memory step.bookId step.mutation record step.stamp]
        mutations := memory.mutations.insert step.key
          (appliedReceipt step.mutation record.version).stored } ∧
      pushReceipt memory step = appliedReceipt step.mutation record.version := by
  rw [pushStep_processed unanswered, pushReceipt_processed unanswered, processMutationMem,
    if_pos isAccount, decision.writes step.stamp]
  exact ⟨rfl, rfl⟩

/-- A session that has found its receipt. -/
theorem pushStep_found {step : PushStep} (follows : Follows hashtext world memory)
    {existing : MutationReceipt}
    (stored : world.database.mutations.lookup step.key = some existing) :
    pushStep memory step = memory ∧
      pushReceipt memory step = existing.replayed step.mutation.mutationId :=
  ⟨pushStep_replayed (follows.receipt_kept stored),
    pushReceipt_replayed (follows.receipt_kept stored)⟩

end Single

theorem afterSelect_reads (step : PushStep) (payload : AccountPayload)
    (existing : Option AccountRecord) :
    (afterSelect step payload existing).writes = .none ∧
      (afterSelect step payload existing).settled = none := by
  have check : ∀ columns, (checkParent step payload columns).writes = .none ∧
      (checkParent step payload columns).settled = none := by
    intro columns
    unfold checkParent
    split
    · exact ⟨rfl, rfl⟩
    · split
      · exact ⟨rfl, rfl⟩
      · exact ⟨rfl, rfl⟩
  unfold afterSelect
  split
  · split
    · exact ⟨rfl, rfl⟩
    · exact check _
  · split
    · exact ⟨rfl, rfl⟩
    · split
      · exact ⟨rfl, rfl⟩
      · exact check _

theorem afterParent_reads (step : PushStep) (payload : AccountPayload) (columns : AccountColumns)
    (parent : Option AccountRecord) :
    (afterParent step payload columns parent).writes = .none ∧
      (afterParent step payload columns parent).settled = none := by
  unfold afterParent
  split
  · exact ⟨rfl, rfl⟩
  · split
    · exact ⟨rfl, rfl⟩
    · exact ⟨rfl, rfl⟩

section Simulation

variable [Rfc3339] {Hash Session : Type} [DecidableEq Hash] [DecidableEq Session]
  (hashtext : String → Hash)

/-- The pushes that have settled, in the order in which they did, bring the memory backend to a
store that the world follows. -/
structure Refines (start : MemoryStore) (world : AccountWorld Hash Session) (memory : MemoryStore)
    (order : List (PushStep × MutationReceiptDto))
    (waiting : List (Session × PushStep × MutationReceiptDto)) : Prop where
  follows : Follows hashtext world memory
  serial : Serial start order memory
  waits : Waits world.sessions waiting
  answered : order.Perm (world.answers ++ waiting.map Prod.snd)
  tree : CategoryTree start.accounts →
    CategoryTree memory.accounts ∧ CategoryTree world.database.accounts

/-- Some order of pushes brings the memory backend to where the world is. -/
def Refined (start : MemoryStore) (world : AccountWorld Hash Session) : Prop :=
  ∃ memory order waiting, Refines hashtext start world memory order waiting

variable {hashtext} {start memory : MemoryStore} {world : AccountWorld Hash Session}
  {order : List (PushStep × MutationReceiptDto)}
  {waiting : List (Session × PushStep × MutationReceiptDto)} {session : Session}
  {request : AccountPush} {phase next : Phase}

omit [DecidableEq Hash] in
/-- A session that reads, or takes locks, and settles on nothing. -/
theorem Refines.read (refines : Refines hashtext start world memory order waiting)
    (found : world.sessions session = some (request, phase))
    {locks : List (AdvisoryLock Hash × Session)} (grows : ∀ lock ∈ world.locks, lock ∈ locks)
    (exclusive : ∀ lock first second, (lock, first) ∈ locks → (lock, second) ∈ locks →
      first = second)
    (before : phase.writes = .none) (unsettled : phase.settled = none)
    (settled : next.settled = none)
    (stands : Stands hashtext locks world.database memory session request.step next) :
    Refines hashtext start ({ world with locks := locks }.goTo session request next) memory order
      waiting := by
  refine ⟨refines.follows.quiet grows exclusive (fun step writes something writing => ?_)
    (fun otherRequest otherPhase same => ?_) world.answers, refines.serial,
    refines.waits.same fun step receipt => ?_, refines.answered, refines.tree⟩
  · obtain ⟨-, rfl⟩ := (AccountWorld.writing_self found).mp writing
    exact absurd before something
  · cases same
    exact stands
  · refine iff_of_false (not_settled found unsettled step receipt) ?_
    rintro ⟨otherRequest, otherPhase, same, -, isSettled⟩
    cases same
    rw [settled] at isSettled
    cases isSettled

/-- A session takes a lock, or waits. -/
theorem Refines.take (refines : Refines hashtext start world memory order waiting)
    (found : world.sessions session = some (request, phase)) (lock : AdvisoryLock Hash)
    (before : phase.writes = .none) (unsettled : phase.settled = none)
    (settled : next.settled = none)
    (stands : Stands hashtext ((lock, session) :: world.locks) world.database memory session
      request.step next) :
    Refines hashtext start (world.take session request lock next) memory order waiting := by
  unfold AccountWorld.take
  split
  · rename_i free
    have onlyMe : ∀ holder, (lock, holder) ∈ world.locks → holder = session := by
      intro holder member
      have mine := List.all_eq_true.mp free (lock, holder) member
      simpa using mine
    refine refines.read found (fun _ => List.mem_cons_of_mem _) ?_ before unsettled settled stands
    intro other first second firstHolds secondHolds
    rcases List.mem_cons.mp firstHolds with isFirst | isOld
    · cases isFirst
      rcases List.mem_cons.mp secondHolds with isSecond | isOld
      · cases isSecond
        rfl
      · exact (onlyMe second isOld).symm
    · rcases List.mem_cons.mp secondHolds with isSecond | alsoOld
      · cases isSecond
        exact onlyMe first isOld
      · exact refines.follows.exclusive other first second isOld alsoOld
  · exact refines

omit [DecidableEq Hash] in
/-- A session settles on a receipt. -/
theorem Refines.settle (refines : Refines hashtext start world memory order waiting)
    (found : world.sessions session = some (request, phase)) (unsettled : phase.settled = none)
    {receipt : MutationReceiptDto} (settled : next.settled = some receipt)
    (answers : pushReceipt memory request.step = receipt) {database : PgStore}
    {locks : List (AdvisoryLock Hash × Session)}
    (follows : Follows hashtext ⟨database, locks, Function.update world.sessions session
      (some (request, next)), world.answers⟩ (pushStep memory request.step))
    (tree : CategoryTree memory.accounts ∧ CategoryTree world.database.accounts →
      CategoryTree (pushStep memory request.step).accounts ∧ CategoryTree database.accounts) :
    Refines hashtext start ⟨database, locks, Function.update world.sessions session
        (some (request, next)), world.answers⟩ (pushStep memory request.step)
      (order ++ [(request.step, receipt)]) ((session, request.step, receipt) :: waiting) := by
  refine ⟨follows, ?_, refines.waits.settle (not_settled found unsettled) settled, ?_,
    fun before => tree (refines.tree before)⟩
  · rw [← answers]
    exact refines.serial.concat request.step
  · rw [List.map_cons]
    exact (List.perm_append_singleton _ _).trans
      ((refines.answered.cons _).trans List.perm_middle.symm)

omit [DecidableEq Hash] in
/-- A session writes the receipt of a refusal. -/
theorem Refines.refuse (refines : Refines hashtext start world memory order waiting)
    (found : world.sessions session = some (request, phase)) (nothing : phase.writes = .none)
    (unsettled : phase.settled = none) (unanswered : phase.unanswered = true)
    {receipt : MutationReceiptDto}
    (decision : AccountDecision memory.accounts request.step.bookId request.step.mutation
      (.error receipt)) :
    Refined hashtext start (world.insertReceipt session request none none receipt) := by
  have stands := refines.follows.sessions session request phase found
  have locked := Phase.holdsMutation_of_unanswered unanswered
  have missing := refines.follows.sameReceipt found (stands.mutation locked) nothing
  rw [stands.unanswered unanswered] at missing
  obtain ⟨stepped, answers⟩ := pushStep_refused stands.isAccount (stands.unanswered unanswered)
    decision
  have follows := refines.follows.settleReceipt found nothing locked unanswered receipt
  rw [← stepped] at follows
  rw [AccountWorld.insertReceipt, if_neg (by rw [missing]; decide)]
  refine ⟨_, _, _, refines.settle found unsettled rfl answers follows fun trees => ⟨?_, trees.2⟩⟩
  rw [stepped]
  exact trees.1

/-- A session draws its sequence number. -/
theorem Refines.log (refines : Refines hashtext start world memory order waiting)
    {payload : AccountPayload} {columns : AccountColumns} {row : Option AccountRecord}
    (found : world.sessions session = some (request, .written payload columns row)) :
    Refined hashtext start
      (world.statement hashtext session request (.written payload columns row)) := by
  have stands := refines.follows.sessions session request _ found
  obtain ⟨record, rfl, decision, version, logged⟩ := decision_of_written stands.knows
  obtain ⟨stepped, answers⟩ := pushStep_written stands.isAccount (stands.unanswered rfl) decision
  rw [version, logged memory, ← refines.follows.sequence] at stepped
  rw [version] at answers
  have follows := refines.follows.settleWrite (appliedReceipt request.step.mutation columns.version)
    found decision
  dsimp only at follows
  rw [← stepped] at follows
  refine ⟨_, _, _, refines.settle found rfl rfl answers follows fun trees => ⟨?_, trees.2⟩⟩
  rw [stepped]
  exact decision.writesAccount.tree trees.1

omit [DecidableEq Hash] in
/-- A session that has drawn its sequence number writes its receipt. -/
theorem Refines.conclude (refines : Refines hashtext start world memory order waiting)
    {row : Option AccountRecord} {change : ChangeRecord} {receipt : MutationReceiptDto}
    (found : world.sessions session = some (request, .logged row change receipt)) :
    Refined hashtext start (world.insertReceipt session request row (some change) receipt) := by
  have stands := refines.follows.sessions session request _ found
  obtain ⟨-, missing⟩ := stands.receipt receipt.stored rfl
  rw [AccountWorld.insertReceipt, if_neg (by rw [missing]; decide)]
  refine ⟨_, _, _, refines.follows.quiet (fun _ => id) refines.follows.exclusive
    (fun step writes _ writing => ?_) (fun otherRequest otherPhase same => ?_) world.answers,
    refines.serial, refines.waits.same fun step pending => ?_, refines.answered, refines.tree⟩
  · obtain ⟨rfl, rfl⟩ := (AccountWorld.writing_self found).mp writing
    exact ⟨request, _, rfl, rfl, rfl⟩
  · cases same
    exact ⟨stands.plain, stands.isAccount, fun _ => stands.mutation rfl,
      fun _ => stands.hierarchy rfl, (absurd · Bool.false_ne_true), trivial, stands.row,
      stands.change, stands.receipt, fun _ none => by cases none⟩
  · exact settled_iff_of_found found (by rfl) step pending

omit [DecidableEq Hash] in
/-- A session commits. -/
theorem Refines.commit (refines : Refines hashtext start world memory order waiting)
    {writes : PendingWrites} {receipt : MutationReceiptDto}
    (found : world.sessions session = some (request, .closing writes receipt)) :
    Refined hashtext start ({ world with
      database := world.database.commit request.step writes }.leave session request receipt) := by
  refine ⟨_, _, _, refines.follows.commit found, refines.serial,
    refines.waits.same fun step pending => ?_, refines.answered, fun before => ?_⟩
  · exact settled_iff_of_found found (by rfl) step pending
  · obtain ⟨treeMemory, treeDatabase⟩ := refines.tree before
    refine ⟨treeMemory, ?_⟩
    have placed := (refines.follows.commit found).placedDatabase
    change CategoryTree (world.database.commit request.step writes).accounts
    cases isRow : writes.row with
    | none =>
      rw [commit_accounts_of_none isRow]
      exact treeDatabase
    | some row =>
      have here := refines.follows.agreeOn_commit found isRow
      obtain ⟨-, ⟨entityKey, entity⟩, -⟩ :=
        (refines.follows.sessions session request _ found).row row isRow
      refine CategoryTree.of_agree placed treeMemory treeDatabase fun book plain => ?_
      by_cases same : book = request.step.bookId
      · exact Or.inl (same ▸ here)
      · refine Or.inr fun key => ?_
        rw [commit_accounts_of_row isRow]
        refine (AList.lookup_insert_ne fun isEntity => same ?_).symm
        exact bookId_eq_of_scoped plain (refines.follows.sessions session request _ found).plain
          (isEntity.trans entity)

/-- A session answers. -/
theorem Refines.answer (refines : Refines hashtext start world memory order waiting)
    {receipt : MutationReceiptDto}
    (found : world.sessions session = some (request, .ended receipt)) :
    Refined hashtext start (world.statement hashtext session request (.ended receipt)) := by
  have stands := refines.follows.sessions session request _ found
  have stored := stands.answered rfl rfl
  obtain ⟨rest, perm, waits⟩ := refines.waits.answer found rfl
  have follows : Follows hashtext ⟨world.database, world.locks,
      Function.update world.sessions session none,
      world.answers ++ [(request.step, receipt)]⟩ memory := by
    refine refines.follows.quiet (fun _ => id) refines.follows.exclusive
      (fun step writes something writing => ?_) (fun _ _ none => ?_) _
    · obtain ⟨-, rfl⟩ := (AccountWorld.writing_self found).mp writing
      exact absurd rfl something
    · cases none
  refine ⟨memory, order, rest, ?_⟩
  rw [AccountWorld.statement, if_pos stored]
  refine ⟨follows, refines.serial, waits, ?_, refines.tree⟩
  refine refines.answered.trans ?_
  rw [List.append_assoc]
  exact (perm.map Prod.snd).append_left _

omit [DecidableEq Hash] in
/-- A session that holds the lock of the hierarchy reads, and stays within the transaction. -/
theorem Refines.readOn (refines : Refines hashtext start world memory order waiting)
    (found : world.sessions session = some (request, phase)) (before : phase.writes = .none)
    (unsettled : phase.settled = none) (mutation : phase.holdsMutation = true)
    (hierarchy : phase.holdsHierarchy = true) (unanswered : phase.unanswered = true)
    (knows : Knows memory.accounts request.step next) (writes : next.writes = .none)
    (settled : next.settled = none) :
    Refined hashtext start (world.goTo session request next) := by
  have stands := refines.follows.sessions session request phase found
  refine ⟨_, _, _, refines.read found (fun _ => id) refines.follows.exclusive before unsettled
    settled (stands.reading (fun _ => stands.mutation mutation)
      (fun _ => stands.hierarchy hierarchy) (fun _ => stands.unanswered unanswered) knows writes
      settled)⟩

/-- The select of the receipt. -/
theorem Refines.lookUp (refines : Refines hashtext start world memory order waiting)
    (found : world.sessions session = some (request, .mutationLocked)) :
    Refined hashtext start (world.statement hashtext session request .mutationLocked) := by
  have stands := refines.follows.sessions session request _ found
  have holds := stands.mutation rfl
  have same := refines.follows.sameReceipt found holds rfl
  rw [AccountWorld.statement]
  cases stored : world.database.mutations.lookup request.step.key with
  | some existing =>
    obtain ⟨stepped, answers⟩ := pushStep_found refines.follows stored
    refine ⟨_, _, _, refines.settle found rfl rfl answers ?_ fun trees => ?_⟩
    · rw [stepped]
      refine refines.follows.quiet (fun _ => id) refines.follows.exclusive
        (fun step writes something writing => ?_) (fun otherRequest otherPhase isEntry => ?_) _
      · obtain ⟨-, rfl⟩ := (AccountWorld.writing_self found).mp writing
        exact absurd rfl something
      · cases isEntry
        refine ⟨stands.plain, stands.isAccount, fun _ => holds, (absurd · Bool.false_ne_true),
          (absurd · Bool.false_ne_true), trivial, fun _ none => ?_, fun _ none => ?_,
          fun _ none => ?_, fun _ _ => ?_⟩
        · cases none
        · cases none
        · cases none
        · rw [stored]
          rfl
    · rw [stepped]
      exact trees
  | none =>
    rw [stored] at same
    cases parsed : parseAccountPayload request.step.bookId request.step.mutation with
    | error receipt =>
      exact ⟨_, _, _, refines.read found (fun _ => id) refines.follows.exclusive rfl rfl rfl
        (stands.reading (fun _ => holds) (absurd · Bool.false_ne_true) (fun _ => same.symm) parsed
          rfl rfl)⟩
    | ok payload =>
      exact ⟨_, _, _, refines.read found (fun _ => id) refines.follows.exclusive rfl rfl rfl
        (stands.reading (fun _ => holds) (absurd · Bool.false_ne_true) (fun _ => same.symm) parsed
          rfl rfl)⟩

/-- The count of the children. -/
theorem Refines.count (refines : Refines hashtext start world memory order waiting)
    {payload : AccountPayload} {columns : AccountColumns}
    (found : world.sessions session = some (request, .parentFound payload columns)) :
    Refined hashtext start
      (world.statement hashtext session request (.parentFound payload columns)) := by
  have stands := refines.follows.sessions session request _ found
  have agree := refines.follows.agreeOn found (stands.hierarchy rfl) rfl
  obtain ⟨selected, valid⟩ := knows_afterCount stands.knows
  obtain ⟨entityKey, entity⟩ := selected.entity
  have counted : (world.database.accounts.values.filter fun account =>
        account.parentAccountId = some request.step.mutation.entityId).length = 0 ↔
      ∀ id account, memory.accounts.lookup id = some account →
        account.parentAccountId ≠ some request.step.mutation.entityId := by
    have inDatabase : (world.database.accounts.values.filter fun account =>
          account.parentAccountId = some request.step.mutation.entityId).length = 0 ↔
        ∀ id account, world.database.accounts.lookup id = some account →
          account.parentAccountId ≠ some request.step.mutation.entityId := by
      rw [List.length_eq_zero_iff, List.filter_eq_nil_iff]
      constructor
      · intro none id account there child
        exact none account (KeyMap.mem_values_of_lookup there) (by simpa using child)
      · intro none account member child
        obtain ⟨id, there⟩ := KeyMap.mem_values_iff.mp member
        exact none id account there (by simpa using child)
    rw [inDatabase, entity]
    exact ⟨agree.noChildren refines.follows.placedMemory stands.plain,
      agree.symm.noChildren refines.follows.placedDatabase stands.plain⟩
  rw [AccountWorld.statement]
  split
  · rename_i none
    exact refines.readOn found rfl rfl rfl rfl rfl ⟨selected, valid.mpr (counted.mp none)⟩ rfl rfl
  · rename_i some
    exact refines.readOn found rfl rfl rfl rfl rfl
      (refused_of_parent selected fun isValid => some (counted.mpr (valid.mp isValid))) rfl rfl

/-- The insert or update of the account. -/
theorem Refines.write (refines : Refines hashtext start world memory order waiting)
    {payload : AccountPayload} {columns : AccountColumns}
    (found : world.sessions session = some (request, .accepted payload columns)) :
    Refined hashtext start
      (world.statement hashtext session request (.accepted payload columns)) := by
  have stands := refines.follows.sessions session request _ found
  have agree := refines.follows.agreeOn found (stands.hierarchy rfl) rfl
  obtain ⟨selected, valid⟩ := stands.knows
  obtain ⟨entityKey, entity⟩ := selected.entity
  have same : world.database.accounts.lookup request.step.mutation.entityId =
      memory.accounts.lookup request.step.mutation.entityId := by
    rw [entity]
    exact agree entityKey
  have finds := selected.finds
  rw [AccountWorld.statement, same]
  cases there : memory.accounts.lookup request.step.mutation.entityId with
  | none =>
    rw [there] at finds
    simp only [if_pos (show request.step.mutation.operation = "create" from finds)]
    refine refines.readOn found rfl rfl rfl rfl rfl ⟨selected, valid, ?_⟩ rfl rfl
    rw [there]
  | some existing =>
    rw [there] at finds
    have kept : (some existing).filter (fun row => row.bookId = request.step.bookId) =
        some existing := by
      rw [Option.filter_some, if_pos (decide_eq_true finds.2)]
    simp only [if_neg finds.1, kept]
    refine refines.readOn found rfl rfl rfl rfl rfl ⟨selected, valid, ?_⟩ rfl rfl
    rw [there, Option.map_some]

/-- Every statement of a session keeps the simulation. -/
theorem Refines.statement (refines : Refines hashtext start world memory order waiting)
    (found : world.sessions session = some (request, phase)) :
    Refined hashtext start (world.statement hashtext session request phase) := by
  have stands := refines.follows.sessions session request phase found
  have more : ∀ {lock entry}, entry ∈ world.locks → entry ∈ (lock, session) :: world.locks :=
    fun member => List.mem_cons_of_mem _ member
  cases phase with
  | asked =>
    exact ⟨_, _, _, refines.take found _ rfl rfl rfl (stands.reading
      (fun _ => List.mem_cons_self) (absurd · Bool.false_ne_true) (absurd · Bool.false_ne_true)
      trivial rfl rfl)⟩
  | mutationLocked => exact refines.lookUp found
  | malformed receipt => exact refines.refuse found rfl rfl rfl (.malformed stands.knows)
  | parsed payload =>
    exact ⟨_, _, _, refines.take found _ rfl rfl rfl (stands.reading
      (fun _ => more (stands.mutation rfl)) (fun _ => List.mem_cons_self)
      (fun _ => stands.unanswered rfl) stands.knows rfl rfl)⟩
  | hierarchyLocked payload =>
    exact ⟨_, _, _, refines.take found _ rfl rfl rfl (stands.reading
      (fun _ => more (stands.mutation rfl)) (fun _ => more (stands.hierarchy rfl))
      (fun _ => stands.unanswered rfl) stands.knows rfl rfl)⟩
  | entityLocked payload =>
    obtain ⟨entityKey, entity⟩ := parseAccountPayload_scoped stands.knows
    have agree := refines.follows.agreeOn found (stands.hierarchy rfl) rfl
    have same : world.database.accounts.lookup request.step.mutation.entityId =
        memory.accounts.lookup request.step.mutation.entityId := by
      rw [entity]
      exact agree entityKey
    obtain ⟨writes, settled⟩ := afterSelect_reads request.step payload
      (memory.accounts.lookup request.step.mutation.entityId)
    rw [AccountWorld.statement, same]
    exact refines.readOn found rfl rfl rfl rfl rfl (knows_afterSelect stands.knows) writes settled
  | parentNamed payload columns parentId =>
    obtain ⟨parentKey, scopedParent⟩ := stands.knows.1.parent refines.follows.placedMemory parentId
      stands.knows.2.1
    have agree := refines.follows.agreeOn found (stands.hierarchy rfl) rfl
    have same : world.database.accounts.lookup parentId = memory.accounts.lookup parentId := by
      rw [scopedParent]
      exact agree parentKey
    obtain ⟨writes, settled⟩ := afterParent_reads request.step payload columns
      (memory.accounts.lookup parentId)
    rw [AccountWorld.statement, same]
    exact refines.readOn found rfl rfl rfl rfl rfl (knows_afterParent stands.knows) writes settled
  | parentFound payload columns => exact refines.count found
  | accepted payload columns => exact refines.write found
  | written payload columns row => exact refines.log found
  | logged row change receipt => exact refines.conclude found
  | refused receipt => exact refines.refuse found rfl rfl rfl stands.knows
  | closing writes receipt => exact refines.commit found
  | ended receipt => exact refines.answer found

/-- A session gets a push to answer. -/
theorem Refines.ask (refines : Refines hashtext start world memory order waiting)
    (idle : world.sessions session = none) (request : AccountPush) :
    Refined hashtext start (world.step hashtext (.ask session request)) := by
  unfold AccountWorld.step
  simp only [idle]
  cases stored : world.database.mutations.lookup request.step.key with
  | some existing =>
    obtain ⟨stepped, answers⟩ := pushStep_found refines.follows stored
    have serial := refines.serial.concat request.step
    rw [stepped, answers] at serial
    refine ⟨_, _, _, ⟨refines.follows.1, refines.follows.2, refines.follows.3, refines.follows.4,
      refines.follows.5, refines.follows.6, refines.follows.7, refines.follows.8⟩, serial,
      refines.waits, ?_, refines.tree⟩
    rw [List.append_assoc]
    exact (refines.answered.append_right _).trans
      ((List.append_assoc _ _ _).symm ▸ (List.perm_append_comm.append_left _))
  | none =>
    refine ⟨_, _, _, refines.follows.quiet (fun _ => id) refines.follows.exclusive
      (fun step writes _ writing => ?_) (fun otherRequest otherPhase isEntry => ?_) world.answers,
      refines.serial, refines.waits.same fun step receipt => ?_, refines.answered, refines.tree⟩
    · obtain ⟨otherRequest, otherPhase, there, -⟩ := writing
      rw [idle] at there
      cases there
    · cases isEntry
      refine ⟨request.plain, request.isAccount, (absurd · Bool.false_ne_true),
        (absurd · Bool.false_ne_true), (absurd · Bool.false_ne_true), trivial, fun _ none => ?_,
        fun _ none => ?_, fun _ none => ?_, (absurd · Bool.false_ne_true)⟩
      · cases none
      · cases none
      · cases none
    · constructor
      · rintro ⟨otherRequest, otherPhase, there, -⟩
        rw [idle] at there
        cases there
      · rintro ⟨otherRequest, otherPhase, isEntry, -, isSettled⟩
        cases isEntry
        cases isSettled

/-- Every step keeps the simulation. -/
theorem Refined.step (refined : Refined hashtext start world) (event : AccountEvent Session) :
    Refined hashtext start (world.step hashtext event) := by
  obtain ⟨memory, order, waiting, refines⟩ := refined
  cases event with
  | ask session request =>
    cases idle : world.sessions session with
    | none => exact refines.ask idle request
    | some busy =>
      simp only [AccountWorld.step, idle]
      exact ⟨memory, order, waiting, refines⟩
  | advance session =>
    cases found : world.sessions session with
    | none =>
      simp only [AccountWorld.step, found]
      exact ⟨memory, order, waiting, refines⟩
    | some busy =>
      simp only [AccountWorld.step, found]
      exact refines.statement found

omit [DecidableEq Hash] [DecidableEq Session] in
/-- Nothing has been pushed yet. -/
theorem Refined.initial {accounts : KeyMap String AccountRecord} (placed : AccountsPlaced accounts)
    (books : KeyMap String BookRecord) :
    Refined hashtext (.initial books accounts)
      (AccountWorld.initial Hash Session accounts) := by
  refine ⟨.initial books accounts, [], [], ⟨fun _ _ _ none => ?_, fun _ _ _ none => ?_,
    fun _ _ => rfl, fun _ _ => rfl, fun _ _ => rfl, rfl, placed, placed⟩, ⟨rfl, rfl⟩,
    ⟨fun _ _ _ => ?_, List.nodup_nil⟩, .nil, fun tree => ⟨tree, tree⟩⟩
  · cases none
  · cases none
  · refine iff_of_false List.not_mem_nil ?_
    rintro ⟨_, _, none, -⟩
    cases none

theorem run_refined {accounts : KeyMap String AccountRecord} (placed : AccountsPlaced accounts)
    (books : KeyMap String BookRecord) (events : List (AccountEvent Session)) :
    Refined hashtext (.initial books accounts) (Machine.run (AccountWorld.step hashtext)
      (AccountWorld.initial Hash Session accounts) events) :=
  Machine.run_invariant (fun _ event refined => refined.step event) (.initial placed books) events

/-- However the statements of any number of account pushes interleave, and whatever the lock
keys hash to: once every push is answered, some order of them gives the same receipts, accounts
and change rows on the memory backend. At no point do the committed accounts have a third level
or a cycle that they did not have before. -/
theorem account_pushes_serial (hashtext : String → Hash)
    {accounts : KeyMap String AccountRecord} (placed : AccountsPlaced accounts)
    (books : KeyMap String BookRecord) (events : List (AccountEvent Session)) :
    let world := Machine.run (AccountWorld.step hashtext)
      (AccountWorld.initial Hash Session accounts) events
    ((∀ session, world.sessions session = none) →
      ∃ (order : List (PushStep × MutationReceiptDto)) (memory : MemoryStore),
      order.Perm world.answers ∧
      Machine.run pushStep (.initial books accounts) (order.map Prod.fst) = memory ∧
      pushReceipts (.initial books accounts) (order.map Prod.fst) = order.map Prod.snd ∧
      (∀ id, world.database.accounts.lookup id = memory.accounts.lookup id) ∧
      (∀ key, world.database.mutations.lookup key = memory.mutations.lookup key) ∧
      ∀ bookId, changesOf bookId world.database.changes = changesOf bookId memory.changes) ∧
    (CategoryTree accounts → CategoryTree world.database.accounts) := by
  intro world
  have refined : Refined hashtext (.initial books accounts) world :=
    run_refined placed books events
  obtain ⟨memory, order, waiting, refines⟩ := refined
  refine ⟨fun quiet => ?_, fun tree => (refines.tree tree).2⟩
  have nobody : ∀ {session : Session} {step writes}, ¬world.Writing session step writes := by
    rintro session step writes ⟨request, phase, found, -⟩
    rw [quiet session] at found
    cases found
  have noWaiting : waiting = [] := by
    refine List.eq_nil_iff_forall_not_mem.mpr fun entry member => ?_
    obtain ⟨request, phase, found, -⟩ := (refines.waits.complete _ _ _).mp member
    rw [quiet entry.1] at found
    cases found
  have answered := refines.answered
  rw [noWaiting, List.map_nil, List.append_nil] at answered
  exact ⟨order, memory, answered, refines.serial.run, refines.serial.receipts,
    fun id => refines.follows.accounts id fun _ _ _ _ writing => absurd writing nobody,
    fun key => refines.follows.receipts key fun _ _ _ _ writing => absurd writing nobody,
    fun bookId => refines.follows.changes bookId fun _ _ _ _ writing => absurd writing nobody⟩

end Simulation

/-! ### Two moves at once -/

/-- Two expense categories, both roots. -/
def twoRoots : KeyMap String AccountRecord :=
  ((∅ : KeyMap String AccountRecord).insert "book:food"
      ⟨"book:food", "book", "Food", "expense", "CNY", none, 1⟩).insert "book:fun"
    ⟨"book:fun", "book", "Fun", "expense", "CNY", none, 1⟩

theorem twoRoots_placed : AccountsPlaced twoRoots := by
  intro id account found
  rcases KeyMap.lookup_insert_eq_some found with ⟨rfl, rfl⟩ | ⟨-, found⟩
  · exact ⟨by decide, ⟨"fun", rfl⟩, fun _ none => by cases none⟩
  · rcases KeyMap.lookup_insert_eq_some found with ⟨rfl, rfl⟩ | ⟨-, found⟩
    · exact ⟨by decide, ⟨"food", rfl⟩, fun _ none => by cases none⟩
    · rw [AList.lookup_empty] at found
      cases found

/-- The move of a category under another one. -/
def moveUnder (deviceId entityId name parentId : String) : AccountPush where
  step := {
    bookId := "book"
    deviceId := deviceId
    mutation := {
      mutationId := "m1"
      entityType := "account"
      entityId := entityId
      operation := "update"
      baseVersion := 1
      payload := .obj [("name", .str name), ("accountType", .str "expense"),
        ("currency", .str "CNY"), ("parentAccountId", .str parentId)] }
    stamp := ⟨epoch, "commit"⟩
    entriesFit := show 0 ≤ isizeMax by decide }
  isAccount := rfl
  plain := show ':' ∉ "book".toList by decide

/-- Two devices move the two categories under each other; their statements alternate, and all
lock keys of a kind collide. -/
def crossingMoves : List (AccountEvent Bool) :=
  [.ask true (moveUnder "phone" "book:food" "Food" "book:fun"),
    .ask false (moveUnder "tablet" "book:fun" "Fun" "book:food")] ++
    (List.replicate 22 [.advance true, .advance false]).flatten

theorem crossing_moves_serial : let := epochClock
    let world := Machine.run (AccountWorld.step fun _ => ())
      (AccountWorld.initial Unit Bool twoRoots) crossingMoves
    world.answers.map (fun answer => answer.2.resultCode) = ["OK", "INVALID_CATEGORY_PARENT"] ∧
      ∃ (order : List (PushStep × MutationReceiptDto)) (memory : MemoryStore),
        order.Perm world.answers ∧
        Machine.run pushStep (.initial ∅ twoRoots) (order.map Prod.fst) = memory ∧
        pushReceipts (.initial ∅ twoRoots) (order.map Prod.fst) = order.map Prod.snd ∧
        (∀ id, world.database.accounts.lookup id = memory.accounts.lookup id) ∧
        (∀ key, world.database.mutations.lookup key = memory.mutations.lookup key) ∧
        ∀ bookId, changesOf bookId world.database.changes = changesOf bookId memory.changes := by
  intro clock world
  have quiet : ∀ session, (world.sessions session).isNone = true := by decide +kernel
  exact ⟨by decide +kernel, (account_pushes_serial (fun _ => ()) twoRoots_placed ∅
    crossingMoves).1 fun session => Option.isNone_iff_eq_none.mp (quiet session)⟩

end Ledgerly
