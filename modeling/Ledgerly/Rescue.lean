/-
This file proves when the rescue of a notification is idempotent. The transaction of the first
call is kept like any other; what makes a later call a no-op is the pending create under the same
mutation id, so that it has to come while that create is still in the queue. A sync that hands
the create over takes the protection with it.
-/

import Ledgerly.KeptTransaction
import Ledgerly.LedgerAppService

namespace Ledgerly

/-- A device and the server, with the ids of the transactions that calls for one event have
created, and whether such a call has returned. -/
structure RescueHistory where
  world : World
  created : List String
  answered : Bool

/-- What happens: `rescueUnparsedEvent` is called, for the event or for another one, or anything
else. -/
inductive RescueStep where
  | rescue (call : RescueCall) (txId newId : String)
  | world (event : WorldEvent)

section Rescue

variable [DartText]

/-- The transaction a call builds, if its arguments are accepted. -/
def RescueCall.transaction (call : RescueCall) (device : Device) (txId : String) :
    Option LedgerTransaction :=
  if call.direction = "income" then do
    let income ← device.domainAccount
      (call.incomeAccountId.getD (accountKeyOtherIncome device.bookId))
    let deposit ← device.domainAccount (accountKeyBank device.bookId)
    (call.header device.bookId txId).income income deposit call.amountMinor
  else do
    let expense ← device.domainAccount
      (call.categoryAccountId.getD (accountKeyOtherExpense device.bookId))
    let funding ← device.domainAccount (accountKeyBank device.bookId)
    (call.header device.bookId txId).expense expense funding call.amountMinor

/-- The mutation id of every call for an event. -/
def rescueMutationId (bookId eventId : String) : String :=
  "evt:" ++ bookId ++ ":" ++ dartTrim ("rescue:" ++ eventId)

/-- One step. A call that throws changes nothing. -/
def rescueStep [Rfc3339] (eventId : String) (history : RescueHistory) :
    RescueStep → RescueHistory
  | .rescue call txId newId =>
    match history.world.device.rescueUnparsedEvent call txId newId with
    | .error _ => history
    | .ok device =>
      let world : World := { history.world with device := device }
      if call.unparsedEventId = eventId then
        { world := world
          created :=
            match history.world.device.rescueCreate call txId newId with
            | .ok _ => txId :: history.created
            | .error _ => history.created
          answered := true }
      else { history with world := world }
  | .world event => { history with world := worldStep history.world event }

/-- The arguments of a call are rejected. -/
def RescueCall.Refused (call : RescueCall) (device : Device) (txId : String) : Prop :=
  call.amountMinor ≤ 0 ∨ call.transaction device txId = none

/-- The first call finds its ids unused, and its date is one RFC 3339 can write. -/
structure RescueCall.First (call : RescueCall) (bookId txId : String) (world : World) : Prop where
  unanswered : Unanswered bookId world.server world.device
    (rescueMutationId world.device.bookId call.unparsedEventId)
  unqueued : ∀ row ∈ world.device.pending,
    row.mutationId ≠ rescueMutationId world.device.bookId call.unparsedEventId
  unknown : world.device.transactions.lookup txId = none
  missing : world.server.transactions.lookup txId = none
  unlogged : world.server.rowsIn bookId txId = []
  dated : (timestampOf call.occurredAt).isSome = true

/-- A call for the event comes first, or while the create of the first one is still in the queue
under the id of the event; and nothing else harms the transaction that was created. -/
def RescueAllowed [Rfc3339] (bookId eventId : String) (history : RescueHistory) :
    RescueStep → Prop
  | .rescue call txId _ =>
    call.unparsedEventId = eventId →
      call.Refused history.world.device txId ∨
      history.created = [] ∧ call.First bookId txId history.world ∨
      history.created ≠ [] ∧ ∃ row ∈ history.world.device.pending,
        row.mutationId = rescueMutationId history.world.device.bookId eventId
  | .world event => ∀ id ∈ history.created, SparesEvent bookId id history.world event

/-- Once a call for the event has returned, the device has exactly one live transaction that was
created for it, and with an empty queue so has the server. -/
def RescueHistory.ExactlyOne (bookId : String) (history : RescueHistory) : Prop :=
  history.answered = true →
    (history.world.device.remoteBookId = none ∨
      history.world.device.remoteBookId = some bookId) →
    (history.created.filter fun id => (history.world.device.live id).isSome).length = 1 ∧
      (history.world.device.pending = [] →
        (history.created.filter fun id => (history.world.server.live bookId
          history.world.device.bookId id).isSome).length = 1)

/-! ### One call -/

variable {call : RescueCall} {device after : Device} {txId newId : String}

/-- A call writes its transaction under the mutation id of the event. -/
theorem Device.rescueCreate_eq (device : Device) (call : RescueCall) (txId newId : String) :
    device.rescueCreate call txId newId = device.post (call.transaction device txId)
      (rescueMutationId device.bookId call.unparsedEventId)
      (call.header device.bookId txId).sourceEventFingerprint := by
  have nonempty : "rescue:" ++ call.unparsedEventId ≠ "" := by
    intro empty
    have length := congrArg String.length empty
    rw [String.length_append] at length
    exact absurd length (by simp)
  have named : resolveMutationId device.bookId newId (some "auto_ledger_rescue")
      (some ("rescue:" ++ call.unparsedEventId)) =
        rescueMutationId device.bookId call.unparsedEventId := by
    rw [resolveMutationId, if_neg nonempty, if_neg (by decide), rescueMutationId]
  unfold rescueCreate RescueCall.transaction
  split
  · rw [createIncome, ← named]
    rfl
  · rw [createExpense, ← named]
    rfl

/-- What the transaction of a call is. -/
theorem RescueCall.transaction_fields {tx : LedgerTransaction}
    (built : call.transaction device txId = some tx) :
    tx.id = txId ∧ tx.occurredAt = call.occurredAt ∧ tx.source = some "auto_ledger_rescue" := by
  unfold RescueCall.transaction at built
  split at built
  · simp only [Option.bind_eq_bind, Option.bind_eq_some_iff] at built
    obtain ⟨income, -, deposit, -, made⟩ := built
    unfold TransactionHeader.income at made
    split at made
    · split at made
      · cases made
      · split at made
        · cases made
        · cases made
          exact ⟨rfl, rfl, rfl⟩
    · cases made
  · simp only [Option.bind_eq_bind, Option.bind_eq_some_iff] at built
    obtain ⟨expense, -, funding, -, made⟩ := built
    unfold TransactionHeader.expense at made
    split at made
    · split at made
      · cases made
      · split at made
        · cases made
        · cases made
          exact ⟨rfl, rfl, rfl⟩
    · cases made

/-- What a call can come to. -/
inductive RescueTurn (device : Device) (call : RescueCall) (txId newId : String) : Prop
  | refused (isRefused : call.Refused device txId)
      (thrown : device.rescueUnparsedEvent call txId newId = .error .rejected)
  | swallowed (tx : LedgerTransaction) (built : call.transaction device txId = some tx)
      (collides : device.saveDomainTransaction tx
        (rescueMutationId device.bookId call.unparsedEventId)
        (call.header device.bookId txId).sourceEventFingerprint = none)
      (refused : device.rescueCreate call txId newId = .error .constraint)
      (returned : device.rescueUnparsedEvent call txId newId = .ok device)
  | created (tx : LedgerTransaction) (after : Device)
      (built : call.transaction device txId = some tx)
      (saved : device.saveDomainTransaction tx
        (rescueMutationId device.bookId call.unparsedEventId)
        (call.header device.bookId txId).sourceEventFingerprint = some after)
      (wrote : device.rescueCreate call txId newId = .ok after)
      (returned : device.rescueUnparsedEvent call txId newId = .ok after)

theorem Device.rescueUnparsedEvent_turns (device : Device) (call : RescueCall)
    (txId newId : String) : RescueTurn device call txId newId := by
  have creates := device.rescueCreate_eq call txId newId
  unfold Device.post at creates
  by_cases positive : call.amountMinor ≤ 0
  · exact .refused (Or.inl positive) (by rw [Device.rescueUnparsedEvent, if_pos positive])
  · cases built : call.transaction device txId with
    | none =>
      simp only [built] at creates
      exact .refused (Or.inr built) (by rw [Device.rescueUnparsedEvent, if_neg positive, creates])
    | some tx =>
      simp only [built] at creates
      cases saved : device.saveDomainTransaction tx
          (rescueMutationId device.bookId call.unparsedEventId)
          (call.header device.bookId txId).sourceEventFingerprint with
      | none =>
        simp only [saved] at creates
        refine .swallowed tx built saved creates ?_
        rw [Device.rescueUnparsedEvent, if_neg positive, creates]
      | some after =>
        simp only [saved] at creates
        refine .created tx after built saved creates ?_
        rw [Device.rescueUnparsedEvent, if_neg positive, creates]

/-- A call with rejected arguments throws. -/
theorem RescueCall.Refused.thrown (refused : call.Refused device txId) (newId : String) :
    device.rescueUnparsedEvent call txId newId = .error .rejected := by
  unfold Device.rescueUnparsedEvent
  split
  · rfl
  · rename_i positive
    rw [device.rescueCreate_eq, refused.resolve_left positive]
    rfl

omit [DartText] in
/-- A save collides exactly if the transaction or the mutation is known by its id. -/
theorem Device.saveDomainTransaction_eq_none {tx : LedgerTransaction} {mutationId : String}
    {fingerprint : Option String} :
    device.saveDomainTransaction tx mutationId fingerprint = none ↔
      (device.transactions.lookup tx.id).isSome = true ∨
        ∃ row ∈ device.pending, row.mutationId = mutationId := by
  unfold saveDomainTransaction Device.queue
  split
  · rename_i known
    exact ⟨fun _ => Or.inl known, fun _ => rfl⟩
  · rename_i unknown
    dsimp only
    split
    · rename_i queued
      obtain ⟨row, member, same⟩ := List.any_eq_true.mp queued
      exact ⟨fun _ => Or.inr ⟨row, member, of_decide_eq_true same⟩, fun _ => rfl⟩
    · rename_i free
      refine ⟨fun same => absurd same (Option.some_ne_none _), fun known => ?_⟩
      obtain known | ⟨row, member, same⟩ := known
      · exact absurd known unknown
      · exact absurd (List.any_eq_true.mpr ⟨row, member, decide_eq_true same⟩) free

/-! ### Runs -/

variable [Rfc3339] {bookId eventId : String} {history : RescueHistory}

/-- Either no call has returned, or exactly one transaction has been created and it is kept. -/
structure RescueHistory.Single (bookId : String) (history : RescueHistory) : Prop where
  sound : history.world.device.QueueSound
  single : history.created = [] ∧ history.answered = false ∨
    ∃ id, history.created = [id] ∧ World.Keeps bookId id history.world

omit [DartText] in
/-- The save of another transaction keeps what is kept. -/
theorem World.Keeps.save [ReadsDates] {world : World} {id mutationId : String}
    {tx : LedgerTransaction} {fingerprint : Option String} (keeps : world.Keeps bookId id)
    (saved : world.device.saveDomainTransaction tx mutationId fingerprint = some after) :
    World.Keeps bookId id ⟨world.server, after⟩ := by
  have acted : worldStep world (.act (.save tx mutationId fingerprint)) = ⟨world.server, after⟩ := by
    show World.mk _ ((world.device.saveDomainTransaction tx mutationId fingerprint).getD _) = _
    rw [saved]
    rfl
  rw [← acted]
  exact worldStep_keeps keeps trivial

/-- A call for another event. -/
theorem RescueHistory.Single.otherCall [ReadsDates] (single : history.Single bookId)
    (other : call.unparsedEventId ≠ eventId) :
    (rescueStep eventId history (.rescue call txId newId)).Single bookId := by
  rw [rescueStep]
  cases history.world.device.rescueUnparsedEvent_turns call txId newId with
  | refused _ thrown =>
    rw [thrown]
    exact single
  | swallowed tx built collides refused returned =>
    rw [returned]
    dsimp only
    rw [if_neg other]
    exact single
  | created tx after built saved wrote returned =>
    rw [returned]
    dsimp only
    rw [if_neg other]
    refine ⟨single.sound.save saved, single.single.imp_right ?_⟩
    rintro ⟨id, only, keeps⟩
    exact ⟨id, only, keeps.save saved⟩

/-- The first call for the event. -/
theorem RescueHistory.Single.firstCall (single : history.Single bookId)
    (none : history.created = []) (first : call.First bookId txId history.world)
    (same : call.unparsedEventId = eventId) :
    (rescueStep eventId history (.rescue call txId newId)).Single bookId := by
  rw [rescueStep]
  cases history.world.device.rescueUnparsedEvent_turns call txId newId with
  | refused _ thrown =>
    rw [thrown]
    exact single
  | swallowed tx built collides refused returned =>
    obtain ⟨isTx, -, -⟩ := RescueCall.transaction_fields built
    obtain known | ⟨row, member, named⟩ := Device.saveDomainTransaction_eq_none.mp collides
    · rw [isTx, first.unknown] at known
      cases known
    · exact absurd named (first.unqueued row member)
  | created tx after built saved wrote returned =>
    obtain ⟨isTx, date, source⟩ := RescueCall.transaction_fields built
    rw [returned]
    dsimp only
    rw [if_pos same, wrote, none]
    refine ⟨single.sound.save saved, Or.inr ⟨txId, rfl, ?_⟩⟩
    rw [← isTx]
    refine World.Keeps.ofSave single.sound first.unanswered ?_ ?_ ?_ source (by decide) saved
    · rw [isTx]
      exact first.missing
    · rw [isTx]
      exact first.unlogged
    · rw [date]
      exact first.dated

/-- A later call for the event, while the create of the first one is in the queue. -/
theorem RescueHistory.Single.laterCall (single : history.Single bookId)
    (some : history.created ≠ []) (same : call.unparsedEventId = eventId)
    (queued : ∃ row ∈ history.world.device.pending,
      row.mutationId = rescueMutationId history.world.device.bookId eventId) :
    (rescueStep eventId history (.rescue call txId newId)).Single bookId := by
  rw [rescueStep]
  cases history.world.device.rescueUnparsedEvent_turns call txId newId with
  | refused _ thrown =>
    rw [thrown]
    exact single
  | swallowed tx built collides refused returned =>
    rw [returned]
    dsimp only
    rw [if_pos same, refused]
    exact ⟨single.sound, Or.inr (single.single.resolve_left fun empty => some empty.1)⟩
  | created tx after built saved wrote returned =>
    rw [same] at saved
    rw [Device.saveDomainTransaction_eq_none.mpr (Or.inr queued)] at saved
    cases saved

theorem rescueStep_single [ReadsDates] (history : RescueHistory) (step : RescueStep)
    (single : history.Single bookId) (allowed : RescueAllowed bookId eventId history step) :
    (rescueStep eventId history step).Single bookId := by
  cases step with
  | rescue call txId newId =>
    by_cases same : call.unparsedEventId = eventId
    · obtain refused | ⟨none, first⟩ | ⟨some, queued⟩ := allowed same
      · rw [rescueStep, refused.thrown newId]
        exact single
      · exact single.firstCall none first same
      · exact single.laterCall some same queued
    · exact single.otherCall same
  | world event =>
    have sound : (worldStep history.world event).device.QueueSound :=
      run_queueSound single.sound [event]
    refine ⟨sound, single.single.imp_right ?_⟩
    rintro ⟨id, only, keeps⟩
    refine ⟨id, only, worldStep_keeps keeps (allowed id ?_)⟩
    rw [only]
    exact List.mem_singleton_self id

omit [DartText] [Rfc3339] in
/-- A single transaction that is kept is the one live transaction of the event. -/
theorem RescueHistory.Single.exactlyOne (single : history.Single bookId) :
    history.ExactlyOne bookId := by
  intro answered toBook
  obtain ⟨-, unanswered⟩ | ⟨id, only, keeps⟩ := single.single
  · rw [unanswered] at answered
    cases answered
  · obtain ⟨live, secured⟩ := keeps.secured toBook
    rw [only, List.filter_singleton, List.filter_singleton]
    refine ⟨by rw [live]; rfl, fun idle => ?_⟩
    have landed : Stored id history.world.server := by
      refine secured.resolve_right fun ⟨row, member, _⟩ => ?_
      rw [idle] at member
      exact List.not_mem_nil member
    rw [landed.live keeps.unharmed history.world.device.bookId]
    rfl

/-- In every run in which a call for the event comes first, or while the create of the first one
is in the queue under the id of the event, the device and the server have exactly one live
transaction for it. -/
theorem rescue_idempotent [ReadsDates] (bookId eventId : String) (world : World)
    (sound : world.device.QueueSound) (steps : List RescueStep)
    (allowed : Machine.Guarded (rescueStep eventId) (RescueAllowed bookId eventId)
      ⟨world, [], false⟩ steps) :
    (Machine.run (rescueStep eventId) ⟨world, [], false⟩ steps).ExactlyOne bookId := by
  have start : RescueHistory.Single bookId ⟨world, [], false⟩ := ⟨sound, Or.inl ⟨rfl, rfl⟩⟩
  exact (Machine.guarded_invariant rescueStep_single start allowed).exactlyOne

end Rescue

/-! ### A rescue after a sync -/

/-- A lunch of 35.00 that the parser could not read. -/
def lunchRescue : RescueCall where
  direction := "expense"
  amountMinor := 3500
  merchant := some "Lunch"
  note := none
  occurredAt := 0
  occurredAtText := "1970-01-01 00:00:00.000Z"
  platform := "wechat"
  reasonTag := "no_amount"
  unparsedEventId := "unparsed-1"
  categoryAccountId := none
  incomeAccountId := none

/-- The accounts of a rescue on the server. -/
def rescueAccounts : KeyMap String AccountRecord :=
  ((∅ : KeyMap String AccountRecord).insert "A:acc_bank"
    ⟨"A:acc_bank", "A", "Bank", "asset", "CNY", none, 1⟩).insert "A:acc_other_expense"
      ⟨"A:acc_other_expense", "A", "Other", "expense", "CNY", none, 1⟩

/-- The notification is rescued twice. -/
def rescuedAtOnce : List RescueStep :=
  [.rescue lunchRescue "t1" "m1", .rescue lunchRescue "t2" "m2"]

/-- The notification is rescued, the device syncs, and the notification is rescued again. -/
def rescuedAfterSync : List RescueStep :=
  [.rescue lunchRescue "t1" "m1", .world (.sync (quietSync "A")), .rescue lunchRescue "t2" "m2",
    .world (.sync (quietSync "A"))]

/-- A device and a server that have the accounts of a rescue. -/
def rescueWorld : World := ⟨MemoryStore.initial ∅ rescueAccounts, walletDevice⟩

/-- Two calls before a sync make one transaction. -/
theorem rescue_idempotent_once :
    let _ := asciiText
    let _ := utcClock
    (Machine.run (rescueStep "unparsed-1") ⟨rescueWorld, [], false⟩ rescuedAtOnce).ExactlyOne
      "A" := by
  intro text clock
  have readsDates : ReadsDates := utcClock_readsDates
  refine rescue_idempotent "A" "unparsed-1" rescueWorld (Device.initial_queueSound _ _ _)
    rescuedAtOnce ⟨fun _ => ?_, fun _ => ?_, trivial⟩
  · exact Or.inr (Or.inl ⟨rfl, rfl, nofun, rfl, rfl, rfl, by decide⟩)
  · exact Or.inr (Or.inr ⟨by decide +kernel, by decide +kernel⟩)

/-- A call after the sync makes a second transaction, which the server never gets. -/
theorem rescue_duplicates :
    let _ := asciiText
    let _ := utcClock
    let history := Machine.run (rescueStep "unparsed-1") ⟨rescueWorld, [], false⟩ rescuedAfterSync
    history.world.device.pending = [] ∧
      (history.world.device.live "t1").isSome ∧ (history.world.device.live "t2").isSome ∧
      (history.world.server.live "A" "book" "t1").isSome ∧
      history.world.server.live "A" "book" "t2" = none ∧ ¬history.ExactlyOne "A" := by
  intro text clock history
  have created : history.created = ["t2", "t1"] := by decide +kernel
  have first : (history.world.device.live "t1").isSome = true := by decide +kernel
  have second : (history.world.device.live "t2").isSome = true := by decide +kernel
  refine ⟨?_, first, second, by decide +kernel, by decide +kernel, fun exactlyOne => ?_⟩
  · exact List.isEmpty_iff.mp (by decide +kernel)
  · obtain ⟨single, -⟩ := exactlyOne (by decide +kernel) (by decide +kernel)
    rw [created] at single
    simp [first, second] at single

end Ledgerly
