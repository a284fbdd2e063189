/-
This file proves when the capture of payments loses nothing. Every event that was ever saved is
accounted for: it was posted, found in the ledger or dropped as stale, or it is still in the
native queue. Only the clearing of the queue at the end of a call can break this, because it
removes what the call has not dealt with: an event whose posting raised, and an event the
listener saved after the call had read the queue.
-/

import Ledgerly.AutoLedgerService
import Ledgerly.Library.Run

namespace Ledgerly

/-- What a round makes of an event for good; `none` leaves it to a later sync. -/
inductive AutoLedgerOutcome where
  | posted
  | duplicate
  | skipped
  deriving DecidableEq

/-- The outcome that is counted for an event. -/
def EventHandling.outcome : EventHandling → Option AutoLedgerOutcome
  | .stale => some .skipped
  | .duplicate => some .duplicate
  | .posted _ => some .posted
  | .seen | .postingRaised | .threw => none

/-- The queue and the service with their history: the ids that were ever saved, the outcomes, and
the ids that the call in progress may lose, because their posting raised in it or because they
were saved after it had read the queue. -/
structure CaptureHistory where
  capture : Capture
  saved : List String
  outcomes : List (String × AutoLedgerOutcome)
  atRisk : List String

/-- The history before the first event of interest, with a queue of any content. -/
def CaptureHistory.initial (device : Device) (queue : List PaymentEvent) : CaptureHistory where
  capture := ⟨queue, device, [], none⟩
  saved := queue.map PaymentEvent.id
  outcomes := []
  atRisk := []

/-- A round of the loop, with what it adds to the history. -/
def CaptureHistory.afterRound (history : CaptureHistory) (next : Drain) (id : String)
    (handling : EventHandling) : CaptureHistory where
  capture := history.capture.afterRound next id handling
  saved := history.saved
  outcomes := (handling.outcome.map fun outcome => (id, outcome)).toList ++ history.outcomes
  atRisk := match handling with
    | .postingRaised => id :: history.atRisk
    | _ => history.atRisk

/-- One step. A step that cannot happen now changes nothing. One call of `syncPending` runs at a
time: a call that is started while another one runs is left out, though the app can make one. -/
def captureStep [DartText] (history : CaptureHistory) : CaptureEvent → CaptureHistory
  | .save event =>
    { history with
      capture := { history.capture with queue := event.save history.capture.queue }
      saved := event.id :: history.saved
      atRisk := event.id :: history.atRisk }
  | .start now rules =>
    if history.capture.drain.isSome ∨ history.capture.queue = [] then history
    else
      { history with
        capture := { history.capture with drain := some ⟨history.capture.queue, now, rules⟩ }
        atRisk := [] }
  | .round txId newId raises =>
    match history.capture.drain with
    | some ⟨event :: rest, now, rules⟩ =>
      history.afterRound ⟨rest, now, rules⟩ event.id
        (history.capture.handle ⟨event :: rest, now, rules⟩ event txId newId raises)
    | _ => history
  | .clear =>
    match history.capture.drain with
    | some ⟨[], _, _⟩ => { history with capture := { history.capture with queue := [], drain := none } }
    | _ => history
  | .abort => { history with capture := { history.capture with drain := none } }
  | .restart => { history with capture := { history.capture with seenRawIds := [], drain := none } }
  | .ledger device => { history with capture := { history.capture with device := device } }

/-! ### What is accounted for -/

/-- An event has been posted, found in the ledger or dropped as stale. -/
def CaptureHistory.Settled (history : CaptureHistory) (id : String) : Prop :=
  ∃ outcome, (id, outcome) ∈ history.outcomes

/-- Every event that was ever saved is settled or still in the native queue. -/
def CaptureHistory.Conserved (history : CaptureHistory) : Prop :=
  ∀ id ∈ history.saved, history.Settled id ∨ ∃ event ∈ history.capture.queue, event.id = id

/-- The queue has room for what the listener saves. -/
def WithinBound (history : CaptureHistory) : CaptureEvent → Prop
  | .save event =>
    (∃ queued ∈ history.capture.queue, queued.id = event.id) ∨
      history.capture.queue.length < maxQueued
  | _ => True

/-- What a call may lose has been settled by the time it clears the queue: by an earlier call, or
by this one before the event was saved again. -/
def CaptureHistory.NothingAtRisk (history : CaptureHistory) : Prop :=
  ∀ id ∈ history.atRisk, history.Settled id

/-- What holds in every state: the events of the queue were saved, the ids the service has seen
are settled, and during a call every event of the queue is yet to come in the loop, settled, or at
risk. -/
structure CaptureHistory.Tracked (history : CaptureHistory) : Prop where
  queued : ∀ event ∈ history.capture.queue, event.id ∈ history.saved
  seen : ∀ id ∈ history.capture.seenRawIds, history.Settled id
  risk : ∀ id ∈ history.atRisk, id ∈ history.saved
  remaining : ∀ drain, history.capture.drain = some drain →
    ∀ event ∈ drain.remaining, event.id ∈ history.saved
  read : ∀ drain, history.capture.drain = some drain → ∀ event ∈ history.capture.queue,
    (∃ other ∈ drain.remaining, other.id = event.id) ∨ history.Settled event.id ∨
      event.id ∈ history.atRisk

section Capture

variable {history : CaptureHistory} {event : PaymentEvent} {queue : List PaymentEvent}

/-! ### One round -/

theorem CaptureHistory.settled_afterRound {next : Drain} {id other : String}
    {handling : EventHandling} :
    (history.afterRound next id handling).Settled other ↔
      (other = id ∧ handling.outcome.isSome) ∨ history.Settled other := by
  unfold Settled afterRound
  cases handling.outcome with
  | none => simp
  | some outcome =>
    constructor
    · rintro ⟨found, member⟩
      obtain equal | member := List.mem_cons.mp member
      · exact Or.inl ⟨(Prod.mk.inj equal).1, rfl⟩
      · exact Or.inr ⟨found, member⟩
    · rintro (⟨rfl, -⟩ | ⟨found, member⟩)
      · exact ⟨outcome, List.mem_cons_self⟩
      · exact ⟨found, List.mem_cons_of_mem _ member⟩

/-- An event is passed over as seen only if the service has its id. -/
theorem Capture.mem_seen_of_handle [DartText] {capture : Capture} {drain : Drain}
    {txId newId : String} {raises : Bool}
    (handled : capture.handle drain event txId newId raises = .seen) :
    event.id ∈ capture.seenRawIds := by
  unfold handle at handled
  split at handled
  · cases handled
  · split at handled
    · assumption
    · split at handled
      · cases handled
      · cases handled
      · split at handled
        · cases handled
        · split at handled <;> cases handled

/-- After a round that does not throw, its event is settled or at risk. -/
theorem CaptureHistory.settled_or_risk [DartText] (tracked : history.Tracked) {drain next : Drain}
    {txId newId : String} {raises : Bool} {handling : EventHandling}
    (handled : history.capture.handle drain event txId newId raises = handling)
    (goesOn : handling ≠ .threw) :
    (history.afterRound next event.id handling).Settled event.id ∨
      event.id ∈ (history.afterRound next event.id handling).atRisk := by
  rw [settled_afterRound]
  cases handling with
  | stale => exact Or.inl (Or.inl ⟨rfl, rfl⟩)
  | duplicate => exact Or.inl (Or.inl ⟨rfl, rfl⟩)
  | posted device => exact Or.inl (Or.inl ⟨rfl, rfl⟩)
  | seen => exact Or.inl (Or.inr (tracked.seen _ (Capture.mem_seen_of_handle handled)))
  | postingRaised => exact Or.inr List.mem_cons_self
  | threw => exact absurd rfl goesOn

theorem CaptureHistory.queue_afterRound {next : Drain} {id : String} {handling : EventHandling} :
    (history.afterRound next id handling).capture.queue = history.capture.queue := by
  cases handling <;> rfl

theorem CaptureHistory.mem_risk_afterRound {next : Drain} {id other : String}
    {handling : EventHandling} :
    other ∈ (history.afterRound next id handling).atRisk ↔
      (other = id ∧ handling = .postingRaised) ∨ other ∈ history.atRisk := by
  cases handling <;> simp [afterRound]

/-- The call goes on with the rest of its events, or has ended by a throw. -/
theorem CaptureHistory.drain_afterRound {next drain : Drain} {id : String} {handling : EventHandling}
    (running : (history.afterRound next id handling).capture.drain = some drain) :
    drain = next ∧ handling ≠ .threw := by
  cases handling with
  | threw => cases running
  | _ => exact ⟨(Option.some.inj running).symm, EventHandling.noConfusion⟩

/-- The service has seen what it had seen, and the event if the round settled it. -/
theorem CaptureHistory.seen_afterRound {next : Drain} {id other : String} {handling : EventHandling}
    (member : other ∈ (history.afterRound next id handling).capture.seenRawIds) :
    (other = id ∧ handling.outcome.isSome) ∨ other ∈ history.capture.seenRawIds := by
  cases handling with
  | stale => exact (List.mem_cons.mp member).imp_left fun equal => ⟨equal, rfl⟩
  | duplicate => exact (List.mem_cons.mp member).imp_left fun equal => ⟨equal, rfl⟩
  | posted device => exact (List.mem_cons.mp member).imp_left fun equal => ⟨equal, rfl⟩
  | seen => exact Or.inr member
  | postingRaised => exact Or.inr (List.mem_of_mem_filter member)
  | threw => exact Or.inr member

theorem CaptureHistory.Tracked.round [DartText] (tracked : history.Tracked)
    {rest : List PaymentEvent} {now : Int} {rules : List MerchantRule} {txId newId : String}
    {raises : Bool} {handling : EventHandling}
    (running : history.capture.drain = some ⟨event :: rest, now, rules⟩)
    (handled : history.capture.handle ⟨event :: rest, now, rules⟩ event txId newId raises =
      handling) :
    (history.afterRound ⟨rest, now, rules⟩ event.id handling).Tracked where
  queued := by
    rw [queue_afterRound]
    exact tracked.queued
  seen other member := by
    rw [settled_afterRound]
    exact (seen_afterRound member).imp_right (tracked.seen other)
  risk other member := by
    obtain ⟨rfl, -⟩ | member := mem_risk_afterRound.mp member
    · exact tracked.remaining _ running event List.mem_cons_self
    · exact tracked.risk other member
  remaining drain next other member := by
    obtain ⟨rfl, -⟩ := drain_afterRound next
    exact tracked.remaining _ running other (List.mem_cons_of_mem _ member)
  read drain next queued member := by
    obtain ⟨rfl, goesOn⟩ := drain_afterRound next
    rw [queue_afterRound] at member
    obtain ⟨other, among, same⟩ | settled | risk := tracked.read _ running queued member
    · obtain rfl | among := List.mem_cons.mp among
      · rw [← same]
        exact Or.inr (settled_or_risk tracked handled goesOn)
      · exact Or.inl ⟨other, among, same⟩
    · exact Or.inr (Or.inl (settled_afterRound.mpr (Or.inr settled)))
    · exact Or.inr (Or.inr (mem_risk_afterRound.mpr (Or.inr risk)))

/-! ### Saving -/

/-- The queue after a save holds events it held before, and the saved one. -/
theorem PaymentEvent.mem_save {other : PaymentEvent} (member : other ∈ event.save queue) :
    other = event ∨ other ∈ queue := by
  unfold PaymentEvent.save at member
  split at member
  · exact Or.inr member
  · obtain among | among := List.mem_append.mp (List.mem_of_mem_drop member)
    · exact Or.inr among
    · exact Or.inl (List.mem_singleton.mp among)

/-- With room in the queue nothing is trimmed. -/
theorem PaymentEvent.save_of_room
    (room : (∃ queued ∈ queue, queued.id = event.id) ∨ queue.length < maxQueued) :
    queue ⊆ event.save queue ∧ ∃ queued ∈ event.save queue, queued.id = event.id := by
  unfold PaymentEvent.save
  split
  · rename_i present
    obtain ⟨queued, member, same⟩ := List.any_eq_true.mp present
    exact ⟨List.Subset.refl queue, queued, member, of_decide_eq_true same⟩
  · rename_i absent
    have short : queue.length < maxQueued := by
      refine room.resolve_left fun ⟨queued, member, same⟩ => absent ?_
      exact List.any_eq_true.mpr ⟨queued, member, decide_eq_true same⟩
    have whole : (queue ++ [event]).length - maxQueued = 0 := by
      rw [List.length_append, List.length_singleton]
      omega
    dsimp only
    rw [whole, List.drop_zero]
    exact ⟨List.subset_append_left _ _, event, List.mem_append_right _ List.mem_cons_self, rfl⟩

/-! ### Every step -/

theorem captureStep_tracked [DartText] (history : CaptureHistory) (step : CaptureEvent)
    (tracked : history.Tracked) : (captureStep history step).Tracked := by
  obtain ⟨queued, seen, risk, remaining, read⟩ := tracked
  cases step with
  | save event =>
    refine ⟨fun other member => ?_, seen, fun id member => ?_, fun drain running other member => ?_,
      fun drain running other member => ?_⟩
    · obtain rfl | member := PaymentEvent.mem_save member
      · exact List.mem_cons_self
      · exact List.mem_cons_of_mem _ (queued other member)
    · obtain rfl | member := List.mem_cons.mp member
      · exact List.mem_cons_self
      · exact List.mem_cons_of_mem _ (risk id member)
    · exact List.mem_cons_of_mem _ (remaining drain running other member)
    · obtain rfl | member := PaymentEvent.mem_save member
      · exact Or.inr (Or.inr List.mem_cons_self)
      · exact (read drain running other member).imp_right (Or.imp_right (List.mem_cons_of_mem _))
  | start now rules =>
    rw [captureStep]
    split
    · exact ⟨queued, seen, risk, remaining, read⟩
    · refine ⟨queued, seen, fun id member => absurd member List.not_mem_nil,
        fun drain running other member => ?_, fun drain running other member => ?_⟩
      · obtain rfl := Option.some.inj running
        exact queued other member
      · obtain rfl := Option.some.inj running
        exact Or.inl ⟨other, member, rfl⟩
  | round txId newId raises =>
    rw [captureStep]
    split
    · rename_i running
      exact CaptureHistory.Tracked.round ⟨queued, seen, risk, remaining, read⟩ running rfl
    · exact ⟨queued, seen, risk, remaining, read⟩
  | clear =>
    rw [captureStep]
    split
    · exact ⟨fun _ member => absurd member List.not_mem_nil, seen, risk, fun _ => nofun,
        fun _ => nofun⟩
    · exact ⟨queued, seen, risk, remaining, read⟩
  | abort => exact ⟨queued, seen, risk, fun _ => nofun, fun _ => nofun⟩
  | restart =>
    exact ⟨queued, fun _ member => absurd member List.not_mem_nil, risk, fun _ => nofun,
      fun _ => nofun⟩
  | ledger device => exact ⟨queued, seen, risk, remaining, read⟩

/-- As long as the queue has room, only a call that finishes can lose an event. -/
theorem captureStep_conserved [DartText] (history : CaptureHistory) (step : CaptureEvent)
    (room : WithinBound history step) (conserved : history.Conserved)
    (goesOn : ¬history.capture.Finishes step) : (captureStep history step).Conserved := by
  cases step with
  | save event =>
    obtain ⟨kept, present⟩ := PaymentEvent.save_of_room room
    intro id member
    obtain rfl | member := List.mem_cons.mp member
    · exact Or.inr present
    · refine (conserved id member).imp_right fun ⟨queued, among, same⟩ => ?_
      exact ⟨queued, kept among, same⟩
  | start now rules =>
    rw [captureStep]
    split
    · exact conserved
    · exact conserved
  | round txId newId raises =>
    rw [captureStep]
    split
    · intro id member
      rw [CaptureHistory.settled_afterRound, CaptureHistory.queue_afterRound]
      exact (conserved id member).imp_left Or.inr
    · exact conserved
  | clear =>
    rw [captureStep]
    split
    · rename_i now rules finished
      exact absurd ⟨now, rules, finished⟩ goesOn
    · exact conserved
  | abort => exact conserved
  | restart => exact conserved
  | ledger device => exact conserved

/-- A call that finishes loses nothing exactly if nothing is at risk. -/
theorem captureStep_conserved_iff [DartText] (history : CaptureHistory) (step : CaptureEvent)
    (tracked : history.Tracked) (conserved : history.Conserved)
    (finishes : history.capture.Finishes step) :
    (captureStep history step).Conserved ↔ history.NothingAtRisk := by
  cases step with
  | clear =>
    obtain ⟨now, rules, finished⟩ := finishes
    have cleared : captureStep history .clear =
        { history with capture := { history.capture with queue := [], drain := none } } := by
      rw [captureStep, finished]
    rw [cleared]
    constructor
    · intro kept id member
      obtain settled | ⟨_, none, _⟩ := kept id (tracked.risk id member)
      · exact settled
      · exact absurd none List.not_mem_nil
    · intro safe id member
      obtain settled | ⟨queued, among, rfl⟩ := conserved id member
      · exact Or.inl settled
      · obtain ⟨_, none, _⟩ | settled | risk := tracked.read _ finished queued among
        · exact absurd none List.not_mem_nil
        · exact Or.inl settled
        · exact Or.inl (safe _ risk)
  | _ => exact absurd finishes not_false

end Capture

theorem CaptureHistory.initial_tracked (device : Device) (queue : List PaymentEvent) :
    (initial device queue).Tracked where
  queued _ member := List.mem_map_of_mem member
  seen _ member := absurd member List.not_mem_nil
  risk _ member := absurd member List.not_mem_nil
  remaining _ := nofun
  read _ := nofun

theorem CaptureHistory.initial_conserved (device : Device) (queue : List PaymentEvent) :
    (initial device queue).Conserved := fun _ member =>
  Or.inr (List.mem_map.mp member)

/-- The capture loses nothing, whenever the events arrive, whatever the postings come to and
wherever the calls and the process end, exactly if at the end of every call that finishes all has
been settled whose posting raised in the call or which was saved after its read. -/
theorem capture_conserves_iff [DartText] (device : Device) (queue : List PaymentEvent)
    (steps : List CaptureEvent)
    (room : Machine.Guarded captureStep WithinBound (.initial device queue) steps) :
    (∀ before step after, steps = before ++ step :: after →
      (Machine.run captureStep (.initial device queue) before).capture.Finishes step →
      (Machine.run captureStep (.initial device queue) (before ++ [step])).Conserved) ↔
    Machine.Guarded captureStep
      (fun history step => history.capture.Finishes step → history.NothingAtRisk)
      (.initial device queue) steps :=
  Machine.checkpoints_iff captureStep_tracked
    (fun history step _ => captureStep_conserved history step)
    captureStep_conserved_iff (CaptureHistory.initial_tracked device queue)
    (CaptureHistory.initial_conserved device queue) room

/-! ### Two events lost -/

/-- A payment of 35.00 some time after the epoch. -/
def lunchPayment (second : Int) : PaymentEvent where
  id := "wechat-" ++ decimalText second
  platform := "wechat"
  direction := "expense"
  amountMinor := 3500
  merchant := none
  timestamp := second * 1000

/-- A payment that is posted. -/
def postedPayment : List CaptureEvent :=
  [.save (lunchPayment 1), .start 2000000 [], .round "t1" "m1" false, .clear]

/-- The posting of a payment raises, and the call clears the queue all the same. -/
def raisedPayment : List CaptureEvent :=
  [.save (lunchPayment 1), .start 2000000 [], .round "t1" "m1" true, .clear]

/-- A second payment is saved while the first is posted. -/
def latePayment : List CaptureEvent :=
  [.save (lunchPayment 1), .start 2000000 [], .save (lunchPayment 200), .round "t1" "m1" false,
    .clear]

/-- A posted payment is accounted for after the call that posts it. -/
theorem capture_conserves_posted :
    (Machine.run (@captureStep asciiText) (.initial walletDevice []) postedPayment).Conserved :=
  (@capture_conserves_iff asciiText walletDevice [] postedPayment
    ⟨Or.inr (by decide), trivial, trivial, trivial, trivial⟩).mpr
    ⟨nofun, nofun, nofun, fun _ _ => nofun, trivial⟩
    postedPayment.dropLast .clear [] rfl ⟨2000000, [], rfl⟩

/-- A payment whose posting raises is lost by the call that should leave it to the next one, and
so is a payment that is saved while a call is under way. -/
theorem capture_loses_payment :
    (∃ before step, raisedPayment = before ++ [step] ∧
      Machine.Guarded (@captureStep asciiText) WithinBound (.initial walletDevice [])
        raisedPayment ∧
      (Machine.run (@captureStep asciiText) (.initial walletDevice [])
        before).capture.Finishes step ∧
      ¬(Machine.run (@captureStep asciiText) (.initial walletDevice [])
        raisedPayment).Conserved) ∧
    ∃ before step, latePayment = before ++ [step] ∧
      Machine.Guarded (@captureStep asciiText) WithinBound (.initial walletDevice [])
        latePayment ∧
      (Machine.run (@captureStep asciiText) (.initial walletDevice [])
        before).capture.Finishes step ∧
      ¬(Machine.run (@captureStep asciiText) (.initial walletDevice [])
        latePayment).Conserved := by
  refine ⟨⟨raisedPayment.dropLast, .clear, rfl,
    ⟨Or.inr (by decide), trivial, trivial, trivial, trivial⟩,
    ⟨2000000, [], rfl⟩, fun conserved => ?_⟩, ⟨latePayment.dropLast, .clear, rfl,
    ⟨Or.inr (by decide), trivial, Or.inr (by decide), trivial, trivial, trivial⟩,
    ⟨2000000, [], rfl⟩, fun conserved => ?_⟩⟩
  · have outcomes : (Machine.run (@captureStep asciiText) (.initial walletDevice [])
        raisedPayment).outcomes = [] := by decide +kernel
    obtain ⟨outcome, member⟩ | ⟨_, member, -⟩ := conserved "wechat-1" List.mem_cons_self
    · rw [outcomes] at member
      exact List.not_mem_nil member
    · exact List.not_mem_nil member
  · have outcomes : (Machine.run (@captureStep asciiText) (.initial walletDevice [])
        latePayment).outcomes = [("wechat-1", .posted)] := by decide +kernel
    obtain ⟨outcome, member⟩ | ⟨_, member, -⟩ := conserved "wechat-200" List.mem_cons_self
    · rw [outcomes] at member
      obtain ⟨same, -⟩ := Prod.mk.inj (List.mem_singleton.mp member)
      exact absurd same (by decide)
    · exact List.not_mem_nil member

end Ledgerly
