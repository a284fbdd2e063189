/-
This file models `generate_due_recurring` on PostgreSQL, one statement at a time, with any number
of scans under way.

The due rules are read by a statement of its own. Each of them is then booked in a database
transaction, which keeps its rows to itself until it commits and holds the lock of the rule from
the `UPDATE` on; a rule that is skipped is advanced by a statement of its own. The `UPDATE` adds
its month to what the column has when it runs, and nothing in a scan compares that with what the
scan has read.
-/

import Mathlib.Logic.Function.Basic
import Ledgerly.LedgerWriters
import Ledgerly.Library.CivilDate

namespace Ledgerly

/-! ### The table of rules -/

/-- `next_run_at + interval '1 month'`, in microseconds, on a connection whose time zone is UTC:
the time of day stays, and so does the day, unless the month is too short for it. -/
def addMonth (micros : Int) : Int :=
  let date := CivilDate.ofDays (micros / 86400000000)
  (date.intoNextMonth fun year month => min date.day (CivilDate.daysInMonth year month)) *
    86400000000 + micros % 86400000000

theorem lt_addMonth (micros : Int) : micros < addMonth micros := by
  have later := CivilDate.lt_intoNextMonth (micros / 86400000000)
    (fun year month => min (CivilDate.ofDays (micros / 86400000000)).day
      (CivilDate.daysInMonth year month))
    fun year month => le_min (CivilDate.ofDays_ranges _).2.2.1
      (CivilDate.one_le_daysInMonth year month)
  simp only [addMonth]
  omega

/-- A row of `recurring_rules`. -/
structure RecurringRow where
  rule : RecurringRule
  nextRunAt : Int
  active : Bool

/-- `ORDER BY next_run_at, id`. -/
def RecurringRow.runsBefore (first second : RecurringRow) : Prop :=
  first.nextRunAt < second.nextRunAt ∨
    (first.nextRunAt = second.nextRunAt ∧ first.rule.id ≤ second.rule.id)

instance : DecidableRel RecurringRow.runsBefore := fun first second =>
  inferInstanceAs (Decidable (first.nextRunAt < second.nextRunAt ∨
    (first.nextRunAt = second.nextRunAt ∧ first.rule.id ≤ second.rule.id)))

/-- The select of the rules that are due. It does not select `next_run_at`, which is kept here to
tell later what has been read. -/
def selectDue (rules : KeyMap String RecurringRow) (now : Int) : List RecurringRow :=
  ((rules.values.filter fun row => row.active ∧ row.nextRunAt ≤ now).insertionSort
    RecurringRow.runsBefore).take 50

/-- The `UPDATE` of a rule to a new `next_run_at`. -/
def setNextRunAt (rules : KeyMap String RecurringRow) (id : String) (nextRunAt : Option Int) :
    KeyMap String RecurringRow :=
  match rules.lookup id, nextRunAt with
  | some row, some nextRunAt => rules.insert id { row with nextRunAt := nextRunAt }
  | _, _ => rules

/-- What the `UPDATE` of a rule sets, if there is the rule. -/
def advancedRunAt (rules : KeyMap String RecurringRow) (id : String) : Option Int :=
  (rules.lookup id).map fun row => addMonth row.nextRunAt

/-- What the loop makes of a rule before it touches the database: an error, nothing to book, or
entries. -/
def RecurringRule.plan (rule : RecurringRule) : Except JobError (Option (List EntryDraft)) :=
  let entries := ((rule.payload.get? "entries").bind Json.asArray?).getD []
  if entries.length < 2 then .ok none
  else
    match recurringEntries entries with
    | .error error => .error error
    | .ok drafts => if recurringSum drafts ≠ 0 then .ok none else .ok (some drafts)

/-! ### Scans -/

/-- A rule that is being booked, and the rules that come after it. -/
structure Booking where
  row : RecurringRow
  rest : List RecurringRow
  drafts : List EntryDraft
  new : NewTransaction

/-- Where a scan stands, named by what has been done. -/
inductive ScanPhase where
  /-- The loop comes to its next rule. -/
  | looping (due : List RecurringRow)
  /-- The insert of the transaction is next. -/
  | begun (booking : Booking)
  /-- The insert of the entry with the index is next, or the one of the change. -/
  | entering (booking : Booking) (index : Nat)
  /-- The update of the rule is next. -/
  | logged (booking : Booking) (change : ChangeRecord)
  /-- The commit is next. -/
  | advanced (booking : Booking) (change : ChangeRecord) (nextRunAt : Option Int)

/-- The change row of a booking. -/
def Booking.change [Rfc3339] (booking : Booking) (sequence : Int) : ChangeRecord where
  sequence := sequence
  bookId := booking.row.rule.bookId
  commitId := booking.new.commitId
  entityType := "transaction"
  entityId := booking.new.txId
  operation := "upsert"
  entityVersion := 1
  payload := booking.row.rule.changePayload booking.drafts booking.new.now

/-- The commit of a booking, as far as the ledger goes. -/
def PgStore.commitBooking (store : PgStore) (booking : Booking) (change : ChangeRecord) :
    PgStore :=
  { store with
    transactions := store.transactions.insert booking.new.txId
      (booking.row.rule.row booking.drafts booking.new)
    changes := store.changes ++ [change] }

/-- A booking nobody interferes with does to the ledger what the job does as a whole. -/
theorem commitBooking_eq_writeRecurring [Rfc3339] (store : PgStore) (booking : Booking) :
    ({ store with nextSequence := store.nextSequence + 1 } : PgStore).commitBooking booking
        (booking.change store.nextSequence) =
      writeRecurring store booking.row.rule booking.drafts booking.new := rfl

/-- The plan of a rule is what the job as a whole goes by. -/
theorem generateRecurring_eq [Rfc3339] (store : PgStore) (rule : RecurringRule)
    (new : NewTransaction) (drafts : List EntryDraft) (planned : rule.plan = .ok (some drafts)) :
    generateRecurring store rule new =
      if store.allows drafts new then .ok (.generated (writeRecurring store rule drafts new))
      else .error .database := by
  unfold RecurringRule.plan at planned
  unfold generateRecurring
  dsimp only at planned ⊢
  generalize ((rule.payload.get? "entries").bind Json.asArray?).getD [] = entries at planned ⊢
  by_cases enough : entries.length < 2
  · rw [if_pos enough] at planned
    cases planned
  · rw [if_neg enough] at planned ⊢
    cases read : recurringEntries entries with
    | error error =>
      simp only [read] at planned
      cases planned
    | ok found =>
      simp only [read] at planned ⊢
      by_cases zero : recurringSum found ≠ 0
      · rw [if_pos zero] at planned
        cases planned
      · rw [if_neg zero] at planned ⊢
        cases planned
        rfl

/-! ### The world -/

/-- A transaction that was committed for a rule, with the date the scan had read. -/
structure BookedRule where
  ruleId : String
  dueAt : Int
  txId : String

section World

variable (Session : Type)

/-- The tables, the locks of the rules, and where every scan stands; then the history: what each
scan has read, how often each rule was advanced, what was booked, and what the scans had read that
have ended on their own. -/
structure RecurringWorld where
  rules : KeyMap String RecurringRow
  store : PgStore
  locks : List (String × Session)
  scans : Session → Option ScanPhase
  read : Session → List RecurringRow
  advanced : String → Nat
  booked : List BookedRule
  settled : List RecurringRow

/-- A table of rules before the first scan. -/
def RecurringWorld.initial (rules : KeyMap String RecurringRow) (store : PgStore) :
    RecurringWorld Session where
  rules := rules
  store := store
  locks := []
  scans _ := none
  read _ := []
  advanced _ := 0
  booked := []
  settled := []

/-- What can happen to scans and to the ledger. -/
inductive ScanEvent where
  /-- A worker runs `generate_due_recurring`, which reads the rules that are due. -/
  | select (session : Session) (now : Int)
  /-- A scan comes to its next statement. A booking that begins draws the ids and the time. -/
  | advance (session : Session) (new : NewTransaction)
  /-- The connection fails or the process ends. -/
  | cut (session : Session)
  /-- Somebody else writes the ledger. -/
  | ledger (store : PgStore)

/-- What the next statement of a scan comes to. -/
inductive ScanTurn where
  | waited
  | raised
  | returned
  | skipped (row : RecurringRow) (rest : List RecurringRow)
  | moved (phase : ScanPhase)
  | drew (booking : Booking) (change : ChangeRecord)
  | updated (booking : Booking) (change : ChangeRecord) (nextRunAt : Option Int)
  | committed (booking : Booking) (change : ChangeRecord) (nextRunAt : Option Int)

variable {Session} [DecidableEq Session] (world : RecurringWorld Session) (session : Session)

/-- No other transaction has updated the rule and not ended. -/
def RecurringWorld.unlocked (id : String) : Bool :=
  world.locks.all fun entry => entry.1 ≠ id || entry.2 = session

/-- The next statement of a scan. A constraint that is violated raises. -/
def RecurringWorld.turn [Rfc3339] (new : NewTransaction) : ScanPhase → ScanTurn
  | .looping [] => .returned
  | .looping (row :: rest) =>
    match row.rule.plan with
    | .error _ => .raised
    | .ok none => if world.unlocked session row.rule.id then .skipped row rest else .waited
    | .ok (some drafts) => .moved (.begun ⟨row, rest, drafts, new⟩)
  | .begun booking =>
    if (world.store.transactions.lookup booking.new.txId).isSome then .raised
    else .moved (.entering booking 0)
  | .entering booking index =>
    match booking.drafts[index]? with
    | some draft =>
      if (world.store.accounts.lookup draft.accountId).isSome ∧ draft.amountMinor ≠ 0 then
        .moved (.entering booking (index + 1))
      else .raised
    | none => .drew booking (booking.change world.store.nextSequence)
  | .logged booking change =>
    if world.unlocked session booking.row.rule.id then
      .updated booking change (advancedRunAt world.rules booking.row.rule.id)
    else .waited
  | .advanced booking change nextRunAt => .committed booking change nextRunAt

/-- The scan goes on in another phase. -/
def RecurringWorld.goTo (phase : ScanPhase) : RecurringWorld Session :=
  { world with scans := Function.update world.scans session (some phase) }

/-- A scan is over, and its transaction with it. -/
def RecurringWorld.leave : RecurringWorld Session :=
  { world with
    locks := world.locks.filter fun entry => entry.2 ≠ session
    scans := Function.update world.scans session none }

/-- A rule is advanced, with what that adds to the history. -/
def RecurringWorld.advanceRule (id : String) (nextRunAt : Option Int) : RecurringWorld Session :=
  { world with
    rules := setNextRunAt world.rules id nextRunAt
    advanced := Function.update world.advanced id (world.advanced id + 1) }

/-- What the statement leaves behind. -/
def RecurringWorld.afterTurn : ScanTurn → RecurringWorld Session
  | .waited => world
  | .raised | .returned =>
    { world with settled := world.read session ++ world.settled }.leave session
  | .skipped row rest =>
    (world.advanceRule row.rule.id (advancedRunAt world.rules row.rule.id)).goTo session
      (.looping rest)
  | .moved phase => world.goTo session phase
  | .drew booking change =>
    { world with
      store := { world.store with nextSequence := world.store.nextSequence + 1 } }.goTo session
        (.logged booking change)
  | .updated booking change nextRunAt =>
    { world with locks := (booking.row.rule.id, session) :: world.locks }.goTo session
      (.advanced booking change nextRunAt)
  | .committed booking change nextRunAt =>
    { world.advanceRule booking.row.rule.id nextRunAt with
      store := world.store.commitBooking booking change
      booked := ⟨booking.row.rule.id, booking.row.nextRunAt, booking.new.txId⟩ :: world.booked
    }.leave session |>.goTo session (.looping booking.rest)

end World

/-- One step. A step that cannot happen now changes nothing. -/
def RecurringWorld.step [Rfc3339] {Session : Type} [DecidableEq Session]
    (world : RecurringWorld Session) : ScanEvent Session → RecurringWorld Session
  | .select session now =>
    match world.scans session with
    | some _ => world
    | none =>
      { world with
        read := Function.update world.read session (selectDue world.rules now) }.goTo session
          (.looping (selectDue world.rules now))
  | .advance session new =>
    match world.scans session with
    | none => world
    | some phase => world.afterTurn session (world.turn session new phase)
  | .cut session => world.leave session
  | .ledger store => { world with store := store }

end Ledgerly
