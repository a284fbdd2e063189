/-
This file models `RecurringScheduler`: the dates of a recurring rule, the key a posted row is
recognised by, and `catchUp`, which posts what is due and advances the rules.

A date is a day counted from the epoch. `catchUp` waits for the database at the reading of the due
rules, at the posting and at the advance of a rule, and the process may end there, so these are
steps of their own.
-/

import Ledgerly.AutoLedgerService
import Ledgerly.Library.CivilDate

namespace Ledgerly

/-! ### Dates -/

/-- What the client takes from `DateTime` about the time zone of the device: the noon of a date,
in microseconds since the epoch, and the date of an instant. -/
class LocalClock where
  noon : Int → Int
  dateOf : Int → Int
  dateOf_noon (date : Int) : dateOf (noon date) = date

/-- `RecurringDate.clampDay`. -/
def RecurringDate.clampDay (year month dayOfMonth : Int) : Int :=
  let wanted := max 1 (min dayOfMonth 31)
  let last := CivilDate.daysInMonth year month
  if wanted > last then last else wanted

/-- `RecurringDate.advanceOneMonth`. -/
def RecurringDate.advanceOneMonth (current dayOfMonth : Int) : Int :=
  (CivilDate.ofDays current).intoNextMonth fun year month => clampDay year month dayOfMonth

/-- `RecurringDate.isDue`, on the date of the clock. -/
def RecurringDate.isDue (nextRunDate clock : Int) : Bool := nextRunDate ≤ clock

theorem RecurringDate.one_le_clampDay (year month dayOfMonth : Int) :
    1 ≤ clampDay year month dayOfMonth := by
  have inMonth := CivilDate.one_le_daysInMonth year month
  simp only [clampDay]
  split <;> omega

/-- A rule moves forward. -/
theorem RecurringDate.lt_advanceOneMonth (current dayOfMonth : Int) :
    current < advanceOneMonth current dayOfMonth :=
  CivilDate.lt_intoNextMonth current _ fun year month => one_le_clampDay year month dayOfMonth

/-! ### Rules and keys -/

/-- `LocalRecurringRule`, of the book of the device. -/
structure LocalRecurringRule where
  id : String
  name : String
  kind : String
  amountMinor : Int
  categoryAccountId : String
  accountId : String
  dayOfMonth : Int
  nextRunDate : Int
  active : Bool
  deriving DecidableEq

/-- The parts of the text of `postedRowKey`. Only the last one can hold a bar, so the texts are
the same exactly if the parts are. -/
structure PostedRowKey where
  date : Int
  kind : TransactionSummaryKind
  amountMinor : Int
  description : String
  deriving DecidableEq

/-- `postedRowKey`. -/
def postedRowKey [LocalClock] (occurredAt amountMinor : Int) (kind : TransactionSummaryKind)
    (description : String) : PostedRowKey :=
  ⟨LocalClock.dateOf occurredAt, kind, amountMinor, dartTrim description⟩

/-- The key of a transaction of the ledger. -/
def TransactionSummary.rowKey [LocalClock] (tx : TransactionSummary) : PostedRowKey :=
  postedRowKey (tx.occurredAt * 1000000) tx.amountMinor tx.kind (tx.description.getD "")

/-- The key of the transaction a rule is due to post. -/
def LocalRecurringRule.rowKey [LocalClock] (rule : LocalRecurringRule) : PostedRowKey :=
  postedRowKey (LocalClock.noon rule.nextRunDate) rule.amountMinor
    (if rule.kind = "income" then .income else .expense) rule.name

/-- `LocalRecurringRepository.due`. -/
def dueRules (rules : List LocalRecurringRule) (clock : Int) : List LocalRecurringRule :=
  rules.filter fun rule => rule.active && RecurringDate.isDue rule.nextRunDate clock

/-- `LocalRecurringRepository.advance`. -/
def LocalRecurringRule.advance (rule : LocalRecurringRule) (rules : List LocalRecurringRule) :
    List LocalRecurringRule :=
  rules.map fun row =>
    if row.id = rule.id then
      { row with
        nextRunDate := RecurringDate.advanceOneMonth rule.nextRunDate rule.dayOfMonth }
    else row

/-- `RecurringScheduler._post`. -/
def Device.postRule [DartText] [LocalClock] (device : Device) (rule : LocalRecurringRule)
    (txId newId : String) : Except LedgerError Device :=
  let header : TransactionHeader :=
    { id := txId
      occurredAt := LocalClock.noon rule.nextRunDate
      description := some rule.name
      source := none
      sourceEventFingerprint := none }
  if rule.kind = "income" then
    device.createIncome header rule.categoryAccountId rule.accountId rule.amountMinor none newId
  else
    device.createExpense header rule.categoryAccountId rule.accountId rule.amountMinor none newId

/-! ### Catching up -/

/-- A call of `catchUp` in its loops: the passes it has left, what is left of the due rules of the
pass, and whether it has got past the key of the first of them. -/
structure CatchUp where
  clock : Int
  postedKeys : List PostedRowKey
  passes : Nat
  due : List LocalRecurringRule
  handled : Bool

/-- The rules and the ledger of the device, and the call in progress. -/
structure RecurringScheduler where
  rules : List LocalRecurringRule
  device : Device
  catchUp : Option CatchUp

/-- The keys of the ledger. Reading them throws if an amount of the ledger is no number. -/
def RecurringScheduler.ledgerKeys [LocalClock] (scheduler : RecurringScheduler) :
    Option (List PostedRowKey) :=
  (scheduler.device.watchSummariesSync fun _ => true).map fun summaries =>
    summaries.map TransactionSummary.rowKey

/-- What the next stretch of a call, up to where it waits again, comes to. -/
inductive CatchUpTurn where
  | finished
  | pass (due : List LocalRecurringRule)
  | recognised
  | posted (rule : LocalRecurringRule) (device : Device)
  | threw
  | advanced (rule : LocalRecurringRule) (rest : List LocalRecurringRule)

/-- The next stretch of a call. -/
def RecurringScheduler.turn [DartText] [LocalClock] (scheduler : RecurringScheduler)
    (call : CatchUp) (txId newId : String) : CatchUpTurn :=
  match call.due with
  | [] =>
    match call.passes, dueRules scheduler.rules call.clock with
    | 0, _ | _, [] => .finished
    | _, due => .pass due
  | rule :: rest =>
    if call.handled then .advanced rule rest
    else if rule.rowKey ∈ call.postedKeys then .recognised
    else
      match scheduler.device.postRule rule txId newId with
      | .error _ => .threw
      | .ok device => .posted rule device

/-- What it leaves behind. -/
def RecurringScheduler.afterTurn [LocalClock] (scheduler : RecurringScheduler) (call : CatchUp) :
    CatchUpTurn → RecurringScheduler
  | .finished | .threw => { scheduler with catchUp := none }
  | .pass due =>
    { scheduler with
      catchUp := some { call with passes := call.passes - 1, due := due, handled := false } }
  | .recognised => { scheduler with catchUp := some { call with handled := true } }
  | .posted rule device =>
    { scheduler with
      device := device
      catchUp := some
        { call with postedKeys := rule.rowKey :: call.postedKeys, handled := true } }
  | .advanced rule rest =>
    { scheduler with
      rules := rule.advance scheduler.rules
      catchUp := some { call with due := rest, handled := false } }

/-- What happens to the scheduler. -/
inductive RecurringEvent where
  /-- `catchUp` is called on a date and reads the ledger. -/
  | start (clock : Int)
  /-- The call goes on until it waits again. -/
  | resume (txId newId : String)
  /-- The process ends, or the call with an exception. -/
  | interrupt
  /-- Something else writes the ledger. -/
  | ledger (device : Device)

/-- What a turn needs: the case split of `turn`, said once. -/
theorem RecurringScheduler.turn_cases [DartText] [LocalClock] (scheduler : RecurringScheduler)
    (call : CatchUp) (txId newId : String) :
    (call.due = [] ∧ (call.passes = 0 ∨ dueRules scheduler.rules call.clock = []) ∧
      scheduler.turn call txId newId = .finished) ∨
    (call.due = [] ∧ 0 < call.passes ∧
      scheduler.turn call txId newId = .pass (dueRules scheduler.rules call.clock)) ∨
    ∃ rule rest, call.due = rule :: rest ∧
      ((call.handled = true ∧ scheduler.turn call txId newId = .advanced rule rest) ∨
        (call.handled = false ∧ rule.rowKey ∈ call.postedKeys ∧
          scheduler.turn call txId newId = .recognised) ∨
        (call.handled = false ∧ rule.rowKey ∉ call.postedKeys ∧
          (scheduler.turn call txId newId = .threw ∨
            ∃ device, scheduler.turn call txId newId = .posted rule device))) := by
  unfold turn
  cases due : call.due with
  | nil =>
    cases passes : call.passes with
    | zero => exact Or.inl ⟨rfl, Or.inl rfl, rfl⟩
    | succ left =>
      cases rules : dueRules scheduler.rules call.clock with
      | nil => exact Or.inl ⟨rfl, Or.inr rfl, rfl⟩
      | cons rule rest => exact Or.inr (Or.inl ⟨rfl, Nat.succ_pos _, rfl⟩)
  | cons rule rest =>
    refine Or.inr (Or.inr ⟨rule, rest, rfl, ?_⟩)
    cases handled : call.handled with
    | true => exact Or.inl ⟨rfl, rfl⟩
    | false =>
      by_cases known : rule.rowKey ∈ call.postedKeys
      · exact Or.inr (Or.inl ⟨rfl, known, by simp [known]⟩)
      · refine Or.inr (Or.inr ⟨rfl, known, ?_⟩)
        cases posted : scheduler.device.postRule rule txId newId with
        | error raised => exact Or.inl (by simp [known, posted])
        | ok device => exact Or.inr ⟨device, by simp [known, posted]⟩

end Ledgerly
