/-
This file proves when the scans of `generate_due_recurring` turn every due occurrence of a valid
rule into exactly one transaction.

A scan advances a rule from whatever date the rule has by then, so that a scan that comes second
books the occurrence it had read once more and skips the one in between. And a rule that raises
ends the scan, which leaves what comes after it in the list to a later one. Everything else a scan
does keeps the count.
-/

import Ledgerly.RecurringScan
import Ledgerly.Library.Run

namespace Ledgerly

/-! ### Occurrences -/

/-- The dates a row is to run at, one advance after the other. -/
def RecurringRow.occurrence (row : RecurringRow) : Nat → Int
  | 0 => row.nextRunAt
  | index + 1 => addMonth (row.occurrence index)

/-- A row after some advances. -/
def RecurringRow.at (row : RecurringRow) (index : Nat) : RecurringRow :=
  { row with nextRunAt := row.occurrence index }

theorem RecurringRow.occurrence_injective (row : RecurringRow) :
    Function.Injective row.occurrence :=
  (strictMono_nat_of_lt_succ fun _ => lt_addMonth _).injective

/-- The loop books a rule. -/
def RecurringRule.Valid (rule : RecurringRule) : Prop := ∃ drafts, rule.plan = .ok (some drafts)

/-- The id of a rule is its key. -/
def KeyedById (rules : KeyMap String RecurringRow) : Prop :=
  ∀ id row, rules.lookup id = some row → row.rule.id = id

/-- The `UPDATE` of a rule that has not been updated in the meantime. -/
theorem lookup_setNextRunAt (rules : KeyMap String RecurringRow) (id other : String) :
    (setNextRunAt rules id (advancedRunAt rules id)).lookup other =
      (rules.lookup other).map fun row =>
        if other = id then { row with nextRunAt := addMonth row.nextRunAt } else row := by
  unfold setNextRunAt advancedRunAt
  cases found : rules.lookup id with
  | none =>
    by_cases same : other = id
    · rw [same, found]
      rfl
    · simp only [if_neg same, Option.map_id']
  | some row =>
    simp only [Option.map_some, KeyMap.lookup_insert_eq]
    by_cases same : other = id
    · rw [if_pos same, same, found, Option.map_some, if_pos rfl]
    · simp only [if_neg same, Option.map_id']

/-- Another rule is updated to what it would have been updated to. -/
theorem advancedRunAt_setNextRunAt {table : KeyMap String RecurringRow} {id other : String}
    (different : other ≠ id) :
    advancedRunAt (setNextRunAt table id (advancedRunAt table id)) other =
      advancedRunAt table other := by
  rw [advancedRunAt, lookup_setNextRunAt]
  simp only [if_neg different, Option.map_id']
  rfl

theorem le_update_succ (counts : String → Nat) (id other : String) :
    counts other ≤ Function.update counts id (counts id + 1) other := by
  by_cases same : other = id
  · rw [same, Function.update_self]
    exact Nat.le_succ _
  · rw [Function.update_of_ne same]

section World

variable {Session : Type} {rules : KeyMap String RecurringRow}
  {world : RecurringWorld Session}

/-! ### What is to hold -/

/-- How many transactions were committed for an occurrence. -/
def RecurringWorld.bookedFor (world : RecurringWorld Session) (ruleId : String) (dueAt : Int) :
    Nat :=
  world.booked.countP fun booked => booked.ruleId = ruleId ∧ booked.dueAt = dueAt

/-- Every occurrence of a valid rule that the rule was advanced from has exactly one transaction,
and no other has any. -/
def RecurringWorld.Once (rules : KeyMap String RecurringRow) (world : RecurringWorld Session) :
    Prop :=
  ∀ id row, rules.lookup id = some row → row.rule.Valid → ∀ index,
    world.bookedFor id (row.occurrence index) = if index < world.advanced id then 1 else 0

/-- A rule is to run next at the occurrence that it was advanced to, the occurrences before have
one transaction each, if the rule is valid, and what a scan had read has its transactions by the
time the scan has ended on its own. -/
structure RecurringWorld.ExactlyOnce (rules : KeyMap String RecurringRow)
    (world : RecurringWorld Session) : Prop where
  current : ∀ id row, rules.lookup id = some row →
    world.rules.lookup id = some (row.at (world.advanced id))
  once : world.Once rules
  settled : ∀ row ∈ world.settled, row.rule.Valid →
    world.bookedFor row.rule.id row.nextRunAt = 1

/-- A rule that has been read is still to run at the date that was read. -/
def RecurringWorld.Unmoved (world : RecurringWorld Session) (row : RecurringRow) : Prop :=
  (world.rules.lookup row.rule.id).map RecurringRow.nextRunAt = some row.nextRunAt

/-- The rules a scan has not finished with. -/
def ScanPhase.rows : ScanPhase → List RecurringRow
  | .looping due => due
  | .begun booking | .entering booking _ | .logged booking _ | .advanced booking _ _ =>
    booking.row :: booking.rest

/-- A booking commits only for a rule that is still to run at the date its scan has read, and a
statement raises only if every valid rule its scan has not finished with has moved on. -/
def RecurringWorld.TurnStaysExact (world : RecurringWorld Session) (phase : ScanPhase) :
    ScanTurn → Prop
  | .committed booking _ _ => world.Unmoved booking.row
  | .raised => ∀ row ∈ phase.rows, row.rule.Valid → ¬world.Unmoved row
  | _ => True

/-- What is asked of an event. Only the statements of scans can go wrong. -/
def RecurringWorld.StaysExact [Rfc3339] [DecidableEq Session] (world : RecurringWorld Session) :
    ScanEvent Session → Prop
  | .advance session new => ∀ phase, world.scans session = some phase →
    world.TurnStaysExact phase (world.turn session new phase)
  | _ => True

instance (rule : RecurringRule) : Decidable rule.Valid :=
  match planned : rule.plan with
  | .ok (some drafts) => isTrue ⟨drafts, planned⟩
  | .ok none => isFalse fun ⟨_, valid⟩ => nomatch planned.symm.trans valid
  | .error _ => isFalse fun ⟨_, valid⟩ => nomatch planned.symm.trans valid

instance (row : RecurringRow) : Decidable (world.Unmoved row) :=
  inferInstanceAs (Decidable (_ = _))

instance (phase : ScanPhase) : ∀ turn, Decidable (world.TurnStaysExact phase turn)
  | .committed booking _ _ => inferInstanceAs (Decidable (world.Unmoved booking.row))
  | .raised => inferInstanceAs (Decidable (∀ row ∈ phase.rows, row.rule.Valid → ¬world.Unmoved row))
  | .waited | .returned | .skipped _ _ | .moved _ | .drew _ _ | .updated _ _ _ => isTrue trivial

instance [Rfc3339] [DecidableEq Session] : ∀ event, Decidable (world.StaysExact event)
  | .advance session new =>
    match running : world.scans session with
    | none => isTrue fun _ same => nomatch running.symm.trans same
    | some phase => decidable_of_iff (world.TurnStaysExact phase (world.turn session new phase))
      ⟨fun stays _ same => Option.some.inj (running.symm.trans same) ▸ stays,
        fun all => all phase running⟩
  | .select _ _ | .cut _ | .ledger _ => isTrue trivial

/-! ### What always holds -/

/-- A row was read when its rule had been advanced so often. -/
def RecurringWorld.ReadAt (rules : KeyMap String RecurringRow) (row : RecurringRow)
    (index : Nat) : Prop :=
  ∃ base, rules.lookup row.rule.id = some base ∧ row = base.at index

/-- A rule has been advanced since it was read. -/
def RecurringWorld.Passed (rules : KeyMap String RecurringRow) (world : RecurringWorld Session)
    (row : RecurringRow) : Prop :=
  ∃ index < world.advanced row.rule.id, ReadAt rules row index

/-- The booking that the scan is at. -/
def ScanPhase.booking : ScanPhase → Option Booking
  | .looping _ => none
  | .begun booking | .entering booking _ | .logged booking _ | .advanced booking _ _ =>
    some booking

/-- What holds of one scan. -/
structure RecurringWorld.InScan (rules : KeyMap String RecurringRow)
    (world : RecurringWorld Session) (session : Session) (phase : ScanPhase) : Prop where
  rows : ∀ row ∈ phase.rows, ∃ index ≤ world.advanced row.rule.id, ReadAt rules row index
  planned : ∀ booking, phase.booking = some booking →
    booking.row.rule.plan = .ok (some booking.drafts)
  holds : ∀ booking change nextRunAt, phase = .advanced booking change nextRunAt →
    (booking.row.rule.id, session) ∈ world.locks ∧
      nextRunAt = advancedRunAt world.rules booking.row.rule.id
  among : ∀ row ∈ phase.rows, row ∈ world.read session
  read : ∀ row ∈ world.read session, row ∈ phase.rows ∨ world.Passed rules row

/-- What holds in every state. -/
structure RecurringWorld.Tracked (rules : KeyMap String RecurringRow)
    (world : RecurringWorld Session) : Prop where
  current : ∀ id, world.rules.lookup id =
    (rules.lookup id).map fun row => row.at (world.advanced id)
  locks : ∀ entry ∈ world.locks, ∀ other ∈ world.locks, entry.1 = other.1 → entry.2 = other.2
  scans : ∀ session phase, world.scans session = some phase → world.InScan rules session phase
  settled : ∀ row ∈ world.settled, ∃ index ≤ world.advanced row.rule.id, ReadAt rules row index

theorem RecurringWorld.initial_tracked (rules : KeyMap String RecurringRow) (store : PgStore) :
    (initial Session rules store).Tracked rules where
  current id := by
    show rules.lookup id = _
    cases rules.lookup id <;> rfl
  locks _ member := absurd member List.not_mem_nil
  scans _ _ := nofun
  settled _ member := absurd member List.not_mem_nil

theorem RecurringWorld.initial_exactlyOnce (rules : KeyMap String RecurringRow) (store : PgStore) :
    (initial Session rules store).ExactlyOnce rules where
  current _ _ found := found
  once _ _ _ _ _ := rfl
  settled _ member := absurd member List.not_mem_nil

/-! ### What a row that was read tells -/

section Read

variable {row : RecurringRow} {index : Nat}

/-- A rule is unmoved exactly if it has not been advanced since. -/
theorem RecurringWorld.unmoved_iff (tracked : world.Tracked rules) (read : ReadAt rules row index) :
    world.Unmoved row ↔ index = world.advanced row.rule.id := by
  obtain ⟨base, found, same⟩ := read
  have date : row.nextRunAt = base.occurrence index := congrArg RecurringRow.nextRunAt same
  rw [Unmoved, tracked.current, found, Option.map_some, Option.map_some, Option.some_inj, date]
  exact base.occurrence_injective.eq_iff.trans eq_comm

/-- A valid rule that was read is one of the table. -/
theorem RecurringWorld.ReadAt.base (read : ReadAt rules row index) (valid : row.rule.Valid) :
    ∃ base, rules.lookup row.rule.id = some base ∧ base.rule.Valid ∧
      row.nextRunAt = base.occurrence index := by
  obtain ⟨base, found, same⟩ := read
  have rule : row.rule = base.rule := (congrArg RecurringRow.rule same : _)
  exact ⟨base, found, rule ▸ valid, congrArg RecurringRow.nextRunAt same⟩

/-- What was read of a valid rule is booked once exactly if the rule has been advanced since. -/
theorem RecurringWorld.Once.booked_iff (once : world.Once rules) (read : ReadAt rules row index)
    (valid : row.rule.Valid) :
    world.bookedFor row.rule.id row.nextRunAt = 1 ↔ index < world.advanced row.rule.id := by
  obtain ⟨base, found, baseValid, date⟩ := read.base valid
  rw [date, once _ base found baseValid]
  split
  · rename_i passed
    exact iff_of_true rfl passed
  · rename_i ahead
    exact iff_of_false (by decide) ahead

theorem RecurringWorld.Tracked.not_unmoved (tracked : world.Tracked rules)
    (passed : world.Passed rules row) : ¬world.Unmoved row := by
  obtain ⟨index, before, read⟩ := passed
  rw [unmoved_iff tracked read]
  exact before.ne

end Read

/-! ### Every step keeps what always holds -/

section Tracked

variable {next : RecurringWorld Session} {session : Session} {phase : ScanPhase}

/-- What a scan has learned it keeps, as long as its lock and the rule it has updated stay. -/
theorem RecurringWorld.InScan.mono (inScan : world.InScan rules session phase)
    (grows : ∀ id, world.advanced id ≤ next.advanced id)
    (read : next.read session = world.read session)
    (kept : ∀ booking change nextRunAt, phase = .advanced booking change nextRunAt →
      (booking.row.rule.id, session) ∈ next.locks ∧
        advancedRunAt next.rules booking.row.rule.id =
          advancedRunAt world.rules booking.row.rule.id) :
    next.InScan rules session phase where
  rows row member := by
    obtain ⟨index, reached, readAt⟩ := inScan.rows row member
    exact ⟨index, reached.trans (grows _), readAt⟩
  planned := inScan.planned
  holds booking change nextRunAt advanced := by
    obtain ⟨lock, same⟩ := kept booking change nextRunAt advanced
    exact ⟨lock, (inScan.holds booking change nextRunAt advanced).2.trans same.symm⟩
  among row member := read ▸ inScan.among row member
  read row member := by
    rw [read] at member
    refine (inScan.read row member).imp_right fun ⟨index, before, readAt⟩ => ?_
    exact ⟨index, before.trans_le (grows _), readAt⟩

/-- The table after a rule was advanced once more. -/
theorem RecurringWorld.Tracked.current_advance (tracked : world.Tracked rules) (id : String) :
    ∀ other, (setNextRunAt world.rules id (advancedRunAt world.rules id)).lookup other =
      (rules.lookup other).map fun row =>
        row.at (Function.update world.advanced id (world.advanced id + 1) other) := by
  intro other
  rw [lookup_setNextRunAt, tracked.current, Option.map_map]
  congr 1
  funext row
  by_cases same : other = id
  · rw [Function.comp_apply, if_pos same, same, Function.update_self]
    rfl
  · rw [Function.comp_apply, if_neg same, Function.update_of_ne same]

variable [DecidableEq Session]

/-- A step of one session leaves the others alone, as long as it respects their locks. -/
theorem RecurringWorld.Tracked.step_of (tracked : world.Tracked rules) (session : Session)
    (own : Option ScanPhase)
    (scans : next.scans = Function.update world.scans session own)
    (current : ∀ id, next.rules.lookup id =
      (rules.lookup id).map fun row => row.at (next.advanced id))
    (locks : ∀ entry ∈ next.locks, ∀ other ∈ next.locks, entry.1 = other.1 → entry.2 = other.2)
    (grows : ∀ id, world.advanced id ≤ next.advanced id)
    (read : ∀ other, other ≠ session → next.read other = world.read other)
    (respects : ∀ id other, other ≠ session → (id, other) ∈ world.locks →
      (id, other) ∈ next.locks ∧ advancedRunAt next.rules id = advancedRunAt world.rules id)
    (inScan : ∀ phase, own = some phase → next.InScan rules session phase)
    (settled : ∀ row ∈ next.settled, ∃ index ≤ next.advanced row.rule.id, ReadAt rules row index) :
    next.Tracked rules where
  current := current
  locks := locks
  scans other phase running := by
    rw [scans] at running
    by_cases same : other = session
    · obtain rfl := same
      rw [Function.update_self] at running
      exact inScan phase running
    · rw [Function.update_of_ne same] at running
      have inScan := tracked.scans other phase running
      refine inScan.mono grows (read other same) fun booking change nextRunAt advanced => ?_
      exact respects _ other same (inScan.holds booking change nextRunAt advanced).1
  settled := settled

/-- A step that neither advances a rule nor touches a lock. -/
theorem RecurringWorld.Tracked.goTo (tracked : world.Tracked rules)
    (running : world.scans session = some phase) {own : ScanPhase} (store : PgStore)
    (rows : own.rows = phase.rows)
    (planned : ∀ booking, own.booking = some booking →
      booking.row.rule.plan = .ok (some booking.drafts))
    (unlocked : ∀ booking change nextRunAt, own ≠ .advanced booking change nextRunAt) :
    (({ world with store := store } : RecurringWorld Session).goTo session own).Tracked rules := by
  have inScan := tracked.scans session phase running
  refine tracked.step_of session (some own) rfl tracked.current tracked.locks (fun _ => le_rfl)
    (fun _ _ => rfl) (fun _ _ _ lock => ⟨lock, rfl⟩) (fun next goes => ?_) tracked.settled
  obtain rfl := Option.some.inj goes
  exact ⟨rows ▸ inScan.rows, planned, fun _ _ _ equal => absurd equal (unlocked _ _ _),
    rows ▸ inScan.among, rows ▸ inScan.read⟩

/-- The lock of a rule is free for a session. -/
theorem RecurringWorld.not_mem_locks {id : String} {other : Session}
    (unlocked : world.unlocked session id = true) (different : other ≠ session) :
    (id, other) ∉ world.locks := by
  intro member
  have entry := List.all_eq_true.mp unlocked _ member
  simp [different] at entry

/-- The locks of a session that leaves go; those of the others stay. -/
theorem RecurringWorld.mem_locks_leave {id : String} {other : Session}
    (different : other ≠ session) (lock : (id, other) ∈ world.locks) :
    (id, other) ∈ (world.leave session).locks :=
  List.mem_filter.mpr ⟨lock, decide_eq_true different⟩

/-- A scan is over; what it had read counts as settled if it has ended on its own. -/
theorem RecurringWorld.Tracked.leave (tracked : world.Tracked rules)
    {settled : List RecurringRow}
    (known : ∀ row ∈ settled, ∃ index ≤ world.advanced row.rule.id, ReadAt rules row index) :
    (({ world with settled := settled } : RecurringWorld Session).leave session).Tracked rules :=
  tracked.step_of session none rfl tracked.current
    (fun entry member other otherMember => tracked.locks entry (List.mem_of_mem_filter member) other
      (List.mem_of_mem_filter otherMember))
    (fun _ => le_rfl) (fun _ _ => rfl)
    (fun _ _ different lock => ⟨mem_locks_leave different lock, rfl⟩) (fun _ => nofun) known

omit [DecidableEq Session] in
/-- What a scan has read was read some advances ago. -/
theorem RecurringWorld.InScan.known (inScan : world.InScan rules session phase)
    {row : RecurringRow} (member : row ∈ world.read session) :
    ∃ index ≤ world.advanced row.rule.id, ReadAt rules row index := by
  obtain among | ⟨index, before, read⟩ := inScan.read row member
  · exact inScan.rows row among
  · exact ⟨index, before.le, read⟩

theorem RecurringWorld.Tracked.ended (tracked : world.Tracked rules)
    (running : world.scans session = some phase) :
    (({ world with settled := world.read session ++ world.settled } :
      RecurringWorld Session).leave session).Tracked rules :=
  tracked.leave fun row member => (List.mem_append.mp member).elim
    (tracked.scans session phase running).known (tracked.settled row)

omit [DecidableEq Session] in
/-- After a rule was advanced, its scan has the rest of its list left. -/
theorem RecurringWorld.InScan.rest (inScan : world.InScan rules session phase)
    {row : RecurringRow} {rest : List RecurringRow} (rows : phase.rows = row :: rest)
    (advanced : next.advanced = Function.update world.advanced row.rule.id
      (world.advanced row.rule.id + 1))
    (read : next.read session = world.read session) :
    next.InScan rules session (.looping rest) where
  rows other member := by
    obtain ⟨index, reached, readAt⟩ := inScan.rows other (rows ▸ List.mem_cons_of_mem _ member)
    rw [advanced]
    exact ⟨index, reached.trans (le_update_succ ..), readAt⟩
  planned _ := nofun
  holds _ _ _ := nofun
  among other member := by
    rw [read]
    exact inScan.among other (rows ▸ List.mem_cons_of_mem _ member)
  read other member := by
    rw [read] at member
    have passed : world.Passed rules other → next.Passed rules other := by
      rintro ⟨index, before, readAt⟩
      refine ⟨index, ?_, readAt⟩
      rw [advanced]
      exact before.trans_le (le_update_succ ..)
    obtain among | before := inScan.read other member
    · rw [rows] at among
      obtain rfl | among := List.mem_cons.mp among
      · obtain ⟨index, reached, readAt⟩ := inScan.rows other (rows ▸ List.mem_cons_self)
        refine Or.inr ⟨index, ?_, readAt⟩
        rw [advanced, Function.update_self]
        exact Nat.lt_succ_of_le reached
      · exact Or.inl among
    · exact Or.inr (passed before)

/-- A rule that is skipped is advanced, unless another transaction has its lock. -/
theorem RecurringWorld.Tracked.skipped (tracked : world.Tracked rules) {row : RecurringRow}
    {rest : List RecurringRow} (running : world.scans session = some (.looping (row :: rest)))
    (unlocked : world.unlocked session row.rule.id = true) :
    (world.afterTurn session (.skipped row rest)).Tracked rules := by
  refine tracked.step_of session (some (.looping rest)) rfl
    (tracked.current_advance row.rule.id) tracked.locks (fun id => le_update_succ _ _ id)
    (fun _ _ => rfl) (fun id other different lock => ⟨lock, ?_⟩) (fun phase goes => ?_)
    fun other member => ?_
  · refine advancedRunAt_setNextRunAt fun same => ?_
    exact not_mem_locks unlocked different (same ▸ lock)
  · obtain rfl := Option.some.inj goes
    exact (tracked.scans session _ running).rest rfl rfl rfl
  · obtain ⟨index, reached, read⟩ := tracked.settled other member
    exact ⟨index, reached.trans (le_update_succ ..), read⟩

/-- The `UPDATE` of a booking takes the lock of the rule. -/
theorem RecurringWorld.Tracked.updated (tracked : world.Tracked rules) {booking : Booking}
    {change : ChangeRecord} (running : world.scans session = some (.logged booking change))
    (unlocked : world.unlocked session booking.row.rule.id = true) :
    (world.afterTurn session (.updated booking change
      (advancedRunAt world.rules booking.row.rule.id))).Tracked rules := by
  have inScan := tracked.scans session _ running
  have free : ∀ entry ∈ world.locks, entry.1 = booking.row.rule.id → entry.2 = session := by
    intro entry member same
    by_contra different
    exact not_mem_locks unlocked different (same ▸ member)
  refine tracked.step_of session (some (.advanced booking change _)) rfl tracked.current
    (fun entry member other otherMember same => ?_) (fun _ => le_rfl) (fun _ _ => rfl)
    (fun _ _ _ lock => ⟨List.mem_cons_of_mem _ lock, rfl⟩) (fun phase goes => ?_) tracked.settled
  · obtain rfl | member := List.mem_cons.mp member
    · obtain rfl | otherMember := List.mem_cons.mp otherMember
      · rfl
      · exact (free other otherMember same.symm).symm
    · obtain rfl | otherMember := List.mem_cons.mp otherMember
      · exact free entry member same
      · exact tracked.locks entry member other otherMember same
  · obtain rfl := Option.some.inj goes
    refine ⟨inScan.rows, inScan.planned, fun _ _ _ equal => ?_, inScan.among, inScan.read⟩
    cases equal
    exact ⟨List.mem_cons_self, rfl⟩

/-- Nobody but the session that commits has the lock of the rule. -/
theorem RecurringWorld.Tracked.committed (tracked : world.Tracked rules) {booking : Booking}
    {change : ChangeRecord} {nextRunAt : Option Int}
    (running : world.scans session = some (.advanced booking change nextRunAt)) :
    (world.afterTurn session (.committed booking change nextRunAt)).Tracked rules := by
  have inScan := tracked.scans session _ running
  obtain ⟨own, rfl⟩ := inScan.holds booking change nextRunAt rfl
  refine tracked.step_of session (some (.looping booking.rest))
    (Function.update_idem ..) (tracked.current_advance booking.row.rule.id)
    (fun entry member other otherMember => tracked.locks entry (List.mem_of_mem_filter member) other
      (List.mem_of_mem_filter otherMember))
    (fun id => le_update_succ _ _ id) (fun _ _ => rfl)
    (fun id other different lock => ⟨mem_locks_leave different lock, ?_⟩) (fun phase goes => ?_)
    fun other member => ?_
  · refine advancedRunAt_setNextRunAt fun same => different ?_
    exact tracked.locks _ lock _ own same
  · obtain rfl := Option.some.inj goes
    exact inScan.rest rfl rfl rfl
  · obtain ⟨index, reached, read⟩ := tracked.settled other member
    exact ⟨index, reached.trans (le_update_succ ..), read⟩

theorem RecurringWorld.Tracked.turn [Rfc3339] (tracked : world.Tracked rules)
    (running : world.scans session = some phase) (new : NewTransaction) :
    (world.afterTurn session (world.turn session new phase)).Tracked rules := by
  have inScan := tracked.scans session phase running
  cases phase with
  | looping due =>
    cases due with
    | nil => exact tracked.ended running
    | cons row rest =>
      rw [RecurringWorld.turn]
      split
      · exact tracked.ended running
      · split
        · rename_i unlocked
          exact tracked.skipped running unlocked
        · exact tracked
      · rename_i drafts planned
        refine tracked.goTo running world.store rfl (fun booking same => ?_) fun _ _ _ => nofun
        cases same
        exact planned
  | begun booking =>
    rw [RecurringWorld.turn]
    split
    · exact tracked.ended running
    · exact tracked.goTo running world.store rfl inScan.planned fun _ _ _ => nofun
  | entering booking index =>
    rw [RecurringWorld.turn]
    split
    · split
      · exact tracked.goTo running world.store rfl inScan.planned fun _ _ _ => nofun
      · exact tracked.ended running
    · exact tracked.goTo running _ rfl inScan.planned fun _ _ _ => nofun
  | logged booking change =>
    rw [RecurringWorld.turn]
    split
    · rename_i unlocked
      exact tracked.updated running unlocked
    · exact tracked
  | advanced booking change nextRunAt => exact tracked.committed running

omit [DecidableEq Session] in
/-- The select reads rules as they are. -/
theorem RecurringWorld.Tracked.selected (tracked : world.Tracked rules) (keyed : KeyedById rules)
    {now : Int} {row : RecurringRow} (member : row ∈ selectDue world.rules now) :
    ReadAt rules row (world.advanced row.rule.id) := by
  have among := List.mem_of_mem_take member
  rw [List.mem_insertionSort] at among
  obtain ⟨id, found⟩ := KeyMap.mem_values_iff.mp (List.mem_of_mem_filter among)
  rw [tracked.current] at found
  obtain ⟨base, foundBase, rfl⟩ := Option.map_eq_some_iff.mp found
  obtain rfl := keyed id base foundBase
  exact ⟨base, foundBase, rfl⟩

theorem RecurringWorld.step_tracked [Rfc3339] (keyed : KeyedById rules)
    (world : RecurringWorld Session) (event : ScanEvent Session) (tracked : world.Tracked rules) :
    (world.step event).Tracked rules := by
  cases event with
  | select session now =>
    rw [RecurringWorld.step]
    split
    · exact tracked
    · refine tracked.step_of session (some (.looping (selectDue world.rules now))) rfl
        tracked.current tracked.locks (fun _ => le_rfl)
        (fun other different => Function.update_of_ne different ..)
        (fun _ _ _ lock => ⟨lock, rfl⟩) (fun phase goes => ?_) tracked.settled
      obtain rfl := Option.some.inj goes
      refine ⟨fun row member => ⟨_, le_rfl, tracked.selected keyed member⟩, fun _ => nofun,
        fun _ _ _ => nofun, fun row member => ?_, fun row member => Or.inl ?_⟩
      · dsimp only [RecurringWorld.goTo]
        rwa [Function.update_self]
      · dsimp only [RecurringWorld.goTo] at member
        rwa [Function.update_self] at member
  | advance session new =>
    rw [RecurringWorld.step]
    split
    · exact tracked
    · rename_i phase running
      exact tracked.turn running new
  | cut session => exact tracked.leave tracked.settled
  | ledger store =>
    refine ⟨tracked.current, tracked.locks, fun session phase running => ?_, tracked.settled⟩
    have inScan := tracked.scans session phase running
    exact ⟨inScan.rows, inScan.planned, inScan.holds, inScan.among, inScan.read⟩

end Tracked

/-! ### Every step keeps the count, or does not -/

section Exact

variable [DecidableEq Session] {session : Session} {phase : ScanPhase}

/-- A scan that ends on its own keeps the count exactly if it has booked every valid rule that it
has read, in other words if none it has not finished with is unmoved. -/
theorem RecurringWorld.ExactlyOnce.ended_iff (exactly : world.ExactlyOnce rules)
    (tracked : world.Tracked rules) (running : world.scans session = some phase) :
    (({ world with settled := world.read session ++ world.settled } :
      RecurringWorld Session).leave session).ExactlyOnce rules ↔
      ∀ row ∈ phase.rows, row.rule.Valid → ¬world.Unmoved row := by
  have inScan := tracked.scans session phase running
  constructor
  · intro after row among valid
    have member := inScan.among row among
    obtain ⟨index, reached, read⟩ := inScan.known member
    rw [unmoved_iff tracked read]
    have once := after.settled row (List.mem_append_left _ member) valid
    exact ((exactly.once.booked_iff read valid).mp once).ne
  · intro moved
    refine ⟨exactly.current, exactly.once, fun row member valid => ?_⟩
    obtain member | member := List.mem_append.mp member
    · obtain ⟨index, reached, read⟩ := inScan.known member
      refine (exactly.once.booked_iff read valid).mpr (Nat.lt_of_le_of_ne reached fun equal => ?_)
      have unmoved := (unmoved_iff tracked read).mpr equal
      obtain among | passed := inScan.read row member
      · exact moved row among valid unmoved
      · exact tracked.not_unmoved passed unmoved
    · exact exactly.settled row member valid

omit [DecidableEq Session] in
/-- A step that keeps the count keeps what is settled. -/
theorem RecurringWorld.ExactlyOnce.of_once (exactly : world.ExactlyOnce rules)
    (tracked : world.Tracked rules) {next : RecurringWorld Session} (kept : next.Tracked rules)
    (grows : ∀ id, world.advanced id ≤ next.advanced id) (settled : next.settled = world.settled)
    (once : next.Once rules) : next.ExactlyOnce rules where
  current id row found := by rw [kept.current, found, Option.map_some]
  once := once
  settled row member valid := by
    rw [settled] at member
    obtain ⟨index, -, read⟩ := tracked.settled row member
    refine (once.booked_iff read valid).mpr (Nat.lt_of_lt_of_le ?_ (grows _))
    exact (exactly.once.booked_iff read valid).mp (exactly.settled row member valid)

/-- A rule that the loop skips has no transactions that count. -/
theorem RecurringWorld.ExactlyOnce.skipped (exactly : world.ExactlyOnce rules)
    (tracked : world.Tracked rules) {row : RecurringRow} {rest : List RecurringRow}
    (running : world.scans session = some (.looping (row :: rest)))
    (planned : row.rule.plan = .ok none)
    (unlocked : world.unlocked session row.rule.id = true) :
    (world.afterTurn session (.skipped row rest)).ExactlyOnce rules := by
  refine exactly.of_once tracked (tracked.skipped running unlocked)
    (fun id => le_update_succ _ _ id) rfl fun id base found valid index => ?_
  have different : id ≠ row.rule.id := by
    rintro rfl
    obtain ⟨_, _, other, foundOther, same⟩ :=
      (tracked.scans session _ running).rows row List.mem_cons_self
    obtain rfl := Option.some.inj (found.symm.trans foundOther)
    obtain ⟨drafts, books⟩ := valid
    have rule : row.rule = base.rule := (congrArg RecurringRow.rule same : _)
    rw [rule, books] at planned
    cases planned
  have counted := exactly.once id base found valid index
  have stays : (world.afterTurn session (.skipped row rest)).advanced id = world.advanced id :=
    Function.update_of_ne different ..
  rw [stays]
  exact counted

/-- What a commit adds to the count. -/
theorem RecurringWorld.bookedFor_committed (booking : Booking) (change : ChangeRecord)
    (nextRunAt : Option Int) (id : String) (dueAt : Int) :
    (world.afterTurn session (.committed booking change nextRunAt)).bookedFor id dueAt =
      world.bookedFor id dueAt +
        if booking.row.rule.id = id ∧ booking.row.nextRunAt = dueAt then 1 else 0 := by
  show List.countP _ (_ :: world.booked) = _
  rw [List.countP_cons]
  simp only [decide_eq_true_eq]
  rfl

/-- A commit keeps the count exactly if the rule is still to run at the date its scan has read. -/
theorem RecurringWorld.ExactlyOnce.committed_iff (exactly : world.ExactlyOnce rules)
    (tracked : world.Tracked rules) {booking : Booking} {change : ChangeRecord}
    {nextRunAt : Option Int}
    (running : world.scans session = some (.advanced booking change nextRunAt)) :
    (world.afterTurn session (.committed booking change nextRunAt)).ExactlyOnce rules ↔
      world.Unmoved booking.row := by
  have inScan := tracked.scans session _ running
  obtain ⟨index, reached, read⟩ := inScan.rows booking.row List.mem_cons_self
  obtain ⟨base, found, valid, date⟩ := read.base ⟨_, inScan.planned booking rfl⟩
  have advanced : (world.afterTurn session (.committed booking change nextRunAt)).advanced
      booking.row.rule.id = world.advanced booking.row.rule.id + 1 := Function.update_self ..
  rw [unmoved_iff tracked read]
  constructor
  · intro after
    by_contra moved
    have counted := after.once _ base found valid index
    rw [bookedFor_committed, exactly.once _ base found valid, advanced,
      if_pos (Nat.lt_of_le_of_ne reached moved), if_pos ⟨rfl, date⟩,
      if_pos (Nat.lt_succ_of_le reached)] at counted
    exact absurd counted (by decide)
  · rintro rfl
    refine exactly.of_once tracked (tracked.committed running) (fun id => le_update_succ _ _ id) rfl
      fun id other foundOther otherValid position => ?_
    rw [bookedFor_committed, exactly.once id other foundOther otherValid, date]
    by_cases same : id = booking.row.rule.id
    · obtain rfl := same
      obtain rfl := Option.some.inj (found.symm.trans foundOther)
      rw [advanced]
      simp only [true_and, base.occurrence_injective.eq_iff]
      split <;> split <;> split <;> omega
    · have stays : (world.afterTurn session (.committed booking change nextRunAt)).advanced id =
          world.advanced id := Function.update_of_ne same ..
      have elsewhere : ¬(booking.row.rule.id = id ∧
          base.occurrence (world.advanced booking.row.rule.id) = other.occurrence position) :=
        fun equal => same equal.1.symm
      rw [stays, if_neg elsewhere, add_zero]

/-- A statement keeps the count exactly if it stays exact. -/
theorem RecurringWorld.ExactlyOnce.turn_iff [Rfc3339] (exactly : world.ExactlyOnce rules)
    (tracked : world.Tracked rules) (running : world.scans session = some phase)
    (new : NewTransaction) :
    (world.afterTurn session (world.turn session new phase)).ExactlyOnce rules ↔
      world.TurnStaysExact phase (world.turn session new phase) := by
  have still := iff_of_true exactly trivial
  cases phase with
  | looping due =>
    cases due with
    | nil => exact (exactly.ended_iff tracked running).trans (iff_of_true nofun trivial)
    | cons row rest =>
      rw [RecurringWorld.turn]
      split
      · exact exactly.ended_iff tracked running
      · rename_i planned
        split
        · rename_i unlocked
          exact iff_of_true (exactly.skipped tracked running planned unlocked) trivial
        · exact still
      · exact iff_of_true ⟨exactly.current, exactly.once, exactly.settled⟩ trivial
  | begun booking =>
    rw [RecurringWorld.turn]
    split
    · exact exactly.ended_iff tracked running
    · exact iff_of_true ⟨exactly.current, exactly.once, exactly.settled⟩ trivial
  | entering booking index =>
    rw [RecurringWorld.turn]
    split
    · split
      · exact iff_of_true ⟨exactly.current, exactly.once, exactly.settled⟩ trivial
      · exact exactly.ended_iff tracked running
    · exact iff_of_true ⟨exactly.current, exactly.once, exactly.settled⟩ trivial
  | logged booking change =>
    rw [RecurringWorld.turn]
    split
    · exact iff_of_true ⟨exactly.current, exactly.once, exactly.settled⟩ trivial
    · exact still
  | advanced booking change nextRunAt => exact exactly.committed_iff tracked running

theorem RecurringWorld.step_exactlyOnce_iff [Rfc3339] (world : RecurringWorld Session)
    (event : ScanEvent Session) (tracked : world.Tracked rules)
    (exactly : world.ExactlyOnce rules) :
    (world.step event).ExactlyOnce rules ↔ world.StaysExact event := by
  cases event with
  | select session now =>
    refine iff_of_true ?_ trivial
    rw [RecurringWorld.step]
    split
    · exact exactly
    · exact ⟨exactly.current, exactly.once, exactly.settled⟩
  | advance session new =>
    rw [RecurringWorld.step, StaysExact]
    cases running : world.scans session with
    | none => exact iff_of_true exactly fun _ => nofun
    | some phase =>
      rw [exactly.turn_iff tracked running]
      exact ⟨fun stays other same => Option.some.inj same ▸ stays, fun all => all phase rfl⟩
  | cut session => exact iff_of_true ⟨exactly.current, exactly.once, exactly.settled⟩ trivial
  | ledger store => exact iff_of_true ⟨exactly.current, exactly.once, exactly.settled⟩ trivial

end Exact

end World

/-- Whatever the scans, the workers that run them and the order of their statements, every due
occurrence of a valid rule is turned into exactly one transaction, exactly if no booking commits
for a rule that has moved on since it was read, and no scan gives up while a valid rule it has read
waits for it. -/
theorem recurring_booked_iff [Rfc3339] {Session : Type} [DecidableEq Session]
    (rules : KeyMap String RecurringRow) (store : PgStore) (keyed : KeyedById rules)
    (events : List (ScanEvent Session)) :
    (∀ before, before <+: events →
      (Machine.run RecurringWorld.step (.initial Session rules store) before).ExactlyOnce rules) ↔
    Machine.Guarded RecurringWorld.step RecurringWorld.StaysExact
      (.initial Session rules store) events :=
  Machine.invariant_throughout_iff (RecurringWorld.step_tracked keyed)
    RecurringWorld.step_exactlyOnce_iff (RecurringWorld.initial_tracked rules store)
    (RecurringWorld.initial_exactlyOnce rules store) events

/-! ### Two scans at once, and a rule that raises -/

/-- A rule of the book, due at the end of January 2024. -/
def ruleDue (id : String) (entries : List Json) : RecurringRow where
  rule :=
    { id := id
      bookId := "book"
      name := "Rent"
      payload := .obj [("entries", .arr (entries.take 2))]
      entriesFit := (List.length_take_le 2 entries).trans (by decide) }
  nextRunAt := 1706688000000000
  active := true

/-- A rent of 900.00 from the cash account. -/
def rentEntries : List Json :=
  [.obj [("accountId", .str "book:cash"), ("amountMinor", .str "-90000")],
    .obj [("accountId", .str "book:food"), ("amountMinor", .str "90000")]]

/-- A table with one rule, which is due. -/
def rentTable : KeyMap String RecurringRow :=
  (∅ : KeyMap String RecurringRow).insert "rent" (ruleDue "rent" rentEntries)

/-- A rule with an entry on no account comes before the rent. -/
def brokenTable : KeyMap String RecurringRow :=
  rentTable.insert "broken" (ruleDue "broken" [.obj [], .obj []])

/-- A ledger with the accounts of a book and no transaction. -/
def accountStore : PgStore := .initial (withAccounts "book" ∅)

/-- The ids a session draws in February 2024. -/
def drawn (id : String) : NewTransaction := ⟨id, id, epoch⟩

/-- A scan that books the rent, statement by statement. -/
def oneScan : List (ScanEvent Bool) :=
  .select true 1706800000000000 :: List.replicate 8 (.advance true (drawn "t1"))

/-- A second scan reads the rules before the first one commits. -/
def twoScans : List (ScanEvent Bool) :=
  [.select true 1706800000000000, .select false 1706800000000000] ++
    List.replicate 8 (.advance true (drawn "t1")) ++
    List.replicate 8 (.advance false (drawn "t2"))

/-- A scan of the rules with the broken one. -/
def brokenScan : List (ScanEvent Bool) :=
  [.select true 1706800000000000, .advance true (drawn "t1")]

theorem rentTable_keyed : KeyedById rentTable := by
  intro id row found
  obtain ⟨rfl, rfl⟩ | ⟨-, found⟩ := KeyMap.lookup_insert_eq_some found
  · rfl
  · rw [AList.lookup_empty] at found
    cases found

theorem brokenTable_keyed : KeyedById brokenTable := by
  intro id row found
  obtain ⟨rfl, rfl⟩ | ⟨-, found⟩ := KeyMap.lookup_insert_eq_some found
  · rfl
  · exact rentTable_keyed id row found

/-- The scans of two sessions, at the clock of the epoch. -/
def scanned (table : KeyMap String RecurringRow) (events : List (ScanEvent Bool)) :
    RecurringWorld Bool :=
  Machine.run (@RecurringWorld.step epochClock Bool _) (.initial Bool table accountStore) events

/-- A scan that has the rules to itself turns the rent into one transaction. -/
theorem recurring_booked_alone : (scanned rentTable oneScan).ExactlyOnce rentTable :=
  (@recurring_booked_iff epochClock Bool _ rentTable accountStore rentTable_keyed oneScan).mpr
    (by decide +kernel) oneScan List.prefix_rfl

/-- Two scans that read the rent before either commits book it twice, and a scan that comes to a
broken rule never books the rent it has read. -/
theorem recurring_books_twice :
    (KeyedById rentTable ∧ ¬(scanned rentTable twoScans).ExactlyOnce rentTable) ∧
      KeyedById brokenTable ∧ ¬(scanned brokenTable brokenScan).ExactlyOnce brokenTable := by
  have valid : (ruleDue "rent" rentEntries).rule.Valid := by decide +kernel
  refine ⟨⟨rentTable_keyed, fun exactly => ?_⟩, brokenTable_keyed, fun exactly => ?_⟩
  · have twice : (scanned rentTable twoScans).bookedFor "rent" 1706688000000000 = 2 := by
      decide +kernel
    have once := exactly.once "rent" (ruleDue "rent" rentEntries) rfl valid 0
    rw [show (ruleDue "rent" rentEntries).occurrence 0 = 1706688000000000 from rfl, twice] at once
    split at once
    · exact absurd once (by decide)
    · exact absurd once (by decide)
  · have settled : (scanned brokenTable brokenScan).settled =
        [ruleDue "broken" [.obj [], .obj []], ruleDue "rent" rentEntries] := rfl
    have booked := exactly.settled (ruleDue "rent" rentEntries)
      (by rw [settled]; exact List.mem_cons_of_mem _ List.mem_cons_self) valid
    have none : (scanned brokenTable brokenScan).bookedFor "rent" 1706688000000000 = 0 := by
      decide +kernel
    exact absurd (none.symm.trans booked) (by decide)

end Ledgerly
