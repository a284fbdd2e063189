/-
This file proves when the scans of `generate_due_recurring` come to every rule that is due.

A scan reads the due rules, the earliest first and no more than fifty, and goes through them one
after the other. A rule whose entries are too few or unbalanced is skipped and advanced, but one
whose entries cannot be read, or that the constraints of the database refuse, ends the scan with an
error: the rules behind it are left, the rule itself keeps its date and comes first again, and the
job that should queue the next scan fails. Where no rule does that, every scan finishes its batch,
and a rule that waits behind others comes to its turn, because each of them moves to a later date.
-/

import Ledgerly.JobQueue
import Ledgerly.Library.Backlog
import Ledgerly.RecurringBooked

namespace Ledgerly

/-! ### One scan -/

/-- The tables of the job. -/
structure RecurringTables where
  rules : KeyMap String RecurringRow
  store : PgStore

/-- The body of the loop of `generate_due_recurring`, with its update of the rule. -/
def RecurringTables.handle [Rfc3339] (tables : RecurringTables) (row : RecurringRow)
    (new : NewTransaction) : Except JobError RecurringTables :=
  match generateRecurring tables.store row.rule new with
  | .error error => .error error
  | .ok outcome =>
    .ok
      { rules := setNextRunAt tables.rules row.rule.id (advancedRunAt tables.rules row.rule.id)
        store :=
          match outcome with
          | .skipped _ => tables.store
          | .generated store => store }

/-- The loop: what it leaves behind, and the error that has ended it. -/
def RecurringTables.handleAll [Rfc3339] (new : Nat → NewTransaction) :
    Nat → RecurringTables → List RecurringRow → RecurringTables × Option JobError
  | _, tables, [] => (tables, none)
  | position, tables, row :: rest =>
    match tables.handle row (new position) with
    | .error error => (tables, some error)
    | .ok next => handleAll new (position + 1) next rest

/-- `generate_due_recurring`, with nothing else writing the rules. -/
def RecurringTables.scan [Rfc3339] (tables : RecurringTables) (now : Int)
    (new : Nat → NewTransaction) : RecurringTables × Option JobError :=
  tables.handleAll new 0 (selectDue tables.rules now)

/-! ### The job -/

/-- An execution of the job: the row the worker has claimed, the clock of the select, what is drawn
for each rule, the id of the next job, and the clock when the execution ends. -/
structure ScanRun where
  job : JobRow
  now : Int
  new : Nat → NewTransaction
  nextJobId : String
  ended : Int

section World

variable (Worker : Type)

/-- The tables of the scans and the queue of jobs. -/
structure ScanWorld where
  tables : RecurringTables
  jobs : KeyMap String (Job Worker)

variable {Worker}

/-- `enqueue_recurring_scan` in `execute_job`, and the statement of the worker after it: the next
job is queued only if the scan has come to its end. -/
def ScanWorld.execute [Rfc3339] (world : ScanWorld Worker) (run : ScanRun) : ScanWorld Worker :=
  let scanned := world.tables.scan run.now run.new
  match scanned.2 with
  | none =>
    { tables := scanned.1
      jobs := completeJob (enqueueAt world.jobs run.nextJobId "enqueue_recurring_scan" (.obj []) 0
        (run.ended + 60000000)) run.job.id }
  | some _ =>
    { tables := scanned.1
      jobs := failJob world.jobs run.job run.ended }

/-- What happens: a worker executes the job, or somebody else writes the ledger. -/
inductive ScanWork where
  | execute (run : ScanRun)
  | ledger (store : PgStore)

/-- A job runs, or somebody else writes the ledger. -/
def ScanWorld.step [Rfc3339] (world : ScanWorld Worker) : ScanWork → ScanWorld Worker
  | .execute run => world.execute run
  | .ledger store => { world with tables := { world.tables with store := store } }

/-- The rules of the batch are advanced, those that book have their transaction, and the next scan
is queued. -/
structure ScanWorld.Handles [Rfc3339] (world : ScanWorld Worker) (run : ScanRun) : Prop where
  advanced : ∀ row ∈ selectDue world.tables.rules run.now,
    (world.execute run).tables.rules.lookup row.rule.id =
      some { row with nextRunAt := addMonth row.nextRunAt }
  booked : ∀ position row drafts,
    (selectDue world.tables.rules run.now)[position]? = some row →
      row.rule.plan = .ok (some drafts) →
        (world.execute run).tables.store.transactions.lookup (run.new position).txId =
          some (row.rule.row drafts (run.new position))
  enqueued : (world.execute run).jobs.lookup run.nextJobId = some
    (newJob run.nextJobId "enqueue_recurring_scan" (.obj []) 0 (run.ended + 60000000))

/-- The ids that are drawn are new. -/
structure ScanRun.Fresh (world : ScanWorld Worker) (run : ScanRun) : Prop where
  nextJob : world.jobs.lookup run.nextJobId = none
  otherJob : run.nextJobId ≠ run.job.id
  transactions : ∀ position,
    world.tables.store.transactions.lookup (run.new position).txId = none
  distinct : Function.Injective fun position => (run.new position).txId

end World

/-- A rule that ends no scan: it has fewer than two entries, or each of them can be read, and if they
are balanced they are on accounts that exist and none is zero. -/
def RecurringRule.Harmless (accounts : KeyMap String AccountRecord) (rule : RecurringRule) : Prop :=
  2 ≤ (((rule.payload.get? "entries").bind Json.asArray?).getD []).length →
    ∃ drafts, recurringEntries (((rule.payload.get? "entries").bind Json.asArray?).getD []) =
        .ok drafts ∧
      (recurringSum drafts = 0 → ∀ draft ∈ drafts,
        (accounts.lookup draft.accountId).isSome = true ∧ draft.amountMinor ≠ 0)

/-! ### One rule -/

section Rule

variable [Rfc3339] {tables : RecurringTables} {row : RecurringRow} {new : NewTransaction}

/-- The rule ends the scan exactly if it is not harmless. -/
theorem generateRecurring_isOk_iff {store : PgStore} {rule : RecurringRule}
    (unused : store.transactions.lookup new.txId = none) :
    (∃ outcome, generateRecurring store rule new = .ok outcome) ↔ rule.Harmless store.accounts := by
  unfold RecurringRule.Harmless generateRecurring
  dsimp only
  generalize ((rule.payload.get? "entries").bind Json.asArray?).getD [] = entries
  by_cases few : entries.length < 2
  · rw [if_pos few]
    exact iff_of_true ⟨_, rfl⟩ fun enough => absurd few (Nat.not_lt.mpr enough)
  · rw [if_neg few, forall_prop_of_true (Nat.not_lt.mp few)]
    cases read : recurringEntries entries with
    | error error =>
      refine iff_of_false ?_ ?_
      · rintro ⟨outcome, same⟩
        cases same
      · rintro ⟨drafts, same, -⟩
        cases same
    | ok drafts =>
      dsimp only
      have allowed : store.allows drafts new = true ↔ ∀ draft ∈ drafts,
          (store.accounts.lookup draft.accountId).isSome = true ∧ draft.amountMinor ≠ 0 := by
        simp [PgStore.allows, unused, List.all_eq_true]
      by_cases balanced : recurringSum drafts = 0
      · rw [if_neg (not_not.mpr balanced)]
        constructor
        · rintro ⟨outcome, made⟩
          split at made
          · rename_i allows
            exact ⟨drafts, rfl, fun _ => allowed.mp allows⟩
          · cases made
        · rintro ⟨_, same, each⟩
          obtain rfl := Except.ok.inj same
          rw [if_pos (allowed.mpr (each balanced))]
          exact ⟨_, rfl⟩
      · rw [if_pos balanced]
        refine iff_of_true ⟨_, rfl⟩ ⟨drafts, rfl, fun zero => absurd zero balanced⟩

/-- What is booked is what the plan of the rule says. -/
theorem plan_of_generated {store written : PgStore} {rule : RecurringRule}
    (made : generateRecurring store rule new = .ok (.generated written)) :
    ∃ drafts, rule.plan = .ok (some drafts) ∧ written = writeRecurring store rule drafts new := by
  unfold generateRecurring at made
  unfold RecurringRule.plan
  dsimp only at made ⊢
  generalize ((rule.payload.get? "entries").bind Json.asArray?).getD [] = entries at made ⊢
  by_cases few : entries.length < 2
  · rw [if_pos few] at made
    cases made
  · rw [if_neg few] at made ⊢
    cases read : recurringEntries entries with
    | error error =>
      rw [read] at made
      cases made
    | ok drafts =>
      rw [read] at made
      dsimp only at made ⊢
      by_cases balanced : recurringSum drafts = 0
      · rw [if_neg (not_not.mpr balanced)] at made ⊢
        split at made
        · cases made
          exact ⟨drafts, rfl, rfl⟩
        · cases made
      · rw [if_pos balanced] at made
        cases made

/-- What a rule that does not end the scan does to the tables. -/
structure RecurringTables.HandledRule (tables : RecurringTables) (row : RecurringRow)
    (new : NewTransaction) (after : RecurringTables) : Prop where
  rules : after.rules =
    setNextRunAt tables.rules row.rule.id (advancedRunAt tables.rules row.rule.id)
  accounts : after.store.accounts = tables.store.accounts
  others : ∀ id, id ≠ new.txId →
    after.store.transactions.lookup id = tables.store.transactions.lookup id
  booked : ∀ drafts, row.rule.plan = .ok (some drafts) →
    after.store.transactions.lookup new.txId = some (row.rule.row drafts new)

theorem RecurringTables.handle_of_harmless
    (unused : tables.store.transactions.lookup new.txId = none)
    (harmless : row.rule.Harmless tables.store.accounts) :
    ∃ after, tables.handle row new = .ok after ∧ tables.HandledRule row new after := by
  obtain ⟨outcome, made⟩ := (generateRecurring_isOk_iff unused).mpr harmless
  refine ⟨_, by rw [handle, made], ?_⟩
  cases outcome with
  | skipped reason =>
    refine ⟨rfl, rfl, fun _ _ => rfl, fun drafts planned => ?_⟩
    rw [generateRecurring_eq _ _ _ drafts planned] at made
    split at made
    · cases made
    · cases made
  | generated written =>
    obtain ⟨drafts, planned, rfl⟩ := plan_of_generated made
    refine ⟨rfl, rfl, fun id other => AList.lookup_insert_ne other, fun others alsoPlanned => ?_⟩
    cases planned.symm.trans alsoPlanned
    exact AList.lookup_insert _

theorem RecurringTables.handle_of_harmful
    (unused : tables.store.transactions.lookup new.txId = none)
    (harmful : ¬row.rule.Harmless tables.store.accounts) :
    ∃ error, tables.handle row new = .error error := by
  cases made : generateRecurring tables.store row.rule new with
  | error error => exact ⟨error, by rw [handle, made]⟩
  | ok outcome => exact absurd ((generateRecurring_isOk_iff unused).mp ⟨outcome, made⟩) harmful

end Rule

/-! ### A batch -/

section Batch

variable [Rfc3339] {tables : RecurringTables} {new : Nat → NewTransaction}

/-- The rules after the updates of some of them. -/
def advancedRules (rules : KeyMap String RecurringRow) (rows : List RecurringRow) (id : String) :
    Option RecurringRow :=
  (rules.lookup id).map fun row =>
    if id ∈ rows.map fun row => row.rule.id then
      { row with nextRunAt := addMonth row.nextRunAt }
    else row

/-- What the loop does to the tables if no rule ends it. -/
structure RecurringTables.HandledAll (tables : RecurringTables) (rows : List RecurringRow)
    (new : Nat → NewTransaction) (position : Nat) (after : RecurringTables) : Prop where
  rules : ∀ id, after.rules.lookup id = advancedRules tables.rules rows id
  others : ∀ id, (∀ later, position ≤ later → id ≠ (new later).txId) →
    after.store.transactions.lookup id = tables.store.transactions.lookup id
  booked : ∀ index row drafts, rows[index]? = some row → row.rule.plan = .ok (some drafts) →
    after.store.transactions.lookup (new (position + index)).txId =
      some (row.rule.row drafts (new (position + index)))

/-- A loop over harmless rules comes to its end. -/
theorem RecurringTables.handleAll_of_harmless (distinct : Function.Injective fun i => (new i).txId)
    (rows : List RecurringRow) (apart : (rows.map fun row => row.rule.id).Nodup) (position : Nat)
    (unused : ∀ later, position ≤ later →
      tables.store.transactions.lookup (new later).txId = none)
    (harmless : ∀ row ∈ rows, row.rule.Harmless tables.store.accounts) :
    ∃ after, tables.handleAll new position rows = (after, none) ∧
      tables.HandledAll rows new position after := by
  induction rows generalizing tables position with
  | nil =>
    refine ⟨tables, rfl, fun id => ?_, fun _ _ => rfl, fun index row drafts found => ?_⟩
    · simp [advancedRules]
    · cases found
  | cons row rest inductionHypothesis =>
    obtain ⟨first, others⟩ := List.forall_mem_cons.mp harmless
    obtain ⟨rowApart, restApart⟩ := List.nodup_cons.mp apart
    obtain ⟨next, made, handled⟩ := handle_of_harmless (unused position le_rfl) first
    have otherIds : ∀ later, position + 1 ≤ later → (new later).txId ≠ (new position).txId := by
      intro later after same
      have := distinct same
      omega
    obtain ⟨after, ended, handledRest⟩ := inductionHypothesis restApart (position + 1)
      (fun later le => (handled.others _ (otherIds later le)).trans (unused later (by omega)))
      (by rwa [handled.accounts])
    refine ⟨after, by rw [handleAll, made, ← ended], fun id => ?_, fun id different => ?_, ?_⟩
    · rw [handledRest.rules, advancedRules, handled.rules, lookup_setNextRunAt, Option.map_map,
        advancedRules]
      refine congrArg (fun change => (tables.rules.lookup id).map change) (funext fun found => ?_)
      by_cases same : id = row.rule.id
      · subst same
        simp [rowApart]
      · simp [same]
    · rw [handledRest.others id fun later le => different later (by omega),
        handled.others id (different position le_rfl)]
    · intro index found drafts isRow planned
      cases index with
      | zero =>
        obtain rfl := Option.some.inj isRow
        rw [Nat.add_zero, handledRest.others _ fun later le => (otherIds later le).symm]
        exact handled.booked drafts planned
      | succ index =>
        have later := handledRest.booked index found drafts isRow planned
        rwa [Nat.add_right_comm] at later

/-- A loop that comes to a rule that is not harmless ends there. -/
theorem RecurringTables.handleAll_of_harmful (distinct : Function.Injective fun i => (new i).txId)
    (rows : List RecurringRow) (position : Nat)
    (unused : ∀ later, position ≤ later →
      tables.store.transactions.lookup (new later).txId = none)
    (harmful : ∃ row ∈ rows, ¬row.rule.Harmless tables.store.accounts) :
    ∃ error, (tables.handleAll new position rows).2 = some error := by
  induction rows generalizing tables position with
  | nil =>
    obtain ⟨row, member, -⟩ := harmful
    exact absurd member List.not_mem_nil
  | cons row rest inductionHypothesis =>
    by_cases first : row.rule.Harmless tables.store.accounts
    · obtain ⟨next, made, handled⟩ := handle_of_harmless (unused position le_rfl) first
      have inRest : ∃ row ∈ rest, ¬row.rule.Harmless next.store.accounts := by
        obtain ⟨bad, member, isBad⟩ := harmful
        rw [handled.accounts]
        rcases List.mem_cons.mp member with rfl | later
        · exact absurd first isBad
        · exact ⟨bad, later, isBad⟩
      have stillUnused : ∀ later, position + 1 ≤ later →
          next.store.transactions.lookup (new later).txId = none := by
        intro later le
        rw [handled.others _ fun same => ?_]
        · exact unused later (by omega)
        · have := distinct same
          omega
      rw [handleAll, made]
      exact inductionHypothesis (position + 1) stillUnused inRest
    · obtain ⟨error, made⟩ := handle_of_harmful (unused position le_rfl) first
      exact ⟨error, by rw [handleAll, made]⟩

end Batch

/-! ### What is selected -/

section Selected

variable {rules : KeyMap String RecurringRow} {now : Int} {row : RecurringRow}

instance : Std.Total RecurringRow.runsBefore where
  total first second := by
    unfold RecurringRow.runsBefore
    have ids := String.le_total first.rule.id second.rule.id
    rcases lt_trichotomy first.nextRunAt second.nextRunAt with less | same | more
    · exact Or.inl (Or.inl less)
    · exact ids.imp (fun le => Or.inr ⟨same, le⟩) fun le => Or.inr ⟨same.symm, le⟩
    · exact Or.inr (Or.inl more)

instance : IsTrans RecurringRow RecurringRow.runsBefore where
  trans first second third := by
    rintro (less | ⟨same, ids⟩) (less' | ⟨same', ids'⟩)
    · exact Or.inl (less.trans less')
    · exact Or.inl (same' ▸ less)
    · exact Or.inl (same ▸ less')
    · exact Or.inr ⟨same.trans same', String.le_trans ids ids'⟩

theorem RecurringRow.runsBefore.le {other : RecurringRow} (ordered : row.runsBefore other) :
    row.nextRunAt ≤ other.nextRunAt := by
  rcases ordered with less | ⟨same, -⟩
  · exact less.le
  · exact same.le

theorem mem_dueRows (keyed : KeyedById rules) :
    row ∈ rules.values.filter (fun row => row.active ∧ row.nextRunAt ≤ now) ↔
      rules.lookup row.rule.id = some row ∧ row.active = true ∧ row.nextRunAt ≤ now := by
  rw [List.mem_filter, decide_eq_true_eq, KeyMap.mem_values_iff]
  refine and_congr_left fun _ => ⟨?_, fun found => ⟨_, found⟩⟩
  rintro ⟨id, found⟩
  rwa [keyed id row found]

/-- The rules of a batch are rules of the table that are due. -/
theorem of_mem_selectDue (keyed : KeyedById rules) (member : row ∈ selectDue rules now) :
    rules.lookup row.rule.id = some row ∧ row.active = true ∧ row.nextRunAt ≤ now :=
  (mem_dueRows keyed).mp ((List.mem_insertionSort _).mp (List.mem_of_mem_take member))

theorem selectDue_apart (keyed : KeyedById rules) (now : Int) :
    ((selectDue rules now).map fun row => row.rule.id).Nodup := by
  have apart : (rules.values.map fun row => row.rule.id).Nodup := KeyMap.map_values_nodup keyed
  refine List.Nodup.sublist ((List.take_sublist _ _).map _) ?_
  exact ((List.perm_insertionSort _ _).map _).nodup_iff.mpr
    (apart.sublist (List.filter_sublist.map _))

/-- A rule that is due and not in the batch gives way to one that is due no later. -/
theorem exists_earlier (keyed : KeyedById rules) (known : rules.lookup row.rule.id = some row)
    (active : row.active = true) (due : row.nextRunAt ≤ now) (waits : row ∉ selectDue rules now) :
    ∃ other ∈ selectDue rules now, other.nextRunAt ≤ row.nextRunAt := by
  obtain ⟨other, member, ordered⟩ := Backlog.exists_before RecurringRow.runsBefore (by decide)
    ((mem_dueRows keyed).mpr ⟨known, active, due⟩) waits
  exact ⟨other, member, ordered.le⟩

theorem KeyedById.advance (keyed : KeyedById rules) (id : String) :
    KeyedById (setNextRunAt rules id (advancedRunAt rules id)) := by
  intro other row found
  rw [lookup_setNextRunAt] at found
  obtain ⟨old, isOld, rfl⟩ := Option.map_eq_some_iff.mp found
  have same := keyed other old isOld
  split
  · exact same
  · exact same

/-- The rules stay under their ids, however a scan ends. -/
theorem KeyedById.handleAll [Rfc3339] {new : Nat → NewTransaction} (rows : List RecurringRow)
    {tables : RecurringTables} (position : Nat) (keyed : KeyedById tables.rules) :
    KeyedById (tables.handleAll new position rows).1.rules := by
  induction rows generalizing tables position with
  | nil => exact keyed
  | cons row rest inductionHypothesis =>
    rw [RecurringTables.handleAll]
    cases made : tables.handle row (new position) with
    | error error => exact keyed
    | ok next =>
      refine inductionHypothesis (position + 1) ?_
      unfold RecurringTables.handle at made
      split at made
      · cases made
      · obtain rfl := Except.ok.inj made
        exact keyed.advance row.rule.id

end Selected

/-! ### An execution of the job -/

section Execution

variable [Rfc3339] {Worker : Type} {world : ScanWorld Worker} {run : ScanRun}

theorem ScanWorld.step_keyed (world : ScanWorld Worker) (work : ScanWork)
    (keyed : KeyedById world.tables.rules) : KeyedById (world.step work).tables.rules := by
  cases work with
  | execute run =>
    have after := @KeyedById.handleAll _ run.new (selectDue world.tables.rules run.now) world.tables 0
      keyed
    rw [ScanWorld.step, ScanWorld.execute, RecurringTables.scan]
    split <;> exact after
  | ledger store => exact keyed

/-- A scan over harmless rules finishes its batch. -/
theorem ScanWorld.execute_of_harmless (keyed : KeyedById world.tables.rules)
    (fresh : run.Fresh world)
    (harmless : ∀ row ∈ selectDue world.tables.rules run.now,
      row.rule.Harmless world.tables.store.accounts) :
    world.tables.HandledAll (selectDue world.tables.rules run.now) run.new 0
        (world.execute run).tables ∧
      (world.execute run).jobs = completeJob (enqueueAt world.jobs run.nextJobId
        "enqueue_recurring_scan" (.obj []) 0 (run.ended + 60000000)) run.job.id := by
  obtain ⟨after, made, handled⟩ := RecurringTables.handleAll_of_harmless fresh.distinct
    (selectDue world.tables.rules run.now) (selectDue_apart keyed run.now) 0
    (fun later _ => fresh.transactions later) harmless
  rw [ScanWorld.execute, RecurringTables.scan, made]
  exact ⟨handled, rfl⟩

/-- An execution of the job does all it is to do exactly if every rule of its batch is harmless. -/
theorem ScanWorld.handles_iff (keyed : KeyedById world.tables.rules) (fresh : run.Fresh world) :
    world.Handles run ↔ ∀ row ∈ selectDue world.tables.rules run.now,
      row.rule.Harmless world.tables.store.accounts := by
  constructor
  · intro handles
    by_contra harmful
    push Not at harmful
    obtain ⟨error, ended⟩ := RecurringTables.handleAll_of_harmful fresh.distinct
      (selectDue world.tables.rules run.now) 0 (fun later _ => fresh.transactions later) harmful
    have enqueued := handles.enqueued
    rw [ScanWorld.execute, RecurringTables.scan, ended] at enqueued
    rw [failJob, KeyMap.lookup_modify, fresh.nextJob] at enqueued
    cases enqueued
  · intro harmless
    obtain ⟨handled, jobs⟩ := ScanWorld.execute_of_harmless keyed fresh harmless
    refine ⟨fun row member => ?_, fun position row drafts found planned => ?_, ?_⟩
    · rw [handled.rules, advancedRules, (of_mem_selectDue keyed member).1, Option.map_some,
        if_pos (List.mem_map.mpr ⟨row, member, rfl⟩)]
    · have booked := handled.booked position row drafts found planned
      rwa [Nat.zero_add] at booked
    · rw [jobs, completeJob, KeyMap.lookup_modify, enqueueAt, fresh.nextJob]
      dsimp only
      rw [AList.lookup_insert, Option.map_some, if_neg fresh.otherJob]

end Execution

/-! ### Runs -/

section Runs

variable [Rfc3339] {Worker : Type} {world : ScanWorld Worker}

/-- The ids that an execution draws are new. -/
def ScanWork.DrawsFresh (world : ScanWorld Worker) : ScanWork → Prop
  | .execute run => run.Fresh world
  | .ledger _ => True

/-- An execution does all it is to do. -/
def ScanWork.Finishes (world : ScanWorld Worker) : ScanWork → Prop
  | .execute run => world.Handles run
  | .ledger _ => True

/-- The rules of the batch of an execution are harmless. -/
def ScanWork.MeetsHarmless (world : ScanWorld Worker) : ScanWork → Prop
  | .execute run => ∀ row ∈ selectDue world.tables.rules run.now,
      row.rule.Harmless world.tables.store.accounts
  | .ledger _ => True

/-- How many of the steps are executions of the job. -/
def executions (works : List ScanWork) : Nat :=
  works.countP fun work =>
    match work with
    | .execute _ => true
    | .ledger _ => false

/-- The date of the rule with an id. -/
def dateOf (rules : KeyMap String RecurringRow) (id : String) : Int :=
  (rules.lookup id).elim 0 RecurringRow.nextRunAt

/-- How many scans a rule with a date waits at most. -/
def patience (rules : KeyMap String RecurringRow) (date : Int) : Nat :=
  Backlog.behind rules.keys (dateOf rules) date

/-- A rule that is due comes to its turn, if every scan before it finishes its batch. -/
theorem exists_turn {row : RecurringRow} {works : List ScanWork} {ids : List String}
    (keyed : KeyedById world.tables.rules)
    (ofIds : ∀ id, (world.tables.rules.lookup id).isSome = true → id ∈ ids)
    (known : world.tables.rules.lookup row.rule.id = some row) (active : row.active = true)
    (due : ∀ run, .execute run ∈ works → row.nextRunAt ≤ run.now)
    (fresh : Machine.Guarded ScanWorld.step ScanWork.DrawsFresh world works)
    (harmless : Machine.Guarded ScanWorld.step ScanWork.MeetsHarmless world works)
    (enough : Backlog.behind ids (dateOf world.tables.rules) row.nextRunAt < executions works) :
    ∃ before run after, works = before ++ .execute run :: after ∧
      row ∈ selectDue (Machine.run ScanWorld.step world before).tables.rules run.now := by
  induction works generalizing world with
  | nil => exact absurd enough (Nat.not_lt_zero _)
  | cons work rest inductionHypothesis =>
    have restDue : ∀ run, .execute run ∈ rest → row.nextRunAt ≤ run.now :=
      fun run member => due run (List.mem_cons_of_mem _ member)
    have nextKeyed := world.step_keyed work keyed
    have goesOn : (∃ before run after, rest = before ++ .execute run :: after ∧
          row ∈ selectDue (Machine.run ScanWorld.step (world.step work) before).tables.rules
            run.now) →
        ∃ before run after, work :: rest = before ++ .execute run :: after ∧
          row ∈ selectDue (Machine.run ScanWorld.step world before).tables.rules run.now := by
      rintro ⟨before, run, after, rfl, turn⟩
      exact ⟨work :: before, run, after, rfl, turn⟩
    cases work with
    | ledger store =>
      exact goesOn (inductionHypothesis nextKeyed ofIds known restDue fresh.2 harmless.2 enough)
    | execute run =>
      by_cases turn : row ∈ selectDue world.tables.rules run.now
      · exact ⟨[], run, rest, rfl, turn⟩
      · obtain ⟨handled, -⟩ := ScanWorld.execute_of_harmless keyed fresh.1 harmless.1
        have after : ∀ id, (world.step (.execute run)).tables.rules.lookup id =
            advancedRules world.tables.rules (selectDue world.tables.rules run.now) id :=
          handled.rules
        have notAdvanced : row.rule.id ∉
            (selectDue world.tables.rules run.now).map fun row => row.rule.id := by
          intro among
          obtain ⟨other, member, same⟩ := List.mem_map.mp among
          have found := (of_mem_selectDue keyed member).1
          rw [same, known] at found
          obtain rfl := Option.some.inj found
          exact turn member
        obtain ⟨earlier, member, ordered⟩ :=
          exists_earlier keyed known active (due run List.mem_cons_self) turn
        have less : Backlog.behind ids (dateOf (world.step (.execute run)).tables.rules)
            row.nextRunAt < Backlog.behind ids (dateOf world.tables.rules) row.nextRunAt := by
          have found := (of_mem_selectDue keyed member).1
          refine Backlog.behind_lt (fun id _ => ?_)
            (ofIds earlier.rule.id (by rw [found]; rfl)) ?_ ?_
          · rw [dateOf, dateOf, after, advancedRules]
            cases world.tables.rules.lookup id with
            | none => exact le_rfl
            | some old =>
              rw [Option.map_some]
              split
              · exact (lt_addMonth _).le
              · exact le_rfl
          · rw [dateOf, found]
            exact ordered
          · rw [dateOf, dateOf, after, advancedRules, found, Option.map_some,
              if_pos (List.mem_map.mpr ⟨earlier, member, rfl⟩)]
            exact lt_addMonth _
        refine goesOn (inductionHypothesis nextKeyed (fun id found => ofIds id ?_) ?_ restDue fresh.2
          harmless.2 ?_)
        · rw [after, advancedRules, Option.isSome_map] at found
          exact found
        · rw [after, advancedRules, known, Option.map_some, if_neg notAdvanced]
        · have count : executions (.execute run :: rest) = executions rest + 1 :=
            List.countP_cons_of_pos rfl
          omega

/-- For every table of rules with any payloads, and every run of scans among any writes of the
ledger: every scan of the run advances all rules of its batch, books those it can, and queues the
next scan exactly if it meets harmless rules only. And where it does, a rule that is due is in the
batch of one of the scans, if there are enough of them, and is booked there if it can be. -/
theorem no_rule_starves_iff (world : ScanWorld Worker) (keyed : KeyedById world.tables.rules)
    (works : List ScanWork)
    (fresh : Machine.Guarded ScanWorld.step ScanWork.DrawsFresh world works) :
    (Machine.Guarded ScanWorld.step ScanWork.Finishes world works ↔
      Machine.Guarded ScanWorld.step ScanWork.MeetsHarmless world works) ∧
    (Machine.Guarded ScanWorld.step ScanWork.MeetsHarmless world works →
      ∀ row drafts, world.tables.rules.lookup row.rule.id = some row → row.active = true →
        row.rule.plan = .ok (some drafts) →
        (∀ run, .execute run ∈ works → row.nextRunAt ≤ run.now) →
        patience world.tables.rules row.nextRunAt < executions works →
        ∃ before run after position, works = before ++ .execute run :: after ∧
          (Machine.run ScanWorld.step world (before ++ [.execute run])).tables.store.transactions.lookup
            (run.new position).txId = some (row.rule.row drafts (run.new position))) := by
  have exact : Machine.Guarded ScanWorld.step ScanWork.Finishes world works ↔
      Machine.Guarded ScanWorld.step ScanWork.MeetsHarmless world works := by
    rw [Machine.guarded_iff_forall, Machine.guarded_iff_forall]
    refine forall_congr' fun before => forall_congr' fun work => forall_congr' fun after =>
      forall_congr' fun split => ?_
    have reached := Machine.run_invariant ScanWorld.step_keyed keyed before
    have drawn := (Machine.guarded_iff_forall world works).mp fresh before work after split
    cases work with
    | execute run => exact ScanWorld.handles_iff reached drawn
    | ledger store => exact Iff.rfl
  refine ⟨exact, fun harmless row drafts known active planned due enough => ?_⟩
  obtain ⟨before, run, after, split, member⟩ := exists_turn keyed
    (fun id found => AList.lookup_isSome.mp found) known active due fresh harmless enough
  obtain ⟨position, found⟩ := List.mem_iff_getElem?.mp member
  have handles := (Machine.guarded_iff_forall world works).mp (exact.mpr harmless) before
    (.execute run) after split
  refine ⟨before, run, after, position, split, ?_⟩
  rw [Machine.run_concat]
  exact handles.booked position row drafts found planned

end Runs

/-! ### A rule that ends every scan -/

/-- A scan whose first rule raises leaves the tables as they are, and its job fails. -/
theorem ScanWorld.execute_blocked [Rfc3339] {Worker : Type} {world : ScanWorld Worker}
    {run : ScanRun} {row : RecurringRow} {rest : List RecurringRow} {error : JobError}
    (selected : selectDue world.tables.rules run.now = row :: rest)
    (raises : world.tables.handle row (run.new 0) = .error error) :
    world.execute run =
      { world with jobs := failJob world.jobs run.job run.ended } := by
  rw [ScanWorld.execute, RecurringTables.scan, selected, RecurringTables.handleAll, raises]

/-- No rule is advanced, nothing is booked, and no job is queued. -/
structure ScanWorld.StandsStill {Worker : Type} (start world : ScanWorld Worker) : Prop where
  tables : world.tables = start.tables
  jobs : ∀ id, start.jobs.lookup id = none → world.jobs.lookup id = none

/-- A queue with the rent and nothing else to do, or with a broken rule before it. -/
def scanWorld (rules : KeyMap String RecurringRow) : ScanWorld String where
  tables := ⟨rules, accountStore⟩
  jobs := enqueueAt ∅ "scan" "enqueue_recurring_scan" (.obj []) 0 0

/-- An execution in February 2024 that draws ids of different lengths. -/
def februaryRun : ScanRun where
  job := ⟨"scan", "enqueue_recurring_scan", .obj [], 1, 5⟩
  now := 1706800000000000
  new position := drawn (String.ofList (List.replicate position 'x'))
  nextJobId := "next"
  ended := 1706800000000000

/-- A scan of the rent finishes. -/
theorem rent_scan_finishes : let _ := epochClock
    (scanWorld rentTable).Handles februaryRun := by
  intro clock
  have fresh : februaryRun.Fresh (scanWorld rentTable) := by
    refine ⟨rfl, by decide, fun _ => rfl, fun first second same => ?_⟩
    have lengths := congrArg String.length same
    simpa [februaryRun, drawn] using lengths
  have selected : selectDue rentTable februaryRun.now = [ruleDue "rent" rentEntries] := rfl
  refine (((@no_rule_starves_iff epochClock String (scanWorld rentTable) rentTable_keyed
    [.execute februaryRun] ⟨fresh, trivial⟩).1).mpr ⟨?_, trivial⟩).1
  intro row member
  rw [show selectDue (scanWorld rentTable).tables.rules februaryRun.now =
    [ruleDue "rent" rentEntries] from selected, List.mem_singleton] at member
  subst member
  exact fun _ => ⟨[⟨"book:cash", -90000, "CNY"⟩, ⟨"book:food", 90000, "CNY"⟩], by decide +kernel,
    fun _ => by decide⟩

/-- A rule with an entry on no account comes before the rent: no scan ever books the rent, and none
queues another one. -/
theorem broken_rule_starves_rent : let _ := epochClock
    (∃ row drafts, brokenTable.lookup "rent" = some row ∧ row.active = true ∧
      row.rule.plan = .ok (some drafts) ∧
      ∀ draft ∈ drafts, (accountStore.accounts.lookup draft.accountId).isSome = true) ∧
    ∀ runs : List ScanRun, (∀ run ∈ runs, 1706688000000000 ≤ run.now) →
      (scanWorld brokenTable).StandsStill
        (Machine.run ScanWorld.step (scanWorld brokenTable) (runs.map .execute)) := by
  intro clock
  refine ⟨⟨ruleDue "rent" rentEntries, [⟨"book:cash", -90000, "CNY"⟩, ⟨"book:food", 90000, "CNY"⟩],
    rfl, rfl, by decide +kernel, by decide⟩, fun runs due => ?_⟩
  have values : brokenTable.values =
      [ruleDue "broken" [.obj [], .obj []], ruleDue "rent" rentEntries] := rfl
  have selected : ∀ now, 1706688000000000 ≤ now → selectDue brokenTable now =
      [ruleDue "broken" [.obj [], .obj []], ruleDue "rent" rentEntries] := by
    intro now later
    have all : brokenTable.values.filter (fun row => row.active ∧ row.nextRunAt ≤ now) =
        brokenTable.values := by
      rw [List.filter_eq_self, values]
      simpa [ruleDue] using later
    rw [selectDue, all]
    rfl
  refine Machine.run_invariant_of_mem (fun world work member kept => ?_)
    (show (scanWorld brokenTable).StandsStill (scanWorld brokenTable) from ⟨rfl, fun _ => id⟩)
  obtain ⟨run, inRuns, rfl⟩ := List.mem_map.mp member
  obtain ⟨tables, jobs⟩ := kept
  have blocked : world.execute run =
      { world with jobs := failJob world.jobs run.job run.ended } := by
    have first : selectDue world.tables.rules run.now =
        [ruleDue "broken" [.obj [], .obj []], ruleDue "rent" rentEntries] := by
      rw [tables]
      exact selected run.now (due run inRuns)
    exact ScanWorld.execute_blocked first rfl
  rw [ScanWorld.step, blocked]
  refine ⟨tables, fun id missing => ?_⟩
  rw [failJob, KeyMap.lookup_modify, jobs id missing]
  rfl

end Ledgerly
