/-
This file proves when the job queue conserves its jobs: a job is pending, or running under the one
worker that has claimed it and not finished it, or completed, or dead after its last failure.

The counts of attempts and failures are right in every run. A job is lost exactly where its worker
is: when the process ends with claimed jobs in its hands, or when the statement that should complete
or fail a job fails, because nothing looks for such jobs again.
-/

import Ledgerly.JobQueue
import Ledgerly.Library.Run

namespace Ledgerly

section Queue

variable {Worker : Type} {world next : JobWorld Worker} {worker other : Worker}

/-! ### What is to hold -/

/-- A worker that is alive has claimed a job and not finished it. -/
def JobWorld.Claims (world : JobWorld Worker) (worker : Worker) (id : String) : Prop :=
  ∃ state, world.workers worker = some state ∧ ∃ row ∈ state.claimed, row.id = id

/-- A job is in the state its status tells, and in no other. -/
def JobWorld.Accounted (world : JobWorld Worker) (job : Job Worker) : Prop :=
  match job.status with
  | .pending => (∀ worker, ¬world.Claims worker job.id) ∧ world.failures job.id < job.maxAttempts
  | .running => ∃ worker, job.lockedBy = some worker ∧
    ∀ other, world.Claims other job.id ↔ other = worker
  | .completed => (∀ worker, ¬world.Claims worker job.id) ∧ job.id ∈ world.succeeded
  | .dead => (∀ worker, ¬world.Claims worker job.id) ∧ world.failures job.id = job.maxAttempts

/-- Every job that was enqueued is accounted for, and where `enqueue_if_absent` refuses a job there
is one of its type that is pending or in the hands of a worker. -/
structure JobWorld.Conserved (world : JobWorld Worker) : Prop where
  jobs : ∀ id ∈ world.enqueued, ∃ job, world.jobs.lookup id = some job ∧ job.id = id ∧
    world.Accounted job
  refusals : ∀ jobType, hasActive world.jobs jobType = true → ∃ id job,
    world.jobs.lookup id = some job ∧ job.jobType = jobType ∧
      (job.status = .pending ∨ ∃ worker, world.Claims worker id)

/-- A running job is in the hands of a worker. -/
def JobWorld.NoOrphan (world : JobWorld Worker) : Prop :=
  ∀ id job, world.jobs.lookup id = some job → job.status = .running →
    ∃ worker, world.Claims worker id

/-- A process ends only when its worker has finished all it has claimed, and no statement that
completes or fails a job fails. -/
def JobWorld.Finishes (world : JobWorld Worker) : JobEvent Worker → Prop
  | .crash worker => ∀ state, world.workers worker = some state → state.claimed = []
  | .finish worker _ statementFails => statementFails = true →
    ∀ state, world.workers worker = some state → state.claimed = [] ∨ state.outcome = none
  | _ => True

/-! ### What always holds -/

/-- What the counts of a job tell of its status. -/
def JobWorld.Counted (world : JobWorld Worker) (id : String) (job : Job Worker) : Prop :=
  match job.status with
  | .pending => world.failures id = job.attempts ∧ job.attempts < job.maxAttempts
  | .running => world.failures id + 1 = job.attempts ∧ job.attempts ≤ job.maxAttempts
  | .completed => id ∈ world.succeeded
  | .dead => world.failures id = job.maxAttempts

/-- A row in the hands of a worker is the row of a running job that the worker has locked. -/
def JobWorld.InHand (world : JobWorld Worker) (worker : Worker) (row : JobRow) : Prop :=
  ∃ job, world.jobs.lookup row.id = some job ∧ job.status = .running ∧
    job.lockedBy = some worker ∧ row.attempts = job.attempts ∧ row.maxAttempts = job.maxAttempts

/-- What holds in every state. -/
structure JobWorld.Tracked (world : JobWorld Worker) : Prop where
  keyed : ∀ id job, world.jobs.lookup id = some job → job.id = id
  counted : ∀ id job, world.jobs.lookup id = some job → world.Counted id job
  enqueued : ∀ id, id ∈ world.enqueued ↔ (world.jobs.lookup id).isSome
  fresh : ∀ id, world.jobs.lookup id = none → world.failures id = 0
  distinct : ∀ worker state, world.workers worker = some state →
    (state.claimed.map JobRow.id).Nodup
  inHand : ∀ worker state, world.workers worker = some state →
    ∀ row ∈ state.claimed, world.InHand worker row

theorem JobWorld.initial_tracked : (initial Worker).Tracked where
  keyed _ _ found := nomatch (AList.lookup_empty _).symm.trans found
  counted _ _ found := nomatch (AList.lookup_empty _).symm.trans found
  enqueued id := by
    show id ∈ [] ↔ ((∅ : KeyMap String (Job Worker)).lookup id).isSome
    rw [AList.lookup_empty]
    simp
  fresh _ _ := rfl
  distinct _ _ := nofun
  inHand _ _ := nofun

/-- A claimed job is running under the worker that claims it. -/
theorem JobWorld.Tracked.of_claims (tracked : world.Tracked) {id : String}
    (claims : world.Claims worker id) :
    ∃ job, world.jobs.lookup id = some job ∧ job.status = .running ∧
      job.lockedBy = some worker := by
  obtain ⟨state, alive, row, member, rfl⟩ := claims
  obtain ⟨job, found, running, locked, -, -⟩ := tracked.inHand worker state alive row member
  exact ⟨job, found, running, locked⟩

/-- The jobs are conserved exactly if none is an orphan. -/
theorem JobWorld.Tracked.conserved_iff (tracked : world.Tracked) :
    world.Conserved ↔ world.NoOrphan := by
  constructor
  · intro conserved id job found running
    obtain ⟨same, foundSame, -, accounted⟩ :=
      conserved.jobs id ((tracked.enqueued id).mpr (by rw [found]; rfl))
    obtain rfl := Option.some.inj (found.symm.trans foundSame)
    rw [Accounted, running] at accounted
    obtain ⟨worker, -, claims⟩ := accounted
    exact ⟨worker, tracked.keyed id job found ▸ (claims worker).mpr rfl⟩
  · intro noOrphan
    refine ⟨fun id member => ?_, fun jobType active => ?_⟩
    · obtain ⟨job, found⟩ := Option.isSome_iff_exists.mp ((tracked.enqueued id).mp member)
      obtain rfl := tracked.keyed id job found
      refine ⟨job, found, rfl, ?_⟩
      have counted := tracked.counted _ job found
      have unclaimed : job.status ≠ .running → ∀ worker, ¬world.Claims worker job.id := by
        intro notRunning worker claims
        obtain ⟨claimed, foundClaimed, running, -⟩ := tracked.of_claims claims
        obtain rfl := Option.some.inj (found.symm.trans foundClaimed)
        exact notRunning running
      unfold Accounted
      unfold Counted at counted
      cases status : job.status with
      | pending =>
        rw [status] at counted unclaimed
        exact ⟨unclaimed nofun, counted.1 ▸ counted.2⟩
      | running =>
        obtain ⟨worker, claims⟩ := noOrphan job.id job found status
        obtain ⟨same, foundSame, -, locked⟩ := tracked.of_claims claims
        obtain rfl := Option.some.inj (found.symm.trans foundSame)
        refine ⟨worker, locked, fun other => ⟨fun otherClaims => ?_, fun same => same ▸ claims⟩⟩
        obtain ⟨third, foundThird, -, otherLocked⟩ := tracked.of_claims otherClaims
        obtain rfl := Option.some.inj (found.symm.trans foundThird)
        exact Option.some.inj (otherLocked.symm.trans locked)
      | completed =>
        rw [status] at counted unclaimed
        exact ⟨unclaimed nofun, counted⟩
      | dead =>
        rw [status] at counted unclaimed
        exact ⟨unclaimed nofun, counted⟩
    · obtain ⟨job, member, active⟩ := List.any_eq_true.mp active
      obtain ⟨id, found⟩ := KeyMap.mem_values_iff.mp member
      simp only [Bool.and_eq_true, Bool.or_eq_true, decide_eq_true_eq] at active
      refine ⟨id, job, found, active.1, active.2.imp_right fun running => ?_⟩
      exact noOrphan id job found running

/-! ### Every step keeps what always holds -/

/-- A row stays in hand as long as its job stays. -/
theorem JobWorld.InHand.of_lookup {row : JobRow} (inHand : world.InHand worker row)
    (same : next.jobs.lookup row.id = world.jobs.lookup row.id) : next.InHand worker row := by
  obtain ⟨job, found, rest⟩ := inHand
  exact ⟨job, same.trans found, rest⟩

theorem enqueueAt_lookup (jobs : KeyMap String (Job Worker)) (id jobType : String) (payload : Json)
    (priority runAt : Int) (other : String) :
    (enqueueAt jobs id jobType payload priority runAt).lookup other =
      (jobs.lookup other).or
        (if other = id then some (newJob id jobType payload priority runAt) else none) := by
  unfold enqueueAt
  split
  · rename_i found
    by_cases same : other = id
    · rw [same, found, Option.some_or]
    · rw [if_neg same, Option.or_none]
  · rename_i free
    rw [KeyMap.lookup_insert_eq]
    by_cases same : other = id
    · rw [if_pos same, if_pos same, same, free, Option.none_or]
    · rw [if_neg same, if_neg same, Option.or_none]

/-- A job that is enqueued starts with its counts right. -/
theorem JobWorld.Tracked.enqueue (tracked : world.Tracked) (id jobType : String) (payload : Json)
    (priority runAt : Int) :
    ({ world with
      jobs := enqueueAt world.jobs id jobType payload priority runAt
      enqueued := id :: world.enqueued } : JobWorld Worker).Tracked where
  keyed other job found := by
    rw [enqueueAt_lookup, Option.or_eq_some_iff] at found
    obtain found | ⟨-, found⟩ := found
    · exact tracked.keyed other job found
    · split at found
      · rename_i same
        obtain rfl := Option.some.inj found
        exact same.symm
      · cases found
  counted other job found := by
    rw [enqueueAt_lookup, Option.or_eq_some_iff] at found
    obtain found | ⟨free, found⟩ := found
    · exact tracked.counted other job found
    · split at found
      · obtain rfl := Option.some.inj found
        exact ⟨tracked.fresh other free, show 0 < 5 by decide⟩
      · cases found
  enqueued other := by
    rw [enqueueAt_lookup, List.mem_cons, tracked.enqueued, Option.isSome_or, Bool.or_eq_true,
      or_comm]
    by_cases same : other = id
    · simp [same]
    · simp [same]
  fresh other free := by
    rw [enqueueAt_lookup, Option.or_eq_none_iff] at free
    exact tracked.fresh other free.1
  distinct := tracked.distinct
  inHand worker state alive row member := by
    have inHand := tracked.inHand worker state alive row member
    obtain ⟨job, found, -⟩ := inHand
    refine (tracked.inHand worker state alive row member).of_lookup ?_
    rw [enqueueAt_lookup, found, Option.some_or]

/-- The rows that `claim_jobs` selects are pending jobs of the table, each once. -/
theorem JobWorld.Tracked.claimable (tracked : world.Tracked) (now : Int) (locked : String → Bool)
    (limit : Nat) :
    ((claimable world.jobs now locked limit).map Job.id).Nodup ∧
      ∀ job ∈ Ledgerly.claimable world.jobs now locked limit,
        world.jobs.lookup job.id = some job ∧ job.status = .pending := by
  constructor
  · have distinct := KeyMap.map_values_nodup tracked.keyed
    refine ((List.take_sublist _ _).map Job.id).nodup ?_
    exact ((List.perm_insertionSort _ _).map Job.id).nodup_iff.mpr
      ((List.filter_sublist.map Job.id).nodup distinct)
  · intro job member
    have among := List.mem_of_mem_take member
    rw [List.mem_insertionSort, List.mem_filter, Bool.and_eq_true, decide_eq_true_eq] at among
    obtain ⟨inTable, ⟨pending, -⟩, -⟩ := among
    obtain ⟨id, found⟩ := KeyMap.mem_values_iff.mp inTable
    rw [tracked.keyed id job found]
    exact ⟨found, pending⟩

theorem claimRows_lookup (worker : Worker) (jobs : KeyMap String (Job Worker))
    {rows : List (Job Worker)} (distinct : (rows.map Job.id).Nodup) (id : String) :
    (claimRows worker jobs rows).lookup id = (jobs.lookup id).map fun job =>
      if id ∈ rows.map Job.id then
        { job with
          status := .running
          lockedBy := some worker
          attempts := job.attempts + 1 }
      else job :=
  KeyMap.lookup_foldl_modify Job.id _ jobs rows distinct id

/-- Claiming pending jobs leaves the jobs in hand alone. -/
theorem JobWorld.Tracked.claimRows (tracked : world.Tracked) (worker : Worker)
    {rows : List (Job Worker)} (distinct : (rows.map Job.id).Nodup)
    (pending : ∀ job ∈ rows, world.jobs.lookup job.id = some job ∧ job.status = .pending) :
    ({ world with jobs := claimRows worker world.jobs rows } : JobWorld Worker).Tracked where
  keyed id job found := by
    rw [claimRows_lookup worker _ distinct] at found
    obtain ⟨before, foundBefore, rfl⟩ := Option.map_eq_some_iff.mp found
    split
    · exact tracked.keyed id before foundBefore
    · exact tracked.keyed id before foundBefore
  counted id job found := by
    rw [claimRows_lookup worker _ distinct] at found
    obtain ⟨before, foundBefore, rfl⟩ := Option.map_eq_some_iff.mp found
    have counted := tracked.counted id before foundBefore
    split
    · rename_i among
      obtain ⟨row, member, rfl⟩ := List.mem_map.mp among
      obtain ⟨foundRow, isPending⟩ := pending row member
      obtain rfl := Option.some.inj (foundBefore.symm.trans foundRow)
      rw [Counted, isPending] at counted
      exact ⟨congrArg (· + 1) counted.1, counted.2⟩
    · exact counted
  enqueued id := by
    rw [claimRows_lookup worker _ distinct, Option.isSome_map]
    exact tracked.enqueued id
  fresh id free := by
    rw [claimRows_lookup worker _ distinct, Option.map_eq_none_iff] at free
    exact tracked.fresh id free
  distinct := tracked.distinct
  inHand other state alive row member := by
    have inHand := tracked.inHand other state alive row member
    obtain ⟨job, found, running, -⟩ := inHand
    refine (tracked.inHand other state alive row member).of_lookup ?_
    have untouched : row.id ∉ rows.map Job.id := by
      intro among
      obtain ⟨claimed, claimedMember, same⟩ := List.mem_map.mp among
      obtain ⟨foundClaimed, isPending⟩ := pending claimed claimedMember
      rw [same] at foundClaimed
      obtain rfl := Option.some.inj (found.symm.trans foundClaimed)
      exact nomatch running.symm.trans isPending
    rw [claimRows_lookup worker _ distinct, found, Option.map_some, if_neg untouched]

/-- A claimed job is in the hands of its worker. -/
theorem JobWorld.inHand_claimedRow (worker : Worker) {rows : List (Job Worker)}
    (distinct : (rows.map Job.id).Nodup) {job : Job Worker} (member : job ∈ rows)
    (found : world.jobs.lookup job.id = some job) :
    ({ world with jobs := Ledgerly.claimRows worker world.jobs rows } : JobWorld Worker).InHand
      worker job.claimedRow := by
  refine ⟨{ job with
      status := .running
      lockedBy := some worker
      attempts := job.attempts + 1 }, ?_, rfl, rfl, rfl, rfl⟩
  show (Ledgerly.claimRows worker world.jobs rows).lookup job.id = _
  rw [claimRows_lookup worker _ distinct, found, Option.map_some,
    if_pos (List.mem_map_of_mem member)]

variable [DecidableEq Worker]

@[simp] theorem JobWorld.setWorker_self (world : JobWorld Worker) (worker : Worker)
    (state : Option WorkerState) : (world.setWorker worker state).workers worker = state :=
  Function.update_self ..

theorem JobWorld.setWorker_of_ne (world : JobWorld Worker) (state : Option WorkerState)
    (different : other ≠ worker) :
    (world.setWorker worker state).workers other = world.workers other :=
  Function.update_of_ne different ..

/-- What a step of one worker has to keep for the others. -/
theorem JobWorld.Tracked.setWorker (tracked : world.Tracked) {state : Option WorkerState}
    (distinct : ∀ own, state = some own → (own.claimed.map JobRow.id).Nodup)
    (inHand : ∀ own, state = some own → ∀ row ∈ own.claimed, world.InHand worker row) :
    (world.setWorker worker state).Tracked where
  keyed := tracked.keyed
  counted := tracked.counted
  enqueued := tracked.enqueued
  fresh := tracked.fresh
  distinct other own alive := by
    by_cases same : other = worker
    · rw [same, setWorker_self] at alive
      exact distinct own alive
    · rw [setWorker_of_ne world state same] at alive
      exact tracked.distinct other own alive
  inHand other own alive row member := by
    by_cases same : other = worker
    · rw [same, setWorker_self] at alive
      exact same ▸ inHand own alive row member
    · rw [setWorker_of_ne world state same] at alive
      exact tracked.inHand other own alive row member

omit [DecidableEq Worker] in
/-- What completing or failing a job makes of the table. -/
theorem JobWorld.record_lookup (world : JobWorld Worker) (row : JobRow) (now : Int)
    (succeeded : Bool) (id : String) :
    ∃ after : Job Worker → Job Worker, (world.record row now succeeded).jobs.lookup id =
        (world.jobs.lookup id).map (fun job => if id = row.id then after job else job) ∧
      ∀ job, (after job).id = job.id ∧ (after job).attempts = job.attempts ∧
        (after job).maxAttempts = job.maxAttempts ∧ (after job).status =
          if succeeded then .completed
          else if row.attempts ≥ row.maxAttempts then .dead else .pending := by
  unfold record
  cases succeeded with
  | true => exact ⟨_, KeyMap.lookup_modify .., fun _ => ⟨rfl, rfl, rfl, rfl⟩⟩
  | false => exact ⟨_, KeyMap.lookup_modify .., fun _ => ⟨rfl, rfl, rfl, rfl⟩⟩

omit [DecidableEq Worker] in
/-- The history of one job after an execution of another one. -/
theorem JobWorld.counted_record {row : JobRow} {now : Int} {succeeded : Bool} {id : String}
    {job : Job Worker} (different : id ≠ row.id) (counted : world.Counted id job) :
    (world.record row now succeeded).Counted id job := by
  unfold Counted record at *
  cases succeeded with
  | true =>
    cases status : job.status with
    | completed =>
      rw [status] at counted
      exact List.mem_cons_of_mem _ counted
    | _ =>
      rw [status] at counted
      exact counted
  | false =>
    have same : Function.update world.failures row.id (world.failures row.id + 1) id =
        world.failures id := Function.update_of_ne different ..
    cases status : job.status with
    | completed =>
      rw [status] at counted
      exact counted
    | _ =>
      rw [status] at counted
      simpa only [Bool.false_eq_true, if_false, same] using counted

omit [DecidableEq Worker] in
/-- A job that is finished, and in nobody's hands any more, has its counts right. -/
theorem JobWorld.Tracked.record (tracked : world.Tracked) {row : JobRow} (now : Int)
    (succeeded : Bool) {worker : Worker} (inHand : world.InHand worker row)
    (unclaimed : ∀ worker, ¬world.Claims worker row.id) :
    (world.record row now succeeded).Tracked := by
  obtain ⟨own, foundOwn, running, -, attempts, maxAttempts⟩ := inHand
  have history : (world.record row now succeeded).workers = world.workers ∧
      (world.record row now succeeded).enqueued = world.enqueued ∧
      ∀ id, id ≠ row.id → (world.record row now succeeded).failures id = world.failures id := by
    unfold JobWorld.record
    cases succeeded with
    | true => exact ⟨rfl, rfl, fun _ _ => rfl⟩
    | false => exact ⟨rfl, rfl, fun _ different => Function.update_of_ne different ..⟩
  obtain ⟨workers, enqueued, failures⟩ := history
  have table := record_lookup world row now succeeded
  refine ⟨fun id job found => ?_, fun id job found => ?_, fun id => ?_, fun id free => ?_,
    fun other state alive => ?_, fun other state alive claimed member => ?_⟩
  · obtain ⟨after, lookup, keeps⟩ := table id
    rw [lookup] at found
    obtain ⟨before, foundBefore, rfl⟩ := Option.map_eq_some_iff.mp found
    split
    · exact (keeps before).1.trans (tracked.keyed id before foundBefore)
    · exact tracked.keyed id before foundBefore
  · obtain ⟨after, lookup, keeps⟩ := table id
    rw [lookup] at found
    obtain ⟨before, foundBefore, rfl⟩ := Option.map_eq_some_iff.mp found
    split
    · rename_i same
      subst same
      obtain rfl := Option.some.inj (foundOwn.symm.trans foundBefore)
      have counted := tracked.counted row.id own foundOwn
      obtain ⟨-, keepsAttempts, keepsMax, status⟩ := keeps own
      rw [Counted, running] at counted
      unfold Counted
      rw [status, keepsAttempts, keepsMax]
      cases succeeded with
      | true => exact show row.id ∈ row.id :: world.succeeded from List.mem_cons_self
      | false =>
        have counts : (world.record row now false).failures row.id = world.failures row.id + 1 :=
          Function.update_self ..
        rw [if_neg Bool.false_ne_true, attempts, maxAttempts]
        by_cases spent : own.attempts ≥ own.maxAttempts
        · rw [if_pos spent]
          exact counts.trans (counted.1.trans (Nat.le_antisymm counted.2 spent))
        · rw [if_neg spent]
          exact ⟨counts.trans counted.1, Nat.lt_of_not_le spent⟩
    · rename_i different
      exact counted_record different (tracked.counted id before foundBefore)
  · obtain ⟨after, lookup, -⟩ := table id
    rw [enqueued, lookup, Option.isSome_map]
    exact tracked.enqueued id
  · obtain ⟨after, lookup, -⟩ := table id
    rw [lookup, Option.map_eq_none_iff] at free
    have different : id ≠ row.id := by
      rintro rfl
      exact nomatch free.symm.trans foundOwn
    rw [failures id different]
    exact tracked.fresh id free
  · rw [workers] at alive
    exact tracked.distinct other state alive
  · rw [workers] at alive
    refine (tracked.inHand other state alive claimed member).of_lookup ?_
    have different : claimed.id ≠ row.id := fun same =>
      unclaimed other ⟨state, alive, claimed, member, same⟩
    obtain ⟨after, lookup, -⟩ := table claimed.id
    rw [lookup]
    simp only [if_neg different, Option.map_id']

/-- A worker has its first job no more; nobody else has it. -/
theorem JobWorld.Tracked.unclaimed (tracked : world.Tracked) {row : JobRow} {rest : List JobRow}
    {outcome : Option Bool} (alive : world.workers worker = some ⟨row :: rest, outcome⟩)
    (other : Worker) : ¬(world.setWorker worker (some ⟨rest, none⟩)).Claims other row.id := by
  rintro ⟨state, otherAlive, claimed, member, same⟩
  have distinct := tracked.distinct worker _ alive
  rw [List.map_cons, List.nodup_cons] at distinct
  by_cases own : other = worker
  · rw [own, setWorker_self] at otherAlive
    obtain rfl := Option.some.inj otherAlive
    exact distinct.1 (same ▸ List.mem_map_of_mem member)
  · rw [setWorker_of_ne world _ own] at otherAlive
    obtain ⟨job, found, -, locked, -⟩ := tracked.inHand worker _ alive row List.mem_cons_self
    obtain ⟨same', foundOther, -, otherLocked, -⟩ :=
      tracked.inHand other state otherAlive claimed member
    rw [same] at foundOther
    obtain rfl := Option.some.inj (found.symm.trans foundOther)
    exact own (Option.some.inj (otherLocked.symm.trans locked))

/-- The worker goes on with the rest of what it has claimed. -/
theorem JobWorld.Tracked.goesOn (tracked : world.Tracked) {row : JobRow} {rest : List JobRow}
    {outcome : Option Bool} (alive : world.workers worker = some ⟨row :: rest, outcome⟩) :
    (world.setWorker worker (some ⟨rest, none⟩)).Tracked := by
  refine tracked.setWorker (fun own same => ?_) fun own same claimed member => ?_
  · obtain rfl := Option.some.inj same
    exact (List.nodup_cons.mp (tracked.distinct worker _ alive)).2
  · obtain rfl := Option.some.inj same
    exact tracked.inHand worker _ alive claimed (List.mem_cons_of_mem _ member)

omit [DecidableEq Worker] in
theorem JobWorld.setWorker_record [DecidableEq Worker] (world : JobWorld Worker) (worker : Worker)
    (state : Option WorkerState) (row : JobRow) (now : Int) (succeeded : Bool) :
    (world.record row now succeeded).setWorker worker state =
      (world.setWorker worker state).record row now succeeded := by
  cases succeeded <;> rfl

theorem JobWorld.step_tracked (world : JobWorld Worker) (event : JobEvent Worker)
    (tracked : world.Tracked) : (world.step event).Tracked := by
  cases event with
  | enqueue id jobType payload priority runAt =>
    exact tracked.enqueue id jobType payload priority runAt
  | enqueueIfAbsent id jobType payload now =>
    rw [step]
    split
    · exact tracked
    · rename_i absent
      rw [enqueueIfAbsent, if_neg absent]
      exact tracked.enqueue id jobType payload 0 now
  | start worker =>
    rw [step]
    split
    · exact tracked
    · refine tracked.setWorker (fun own same => ?_) fun own same claimed member => ?_
      · obtain rfl := Option.some.inj same
        exact List.nodup_nil
      · obtain rfl := Option.some.inj same
        exact absurd member List.not_mem_nil
  | claim worker now locked =>
    rw [step]
    split
    · obtain ⟨distinct, pending⟩ := tracked.claimable now locked 10
      refine (tracked.claimRows worker distinct pending).setWorker (fun own same => ?_)
        fun own same row member => ?_
      · obtain rfl := Option.some.inj same
        rwa [List.map_map]
      · obtain rfl := Option.some.inj same
        obtain ⟨job, among, rfl⟩ := List.mem_map.mp member
        exact inHand_claimedRow worker distinct among (pending job among).1
    · exact tracked
  | execute worker succeeded =>
    rw [step]
    split
    · rename_i row rest alive
      refine tracked.setWorker (fun own same => ?_) fun own same => ?_
      · obtain rfl := Option.some.inj same
        exact tracked.distinct worker ⟨row :: rest, none⟩ alive
      · obtain rfl := Option.some.inj same
        exact tracked.inHand worker ⟨row :: rest, none⟩ alive
    · exact tracked
  | finish worker now statementFails =>
    rw [step]
    split
    · rename_i row rest succeeded alive
      have goesOn := tracked.goesOn alive
      cases statementFails with
      | true => exact goesOn
      | false =>
        rw [if_neg Bool.false_ne_true, setWorker_record]
        have inHand : (world.setWorker worker (some ⟨rest, none⟩)).InHand worker row :=
          tracked.inHand worker _ alive row List.mem_cons_self
        exact goesOn.record now succeeded inHand (tracked.unclaimed alive)
    · exact tracked
  | crash worker => exact tracked.setWorker (fun _ => nofun) fun _ => nofun

/-! ### Where orphans come from -/

theorem JobWorld.claims_setWorker {state : Option WorkerState} {id : String} :
    (world.setWorker worker state).Claims other id ↔
      if other = worker then ∃ own, state = some own ∧ ∃ row ∈ own.claimed, row.id = id
      else world.Claims other id := by
  unfold Claims
  by_cases same : other = worker
  · rw [if_pos same, same, setWorker_self]
  · rw [if_neg same, setWorker_of_ne world state same]

/-- A worker that gives nothing away leaves no orphan behind. -/
theorem JobWorld.NoOrphan.setWorker (noOrphan : world.NoOrphan) {state : Option WorkerState}
    (keeps : ∀ id, world.Claims worker id →
      ∃ own, state = some own ∧ ∃ row ∈ own.claimed, row.id = id) :
    (world.setWorker worker state).NoOrphan := by
  intro id job found running
  obtain ⟨holder, claims⟩ := noOrphan id job found running
  refine ⟨holder, claims_setWorker.mpr ?_⟩
  split
  · rename_i same
    exact keeps id (same ▸ claims)
  · exact claims

/-- What a worker lets go of without finishing it is an orphan. -/
theorem JobWorld.Tracked.orphan (tracked : world.Tracked) {state : Option WorkerState}
    {id : String} (claims : world.Claims worker id)
    (free : ∀ other, ¬(world.setWorker worker state).Claims other id) :
    ¬(world.setWorker worker state).NoOrphan := by
  intro noOrphan
  obtain ⟨job, found, running, -⟩ := tracked.of_claims claims
  obtain ⟨holder, still⟩ := noOrphan id job found running
  exact free holder still

/-- A job that is finished is no orphan. -/
theorem JobWorld.NoOrphan.finish (noOrphan : world.NoOrphan) {row : JobRow} {rest : List JobRow}
    {outcome : Option Bool} (alive : world.workers worker = some ⟨row :: rest, outcome⟩) (now : Int)
    (succeeded : Bool) :
    ((world.setWorker worker (some ⟨rest, none⟩)).record row now succeeded).NoOrphan := by
  intro id job found running
  obtain ⟨after, lookup, keeps⟩ := record_lookup (world.setWorker worker (some ⟨rest, none⟩)) row
    now succeeded id
  rw [lookup] at found
  obtain ⟨before, foundBefore, rfl⟩ := Option.map_eq_some_iff.mp found
  by_cases same : id = row.id
  · rw [if_pos same, (keeps before).2.2.2] at running
    split at running
    · cases running
    · split at running <;> cases running
  · rw [if_neg same] at running
    obtain ⟨holder, claims⟩ := noOrphan id before foundBefore running
    have still : (world.setWorker worker (some ⟨rest, none⟩)).Claims holder id := by
      rw [claims_setWorker]
      split
      · rename_i own
        obtain ⟨state, held, claimed, member, named⟩ := claims
        obtain rfl := Option.some.inj ((own ▸ held).symm.trans alive)
        obtain rfl | member := List.mem_cons.mp member
        · exact absurd named.symm same
        · exact ⟨_, rfl, claimed, member, named⟩
      · exact claims
    refine ⟨holder, ?_⟩
    cases succeeded with
    | true => exact still
    | false => exact still

/-- A step leaves no orphan behind exactly if no worker goes with jobs in its hands and no
statement that finishes a job fails. -/
theorem JobWorld.step_noOrphan_iff (world : JobWorld Worker) (event : JobEvent Worker)
    (tracked : world.Tracked) (noOrphan : world.NoOrphan) :
    (world.step event).NoOrphan ↔ world.Finishes event := by
  have enqueued : ∀ id jobType payload priority runAt, ({ world with
      jobs := enqueueAt world.jobs id jobType payload priority runAt
      enqueued := id :: world.enqueued } : JobWorld Worker).NoOrphan := by
    intro id jobType payload priority runAt other job found running
    rw [enqueueAt_lookup, Option.or_eq_some_iff] at found
    obtain found | ⟨-, found⟩ := found
    · exact noOrphan other job found running
    · split at found
      · obtain rfl := Option.some.inj found
        cases running
      · cases found
  cases event with
  | enqueue id jobType payload priority runAt =>
    exact iff_of_true (enqueued id jobType payload priority runAt) trivial
  | enqueueIfAbsent id jobType payload now =>
    refine iff_of_true ?_ trivial
    rw [step]
    split
    · exact noOrphan
    · rename_i absent
      rw [enqueueIfAbsent, if_neg absent]
      exact enqueued id jobType payload 0 now
  | start worker =>
    refine iff_of_true ?_ trivial
    rw [step]
    split
    · exact noOrphan
    · rename_i gone
      refine noOrphan.setWorker fun id ⟨state, alive, _⟩ => ?_
      exact nomatch gone.symm.trans alive
  | claim worker now locked =>
    refine iff_of_true ?_ trivial
    rw [step]
    split
    · rename_i idle
      obtain ⟨distinct, -⟩ := tracked.claimable now locked 10
      intro id job found running
      have found' := found
      rw [show (JobWorld.setWorker _ _ _).jobs = claimRows worker world.jobs _ from rfl,
        claimRows_lookup worker _ distinct] at found'
      obtain ⟨before, foundBefore, rfl⟩ := Option.map_eq_some_iff.mp found'
      split at running
      · rename_i among
        obtain ⟨row, member, rfl⟩ := List.mem_map.mp among
        refine ⟨worker, claims_setWorker.mpr ?_⟩
        rw [if_pos rfl]
        exact ⟨_, rfl, row.claimedRow, List.mem_map_of_mem member, rfl⟩
      · obtain ⟨holder, claims⟩ := noOrphan id before foundBefore running
        refine ⟨holder, claims_setWorker.mpr ?_⟩
        rw [if_neg]
        · exact claims
        · rintro rfl
          obtain ⟨state, alive, row, member, -⟩ := claims
          obtain rfl := Option.some.inj (idle.symm.trans alive)
          exact List.not_mem_nil member
    · exact noOrphan
  | execute worker succeeded =>
    refine iff_of_true ?_ trivial
    rw [step]
    split
    · rename_i row rest alive
      refine noOrphan.setWorker fun id ⟨state, held, claimed⟩ => ?_
      obtain rfl := Option.some.inj (alive.symm.trans held)
      exact ⟨_, rfl, claimed⟩
    · exact noOrphan
  | finish worker now statementFails =>
    rw [step]
    split
    · rename_i row rest succeeded alive
      cases statementFails with
      | true =>
        refine iff_of_false ?_ fun finishes => ?_
        · exact tracked.orphan ⟨_, alive, row, List.mem_cons_self, rfl⟩ (tracked.unclaimed alive)
        · obtain empty | unexecuted := finishes rfl _ alive
          · cases empty
          · cases unexecuted
      | false =>
        refine iff_of_true ?_ fun fails => nomatch fails
        rw [if_neg Bool.false_ne_true, setWorker_record]
        exact noOrphan.finish alive now succeeded
    · rename_i other
      refine iff_of_true noOrphan fun _ state alive => ?_
      obtain ⟨claimed, outcome⟩ := state
      cases claimed with
      | nil => exact Or.inl rfl
      | cons row rest =>
        cases outcome with
        | none => exact Or.inr rfl
        | some succeeded => exact absurd alive (other row rest succeeded)
  | crash worker =>
    rw [step]
    constructor
    · intro after state alive
      by_contra holds
      obtain ⟨row, member⟩ := List.exists_mem_of_ne_nil _ holds
      refine tracked.orphan ⟨state, alive, row, member, rfl⟩ (fun other claims => ?_) after
      rw [claims_setWorker] at claims
      split at claims
      · obtain ⟨_, gone, -⟩ := claims
        cases gone
      · rename_i different
        obtain ⟨job, found, -, locked⟩ := tracked.of_claims claims
        obtain ⟨same, foundSame, -, ownLocked, -⟩ := tracked.inHand worker state alive row member
        obtain rfl := Option.some.inj (found.symm.trans foundSame)
        exact different (Option.some.inj (locked.symm.trans ownLocked))
    · intro finishes
      refine noOrphan.setWorker fun id ⟨state, alive, row, member, _⟩ => ?_
      rw [finishes state alive] at member
      exact absurd member List.not_mem_nil

end Queue

/-- The queue conserves its jobs in every state of a run exactly if no process ends with claimed jobs
in the hands of its worker, and no statement that completes or fails a job fails. -/
theorem jobs_conserved_iff {Worker : Type} [DecidableEq Worker] (events : List (JobEvent Worker)) :
    (∀ before, before <+: events →
      (Machine.run JobWorld.step (.initial Worker) before).Conserved) ↔
    Machine.Guarded JobWorld.step JobWorld.Finishes (.initial Worker) events := by
  have conserved : ∀ before : List (JobEvent Worker),
      (Machine.run JobWorld.step (.initial Worker) before).Conserved ↔
        (Machine.run JobWorld.step (.initial Worker) before).NoOrphan := fun before =>
    (Machine.run_invariant JobWorld.step_tracked JobWorld.initial_tracked before).conserved_iff
  simp only [conserved]
  refine Machine.invariant_throughout_iff JobWorld.step_tracked JobWorld.step_noOrphan_iff
    JobWorld.initial_tracked (fun id job found => ?_) events
  exact nomatch (AList.lookup_empty id).symm.trans found

/-! ### Two orphans -/

/-- A worker claims the backup job and its process ends. -/
def crashedBackup : List (JobEvent Unit) :=
  [.enqueueIfAbsent "job" "backup_bundle" (.obj []) 0, .start (), .claim () 0 fun _ => false,
    .crash ()]

/-- A worker executes the backup job, and the statement that should complete it fails. -/
def unrecordedBackup : List (JobEvent Unit) :=
  [.enqueueIfAbsent "job" "backup_bundle" (.obj []) 0, .start (), .claim () 0 fun _ => false,
    .execute () true, .finish () 0 true]

/-- The backup job stays running in nobody's hands, and no other is enqueued because of it. -/
theorem jobs_orphaned :
    (¬(Machine.run JobWorld.step (.initial Unit) crashedBackup).Conserved ∧
      hasActive (Machine.run JobWorld.step (.initial Unit) crashedBackup).jobs "backup_bundle") ∧
    ¬(Machine.run JobWorld.step (.initial Unit) unrecordedBackup).Conserved := by
  have orphan : ∀ world : JobWorld Unit, "job" ∈ world.enqueued →
      (world.jobs.lookup "job").map Job.status = some .running →
      (∀ state, world.workers () = some state → state.claimed = []) → ¬world.Conserved := by
    intro world enqueued status idle conserved
    obtain ⟨job, found, -, accounted⟩ := conserved.jobs "job" enqueued
    rw [found, Option.map_some, Option.some_inj] at status
    rw [JobWorld.Accounted, status] at accounted
    obtain ⟨worker, -, claims⟩ := accounted
    obtain ⟨state, alive, row, member, -⟩ := (claims worker).mpr rfl
    rw [idle state alive] at member
    exact List.not_mem_nil member
  refine ⟨⟨orphan _ (by decide) (by decide +kernel) fun state alive => ?_, by decide +kernel⟩,
    orphan _ (by decide) (by decide +kernel) fun state alive => ?_⟩
  · cases alive
  · obtain rfl := Option.some.inj alive
    rfl

end Ledgerly
