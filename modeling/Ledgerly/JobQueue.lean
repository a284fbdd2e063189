/-
This file models the queue of background jobs on PostgreSQL: `enqueue`, `enqueue_if_absent`, and
any number of workers that claim jobs, execute them one after the other, and complete or fail them.

A job that a worker has claimed is `running` in the table, and the worker knows it from the list it
has claimed. The process of a worker may end at any time, and the errors of the statements that
complete or fail a job are ignored.
-/

import Mathlib.Data.List.Sort
import Mathlib.Logic.Function.Basic
import Ledgerly.Json
import Ledgerly.Library.KeyMap

namespace Ledgerly

/-- The `status` column. -/
inductive JobStatus where
  | pending
  | running
  | completed
  | dead
  deriving DecidableEq

section Queue

variable (Worker : Type)

/-- A row of `jobs`. Instants are in microseconds. -/
structure Job where
  id : String
  jobType : String
  payload : Json
  status : JobStatus
  priority : Int
  runAt : Int
  attempts : Nat
  maxAttempts : Nat
  lockedBy : Option Worker

/-- `JobRow`, what a worker knows of a job it has claimed. -/
structure JobRow where
  id : String
  jobType : String
  payload : Json
  attempts : Nat
  maxAttempts : Nat

variable {Worker}

/-! ### Statements -/

/-- A row with the defaults of its columns. -/
def newJob (id jobType : String) (payload : Json) (priority runAt : Int) : Job Worker where
  id := id
  jobType := jobType
  payload := payload
  status := .pending
  priority := priority
  runAt := runAt
  attempts := 0
  maxAttempts := 5
  lockedBy := none

/-- The insert of `enqueue_at`; an id that is taken fails it. -/
def enqueueAt (jobs : KeyMap String (Job Worker)) (id jobType : String) (payload : Json)
    (priority runAt : Int) : KeyMap String (Job Worker) :=
  match jobs.lookup id with
  | some _ => jobs
  | none => jobs.insert id (newJob id jobType payload priority runAt)

/-- The subselect of `enqueue_if_absent`. -/
def hasActive (jobs : KeyMap String (Job Worker)) (jobType : String) : Bool :=
  jobs.values.any fun job : Job Worker =>
    job.jobType = jobType && (job.status = .pending || job.status = .running)

/-- `enqueue_if_absent`. -/
def enqueueIfAbsent (jobs : KeyMap String (Job Worker)) (id jobType : String) (payload : Json)
    (now : Int) : KeyMap String (Job Worker) :=
  if hasActive jobs jobType then jobs else enqueueAt jobs id jobType payload 0 now

/-- `ORDER BY priority DESC, run_at, id`. -/
def Job.goesBefore (first second : Job Worker) : Prop :=
  second.priority < first.priority ∨ (first.priority = second.priority ∧
    (first.runAt < second.runAt ∨ (first.runAt = second.runAt ∧ first.id ≤ second.id)))

instance : DecidableRel (@Job.goesBefore Worker) := fun first second =>
  inferInstanceAs (Decidable (second.priority < first.priority ∨ (first.priority = second.priority ∧
    (first.runAt < second.runAt ∨ (first.runAt = second.runAt ∧ first.id ≤ second.id)))))

/-- The select of `claim_jobs`. It skips the rows that other transactions have locked. -/
def claimable (jobs : KeyMap String (Job Worker)) (now : Int) (locked : String → Bool)
    (limit : Nat) : List (Job Worker) :=
  ((jobs.values.filter fun job : Job Worker =>
    decide (job.status = .pending ∧ job.runAt ≤ now) && !locked job.id).insertionSort
      Job.goesBefore).take limit

/-- The updates of `claim_jobs`. -/
def claimRows (worker : Worker) (jobs : KeyMap String (Job Worker)) (rows : List (Job Worker)) :
    KeyMap String (Job Worker) :=
  rows.foldl (fun jobs row => jobs.modify row.id fun job =>
    { job with
      status := .running
      lockedBy := some worker
      attempts := job.attempts + 1 }) jobs

/-- What `claim_jobs` returns of a row. -/
def Job.claimedRow (job : Job Worker) : JobRow :=
  ⟨job.id, job.jobType, job.payload, job.attempts + 1, job.maxAttempts⟩

/-- `complete_job`. -/
def completeJob (jobs : KeyMap String (Job Worker)) (id : String) : KeyMap String (Job Worker) :=
  jobs.modify id fun job => { job with status := .completed, lockedBy := none }

/-- `fail_job`. -/
def failJob (jobs : KeyMap String (Job Worker)) (row : JobRow) (now : Int) :
    KeyMap String (Job Worker) :=
  jobs.modify row.id fun job =>
    { job with
      status := if row.attempts ≥ row.maxAttempts then .dead else .pending
      lockedBy := none
      runAt := now + 1000000 * 2 ^ min job.attempts 8 }

/-! ### Workers -/

/-- A worker in `run_worker`: the jobs it has claimed and not finished, and, once it has executed
the first of them, whether that succeeded. -/
structure WorkerState where
  claimed : List JobRow
  outcome : Option Bool

variable (Worker)

/-- The table and the workers that are alive, with the history: which jobs were enqueued, which
were executed successfully, and how often each has failed. -/
structure JobWorld where
  jobs : KeyMap String (Job Worker)
  workers : Worker → Option WorkerState
  enqueued : List String
  succeeded : List String
  failures : String → Nat

/-- An empty queue without workers. -/
def JobWorld.initial : JobWorld Worker where
  jobs := ∅
  workers _ := none
  enqueued := []
  succeeded := []
  failures _ := 0

/-- What can happen to the queue. -/
inductive JobEvent where
  | enqueue (id jobType : String) (payload : Json) (priority runAt : Int)
  | enqueueIfAbsent (id jobType : String) (payload : Json) (now : Int)
  /-- A process begins `run_worker`. -/
  | start (worker : Worker)
  /-- A worker that has nothing left to do claims jobs. -/
  | claim (worker : Worker) (now : Int) (locked : String → Bool)
  /-- `execute_job` returns. -/
  | execute (worker : Worker) (succeeded : Bool)
  /-- The worker completes or fails the job it has executed, unless the statement fails. -/
  | finish (worker : Worker) (now : Int) (statementFails : Bool)
  /-- The process of the worker ends. -/
  | crash (worker : Worker)

variable {Worker} [DecidableEq Worker]

/-- A worker is set to what it does. -/
def JobWorld.setWorker (world : JobWorld Worker) (worker : Worker) (state : Option WorkerState) :
    JobWorld Worker :=
  { world with workers := Function.update world.workers worker state }

/-- The statement after an execution, and the history of the execution. -/
def JobWorld.record (world : JobWorld Worker) (row : JobRow) (now : Int) (succeeded : Bool) :
    JobWorld Worker :=
  if succeeded then
    { world with
      jobs := completeJob world.jobs row.id
      succeeded := row.id :: world.succeeded }
  else
    { world with
      jobs := failJob world.jobs row now
      failures := Function.update world.failures row.id (world.failures row.id + 1) }

/-- One step. A step that cannot happen now changes nothing. -/
def JobWorld.step (world : JobWorld Worker) : JobEvent Worker → JobWorld Worker
  | .enqueue id jobType payload priority runAt =>
    { world with
      jobs := enqueueAt world.jobs id jobType payload priority runAt
      enqueued := id :: world.enqueued }
  | .enqueueIfAbsent id jobType payload now =>
    if hasActive world.jobs jobType then world
    else
      { world with
        jobs := enqueueIfAbsent world.jobs id jobType payload now
        enqueued := id :: world.enqueued }
  | .start worker =>
    match world.workers worker with
    | some _ => world
    | none => world.setWorker worker (some ⟨[], none⟩)
  | .claim worker now locked =>
    match world.workers worker with
    | some ⟨[], _⟩ =>
      { world with
        jobs := claimRows worker world.jobs (claimable world.jobs now locked 10) }.setWorker worker
          (some ⟨(claimable world.jobs now locked 10).map Job.claimedRow, none⟩)
    | _ => world
  | .execute worker succeeded =>
    match world.workers worker with
    | some ⟨row :: rest, none⟩ => world.setWorker worker (some ⟨row :: rest, some succeeded⟩)
    | _ => world
  | .finish worker now statementFails =>
    match world.workers worker with
    | some ⟨row :: rest, some succeeded⟩ =>
      (if statementFails then world else world.record row now succeeded).setWorker worker
        (some ⟨rest, none⟩)
    | _ => world
  | .crash worker => world.setWorker worker none

end Queue

end Ledgerly
