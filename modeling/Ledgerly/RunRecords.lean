/-
This file models what a backup, a recovery drill and a restore leave behind: the status file, the
metric and the audit record that are written when the steps of a run are over, whatever came of
them.

The status of a failed run has the summary of its error, and is made before anything is written. A
summary that panics therefore takes all three records with it.
-/

import Ledgerly.ErrorSummary
import Ledgerly.MonthQuery
import Ledgerly.ServerRestore

namespace Ledgerly

/-! ### Reports and statuses -/

/-- `BackupRunReport`. -/
structure BackupRunReport where
  runId : String
  fileCount : Nat
  totalSizeBytes : Nat
  durationMs : Nat
  replicated : Bool
  localRetained : Nat
  offsiteRetained : Nat

/-- `RestoreRunReport`, with the time that the steps of a restore leave open. -/
structure RestoreReport extends RestoreRunReport where
  durationMs : Nat

/-- `RecoveryDrillReport`. -/
structure RecoveryDrillReport where
  bundleCreatedAt : String
  fileCount : Nat
  objectCount : Nat
  bookCount : Int
  transactionCount : Int
  durationMs : Nat

/-- `BackupRunOutcome`, `RestoreRunOutcome` and `RecoveryDrillOutcome`. -/
inductive RunOutcome where
  | success
  | failed
  deriving DecidableEq

/-- `BackupRunStatus`. -/
structure BackupRunStatus where
  outcome : RunOutcome
  startedAt : Timestamp
  completedAt : Timestamp
  durationMs : Nat
  fileCount : Nat
  totalSizeBytes : Nat
  replicated : Bool
  localRetained : Nat
  offsiteRetained : Nat
  errorSummary : Option String

/-- `RestoreRunStatus`. -/
structure RestoreRunStatus where
  outcome : RunOutcome
  startedAt : Timestamp
  completedAt : Timestamp
  durationMs : Nat
  safetyBackupRunId : Option String
  fileCount : Nat
  objectCount : Nat
  bookCount : Int
  transactionCount : Int
  errorSummary : Option String

/-- `RecoveryDrillStatus`. -/
structure RecoveryDrillStatus where
  outcome : RunOutcome
  startedAt : Timestamp
  completedAt : Timestamp
  durationMs : Nat
  bundleCreatedAt : String
  fileCount : Nat
  objectCount : Nat
  bookCount : Int
  transactionCount : Int
  errorSummary : Option String

/-! ### Records -/

/-- An audit event of a run, of the actor `system` and with a target of the type `run`. -/
structure RunAudit where
  action : String
  succeeded : Bool
  target : Option String

/-- What the runs leave behind: the increments of the counters with their outcomes, the audit
events and the failed attempts to write one, and the three status files. -/
structure RunRecords where
  runs : List (String × String)
  audits : List RunAudit
  auditFailures : Nat
  backupStatus : Option BackupRunStatus
  restoreStatus : Option RestoreRunStatus
  drillStatus : Option RecoveryDrillStatus

/-- What a run finds when its steps are over: its times, how long it took, whether the database
takes an audit event, and what writing the status file comes to. -/
structure RunEnvironment where
  startedAt : Int
  completedAt : Int
  durationMs : Nat
  audits : Bool
  publishes : Except String Unit

/-- `record_runtime_audit`. -/
def recordRuntimeAudit (environment : RunEnvironment) (event : RunAudit) (records : RunRecords) :
    RunRecords :=
  if environment.audits then { records with audits := records.audits ++ [event] }
  else { records with auditFailures := records.auditFailures + 1 }

/-- What one kind of run records: the name of its counter, its audit event, and its status file,
which is a file of its own. -/
structure RunKind (Report Status : Type) where
  metric : String
  action : String
  target : Except String Report → Option String
  succeeded : Timestamp → Timestamp → Report → Status
  failed : Timestamp → Timestamp → String → Status
  publish : Status → RunRecords → RunRecords
  /-- The outcome and the summary in the status file. -/
  filed : RunRecords → Option (RunOutcome × Option String)
  filed_failed : ∀ startedAt completedAt summary records,
    filed (publish (failed startedAt completedAt summary) records) = some (.failed, some summary)
  runs_publish : ∀ status records, (publish status records).runs = records.runs
  audits_publish : ∀ status records, (publish status records).audits = records.audits

variable {Report Status : Type}

/-- The status of a run. A summary is made after both times are formatted, and only of an error;
`none` is its panic. -/
def RunKind.status (kind : RunKind Report Status) (startedAt completedAt : Timestamp) :
    Except String Report → Option Status
  | .ok report => some (kind.succeeded startedAt completedAt report)
  | .error error => (truncateError error).map (kind.failed startedAt completedAt)

/-- The counter and the audit event of a run. -/
def RunKind.count (kind : RunKind Report Status) (environment : RunEnvironment)
    (result : Except String Report) (records : RunRecords) : RunRecords :=
  recordRuntimeAudit environment ⟨kind.action, result.isOk, kind.target result⟩ { records with
    runs := records.runs ++ [(kind.metric, if result.isOk then "success" else "failure")] }

/-- What is left to do after the steps of a run: its status, the counter, the audit event and the
status file, in this order. A status file that is not written fails a run that has not failed
before. -/
def recordRun (kind : RunKind Report Status) (environment : RunEnvironment)
    (result : Except String Report) (records : RunRecords) :
    Option (Except String Report) × RunRecords :=
  match inRfc3339 environment.startedAt, inRfc3339 environment.completedAt with
  | some startedAt, some completedAt =>
    match kind.status startedAt completedAt result with
    | none => (none, records)
    | some status =>
      let counted := kind.count environment result records
      match environment.publishes, result with
      | .ok (), result => (some result, kind.publish status counted)
      | .error error, .ok _ => (some (.error error), counted)
      | .error _, .error error => (some (.error error), counted)
  | _, _ => (some (.error "format RFC3339 timestamp"), records)

/-! ### The runs -/

/-- What is recorded of a backup, -/
def backupKind (runId : String) (durationMs : Nat) : RunKind BackupRunReport BackupRunStatus where
  metric := "backup_runs_total"
  action := "backup.run"
  target _ := some runId
  succeeded startedAt completedAt report :=
    { outcome := .success, startedAt, completedAt, durationMs, fileCount := report.fileCount
      totalSizeBytes := report.totalSizeBytes, replicated := report.replicated
      localRetained := report.localRetained, offsiteRetained := report.offsiteRetained
      errorSummary := none }
  failed startedAt completedAt summary :=
    { outcome := .failed, startedAt, completedAt, durationMs, fileCount := 0, totalSizeBytes := 0
      replicated := false, localRetained := 0, offsiteRetained := 0, errorSummary := some summary }
  publish status records := { records with backupStatus := some status }
  filed records := records.backupStatus.map fun status => (status.outcome, status.errorSummary)
  filed_failed _ _ _ _ := rfl
  runs_publish _ _ := rfl
  audits_publish _ _ := rfl

/-- of a recovery drill, -/
def drillKind (bundleCreatedAt : String) (durationMs : Nat) :
    RunKind RecoveryDrillReport RecoveryDrillStatus where
  metric := "backup_recovery_drill_runs_total"
  action := "recovery_drill.run"
  target _ := some bundleCreatedAt
  succeeded startedAt completedAt report :=
    { outcome := .success, startedAt, completedAt, durationMs
      bundleCreatedAt := report.bundleCreatedAt, fileCount := report.fileCount
      objectCount := report.objectCount, bookCount := report.bookCount
      transactionCount := report.transactionCount, errorSummary := none }
  failed startedAt completedAt summary :=
    { outcome := .failed, startedAt, completedAt, durationMs, bundleCreatedAt, fileCount := 0
      objectCount := 0, bookCount := 0, transactionCount := 0, errorSummary := some summary }
  publish status records := { records with drillStatus := some status }
  filed records := records.drillStatus.map fun status => (status.outcome, status.errorSummary)
  filed_failed _ _ _ _ := rfl
  runs_publish _ _ := rfl
  audits_publish _ _ := rfl

/-- and of a restore. -/
def restoreKind (safetyBackupRunId : Option String) (durationMs : Nat) :
    RunKind RestoreReport RestoreRunStatus where
  metric := "backup_restore_runs_total"
  action := "backup.restore"
  target result := result.toOption.map (·.safetyBackupRunId)
  succeeded startedAt completedAt report :=
    { outcome := .success, startedAt, completedAt, durationMs
      safetyBackupRunId := some report.safetyBackupRunId, fileCount := report.fileCount
      objectCount := report.objectCount, bookCount := report.bookCount
      transactionCount := report.transactionCount, errorSummary := none }
  failed startedAt completedAt summary :=
    { outcome := .failed, startedAt, completedAt, durationMs, safetyBackupRunId, fileCount := 0
      objectCount := 0, bookCount := 0, transactionCount := 0, errorSummary := some summary }
  publish status records := { records with restoreStatus := some status }
  filed records := records.restoreStatus.map fun status => (status.outcome, status.errorSummary)
  filed_failed _ _ _ _ := rfl
  runs_publish _ _ := rfl
  audits_publish _ _ := rfl

/-- An attempt of `run_backup`: what comes of the directories it needs, and of its steps. -/
structure BackupAttempt where
  runId : String
  prepared : Except String Unit
  steps : Except String BackupRunReport
  environment : RunEnvironment

/-- `run_backup`. -/
def runBackup (call : BackupAttempt) (records : RunRecords) :
    Option (Except String BackupRunReport) × RunRecords :=
  match call.prepared with
  | .error error => (some (.error error), records)
  | .ok () =>
    recordRun (backupKind call.runId call.environment.durationMs) call.environment
      (call.steps.map fun report => { report with durationMs := call.environment.durationMs })
      records

/-- An attempt of `run_recovery_drill`; the bundle is the one it got to, empty before. -/
structure DrillAttempt where
  prepared : Except String Unit
  bundleCreatedAt : String
  steps : Except String RecoveryDrillReport
  environment : RunEnvironment

/-- `run_recovery_drill`. -/
def runRecoveryDrill (call : DrillAttempt) (records : RunRecords) :
    Option (Except String RecoveryDrillReport) × RunRecords :=
  match call.prepared with
  | .error error => (some (.error error), records)
  | .ok () =>
    recordRun (drillKind call.bundleCreatedAt call.environment.durationMs) call.environment
      (call.steps.map fun report => { report with durationMs := call.environment.durationMs })
      records

/-- An attempt of `restore_backup_bundle`: what comes of its directory and password, of the
verification, of the backup it makes first, and of its own steps after that. -/
structure RestoreAttempt where
  prepared : Except String Unit
  plaintextVerified : Except String Bool
  safety : BackupAttempt
  steps : String → Except String RestoreRunReport
  environment : RunEnvironment

/-- The part of `restore_backup_bundle` before it records anything of its own: the result, and the
backup that was made. -/
def restoreBody (call : RestoreAttempt) (records : RunRecords) :
    Option (Except String RestoreRunReport × Option String) × RunRecords :=
  match call.plaintextVerified with
  | .error error => (some (.error error, none), records)
  | .ok false => (some (.error "backup bundle password is required", none), records)
  | .ok true =>
    match runBackup call.safety records with
    | (none, left) => (none, left)
    | (some (.error error), left) => (some (.error error, none), left)
    | (some (.ok safety), left) => (some (call.steps safety.runId, some safety.runId), left)

/-- `restore_backup_bundle`. -/
def restoreBackupBundle (call : RestoreAttempt) (records : RunRecords) :
    Option (Except String RestoreReport) × RunRecords :=
  match call.prepared with
  | .error error => (some (.error error), records)
  | .ok () =>
    match restoreBody call records with
    | (none, left) => (none, left)
    | (some (result, safetyBackupRunId), left) =>
      recordRun (restoreKind safetyBackupRunId call.environment.durationMs) call.environment
        (result.map fun report => ⟨report, call.environment.durationMs⟩) left

end Ledgerly
