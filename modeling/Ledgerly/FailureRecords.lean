/-
This file says when a failed backup, drill or restore is recorded. Its error has a summary exactly
if it is cut between characters; with a summary all three records are written, and without one the
run ends in a panic and none is.
-/

import Ledgerly.RunRecords

namespace Ledgerly

/-! ### The three records of a failure -/

/-- How often a counter has counted a failure. -/
def RunRecords.failures (records : RunRecords) (metric : String) : Nat :=
  records.runs.count (metric, "failure")

/-- How many audit events tell of a failed action. -/
def RunRecords.failedAudits (records : RunRecords) (action : String) : Nat :=
  records.audits.countP fun audit => audit.action = action && !audit.succeeded

/-- The times of a run have a text. -/
structure RunEnvironment.InRange (environment : RunEnvironment) : Prop where
  startedAt : (inRfc3339 environment.startedAt).isSome = true
  completedAt : (inRfc3339 environment.completedAt).isSome = true

/-- Nothing around a run stands in the way of its records. -/
structure RunEnvironment.Sound (environment : RunEnvironment) : Prop extends
    environment.InRange where
  audits : environment.audits = true
  publishes : environment.publishes = .ok ()

variable {Report Status : Type}

/-- A failed run has its status file, its metric and its audit event. -/
structure FailureRecorded (kind : RunKind Report Status) (summary : String)
    (before after : RunRecords) : Prop where
  filed : kind.filed after = some (.failed, some summary)
  metric : after.failures kind.metric = before.failures kind.metric + 1
  audit : after.failedAudits kind.action = before.failedAudits kind.action + 1

/-- A failure is counted once. -/
theorem failures_count (kind : RunKind Report Status) (environment : RunEnvironment)
    (error : String) (records : RunRecords) :
    (kind.count environment (.error error) records).failures kind.metric =
      records.failures kind.metric + 1 := by
  have counted : (kind.count environment (.error error) records).runs =
      records.runs ++ [(kind.metric, "failure")] := by
    unfold RunKind.count recordRuntimeAudit
    split <;> rfl
  rw [RunRecords.failures, counted, List.count_append, List.count_singleton_self]
  rfl

theorem failedAudits_count (kind : RunKind Report Status) {environment : RunEnvironment}
    (audits : environment.audits = true) (error : String) (records : RunRecords) :
    (kind.count environment (.error error) records).failedAudits kind.action =
      records.failedAudits kind.action + 1 := by
  have audited : (kind.count environment (.error error) records).audits =
      records.audits ++ [⟨kind.action, false, kind.target (.error error)⟩] := by
    rw [RunKind.count, recordRuntimeAudit, if_pos audits]
    rfl
  rw [RunRecords.failedAudits, audited, List.countP_append, List.countP_singleton,
    if_pos (by simp)]
  rfl

/-- Another kind of run is not counted. -/
theorem count_other (kind : RunKind Report Status) (environment : RunEnvironment)
    (result : Except String Report) (records : RunRecords) {metric action : String}
    (otherMetric : kind.metric ≠ metric) (otherAction : kind.action ≠ action) :
    (kind.count environment result records).failures metric = records.failures metric ∧
      (kind.count environment result records).failedAudits action =
        records.failedAudits action := by
  unfold RunKind.count recordRuntimeAudit RunRecords.failures RunRecords.failedAudits
  constructor
  · split
    all_goals
      rw [List.count_append, List.count_singleton, if_neg (by simp [otherMetric])]
      rfl
  · split
    · have uncounted : [(⟨kind.action, result.isOk, kind.target result⟩ : RunAudit)].countP
          (fun audit => audit.action = action && !audit.succeeded) = 0 := by
        rw [List.countP_singleton, if_neg]
        rw [Bool.and_eq_true, decide_eq_true_eq]
        exact fun counted => otherAction counted.1
      rw [List.countP_append]
      exact congrArg (List.countP _ records.audits + ·) uncounted
    · rfl

/-- A run leaves the records as they were, or counts itself, with its status file or without. -/
theorem recordRun_cases (kind : RunKind Report Status) (environment : RunEnvironment)
    (result : Except String Report) (records : RunRecords) :
    (recordRun kind environment result records).2 = records ∨
      (recordRun kind environment result records).2 = kind.count environment result records ∨
        ∃ status, (recordRun kind environment result records).2 =
          kind.publish status (kind.count environment result records) := by
  unfold recordRun
  split
  · split
    · exact .inl rfl
    · next status _ =>
      dsimp only
      split
      · exact .inr (.inr ⟨status, rfl⟩)
      · exact .inr (.inl rfl)
      · exact .inr (.inl rfl)
  · exact .inl rfl

/-- A run is not counted for another kind of run. -/
theorem recordRun_other (kind : RunKind Report Status) (environment : RunEnvironment)
    (result : Except String Report) (records : RunRecords) {metric action : String}
    (otherMetric : kind.metric ≠ metric) (otherAction : kind.action ≠ action) :
    (recordRun kind environment result records).2.failures metric = records.failures metric ∧
      (recordRun kind environment result records).2.failedAudits action =
        records.failedAudits action := by
  have counted := count_other kind environment result records otherMetric otherAction
  rcases recordRun_cases kind environment result records with same | same | ⟨status, same⟩
  · rw [same]
    exact ⟨rfl, rfl⟩
  · rw [same]
    exact counted
  · rw [same, RunRecords.failures, RunRecords.failedAudits, kind.runs_publish, kind.audits_publish]
    exact counted

/-- A run whose error has a summary returns the error, and counts itself with its status file unless
that is not written. -/
theorem recordRun_summarised (kind : RunKind Report Status) {environment : RunEnvironment}
    (inRange : environment.InRange) {error summary : String}
    (summarised : truncateError error = some summary) (records : RunRecords) :
    ∃ startedAt completedAt, recordRun kind environment (.error error) records =
      (some (.error error),
        if environment.publishes.isOk then
          kind.publish (kind.failed startedAt completedAt summary)
            (kind.count environment (.error error) records)
        else kind.count environment (.error error) records) := by
  obtain ⟨startedAt, isStarted⟩ := Option.isSome_iff_exists.mp inRange.startedAt
  obtain ⟨completedAt, isCompleted⟩ := Option.isSome_iff_exists.mp inRange.completedAt
  have status : kind.status startedAt completedAt (.error error) =
      some (kind.failed startedAt completedAt summary) := by
    rw [RunKind.status, summarised]
    rfl
  refine ⟨startedAt, completedAt, ?_⟩
  rw [recordRun, isStarted, isCompleted]
  dsimp only
  rw [status]
  cases environment.publishes <;> rfl

/-- With nothing in the way, it is recorded. -/
theorem recordRun_failed (kind : RunKind Report Status) {environment : RunEnvironment}
    (sound : environment.Sound) {error summary : String}
    (summarised : truncateError error = some summary) (records : RunRecords) :
    ∃ after, recordRun kind environment (.error error) records = (some (.error error), after) ∧
      FailureRecorded kind summary records after := by
  obtain ⟨startedAt, completedAt, recorded⟩ :=
    recordRun_summarised kind sound.toInRange summarised records
  rw [if_pos (by rw [sound.publishes]; rfl)] at recorded
  refine ⟨_, recorded, kind.filed_failed _ _ _ _, ?_, ?_⟩
  · rw [RunRecords.failures, kind.runs_publish]
    exact failures_count kind environment error records
  · rw [RunRecords.failedAudits, kind.audits_publish]
    exact failedAudits_count kind sound.audits error records

/-- A run whose error has no summary ends in the panic with nothing recorded. -/
theorem recordRun_panics (kind : RunKind Report Status) {environment : RunEnvironment}
    (inRange : environment.InRange) {error : String} (panics : truncateError error = none)
    (records : RunRecords) :
    recordRun kind environment (.error error) records = (none, records) := by
  obtain ⟨startedAt, isStarted⟩ := Option.isSome_iff_exists.mp inRange.startedAt
  obtain ⟨completedAt, isCompleted⟩ := Option.isSome_iff_exists.mp inRange.completedAt
  have status : kind.status startedAt completedAt (.error error) = none := by
    rw [RunKind.status, panics]
    rfl
  rw [recordRun, isStarted, isCompleted]
  dsimp only
  rw [status]

/-- A run that has not failed before fails with what writing its status file fails with. -/
theorem recordRun_ok (kind : RunKind Report Status) {environment : RunEnvironment}
    (inRange : environment.InRange) (report : Report) (records : RunRecords) :
    (recordRun kind environment (.ok report) records).1 =
      some (environment.publishes.map fun _ => report) := by
  obtain ⟨startedAt, isStarted⟩ := Option.isSome_iff_exists.mp inRange.startedAt
  obtain ⟨completedAt, isCompleted⟩ := Option.isSome_iff_exists.mp inRange.completedAt
  unfold recordRun RunKind.status
  rw [isStarted, isCompleted]
  cases published : environment.publishes with
  | ok done => rfl
  | error error => rfl

/-! ### The three kinds of run -/

/-- The ways a restore fails once it has begun: the bundle does not verify or stays closed, the
backup made first fails, or a step after it. -/
inductive RestoreAttempt.FailsWith (call : RestoreAttempt) : String → Prop
  | verification {error} (failed : call.plaintextVerified = .error error) : call.FailsWith error
  | closed (unverified : call.plaintextVerified = .ok false) :
      call.FailsWith "backup bundle password is required"
  | unprepared {error} (verified : call.plaintextVerified = .ok true)
      (failed : call.safety.prepared = .error error) : call.FailsWith error
  | safety {error} (verified : call.plaintextVerified = .ok true)
      (prepared : call.safety.prepared = .ok ()) (failed : call.safety.steps = .error error) :
      call.FailsWith error
  | unpublished {error report} (verified : call.plaintextVerified = .ok true)
      (prepared : call.safety.prepared = .ok ()) (made : call.safety.steps = .ok report)
      (failed : call.safety.environment.publishes = .error error) : call.FailsWith error
  | steps {error report} (verified : call.plaintextVerified = .ok true)
      (prepared : call.safety.prepared = .ok ()) (made : call.safety.steps = .ok report)
      (published : call.safety.environment.publishes = .ok ())
      (failed : call.steps report.runId = .error error) : call.FailsWith error

/-- Every run that fails with an error, with nothing in the way, returns it and is recorded with a
summary of it. -/
structure FailuresRecorded (error : String) : Prop where
  backup : ∀ (call : BackupAttempt) records, call.environment.Sound → call.prepared = .ok () →
    call.steps = .error error → ∃ summary after, truncateError error = some summary ∧
      runBackup call records = (some (.error error), after) ∧
        FailureRecorded (backupKind call.runId call.environment.durationMs) summary records after
  drill : ∀ (call : DrillAttempt) records, call.environment.Sound → call.prepared = .ok () →
    call.steps = .error error → ∃ summary after, truncateError error = some summary ∧
      runRecoveryDrill call records = (some (.error error), after) ∧
        FailureRecorded (drillKind call.bundleCreatedAt call.environment.durationMs) summary
          records after
  restore : ∀ (call : RestoreAttempt) records, call.environment.Sound →
    call.safety.environment.InRange → call.prepared = .ok () → call.FailsWith error →
      ∃ safetyBackupRunId summary after, truncateError error = some summary ∧
        restoreBackupBundle call records = (some (.error error), after) ∧
          FailureRecorded (restoreKind safetyBackupRunId call.environment.durationMs) summary
            records after

/-- The backup made first does not count as a restore. -/
theorem runBackup_other (call : BackupAttempt) (records : RunRecords) :
    (runBackup call records).2.failures "backup_restore_runs_total" =
        records.failures "backup_restore_runs_total" ∧
      (runBackup call records).2.failedAudits "backup.restore" =
        records.failedAudits "backup.restore" := by
  unfold runBackup
  split
  · exact ⟨rfl, rfl⟩
  · exact recordRun_other _ _ _ _ (show "backup_runs_total" ≠ _ by decide)
      (show "backup.run" ≠ _ by decide)

/-- A restore that fails with an error that has a summary gets to its own records. -/
theorem restoreBody_failed {call : RestoreAttempt} {error : String}
    (inRange : call.safety.environment.InRange) (fails : call.FailsWith error)
    (cuts : CutsBetween error) (records : RunRecords) :
    ∃ safetyBackupRunId left,
      restoreBody call records = (some (.error error, safetyBackupRunId), left) ∧
        left.failures "backup_restore_runs_total" = records.failures "backup_restore_runs_total" ∧
          left.failedAudits "backup.restore" = records.failedAudits "backup.restore" := by
  have left := runBackup_other call.safety records
  -- the backup made first decides what is left of the restore
  have afterBackup : ∀ {result}, call.plaintextVerified = .ok true →
      (runBackup call.safety records).1 = some result →
      restoreBody call records =
        (some (match result with
          | .error error => (.error error, none)
          | .ok safety => (call.steps safety.runId, some safety.runId)),
          (runBackup call.safety records).2) := by
    intro result verified ended
    have whole : runBackup call.safety records =
        (some result, (runBackup call.safety records).2) := Prod.ext ended rfl
    rw [restoreBody, verified]
    dsimp only
    rw [whole]
    cases result <;> rfl
  cases fails with
  | verification failed =>
    refine ⟨none, records, ?_, rfl, rfl⟩
    rw [restoreBody, failed]
  | closed unverified =>
    refine ⟨none, records, ?_, rfl, rfl⟩
    rw [restoreBody, unverified]
  | unprepared verified failed =>
    refine ⟨none, _, @afterBackup (.error error) verified ?_, left⟩
    rw [runBackup, failed]
  | safety verified prepared failed =>
    obtain ⟨summary, summarised, -⟩ := exists_summary cuts
    refine ⟨none, _, @afterBackup (.error error) verified ?_, left⟩
    obtain ⟨_, _, recorded⟩ := recordRun_summarised
      (backupKind call.safety.runId call.safety.environment.durationMs) inRange summarised records
    rw [runBackup, prepared, failed]
    exact congrArg Prod.fst recorded
  | @unpublished _ report verified prepared made failed =>
    refine ⟨none, _, @afterBackup (.error error) verified ?_, left⟩
    rw [runBackup, prepared, made]
    refine (recordRun_ok _ inRange _ records).trans ?_
    rw [failed]
    rfl
  | @steps _ report verified prepared made published failed =>
    have ended : (runBackup call.safety records).1 = some (.ok
        { report with durationMs := call.safety.environment.durationMs }) := by
      rw [runBackup, prepared, made]
      refine (recordRun_ok _ inRange _ records).trans ?_
      rw [published]
      rfl
    refine ⟨some report.runId, _, (afterBackup verified ended).trans ?_, left⟩
    dsimp only
    rw [failed]

/-- The failures with an error that is cut between characters are recorded. -/
theorem failuresRecorded_of_cutsBetween {error : String} (cuts : CutsBetween error) :
    FailuresRecorded error := by
  obtain ⟨summary, summarised, -⟩ := exists_summary cuts
  refine ⟨fun call records sound prepared failed => ?_,
    fun call records sound prepared failed => ?_,
    fun call records sound inRange prepared fails => ?_⟩
  · obtain ⟨after, recorded, isRecorded⟩ := recordRun_failed
      (backupKind call.runId call.environment.durationMs) sound summarised records
    refine ⟨summary, after, summarised, ?_, isRecorded⟩
    rw [runBackup, prepared, failed]
    exact recorded
  · obtain ⟨after, recorded, isRecorded⟩ := recordRun_failed
      (drillKind call.bundleCreatedAt call.environment.durationMs) sound summarised records
    refine ⟨summary, after, summarised, ?_, isRecorded⟩
    rw [runRecoveryDrill, prepared, failed]
    exact recorded
  · obtain ⟨safetyBackupRunId, left, body, sameFailures, sameAudits⟩ :=
      restoreBody_failed inRange fails cuts records
    obtain ⟨after, recorded, isRecorded⟩ := recordRun_failed
      (restoreKind safetyBackupRunId call.environment.durationMs) sound summarised left
    refine ⟨safetyBackupRunId, summary, after, summarised, ?_, isRecorded.filed, ?_, ?_⟩
    · rw [restoreBackupBundle, prepared, body]
      exact recorded
    · rw [isRecorded.metric]
      exact congrArg (· + 1) sameFailures
    · rw [isRecorded.audit]
      exact congrArg (· + 1) sameAudits

/-- A backup that fails with any other error ends in the panic, with nothing recorded. -/
theorem runBackup_panics {call : BackupAttempt} {error : String}
    (inRange : call.environment.InRange) (prepared : call.prepared = .ok ())
    (failed : call.steps = .error error) (inside : ¬CutsBetween error) (records : RunRecords) :
    runBackup call records = (none, records) := by
  rw [runBackup, prepared, failed]
  exact recordRun_panics _ inRange (truncateError_eq_none inside) records

/-- Recording an error is safe exactly for the texts that are cut between characters: then the
summary is the text or its beginning, and every failed run is recorded. -/
theorem error_recording_safe_iff (error : String) :
    ((∃ summary, truncateError error = some summary ∧ IsSummary error summary ∧
        summary.utf8ByteSize ≤ 503) ∧ FailuresRecorded error) ↔ CutsBetween error := by
  constructor
  · rintro ⟨⟨summary, summarised, -⟩, -⟩
    by_contra inside
    rw [truncateError_eq_none inside] at summarised
    cases summarised
  · exact fun cuts => ⟨exists_summary cuts, failuresRecorded_of_cutsBetween cuts⟩

/-- An error of one hundred and sixty-seven characters of three bytes each. -/
def longChineseError : String := String.ofList (List.replicate 167 '备')

/-- A backup that fails with it, at the start of the epoch. -/
def longPathBackup : BackupAttempt :=
  ⟨"run", .ok (), .error longChineseError, ⟨0, 0, 0, true, .ok ()⟩⟩

/-- Its summary panics, and a backup that fails with it leaves no record. -/
theorem longChineseError_panics :
    truncateError longChineseError = none ∧
      (∀ records, runBackup longPathBackup records = (none, records)) ∧
        ¬FailuresRecorded longChineseError := by
  have inside : ¬CutsBetween longChineseError := by
    have characters : longChineseError.toList = List.replicate 167 '备' := String.toList_ofList
    have bytes : longChineseError.utf8ByteSize = 501 := by
      rw [← total_utf8Size, characters]
      decide +kernel
    have noBoundary : isCharBoundary longChineseError 500 = false := by
      rw [isCharBoundary, characters]
      decide +kernel
    rintro (short | boundary)
    · rw [bytes] at short
      exact absurd short (by decide)
    · rw [noBoundary] at boundary
      cases boundary
  have panics := truncateError_eq_none inside
  have inRange : longPathBackup.environment.InRange := ⟨rfl, rfl⟩
  refine ⟨panics, fun records => ?_, fun recorded => ?_⟩
  · exact runBackup_panics inRange rfl rfl inside records
  · obtain ⟨summary, -, summarised, -⟩ := recorded.backup longPathBackup
      ⟨[], [], 0, none, none, none⟩ ⟨inRange, rfl, rfl⟩ rfl rfl
    rw [panics] at summarised
    cases summarised

end Ledgerly
