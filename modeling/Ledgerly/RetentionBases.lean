/-
This file is about what the retention of backups owes the incremental ones: what could be restored
before a cleanup or before an entry is put in the catalog, and is still there afterwards, can still
be restored.

An incremental backup is restored from the first usable file of its base. So the promise is kept
exactly if, of the files that are usable for an incremental backup that stays, one is neither
deleted nor forgotten.
-/

import Ledgerly.BackupRetention
import Mathlib.Data.List.Sort

namespace Ledgerly

namespace BackupDevice

/-! ### What the rounds of a cleanup delete -/

/-- One of the rounds deletes the file: its path is not one to keep, and `deleteBackup` does not
throw. -/
def DeletedBy (keep : List String) (deletion : Nat → Deletion)
    (rounds : List (BackupArtifact × Nat)) (path : String) : Prop :=
  path ∉ keep ∧ ∃ round ∈ rounds, round.1.path = path ∧ deletion round.2 ≠ .failed

section Rounds

variable {keep : List String} {deletion : Nat → Deletion}

theorem deletedBy_cons {round : BackupArtifact × Nat} {rest : List (BackupArtifact × Nat)}
    {path : String} :
    DeletedBy keep deletion (round :: rest) path ↔
      DeletedBy keep deletion [round] path ∨ DeletedBy keep deletion rest path := by
  simp only [DeletedBy, List.exists_mem_cons_iff, List.not_mem_nil, false_and, exists_false,
    or_false, and_or_left]

theorem deletedBy_singleton {round : BackupArtifact × Nat} {path : String} :
    DeletedBy keep deletion [round] path ↔
      path ∉ keep ∧ round.1.path = path ∧ deletion round.2 ≠ .failed := by
  simp only [DeletedBy, List.exists_mem_cons_iff, List.not_mem_nil, false_and, exists_false,
    or_false]

end Rounds

variable [ArtifactSort] (device : BackupDevice)

/-! ### The promise -/

/-- The full backup can be made of the incremental one. -/
def Restorable (document : BackupDocument) : Prop :=
  ∃ full, device.materializeCatalogIncremental document = .ok full

/-- Between two states of a device: every incremental backup of the catalog whose file is there
can be restored if it could before. -/
def KeepsRestorable (before after : BackupDevice) : Prop :=
  ∀ artifact ∈ after.catalog.read, ∀ file, after.readBackup artifact.path = .ok file →
    file.document.isIncremental → before.Restorable file.document →
      after.Restorable file.document

/-- What retention does: a cleanup, or a catalog entry for a new file. -/
inductive RetentionCall
  | cleanup (keepAutomatic keepSafety : Int) (deletion : Nat → Deletion)
  | upsert (artifact : BackupArtifact)

/-- What a call of the retention does to the device. -/
def retain : RetentionCall → BackupDevice
  | .cleanup keepAutomatic keepSafety deletion =>
    (device.cleanupBackups keepAutomatic keepSafety deletion).1
  | .upsert artifact => { device with catalog := device.catalog.upsert artifact }

/-! ### The condition -/

/-- The file can be the base of the document. -/
def UsableBase (baseId : String) (document : BackupDocument) (path : String) : Prop :=
  ∃ file, device.readBackup path = .ok file ∧ file.isEncrypted = false ∧
    file.document.isIncremental = false ∧ file.document.backupId = some baseId ∧
    ∃ full, applyIncremental file.document document = .ok full

/-- The files that a call deletes. -/
def Deletes : RetentionCall → String → Prop
  | .cleanup keepAutomatic keepSafety deletion =>
    DeletedBy (device.keepPaths keepAutomatic keepSafety) deletion device.cleanupRounds
  | .upsert _ => fun _ => False

/-- The entry is one of the catalog, and the catalog has room for it. -/
def Lists : RetentionCall → BackupArtifact → Prop
  | .cleanup _ _ _, entry => entry ∈ device.catalog.read
  | .upsert artifact, entry =>
    entry ∈ manualArtifacts (device.catalog.withArtifact artifact) ∨
      entry ∈ roomyArtifacts (device.catalog.withArtifact artifact)

/-- For every incremental backup that stays and had a usable base, one of its usable bases is not
deleted and is the base of the metadata or that of an entry that stays. -/
def BasesStay (call : RetentionCall) : Prop :=
  ∀ artifact, device.Lists call artifact → ¬device.Deletes call artifact.path →
    ∀ file, device.readBackup artifact.path = .ok file →
    ∀ baseId, file.document.baseBackupId = some baseId →
    (∃ path ∈ device.basePaths baseId, device.UsableBase baseId file.document path) →
      ∃ path, device.UsableBase baseId file.document path ∧ ¬device.Deletes call path ∧
        ((device.metadata.baseBackupId = some baseId ∧
            device.metadata.baseBackupPath = some path) ∨
          ∃ entry, device.Lists call entry ∧ entry.backupId = baseId ∧ entry.path = path)

/-! ### What can be restored -/

theorem mem_basePaths {baseId path : String} :
    path ∈ device.basePaths baseId ↔
      (device.metadata.baseBackupId = some baseId ∧ device.metadata.baseBackupPath = some path) ∨
        ∃ entry ∈ device.catalog.read, entry.backupId = baseId ∧ entry.path = path := by
  rw [basePaths, List.mem_append]
  refine or_congr ?_ ?_
  · split_ifs with named
    · rw [Option.mem_toList]
      exact ⟨fun same => ⟨named, same⟩, fun both => both.2⟩
    · exact ⟨fun member => absurd member List.not_mem_nil, fun both => absurd both.1 named⟩
  · simp only [List.mem_map, List.mem_filter, decide_eq_true_eq, and_assoc]

omit [ArtifactSort] in
/-- The loop ends with a document exactly if one of the files is usable. -/
theorem materializeFrom_ok_iff (document : BackupDocument) (baseId : String) (paths : List String)
    (lastError : String) :
    (∃ full, device.materializeFrom document baseId paths lastError = .ok full) ↔
      ∃ path ∈ paths, device.UsableBase baseId document path := by
  induction paths generalizing lastError with
  | nil =>
    exact ⟨fun ⟨_, impossible⟩ => (nomatch impossible),
      fun ⟨_, member, _⟩ => absurd member List.not_mem_nil⟩
  | cons path rest inductionHypothesis =>
    rw [List.exists_mem_cons_iff]
    -- A file that is not usable leaves it to the others.
    have skipped (error : String) (unusable : ¬device.UsableBase baseId document path) :
        (∃ full, device.materializeFrom document baseId rest error = .ok full) ↔
          device.UsableBase baseId document path ∨
            ∃ path ∈ rest, device.UsableBase baseId document path := by
      rw [inductionHypothesis error, or_iff_right unusable]
    unfold materializeFrom
    cases read : device.readBackup path with
    | error error =>
      refine skipped error fun ⟨file, isFile, _⟩ => ?_
      rw [read] at isFile
      cases isFile
    | ok base =>
      have isBase {file : BackupFile} (isFile : device.readBackup path = .ok file) :
          base = file := by
        rw [read] at isFile
        exact Except.ok.inj isFile
      dsimp only
      split_ifs with invalid
      · refine skipped _ fun ⟨file, isFile, plain, full, named, _⟩ => ?_
        obtain rfl := isBase isFile
        rw [plain, full, named] at invalid
        simp at invalid
      · rw [Bool.or_eq_true, Bool.or_eq_true, not_or, not_or, Bool.not_eq_true, Bool.not_eq_true,
          decide_eq_true_eq, not_not] at invalid
        obtain ⟨⟨plain, full⟩, named⟩ := invalid
        cases applied : applyIncremental base.document document with
        | error error =>
          refine skipped _ fun ⟨file, isFile, _, _, _, result, isResult⟩ => ?_
          obtain rfl := isBase isFile
          rw [applied] at isResult
          cases isResult
        | ok result =>
          exact iff_of_true ⟨result, rfl⟩ (Or.inl ⟨base, read, plain, full, named, result, applied⟩)

theorem restorable_iff {document : BackupDocument} {baseId : String}
    (incremental : document.baseBackupId = some baseId) :
    device.Restorable document ↔
      ∃ path ∈ device.basePaths baseId, device.UsableBase baseId document path := by
  unfold Restorable materializeCatalogIncremental
  rw [incremental]
  dsimp only
  split_ifs with noPaths
  · rw [List.isEmpty_iff.mp noPaths]
    exact ⟨fun ⟨_, impossible⟩ => (nomatch impossible),
      fun ⟨_, member, _⟩ => absurd member List.not_mem_nil⟩
  · exact device.materializeFrom_ok_iff document baseId _ _

/-! ### What a call of retention leaves -/

/-- What is deleted is gone, the other files are as they were, and their entries are those that
are listed. -/
structure Retained (deleted : String → Prop) (lists : BackupArtifact → Prop)
    (after : BackupDevice) : Prop where
  metadata : after.metadata = device.metadata
  gone : ∀ path, deleted path → after.files path = none
  kept : ∀ path, ¬deleted path → after.files path = device.files path
  listed : ∀ entry : BackupArtifact, ¬deleted entry.path →
    (entry ∈ after.catalog.read ↔ lists entry)

section Cleanup

variable {device} {keep : List String} {deletion : Nat → Deletion}

theorem Retained.trans {between after : BackupDevice} {first second both : String → Prop}
    (toBetween : device.Retained first (· ∈ device.catalog.read) between)
    (toAfter : between.Retained second (· ∈ between.catalog.read) after)
    (isBoth : ∀ path, both path ↔ first path ∨ second path) :
    device.Retained both (· ∈ device.catalog.read) after where
  metadata := toAfter.metadata.trans toBetween.metadata
  gone path deleted := by
    by_cases later : second path
    · exact toAfter.gone path later
    · rw [toAfter.kept path later]
      exact toBetween.gone path (((isBoth path).mp deleted).resolve_right later)
  kept path notDeleted := by
    rw [isBoth, not_or] at notDeleted
    rw [toAfter.kept path notDeleted.2, toBetween.kept path notDeleted.1]
  listed entry notDeleted := by
    rw [isBoth, not_or] at notDeleted
    rw [toAfter.listed entry notDeleted.2, toBetween.listed entry notDeleted.1]

theorem retained_refl {deleted : String → Prop} (none : ∀ path, ¬deleted path) :
    device.Retained deleted (· ∈ device.catalog.read) device where
  metadata := rfl
  gone path isDeleted := absurd isDeleted (none path)
  kept _ _ := rfl
  listed _ _ := Iff.rfl

theorem cleanupRound_retained (state : BackupDevice × BackupCleanupResult)
    (round : BackupArtifact × Nat) :
    state.1.Retained (DeletedBy keep deletion [round]) (· ∈ state.1.catalog.read)
      (cleanupRound keep deletion state round).1 := by
  unfold cleanupRound
  split_ifs with isKept
  · refine retained_refl fun path isDeleted => ?_
    obtain ⟨notKept, rfl, _⟩ := deletedBy_singleton.mp isDeleted
    exact notKept isKept
  · -- With the file gone, the entry may be there or not.
    have ofDeleted (after : BackupDevice) (succeeded : deletion round.2 ≠ .failed)
        (metadata : after.metadata = state.1.metadata)
        (files : after.files = Function.update state.1.files round.1.path none)
        (listed : ∀ entry : BackupArtifact, round.1.path ≠ entry.path →
          (entry ∈ after.catalog.read ↔ entry ∈ state.1.catalog.read)) :
        state.1.Retained (DeletedBy keep deletion [round]) (· ∈ state.1.catalog.read) after := by
      have isDeleted (path : String) :
          DeletedBy keep deletion [round] path ↔ round.1.path = path := by
        rw [deletedBy_singleton]
        exact ⟨fun all => all.2.1, fun same => ⟨same ▸ isKept, same, succeeded⟩⟩
      refine ⟨metadata, fun path deleted => ?_, fun path notDeleted => ?_,
        fun entry notDeleted => listed entry fun same => notDeleted ((isDeleted _).mpr same)⟩
      · rw [files, ← (isDeleted path).mp deleted, Function.update_self]
      · rw [files, Function.update_of_ne fun same => notDeleted ((isDeleted path).mpr same.symm)]
    cases outcome : deletion round.2 with
    | done =>
      refine ofDeleted _ (by rw [outcome]; exact Deletion.noConfusion) rfl rfl fun entry other => ?_
      exact (state.1.catalog.mem_removeByPath round.1.path).trans
        (and_iff_left fun same => other same.symm)
    | failed =>
      refine retained_refl fun path isDeleted => ?_
      exact (deletedBy_singleton.mp isDeleted).2.2 outcome
    | unlisted =>
      exact ofDeleted _ (by rw [outcome]; exact Deletion.noConfusion) rfl rfl fun _ _ => Iff.rfl

theorem foldl_cleanupRound_retained (rounds : List (BackupArtifact × Nat))
    (state : BackupDevice × BackupCleanupResult) :
    state.1.Retained (DeletedBy keep deletion rounds) (· ∈ state.1.catalog.read)
      (rounds.foldl (cleanupRound keep deletion) state).1 := by
  induction rounds generalizing state with
  | nil =>
    refine retained_refl fun path isDeleted => ?_
    obtain ⟨_, round, member, _⟩ := isDeleted
    exact absurd member List.not_mem_nil
  | cons round rest inductionHypothesis =>
    rw [List.foldl_cons]
    exact (cleanupRound_retained state round).trans (inductionHypothesis _) fun _ =>
      deletedBy_cons

end Cleanup

theorem retain_retained (call : RetentionCall) :
    device.Retained (device.Deletes call) (device.Lists call) (device.retain call) := by
  cases call with
  | cleanup keepAutomatic keepSafety deletion =>
    exact foldl_cleanupRound_retained device.cleanupRounds (device, _)
  | upsert artifact =>
    exact ⟨rfl, fun _ isDeleted => isDeleted.elim, fun _ _ => rfl,
      fun entry _ => device.catalog.mem_upsert⟩

section Retained

variable {device} {call : RetentionCall} {after : BackupDevice}
  (retained : device.Retained (device.Deletes call) (device.Lists call) after)

include retained

theorem Retained.readBackup_iff {path : String} {file : BackupFile} :
    after.readBackup path = .ok file ↔
      ¬device.Deletes call path ∧ device.readBackup path = .ok file := by
  unfold readBackup
  by_cases isDeleted : device.Deletes call path
  · rw [retained.gone path isDeleted]
    exact ⟨fun impossible => (nomatch impossible), fun both => absurd isDeleted both.1⟩
  · rw [retained.kept path isDeleted]
    exact ⟨fun same => ⟨isDeleted, same⟩, fun both => both.2⟩

theorem Retained.usableBase_iff {baseId path : String} {document : BackupDocument} :
    after.UsableBase baseId document path ↔
      ¬device.Deletes call path ∧ device.UsableBase baseId document path := by
  unfold UsableBase
  simp only [retained.readBackup_iff, and_assoc, exists_and_left]

/-- The bases that are left for a document. -/
theorem Retained.restorable_iff {baseId : String} {document : BackupDocument}
    (incremental : document.baseBackupId = some baseId) :
    after.Restorable document ↔
      ∃ path, device.UsableBase baseId document path ∧ ¬device.Deletes call path ∧
        ((device.metadata.baseBackupId = some baseId ∧
            device.metadata.baseBackupPath = some path) ∨
          ∃ entry, device.Lists call entry ∧ entry.backupId = baseId ∧ entry.path = path) := by
  rw [after.restorable_iff incremental]
  refine exists_congr fun path => ?_
  rw [retained.usableBase_iff, mem_basePaths, retained.metadata]
  constructor
  · rintro ⟨named, notDeleted, usable⟩
    refine ⟨usable, notDeleted, named.imp_right ?_⟩
    rintro ⟨entry, listed, isBase, rfl⟩
    exact ⟨entry, (retained.listed entry notDeleted).mp listed, isBase, rfl⟩
  · rintro ⟨usable, notDeleted, named⟩
    refine ⟨named.imp_right ?_, notDeleted, usable⟩
    rintro ⟨entry, lists, isBase, rfl⟩
    exact ⟨entry, (retained.listed entry notDeleted).mpr lists, isBase, rfl⟩

end Retained

/-! ### The result -/

/-- A call of retention keeps what can be restored exactly if it leaves a base for it. -/
theorem keepsRestorable_iff (call : RetentionCall) :
    device.KeepsRestorable (device.retain call) ↔ device.BasesStay call := by
  have retained := device.retain_retained call
  constructor
  · intro keeps artifact lists notDeleted file isFile baseId incremental hadBase
    rw [← retained.restorable_iff incremental]
    refine keeps artifact ((retained.listed artifact notDeleted).mpr lists) file
      (retained.readBackup_iff.mpr ⟨notDeleted, isFile⟩) ?_
      ((device.restorable_iff incremental).mpr hadBase)
    rw [BackupDocument.isIncremental, incremental, Option.isSome_some]
  · intro stay artifact listed file isFile incremental restorable
    obtain ⟨baseId, isBase⟩ := Option.isSome_iff_exists.mp incremental
    obtain ⟨notDeleted, wasFile⟩ := retained.readBackup_iff.mp isFile
    rw [retained.restorable_iff isBase]
    exact stay artifact ((retained.listed artifact notDeleted).mp listed) notDeleted file wasFile
      baseId isBase ((device.restorable_iff isBase).mp restorable)

end BackupDevice

/-! ### A base that the cleanup deletes -/

section BaseDeleted

/-- A sort that leaves artifacts of one instant as they are. -/
@[reducible] def newestFirst : ArtifactSort where
  sort artifacts := artifacts.insertionSort fun one two => two.createdAt ≤ one.createdAt
  sort_perm artifacts := List.perm_insertionSort _ artifacts
  sort_sorted artifacts :=
    haveI : Std.Total fun one two : BackupArtifact => two.createdAt ≤ one.createdAt :=
      ⟨fun one two => Int.le_total two.createdAt one.createdAt⟩
    haveI : IsTrans BackupArtifact fun one two => two.createdAt ≤ one.createdAt :=
      ⟨fun _ _ _ first second => Int.le_trans second first⟩
    List.pairwise_insertionSort _ artifacts

/-- An artifact whose file is named after its id. -/
def artifactOf (backupId : String) (createdAt : Int) (source : BackupArtifactSource)
    (baseBackupId : Option String := none) : BackupArtifact where
  backupId := backupId
  path := backupId
  createdAt := createdAt
  kind := if baseBackupId.isSome then .incremental else .full
  source := source
  sizeBytes := 1
  baseBackupId := baseBackupId

/-- An automatic backup, a manual one on top of it, and then three automatic ones, of which the
last is the base from then on. -/
def june : List BackupArtifact :=
  [artifactOf "e" 5 .automatic, artifactOf "d" 4 .automatic, artifactOf "c" 3 .automatic,
    artifactOf "b" 2 .manual (some "a"), artifactOf "a" 1 .automatic]

/-- The backup of an empty book. -/
def emptyBackup (backupId : String) (baseBackupId : Option String) : BackupDocument where
  summary := ⟨0, 0, 0, 0, 0, 0, 0, 0⟩
  payload := []
  backupId := some backupId
  baseBackupId := baseBackupId

/-- A device with the backups of June, of which the last is the base. -/
def juneDevice : BackupDevice where
  catalog := ⟨june, Or.inl (by decide)⟩
  metadata := { lastBackupPath := some "e", baseBackupId := some "e", baseBackupPath := some "e" }
  audits := []
  files path := (june.find? fun artifact => artifact.path = path).map fun artifact =>
    .ok ⟨false, emptyBackup artifact.backupId artifact.baseBackupId⟩

theorem restorable_of_isOk [ArtifactSort] {device : BackupDevice} {document : BackupDocument}
    (isOk : (device.materializeCatalogIncremental document).isOk) : device.Restorable document := by
  unfold BackupDevice.Restorable
  cases made : device.materializeCatalogIncremental document with
  | ok full => exact ⟨full, rfl⟩
  | error error =>
    rw [made] at isOk
    cases isOk

/-- The manual backup stays, and its base does not. -/
theorem base_deleted :
    let := newestFirst
    ¬juneDevice.KeepsRestorable (juneDevice.retain (.cleanup 3 1 fun _ => .done)) := by
  intro sorts keeps
  have retained := juneDevice.retain_retained (.cleanup 3 1 fun _ => .done)
  have manual : artifactOf "b" 2 .manual (some "a") ∈ juneDevice.catalog.read := by decide +kernel
  have stays : ¬juneDevice.Deletes (.cleanup 3 1 fun _ => .done) "b" := fun isDeleted =>
    isDeleted.1 (by decide +kernel)
  have restorable : juneDevice.Restorable (emptyBackup "b" (some "a")) :=
    restorable_of_isOk (by decide +kernel)
  have file : juneDevice.readBackup "b" = .ok ⟨false, emptyBackup "b" (some "a")⟩ := rfl
  obtain ⟨full, isFull⟩ := keeps _ ((retained.listed _ stays).mpr manual) _
    (retained.readBackup_iff.mpr ⟨stays, file⟩) rfl restorable
  have lost : ((juneDevice.retain (.cleanup 3 1 fun _ => .done)).materializeCatalogIncremental
      (emptyBackup "b" (some "a"))).isOk = false := by decide +kernel
  rw [isFull] at lost
  cases lost

end BaseDeleted

end Ledgerly
