/-
This file models what the client keeps of its backups: the catalog of backup files, which is
bounded and drops its oldest entries, the cleanup that deletes files, and the search for the base
of an incremental backup, which is why a file that was deleted may be missed.

An artifact is kept for its source and its age, and an incremental one can be restored only if
the file of its base is there. Nothing in the two operations compares the one with the other; the
last part says in which cases it goes well.
-/

import Ledgerly.IncrementalBackup
import Mathlib.Tactic.SplitIfs
import Mathlib.Logic.Function.Basic

namespace Ledgerly

/-! ### The catalog -/

/-- What a backup holds. -/
inductive BackupArtifactKind
  | full
  | incremental
  | encrypted
  deriving DecidableEq

/-- Who has asked for a backup. -/
inductive BackupArtifactSource
  | manual
  | automatic
  | safety
  deriving DecidableEq

/-- An entry of the catalog. -/
structure BackupArtifact where
  backupId : String
  path : String
  createdAt : Int
  kind : BackupArtifactKind
  source : BackupArtifactSource
  sizeBytes : Int
  baseBackupId : Option String := none
  deriving DecidableEq

/-- The size that the catalog is cut to. -/
def targetSize : Nat := 100

/-- The backups that the user has asked for, -/
def manualArtifacts (artifacts : List BackupArtifact) : List BackupArtifact :=
  artifacts.filter fun artifact => artifact.source = .manual

/-- and the others. -/
def nonManualArtifacts (artifacts : List BackupArtifact) : List BackupArtifact :=
  artifacts.filter fun artifact => artifact.source ≠ .manual

/-- The artifacts beside the manual ones for which there is room. -/
def roomyArtifacts (artifacts : List BackupArtifact) : List BackupArtifact :=
  (nonManualArtifacts artifacts).take (targetSize - (manualArtifacts artifacts).length)

/-- What the catalog can hold: no more than it has room for, beside the manual artifacts. -/
def FitsCatalog (artifacts : List BackupArtifact) : Prop :=
  artifacts.length ≤ targetSize ∨ nonManualArtifacts artifacts = []

theorem length_manual_add_nonManual (artifacts : List BackupArtifact) :
    (manualArtifacts artifacts).length + (nonManualArtifacts artifacts).length =
      artifacts.length := by
  have others : nonManualArtifacts artifacts =
      artifacts.filter fun artifact => !decide (artifact.source = .manual) := by
    refine List.filter_congr fun artifact _ => ?_
    rw [decide_not]
  rw [others]
  exact (List.length_eq_length_filter_add _).symm

theorem FitsCatalog.filter {artifacts : List BackupArtifact} (fits : FitsCatalog artifacts)
    (keep : BackupArtifact → Bool) : FitsCatalog (artifacts.filter keep) := by
  rcases fits with short | allManual
  · exact Or.inl ((List.length_filter_le _ _).trans short)
  · right
    rw [nonManualArtifacts, List.filter_eq_nil_iff] at allManual ⊢
    exact fun artifact member => allManual artifact (List.mem_of_mem_filter member)

/-- `List.sort` of Dart with the comparison by `createdAt`, the newest first. Which of two
artifacts of one instant comes first is not specified. -/
class ArtifactSort where
  sort : List BackupArtifact → List BackupArtifact
  sort_perm : ∀ artifacts, (sort artifacts).Perm artifacts
  sort_sorted : ∀ artifacts, (sort artifacts).Pairwise fun one two => two.createdAt ≤ one.createdAt

variable [ArtifactSort]

theorem mem_sort {artifact : BackupArtifact} {artifacts : List BackupArtifact} :
    artifact ∈ ArtifactSort.sort artifacts ↔ artifact ∈ artifacts :=
  (ArtifactSort.sort_perm artifacts).mem_iff

/-- `_bounded`. -/
def boundedArtifacts (artifacts : List BackupArtifact) : List BackupArtifact :=
  if targetSize ≤ (manualArtifacts artifacts).length then manualArtifacts artifacts
  else ArtifactSort.sort (manualArtifacts artifacts ++ roomyArtifacts artifacts)

theorem mem_boundedArtifacts {artifact : BackupArtifact} {artifacts : List BackupArtifact} :
    artifact ∈ boundedArtifacts artifacts ↔
      artifact ∈ manualArtifacts artifacts ∨ artifact ∈ roomyArtifacts artifacts := by
  unfold boundedArtifacts
  split_ifs with full
  · have noRoom : roomyArtifacts artifacts = [] := by
      rw [roomyArtifacts, Nat.sub_eq_zero_of_le full, List.take_zero]
    rw [noRoom]
    exact ⟨Or.inl, fun member => member.resolve_right List.not_mem_nil⟩
  · rw [mem_sort, List.mem_append]

theorem mem_of_mem_boundedArtifacts {artifact : BackupArtifact} {artifacts : List BackupArtifact}
    (member : artifact ∈ boundedArtifacts artifacts) : artifact ∈ artifacts := by
  rcases mem_boundedArtifacts.mp member with manual | roomy
  · exact List.mem_of_mem_filter manual
  · exact List.mem_of_mem_filter (List.mem_of_mem_take roomy)

theorem fitsCatalog_boundedArtifacts (artifacts : List BackupArtifact) :
    FitsCatalog (boundedArtifacts artifacts) := by
  unfold boundedArtifacts
  split_ifs with full
  · refine Or.inr (List.filter_eq_nil_iff.mpr fun artifact member => ?_)
    have manual : artifact.source = .manual := by
      simpa using (List.mem_filter.mp member).2
    simpa using manual
  · left
    rw [(ArtifactSort.sort_perm _).length_eq, List.length_append, roomyArtifacts]
    have taken := List.length_take_le
      (targetSize - (manualArtifacts artifacts).length) (nonManualArtifacts artifacts)
    omega

/-- In a list that fits, nothing has to go. -/
theorem mem_boundedArtifacts_of_fits {artifact : BackupArtifact} {artifacts : List BackupArtifact}
    (fits : FitsCatalog artifacts) :
    artifact ∈ boundedArtifacts artifacts ↔ artifact ∈ artifacts := by
  refine ⟨mem_of_mem_boundedArtifacts, fun member => mem_boundedArtifacts.mpr ?_⟩
  by_cases manual : artifact.source = .manual
  · exact Or.inl (List.mem_filter.mpr ⟨member, by simpa using manual⟩)
  · have nonManual : artifact ∈ nonManualArtifacts artifacts :=
      List.mem_filter.mpr ⟨member, by simpa using manual⟩
    right
    rcases fits with short | allManual
    · have counted := length_manual_add_nonManual artifacts
      rwa [roomyArtifacts, List.take_of_length_le (by omega)]
    · rw [allManual] at nonManual
      exact absurd nonManual List.not_mem_nil

theorem FitsCatalog.sort {artifacts : List BackupArtifact} (fits : FitsCatalog artifacts) :
    FitsCatalog (ArtifactSort.sort artifacts) := by
  rcases fits with short | allManual
  · exact Or.inl ((ArtifactSort.sort_perm artifacts).length_eq ▸ short)
  · right
    rw [nonManualArtifacts, List.filter_eq_nil_iff] at allManual ⊢
    exact fun artifact member => allManual artifact (mem_sort.mp member)

/-- The inventory of backup files, as it was last saved. -/
structure BackupCatalogStore where
  saved : List BackupArtifact
  fits : FitsCatalog saved

namespace BackupCatalogStore

variable (catalog : BackupCatalogStore)

/-- The catalog, newest first. -/
def read : List BackupArtifact := ArtifactSort.sort catalog.saved

/-- `_save` of what `_bounded` leaves. -/
def saveBounded (artifacts : List BackupArtifact) : BackupCatalogStore :=
  ⟨boundedArtifacts artifacts, fitsCatalog_boundedArtifacts artifacts⟩

/-- What `upsert` bounds: the artifact takes the place of every entry with its id or its path. -/
def withArtifact (artifact : BackupArtifact) : List BackupArtifact :=
  ArtifactSort.sort ((catalog.read.filter fun item =>
    ¬(item.backupId = artifact.backupId ∨ item.path = artifact.path)) ++ [artifact])

/-- A backup is entered, in the place of one with its path. -/
def upsert (artifact : BackupArtifact) : BackupCatalogStore :=
  saveBounded (catalog.withArtifact artifact)

/-- The entry with a path is removed. -/
def removeByPath (path : String) : BackupCatalogStore :=
  saveBounded (catalog.read.filter fun item => item.path ≠ path)

theorem mem_read {artifact : BackupArtifact} :
    artifact ∈ catalog.read ↔ artifact ∈ catalog.saved := mem_sort

theorem mem_removeByPath {artifact : BackupArtifact} (path : String) :
    artifact ∈ (catalog.removeByPath path).read ↔
      artifact ∈ catalog.read ∧ artifact.path ≠ path := by
  have fits : FitsCatalog (catalog.read.filter fun item => item.path ≠ path) :=
    catalog.fits.sort.filter _
  rw [mem_read, removeByPath, saveBounded, mem_boundedArtifacts_of_fits fits, List.mem_filter,
    decide_eq_true_eq]

theorem mem_upsert {artifact entry : BackupArtifact} :
    entry ∈ (catalog.upsert artifact).read ↔
      entry ∈ manualArtifacts (catalog.withArtifact artifact) ∨
        entry ∈ roomyArtifacts (catalog.withArtifact artifact) := by
  rw [mem_read, upsert, saveBounded, mem_boundedArtifacts]

end BackupCatalogStore

/-! ### The device -/

/-- The keys of the metadata that name a file. -/
structure BackupMetadata where
  lastBackupPath : Option String := none
  baseBackupId : Option String := none
  baseBackupPath : Option String := none

/-- A backup file that can be read: whether it was sealed with a password, and the document
that unlocking it gives. -/
structure BackupFile where
  isEncrypted : Bool
  document : BackupDocument

/-- What the backups of a device rest on. A file that is there may be damaged; then reading it
throws an error with some text. The audits are their safety paths, in the order of `read`. -/
structure BackupDevice where
  catalog : BackupCatalogStore
  metadata : BackupMetadata
  audits : List (Option String)
  files : String → Option (Except String BackupFile)

/-- A document that names a base is an incremental one. -/
def BackupDocument.isIncremental (document : BackupDocument) : Bool := document.baseBackupId.isSome

namespace BackupDevice

variable (device : BackupDevice)

/-- The file of a backup. -/
def readBackup (source : String) : Except String BackupFile :=
  match device.files source with
  | none => .error ("BackupFormatException: 备份文件不存在：" ++ source)
  | some stored => stored

/-- The file of a backup is deleted. -/
def deleteBackup (source : String) : BackupDevice :=
  { device with files := Function.update device.files source none }

/-! ### The base of an incremental backup -/

/-- The files that `_materializeCatalogIncremental` looks at. -/
def basePaths (baseId : String) : List String :=
  (if device.metadata.baseBackupId = some baseId then device.metadata.baseBackupPath.toList
    else []) ++
  (device.catalog.read.filter fun artifact => artifact.backupId = baseId).map BackupArtifact.path

/-- The loop over the files, with the text of the last error. -/
def materializeFrom (document : BackupDocument) (baseId : String) :
    List String → String → Except BackupError BackupDocument
  | [], lastError => .error ("增量备份的基础文件不可读：" ++ lastError)
  | basePath :: rest, _ =>
    match device.readBackup basePath with
    | .error error => materializeFrom document baseId rest error
    | .ok base =>
      if base.isEncrypted || base.document.isIncremental || base.document.backupId ≠ some baseId then
        materializeFrom document baseId rest "BackupFormatException: 增量备份的基础文件无效。"
      else
        match applyIncremental base.document document with
        | .ok full => .ok full
        | .error error => materializeFrom document baseId rest ("BackupFormatException: " ++ error)

/-- `_materializeCatalogIncremental`. -/
def materializeCatalogIncremental (document : BackupDocument) :
    Except BackupError BackupDocument :=
  match document.baseBackupId with
  | none => .ok document
  | some baseId =>
    if (device.basePaths baseId).isEmpty then
      .error "目录中没有该增量备份依赖的基础文件，无法恢复。"
    else device.materializeFrom document baseId (device.basePaths baseId) "null"

/-! ### The cleanup -/

/-- The safety copy of the last restore that made one. -/
def latestAuditSafetyPath : Option String := device.audits.findSome? id

/-- The paths that the loop over the artifacts keeps, with how many automatic and safety
artifacts are still to keep. -/
def keptBySource : List BackupArtifact → Int → Int → List String
  | [], _, _ => []
  | artifact :: rest, automatic, safety =>
    match artifact.source with
    | .manual => artifact.path :: keptBySource rest automatic safety
    | .automatic =>
      if 0 < automatic then artifact.path :: keptBySource rest (automatic - 1) safety
      else keptBySource rest automatic safety
    | .safety =>
      if 0 < safety then artifact.path :: keptBySource rest automatic (safety - 1)
      else keptBySource rest automatic safety

/-- `keepPaths`. -/
def keepPaths (keepAutomatic keepSafety : Int) : List String :=
  device.metadata.lastBackupPath.toList ++ device.metadata.baseBackupPath.toList ++
    device.latestAuditSafetyPath.toList ++
    keptBySource device.catalog.read (if keepAutomatic < 0 then 0 else keepAutomatic)
      (if keepSafety < 0 then 0 else keepSafety)

/-- How the deletion of a file and of its entry ends: both succeed, `deleteBackup` throws, or the
file is gone and `removeByPath` throws. -/
inductive Deletion
  | done
  | failed
  | unlisted
  deriving DecidableEq

/-- What a clean-up has done. -/
structure BackupCleanupResult where
  deletedCount : Int
  freedBytes : Int
  failedCount : Int

/-- One round of the loop that deletes. -/
def cleanupRound (keep : List String) (deletion : Nat → Deletion)
    (state : BackupDevice × BackupCleanupResult) (round : BackupArtifact × Nat) :
    BackupDevice × BackupCleanupResult :=
  if round.1.path ∈ keep then state
  else
    match deletion round.2 with
    | .done =>
      ({ state.1.deleteBackup round.1.path with
          catalog := state.1.catalog.removeByPath round.1.path },
        { state.2 with
          deletedCount := state.2.deletedCount + 1
          freedBytes := state.2.freedBytes + round.1.sizeBytes })
    | .failed => (state.1, { state.2 with failedCount := state.2.failedCount + 1 })
    | .unlisted =>
      (state.1.deleteBackup round.1.path, { state.2 with failedCount := state.2.failedCount + 1 })

/-- The rounds of the loop, with their numbers. -/
def cleanupRounds : List (BackupArtifact × Nat) := device.catalog.read.zipIdx

/-- Every backup that is not to be kept is deleted, file and entry. -/
def cleanupBackups (keepAutomatic keepSafety : Int) (deletion : Nat → Deletion) :
    BackupDevice × BackupCleanupResult :=
  device.cleanupRounds.foldl (cleanupRound (device.keepPaths keepAutomatic keepSafety) deletion)
    (device, { deletedCount := 0, freedBytes := 0, failedCount := 0 })

end BackupDevice

end Ledgerly
