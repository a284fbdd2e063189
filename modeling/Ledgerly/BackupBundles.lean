/-
This file models the bundles that the server keeps its backups in: which directories of a root are
bundles, in which order they come, the newest one, and the cleanup that keeps so many of them.

A root is read without following its own entries if they are symbolic links, but the manifest of a
bundle is read wherever it leads. The cleanup measures every bundle before it removes the first, and
refuses if a symbolic link is in one of them.
-/

import Ledgerly.BackupFiles
import Ledgerly.SyncMutation
import Ledgerly.Library.FileSystem
import Ledgerly.Library.Keyset
import Ledgerly.Library.Partial
import Mathlib.Data.Prod.Lex
import Mathlib.Data.String.Basic

namespace Ledgerly

/-- The disk of the server. -/
abbrev BackupDisk := FileSystem String (List UInt8)

/-! ### Manifests -/

/-- `BackupBundleManifest`, of its encryption whether it is there, and of its files the paths of
their payloads. -/
structure BackupBundleManifest where
  kind : String
  schemaVersion : Nat
  createdAt : String
  encrypted : Bool
  encryption : Bool
  fileCount : Nat
  payloadPaths : List String

/-- `serde_json::from_slice` of a manifest. -/
class ManifestText where
  decode : List UInt8 → Option BackupBundleManifest

/-- What `read_manifest` demands of a manifest. -/
def BackupBundleManifest.readable (manifest : BackupBundleManifest) : Bool :=
  manifest.kind = "ledgerly-server-backup-bundle" &&
    !(manifest.schemaVersion < 1 || manifest.schemaVersion > 2) &&
    manifest.fileCount = manifest.payloadPaths.length && manifest.encrypted = manifest.encryption

/-- The length of a file. -/
def nodeSize : FileNode String (List UInt8) → Nat
  | .file content => content.length
  | _ => 0

/-- `directory_size`: the bytes of the files in a directory and beneath it, unless a symbolic link
is among them. -/
def directorySize (disk : BackupDisk) (root : List String) : Option Nat :=
  let inside := disk.nodes.entries.filter fun entry => root <+: entry.1
  if inside.any fun entry => entry.2.isSymlink then none
  else some (inside.map fun entry => nodeSize entry.2).sum

section Bundles

variable [ManifestText]

/-- `read_manifest`. -/
def readManifest (disk : BackupDisk) (bundleDir : List String) : Option BackupBundleManifest :=
  ((disk.read (bundleDir ++ ["manifest.json"])).bind ManifestText.decode).filter
    BackupBundleManifest.readable

/-- A bundle of a root, as it is ranked. -/
structure RankedBundle where
  name : String
  createdAt : Timestamp
  manifest : BackupBundleManifest

omit [ManifestText] in
/-- The later bundle comes first, and of bundles of one instant the one of the greater path. -/
def RankedBundle.rank (bundle : RankedBundle) : Int ×ₗ String :=
  toLex (bundle.createdAt.val, bundle.name)

variable [Rfc3339]

/-- An entry of a root, if it is a directory with a manifest that can be read. -/
def rankedBundle (disk : BackupDisk) (root : List String) (name : String) : Option RankedBundle :=
  if disk.lookup (root ++ [name]) = some .directory then
    (readManifest disk (root ++ [name])).bind fun manifest =>
      (Rfc3339.parse manifest.createdAt).map fun createdAt => ⟨name, createdAt, manifest⟩
  else none

/-- The bundles of a root. -/
def validBundles (disk : BackupDisk) (root : List String) : List RankedBundle :=
  (disk.entries root).filterMap (rankedBundle disk root)

/-! ### The newest bundle -/

/-- What the list of bundles says of one. -/
structure BackupBundleSummary where
  path : List String
  createdAt : String
  fileCount : Nat

/-- The bundles of a root in the order of `find_latest_backup_bundle`. -/
def sortedBundles (disk : BackupDisk) (root : List String) : List RankedBundle :=
  (validBundles disk root).insertionSort fun one two => two.rank ≤ one.rank

/-- `find_latest_backup_bundle`. -/
def findLatestBackupBundle (disk : BackupDisk) (root : List String) : Option BackupBundleSummary :=
  if disk.lookup root = some .directory then
    (sortedBundles disk root).head?.map fun bundle =>
      ⟨root ++ [bundle.name], bundle.manifest.createdAt, bundle.manifest.fileCount⟩
  else none

/-! ### The cleanup -/

/-- What a clean-up has removed and kept. -/
structure BackupBundleCleanupReport where
  deletedCount : Nat
  keptCount : Nat
  freedBytes : Nat

/-- `cleanup_backup_bundles`, where the directories it removes can be removed. -/
def cleanupBackupBundles (disk : BackupDisk) (root : List String) (keep : Nat) :
    Option (BackupDisk × BackupBundleCleanupReport) :=
  if keep = 0 then none
  else if disk.lookup root ≠ some .directory then none
  else do
    let bundles ← (validBundles disk root).mapM fun bundle =>
      (directorySize disk (root ++ [bundle.name])).map fun size => (bundle, size)
    let bundles := bundles.insertionSort fun one two => two.1.rank ≤ one.1.rank
    let old := bundles.drop keep
    return ((old.map fun bundle => bundle.1.name).foldl (fun disk name => disk.removeEntry root name)
      disk,
      { deletedCount := old.length
        keptCount := min bundles.length keep
        freedBytes := (old.map Prod.snd).sum })

/-! ### Bundles of a root -/

variable {disk : BackupDisk} {root : List String}

theorem rankedBundle_eq_some_iff {name : String} {bundle : RankedBundle} :
    rankedBundle disk root name = some bundle ↔
      bundle.name = name ∧ disk.lookup (root ++ [name]) = some .directory ∧
        readManifest disk (root ++ [name]) = some bundle.manifest ∧
        Rfc3339.parse bundle.manifest.createdAt = some bundle.createdAt := by
  unfold rankedBundle
  constructor
  · intro ranked
    split at ranked
    · rename_i directory
      obtain ⟨manifest, read, dated⟩ := Option.bind_eq_some_iff.mp ranked
      obtain ⟨createdAt, parsed, rfl⟩ := Option.map_eq_some_iff.mp dated
      exact ⟨rfl, directory, read, parsed⟩
    · cases ranked
  · rintro ⟨rfl, directory, read, parsed⟩
    rw [if_pos directory, read, Option.bind_some, parsed]
    rfl

/-- The bundles of a root are its directories with a readable manifest that has a date. -/
theorem mem_validBundles_iff {bundle : RankedBundle} :
    bundle ∈ validBundles disk root ↔ rankedBundle disk root bundle.name = some bundle := by
  rw [validBundles, List.mem_filterMap]
  constructor
  · rintro ⟨name, -, ranked⟩
    obtain ⟨rfl, -⟩ := rankedBundle_eq_some_iff.mp ranked
    exact ranked
  · intro ranked
    obtain ⟨-, directory, -⟩ := rankedBundle_eq_some_iff.mp ranked
    exact ⟨bundle.name, FileSystem.mem_entries_iff.mpr (Option.isSome_of_eq_some directory), ranked⟩

/-- The bundles of a root have different names. -/
theorem validBundles_apart (disk : BackupDisk) (root : List String) :
    (validBundles disk root).Pairwise fun one two => one.name ≠ two.name := by
  refine List.Pairwise.filterMap _ (fun one two apart bundle first other second => ?_)
    (disk.entries_nodup root)
  rw [(rankedBundle_eq_some_iff.mp first).1, (rankedBundle_eq_some_iff.mp second).1]
  exact apart

theorem ranks_nodup (disk : BackupDisk) (root : List String) :
    ((validBundles disk root).map fun bundle => id bundle.rank).Nodup := by
  refine List.pairwise_map.mpr ((validBundles_apart disk root).imp fun apart same => apart ?_)
  exact (Prod.mk.inj (toLex_inj.mp same)).2

/-- The sorted bundles come in strictly descending order. -/
theorem sortedBundles_descending (disk : BackupDisk) (root : List String) :
    Keyset.Descending RankedBundle.rank id (sortedBundles disk root) :=
  Keyset.descending_descend (ranks_nodup disk root)

theorem sortedBundles_perm (disk : BackupDisk) (root : List String) :
    (sortedBundles disk root).Perm (validBundles disk root) := List.perm_insertionSort _ _

theorem mem_sortedBundles_iff {bundle : RankedBundle} :
    bundle ∈ sortedBundles disk root ↔ rankedBundle disk root bundle.name = some bundle :=
  (sortedBundles_perm disk root).mem_iff.trans mem_validBundles_iff

end Bundles

end Ledgerly
