/-
This file proves what a cleanup of bundles that succeeds leaves: the newest ones in the order in
which the newest of all is looked for, and everything that is no bundle.

A bundle that is measured has no symbolic link in it, so its manifest is a file of its own and stays
readable, whatever is removed beside it; and a removal makes nothing readable that was not.
-/

import Ledgerly.BackupBundles
import Ledgerly.MemoryStep

namespace Ledgerly

/-! ### Sizes -/

/-- No symbolic link is in a directory that is measured. -/
theorem no_symlink_of_measured {disk : BackupDisk} {dir path target : List String}
    (measured : (directorySize disk dir).isSome) (inside : dir <+: path) :
    disk.lookup path ≠ some (.symlink target) := by
  intro link
  have found : (disk.nodes.entries.filter fun entry => dir <+: entry.1).any
      fun entry => entry.2.isSymlink := by
    refine List.any_eq_true.mpr ⟨⟨path, .symlink target⟩, ?_, rfl⟩
    exact List.mem_filter.mpr ⟨AList.mem_lookup_iff.mp link, decide_eq_true inside⟩
  unfold directorySize at measured
  dsimp only at measured
  rw [if_pos found] at measured
  cases measured

/-- A directory is as large as before when others beside it are removed. -/
theorem directorySize_removeEntries {root : List String} {name : String} {names : List String}
    (kept : name ∉ names) (disk : BackupDisk) :
    directorySize (names.foldl (fun disk name => disk.removeEntry root name) disk) (root ++ [name]) =
      directorySize disk (root ++ [name]) := by
  induction names generalizing disk with
  | nil => rfl
  | cons other rest inductionHypothesis =>
    rw [List.mem_cons, not_or] at kept
    rw [List.foldl_cons, inductionHypothesis kept.2]
    have inside : (disk.removeEntry root other).nodes.entries.filter
          (fun entry => root ++ [name] <+: entry.1) =
        disk.nodes.entries.filter fun entry => root ++ [name] <+: entry.1 := by
      show (disk.nodes.entries.filter _).filter _ = _
      rw [List.filter_filter]
      refine List.filter_congr fun entry _ => ?_
      rw [Bool.and_eq_left_iff_imp, decide_eq_true_eq, decide_eq_true_eq]
      intro beneath removed
      have same := List.prefix_of_prefix_length_le beneath removed (by simp)
      have equal := same.eq_of_length (by simp)
      exact kept.1 (List.singleton_inj.mp (List.append_cancel_left equal))
    unfold directorySize
    rw [inside]

section Retention

variable [ManifestText] [Rfc3339] {disk after : BackupDisk} {root : List String} {keep : Nat}
  {report : BackupBundleCleanupReport}

/-! ### What a cleanup does -/

/-- The names of the bundles beyond those that are kept. -/
def oldNames (disk : BackupDisk) (root : List String) (keep : Nat) : List String :=
  ((sortedBundles disk root).drop keep).map RankedBundle.name

/-- A cleanup succeeds if something is kept, the root is a directory and every bundle can be
measured; then it removes the bundles beyond those that are kept. -/
theorem cleanup_eq_some_iff :
    cleanupBackupBundles disk root keep = some (after, report) ↔
      keep ≠ 0 ∧ disk.lookup root = some .directory ∧
        (∀ bundle ∈ validBundles disk root,
          (directorySize disk (root ++ [bundle.name])).isSome) ∧
        after = (oldNames disk root keep).foldl (fun disk name => disk.removeEntry root name) disk ∧
        report =
          { deletedCount := ((sortedBundles disk root).drop keep).length
            keptCount := min (sortedBundles disk root).length keep
            freedBytes := (((sortedBundles disk root).drop keep).map fun bundle =>
              (directorySize disk (root ++ [bundle.name])).getD 0).sum } := by
  -- the pairs of bundles and sizes are sorted as the bundles are
  have sorted : ((validBundles disk root).map fun bundle =>
        (bundle, (directorySize disk (root ++ [bundle.name])).getD 0)).insertionSort
          (fun one two => two.1.rank ≤ one.1.rank) =
      (sortedBundles disk root).map fun bundle =>
        (bundle, (directorySize disk (root ++ [bundle.name])).getD 0) :=
    (List.map_insertionSort _ _ (fun bundle : RankedBundle =>
      (bundle, (directorySize disk (root ++ [bundle.name])).getD 0)) _ fun _ _ _ _ => Iff.rfl).symm
  have made : ∀ pairs, ((validBundles disk root).mapM fun bundle =>
      (directorySize disk (root ++ [bundle.name])).map fun size => (bundle, size)) = some pairs ↔ _ :=
    fun pairs => List.mapM_pair_eq_some_iff 0
  unfold cleanupBackupBundles
  by_cases zero : keep = 0
  · rw [if_pos zero]
    exact ⟨nofun, fun all => absurd zero all.1⟩
  · rw [if_neg zero]
    by_cases directory : disk.lookup root = some .directory
    · rw [if_neg (not_not.mpr directory)]
      constructor
      · intro success
        obtain ⟨pairs, measured, rest⟩ := Option.bind_eq_some_iff.mp success
        obtain ⟨all, rfl⟩ := (made pairs).mp measured
        dsimp only at rest
        rw [sorted, ← List.map_drop, List.map_map, List.map_map, List.length_map,
          List.length_map] at rest
        obtain ⟨rfl, rfl⟩ := Prod.mk.inj (Option.some.inj rest)
        exact ⟨zero, directory, all, rfl, rfl⟩
      · rintro ⟨-, -, all, rfl, rfl⟩
        refine Option.bind_eq_some_iff.mpr ⟨_, (made _).mpr ⟨all, rfl⟩, ?_⟩
        dsimp only
        rw [sorted, ← List.map_drop, List.map_map, List.map_map, List.length_map,
          List.length_map]
        rfl
    · rw [if_pos directory]
      exact ⟨nofun, fun all => absurd all.2.1 directory⟩

section Success

variable (success : cleanupBackupBundles disk root keep = some (after, report))

include success

/-- Nothing is removed but what lies in the bundles beyond those that are kept. -/
theorem lookup_cleaned (path : List String) :
    after.lookup path =
      if ∃ bundle ∈ (sortedBundles disk root).drop keep, root ++ [bundle.name] <+: path then none
      else disk.lookup path := by
  obtain ⟨-, -, -, rfl, -⟩ := cleanup_eq_some_iff.mp success
  rw [FileSystem.lookup_removeEntries]
  simp only [oldNames, List.mem_map, exists_exists_and_eq_and]

theorem leftOf_cleaned : after.LeftOf disk := by
  intro path
  rw [lookup_cleaned success]
  split
  · exact Or.inl rfl
  · exact Or.inr rfl

/-- What lies in an entry whose name is kept is as it was. -/
theorem lookup_cleaned_of_kept {name : String} (kept : name ∉ oldNames disk root keep)
    {path : List String} (inside : root ++ [name] <+: path) :
    after.lookup path = disk.lookup path := by
  rw [lookup_cleaned success, if_neg]
  rintro ⟨bundle, old, beneath⟩
  have same := List.prefix_of_prefix_length_le inside beneath (by simp)
  have equal := List.singleton_inj.mp (List.append_cancel_left (same.eq_of_length (by simp)))
  exact kept (List.mem_map.mpr ⟨bundle, old, equal.symm⟩)

/-- The bundles afterwards are those whose names are kept. -/
theorem rankedBundle_cleaned {name : String} {bundle : RankedBundle} :
    rankedBundle after root name = some bundle ↔
      name ∉ oldNames disk root keep ∧ rankedBundle disk root name = some bundle := by
  have measured := (cleanup_eq_some_iff.mp success).2.2.1
  constructor
  · intro ranked
    obtain ⟨named, directory, read, dated⟩ := rankedBundle_eq_some_iff.mp ranked
    have kept : name ∉ oldNames disk root keep := by
      intro old
      obtain ⟨other, isOld, same⟩ := List.mem_map.mp old
      rw [lookup_cleaned success, if_pos ⟨other, isOld, same ▸ List.prefix_rfl⟩]
        at directory
      cases directory
    refine ⟨kept, rankedBundle_eq_some_iff.mpr ⟨named, ?_, ?_, dated⟩⟩
    · rw [← lookup_cleaned_of_kept success kept List.prefix_rfl]
      exact directory
    · obtain ⟨decoded, accepted⟩ := Option.filter_eq_some_iff.mp read
      obtain ⟨bytes, found, meaning⟩ := Option.bind_eq_some_iff.mp decoded
      rw [readManifest, (leftOf_cleaned success).read found, Option.bind_some, meaning]
      exact Option.filter_eq_some_iff.mpr ⟨rfl, accepted⟩
  · rintro ⟨kept, ranked⟩
    obtain ⟨rfl, directory, read, dated⟩ := rankedBundle_eq_some_iff.mp ranked
    have stays := lookup_cleaned_of_kept success kept (List.prefix_refl _)
    refine rankedBundle_eq_some_iff.mpr ⟨rfl, stays.trans directory, ?_, dated⟩
    have manifest := lookup_cleaned_of_kept success kept
      (List.prefix_append (root ++ [bundle.name]) ["manifest.json"])
    have plain := fun target => @no_symlink_of_measured disk (root ++ [bundle.name])
      (root ++ [bundle.name] ++ ["manifest.json"]) target
      (measured bundle (mem_validBundles_iff.mpr ranked)) (List.prefix_append _ _)
    -- the manifest is a file of the bundle, so it is read where it was
    rw [readManifest, disk.read_entry _ directory] at read
    rw [readManifest, after.read_entry _ (stays.trans directory), manifest]
    cases node : disk.lookup (root ++ [bundle.name] ++ ["manifest.json"]) with
    | none =>
      rw [node, Option.bind_none] at read
      rw [Option.bind_none]
      exact read
    | some node' =>
      rw [node, Option.bind_some] at read
      rw [Option.bind_some]
      cases node' with
      | directory =>
        rw [FileNode.content] at read ⊢
        exact read
      | file content =>
        rw [FileNode.content] at read ⊢
        exact read
      | symlink target => exact absurd node (plain target)

/-- The sorted bundles afterwards are the first ones of those before. -/
theorem sortedBundles_cleaned :
    sortedBundles after root = (sortedBundles disk root).take keep := by
  have descending := sortedBundles_descending disk root
  have apart := List.pairwise_append.mp
    ((List.take_append_drop keep (sortedBundles disk root)).symm ▸
      (sortedBundles_perm disk root).symm.pairwise (validBundles_apart disk root) fun different =>
        different.symm)
  have newest : Keyset.Descending RankedBundle.rank id ((sortedBundles disk root).take keep) :=
    descending.sublist (List.take_sublist _ _)
  have nodup : ∀ {bundles : List RankedBundle},
      Keyset.Descending RankedBundle.rank id bundles → bundles.Nodup :=
    fun inOrder => inOrder.imp fun below same => absurd (same ▸ below) (lt_irrefl _)
  refine (sortedBundles_descending after root).eq_of_perm newest
    ((List.perm_ext_iff_of_nodup (nodup (sortedBundles_descending after root)) (nodup newest)).mpr
      fun bundle => ?_)
  rw [mem_sortedBundles_iff, rankedBundle_cleaned success, ← mem_sortedBundles_iff]
  constructor
  · rintro ⟨kept, member⟩
    rw [← List.take_append_drop keep (sortedBundles disk root), List.mem_append] at member
    exact member.resolve_right fun old => kept (List.mem_map_of_mem old)
  · intro kept
    refine ⟨fun old => ?_, List.mem_of_mem_take kept⟩
    obtain ⟨other, isOld, same⟩ := List.mem_map.mp old
    exact apart.2.2 bundle kept other isOld same.symm

end Success

/-- A cleanup that succeeds leaves the newest bundles, as many as are kept, and everything else that
is no bundle; it reports what it has deleted and kept, the newest bundle of all is the one it was,
and a second cleanup deletes nothing. -/
theorem cleanup_keeps_newest
    (success : cleanupBackupBundles disk root keep = some (after, report)) :
    sortedBundles after root = (sortedBundles disk root).take keep ∧
      (∀ path, after.lookup path =
        if ∃ bundle ∈ (sortedBundles disk root).drop keep, root ++ [bundle.name] <+: path then none
        else disk.lookup path) ∧
      report =
        { deletedCount := ((sortedBundles disk root).drop keep).length
          keptCount := (sortedBundles after root).length
          freedBytes := (((sortedBundles disk root).drop keep).map fun bundle =>
            (directorySize disk (root ++ [bundle.name])).getD 0).sum } ∧
      findLatestBackupBundle after root = findLatestBackupBundle disk root ∧
      cleanupBackupBundles after root keep =
        some (after, { deletedCount := 0, keptCount := report.keptCount, freedBytes := 0 }) := by
  have newest := sortedBundles_cleaned success
  obtain ⟨positive, directory, measured, isAfter, isReport⟩ := cleanup_eq_some_iff.mp success
  have rootStays : after.lookup root = some .directory := by
    rw [lookup_cleaned success, if_neg]
    · exact directory
    · rintro ⟨bundle, -, above⟩
      have longer := above.length_le
      rw [List.length_append, List.length_singleton] at longer
      omega
  have count : (sortedBundles after root).length = min (sortedBundles disk root).length keep := by
    rw [newest, List.length_take, min_comm]
  refine ⟨newest, lookup_cleaned success, by rw [isReport, count], ?_, ?_⟩
  · obtain ⟨more, rfl⟩ := Nat.exists_eq_succ_of_ne_zero positive
    rw [findLatestBackupBundle, findLatestBackupBundle, if_pos rootStays, if_pos directory, newest,
      List.head?_take, if_neg positive]
  · have none : (sortedBundles after root).drop keep = [] := by
      rw [newest, List.drop_eq_nil_iff]
      exact List.length_take_le _ _
    have stillMeasured : ∀ bundle ∈ validBundles after root,
        (directorySize after (root ++ [bundle.name])).isSome := by
      intro bundle member
      obtain ⟨kept, ranked⟩ := (rankedBundle_cleaned success).mp (mem_validBundles_iff.mp member)
      rw [isAfter, directorySize_removeEntries kept]
      exact measured bundle (mem_validBundles_iff.mpr ranked)
    refine cleanup_eq_some_iff.mpr ⟨positive, rootStays, stillMeasured, ?_, ?_⟩
    · rw [oldNames, none]
      rfl
    · rw [none, isReport, count]
      simp

end Retention

/-- A reader that knows two manifests, of one date. -/
@[reducible] def twoManifests : ManifestText where
  decode bytes :=
    if bytes = [1] then
      some ⟨"ledgerly-server-backup-bundle", 1, "1970-01-01T00:00:00Z", false, false, 0, []⟩
    else if bytes = [2] then
      some ⟨"ledgerly-server-backup-bundle", 2, "1970-01-01T00:00:00Z", false, false, 0, []⟩
    else none

/-- A root with two bundles, a directory without a manifest and a symbolic link. -/
def mixedRoot : BackupDisk :=
  let root := FileSystem.empty.put [] "bundles" .directory
  let first := (root.put ["bundles"] "a" .directory).put ["bundles", "a"] "manifest.json" (.file [1])
  let second := (first.put ["bundles"] "b" .directory).put ["bundles", "b"] "manifest.json" (.file [2])
  (second.put ["bundles"] "c" .directory).put ["bundles"] "latest" (.symlink ["bundles", "a"])

/-- One of two bundles of one instant is kept, that of the greater path. -/
theorem mixedRoot_keeps_newest :
    let _ := epochClock
    let _ := twoManifests
    ∃ after report, cleanupBackupBundles mixedRoot ["bundles"] 1 = some (after, report) ∧
      sortedBundles after ["bundles"] = (sortedBundles mixedRoot ["bundles"]).take 1 ∧
      findLatestBackupBundle after ["bundles"] = findLatestBackupBundle mixedRoot ["bundles"] := by
  intro _ _
  have succeeds : (cleanupBackupBundles mixedRoot ["bundles"] 1).isSome = true := by
    decide +kernel
  obtain ⟨result, success⟩ := Option.isSome_iff_exists.mp succeeds
  obtain ⟨newest, -, -, latest, -⟩ :=
    @cleanup_keeps_newest _ _ mixedRoot result.1 ["bundles"] 1 result.2 success
  exact ⟨result.1, result.2, success, newest, latest⟩

end Ledgerly
