/-
This file models the backup of the objects in a directory, and proves that it succeeds exactly
where no name has a backslash, and that restoring it gives the same objects. Such a backup is a
directory of the objects with a manifest beside it, which has the size and the hash of each.

The backup takes the names as keys and checks them, and the restore takes the keys as names again;
a file system gives names that both keep as they are, but for the backslash.
-/

import Ledgerly.BundleRoundTrip

namespace Ledgerly

/-! ### Backing up -/

/-- `serde_json` for the manifest of the objects, with the time it was made. -/
class ObjectManifestWriter extends ObjectManifestText where
  encode : (createdAt : String) → ObjectStoreBackupManifest → List UInt8

/-- A manifest that was written is read. -/
def ObjectManifestsReadBack [ObjectManifestWriter] : Prop :=
  ∀ createdAt manifest,
    ObjectManifestText.decode (ObjectManifestWriter.encode createdAt manifest) = some manifest

/-- What is said of a backup of the objects. -/
structure ObjectStoreBackupReport where
  objectCount : Nat
  totalSizeBytes : Nat
  deriving DecidableEq

/-- `collect_files`: the objects with their keys. -/
def collectFiles (objects : Directory) : Except String (List (String × List UInt8)) :=
  objects.entries.mapM fun entry =>
    match validatedKey (joined entry.1) with
    | none => .error ("invalid object key: " ++ joined entry.1)
    | some key => .ok (key, entry.2)

/-- What the loop of `backup_object_store` has copied. -/
structure ObjectsCopied where
  backup : Directory := .empty
  objects : List StoredObjectMetadata := []
  totalSizeBytes : Nat := 0

section Backup

variable [Sha256]

/-- One round of the loop. What a copy finds may differ from what was read before it. -/
def copyObject (copied : String → List UInt8 → List UInt8) (written : ObjectsCopied)
    (file : String × List UInt8) : Except String ObjectsCopied :=
  match written.backup.create ("objects" :: segments file.1) (copied file.1 file.2) with
  | none => .error ("create object directory " ++ file.1)
  | some backup =>
    if metadataOf file.1 (copied file.1 file.2) ≠ metadataOf file.1 file.2 then
      .error ("object changed while backing up: " ++ file.1)
    else
      .ok
        { backup
          objects := written.objects ++ [metadataOf file.1 file.2]
          totalSizeBytes := written.totalSizeBytes + file.2.length }

variable [ObjectManifestWriter]

/-- `backup_object_store`, into an empty directory apart from the objects. -/
def backupObjectStore (copied : String → List UInt8 → List UInt8) (createdAt : String)
    (target : ObjectTarget) : Except String (Directory × ObjectStoreBackupReport) := do
  let files ←
    match target with
    | .missing => .ok []
    | .file => .error "read object directory"
    | .directory objects => collectFiles objects
  let written ← (files.insertionSort fun one two => one.1 ≤ two.1).foldlM (copyObject copied) {}
  let manifest : ObjectStoreBackupManifest :=
    { kind := "ledgerly-object-store-backup"
      schemaVersion := 1
      objectCount := written.objects.length
      totalSizeBytes := written.totalSizeBytes
      objects := written.objects }
  match written.backup.create ["manifest.json"] (ObjectManifestWriter.encode createdAt manifest) with
  | none => .error "write object store manifest"
  | some backup => .ok (backup, ⟨manifest.objectCount, manifest.totalSizeBytes⟩)

end Backup

/-! ### Manifests as JSON -/

/-- The entry about an object, as `serde` writes it, -/
def StoredObjectMetadata.toJson (object : StoredObjectMetadata) : Json := .obj
  [("key", .str object.key), ("sizeBytes", numberJson object.sizeBytes),
    ("sha256", .str object.sha256)]

/-- and as it is read. -/
def StoredObjectMetadata.fromJson : Json → Option StoredObjectMetadata
  | .obj json => do
    return {
      key := ← textField json "key"
      sizeBytes := ← natField json "sizeBytes"
      sha256 := ← textField json "sha256" }
  | _ => none

/-- The fields of a manifest, -/
def ObjectStoreBackupManifest.fields (createdAt : String) (manifest : ObjectStoreBackupManifest) :
    List (String × Json) :=
  [("kind", .str manifest.kind), ("schemaVersion", numberJson manifest.schemaVersion),
    ("createdAt", .str createdAt), ("objectCount", numberJson manifest.objectCount),
    ("totalSizeBytes", numberJson manifest.totalSizeBytes),
    ("objects", .arr (manifest.objects.map StoredObjectMetadata.toJson))]

/-- and the manifest that they give. -/
def ObjectStoreBackupManifest.fromFields (json : List (String × Json)) :
    Option ObjectStoreBackupManifest := do
  let .arr objects ← json.lookup "objects" | none
  let _createdAt ← textField json "createdAt"
  return {
    kind := ← textField json "kind"
    schemaVersion := ← natField json "schemaVersion"
    objectCount := ← natField json "objectCount"
    totalSizeBytes := ← natField json "totalSizeBytes"
    objects := ← objects.mapM StoredObjectMetadata.fromJson }

/-- The manifest that a text gives. -/
def ObjectStoreBackupManifest.fromText (bytes : List UInt8) : Option ObjectStoreBackupManifest :=
  match readJsonFile bytes "" "" with
  | .ok json => fromFields json
  | .error _ => none

/-- Manifests as JSON. -/
@[reducible] def jsonObjectManifest : ObjectManifestWriter where
  decode := ObjectStoreBackupManifest.fromText
  encode createdAt manifest := jsonFile (manifest.fields createdAt)

theorem StoredObjectMetadata.wellFormed_toJson (object : StoredObjectMetadata) :
    object.toJson.WellFormed := by
  have keys : ["key", "sizeBytes", "sha256"].Nodup := by decide
  exact ⟨keys, trivial, Json.wellFormed_ofInt _, trivial, trivial⟩

theorem StoredObjectMetadata.fromJson_toJson (object : StoredObjectMetadata) :
    fromJson object.toJson = some object := by
  obtain ⟨json, fields⟩ : ∃ json, object.toJson = .obj json := ⟨_, rfl⟩
  have text : ∀ (key value : String), json.lookup key = some (.str value) →
      textField json key = some value := fun _ _ => textField_eq
  have number : ∀ (key : String) (value : Option Nat), json.lookup key = value.map numberJson →
      natField json key = value := fun _ _ => natField_eq
  obtain rfl := (Json.obj.inj fields).symm
  rw [fields, fromJson, text "key" object.key rfl, number "sizeBytes" (some object.sizeBytes) rfl,
    text "sha256" object.sha256 rfl]
  rfl

theorem ObjectStoreBackupManifest.wellFormed_fields (createdAt : String)
    (manifest : ObjectStoreBackupManifest) : (Json.obj (manifest.fields createdAt)).WellFormed := by
  have keys : ["kind", "schemaVersion", "createdAt", "objectCount", "totalSizeBytes",
      "objects"].Nodup := by decide
  have objects : (Json.arr (manifest.objects.map StoredObjectMetadata.toJson)).WellFormed := by
    rw [Json.WellFormed, Json.wellFormedItems_iff]
    intro item member
    obtain ⟨object, -, rfl⟩ := List.mem_map.mp member
    exact object.wellFormed_toJson
  exact ⟨keys, trivial, Json.wellFormed_ofInt _, trivial, Json.wellFormed_ofInt _,
    Json.wellFormed_ofInt _, objects, trivial⟩

theorem ObjectStoreBackupManifest.fromFields_fields (createdAt : String)
    (manifest : ObjectStoreBackupManifest) :
    fromFields (manifest.fields createdAt) = some manifest := by
  have text : ∀ (key value : String),
      (manifest.fields createdAt).lookup key = some (.str value) →
      textField (manifest.fields createdAt) key = some value := fun _ _ => textField_eq
  have number : ∀ (key : String) (value : Nat),
      (manifest.fields createdAt).lookup key = some (numberJson value) →
      natField (manifest.fields createdAt) key = some value := fun _ _ found => natField_eq found
  have objects : (manifest.objects.map StoredObjectMetadata.toJson).mapM
      StoredObjectMetadata.fromJson = some manifest.objects := by
    induction manifest.objects with
    | nil => rfl
    | cons object rest inductionHypothesis =>
      rw [List.map_cons, List.mapM_cons, inductionHypothesis, object.fromJson_toJson]
      rfl
  have found : (manifest.fields createdAt).lookup "objects" =
      some (.arr (manifest.objects.map StoredObjectMetadata.toJson)) := rfl
  rw [fromFields, found, text "createdAt" createdAt rfl, text "kind" manifest.kind rfl,
    number "schemaVersion" manifest.schemaVersion rfl,
    number "objectCount" manifest.objectCount rfl,
    number "totalSizeBytes" manifest.totalSizeBytes rfl]
  simp only [Option.bind_eq_bind, Option.bind_some]
  rw [objects]
  rfl

theorem jsonObjectManifest_readBack : @ObjectManifestsReadBack jsonObjectManifest := by
  intro createdAt manifest
  show ObjectStoreBackupManifest.fromText (jsonFile (manifest.fields createdAt)) = some manifest
  rw [ObjectStoreBackupManifest.fromText,
    readJsonFile_jsonFile (manifest.wellFormed_fields createdAt)]
  exact manifest.fromFields_fields createdAt

/-! ### Names -/

/-- The names of a file system. -/
def FileNames (tree : Directory) : Prop :=
  ∀ path content, tree.lookup path = some content →
    path ≠ [] ∧ ∀ name ∈ path, PlainName name ∧ Char.ofNat 0 ∉ name.toList

/-- No name of the path has a backslash. -/
def NoBackslash (path : List String) : Prop := ∀ name ∈ path, Char.ofNat 0x5C ∉ name.toList

theorem toList_joined (path : List String) :
    (joined path).toList = ['/'].intercalate (path.map String.toList) := String.toList_ofList

theorem segments_joined_plain {path : List String} (nonempty : path ≠ [])
    (plain : ∀ name ∈ path, PlainName name) : segments (joined path) = path :=
  segments_joined nonempty fun name member => (plain name member).2.2.2

theorem relative_joined {path : List String} (nonempty : path ≠ [])
    (plain : ∀ name ∈ path, PlainName name) : (joined path).toList.head? ≠ some '/' := by
  intro slash
  obtain ⟨rest, isPath⟩ := List.head?_eq_some_iff.mp slash
  have leading : "" ∈ segments (joined path) := by
    rw [segments, isPath, List.splitOn_cons_eq_if_modifyHead, if_pos (beq_self_eq_true _)]
    exact List.mem_cons_self
  rw [segments_joined_plain nonempty plain] at leading
  exact (plain "" leading).1 rfl

/-- Plain names joined to a path are a path within a directory, unless there is a backslash. -/
theorem escapes_joined {path : List String} (nonempty : path ≠ [])
    (plain : ∀ name ∈ path, PlainName name) : escapes (joined path) = false ↔ NoBackslash path := by
  have parts := segments_joined_plain nonempty plain
  have relative := relative_joined nonempty plain
  have notEmpty : joined path ≠ "" := by
    intro empty
    have single : segments "" = [""] := by decide
    rw [empty, single] at parts
    exact (plain "" (parts ▸ List.mem_cons_self)).1 rfl
  have notSpecial : (path.any fun segment => segment = "" || segment = "." || segment = "..") =
      false := by
    refine List.any_eq_false.mpr fun name member => ?_
    obtain ⟨notNothing, notDot, notDots, -⟩ := plain name member
    simp [notNothing, notDot, notDots]
  rw [escapes, parts, notSpecial, toList_joined]
  rw [toList_joined] at relative
  simp only [notEmpty, relative, decide_false, Bool.false_or, Bool.or_false,
    List.contains_eq_mem, decide_eq_false_iff_not]
  constructor
  · intro outside name member inName
    exact outside (IpText.mem_intercalate_of_mem (List.mem_map_of_mem member) inName)
  · intro none member
    rcases IpText.mem_intercalate member with isSlash | ⟨piece, isName, inName⟩
    · exact absurd isSlash (by decide)
    · obtain ⟨name, inPath, rfl⟩ := List.mem_map.mp isName
      exact none name inPath inName

/-- A path of plain names is taken as a key just as it is, unless there is a backslash. -/
theorem validatedKey_joined {path : List String} (nonempty : path ≠ [])
    (plain : ∀ name ∈ path, PlainName name) :
    (NoBackslash path → validatedKey (joined path) = some (joined path)) ∧
      (¬NoBackslash path → validatedKey (joined path) = none) := by
  have relative := relative_joined nonempty plain
  have whole : String.ofList ((joined path).toList.dropWhile (· = '/')) = joined path := by
    cases characters : (joined path).toList with
    | nil => rw [List.dropWhile_nil, ← characters, String.ofList_toList]
    | cons first rest =>
      rw [characters, List.head?_cons] at relative
      rw [List.dropWhile_cons_of_neg, ← characters, String.ofList_toList]
      simpa using fun same => relative (congrArg some same)
  have passes := escapes_joined nonempty plain
  rw [validatedKey, whole]
  constructor
  · intro none
    rw [if_neg (by rw [passes.mpr none]; simp)]
  · intro backslash
    rw [if_pos (eq_true_of_ne_false fun passed => backslash (passes.mp passed))]

/-! ### The backup of a directory -/

/-- The objects with their keys, in the order of the keys. -/
def storedFiles (objects : Directory) : List (String × List UInt8) :=
  (objects.entries.map fun entry => (joined entry.1, entry.2)).insertionSort fun one two =>
    one.1 ≤ two.1

/-- Names that are kept as keys. -/
def KeysPass (objects : Directory) : Prop :=
  ∀ path content, objects.lookup path = some content → NoBackslash path

section Files

variable {objects : Directory}

theorem mem_storedFiles {file : String × List UInt8} :
    file ∈ storedFiles objects ↔
      ∃ path content, objects.lookup path = some content ∧ file = (joined path, content) := by
  rw [storedFiles, List.mem_insertionSort, List.mem_map]
  constructor
  · rintro ⟨⟨path, content⟩, member, rfl⟩
    exact ⟨path, content, FileTree.mem_entries_iff.mp member, rfl⟩
  · rintro ⟨path, content, found, rfl⟩
    exact ⟨(path, content), FileTree.mem_entries_iff.mpr found, rfl⟩

theorem length_storedFiles : (storedFiles objects).length = objects.entries.length := by
  rw [storedFiles, List.length_insertionSort, List.length_map]

/-- The stored files by the components of their keys. -/
theorem exists_storedFile_iff (names : FileNames objects) {path : List String}
    {content : List UInt8} :
    (∃ file ∈ storedFiles objects, segments file.1 = path ∧ file.2 = content) ↔
      objects.lookup path = some content := by
  constructor
  · rintro ⟨file, member, rfl, rfl⟩
    obtain ⟨path, content, found, rfl⟩ := mem_storedFiles.mp member
    obtain ⟨nonempty, plain⟩ := names path content found
    rw [segments_joined_plain nonempty fun name member => (plain name member).1]
    exact found
  · intro found
    obtain ⟨nonempty, plain⟩ := names path content found
    exact ⟨_, mem_storedFiles.mpr ⟨path, content, found, rfl⟩,
      segments_joined_plain nonempty fun name member => (plain name member).1, rfl⟩

/-- No object is in the way of another one. -/
theorem storedFiles_apart (names : FileNames objects) : (storedFiles objects).Pairwise Apart := by
  have symmetric : ∀ one two, Apart one two → Apart two one := fun one two apart => And.symm apart
  refine (List.Perm.pairwise_iff (fun {one two} => symmetric one two)
    (List.perm_insertionSort _ _)).mpr (List.pairwise_map.mpr ?_)
  have distinct : objects.entries.Pairwise fun one two => one.1 ≠ two.1 :=
    List.pairwise_map.mp objects.paths_nodup
  refine distinct.imp_of_mem fun {one two} inOne inTwo different => ?_
  have foundOne := FileTree.mem_entries_iff.mp inOne
  have foundTwo := FileTree.mem_entries_iff.mp inTwo
  obtain ⟨someOne, plainOne⟩ := names one.1 one.2 foundOne
  obtain ⟨someTwo, plainTwo⟩ := names two.1 two.2 foundTwo
  rw [Apart, segments_joined_plain someOne fun name member => (plainOne name member).1,
    segments_joined_plain someTwo fun name member => (plainTwo name member).1]
  constructor
  · intro above
    exact different (objects.apart one.1 two.1 (Option.isSome_of_eq_some foundOne)
      (Option.isSome_of_eq_some foundTwo) above)
  · intro above
    exact different (objects.apart two.1 one.1 (Option.isSome_of_eq_some foundTwo)
      (Option.isSome_of_eq_some foundOne) above).symm

theorem storedKeys_nodup (names : FileNames objects) : ((storedFiles objects).map Prod.fst).Nodup := by
  refine List.pairwise_map.mpr ((storedFiles_apart names).imp ?_)
  rintro ⟨name, _⟩ ⟨_, _⟩ apart rfl
  exact apart.1 List.prefix_rfl

theorem collectFiles_eq_ok (names : FileNames objects) (pass : KeysPass objects) :
    collectFiles objects =
      .ok (objects.entries.map fun entry => (joined entry.1, entry.2)) := by
  refine List.mapM_eq_ok fun entry member => ?_
  have found := FileTree.mem_entries_iff.mp member
  obtain ⟨nonempty, plain⟩ := names entry.1 entry.2 found
  rw [(validatedKey_joined nonempty fun name member => (plain name member).1).1 (pass _ _ found)]

/-- One name with a backslash, and nothing is collected. -/
theorem pass_of_collectFiles (names : FileNames objects) {files : List (String × List UInt8)}
    (collected : collectFiles objects = .ok files) : KeysPass objects := by
  intro path content found
  by_contra backslash
  obtain ⟨nonempty, plain⟩ := names path content found
  have refused := (validatedKey_joined nonempty fun name member => (plain name member).1).2 backslash
  have each : ∀ (entries : List (List String × List UInt8)) (files : List (String × List UInt8)),
      (entries.mapM fun entry =>
        match validatedKey (joined entry.1) with
        | none => (.error ("invalid object key: " ++ joined entry.1) : Except String _)
        | some key => .ok (key, entry.2)) = .ok files → (path, content) ∉ entries := by
    intro entries
    induction entries with
    | nil => exact fun _ _ => List.not_mem_nil
    | cons entry rest inductionHypothesis =>
      intro files made member
      rw [List.mapM_cons] at made
      obtain ⟨file, here, more⟩ := Except.bind_eq_ok.mp made
      obtain ⟨others, later, -⟩ := Except.bind_eq_ok.mp more
      rcases List.mem_cons.mp member with rfl | member
      · dsimp only at here
        rw [refused] at here
        cases here
      · exact inductionHypothesis others later member
  exact each _ _ collected (FileTree.mem_entries_iff.mpr found)

end Files

section RoundTrip

variable [Sha256]

/-- What was copied of the files, with the rest still to come. -/
def CopiedBut (files : List (String × List UInt8)) (written : ObjectsCopied)
    (rest : List (String × List UInt8)) : Prop :=
  written.objects ++ rest.map (fun file => metadataOf file.1 file.2) =
      files.map (fun file => metadataOf file.1 file.2) ∧
    written.totalSizeBytes + (rest.map fun file => file.2.length).sum =
      (files.map fun file => file.2.length).sum

theorem CopiedBut.step {copied : String → List UInt8 → List UInt8}
    (faithful : ∀ key bytes, copied key bytes = bytes) {files rest : List (String × List UInt8)}
    {written : ObjectsCopied} {file : String × List UInt8}
    (ready : CopiedBut files written (file :: rest))
    (free : written.backup.Free ("objects" :: segments file.1)) :
    ∃ next, copyObject copied written file = .ok next ∧ CopiedBut files next rest ∧
      next.backup.lookup ("objects" :: segments file.1) = some file.2 ∧
      ∀ other, other ≠ "objects" :: segments file.1 →
        next.backup.lookup other = written.backup.lookup other := by
  obtain ⟨backup, created, lookups⟩ := FileTree.exists_create file.2 free
  refine ⟨⟨backup, written.objects ++ [metadataOf file.1 file.2],
    written.totalSizeBytes + file.2.length⟩, ?_, ?_, (lookups _).trans (if_pos rfl),
    fun other different => (lookups other).trans (if_neg different)⟩
  · rw [copyObject, faithful, created]
    dsimp only
    rw [if_neg (not_not.mpr rfl)]
  · rw [CopiedBut, List.map_cons, List.map_cons, List.sum_cons] at ready
    rw [CopiedBut, List.append_assoc, List.singleton_append, Nat.add_assoc]
    exact ready

/-- The loop of `backup_object_store` copies every object. -/
theorem copyObjects_ok {copied : String → List UInt8 → List UInt8}
    (faithful : ∀ key bytes, copied key bytes = bytes) {files : List (String × List UInt8)}
    (apart : files.Pairwise Apart) :
    ∃ backup, files.foldlM (copyObject copied) {} =
        .ok ⟨backup, files.map fun file => metadataOf file.1 file.2,
          (files.map fun file => file.2.length).sum⟩ ∧
      ∀ path content, backup.lookup path = some content ↔
        ∃ file ∈ files, "objects" :: segments file.1 = path ∧ file.2 = content := by
  have start : CopiedBut files {} files := ⟨List.nil_append _, Nat.zero_add _⟩
  obtain ⟨after, folds, ⟨objects, total⟩, contents⟩ := FileTree.foldlM_creates ObjectsCopied.backup
    (fun file : String × List UInt8 => "objects" :: segments file.1) Prod.snd (copyObject copied)
    (CopiedBut files) (fun _ _ _ => CopiedBut.step faithful)
    (apart.imp fun apart => ⟨fun above => apart.1 (List.cons_prefix_cons.mp above).2,
      fun above => apart.2 (List.cons_prefix_cons.mp above).2⟩)
    start (fun file _ other present => by
      rw [FileTree.lookup_empty] at present
      cases present)
  rw [List.map_nil, List.append_nil] at objects
  refine ⟨after.backup, ?_, fun path content => ?_⟩
  · rw [folds, ← objects, ← total]
    rfl
  · rw [contents, FileTree.lookup_empty]
    simp

/-- The manifest of a backup of the objects. -/
def storedManifest (objects : Directory) : ObjectStoreBackupManifest where
  kind := "ledgerly-object-store-backup"
  schemaVersion := 1
  objectCount := (storedFiles objects).length
  totalSizeBytes := ((storedFiles objects).map fun file => file.2.length).sum
  objects := (storedFiles objects).map fun file => metadataOf file.1 file.2

variable [ObjectManifestWriter] {objects backup : Directory} {createdAt : String}

/-- A backup has its manifest, and the objects beneath a directory of their own. -/
def IsObjectBackup (createdAt : String) (objects backup : Directory) : Prop :=
  ∀ path content, backup.lookup path = some content ↔
    (path = ["manifest.json"] ∧
      content = ObjectManifestWriter.encode createdAt (storedManifest objects)) ∨
    ∃ rest, path = "objects" :: rest ∧ objects.lookup rest = some content

/-- Objects whose names have no backslash are backed up. -/
theorem backupObjectStore_ok (names : FileNames objects) (pass : KeysPass objects)
    {copied : String → List UInt8 → List UInt8} (faithful : ∀ key bytes, copied key bytes = bytes)
    (createdAt : String) :
    ∃ backup, backupObjectStore copied createdAt (.directory objects) =
        .ok (backup, ⟨(storedManifest objects).objectCount, (storedManifest objects).totalSizeBytes⟩) ∧
      IsObjectBackup createdAt objects backup := by
  obtain ⟨copies, folds, contents⟩ := copyObjects_ok faithful (storedFiles_apart names)
  have free : copies.Free ["manifest.json"] := by
    refine FileTree.free_iff.mpr fun other present _ => ?_
    obtain ⟨content, found⟩ := Option.isSome_iff_exists.mp present
    obtain ⟨file, -, rfl, -⟩ := (contents other content).mp found
    have different : ¬"objects" = "manifest.json" := by decide
    exact ⟨fun above => different (List.cons_prefix_cons.mp above).1,
      fun above => different (List.cons_prefix_cons.mp above).1.symm⟩
  obtain ⟨backup, created, lookups⟩ := FileTree.exists_create
    (ObjectManifestWriter.encode createdAt (storedManifest objects)) free
  refine ⟨backup, ?_, fun path content => ?_⟩
  · rw [backupObjectStore, collectFiles_eq_ok names pass]
    show (List.foldlM (copyObject copied) {} (storedFiles objects) >>= _) = _
    rw [folds]
    dsimp only [bind, Except.bind]
    rw [List.length_map]
    show (match copies.create ["manifest.json"]
      (ObjectManifestWriter.encode createdAt (storedManifest objects)) with
      | none => _
      | some backup => _) = _
    rw [created]
    rfl
  · rw [lookups]
    have inObjects : copies.lookup path = some content ↔
        ∃ rest, path = "objects" :: rest ∧ objects.lookup rest = some content := by
      rw [contents]
      constructor
      · rintro ⟨file, member, rfl, rfl⟩
        exact ⟨_, rfl, (exists_storedFile_iff names).mp ⟨file, member, rfl, rfl⟩⟩
      · rintro ⟨rest, rfl, found⟩
        obtain ⟨file, member, rfl, rfl⟩ := (exists_storedFile_iff names).mpr found
        exact ⟨file, member, rfl, rfl⟩
    by_cases isManifest : path = ["manifest.json"]
    · subst isManifest
      rw [if_pos rfl]
      constructor
      · exact fun same => Or.inl ⟨rfl, (Option.some.inj same).symm⟩
      · rintro (⟨-, rfl⟩ | ⟨rest, impossible, -⟩)
        · rfl
        · exact absurd (List.cons.inj impossible).1 (by decide)
    · rw [if_neg isManifest, inObjects]
      exact (or_iff_right fun both => isManifest both.1).symm

/-! ### Restoring -/

/-- No call fails, and copies are faithful. -/
structure RestoreCalls.Working {Database : Type} (calls : RestoreCalls Database) : Prop where
  fails : ∀ call, calls.fails call = false
  copied : ∀ key bytes, calls.copied key bytes = bytes

section Restoring

variable {Database : Type} {calls : RestoreCalls Database} {unpacked : Directory}

theorem readObjectStoreManifest_ok (readBack : ObjectManifestsReadBack) (working : calls.Working)
    (isBackup : IsObjectBackup createdAt objects backup)
    (isUnpacked : ∀ path, unpacked.lookup ("object-store" :: path) = backup.lookup path)
    (step : RestoreStep) :
    readObjectStoreManifest calls step unpacked = .ok (storedManifest objects) := by
  have found : unpacked.lookup ["object-store", "manifest.json"] =
      some (ObjectManifestWriter.encode createdAt (storedManifest objects)) := by
    rw [isUnpacked]
    exact (isBackup _ _).mpr (Or.inl ⟨rfl, rfl⟩)
  rw [readObjectStoreManifest, working.fails, if_neg Bool.false_ne_true, found]
  dsimp only
  rw [readBack]
  simp [storedManifest]

theorem checkedObject_ok (working : calls.Working) (names : FileNames objects)
    (pass : KeysPass objects) (isBackup : IsObjectBackup createdAt objects backup)
    (isUnpacked : ∀ path, unpacked.lookup ("object-store" :: path) = backup.lookup path)
    (step : RestoreStep) {seen : List String} {file : String × List UInt8}
    (member : file ∈ storedFiles objects) (new : file.1 ∉ seen) :
    checkedObject calls step unpacked seen (metadataOf file.1 file.2) = .ok file := by
  obtain ⟨path, content, found, rfl⟩ := mem_storedFiles.mp member
  obtain ⟨nonempty, plain⟩ := names path content found
  have plainNames : ∀ name ∈ path, PlainName name := fun name member => (plain name member).1
  have valid := (validatedKey_joined nonempty plainNames).1 (pass _ _ found)
  have stored : unpacked.lookup (["object-store", "objects"] ++ segments (joined path)) =
      some content := by
    rw [segments_joined_plain nonempty plainNames]
    show unpacked.lookup ("object-store" :: ("objects" :: path)) = _
    rw [isUnpacked]
    exact (isBackup _ _).mpr (Or.inr ⟨path, rfl, found⟩)
  have isKey : (metadataOf (joined path) content).key = joined path := rfl
  rw [checkedObject, isKey, valid]
  dsimp only
  rw [if_neg new, working.fails, if_neg Bool.false_ne_true, stored]
  dsimp only
  rw [if_neg (not_not.mpr rfl)]

/-- The files that are still to come in a loop, none of which was seen. -/
def ToCome (objects : Directory) (seen : List String) (totalSizeBytes : Nat)
    (rest : List (String × List UInt8)) : Prop :=
  (∀ file ∈ rest, file ∈ storedFiles objects ∧ file.1 ∉ seen) ∧ (rest.map Prod.fst).Nodup ∧
    totalSizeBytes + (rest.map fun file => file.2.length).sum =
      (storedManifest objects).totalSizeBytes

omit [ObjectManifestWriter] in
theorem ToCome.start (names : FileNames objects) : ToCome objects [] 0 (storedFiles objects) :=
  ⟨fun _ member => ⟨member, List.not_mem_nil⟩, storedKeys_nodup names, Nat.zero_add _⟩

omit [ObjectManifestWriter] in
theorem ToCome.next {seen : List String} {totalSizeBytes : Nat} {file : String × List UInt8}
    {rest : List (String × List UInt8)} (ready : ToCome objects seen totalSizeBytes (file :: rest)) :
    ToCome objects (file.1 :: seen) (totalSizeBytes + file.2.length) rest := by
  obtain ⟨fresh, distinct, total⟩ := ready
  rw [List.map_cons, List.nodup_cons] at distinct
  rw [List.map_cons, List.sum_cons, ← Nat.add_assoc] at total
  refine ⟨fun other member => ⟨(fresh other (List.mem_cons_of_mem _ member)).1, fun isSeen => ?_⟩,
    distinct.2, total⟩
  rcases List.mem_cons.mp isSeen with same | isSeen
  · exact distinct.1 (same ▸ List.mem_map_of_mem member)
  · exact (fresh other (List.mem_cons_of_mem _ member)).2 isSeen

/-- A backup stands its checks. -/
theorem verifyObjectStoreBackup_ok (readBack : ObjectManifestsReadBack) (working : calls.Working)
    (names : FileNames objects) (pass : KeysPass objects)
    (isBackup : IsObjectBackup createdAt objects backup)
    (isUnpacked : ∀ path, unpacked.lookup ("object-store" :: path) = backup.lookup path) :
    verifyObjectStoreBackup calls unpacked = .ok (storedManifest objects).objectCount := by
  have loop : ∀ (rest : List (String × List UInt8)) (seen : List String) (total : Nat),
      ToCome objects seen total rest →
      ∃ keys, (rest.map fun file => metadataOf file.1 file.2).foldlM
        (fun state object =>
          checkedObject calls .verification unpacked state.1 object >>= fun checked =>
            .ok (checked.1 :: state.1, state.2 + object.sizeBytes)) (seen, total) =
        .ok (keys, (storedManifest objects).totalSizeBytes) := by
    intro rest
    induction rest with
    | nil => exact fun seen total ready => ⟨seen, congrArg (fun n => Except.ok (seen, n)) ready.2.2⟩
    | cons file rest inductionHypothesis =>
      intro seen total ready
      obtain ⟨isStored, new⟩ := ready.1 file List.mem_cons_self
      obtain ⟨keys, folds⟩ := inductionHypothesis _ _ ready.next
      have checked := checkedObject_ok working names pass isBackup isUnpacked .verification isStored new
      refine ⟨keys, Eq.trans ?_ folds⟩
      rw [List.map_cons, List.foldlM_cons]
      dsimp only
      rw [checked]
      rfl
  obtain ⟨keys, folds⟩ := loop _ _ _ (ToCome.start names)
  have manifest := readObjectStoreManifest_ok readBack working isBackup isUnpacked .verification
  exact Except.bind_eq_ok.mpr ⟨_, manifest, Except.bind_eq_ok.mpr ⟨_, folds, if_neg (not_not.mpr rfl)⟩⟩

theorem ToCome.stage (working : calls.Working) (names : FileNames objects) (pass : KeysPass objects)
    (isBackup : IsObjectBackup createdAt objects backup)
    (isUnpacked : ∀ path, unpacked.lookup ("object-store" :: path) = backup.lookup path)
    {staged : Staged} {file : String × List UInt8} {rest : List (String × List UInt8)}
    (ready : ToCome objects staged.seen staged.totalSizeBytes (file :: rest))
    (free : staged.objects.Free (segments file.1)) :
    ∃ next, stageObject calls unpacked staged (metadataOf file.1 file.2) = .ok next ∧
      ToCome objects next.seen next.totalSizeBytes rest ∧
      next.objects.lookup (segments file.1) = some file.2 ∧
      ∀ other, other ≠ segments file.1 →
        next.objects.lookup other = staged.objects.lookup other := by
  obtain ⟨isStored, new⟩ := ready.1 file List.mem_cons_self
  obtain ⟨next, created, lookups⟩ := FileTree.exists_create file.2 free
  refine ⟨⟨file.1 :: staged.seen, next, staged.totalSizeBytes + file.2.length⟩, ?_, ready.next,
    (lookups _).trans (if_pos rfl), fun other different => (lookups other).trans (if_neg different)⟩
  rw [stageObject, checkedObject_ok working names pass isBackup isUnpacked .staging isStored new]
  dsimp only [bind, Except.bind]
  rw [working.fails, if_neg Bool.false_ne_true, working.copied, created]
  dsimp only
  rw [if_neg (not_not.mpr rfl)]
  rfl

/-- The loop of `restore_object_store` copies every object of a backup. -/
theorem stageObjects_ok (working : calls.Working) (names : FileNames objects)
    (pass : KeysPass objects) (isBackup : IsObjectBackup createdAt objects backup)
    (isUnpacked : ∀ path, unpacked.lookup ("object-store" :: path) = backup.lookup path) :
    ∃ staged, (storedManifest objects).objects.foldlM (stageObject calls unpacked) {} = .ok staged ∧
      staged.totalSizeBytes = (storedManifest objects).totalSizeBytes ∧
      ∀ path, staged.objects.lookup path = objects.lookup path := by
  have start : ToCome objects ({} : Staged).seen ({} : Staged).totalSizeBytes (storedFiles objects) :=
    ToCome.start names
  obtain ⟨staged, folds, ready, contents⟩ := FileTree.foldlM_creates Staged.objects
    (fun file : String × List UInt8 => segments file.1) Prod.snd
    (fun staged file => stageObject calls unpacked staged (metadataOf file.1 file.2))
    (fun staged rest => ToCome objects staged.seen staged.totalSizeBytes rest)
    (fun _ _ _ ready => ready.stage working names pass isBackup isUnpacked)
    (storedFiles_apart names) start (fun file _ other present => by
      rw [FileTree.lookup_empty] at present
      cases present)
  refine ⟨staged, ?_, ?_, fun path => Option.ext fun content => ?_⟩
  · rw [storedManifest, List.foldlM_map]
    exact folds
  · exact ready.2.2
  · rw [contents, exists_storedFile_iff names, FileTree.lookup_empty]
    simp

/-- The objects of a backup take the place of those that are there. -/
theorem restoreObjectStore_ok (readBack : ObjectManifestsReadBack) (working : calls.Working)
    (names : FileNames objects) (pass : KeysPass objects)
    (isBackup : IsObjectBackup createdAt objects backup)
    (isUnpacked : ∀ path, unpacked.lookup ("object-store" :: path) = backup.lookup path)
    (state : ServerState Database) (noFile : state.target ≠ .file) :
    ∃ restored : Directory, restoreObjectStore calls unpacked state =
        (.ok (), { state with target := .directory restored }) ∧
      ∀ path, restored.lookup path = objects.lookup path := by
  obtain ⟨staged, folds, total, contents⟩ := stageObjects_ok working names pass isBackup isUnpacked
  refine ⟨staged.objects, ?_, contents⟩
  have published : publishObjects calls staged.objects state =
      (.ok (), { state with target := .directory staged.objects }) := by
    unfold publishObjects
    simp only [working.fails, Bool.false_eq_true, if_false]
    cases state.target <;> rfl
  have manifest := readObjectStoreManifest_ok readBack working isBackup isUnpacked .staging
  rw [restoreObjectStore, manifest]
  dsimp only [bind, Except.bind]
  cases isTarget : state.target with
  | file => exact absurd isTarget noFile
  | missing =>
    dsimp only
    simp only [working.fails, Bool.false_eq_true, if_false, folds, total, ne_eq, not_true_eq_false]
    exact published
  | directory current =>
    dsimp only
    simp only [working.fails, Bool.false_eq_true, if_false, folds, total, ne_eq, not_true_eq_false]
    exact published

end Restoring

/-- A directory of objects is backed up exactly where no name has a backslash. The backup counts
the objects; and on any server whose calls work, whatever was there before, it stands its checks, and
after its restore the same objects are there. -/
theorem object_store_round_trip (readBack : ObjectManifestsReadBack) (names : FileNames objects)
    {copied : String → List UInt8 → List UInt8} (faithful : ∀ key bytes, copied key bytes = bytes)
    (createdAt : String) :
    ((∃ backup report, backupObjectStore copied createdAt (.directory objects) =
        .ok (backup, report)) ↔ KeysPass objects) ∧
      ∀ backup report,
        backupObjectStore copied createdAt (.directory objects) = .ok (backup, report) →
        report.objectCount = objects.entries.length ∧
        ∀ {Database : Type} {calls : RestoreCalls Database}, calls.Working →
          ∀ state : ServerState Database, state.target ≠ .file →
          verifyObjectStoreBackup calls (backup.within "object-store") = .ok report.objectCount ∧
          ∃ restored : Directory, restoreObjectStore calls (backup.within "object-store") state =
              (.ok (), { state with target := .directory restored }) ∧
            ∀ path, restored.lookup path = objects.lookup path := by
  have succeeds : ∀ {backup report},
      backupObjectStore copied createdAt (.directory objects) = .ok (backup, report) →
      KeysPass objects := by
    intro backup report made
    obtain ⟨files, collected, -⟩ := Except.bind_eq_ok.mp made
    exact pass_of_collectFiles names collected
  refine ⟨⟨fun ⟨backup, report, made⟩ => succeeds made, fun pass => ?_⟩,
    fun backup report made => ?_⟩
  · obtain ⟨backup, made, -⟩ := backupObjectStore_ok names pass faithful createdAt
    exact ⟨backup, _, made⟩
  · have pass := succeeds made
    obtain ⟨same, sameMade, isBackup⟩ := backupObjectStore_ok names pass faithful createdAt
    obtain ⟨rfl, rfl⟩ := Prod.mk.inj (Except.ok.inj (made.symm.trans sameMade))
    refine ⟨length_storedFiles, fun working state noFile => ?_⟩
    have isUnpacked := backup.lookup_within_cons "object-store"
    exact ⟨verifyObjectStoreBackup_ok readBack working names pass isBackup isUnpacked,
      restoreObjectStore_ok readBack working names pass isBackup isUnpacked state noFile⟩

end RoundTrip

/-- A directory with one receipt. -/
def receiptObjects : Directory := (FileTree.empty.create ["books", "receipt"] [7]).getD .empty

theorem lookup_receiptObjects (path : List String) :
    receiptObjects.lookup path = if path = ["books", "receipt"] then some [7] else none :=
  FileTree.lookup_create_empty _ path _

theorem receiptObjects_names : FileNames receiptObjects := by
  intro path content found
  rw [lookup_receiptObjects] at found
  split at found
  · rename_i same
    subst same
    decide
  · cases found

theorem receiptObjects_pass : KeysPass receiptObjects := by
  intro path content found
  rw [lookup_receiptObjects] at found
  split at found
  · rename_i same
    subst same
    unfold NoBackslash
    decide
  · cases found

/-- A server with other objects: an older receipt under the same key, and one that is to go. -/
def otherObjects : Directory :=
  ((FileTree.empty.create ["books", "receipt"] [8]).getD .empty |>.create ["other"] [9]).getD .empty

/-- The receipt is backed up, and comes to a server with other objects, in their place. -/
theorem receipt_is_restored :
    let _ := emptySha256
    let _ := jsonObjectManifest
    ∃ backup report, backupObjectStore (fun _ bytes => bytes) "2026-05-01T00:00:00Z"
        (.directory receiptObjects) = .ok (backup, report) ∧
      report.objectCount = receiptObjects.entries.length ∧
      verifyObjectStoreBackup workingCalls (backup.within "object-store") =
        .ok report.objectCount ∧
      ∃ restored : Directory,
        restoreObjectStore workingCalls (backup.within "object-store")
            ⟨(), .directory otherObjects, none⟩ = (.ok (), ⟨(), .directory restored, none⟩) ∧
        ∀ path, restored.lookup path = receiptObjects.lookup path := by
  intro _ _
  have trip := object_store_round_trip jsonObjectManifest_readBack receiptObjects_names
    (fun _ bytes => (rfl : bytes = bytes)) "2026-05-01T00:00:00Z"
  obtain ⟨backup, report, made⟩ := trip.1.mpr receiptObjects_pass
  obtain ⟨count, restores⟩ := trip.2 backup report made
  have working : workingCalls.Working := ⟨fun _ => rfl, fun _ _ => rfl⟩
  exact ⟨backup, report, made, count, restores working ⟨(), .directory otherObjects, none⟩ nofun⟩

end Ledgerly
