/-
This file models what a backup holds of the attachments of a device, their rows, an index of
the files and the files, and proves when an incremental applied to its base gives the index
and the files of the backup it was made of. Rows that go are remembered, files that go are
not: the file of a row that stayed comes back from the base.
-/

import Ledgerly.IncrementalLaw
import Ledgerly.ClientDate

namespace Ledgerly

/-! ### Attachments of a device -/

/-- `LocalAttachmentRecord`, as far as a backup goes. The date is in microseconds since the
epoch. -/
structure LocalAttachmentRecord where
  id : String
  bookId : String
  transactionId : String
  fileName : String
  mime : String
  relativePath : String
  createdAt : Int

/-- `_attachmentToJson`. -/
def attachmentToJson (row : LocalAttachmentRecord) : BackupRow :=
  [("id", .str row.id), ("bookId", .str row.bookId), ("transactionId", .str row.transactionId),
    ("fileName", .str row.fileName), ("mimeType", .str row.mime),
    ("relativePath", .str row.relativePath), ("createdAt", .str (toIso8601String row.createdAt))]

/-- The attachments with their files, of those whose files are there. -/
def attachmentFiles (attachments : List LocalAttachmentRecord)
    (readBytes : String → Option (List UInt8)) : List (LocalAttachmentRecord × List UInt8) :=
  attachments.filterMap fun row => (readBytes row.relativePath).map fun bytes => (row, bytes)

/-- The entry of a file in the index. -/
def attachmentEntry [Sha256] (file : LocalAttachmentRecord × List UInt8) : BackupRow :=
  [("id", .str file.1.id), ("relativePath", .str file.1.relativePath),
    ("fileName", .str file.1.fileName), ("mime", .str file.1.mime),
    ("size", .num (toString file.2.length)), ("sha256", .str (Sha256.hex file.2))]

/-- The binary that is stored for an attachment with its bytes. -/
def attachmentBinary (file : LocalAttachmentRecord × List UInt8) : AttachmentBinary :=
  ⟨file.1.id, file.2⟩

/-- The document is what `export` makes of the attachments in its scope. -/
structure BackupDocument.ExportsAttachments [Sha256] (document : BackupDocument)
    (attachments : List LocalAttachmentRecord) (readBytes : String → Option (List UInt8)) :
    Prop where
  rows : document.Holds "attachments" (attachments.map attachmentToJson)
  index : document.attachmentIndex = (attachmentFiles attachments readBytes).map attachmentEntry
  binaries : document.attachmentBinaries =
    (attachmentFiles attachments readBytes).map attachmentBinary

theorem numeric_attachmentToJson (attachments : List LocalAttachmentRecord) :
    ∀ row ∈ attachments.map attachmentToJson, Json.Numeric (.obj row) := by
  intro row member
  obtain ⟨attachment, -, rfl⟩ := List.mem_map.mp member
  exact ⟨trivial, trivial, trivial, trivial, trivial, trivial, trivial, trivial⟩

/-! ### Files by id -/

/-- The file of an attachment. -/
def fileOf (attachments : List LocalAttachmentRecord) (readBytes : String → Option (List UInt8))
    (id : String) : Option (LocalAttachmentRecord × List UInt8) :=
  (attachments.find? fun row => row.id = id).bind fun row =>
    (readBytes row.relativePath).map fun bytes => (row, bytes)

section Files

variable {attachments : List LocalAttachmentRecord} {readBytes : String → Option (List UInt8)}

theorem mem_attachmentFiles_iff {file : LocalAttachmentRecord × List UInt8} :
    file ∈ attachmentFiles attachments readBytes ↔
      file.1 ∈ attachments ∧ readBytes file.1.relativePath = some file.2 := by
  rw [attachmentFiles, List.mem_filterMap]
  constructor
  · rintro ⟨row, member, made⟩
    obtain ⟨bytes, read, rfl⟩ := Option.map_eq_some_iff.mp made
    exact ⟨member, read⟩
  · rintro ⟨member, read⟩
    exact ⟨file.1, member, by rw [read]; rfl⟩

variable (distinct : (attachments.map LocalAttachmentRecord.id).Nodup)

include distinct

theorem find?_attachment {row : LocalAttachmentRecord} (member : row ∈ attachments) :
    (attachments.find? fun other => other.id = row.id) = some row := by
  cases found : attachments.find? fun other => other.id = row.id with
  | none => exact absurd (List.find?_eq_none.mp found row member) (by simp)
  | some other =>
    have same := List.inj_on_of_nodup_map distinct (List.mem_of_find?_eq_some found) member
      (by simpa using List.find?_some found)
    rw [same]

theorem fileOf_eq_some_iff {id : String} {file : LocalAttachmentRecord × List UInt8} :
    fileOf attachments readBytes id = some file ↔
      file ∈ attachmentFiles attachments readBytes ∧ file.1.id = id := by
  rw [fileOf, Option.bind_eq_some_iff, mem_attachmentFiles_iff]
  constructor
  · rintro ⟨row, found, made⟩
    obtain ⟨bytes, read, rfl⟩ := Option.map_eq_some_iff.mp made
    exact ⟨⟨List.mem_of_find?_eq_some found, read⟩, by simpa using List.find?_some found⟩
  · rintro ⟨⟨member, read⟩, rfl⟩
    exact ⟨file.1, find?_attachment distinct member, by rw [read]; rfl⟩

theorem nodup_files : ((attachmentFiles attachments readBytes).map fun file => file.1.id).Nodup := by
  have rows : ((attachmentFiles attachments readBytes).map Prod.fst).Sublist attachments := by
    rw [attachmentFiles, List.map_filterMap]
    have each : attachments.filterMap (fun row =>
        ((readBytes row.relativePath).map fun bytes => (row, bytes)).map Prod.fst) =
        attachments.filter fun row => (readBytes row.relativePath).isSome := by
      rw [← List.filterMap_eq_filter]
      refine List.filterMap_congr fun row _ => ?_
      cases read : readBytes row.relativePath with
      | none => simp [Option.guard, read]
      | some bytes => simp [Option.guard, read]
    rw [each]
    exact List.filter_sublist
  have ids := distinct.sublist (rows.map LocalAttachmentRecord.id)
  rwa [List.map_map] at ids

variable (readBytes) in
/-- What is made of the files, by their ids. -/
def madeById {Value : Type} (make : LocalAttachmentRecord × List UInt8 → Value) :
    LinkedMap String Value where
  entries := (attachmentFiles attachments readBytes).map fun file => (file.1.id, make file)
  nodup := by
    rw [List.map_map]
    exact nodup_files distinct

variable {Value : Type} (make : LocalAttachmentRecord × List UInt8 → Value)

theorem lookup_madeById (id : String) :
    (madeById readBytes distinct make).lookup id =
      (fileOf attachments readBytes id).map make := by
  ext value
  rw [LinkedMap.lookup_eq_some_iff, madeById, List.mem_map, Option.map_eq_some_iff]
  constructor
  · rintro ⟨file, member, same⟩
    obtain ⟨rfl, rfl⟩ := Prod.mk.inj same
    exact ⟨file, (fileOf_eq_some_iff distinct).mpr ⟨member, rfl⟩, rfl⟩
  · rintro ⟨file, found, rfl⟩
    obtain ⟨member, rfl⟩ := (fileOf_eq_some_iff distinct).mp found
    exact ⟨file, member, rfl⟩

end Files

/-- The entries of an index, each under the id of its file. -/
theorem indexById_files [Sha256] (index : LinkedMap String BackupRow)
    (files : List (LocalAttachmentRecord × List UInt8)) :
    indexById index (files.map attachmentEntry) =
      (files.map fun file => (file.1.id, attachmentEntry file)).foldl
        (fun map entry => map.put entry.1 entry.2) index := by
  induction files generalizing index with
  | nil => rfl
  | cons file rest inductionHypothesis => exact inductionHypothesis _

theorem binaries_files (map : LinkedMap String AttachmentBinary)
    (files : List (LocalAttachmentRecord × List UInt8)) :
    (files.map attachmentBinary).foldl (fun map binary => map.put binary.id binary) map =
      (files.map fun file => (file.1.id, attachmentBinary file)).foldl
        (fun map entry => map.put entry.1 entry.2) map := by
  induction files generalizing map with
  | nil => rfl
  | cons file rest inductionHypothesis => exact inductionHypothesis _

/-! ### What an incremental brings back -/

section Restored

variable {before now : List LocalAttachmentRecord}
  {readBase readNow : String → Option (List UInt8)}
  (distinctBefore : (before.map LocalAttachmentRecord.id).Nodup)
  (distinctNow : (now.map LocalAttachmentRecord.id).Nodup)
  (chosen removed : List String)

variable (readBase readNow) in
/-- What is made of the files of the base with the chosen ones of the current backup put over
them, without those that are removed. -/
def overlaid {Value : Type} (make : LocalAttachmentRecord × List UInt8 → Value) :
    LinkedMap String Value :=
  removed.foldl LinkedMap.remove
    (((madeById readNow distinctNow make).entries.filter fun entry =>
      entry.1 ∈ chosen).foldl (fun map entry => map.put entry.1 entry.2)
        (madeById readBase distinctBefore make))

/-- The file of an id that comes back. -/
def restoredFile (before now : List LocalAttachmentRecord)
    (readBase readNow : String → Option (List UInt8)) (id : String) :
    Option (LocalAttachmentRecord × List UInt8) :=
  if id ∈ removed then none
  else if id ∈ chosen then (fileOf now readNow id).or (fileOf before readBase id)
  else fileOf before readBase id

theorem lookup_overlaid {Value : Type} (make : LocalAttachmentRecord × List UInt8 → Value)
    (id : String) :
    (overlaid readBase readNow distinctBefore distinctNow chosen removed
      make).lookup id =
        (restoredFile chosen removed before now readBase readNow id).map make := by
  rw [overlaid, LinkedMap.lookup_overlay _ _ fun id => decide (id ∈ chosen), lookup_madeById,
    lookup_madeById, restoredFile]
  by_cases gone : id ∈ removed
  · rw [if_pos gone, if_pos gone]
    rfl
  · rw [if_neg gone, if_neg gone]
    by_cases put : id ∈ chosen
    · rw [if_pos (decide_eq_true put), if_pos put, Option.map_or]
    · rw [if_neg (by simpa using put), if_neg put]

/-- Something made of the files that gives the id away comes back exactly if it does so for
every id. -/
theorem values_overlaid_perm_iff {Value : Type}
    (make : LocalAttachmentRecord × List UInt8 → Value) (idOf : Value → String)
    (named : ∀ file, idOf (make file) = file.1.id) :
    (overlaid readBase readNow distinctBefore distinctNow chosen removed
        make).values.Perm ((attachmentFiles now readNow).map make) ↔
      ∀ id, (restoredFile chosen removed before now readBase readNow id).map make =
        (fileOf now readNow id).map make := by
  have values : (attachmentFiles now readNow).map make =
      (madeById readNow distinctNow make).values := by
    rw [LinkedMap.values, madeById, List.map_map]
    rfl
  have fileId : ∀ {id : String} {file : LocalAttachmentRecord × List UInt8},
      fileOf before readBase id = some file ∨ fileOf now readNow id = some file →
        file.1.id = id := by
    rintro id file (found | found)
    · exact ((fileOf_eq_some_iff distinctBefore).mp found).2
    · exact ((fileOf_eq_some_iff distinctNow).mp found).2
  rw [values, LinkedMap.values_perm_iff idOf]
  · refine forall_congr' fun id => ?_
    rw [lookup_overlaid, lookup_madeById]
  · rintro id value (held | held)
    · rw [lookup_overlaid, restoredFile] at held
      obtain ⟨file, found, rfl⟩ := Option.map_eq_some_iff.mp held
      rw [named]
      split at found
      · cases found
      · split at found
        · exact fileId ((Option.or_eq_some_iff.mp found).elim Or.inr fun other => Or.inl other.2)
        · exact fileId (Or.inl found)
    · rw [lookup_madeById] at held
      obtain ⟨file, found, rfl⟩ := Option.map_eq_some_iff.mp held
      rw [named]
      exact fileId (Or.inr found)

end Restored

/-! ### Documents -/

/-- The attachment changed since the base, by its row or by the digest of its file. -/
def AttachmentChanged [Sha256] (before now : List LocalAttachmentRecord)
    (readBase readNow : String → Option (List UInt8)) (id : String) : Prop :=
  (∃ new, (now.find? fun row => row.id = id) = some new ∧
    ∀ old, (before.find? fun row => row.id = id) = some old →
      attachmentToJson old ≠ attachmentToJson new) ∨
  ∃ file, fileOf now readNow id = some file ∧
    ∀ old, fileOf before readBase id = some old → Sha256.hex old.2 ≠ Sha256.hex file.2

/-- Every attachment that the base has with its file and that is still there has its file, and
no other file of the same digest under the same row. -/
def FilesStay [Sha256] (before now : List LocalAttachmentRecord)
    (readBase readNow : String → Option (List UInt8)) : Prop :=
  ∀ old ∈ before, ∀ new ∈ now, old.id = new.id → ∀ bytes, readBase old.relativePath = some bytes →
    ∃ again, readNow new.relativePath = some again ∧
      (attachmentToJson old = attachmentToJson new → Sha256.hex bytes = Sha256.hex again →
        bytes = again)

theorem KeyedRows.nodup_attachments {records : List LocalAttachmentRecord}
    (keyed : KeyedRows (records.map attachmentToJson)) :
    (records.map LocalAttachmentRecord.id).Nodup := by
  have distinct := keyed.distinct
  rwa [List.map_map] at distinct

section Document

variable [Sha256] {fresh : String} {base current delta result : BackupDocument}
  {before now : List LocalAttachmentRecord} {readBase readNow : String → Option (List UInt8)}

/-- The attachments whose files are put into an incremental. -/
theorem mem_changedAttachmentIds_iff (inBase : base.ExportsAttachments before readBase)
    (inCurrent : current.ExportsAttachments now readNow)
    (old : KeyedRows (before.map attachmentToJson)) (new : KeyedRows (now.map attachmentToJson))
    {deltas : List (String × TableDelta)}
    (listed : deltas.lookup "attachments" =
      some ⟨new.byId.changed sameText old.byId, new.byId.missing old.byId⟩) {id : String} :
    id ∈ changedAttachmentIds current base deltas ↔
      AttachmentChanged before now readBase readNow id := by
  have distinctBefore := old.nodup_attachments
  have distinctNow := new.nodup_attachments
  have hashes : base.attachmentBinaries.foldl
      (fun map binary => map.put binary.id (Sha256.hex binary.bytes)) .empty =
        madeById readBase distinctBefore fun file => Sha256.hex file.2 := by
    rw [inBase.binaries, List.foldl_map, madeById, ← LinkedMap.foldl_put_empty, List.foldl_map]
    rfl
  rw [changedAttachmentIds, AttachmentChanged, listed, hashes, List.mem_append]
  refine or_congr ?_ ?_
  · show id ∈ (new.byId.changed sameText old.byId).map Prod.fst ↔ _
    constructor
    · intro member
      obtain ⟨⟨_, row⟩, inDiff, rfl⟩ := List.mem_map.mp member
      obtain ⟨inNow, differs⟩ := List.mem_filter.mp inDiff
      have found := LinkedMap.lookup_eq_some_iff.mpr inNow
      rw [new.lookup_byId_map] at found
      obtain ⟨attachment, isNow, rfl⟩ := Option.map_eq_some_iff.mp found
      refine ⟨attachment, isNow, fun earlier isOld same => ?_⟩
      rw [old.lookup_byId_map] at differs
      have isBefore : (before.find? fun item => BackupRow.id (attachmentToJson item) = _) =
        some earlier := isOld
      rw [isBefore, ← same] at differs
      simp [sameText] at differs
    · rintro ⟨attachment, isNow, differs⟩
      have found : new.byId.lookup id = some (attachmentToJson attachment) := by
        rw [new.lookup_byId_map]
        exact congrArg (Option.map attachmentToJson) isNow
      refine List.mem_map.mpr ⟨(id, attachmentToJson attachment), List.mem_filter.mpr
        ⟨LinkedMap.lookup_eq_some_iff.mp found, ?_⟩, rfl⟩
      dsimp only
      cases isOld : old.byId.lookup id with
      | none => rfl
      | some row =>
        cases same : sameText row (attachmentToJson attachment) with
        | false => rw [Option.any_some, same]; rfl
        | true =>
          obtain rfl := sameText_tells old new id _ _ isOld found same
          rw [old.lookup_byId_map] at isOld
          obtain ⟨earlier, isBefore, equal⟩ := Option.map_eq_some_iff.mp isOld
          exact absurd equal (differs earlier isBefore)
  · rw [inCurrent.binaries, List.mem_map]
    constructor
    · rintro ⟨binary, member, rfl⟩
      obtain ⟨made, differs⟩ := List.mem_filter.mp member
      obtain ⟨file, inFiles, rfl⟩ := List.mem_map.mp made
      refine ⟨file, (fileOf_eq_some_iff distinctNow).mpr ⟨inFiles, rfl⟩, fun earlier found same => ?_⟩
      have held : fileOf before readBase (attachmentBinary file).id = some earlier := found
      rw [lookup_madeById, held] at differs
      exact of_decide_eq_true differs (congrArg some same)
    · rintro ⟨file, found, differs⟩
      obtain ⟨inFiles, rfl⟩ := (fileOf_eq_some_iff distinctNow).mp found
      refine ⟨attachmentBinary file, List.mem_filter.mpr
        ⟨List.mem_map_of_mem inFiles, decide_eq_true fun same => ?_⟩, rfl⟩
      rw [lookup_madeById] at same
      obtain ⟨earlier, isOld, equal⟩ := Option.map_eq_some_iff.mp same
      exact differs earlier isOld equal

/-- Rows of one text are of attachments with the same file. -/
theorem attachmentEntry_eq {old new : LocalAttachmentRecord}
    (same : attachmentToJson old = attachmentToJson new) (bytes : List UInt8) :
    attachmentEntry (old, bytes) = attachmentEntry (new, bytes) := by
  simp only [attachmentToJson, List.cons.injEq, Prod.mk.injEq, Json.str.injEq, true_and, and_true]
    at same
  obtain ⟨id, -, -, fileName, mime, relativePath, -⟩ := same
  simp only [attachmentEntry, id, fileName, mime, relativePath]

/-- An attachment with its file on both sides has changed in its row or in its digest. -/
theorem attachmentChanged_iff {id : String} {old new : LocalAttachmentRecord}
    {bytes again : List UInt8} (isOld : (before.find? fun row => row.id = id) = some old)
    (isNow : (now.find? fun row => row.id = id) = some new)
    (baseFile : fileOf before readBase id = some (old, bytes))
    (nowFile : fileOf now readNow id = some (new, again)) :
    AttachmentChanged before now readBase readNow id ↔
      attachmentToJson old ≠ attachmentToJson new ∨ Sha256.hex bytes ≠ Sha256.hex again := by
  rw [AttachmentChanged, isOld, isNow, baseFile, nowFile]
  simp only [Option.some.injEq, exists_eq_left', forall_eq']

section Chosen

variable {chosen removed : List String} {id : String}

omit [Sha256] in
/-- Of an attachment that is gone nothing comes back, -/
theorem restoredFile_of_gone
    (isRemoved : id ∈ removed ↔ (before.find? fun row => row.id = id).isSome ∧
      (now.find? fun row => row.id = id) = none)
    (isNow : (now.find? fun row => row.id = id) = none) :
    restoredFile chosen removed before now readBase readNow id = none := by
  have noFile : fileOf now readNow id = none := by rw [fileOf, isNow]; rfl
  rw [restoredFile, noFile, Option.none_or, ite_self]
  by_cases gone : id ∈ removed
  · rw [if_pos gone]
  · have notBefore : (before.find? fun row => row.id = id) = none := by
      by_contra held
      exact gone (isRemoved.mpr ⟨Option.isSome_iff_ne_none.mpr held, isNow⟩)
    rw [if_neg gone, fileOf, notBefore]
    rfl

/-- of one without a file in the base the file of now, -/
theorem restoredFile_of_noBase
    (isChosen : id ∈ chosen ↔ AttachmentChanged before now readBase readNow id)
    (stays : id ∉ removed) (noBase : fileOf before readBase id = none) :
    restoredFile chosen removed before now readBase readNow id = fileOf now readNow id := by
  rw [restoredFile, if_neg stays, noBase, Option.or_none]
  by_cases put : id ∈ chosen
  · rw [if_pos put]
  · rw [if_neg put]
    cases found : fileOf now readNow id with
    | none => rfl
    | some file =>
      exact absurd (isChosen.mpr (Or.inr ⟨file, found, by rw [noBase]; nofun⟩)) put

/-- and of one with both files the one of now if it has changed, and else the one of the base. -/
theorem restoredFile_same_of_both {old new : LocalAttachmentRecord} {bytes again : List UInt8}
    (isChosen : id ∈ chosen ↔
      attachmentToJson old ≠ attachmentToJson new ∨ Sha256.hex bytes ≠ Sha256.hex again)
    (stays : id ∉ removed) (baseFile : fileOf before readBase id = some (old, bytes))
    (nowFile : fileOf now readNow id = some (new, again)) :
    ((restoredFile chosen removed before now readBase readNow id).map attachmentEntry =
        (fileOf now readNow id).map attachmentEntry ∧
      (restoredFile chosen removed before now readBase readNow id).map attachmentBinary =
        (fileOf now readNow id).map attachmentBinary) ↔
    (attachmentToJson old = attachmentToJson new → Sha256.hex bytes = Sha256.hex again →
      bytes = again) := by
  rw [restoredFile, if_neg stays, baseFile, nowFile, Option.some_or]
  by_cases put : id ∈ chosen
  · rw [if_pos put]
    refine iff_of_true ⟨rfl, rfl⟩ fun sameRow sameHash => ?_
    rcases isChosen.mp put with differs | differs
    · exact absurd sameRow differs
    · exact absurd sameHash differs
  · rw [if_neg put]
    have unchanged := not_or.mp (put ∘ isChosen.mpr)
    have sameRow := not_ne_iff.mp unchanged.1
    have sameHash := not_ne_iff.mp unchanged.2
    constructor
    · rintro ⟨-, sameBinary⟩ _ _
      exact congrArg AttachmentBinary.bytes (Option.some.inj sameBinary)
    · intro equal
      obtain rfl := equal sameRow sameHash
      have sameId : old.id = new.id := Json.str.inj
        (congrArg Prod.snd (List.cons.inj sameRow).1)
      refine ⟨congrArg some (attachmentEntry_eq sameRow bytes), congrArg some ?_⟩
      rw [attachmentBinary, attachmentBinary, sameId]

omit [Sha256] in
theorem forall_of_both {α β : Type*} {item : α} {other : β} {holds : α → β → Prop} :
    (∀ first second, some item = some first → some other = some second → holds first second) ↔
      holds item other := by
  constructor
  · exact fun each => each item other rfl rfl
  · rintro here _ _ ⟨⟩ ⟨⟩
    exact here

/-- What comes back under an id is the file of the current backup, entry and bytes. -/
theorem restoredFile_same_iff
    (isChosen : id ∈ chosen ↔ AttachmentChanged before now readBase readNow id)
    (isRemoved : id ∈ removed ↔ (before.find? fun row => row.id = id).isSome ∧
      (now.find? fun row => row.id = id) = none) :
    ((restoredFile chosen removed before now readBase readNow id).map attachmentEntry =
        (fileOf now readNow id).map attachmentEntry ∧
      (restoredFile chosen removed before now readBase readNow id).map attachmentBinary =
        (fileOf now readNow id).map attachmentBinary) ↔
    ∀ old new, (before.find? fun row => row.id = id) = some old →
      (now.find? fun row => row.id = id) = some new →
      ∀ bytes, readBase old.relativePath = some bytes →
        ∃ again, readNow new.relativePath = some again ∧
          (attachmentToJson old = attachmentToJson new → Sha256.hex bytes = Sha256.hex again →
            bytes = again) := by
  cases isNow : now.find? fun row => row.id = id with
  | none =>
    have noFile : fileOf now readNow id = none := by rw [fileOf, isNow]; rfl
    rw [restoredFile_of_gone isRemoved isNow, noFile]
    exact iff_of_true ⟨rfl, rfl⟩ fun _ _ _ impossible => nomatch impossible
  | some new =>
    have stays : id ∉ removed := fun gone => absurd (isRemoved.mp gone).2 (by rw [isNow]; nofun)
    have nowFile : fileOf now readNow id =
        (readNow new.relativePath).map fun bytes => (new, bytes) := by
      rw [fileOf, isNow]
      rfl
    cases isOld : before.find? fun row => row.id = id with
    | none =>
      have noFile : fileOf before readBase id = none := by rw [fileOf, isOld]; rfl
      rw [restoredFile_of_noBase isChosen stays noFile]
      exact iff_of_true ⟨rfl, rfl⟩ fun _ _ impossible => nomatch impossible
    | some old =>
      have baseFile : fileOf before readBase id =
          (readBase old.relativePath).map fun bytes => (old, bytes) := by
        rw [fileOf, isOld]
        rfl
      refine Iff.trans ?_ forall_of_both.symm
      cases inBase : readBase old.relativePath with
      | none =>
        rw [inBase, Option.map_none] at baseFile
        rw [restoredFile_of_noBase isChosen stays baseFile]
        exact iff_of_true ⟨rfl, rfl⟩ fun _ impossible => nomatch impossible
      | some bytes =>
        rw [inBase, Option.map_some] at baseFile
        simp only [Option.some.injEq, forall_eq']
        cases inNow : readNow new.relativePath with
        | none =>
          -- the file of the base comes back, and there is none now
          rw [inNow, Option.map_none] at nowFile
          refine iff_of_false ?_ fun ⟨_, impossible, _⟩ => nomatch impossible
          rw [restoredFile, if_neg stays, nowFile, baseFile, Option.none_or, ite_self]
          exact fun both => nomatch both.1
        | some again =>
          rw [inNow, Option.map_some] at nowFile
          rw [attachmentChanged_iff isOld isNow baseFile nowFile] at isChosen
          rw [restoredFile_same_of_both isChosen stays baseFile nowFile]
          simp only [Option.some.injEq, exists_eq_left']

end Chosen

/-- The files that stay, id by id. -/
theorem filesStay_iff (distinctBefore : (before.map LocalAttachmentRecord.id).Nodup)
    (distinctNow : (now.map LocalAttachmentRecord.id).Nodup) :
    FilesStay before now readBase readNow ↔
      ∀ id old new, (before.find? fun row => row.id = id) = some old →
        (now.find? fun row => row.id = id) = some new →
        ∀ bytes, readBase old.relativePath = some bytes →
          ∃ again, readNow new.relativePath = some again ∧
            (attachmentToJson old = attachmentToJson new → Sha256.hex bytes = Sha256.hex again →
              bytes = again) := by
  constructor
  · intro stay id old new isOld isNew
    have oldId : old.id = id := by simpa using List.find?_some isOld
    have newId : new.id = id := by simpa using List.find?_some isNew
    have sameId := oldId.trans newId.symm
    exact stay old (List.mem_of_find?_eq_some isOld) new (List.mem_of_find?_eq_some isNew) sameId
  · intro stay old inBefore new inNow sameId
    exact stay old.id old new (find?_attachment distinctBefore inBefore)
      (by rw [sameId]; exact find?_attachment distinctNow inNow)

/-- An incremental of a backup of the attachments, applied to its base, gives the index and the
files of the backup exactly if the files stay. -/
theorem attachments_restored_iff (inBase : base.ExportsAttachments before readBase)
    (inCurrent : current.ExportsAttachments now readNow)
    (built : buildIncremental fresh current base = .ok delta)
    (applied : applyIncremental base delta = .ok result) :
    (result.attachmentIndex.Perm current.attachmentIndex ∧
      result.attachmentBinaries.Perm current.attachmentBinaries) ↔
        FilesStay before now readBase readNow := by
  obtain ⟨deltas, tables, index, binaries⟩ := buildIncremental_eq_ok built
  obtain ⟨diff, made, listed, -, deletions⟩ := tables "attachments" (by decide)
  obtain ⟨old, new, rfl⟩ := tableDelta_eq_ok inBase.rows inCurrent.rows
    (numeric_attachmentToJson before) (numeric_attachmentToJson now) made
  have distinctBefore := old.nodup_attachments
  have distinctNow := new.nodup_attachments
  obtain ⟨-, restoredIndex, restoredBinaries⟩ := applyIncremental_eq_ok applied
  rw [deletions] at restoredIndex restoredBinaries
  have chosenFiles : ∀ {Value : Type} (make : LocalAttachmentRecord × List UInt8 → Value),
      ((attachmentFiles now readNow).filter fun file =>
        file.1.id ∈ changedAttachmentIds current base deltas).map
          (fun file => (file.1.id, make file)) =
        (madeById readNow distinctNow make).entries.filter fun entry =>
          entry.1 ∈ changedAttachmentIds current base deltas := by
    intro Value make
    rw [madeById, List.filter_map]
    rfl
  have overlaidIndex : result.attachmentIndex = (overlaid readBase readNow distinctBefore
      distinctNow (changedAttachmentIds current base deltas) (new.byId.missing old.byId)
      attachmentEntry).values := by
    have delta : delta.attachmentIndex = ((attachmentFiles now readNow).filter fun file =>
        file.1.id ∈ changedAttachmentIds current base deltas).map attachmentEntry := by
      rw [index, inCurrent.index, List.filter_map]
      rfl
    rw [restoredIndex, inBase.index, delta, indexById_files, indexById_files, chosenFiles,
      LinkedMap.foldl_put_empty _ (by rw [List.map_map]; exact nodup_files distinctBefore)]
    rfl
  have overlaidBinaries : result.attachmentBinaries = (overlaid readBase readNow distinctBefore
      distinctNow (changedAttachmentIds current base deltas) (new.byId.missing old.byId)
      attachmentBinary).values := by
    have delta : delta.attachmentBinaries = ((attachmentFiles now readNow).filter fun file =>
        file.1.id ∈ changedAttachmentIds current base deltas).map attachmentBinary := by
      rw [binaries, inCurrent.binaries, List.filter_map]
      rfl
    rw [restoredBinaries, List.foldl_append, inBase.binaries, delta, binaries_files, binaries_files,
      chosenFiles,
      LinkedMap.foldl_put_empty _ (by rw [List.map_map]; exact nodup_files distinctBefore)]
    rfl
  rw [overlaidIndex, overlaidBinaries, inCurrent.index, inCurrent.binaries,
    values_overlaid_perm_iff _ _ _ _ attachmentEntry BackupRow.id fun _ => rfl,
    values_overlaid_perm_iff _ _ _ _ attachmentBinary AttachmentBinary.id fun _ => rfl,
    filesStay_iff distinctBefore distinctNow, ← forall_and]
  refine forall_congr' fun id => restoredFile_same_iff
    (mem_changedAttachmentIds_iff inBase inCurrent old new listed) ?_
  rw [LinkedMap.mem_missing_iff, old.lookup_byId_map, new.lookup_byId_map, Option.isSome_map,
    Option.map_eq_none_iff]
  rfl

end Document

/-! ### A receipt -/

/-- An attachment. -/
def receipt : LocalAttachmentRecord where
  id := "receipt"
  bookId := "book"
  transactionId := "lunch"
  fileName := "receipt.png"
  mime := "image/png"
  relativePath := "attachments/receipt.png"
  createdAt := 0

/-- A document of the attachments of a device. -/
def ofAttachments [Sha256] (backupId : String) (attachments : List LocalAttachmentRecord)
    (readBytes : String → Option (List UInt8)) : BackupDocument where
  summary := ⟨0, 0, 0, 0, 0, 0, attachments.length, 0⟩
  payload := [("attachments", .arr ((attachments.map attachmentToJson).map .obj))]
  attachmentIndex := (attachmentFiles attachments readBytes).map attachmentEntry
  attachmentBinaries := (attachmentFiles attachments readBytes).map attachmentBinary
  backupId := some backupId

theorem exports_ofAttachments [Sha256] (backupId : String)
    (attachments : List LocalAttachmentRecord) (readBytes : String → Option (List UInt8)) :
    (ofAttachments backupId attachments readBytes).ExportsAttachments attachments readBytes :=
  ⟨asList_rows _ _, rfl, rfl⟩

/-- Another attachment. -/
def ticket : LocalAttachmentRecord where
  id := "ticket"
  bookId := "book"
  transactionId := "train"
  fileName := "ticket.png"
  mime := "image/png"
  relativePath := "attachments/ticket.png"
  createdAt := 0

/-- The ticket once more, with another file. -/
def newTicket : LocalAttachmentRecord :=
  { ticket with fileName := "new.png", relativePath := "attachments/new.png" }

/-- A third one. -/
def photo : LocalAttachmentRecord :=
  { receipt with id := "photo", fileName := "photo.png", relativePath := "attachments/photo.png" }

/-- The files on the device: that of the new ticket has a byte, the others are empty. -/
def deviceFiles (relativePath : String) : Option (List UInt8) :=
  if relativePath = "attachments/new.png" then some [7] else some []

theorem ticket_stays : @FilesStay emptySha256 [receipt, ticket] [receipt, newTicket, photo]
    deviceFiles deviceFiles := by
  intro old inBefore new inNow same bytes read
  simp only [List.mem_cons, List.not_mem_nil, or_false] at inBefore inNow
  rcases inBefore with rfl | rfl
  · rcases inNow with rfl | rfl | rfl
    · exact ⟨bytes, read, fun _ _ => rfl⟩
    · exact absurd same (by decide)
    · exact absurd same (by decide)
  · rcases inNow with rfl | rfl | rfl
    · exact absurd same (by decide)
    · refine ⟨[7], rfl, fun sameRow => ?_⟩
      have names := congrArg (List.lookup "fileName") sameRow
      exact absurd (Json.str.inj (Option.some.inj names)) (by decide)
    · exact absurd same (by decide)

set_option maxRecDepth 4000 in
/-- The receipt stays, the ticket has another file, and the photo is new since the backup. -/
theorem receipt_comes_back :
    ∃ delta result,
      @buildIncremental emptySha256 ""
        (@ofAttachments emptySha256 "may-31" [receipt, newTicket, photo] deviceFiles)
        (@ofAttachments emptySha256 "may-1" [receipt, ticket] deviceFiles) = .ok delta ∧
      applyIncremental (@ofAttachments emptySha256 "may-1" [receipt, ticket] deviceFiles) delta =
        .ok result ∧
      result.attachmentIndex.Perm
        (@ofAttachments emptySha256 "may-31" [receipt, newTicket, photo] deviceFiles).attachmentIndex ∧
      result.attachmentBinaries.Perm (@ofAttachments emptySha256 "may-31"
        [receipt, newTicket, photo] deviceFiles).attachmentBinaries :=
  ⟨_, _, rfl, rfl, (@attachments_restored_iff emptySha256 "" _ _ _ _ [receipt, ticket]
    [receipt, newTicket, photo] _ _ (@exports_ofAttachments emptySha256 _ _ _)
    (@exports_ofAttachments emptySha256 _ _ _) rfl rfl).mpr ticket_stays⟩

set_option maxRecDepth 4000 in
/-- The file of the receipt was lost since the backup. The row has not changed, and the file
comes back, which the current backup has not. -/
theorem lost_receipt_comes_back :
    ∃ delta result,
      @buildIncremental emptySha256 "" (@ofAttachments emptySha256 "may-31" [receipt] fun _ => none)
        (@ofAttachments emptySha256 "may-1" [receipt] fun _ => some []) = .ok delta ∧
      applyIncremental (@ofAttachments emptySha256 "may-1" [receipt] fun _ => some []) delta =
        .ok result ∧
      (@ofAttachments emptySha256 "may-31" [receipt] fun _ => none).attachmentBinaries = [] ∧
      result.attachmentBinaries = [⟨"receipt", []⟩] :=
  ⟨_, _, rfl, rfl, rfl, rfl⟩

end Ledgerly
