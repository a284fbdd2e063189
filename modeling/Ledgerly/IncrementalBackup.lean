/-
This file models the incremental backups of the client: the document that holds what
changed since a full backup, and the full document that is made of the two. A diff and a
patch run over eight tables in two passes; what ties them together is a patch of two maps,
and that the text of a row tells it from every other row.
-/

import Ledgerly.JsonText
import Ledgerly.BackupFiles
import Ledgerly.Library.LinkedMap
import Mathlib.Data.Finset.Card

namespace Ledgerly

/-! ### Documents -/

/-- A row of a backup, `Map<String, dynamic>`. -/
abbrev BackupRow := List (String × Json)

/-- The bytes of an attachment. -/
structure AttachmentBinary where
  id : String
  bytes : List UInt8

/-- The counts of the rows that a backup shows. -/
structure BackupSummary where
  books : Int
  accounts : Int
  transactions : Int
  transactionEntries : Int
  recurringRules : Int
  budgets : Int
  attachments : Int
  merchantRules : Int

/-- The tables of a backup that are compared row by row. -/
def deltaEntityKeys : List String :=
  ["books", "accounts", "transactions", "transactionEntries", "recurringRules", "budgets",
    "attachments", "merchantRules"]

/-- The count of a table. -/
def BackupSummary.count (summary : BackupSummary) : String → Int
  | "books" => summary.books
  | "accounts" => summary.accounts
  | "transactions" => summary.transactions
  | "transactionEntries" => summary.transactionEntries
  | "recurringRules" => summary.recurringRules
  | "budgets" => summary.budgets
  | "attachments" => summary.attachments
  | "merchantRules" => summary.merchantRules
  | _ => 0

/-- The version of a full backup, -/
def fullBackupSchemaVersion : Int := 2

/-- and of an incremental one. -/
def incrementalBackupSchemaVersion : Int := 3

/-- A backup after it is read. -/
structure BackupDocument where
  summary : BackupSummary
  payload : List (String × Json)
  bookIds : Option (Finset String) := none
  attachmentIndex : List BackupRow := []
  attachmentBinaries : List AttachmentBinary := []
  schemaVersion : Int := fullBackupSchemaVersion
  backupId : Option String := none
  baseBackupId : Option String := none
  /-- The ids that were removed, by table. -/
  deleted : List (String × List String) := []

/-- What a `BackupFormatException` says. -/
abbrev BackupError := String

/-- `_asList`: a missing table has no rows, and what is not a map is no row. -/
def asList (raw : Option Json) (field : String) : Except BackupError (List BackupRow) :=
  match raw with
  | none | some .null => .ok []
  | some (.arr items) =>
    .ok (items.filterMap fun item =>
      match item with
      | .obj fields => some fields
      | _ => none)
  | some _ => .error ("\"" ++ field ++ "\" 字段不是数组")

/-- `_rowId`. -/
def rowId (row : BackupRow) (key : String) : Except BackupError String :=
  match row.lookup "id" with
  | some (.str id) => if id = "" then .error ("备份中的 " ++ key ++ " 行缺少 id") else .ok id
  | _ => .error ("备份中的 " ++ key ++ " 行缺少 id")

/-- `_rowsById`. -/
def rowsById (rows : List BackupRow) (key : String) :
    Except BackupError (LinkedMap String BackupRow) :=
  rows.foldlM (fun result row => do
    let id ← rowId row key
    if (result.lookup id).isSome then .error ("备份中存在重复 " ++ key ++ "：" ++ id)
    else .ok (result.put id row)) .empty

/-- `_sameBackupScope`. -/
def sameBackupScope (one two : Option (Finset String)) : Bool :=
  match one, two with
  | none, none => true
  | some one, some two => one.card = two.card && two ⊆ one
  | _, _ => false

theorem sameBackupScope_self (scope : Option (Finset String)) : sameBackupScope scope scope := by
  cases scope with
  | none => rfl
  | some scope => simp [sameBackupScope]

/-! ### The diff -/

/-- The comparison of two rows by their texts. -/
def sameText (previous row : BackupRow) : Bool :=
  Json.jsonEncode (.obj previous) = Json.jsonEncode (.obj row)

/-- What a table changed by. -/
structure TableDelta where
  changed : List (String × BackupRow)
  removed : List String

/-- One round of the loop of `_buildIncremental`. -/
def tableDelta (current base : BackupDocument) (key : String) : Except BackupError TableDelta := do
  let currentRows ← asList (current.payload.lookup key) key
  let baseRows ← asList (base.payload.lookup key) key
  let currentById ← rowsById currentRows key
  let baseById ← rowsById baseRows key
  return { changed := currentById.changed sameText baseById, removed := currentById.missing baseById }

/-- The ids of the attachments whose row or file changed. -/
def changedAttachmentIds [Sha256] (current base : BackupDocument)
    (deltas : List (String × TableDelta)) : List String :=
  let baseBinaryHashes : LinkedMap String String :=
    base.attachmentBinaries.foldl (fun map binary => map.put binary.id (Sha256.hex binary.bytes))
      .empty
  (((deltas.lookup "attachments").map fun delta => delta.changed.map Prod.fst).getD []) ++
    (current.attachmentBinaries.filter fun binary =>
      baseBinaryHashes.lookup binary.id ≠ some (Sha256.hex binary.bytes)).map AttachmentBinary.id

/-- `_buildIncremental`, with the id it draws for a document that has none. -/
def buildIncremental [Sha256] (fresh : String) (current base : BackupDocument) :
    Except BackupError BackupDocument :=
  match base.backupId with
  | none => .error "基础备份缺少 backupId"
  | some baseId =>
    if sameBackupScope current.bookIds base.bookIds then do
      let deltas ← deltaEntityKeys.mapM fun key =>
        (tableDelta current base key).map fun delta => (key, delta)
      let changed := changedAttachmentIds current base deltas
      return {
        summary := current.summary
        payload := deltas.map fun delta =>
          (delta.1, .arr (delta.2.changed.map fun entry => .obj entry.2))
        bookIds := current.bookIds
        attachmentIndex := current.attachmentIndex.filter fun entry =>
          match entry.lookup "id" with
          | some (.str id) => id ∈ changed
          | _ => false
        attachmentBinaries := current.attachmentBinaries.filter fun binary => binary.id ∈ changed
        schemaVersion := incrementalBackupSchemaVersion
        backupId := some (current.backupId.getD fresh)
        baseBackupId := some baseId
        deleted := deltas.filterMap fun delta =>
          if delta.2.removed.isEmpty then none else some (delta.1, delta.2.removed) }
    else .error "增量备份范围与基础备份不一致"

/-! ### The patch -/

/-- One round of the loop of `_applyIncremental`. -/
def mergedRows (base delta : BackupDocument) (key : String) :
    Except BackupError (List BackupRow) := do
  let rows ← asList (base.payload.lookup key) key
  let merged ← rowsById rows key
  let deletedIds := (delta.deleted.lookup key).getD []
  let changes ← asList (delta.payload.lookup key) key
  let merged ← changes.foldlM (fun merged row => do
    let id ← rowId row key
    .ok (merged.put id row)) (deletedIds.foldl LinkedMap.remove merged)
  return merged.values

/-- The rows of an attachment index under their ids, after those that are there. -/
def indexById (index : LinkedMap String BackupRow) (rows : List BackupRow) :
    LinkedMap String BackupRow :=
  rows.foldl (fun map row =>
    match row.lookup "id" with
    | some (.str id) => map.put id row
    | _ => map) index

/-- `_applyIncremental`. -/
def applyIncremental (base delta : BackupDocument) : Except BackupError BackupDocument := do
  let payload ← deltaEntityKeys.mapM fun key =>
    (mergedRows base delta key).map fun rows => (key, Json.arr (rows.map .obj))
  let deletedAttachmentIds := (delta.deleted.lookup "attachments").getD []
  let attachmentIndex := deletedAttachmentIds.foldl LinkedMap.remove
    (indexById (indexById .empty base.attachmentIndex) delta.attachmentIndex)
  let binaries : LinkedMap String AttachmentBinary := deletedAttachmentIds.foldl LinkedMap.remove
    ((base.attachmentBinaries ++ delta.attachmentBinaries).foldl
      (fun map binary => map.put binary.id binary) .empty)
  return {
    summary := delta.summary
    payload := payload
    bookIds := delta.bookIds.or base.bookIds
    attachmentIndex := attachmentIndex.values
    attachmentBinaries := binaries.values
    schemaVersion := fullBackupSchemaVersion
    backupId := delta.backupId }

end Ledgerly
