/-
This file proves that an incremental backup applied to its base is the backup it was made
of: every table has the rows of the current document, and the incremental holds none that
the base has. Per table, the two passes are a patch of two maps by the ids of their rows.
-/

import Ledgerly.IncrementalBackup
import Ledgerly.Library.Partial

namespace Ledgerly

/-! ### Rows by id -/

/-- The id of a row, empty for a row that has none. -/
def BackupRow.id (row : BackupRow) : String :=
  match row.lookup "id" with
  | some (.str id) => id
  | _ => ""

theorem rowId_eq {row : BackupRow} (identified : BackupRow.id row ≠ "") (key : String) :
    rowId row key = .ok (BackupRow.id row) := by
  unfold rowId
  unfold BackupRow.id at identified ⊢
  cases found : row.lookup "id" with
  | none =>
    rw [found] at identified
    exact absurd rfl identified
  | some value =>
    rw [found] at identified
    cases value with
    | str id => exact if_neg identified
    | null | bool _ | num _ | arr _ | obj _ => exact absurd rfl identified

/-- The rows of a table have unique ids that are not empty, and are values JSON has. -/
structure KeyedRows (rows : List BackupRow) : Prop where
  identified : ∀ row ∈ rows, BackupRow.id row ≠ ""
  distinct : (rows.map BackupRow.id).Nodup
  numeric : ∀ row ∈ rows, Json.Numeric (.obj row)

namespace KeyedRows

variable {rows : List BackupRow}

/-- The rows of a table by their ids. -/
def byId (keyed : KeyedRows rows) : LinkedMap String BackupRow where
  entries := rows.map fun row => (BackupRow.id row, row)
  nodup := by
    rw [List.map_map]
    exact keyed.distinct

theorem values_byId (keyed : KeyedRows rows) : keyed.byId.values = rows := by
  rw [LinkedMap.values, byId, List.map_map]
  exact List.map_id rows

theorem lookup_byId_iff (keyed : KeyedRows rows) {id : String} {row : BackupRow} :
    keyed.byId.lookup id = some row ↔ row ∈ rows ∧ BackupRow.id row = id := by
  rw [LinkedMap.lookup_eq_some_iff]
  show (id, row) ∈ rows.map _ ↔ _
  rw [List.mem_map]
  constructor
  · rintro ⟨_, member, equal⟩
    obtain ⟨rfl, rfl⟩ := Prod.mk.inj equal
    exact ⟨member, rfl⟩
  · rintro ⟨member, rfl⟩
    exact ⟨row, member, rfl⟩

theorem rowsById_eq (keyed : KeyedRows rows) (key : String) : rowsById rows key = .ok keyed.byId := by
  have loop : ∀ (rows : List BackupRow) (map : LinkedMap String BackupRow),
      (∀ row ∈ rows, BackupRow.id row ≠ "") →
      (map.keys ++ rows.map BackupRow.id).Nodup →
      ∃ result, rows.foldlM (fun result row => do
          let id ← rowId row key
          if (result.lookup id).isSome then .error ("备份中存在重复 " ++ key ++ "：" ++ id)
          else .ok (result.put id row)) map = Except.ok (ε := BackupError) result ∧
        result.entries = map.entries ++ rows.map fun row => (BackupRow.id row, row) := by
    intro rows
    induction rows with
    | nil => exact fun map _ _ => ⟨map, rfl, (List.append_nil _).symm⟩
    | cons row rest inductionHypothesis =>
      intro map identified distinct
      rw [List.map_cons] at distinct
      have new : map.lookup (BackupRow.id row) = none :=
        LinkedMap.lookup_eq_none_iff.mpr fun member =>
          (List.nodup_append.mp distinct).2.2 _ member _ List.mem_cons_self rfl
      have entries := LinkedMap.entries_put_of_lookup_eq_none new row
      have keys : (map.put (BackupRow.id row) row).keys = map.keys ++ [BackupRow.id row] := by
        rw [LinkedMap.keys, entries, List.map_append]
        rfl
      obtain ⟨result, made, same⟩ := inductionHypothesis (map.put (BackupRow.id row) row)
        (fun other member => identified other (List.mem_cons_of_mem _ member))
        (by rw [keys, List.append_assoc]; exact distinct)
      refine ⟨result, ?_, ?_⟩
      · rw [List.foldlM_cons, rowId_eq (identified row List.mem_cons_self)]
        show (if (map.lookup (BackupRow.id row)).isSome then _ else Except.ok _) >>= _ = _
        rw [new]
        exact made
      · rw [same, entries, List.append_assoc]
        rfl
  obtain ⟨result, made, same⟩ := loop rows .empty keyed.identified keyed.distinct
  rw [rowsById, made]
  obtain ⟨entries, nodup⟩ := result
  obtain rfl : entries = _ := same
  rfl

section OfItems

variable {Item : Type} {toRow : Item → BackupRow} {items : List Item}
  (keyed : KeyedRows (items.map toRow))

theorem keys_byId_map : keyed.byId.keys = items.map fun item => BackupRow.id (toRow item) := by
  rw [LinkedMap.keys, byId, List.map_map, List.map_map]
  rfl

theorem lookup_byId_map (id : String) :
    keyed.byId.lookup id =
      (items.find? fun item => BackupRow.id (toRow item) = id).map toRow := by
  rw [LinkedMap.lookup, byId]
  dsimp only
  rw [List.map_map, List.find?_map, Option.map_map]
  rfl

include keyed

theorem find?_id {item : Item} (member : item ∈ items) :
    (items.find? fun other => BackupRow.id (toRow other) = BackupRow.id (toRow item)) =
      some item := by
  have distinct : (items.map fun item => BackupRow.id (toRow item)).Nodup := by
    rw [← keys_byId_map keyed]
    exact keyed.byId.nodup
  cases found : items.find? fun other => BackupRow.id (toRow other) = BackupRow.id (toRow item) with
  | none => exact absurd (List.find?_eq_none.mp found item member) (by simp)
  | some other =>
    have same := List.inj_on_of_nodup_map distinct (List.mem_of_find?_eq_some found) member
      (by simpa using List.find?_some found)
    rw [same]

end OfItems

end KeyedRows

/-- The rows of the current table that its diff with the base holds, put over rows by their
ids. -/
theorem foldlM_put_rows (changes : List (String × BackupRow)) (key : String)
    (identified : ∀ entry ∈ changes, entry.1 = BackupRow.id entry.2 ∧ BackupRow.id entry.2 ≠ "")
    (map : LinkedMap String BackupRow) :
    (changes.map Prod.snd).foldlM (fun merged row => do
        let id ← rowId row key
        .ok (merged.put id row)) map =
      Except.ok (ε := BackupError)
        (changes.foldl (fun merged entry => merged.put entry.1 entry.2) map) := by
  induction changes generalizing map with
  | nil => rfl
  | cons entry rest inductionHypothesis =>
    obtain ⟨same, nonempty⟩ := identified entry List.mem_cons_self
    rw [List.map_cons, List.foldlM_cons, rowId_eq nonempty, List.foldl_cons, same]
    exact inductionHypothesis (fun other member => identified other (List.mem_cons_of_mem _ member)) _

/-! ### Tables -/

@[simp]
theorem asList_rows (rows : List BackupRow) (field : String) :
    asList (some (.arr (rows.map .obj))) field = .ok rows := by
  show Except.ok ((rows.map Json.obj).filterMap _) = Except.ok rows
  rw [List.filterMap_map]
  exact congrArg Except.ok (List.filterMap_some)

/-- The rows of a table of a document. -/
def BackupDocument.Holds (document : BackupDocument) (key : String) (rows : List BackupRow) :
    Prop :=
  asList (document.payload.lookup key) key = .ok rows

/-- Every table of the document has its rows under unique ids. -/
def BackupDocument.Keyed (document : BackupDocument) : Prop :=
  ∀ key ∈ deltaEntityKeys, ∃ rows, document.Holds key rows ∧ KeyedRows rows

/-- The summary counts the rows of every table. -/
def BackupDocument.Counted (document : BackupDocument) : Prop :=
  ∀ key ∈ deltaEntityKeys, ∀ rows, document.Holds key rows →
    document.summary.count key = rows.length

section Table

variable {base current : BackupDocument} {key : String} {before now : List BackupRow}
  (old : KeyedRows before) (new : KeyedRows now)

include old new

/-- What the diff of a table is. -/
theorem tableDelta_eq (inBase : base.Holds key before) (inCurrent : current.Holds key now) :
    tableDelta current base key =
      .ok ⟨new.byId.changed sameText old.byId, new.byId.missing old.byId⟩ := by
  unfold tableDelta
  rw [inCurrent, inBase]
  dsimp only [bind, Except.bind]
  rw [new.rowsById_eq, old.rowsById_eq]
  rfl

theorem changed_identified : ∀ entry ∈ new.byId.changed sameText old.byId,
    entry.1 = BackupRow.id entry.2 ∧ BackupRow.id entry.2 ≠ "" := by
  intro entry member
  obtain ⟨row, inTable, rfl⟩ := List.mem_map.mp (List.mem_of_mem_filter member)
  exact ⟨rfl, new.identified row inTable⟩

/-- The diff of a table holds no row of the base. -/
theorem changed_notMem : ∀ entry ∈ new.byId.changed sameText old.byId, entry.2 ∉ before := by
  intro entry member inBase
  have kept := (List.mem_filter.mp member).2
  have same := (changed_identified old new entry member).1
  rw [same, old.lookup_byId_iff.mpr ⟨inBase, rfl⟩, Option.any_some, sameText, decide_eq_true rfl]
    at kept
  exact absurd kept (by decide)

/-- Rows of one text are the same row. -/
theorem sameText_tells (id : String) (previous row : BackupRow)
    (inBase : old.byId.lookup id = some previous) (inCurrent : new.byId.lookup id = some row)
    (same : sameText previous row) : previous = row := by
  have numericOld := old.numeric previous (old.lookup_byId_iff.mp inBase).1
  have numericNew := new.numeric row (new.lookup_byId_iff.mp inCurrent).1
  exact Json.obj.inj (Json.jsonEncode_injective numericOld numericNew (of_decide_eq_true same))

/-- The rows of the base, patched, are the rows of the current table. -/
theorem patched_perm :
    ((new.byId.changed sameText old.byId).foldl (fun map entry => map.put entry.1 entry.2)
      ((new.byId.missing old.byId).foldl LinkedMap.remove old.byId)).values.Perm now := by
  have same : ∀ id, ((new.byId.changed sameText old.byId).foldl
        (fun map entry => map.put entry.1 entry.2)
        ((new.byId.missing old.byId).foldl LinkedMap.remove old.byId)).lookup id =
      new.byId.lookup id :=
    fun id => LinkedMap.lookup_patch (sameText_tells old new id)
  have patched := LinkedMap.values_perm same
  rwa [new.values_byId] at patched

/-- A patched table is read whole. -/
theorem mergedRows_eq (inBase : base.Holds key before) {delta : BackupDocument}
    (changes : delta.payload.lookup key = some (.arr
      ((new.byId.changed sameText old.byId).map fun entry => .obj entry.2)))
    (deletions : (delta.deleted.lookup key).getD [] = new.byId.missing old.byId) :
    mergedRows base delta key = .ok ((new.byId.changed sameText old.byId).foldl
      (fun map entry => map.put entry.1 entry.2)
      ((new.byId.missing old.byId).foldl LinkedMap.remove old.byId)).values := by
  have read : asList (delta.payload.lookup key) key =
      .ok ((new.byId.changed sameText old.byId).map Prod.snd) := by
    rw [changes, ← asList_rows, List.map_map]
    rfl
  unfold mergedRows
  rw [inBase, read, deletions]
  dsimp only [bind, Except.bind]
  rw [old.rowsById_eq]
  exact congrArg (fun made : Except BackupError (LinkedMap String BackupRow) =>
    made >>= fun merged => pure merged.values)
    (foldlM_put_rows _ key (changed_identified old new) _)

/-- The rows of a patched table. -/
theorem mergedRows_perm (inBase : base.Holds key before) {delta : BackupDocument}
    (changes : delta.payload.lookup key = some (.arr
      ((new.byId.changed sameText old.byId).map fun entry => .obj entry.2)))
    (deletions : (delta.deleted.lookup key).getD [] = new.byId.missing old.byId) :
    ∃ rows, mergedRows base delta key = .ok rows ∧ rows.Perm now :=
  ⟨_, mergedRows_eq old new inBase changes deletions, patched_perm old new⟩

end Table

/-! ### What is built and applied -/

/-- A table of unique ids that are not empty is all that is read by its ids. -/
theorem KeyedRows.of_rowsById {rows : List BackupRow} {key : String}
    {byId : LinkedMap String BackupRow} (read : rowsById rows key = .ok byId)
    (numeric : ∀ row ∈ rows, Json.Numeric (.obj row)) : KeyedRows rows := by
  have loop : ∀ (rows : List BackupRow) (map result : LinkedMap String BackupRow),
      rows.foldlM (fun result row => do
          let id ← rowId row key
          if (result.lookup id).isSome then .error ("备份中存在重复 " ++ key ++ "：" ++ id)
          else .ok (result.put id row)) map = Except.ok (ε := BackupError) result →
      (∀ row ∈ rows, BackupRow.id row ≠ "") ∧ (map.keys ++ rows.map BackupRow.id).Nodup := by
    intro rows
    induction rows with
    | nil =>
      intro map _ _
      exact ⟨nofun, (List.append_nil _).symm ▸ map.nodup⟩
    | cons row rest inductionHypothesis =>
      intro map result made
      rw [List.foldlM_cons] at made
      obtain ⟨next, step, later⟩ := Except.bind_eq_ok.mp made
      obtain ⟨id, named, put⟩ := Except.bind_eq_ok.mp step
      have identified : BackupRow.id row = id ∧ id ≠ "" := by
        unfold rowId at named
        cases found : row.lookup "id" with
        | none =>
          rw [found] at named
          cases named
        | some field =>
          rw [found] at named
          cases field with
          | str text =>
            rw [BackupRow.id, found]
            dsimp only at named
            split at named
            · cases named
            · rename_i nonempty
              obtain rfl := Except.ok.inj named
              exact ⟨rfl, nonempty⟩
          | _ => cases named
      obtain ⟨rfl, nonempty⟩ := identified
      split at put
      · cases put
      · rename_i absent
        have new : map.lookup (BackupRow.id row) = none := by simpa using absent
        obtain rfl := Except.ok.inj put
        obtain ⟨others, distinct⟩ := inductionHypothesis _ _ later
        refine ⟨List.forall_mem_cons.mpr ⟨nonempty, others⟩, ?_⟩
        rw [LinkedMap.keys, LinkedMap.entries_put_of_lookup_eq_none new, List.map_append,
          List.append_assoc] at distinct
        exact distinct
  obtain ⟨identified, distinct⟩ := loop rows .empty byId read
  exact ⟨identified, distinct, numeric⟩

/-- What is known of an incremental that was built, table by table. -/
theorem buildIncremental_eq_ok [Sha256] {fresh : String} {current base delta : BackupDocument}
    (built : buildIncremental fresh current base = .ok delta) :
    ∃ deltas : List (String × TableDelta),
      (∀ key ∈ deltaEntityKeys, ∃ diff, tableDelta current base key = .ok diff ∧
        deltas.lookup key = some diff ∧
        delta.payload.lookup key =
          some (.arr (diff.changed.map fun entry => .obj entry.2)) ∧
        (delta.deleted.lookup key).getD [] = diff.removed) ∧
      delta.attachmentIndex = current.attachmentIndex.filter (fun entry =>
        match entry.lookup "id" with
        | some (.str id) => id ∈ changedAttachmentIds current base deltas
        | _ => false) ∧
      delta.attachmentBinaries = current.attachmentBinaries.filter fun binary =>
        binary.id ∈ changedAttachmentIds current base deltas := by
  unfold buildIncremental at built
  split at built
  · cases built
  · split at built
    · obtain ⟨deltas, tables, made⟩ := Except.bind_eq_ok.mp built
      obtain rfl := Except.ok.inj made
      have : Nonempty TableDelta := ⟨⟨[], []⟩⟩
      obtain ⟨diff, each, rfl⟩ := List.exists_of_mapM_table tables
      refine ⟨_, fun key member =>
          ⟨diff key, each key member, List.lookup_map_self diff member, ?_, ?_⟩,
        rfl, rfl⟩
      · dsimp only
        rw [List.map_map]
        exact List.lookup_map_self (fun key => Json.arr ((diff key).changed.map fun entry =>
          Json.obj entry.2)) member
      · dsimp only
        rw [List.filterMap_map]
        exact List.lookup_filterMap_nonempty (fun key => (diff key).removed) member
    · cases built

/-- What is known of a base an incremental was applied to, table by table. -/
theorem applyIncremental_eq_ok {base delta result : BackupDocument}
    (applied : applyIncremental base delta = .ok result) :
    (∀ key ∈ deltaEntityKeys, ∃ rows, mergedRows base delta key = .ok rows ∧
      result.Holds key rows) ∧
    result.attachmentIndex = (((delta.deleted.lookup "attachments").getD []).foldl LinkedMap.remove
      (indexById (indexById .empty base.attachmentIndex) delta.attachmentIndex)).values ∧
    result.attachmentBinaries = (((delta.deleted.lookup "attachments").getD []).foldl
      LinkedMap.remove ((base.attachmentBinaries ++ delta.attachmentBinaries).foldl
        (fun map binary => map.put binary.id binary) .empty)).values := by
  unfold applyIncremental at applied
  obtain ⟨payload, tables, made⟩ := Except.bind_eq_ok.mp applied
  obtain rfl := Except.ok.inj made
  obtain ⟨rows, each, rfl⟩ := List.exists_of_mapM_table
    (show deltaEntityKeys.mapM (fun key => (mergedRows base delta key).map fun rows =>
      (key, (fun rows : List BackupRow => Json.arr (rows.map .obj)) rows)) = .ok payload
    from tables)
  refine ⟨fun key member => ⟨rows key, each key member, ?_⟩, rfl, rfl⟩
  unfold BackupDocument.Holds
  rw [List.lookup_map_self (fun key => Json.arr ((rows key).map Json.obj)) member, asList_rows]

/-- A diff that was made is one of tables of unique ids that are not empty. -/
theorem tableDelta_eq_ok {current base : BackupDocument} {key : String}
    {before now : List BackupRow} {diff : TableDelta}
    (inBase : base.Holds key before) (inCurrent : current.Holds key now)
    (numericBefore : ∀ row ∈ before, Json.Numeric (.obj row))
    (numericNow : ∀ row ∈ now, Json.Numeric (.obj row))
    (made : tableDelta current base key = .ok diff) :
    ∃ (old : KeyedRows before) (new : KeyedRows now),
      diff = ⟨new.byId.changed sameText old.byId, new.byId.missing old.byId⟩ := by
  have read := made
  unfold tableDelta at read
  rw [inCurrent, inBase] at read
  obtain ⟨_, sameNow, read⟩ := Except.bind_eq_ok.mp read
  obtain ⟨_, sameBefore, read⟩ := Except.bind_eq_ok.mp read
  obtain rfl := Except.ok.inj sameNow
  obtain rfl := Except.ok.inj sameBefore
  obtain ⟨_, readNow, read⟩ := Except.bind_eq_ok.mp read
  obtain ⟨_, readBefore, -⟩ := Except.bind_eq_ok.mp read
  have old := KeyedRows.of_rowsById readBefore numericBefore
  have new := KeyedRows.of_rowsById readNow numericNow
  rw [tableDelta_eq old new inBase inCurrent] at made
  exact ⟨old, new, (Except.ok.inj made).symm⟩

/-- A table that was built into an incremental and applied: the rows that the base knows come
first, in its order. -/
theorem merged_of_built [Sha256] {fresh : String} {base current delta result : BackupDocument}
    {key : String} {before now : List BackupRow} (member : key ∈ deltaEntityKeys)
    (inBase : base.Holds key before) (inCurrent : current.Holds key now)
    (numericBefore : ∀ row ∈ before, Json.Numeric (.obj row))
    (numericNow : ∀ row ∈ now, Json.Numeric (.obj row))
    (built : buildIncremental fresh current base = .ok delta)
    (applied : applyIncremental base delta = .ok result) :
    ∃ (old : KeyedRows before) (new : KeyedRows now),
      result.Holds key (old.byId.keys.filterMap new.byId.lookup ++
        (new.byId.keys.filter fun id => id ∉ old.byId.keys).filterMap new.byId.lookup) := by
  obtain ⟨deltas, tables, -, -⟩ := buildIncremental_eq_ok built
  obtain ⟨diff, made, -, changes, deletions⟩ := tables key member
  obtain ⟨old, new, rfl⟩ := tableDelta_eq_ok inBase inCurrent numericBefore numericNow made
  obtain ⟨rows, merged, holds⟩ := (applyIncremental_eq_ok applied).1 key member
  rw [mergedRows_eq old new inBase changes deletions] at merged
  obtain rfl := Except.ok.inj merged
  rw [LinkedMap.values_patch (sameText_tells old new)] at holds
  exact ⟨old, new, holds⟩

/-! ### Documents -/

/-- What makes of a base and an incremental the backup the incremental was made of. -/
structure Rebuilds (fresh : String) (base current delta result : BackupDocument) : Prop where
  rows : ∀ key ∈ deltaEntityKeys, ∀ now, current.Holds key now →
    ∃ rows, result.Holds key rows ∧ rows.Perm now
  counted : result.Counted
  backupId : result.backupId = some (current.backupId.getD fresh)
  changed : ∀ key ∈ deltaEntityKeys, ∀ before, base.Holds key before →
    ∃ changes, delta.Holds key changes ∧ ∀ row ∈ changes, row ∉ before

/-- A diff of the tables of a base and a current document. -/
def DiffOf (base current : BackupDocument) (key : String) (diff : TableDelta) : Prop :=
  ∃ before now, base.Holds key before ∧ current.Holds key now ∧
    ∃ (old : KeyedRows before) (new : KeyedRows now),
      diff = ⟨new.byId.changed sameText old.byId, new.byId.missing old.byId⟩

/-- The incremental of a document applied to its base is the document. -/
theorem applyIncremental_buildIncremental [Sha256] (fresh baseId : String)
    (base current : BackupDocument) (identified : base.backupId = some baseId)
    (scope : current.bookIds = base.bookIds) (keyedBase : base.Keyed)
    (keyedCurrent : current.Keyed) (counted : current.Counted) :
    ∃ delta result, buildIncremental fresh current base = .ok delta ∧
      applyIncremental base delta = .ok result ∧ Rebuilds fresh base current delta result := by
  have each : ∀ key ∈ deltaEntityKeys, ∃ diff, tableDelta current base key = .ok diff ∧
      DiffOf base current key diff := by
    intro key member
    obtain ⟨before, inBase, old⟩ := keyedBase key member
    obtain ⟨now, inCurrent, new⟩ := keyedCurrent key member
    exact ⟨_, tableDelta_eq old new inBase inCurrent, before, now, inBase, inCurrent, old, new, rfl⟩
  have : Nonempty TableDelta := ⟨⟨[], []⟩⟩
  obtain ⟨diff, diffs, diffOf⟩ := List.exists_mapM_table id each
  simp only [id_eq] at diffs
  have built : ∃ delta, buildIncremental fresh current base = .ok delta ∧
      delta.payload = (deltaEntityKeys.map fun key => (key, diff key)).map (fun delta =>
        (delta.1, .arr (delta.2.changed.map fun entry => .obj entry.2))) ∧
      delta.deleted = (deltaEntityKeys.map fun key => (key, diff key)).filterMap (fun delta =>
        if delta.2.removed.isEmpty then none else some (delta.1, delta.2.removed)) ∧
      delta.summary = current.summary ∧ delta.backupId = some (current.backupId.getD fresh) := by
    unfold buildIncremental
    simp only [identified, scope, sameBackupScope_self, if_true]
    rw [diffs]
    exact ⟨_, rfl, rfl, rfl, rfl, rfl⟩
  obtain ⟨delta, made, payload, deleted, summary, backupId⟩ := built
  have changes : ∀ key ∈ deltaEntityKeys, delta.payload.lookup key =
      some (.arr ((diff key).changed.map fun entry => .obj entry.2)) := by
    intro key member
    rw [payload, List.map_map]
    exact List.lookup_map_self (fun key => Json.arr ((diff key).changed.map fun entry =>
      Json.obj entry.2)) member
  have deletions : ∀ key ∈ deltaEntityKeys,
      (delta.deleted.lookup key).getD [] = (diff key).removed := by
    intro key member
    rw [deleted, List.filterMap_map]
    exact List.lookup_filterMap_nonempty (fun key => (diff key).removed) member
  have merged : ∀ key ∈ deltaEntityKeys, ∃ rows, mergedRows base delta key = .ok rows ∧
      ∀ now, current.Holds key now → rows.Perm now := by
    intro key member
    obtain ⟨before, now, inBase, inCurrent, old, new, same⟩ := diffOf key member
    obtain ⟨rows, made, perm⟩ := mergedRows_perm old new inBase
      ((changes key member).trans (by rw [same])) ((deletions key member).trans (by rw [same]))
    refine ⟨rows, made, fun other holds => ?_⟩
    obtain rfl : now = other := Except.ok.inj (inCurrent.symm.trans holds)
    exact perm
  obtain ⟨rows, tables, perm⟩ := List.exists_mapM_table (fun rows => Json.arr (rows.map .obj)) merged
  have applied : ∃ result, applyIncremental base delta = .ok result ∧
      result.payload = (deltaEntityKeys.map fun key => (key, .arr ((rows key).map .obj))) ∧
      result.summary = delta.summary ∧ result.backupId = delta.backupId := by
    unfold applyIncremental
    rw [tables]
    exact ⟨_, rfl, rfl, rfl, rfl⟩
  obtain ⟨result, patched, inResult, sameSummary, sameId⟩ := applied
  have holds : ∀ key ∈ deltaEntityKeys, result.Holds key (rows key) := by
    intro key member
    unfold BackupDocument.Holds
    rw [inResult, List.lookup_map_self (fun key => Json.arr ((rows key).map Json.obj)) member,
      asList_rows]
  refine ⟨delta, result, made, patched, ?_, ?_, ?_, ?_⟩
  · intro key member now inCurrent
    exact ⟨rows key, holds key member, perm key member now inCurrent⟩
  · intro key member others inResult
    obtain rfl : rows key = others := Except.ok.inj ((holds key member).symm.trans inResult)
    obtain ⟨now, inCurrent, _⟩ := keyedCurrent key member
    rw [sameSummary, summary, counted key member now inCurrent,
      (perm key member now inCurrent).length_eq]
  · rw [sameId, backupId]
  · intro key member before holdsBefore
    obtain ⟨_, now, inBase, -, old, new, same⟩ := diffOf key member
    obtain rfl := Except.ok.inj (inBase.symm.trans holdsBefore)
    refine ⟨(diff key).changed.map Prod.snd, ?_, fun row inChanges => ?_⟩
    · unfold BackupDocument.Holds
      rw [changes key member, ← asList_rows, List.map_map]
      rfl
    · rw [same] at inChanges
      obtain ⟨entry, inDiff, rfl⟩ := List.mem_map.mp inChanges
      exact changed_notMem old new entry inDiff

/-! ### A month of transactions -/

/-- A document that has rows in the table of the transactions only. -/
def ofTransactions (backupId : String) (rows : List BackupRow) : BackupDocument where
  summary := ⟨0, 0, rows.length, 0, 0, 0, 0, 0⟩
  payload := [("transactions", .arr (rows.map .obj))]
  backupId := some backupId

theorem holds_ofTransactions (backupId : String) (rows : List BackupRow) (key : String) :
    (ofTransactions backupId rows).Holds key (if key = "transactions" then rows else []) := by
  unfold BackupDocument.Holds ofTransactions
  by_cases same : key = "transactions"
  · rw [if_pos same, same]
    exact asList_rows rows _
  · rw [if_neg same, List.lookup_cons, beq_false_of_ne same]
    rfl

theorem keyed_ofTransactions (backupId : String) {rows : List BackupRow} (keyed : KeyedRows rows) :
    (ofTransactions backupId rows).Keyed := by
  intro key _
  refine ⟨_, holds_ofTransactions backupId rows key, ?_⟩
  by_cases same : key = "transactions"
  · rwa [if_pos same]
  · rw [if_neg same]
    exact ⟨nofun, List.nodup_nil, nofun⟩

theorem counted_ofTransactions (backupId : String) (rows : List BackupRow) :
    (ofTransactions backupId rows).Counted := by
  intro key _ others holds
  obtain rfl := Except.ok.inj ((holds_ofTransactions backupId rows key).symm.trans holds)
  by_cases same : key = "transactions"
  · rw [if_pos same, same]
    rfl
  · rw [if_neg same]
    show BackupSummary.count ⟨0, 0, rows.length, 0, 0, 0, 0, 0⟩ key = 0
    unfold BackupSummary.count
    split
    all_goals first | rfl | exact absurd rfl same

/-- A transaction with an id and a description. -/
def transactionRow (id description : String) : BackupRow :=
  [("id", .str id), ("version", .num "1"), ("description", .str description)]

/-- Rows with a number that is one, a new text and unique ids. -/
theorem keyed_pair (first second one two : String) (named : first ≠ "" ∧ second ≠ "")
    (different : first ≠ second) :
    KeyedRows [transactionRow first one, transactionRow second two] where
  identified := by
    intro row member
    obtain rfl | rfl := List.mem_pair.mp member
    · exact named.1
    · exact named.2
  distinct := by
    show [first, second].Nodup
    exact List.nodup_cons.mpr ⟨fun member => different (List.mem_singleton.mp member),
      List.nodup_singleton _⟩
  numeric := by
    intro row member
    have one : ("1".toList ≠ [] ∧ ∀ character ∈ "1".toList, Json.inNumber character) := by
      simp [Json.inNumber]
    obtain rfl | rfl := List.mem_pair.mp member
    · exact ⟨trivial, one, trivial, trivial⟩
    · exact ⟨trivial, one, trivial, trivial⟩

/-- The backup of the first of May, -/
def mayBase : BackupDocument :=
  ofTransactions "may-1" [transactionRow "lunch" "noodles", transactionRow "rent" "due"]

/-- and what is there on the last: a row is gone, one has changed, one is new. -/
def mayNow : BackupDocument :=
  ofTransactions "may-31" [transactionRow "rent" "paid", transactionRow "tea" "green"]

/-- The lunch was removed since the full backup, the rent changed and the tea is new. -/
theorem rebuilds_month : ∃ delta result, @buildIncremental emptySha256 "" mayNow mayBase = .ok delta ∧
    applyIncremental mayBase delta = .ok result ∧ Rebuilds "" mayBase mayNow delta result :=
  @applyIncremental_buildIncremental emptySha256 "" "may-1" mayBase mayNow rfl rfl
    (keyed_ofTransactions _ (keyed_pair _ _ _ _ (by decide) (by decide)))
    (keyed_ofTransactions _ (keyed_pair _ _ _ _ (by decide) (by decide)))
    (counted_ofTransactions _ _)

end Ledgerly
