/-
This file is about the tables of a database whose rows have a key: the rows in the order in which
they were put in, no two of them with one key. A row is put in where its key is free, or takes the
place of the row that has its key.

A loop that puts in one row after the other may come to an end before the last. What it has put in
until then is either undone or stays.
-/

import Ledgerly.Library.Partial
import Mathlib.Data.List.Nodup

/-- A table, its rows in the order in which they were put in. -/
structure KeyedTable (Row : Type*) {Key : Type*} (key : Row → Key) where
  rows : List Row
  distinct : (rows.map key).Nodup

namespace KeyedTable

variable {Row Key : Type*} {key : Row → Key}

@[ext]
theorem ext {one two : KeyedTable Row key} (same : one.rows = two.rows) : one = two := by
  cases one
  cases two
  cases same
  rfl

/-- A table without rows. -/
def empty : KeyedTable Row key := ⟨[], List.nodup_nil⟩

@[simp]
theorem rows_empty : (empty : KeyedTable Row key).rows = [] := rfl

/-- The rows that are kept by a `DELETE`. -/
def filter (keeps : Row → Bool) (table : KeyedTable Row key) : KeyedTable Row key where
  rows := table.rows.filter keeps
  distinct := table.distinct.sublist (List.filter_sublist.map key)

@[simp]
theorem rows_filter (keeps : Row → Bool) (table : KeyedTable Row key) :
    (table.filter keeps).rows = table.rows.filter keeps := rfl

theorem nodup_concat {rows : List Row} {row : Row} (distinct : (rows.map key).Nodup)
    (free : key row ∉ rows.map key) : ((rows ++ [row]).map key).Nodup := by
  rw [List.map_append, List.map_singleton, List.nodup_append]
  refine ⟨distinct, List.nodup_singleton _, ?_⟩
  rintro taken member _ last rfl
  exact free (List.mem_singleton.mp last ▸ member)

variable [DecidableEq Key]

/-- `INSERT`, which fails on a key that is taken. -/
def insert (table : KeyedTable Row key) (row : Row) : Option (KeyedTable Row key) :=
  if free : key row ∉ table.rows.map key then
    some ⟨table.rows ++ [row], nodup_concat table.distinct free⟩
  else none

/-- `INSERT OR REPLACE`. -/
def replace (table : KeyedTable Row key) (row : Row) : KeyedTable Row key where
  rows := (table.rows.filter fun other => key other ≠ key row) ++ [row]
  distinct := by
    refine nodup_concat (table.filter _).distinct fun member => ?_
    obtain ⟨other, kept, same⟩ := List.mem_map.mp member
    exact of_decide_eq_true (List.mem_filter.mp kept).2 same

theorem insert_eq_some_iff {table after : KeyedTable Row key} {row : Row} :
    table.insert row = some after ↔
      key row ∉ table.rows.map key ∧ after.rows = table.rows ++ [row] := by
  rw [insert]
  by_cases free : key row ∉ table.rows.map key
  · rw [dif_pos free]
    constructor
    · intro same
      obtain rfl := Option.some.inj same
      exact ⟨free, rfl⟩
    · rintro ⟨-, rows⟩
      exact congrArg some (ext rows.symm)
  · rw [dif_neg free]
    exact ⟨nofun, fun ⟨impossible, _⟩ => absurd impossible free⟩

theorem rows_replace_of_free {table : KeyedTable Row key} {row : Row}
    (free : key row ∉ table.rows.map key) : (table.replace row).rows = table.rows ++ [row] := by
  have others : table.rows.filter (fun other => key other ≠ key row) = table.rows := by
    refine List.filter_eq_self.mpr fun other member => decide_eq_true fun same => ?_
    exact free (same ▸ List.mem_map_of_mem member)
  exact congrArg (· ++ [row]) others

/-- Rows with new keys come to stand one after the other. -/
theorem rows_foldl_replace {table : KeyedTable Row key} {rows : List Row}
    (distinct : ((table.rows ++ rows).map key).Nodup) :
    (rows.foldl replace table).rows = table.rows ++ rows := by
  induction rows generalizing table with
  | nil => exact (List.append_nil _).symm
  | cons row rest inductionHypothesis =>
    have free : key row ∉ table.rows.map key := by
      intro member
      rw [List.map_append, List.map_cons, List.nodup_append] at distinct
      exact distinct.2.2 _ member _ List.mem_cons_self rfl
    have first := rows_replace_of_free free
    rw [List.foldl_cons, inductionHypothesis, first, List.append_assoc, List.singleton_append]
    rwa [first, List.append_assoc]

/-- The table that rows are put in one after the other. -/
def ofRows (rows : List Row) : KeyedTable Row key := rows.foldl replace empty

theorem rows_ofRows {rows : List Row} (distinct : (rows.map key).Nodup) :
    (ofRows rows : KeyedTable Row key).rows = rows :=
  rows_foldl_replace distinct

/-! ### Loops -/

section Loops

variable {Item Error : Type*} (read : Item → Except Error Row) (taken : Error)

/-- A row is read and replaces the one with its key. -/
def replaceRead (table : KeyedTable Row key) (item : Item) : Except Error (KeyedTable Row key) :=
  (read item).map table.replace

/-- A row is read and put in. -/
def insertRead (table : KeyedTable Row key) (item : Item) : Except Error (KeyedTable Row key) := do
  let row ← read item
  match table.insert row with
  | some after => .ok after
  | none => .error taken

/-- Every item is read, and the rows that come of it are put in one after the other, until one fails.
What was put in stays. -/
def insertUntil (table : KeyedTable Row key) :
    List Item → Except Error Unit × KeyedTable Row key
  | [] => (.ok (), table)
  | item :: rest =>
    match insertRead read taken table item with
    | .error error => (.error error, table)
    | .ok after => insertUntil after rest

variable {read taken} {table after : KeyedTable Row key}

theorem insertRead_eq_ok {item : Item} :
    insertRead read taken table item = .ok after ↔
      ∃ row, read item = .ok row ∧ key row ∉ table.rows.map key ∧
        after.rows = table.rows ++ [row] := by
  rw [insertRead, Except.bind_eq_ok]
  refine exists_congr fun row => and_congr_right fun _ => ?_
  rw [← insert_eq_some_iff]
  cases table.insert row with
  | none => exact ⟨nofun, nofun⟩
  | some made => exact ⟨fun same => congrArg some (Except.ok.inj same),
      fun same => congrArg Except.ok (Option.some.inj same)⟩

/-- All items are put in exactly if all are read, to rows with new keys, no two of them with one. -/
theorem foldlM_insertRead_eq_ok {items : List Item} :
    items.foldlM (insertRead read taken) table = .ok after ↔
      ∃ rows, items.mapM read = .ok rows ∧ ((table.rows ++ rows).map key).Nodup ∧
        after.rows = table.rows ++ rows := by
  induction items generalizing table with
  | nil =>
    constructor
    · intro same
      obtain rfl := Except.ok.inj same
      refine ⟨[], rfl, ?_, (List.append_nil _).symm⟩
      rw [List.append_nil]
      exact table.distinct
    · rintro ⟨rows, read, -, added⟩
      obtain rfl := Except.ok.inj read
      exact congrArg Except.ok (ext (added.trans (List.append_nil _)).symm)
  | cons item rest inductionHypothesis =>
    rw [List.foldlM_cons, Except.bind_eq_ok]
    constructor
    · rintro ⟨between, here, later⟩
      obtain ⟨row, isRead, -, first⟩ := insertRead_eq_ok.mp here
      obtain ⟨rows, areRead, distinct, added⟩ := inductionHypothesis.mp later
      rw [first, List.append_assoc, List.singleton_append] at distinct added
      refine ⟨row :: rows, ?_, distinct, added⟩
      rw [List.mapM_cons, isRead, areRead]
      rfl
    · rintro ⟨all, areRead, distinct, added⟩
      rw [List.mapM_cons] at areRead
      obtain ⟨row, isRead, more⟩ := Except.bind_eq_ok.mp areRead
      obtain ⟨rows, restRead, made⟩ := Except.bind_eq_ok.mp more
      obtain rfl := Except.ok.inj made
      have split : ((table.rows ++ [row]) ++ rows).map key = (table.rows ++ row :: rows).map key := by
        rw [List.append_assoc, List.singleton_append]
      have upTo : ((table.rows ++ [row]).map key).Nodup := by
        rw [← split, List.map_append] at distinct
        exact distinct.of_append_left
      have free : key row ∉ table.rows.map key := by
        intro member
        rw [List.map_append, List.map_singleton, List.nodup_append] at upTo
        exact upTo.2.2 _ member _ List.mem_cons_self rfl
      refine ⟨⟨table.rows ++ [row], upTo⟩, insertRead_eq_ok.mpr ⟨row, isRead, free, rfl⟩,
        inductionHypothesis.mpr ⟨rows, restRead, split ▸ distinct, ?_⟩⟩
      rw [added, List.append_assoc, List.singleton_append]

/-- A loop of replacements succeeds exactly if all items are read. -/
theorem foldlM_replaceRead_eq_ok {items : List Item} :
    items.foldlM (replaceRead read) table = .ok after ↔
      ∃ rows, items.mapM read = .ok rows ∧ after = rows.foldl replace table := by
  induction items generalizing table with
  | nil =>
    constructor
    · intro same
      exact ⟨[], rfl, (Except.ok.inj same).symm⟩
    · rintro ⟨rows, areRead, rfl⟩
      obtain rfl := Except.ok.inj areRead
      rfl
  | cons item rest inductionHypothesis =>
    rw [List.foldlM_cons, List.mapM_cons, replaceRead]
    cases read item with
    | error error => exact ⟨nofun, nofun⟩
    | ok row =>
      show rest.foldlM (replaceRead read) (table.replace row) = .ok after ↔ _
      rw [inductionHypothesis]
      constructor
      · rintro ⟨rows, areRead, rfl⟩
        refine ⟨row :: rows, ?_, rfl⟩
        rw [areRead]
        rfl
      · rintro ⟨all, areRead, rfl⟩
        obtain ⟨_, isRow, more⟩ := Except.bind_eq_ok.mp areRead
        obtain rfl := Except.ok.inj isRow
        obtain ⟨rows, restRead, made⟩ := Except.bind_eq_ok.mp more
        obtain rfl := Except.ok.inj made
        exact ⟨rows, restRead, rfl⟩

/-- The loop that keeps what it has put in ends well exactly if the one that undoes it does. -/
theorem insertUntil_eq_ok {items : List Item} :
    insertUntil read taken table items = (.ok (), after) ↔
      items.foldlM (insertRead read taken) table = .ok after := by
  induction items generalizing table with
  | nil => exact ⟨fun same => congrArg Except.ok (Prod.mk.inj same).2,
      fun same => congrArg (Prod.mk _) (Except.ok.inj same)⟩
  | cons item rest inductionHypothesis =>
    rw [List.foldlM_cons, insertUntil]
    cases insertRead read taken table item with
    | error error => exact ⟨fun same => (nomatch (Prod.mk.inj same).1), nofun⟩
    | ok between => exact inductionHypothesis

/-- The rows of a table are those that were read of the first items. At the item after them the loop
came to an end. -/
def StoppedAt (read : Item → Except Error Row) (taken error : Error) (items : List Item)
    (after : KeyedTable Row key) : Prop :=
  ∃ done failing rest, items = done ++ failing :: rest ∧ done.mapM read = .ok after.rows ∧
    insertRead read taken after failing = .error error

theorem insertUntil_eq_error {items : List Item} {error : Error}
    (failed : insertUntil read taken table items = (.error error, after)) :
    ∃ done failing rest rows, items = done ++ failing :: rest ∧ done.mapM read = .ok rows ∧
      after.rows = table.rows ++ rows ∧ insertRead read taken after failing = .error error := by
  induction items generalizing table with
  | nil => cases (Prod.mk.inj failed).1
  | cons item rest inductionHypothesis =>
    rw [insertUntil] at failed
    cases here : insertRead read taken table item with
    | error other =>
      rw [here] at failed
      obtain ⟨same, rfl⟩ := Prod.mk.inj failed
      obtain rfl := Except.error.inj same
      exact ⟨[], item, rest, [], rfl, rfl, (List.append_nil _).symm, here⟩
    | ok between =>
      rw [here] at failed
      obtain ⟨done, failing, others, rows, rfl, areRead, added, stopped⟩ := inductionHypothesis failed
      obtain ⟨row, isRead, -, first⟩ := insertRead_eq_ok.mp here
      refine ⟨item :: done, failing, others, row :: rows, rfl, ?_, ?_, stopped⟩
      · rw [List.mapM_cons, isRead, areRead]
        rfl
      · rw [added, first, List.append_assoc, List.singleton_append]

/-- Of an empty table. -/
theorem stoppedAt_of_insertUntil {items : List Item} {error : Error}
    (failed : insertUntil read taken empty items = (.error error, after)) :
    StoppedAt read taken error items after := by
  obtain ⟨done, failing, rest, rows, split, areRead, added, stopped⟩ := insertUntil_eq_error failed
  refine ⟨done, failing, rest, split, ?_, stopped⟩
  rw [areRead, added, rows_empty, List.nil_append]

/-- A loop over an empty table ends well exactly if all items are read, to rows with distinct keys. -/
theorem insertUntil_empty_eq_ok {items : List Item} :
    insertUntil read taken empty items = (.ok (), after) ↔
      ∃ rows, items.mapM read = .ok rows ∧ (rows.map key).Nodup ∧ after = ofRows rows := by
  rw [insertUntil_eq_ok, foldlM_insertRead_eq_ok]
  refine exists_congr fun rows => and_congr_right fun _ => and_congr_right fun distinct => ?_
  have whole : (ofRows rows : KeyedTable Row key).rows = rows := rows_ofRows distinct
  constructor
  · exact fun added => ext (added.trans whole.symm)
  · rintro rfl
    exact whole

end Loops

end KeyedTable

