/-
This file models `pull` on both backends: the change rows of a book beyond a cursor, cut
into a page, with the cursor to go on from.

A row of the response carries the fields of the change row, with its number as an
integer: it travels as decimal text and is read back as such. Payloads from before
`occurredAt` was logged get the date of their transaction.
-/

import Mathlib.Data.List.Sort
import Ledgerly.Library.Paging
import Ledgerly.Postgres

namespace Ledgerly

/-- `SyncPullResponse`. -/
structure SyncPullResponse where
  changes : List ChangeRecord
  nextCursor : Int
  hasMore : Bool

/-- The limit of a request: 500 by default, 1000 at most. -/
def pullLimit (limit : Option Nat) : Nat := min (limit.getD 500) 1000

/-- The rows of a book beyond a cursor, by sequence number. -/
def selectChanges (changes : List ChangeRecord) (bookId : String) (cursor : Int) :
    List ChangeRecord :=
  (changes.filter fun change => change.bookId = bookId ∧ cursor < change.sequence).insertionSort
    fun first second => first.sequence ≤ second.sequence

/-- The cursor after a page. -/
def nextCursor (cursor : Int) (page : List ChangeRecord) : Int :=
  (page.getLast?.map ChangeRecord.sequence).getD cursor

/-- A row of the response, given the date of the transaction it belongs to. -/
def ChangeRecord.backfilled [Rfc3339] (change : ChangeRecord) (occurredAt : Option Timestamp) :
    ChangeRecord :=
  if change.entityType = "transaction" ∧ change.operation = "upsert" then
    match occurredAt with
    | some value => { change with payload := backfillTransactionOccurredAt change.payload value }
    | none => change
  else change

/-- The rows of one page on the memory backend. -/
def pullRowsMem (changes : List ChangeRecord) (bookId : String) (cursor : Int)
    (limit : Option Nat) : List ChangeRecord :=
  Paging.page ChangeRecord.commitId (pullLimit limit) (selectChanges changes bookId cursor)

/-- `pull` on the memory backend. -/
def pullMem [Rfc3339] (store : MemoryStore) (bookId : String) (cursor : Int)
    (limit : Option Nat) : SyncPullResponse :=
  let page := pullRowsMem store.changes bookId cursor limit
  let next := nextCursor cursor page
  { changes := page.map fun change =>
      change.backfilled ((store.transactions.lookup change.entityId).map TxRecord.occurredAt)
    nextCursor := next
    hasMore := store.changes.any fun change => change.bookId = bookId && next < change.sequence }

/-- The rows of one page on PostgreSQL: the select fetches fifty rows more than the limit, so
that the last commit can be completed. -/
def pullRowsPg (changes : List ChangeRecord) (bookId : String) (cursor : Int)
    (limit : Option Nat) : List ChangeRecord :=
  Paging.page ChangeRecord.commitId (pullLimit limit)
    ((selectChanges changes bookId cursor).take (pullLimit limit + 50))

/-- `pull` on PostgreSQL. -/
def pullPg [Rfc3339] (store : PgStore) (bookId : String) (cursor : Int)
    (limit : Option Nat) : SyncPullResponse :=
  let page := pullRowsPg store.changes bookId cursor limit
  let next := nextCursor cursor page
  { changes := page.map fun change =>
      change.backfilled ((store.rowIn bookId change.entityId).map TxRecord.occurredAt)
    nextCursor := next
    hasMore := store.changes.any fun change => change.bookId = bookId && next < change.sequence }

/-! ### The rows of a response -/

section Backfill

variable [Rfc3339] (change : ChangeRecord) (occurredAt : Option Timestamp)

/-- A date is all that a row of a response can gain. -/
theorem ChangeRecord.backfilled_fields :
    (change.backfilled occurredAt).entityType = change.entityType ∧
      (change.backfilled occurredAt).entityId = change.entityId ∧
      (change.backfilled occurredAt).operation = change.operation := by
  unfold ChangeRecord.backfilled
  split
  · split
    · exact ⟨rfl, rfl, rfl⟩
    · exact ⟨rfl, rfl, rfl⟩
  · exact ⟨rfl, rfl, rfl⟩

theorem ChangeRecord.backfilled_content {key : String} (notDate : key ≠ "occurredAt") :
    (change.backfilled occurredAt).entityVersion = change.entityVersion ∧
      (change.backfilled occurredAt).payload.get? key = change.payload.get? key := by
  unfold ChangeRecord.backfilled
  split
  · split
    · refine ⟨rfl, ?_⟩
      unfold backfillTransactionOccurredAt
      split
      · rfl
      · exact Json.get?_insert_of_ne _ _ _ _ notDate
    · exact ⟨rfl, rfl⟩
  · exact ⟨rfl, rfl⟩

/-- A row with a date of its own gets no other. -/
theorem ChangeRecord.backfilled_of_dated {date : Json}
    (dated : change.payload.get? "occurredAt" = some date) :
    change.backfilled occurredAt = change := by
  unfold ChangeRecord.backfilled
  split
  · split
    · rw [backfillTransactionOccurredAt, dated]
      rfl
    · rfl
  · rfl

/-- The row of a delete stays as it is. -/
theorem ChangeRecord.backfilled_of_delete (isDelete : change.operation = "delete") :
    change.backfilled occurredAt = change := by
  have notUpsert : ¬(change.entityType = "transaction" ∧ change.operation = "upsert") := by
    rintro ⟨-, isUpsert⟩
    exact absurd (isUpsert.symm.trans isDelete) (by decide)
  unfold ChangeRecord.backfilled
  exact if_neg notUpsert

end Backfill

/-! ### The rows a pull selects -/

theorem mem_selectChanges {changes : List ChangeRecord} {bookId : String} {cursor : Int}
    {change : ChangeRecord} :
    change ∈ selectChanges changes bookId cursor ↔
      change ∈ changes ∧ change.bookId = bookId ∧ cursor < change.sequence := by
  rw [selectChanges, List.mem_insertionSort, List.mem_filter, decide_eq_true_eq]

/-- Rows with numbers of their own are selected in increasing order. -/
theorem selectChanges_increasing {changes : List ChangeRecord}
    (distinct : changes.Pairwise fun first second => first.sequence ≠ second.sequence)
    (bookId : String) (cursor : Int) :
    (selectChanges changes bookId cursor).Pairwise fun first second =>
      first.sequence < second.sequence := by
  have total : Std.Total fun first second : ChangeRecord => first.sequence ≤ second.sequence :=
    ⟨fun first second => le_total _ _⟩
  have transitive : IsTrans ChangeRecord fun first second => first.sequence ≤ second.sequence :=
    ⟨fun _ _ _ => le_trans⟩
  have sorted := List.pairwise_insertionSort
    (fun first second : ChangeRecord => first.sequence ≤ second.sequence)
    (changes.filter fun change => change.bookId = bookId ∧ cursor < change.sequence)
  have apart : (selectChanges changes bookId cursor).Pairwise fun first second =>
      first.sequence ≠ second.sequence :=
    (List.Perm.pairwise_iff (fun different => Ne.symm different)
      (List.perm_insertionSort _ _)).mpr (distinct.filter _)
  exact (sorted.and apart).imp fun both => lt_of_le_of_ne both.1 both.2

/-- Rows of commits of their own are selected as such. -/
theorem selectChanges_apart {changes : List ChangeRecord}
    (apart : changes.Pairwise fun first second => first.commitId ≠ second.commitId)
    (bookId : String) (cursor : Int) :
    (selectChanges changes bookId cursor).Pairwise fun first second =>
      first.commitId ≠ second.commitId :=
  (List.Perm.pairwise_iff (fun different => Ne.symm different)
    (List.perm_insertionSort _ _)).mpr (apart.filter _)

/-- A selected row up to the number a page ends with is in the page. -/
theorem mem_take_of_le_nextCursor {changes : List ChangeRecord} {bookId : String} {cursor : Int}
    (increasing : (selectChanges changes bookId cursor).Pairwise fun first second =>
      first.sequence < second.sequence) {count : Nat} {change : ChangeRecord}
    (member : change ∈ selectChanges changes bookId cursor)
    (behind : change.sequence ≤
      nextCursor cursor ((selectChanges changes bookId cursor).take count)) :
    change ∈ (selectChanges changes bookId cursor).take count := by
  have ahead := (mem_selectChanges.mp member).2.2
  rw [← List.take_append_drop count (selectChanges changes bookId cursor)] at member increasing
  rcases List.mem_append.mp member with inPage | later
  · exact inPage
  · rw [nextCursor] at behind
    cases last : ((selectChanges changes bookId cursor).take count).getLast? with
    | none =>
      rw [last, Option.map_none, Option.getD_none] at behind
      exact absurd behind (not_le.mpr ahead)
    | some final =>
      rw [last, Option.map_some, Option.getD_some] at behind
      have smaller := (List.pairwise_append.mp increasing).2.2 final
        (List.mem_of_getLast? last) change later
      exact absurd behind (not_le.mpr smaller)

/-- The cursor goes behind the whole page. -/
theorem le_nextCursor_of_mem {page : List ChangeRecord} (cursor : Int)
    (increasing : page.Pairwise fun first second => first.sequence < second.sequence)
    {change : ChangeRecord} (member : change ∈ page) : change.sequence ≤ nextCursor cursor page := by
  obtain ⟨before, final, split⟩ :=
    List.eq_nil_or_concat' page |>.resolve_left (List.ne_nil_of_mem member)
  rw [split] at member increasing ⊢
  rw [nextCursor, List.getLast?_concat, Option.map_some, Option.getD_some]
  rcases List.mem_append.mp member with earlier | last
  · exact le_of_lt ((List.pairwise_append.mp increasing).2.2 change earlier final
      (List.mem_singleton_self final))
  · rw [List.mem_singleton.mp last]

/-- A page on PostgreSQL is an initial part of the selected rows, whatever its commits. -/
theorem pullRowsPg_isPrefix (changes : List ChangeRecord) (bookId : String) (cursor : Int)
    (limit : Option Nat) :
    pullRowsPg changes bookId cursor limit <+: selectChanges changes bookId cursor :=
  (Paging.page_prefix _ _ _).trans (List.take_prefix _ _)

/-- A row that is selected is beyond the cursor, and so is the cursor a page leads to. -/
theorem le_nextCursor {cursor : Int} {page : List ChangeRecord}
    (beyond : ∀ change ∈ page, cursor < change.sequence) : cursor ≤ nextCursor cursor page := by
  unfold nextCursor
  cases last : page.getLast? with
  | none => exact le_refl _
  | some change => exact le_of_lt (beyond change (List.mem_of_getLast? last))

end Ledgerly
