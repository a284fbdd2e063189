/-
This file settles whether the pages of a pull add up to the log, and whether the two
backends cut them alike.

A page is an initial part of the rows beyond the cursor, and the cursor it leads to selects
the rest. So a device that follows the cursor gets every row once and in order, as long as a
page with more behind it is not empty: the limit `0` is the one that makes it so, and a
device that asks for it asks for ever. The memory backend completes the last commit of a page
whatever it takes, PostgreSQL with the fifty rows it fetches beyond the limit.
-/

import Ledgerly.Pull

namespace Ledgerly

/-! ### The two backends -/

/-- The store that `pull` reads. -/
inductive PullBackend where
  | memory (store : MemoryStore)
  | postgres (store : PgStore)

namespace PullBackend

variable (backend : PullBackend) (bookId : String) (cursor : Int) (limit : Option Nat)

/-- The log of the backend. -/
def changes : PullBackend → List ChangeRecord
  | .memory store => store.changes
  | .postgres store => store.changes

/-- The rows of one page. -/
def rows : List ChangeRecord :=
  match backend with
  | .memory store => pullRowsMem store.changes bookId cursor limit
  | .postgres store => pullRowsPg store.changes bookId cursor limit

/-- `pull`. -/
def pull [Rfc3339] : SyncPullResponse :=
  match backend with
  | .memory store => pullMem store bookId cursor limit
  | .postgres store => pullPg store bookId cursor limit

/-- A row of the log as a response carries it. -/
def served [Rfc3339] (change : ChangeRecord) : ChangeRecord :=
  match backend with
  | .memory store =>
    change.backfilled ((store.transactions.lookup change.entityId).map TxRecord.occurredAt)
  | .postgres store =>
    change.backfilled ((store.rowIn bookId change.entityId).map TxRecord.occurredAt)

/-- The rows of the book are left that a cursor has not passed. -/
def hasMore : Bool :=
  backend.changes.any fun change => change.bookId = bookId && cursor < change.sequence

theorem pull_eq [Rfc3339] :
    backend.pull bookId cursor limit =
      { changes := (backend.rows bookId cursor limit).map (backend.served bookId)
        nextCursor := nextCursor cursor (backend.rows bookId cursor limit)
        hasMore := backend.hasMore bookId
          (nextCursor cursor (backend.rows bookId cursor limit)) } := by
  cases backend with
  | memory store => rfl
  | postgres store => rfl

/-- A page is an initial part of the rows beyond the cursor. -/
theorem rows_isPrefix :
    backend.rows bookId cursor limit <+: selectChanges backend.changes bookId cursor := by
  cases backend with
  | memory store => exact Paging.page_prefix _ _ _
  | postgres store => exact pullRowsPg_isPrefix _ _ _ _

/-- Under a limit that is not zero, a page is empty at the end of the log only. -/
theorem rows_ne_nil (positive : 0 < pullLimit limit)
    (more : selectChanges backend.changes bookId cursor ≠ []) :
    backend.rows bookId cursor limit ≠ [] := by
  cases backend with
  | memory store => exact Paging.page_ne_nil _ _ _ positive more
  | postgres store =>
    refine Paging.page_ne_nil _ _ _ positive ?_
    rw [Ne, List.take_eq_nil_iff, not_or]
    exact ⟨by omega, more⟩

/-- The limit zero makes every page empty. -/
theorem rows_of_zero (zero : pullLimit limit = 0) : backend.rows bookId cursor limit = [] := by
  have empty : ∀ rows, Paging.page ChangeRecord.commitId (pullLimit limit) rows = [] := by
    intro rows
    rw [zero]
    cases rows with
    | nil => rfl
    | cons row rest => rfl
  cases backend with
  | memory store => exact empty _
  | postgres store => exact empty _

theorem hasMore_iff :
    backend.hasMore bookId cursor = true ↔ selectChanges backend.changes bookId cursor ≠ [] := by
  rw [hasMore, List.any_eq_true]
  constructor
  · rintro ⟨change, member, beyond⟩
    have selected : change ∈ selectChanges backend.changes bookId cursor := by
      rw [mem_selectChanges]
      exact ⟨member, by simpa using beyond⟩
    exact List.ne_nil_of_mem selected
  · intro some
    obtain ⟨change, selected⟩ := List.exists_mem_of_ne_nil _ some
    obtain ⟨member, inBook, beyond⟩ := mem_selectChanges.mp selected
    exact ⟨change, member, by simp [inBook, beyond]⟩

end PullBackend

theorem pullLimit_eq_zero_iff (limit : Option Nat) : pullLimit limit = 0 ↔ limit = some 0 := by
  cases limit with
  | none => decide
  | some count =>
    rw [pullLimit, Option.getD_some, Option.some_inj]
    omega

/-! ### The cursor a page leads to -/

section Cursor

variable {changes : List ChangeRecord} {bookId : String} {cursor : Int}
  (distinct : changes.Pairwise fun first second => first.sequence ≠ second.sequence)

include distinct

/-- A later cursor selects the rows of an earlier one that are beyond it. -/
theorem selectChanges_of_le {next : Int} (later : cursor ≤ next) :
    selectChanges changes bookId next =
      (selectChanges changes bookId cursor).filter fun change => next < change.sequence := by
  have numbered := selectChanges_increasing distinct bookId next
  have filtered := (selectChanges_increasing distinct bookId cursor).filter fun change =>
    decide (next < change.sequence)
  refine List.Perm.eq_of_pairwise ?_ numbered filtered ?_
  · exact fun first second _ _ before after => absurd (before.trans after) (lt_irrefl _)
  · refine (List.perm_ext_iff_of_nodup (numbered.imp ?_) (filtered.imp ?_)).mpr fun change => ?_
    · rintro first second before rfl
      exact absurd before (lt_irrefl _)
    · rintro first second before rfl
      exact absurd before (lt_irrefl _)
    · rw [List.mem_filter, mem_selectChanges, mem_selectChanges, decide_eq_true_eq]
      constructor
      · exact fun ⟨member, inBook, beyond⟩ =>
          ⟨⟨member, inBook, lt_of_le_of_lt later beyond⟩, beyond⟩
      · exact fun ⟨⟨member, inBook, _⟩, beyond⟩ => ⟨member, inBook, beyond⟩

/-- The cursor a page leads to selects the rows the page leaves. -/
theorem selectChanges_nextCursor {page rest : List ChangeRecord}
    (split : selectChanges changes bookId cursor = page ++ rest) :
    selectChanges changes bookId (nextCursor cursor page) = rest := by
  have increasing := selectChanges_increasing distinct bookId cursor
  have beyond : ∀ change ∈ page ++ rest, cursor < change.sequence := fun change member =>
    (mem_selectChanges.mp (split ▸ member)).2.2
  rw [split] at increasing
  obtain ⟨inPage, _, across⟩ := List.pairwise_append.mp increasing
  have behind := le_nextCursor fun change member =>
    beyond change (List.mem_append_left rest member)
  rw [selectChanges_of_le distinct behind, split, List.filter_append]
  have none : page.filter (fun change => decide (nextCursor cursor page < change.sequence)) = [] := by
    refine List.filter_eq_nil_iff.mpr fun change member => ?_
    rw [decide_eq_true_eq, not_lt]
    exact le_nextCursor_of_mem cursor inPage member
  have all : rest.filter (fun change => decide (nextCursor cursor page < change.sequence)) = rest := by
    refine List.filter_eq_self.mpr fun change member => decide_eq_true ?_
    rw [nextCursor]
    cases last : page.getLast? with
    | none => exact beyond change (List.mem_append_right page member)
    | some final => exact across final (List.mem_of_getLast? last) change member
  rw [none, all, List.nil_append]

end Cursor

/-! ### Following the cursor -/

/-- A device that pulls until there is no more, for so many rounds at most: the rows of its
pages, or `none` where it is not done by then. -/
def follow (fetch : Int → SyncPullResponse) : Nat → Int → Option (List ChangeRecord)
  | 0, _ => none
  | rounds + 1, cursor =>
    let response := fetch cursor
    if response.hasMore then
      (follow fetch rounds response.nextCursor).map fun later => response.changes ++ later
    else some response.changes

/-- Paging from a cursor makes progress and adds up to the log. -/
structure PagesAll [Rfc3339] (backend : PullBackend) (bookId : String) (cursor : Int)
    (limit : Option Nat) : Prop where
  progress : (backend.pull bookId cursor limit).hasMore = true →
    cursor < (backend.pull bookId cursor limit).nextCursor
  complete : ∃ rounds,
    follow (fun cursor => backend.pull bookId cursor limit) rounds cursor =
      some ((selectChanges backend.changes bookId cursor).map (backend.served bookId))

section Follow

variable [Rfc3339] {backend : PullBackend} {bookId : String} {limit : Option Nat}
  (distinct : backend.changes.Pairwise fun first second => first.sequence ≠ second.sequence)

/-- A page with more behind it leads on, under a limit that is not zero. -/
theorem lt_nextCursor_of_hasMore (positive : 0 < pullLimit limit) {cursor : Int}
    (more : (backend.pull bookId cursor limit).hasMore = true) :
    cursor < (backend.pull bookId cursor limit).nextCursor := by
  rw [backend.pull_eq] at more ⊢
  simp only at more ⊢
  obtain ⟨rest, split⟩ := backend.rows_isPrefix bookId cursor limit
  have nonempty : backend.rows bookId cursor limit ≠ [] := by
    refine backend.rows_ne_nil bookId cursor limit positive fun none => ?_
    have empty : backend.rows bookId cursor limit = [] :=
      (List.append_eq_nil_iff.mp (split.trans none)).1
    rw [empty, backend.hasMore_iff] at more
    exact more none
  obtain ⟨before, last, page⟩ := (List.eq_nil_or_concat' _).resolve_left nonempty
  have selected : last ∈ selectChanges backend.changes bookId cursor := by
    rw [← split, page]
    simp
  rw [page, nextCursor, List.getLast?_concat]
  exact (mem_selectChanges.mp selected).2.2

include distinct

/-- Under a limit that is not zero a device is done after as many pulls as there are rows, and
one more. -/
theorem follow_eq (positive : 0 < pullLimit limit) (rounds : Nat) (cursor : Int)
    (enough : (selectChanges backend.changes bookId cursor).length < rounds) :
    follow (fun cursor => backend.pull bookId cursor limit) rounds cursor =
      some ((selectChanges backend.changes bookId cursor).map (backend.served bookId)) := by
  induction rounds generalizing cursor with
  | zero => exact absurd enough (Nat.not_lt_zero _)
  | succ rounds inductionHypothesis =>
    obtain ⟨rest, split⟩ := backend.rows_isPrefix bookId cursor limit
    have beyond := selectChanges_nextCursor distinct split.symm
    rw [follow]
    simp only [backend.pull_eq bookId cursor limit]
    by_cases more : backend.hasMore bookId (nextCursor cursor (backend.rows bookId cursor limit))
    · have progress : cursor < (backend.pull bookId cursor limit).nextCursor :=
        lt_nextCursor_of_hasMore positive (by rw [backend.pull_eq]; exact more)
      have nonempty : backend.rows bookId cursor limit ≠ [] := by
        intro empty
        rw [backend.pull_eq, empty] at progress
        exact lt_irrefl _ progress
      have fewer : rest.length < rounds := by
        have length := congrArg List.length split
        have pageLength := List.length_pos_of_ne_nil nonempty
        rw [List.length_append] at length
        omega
      rw [if_pos more, inductionHypothesis _ (by rwa [beyond]), beyond, ← split, List.map_append]
      rfl
    · have done : rest = [] := by
        rw [backend.hasMore_iff, beyond, not_not] at more
        exact more
      rw [if_neg more, ← split, done, List.append_nil]

/-- Paging makes progress and adds up to the log exactly if the limit is not zero or there is
nothing to page. -/
theorem pagesAll_iff (cursor : Int) :
    PagesAll backend bookId cursor limit ↔
      limit ≠ some 0 ∨ selectChanges backend.changes bookId cursor = [] := by
  constructor
  · intro pages
    by_contra neither
    obtain ⟨zero, rows⟩ := not_or.mp neither
    have empty := backend.rows_of_zero bookId cursor limit
      ((pullLimit_eq_zero_iff limit).mpr (not_not.mp zero))
    have progress := pages.progress
    rw [backend.pull_eq, empty] at progress
    exact lt_irrefl _ (progress ((backend.hasMore_iff bookId cursor).mpr rows))
  · rintro (nonzero | none)
    · have positive : 0 < pullLimit limit := by
        rw [Nat.pos_iff_ne_zero, Ne, pullLimit_eq_zero_iff]
        exact nonzero
      exact ⟨lt_nextCursor_of_hasMore positive,
        _, follow_eq distinct positive _ cursor (Nat.lt_succ_self _)⟩
    · have empty : backend.rows bookId cursor limit = [] :=
        List.prefix_nil.mp (none ▸ backend.rows_isPrefix bookId cursor limit)
      have done : (backend.pull bookId cursor limit).hasMore = false := by
        rw [backend.pull_eq, empty]
        exact Bool.eq_false_iff.mpr (mt (backend.hasMore_iff bookId cursor).mp (not_not.mpr none))
      refine ⟨fun more => absurd more (by rw [done]; exact Bool.false_ne_true), 1, ?_⟩
      rw [follow, if_neg (by rw [done]; exact Bool.false_ne_true), backend.pull_eq, empty, none]

end Follow

/-- A log of three commits, the second one with two changes. -/
def threeCommits : List ChangeRecord :=
  [⟨1, "A", "c1", "transaction", "t1", "delete", 2, .null⟩,
    ⟨2, "A", "c2", "transaction", "t2", "delete", 2, .null⟩,
    ⟨3, "A", "c2", "transaction", "t3", "delete", 2, .null⟩,
    ⟨4, "A", "c3", "transaction", "t4", "delete", 2, .null⟩]

/-- A database with that log. -/
def threeCommitsStore : PullBackend := .postgres { PgStore.initial ∅ with changes := threeCommits }

/-- Pages of one row take three rounds: the two changes of a commit come in one page. -/
theorem threeCommits_pages : let _ := epochClock
    PagesAll threeCommitsStore "A" 0 (some 1) ∧
      (threeCommitsStore.pull "A" 0 (some 1)).nextCursor = 1 ∧
      (threeCommitsStore.pull "A" 1 (some 1)).nextCursor = 3 ∧
      (threeCommitsStore.pull "A" 3 (some 1)).hasMore = false := by
  intro clock
  exact ⟨(pagesAll_iff (by decide) 0).mpr (Or.inl (by decide)), by decide, by decide, by decide⟩

/-- A device that asks for pages of no rows asks for ever. -/
theorem zero_limit_never_ends : let _ := epochClock
    ((threeCommitsStore.pull "A" 0 (some 0)).hasMore = true ∧
        ¬0 < (threeCommitsStore.pull "A" 0 (some 0)).nextCursor) ∧
      ∀ rounds, follow (fun cursor => threeCommitsStore.pull "A" cursor (some 0)) rounds 0 = none := by
  intro clock
  have more : (threeCommitsStore.pull "A" 0 (some 0)).hasMore = true := by decide
  have stays : (threeCommitsStore.pull "A" 0 (some 0)).nextCursor = 0 := by decide
  refine ⟨⟨more, by rw [stays]; exact lt_irrefl 0⟩, fun rounds => ?_⟩
  induction rounds with
  | zero => rfl
  | succ rounds inductionHypothesis =>
    rw [follow, if_pos more, stays, inductionHypothesis]
    rfl

/-! ### Commits -/

section Commits

variable (changes : List ChangeRecord) (bookId : String) (cursor : Int) (limit : Option Nat)

/-- The rows beyond the limit that are of the commit of the last row before it. -/
def commitOverhang : List ChangeRecord :=
  Paging.overhang ChangeRecord.commitId (pullLimit limit) (selectChanges changes bookId cursor)

/-- A page leaves no row that is of the commit of its last one and follows on it. -/
def KeepsCommits (page : List ChangeRecord) : Prop :=
  Paging.EndsGroup ChangeRecord.commitId page (selectChanges changes bookId cursor)

/-- The backends cut the same page and neither cuts a commit exactly if the commit the limit
falls into goes on for fifty rows at most. -/
theorem pages_agree_iff (positive : limit ≠ some 0) :
    (pullRowsMem changes bookId cursor limit = pullRowsPg changes bookId cursor limit ∧
        KeepsCommits changes bookId cursor (pullRowsMem changes bookId cursor limit) ∧
        KeepsCommits changes bookId cursor (pullRowsPg changes bookId cursor limit)) ↔
      (commitOverhang changes bookId cursor limit).length ≤ 50 := by
  have room : 0 < pullLimit limit := by
    rw [Nat.pos_iff_ne_zero, Ne, pullLimit_eq_zero_iff]
    exact positive
  have whole := Paging.endsGroup_page ChangeRecord.commitId (pullLimit limit)
    (selectChanges changes bookId cursor) room
  have same := Paging.page_take_eq_iff ChangeRecord.commitId (pullLimit limit)
    (selectChanges changes bookId cursor) 50 room
  constructor
  · exact fun agree => same.mp agree.1.symm
  · intro fits
    have equal := same.mpr fits
    refine ⟨equal.symm, whole, ?_⟩
    rw [KeepsCommits, pullRowsPg, equal]
    exact whole

variable {changes bookId cursor limit}

/-- Two stores with one log that date the transactions of the book alike give one response
where they cut one page. -/
theorem pullMem_eq_pullPg [Rfc3339] {memory : MemoryStore} {database : PgStore}
    (inMemory : memory.changes = changes) (inDatabase : database.changes = changes)
    (dates : ∀ id, (memory.transactions.lookup id).map TxRecord.occurredAt =
      (database.rowIn bookId id).map TxRecord.occurredAt)
    (rows : pullRowsMem changes bookId cursor limit = pullRowsPg changes bookId cursor limit) :
    pullMem memory bookId cursor limit = pullPg database bookId cursor limit := by
  unfold pullMem pullPg
  rw [inMemory, inDatabase, rows]
  simp only [dates]

end Commits

/-- A row of the commit that seeds the accounts of book `A`. -/
def seededRow (sequence : Nat) : ChangeRecord where
  sequence := sequence
  bookId := "A"
  commitId := "category-defaults-v2:A"
  entityType := "account"
  entityId := decimalText sequence
  operation := "upsert"
  entityVersion := 1
  payload := .null

/-- A log that is one commit of so many rows. -/
def seededLog (count : Nat) : List ChangeRecord := (List.range' 1 count).map seededRow

theorem seededLog_agrees :
    (pullRowsMem (seededLog 2) "A" 0 (some 1) = pullRowsPg (seededLog 2) "A" 0 (some 1) ∧
        KeepsCommits (seededLog 2) "A" 0 (pullRowsMem (seededLog 2) "A" 0 (some 1)) ∧
        KeepsCommits (seededLog 2) "A" 0 (pullRowsPg (seededLog 2) "A" 0 (some 1))) ↔
      (commitOverhang (seededLog 2) "A" 0 (some 1)).length ≤ 50 :=
  pages_agree_iff (seededLog 2) "A" 0 (some 1) (by decide)

/-- A commit of fifty-two rows is one page of the memory backend; PostgreSQL cuts it. -/
theorem long_commit_is_cut :
    pullRowsMem (seededLog 52) "A" 0 (some 1) ≠ pullRowsPg (seededLog 52) "A" 0 (some 1) ∧
      ¬KeepsCommits (seededLog 52) "A" 0 (pullRowsPg (seededLog 52) "A" 0 (some 1)) := by
  have lengths : (pullRowsMem (seededLog 52) "A" 0 (some 1)).length = 52 ∧
      (pullRowsPg (seededLog 52) "A" 0 (some 1)).length = 51 := by
    decide +kernel
  have last : (pullRowsPg (seededLog 52) "A" 0 (some 1)).getLast?.map ChangeRecord.commitId =
      some "category-defaults-v2:A" := by
    decide +kernel
  have next : ((selectChanges (seededLog 52) "A" 0).drop 51).head?.map ChangeRecord.commitId =
      some "category-defaults-v2:A" := by
    decide +kernel
  refine ⟨fun same => ?_, fun keeps => ?_⟩
  · rw [same] at lengths
    exact absurd (lengths.1.symm.trans lengths.2) (by decide)
  · obtain ⟨last, isLast, lastCommit⟩ := Option.map_eq_some_iff.mp last
    obtain ⟨next, isNext, nextCommit⟩ := Option.map_eq_some_iff.mp next
    rw [← lengths.2] at isNext
    exact keeps last isLast next isNext (lastCommit.trans nextCommit.symm)

end Ledgerly
