/-
This file settles whether a device that pulls can miss a change.

A push to PostgreSQL opens a database transaction, takes the advisory lock of its book
and entity, gets its sequence number when its row goes into `sync_changes`, and becomes
visible when it commits. Pushes to different entities do not exclude each other, so that
they may commit in another order than they got their numbers in. A pull that sees the
later number and hands out a cursor behind it has overtaken the earlier row: when that
row becomes visible, the device is past it.

The file models the pushes of all books and the pulls of one device as one machine. In a
run whose pulls overtake no row nothing is ever lost, and every visible row reaches the
device after at most as many pulls as it is numbers ahead of the cursor.
-/

import Ledgerly.PostgresStep
import Ledgerly.Pull

namespace Ledgerly

/-- An open database transaction of a push that holds the lock of its book and entity, with
its row in `sync_changes` once there is one. -/
structure PushInFlight where
  bookId : String
  entityId : String
  row : Option ChangeRecord

/-- The committed change rows, the open pushes, the serial counter, and a device: its cursor
and the numbers of the rows it was given. -/
structure PullWorld where
  visible : List ChangeRecord
  inFlight : KeyMap Nat PushInFlight
  nextSequence : Int
  cursor : Int
  delivered : List Int

/-- Nothing is written, and nothing is pulled. -/
def PullWorld.initial : PullWorld where
  visible := []
  inFlight := ∅
  nextSequence := 1
  cursor := 0
  delivered := []

/-- What can happen next: a push takes a step, or the device pulls. -/
inductive PullEvent where
  | begin (push : Nat) (bookId entityId : String)
  | allocate (push : Nat) (commitId entityType operation : String) (entityVersion : Int)
      (payload : Json)
  | commit (push : Nat)
  | rollback (push : Nat)
  | pull (limit : Option Nat)

/-- The advisory lock of a book and an entity is taken. -/
def PullWorld.locked (world : PullWorld) (bookId entityId : String) : Bool :=
  world.inFlight.values.any fun push => push.bookId = bookId && push.entityId = entityId

/-- The row of an open push. -/
def PullWorld.rowOf (world : PullWorld) (push : Nat) : Option ChangeRecord :=
  (world.inFlight.lookup push).bind PushInFlight.row

/-- A commit id that no row has yet, as a new UUID is. -/
def PullWorld.freshCommit (world : PullWorld) (commitId : String) : Bool :=
  world.visible.all (fun change => change.commitId ≠ commitId) &&
    world.inFlight.values.all fun push =>
      push.row.all fun change => change.commitId ≠ commitId

/-- One step. A step that is not possible in a state leaves it as it is: a push begins when
its lock is free, and it commits or rolls back while it is open. The device passes the cursor
it was given last. -/
def pullStep (deviceBook : String) (world : PullWorld) : PullEvent → PullWorld
  | .begin push bookId entityId =>
    if (world.inFlight.lookup push).isSome || world.locked bookId entityId then world
    else { world with inFlight := world.inFlight.insert push ⟨bookId, entityId, none⟩ }
  | .allocate push commitId entityType operation entityVersion payload =>
    match world.inFlight.lookup push with
    | some ⟨bookId, entityId, none⟩ =>
      if world.freshCommit commitId then
        { world with
          inFlight := world.inFlight.insert push ⟨bookId, entityId, some
            { sequence := world.nextSequence
              bookId := bookId
              commitId := commitId
              entityType := entityType
              entityId := entityId
              operation := operation
              entityVersion := entityVersion
              payload := payload }⟩
          nextSequence := world.nextSequence + 1 }
      else world
    | _ => world
  | .commit push =>
    { world with
      visible := world.visible ++ (world.rowOf push).toList
      inFlight := world.inFlight.erase push }
  | .rollback push => { world with inFlight := world.inFlight.erase push }
  | .pull limit =>
    let page := pullRowsPg world.visible deviceBook world.cursor limit
    { world with
      cursor := nextCursor world.cursor page
      delivered := world.delivered ++ page.map ChangeRecord.sequence }

/-- No visible row of the book is behind the cursor without having been delivered. -/
def PullWorld.NoneLost (deviceBook : String) (world : PullWorld) : Prop :=
  ∀ change ∈ world.visible, change.bookId = deviceBook → change.sequence ≤ world.cursor →
    change.sequence ∈ world.delivered

/-- A pull overtakes the row of an open push to the book: a later row is visible, and fewer
rows than the limit lie between the cursor and the open one. -/
def Overtakes (deviceBook : String) (world : PullWorld) : PullEvent → Prop
  | .pull limit => ∃ push row, world.rowOf push = some row ∧ row.bookId = deviceBook ∧
      (∃ later ∈ world.visible, later.bookId = deviceBook ∧ row.sequence < later.sequence) ∧
      (world.visible.filter fun change => change.bookId = deviceBook ∧
        world.cursor < change.sequence ∧ change.sequence < row.sequence).length < pullLimit limit
  | _ => False

/-- The pulls of a run that ask for rows at all. -/
def pullCount (events : List PullEvent) : Nat :=
  events.countP fun event =>
    match event with
    | .pull limit => 0 < pullLimit limit
    | _ => false

/-! ### The phases of a handler -/

/-- The world shows the log of the database, and no push is open. -/
structure PullWorld.Shows (world : PullWorld) (store : PgStore) : Prop where
  rows : world.visible = store.changes
  counter : world.nextSequence = store.nextSequence
  idle : world.inFlight = ∅

/-- A handler that logs one row takes the steps of one push. -/
theorem PullWorld.Shows.logged {world : PullWorld} {store : PgStore} (shows : world.Shows store)
    (deviceBook bookId commitId entityType entityId operation : String) (entityVersion : Int)
    (payload : Json) (fresh : world.freshCommit commitId = true) :
    (Machine.run (pullStep deviceBook) world [.begin 0 bookId entityId,
      .allocate 0 commitId entityType operation entityVersion payload, .commit 0]).Shows
      (store.logged bookId commitId entityType entityId operation entityVersion payload) := by
  obtain ⟨rows, counter, idle⟩ := shows
  have begun : pullStep deviceBook world (.begin 0 bookId entityId) =
      { world with inFlight := world.inFlight.insert 0 ⟨bookId, entityId, none⟩ } := by
    rw [pullStep, if_neg (by simp [PullWorld.locked, KeyMap.values, idle])]
  have stillFresh : ({ world with
      inFlight := world.inFlight.insert 0 ⟨bookId, entityId, none⟩ } :
        PullWorld).freshCommit commitId = true := by
    simp only [PullWorld.freshCommit, idle, Bool.and_eq_true] at fresh ⊢
    exact ⟨fresh.1, rfl⟩
  simp only [Machine.run_cons, Machine.run_nil, begun]
  simp only [pullStep, AList.lookup_insert, stillFresh, if_true]
  refine ⟨?_, ?_, ?_⟩
  · rw [PgStore.logged, ← rows, ← counter, PullWorld.rowOf, AList.lookup_insert]
    rfl
  · rw [PgStore.logged, ← counter]
  · rw [idle]
    rfl

/-- Every push the handlers process is a push of the machine: the rows it leaves behind are
those of a begin, an allocation and a commit, or it leaves none. -/
theorem pushStepPg_phases [Rfc3339] {world : PullWorld} {store : PgStore}
    (shows : world.Shows store) (deviceBook : String) (step : PushStep)
    (fresh : world.freshCommit step.stamp.commitId = true) :
    ∃ events, pullCount events = 0 ∧
      (Machine.run (pullStep deviceBook) world events).Shows (pushStepPg store step) := by
  have logs : ∀ accounts transactions entityType operation entityVersion payload,
      ∃ events, pullCount events = 0 ∧ (Machine.run (pullStep deviceBook) world events).Shows
        (({ store with accounts := accounts
                       transactions := transactions } : PgStore).logged step.bookId
          step.stamp.commitId entityType step.mutation.entityId operation entityVersion
          payload) := by
    intro accounts transactions entityType operation entityVersion payload
    have same : world.Shows { store with accounts := accounts
                                         transactions := transactions } :=
      ⟨shows.rows, shows.counter, shows.idle⟩
    exact ⟨_, rfl, same.logged deviceBook _ _ _ _ _ _ _ fresh⟩
  refine pushStepPg_elim (motive := fun written => ∃ events, pullCount events = 0 ∧
    (Machine.run (pullStep deviceBook) world events).Shows written) step ?_ ?_ ?_ ?_ ?_ ?_
  · rintro written receipts ⟨events, noPull, rows, counter, idle⟩
    exact ⟨events, noPull, rows, counter, idle⟩
  · exact ⟨[], rfl, shows⟩
  · intro existing requestedOccurredAt drafts admitted found owned current free
    exact logs _ _ _ _ _ _
  · intro requestedOccurredAt drafts admitted missing free
    exact logs _ _ _ _ _ _
  · intro existing isDelete found owned
    exact logs _ _ _ _ _ _
  · intro record
    exact logs _ _ _ _ _ _

/-! ### The invariant -/

/-- Two rows with numbers and commits of their own. -/
def ChangeRecord.Apart (first second : ChangeRecord) : Prop :=
  first.sequence ≠ second.sequence ∧ first.commitId ≠ second.commitId

theorem ChangeRecord.Apart.symm {first second : ChangeRecord} (apart : first.Apart second) :
    second.Apart first := ⟨Ne.symm apart.1, Ne.symm apart.2⟩

/-- What holds as long as no pull overtakes: rows are numbered below the counter and apart
from each other, open rows of the book are ahead of the cursor, and nothing is lost. -/
structure PullWorld.Safe (deviceBook : String) (world : PullWorld) : Prop where
  visibleBelow : ∀ change ∈ world.visible, change.sequence < world.nextSequence
  openBelow : ∀ push row, world.rowOf push = some row → row.sequence < world.nextSequence
  visibleApart : world.visible.Pairwise ChangeRecord.Apart
  openApart : ∀ first second one two, first ≠ second → world.rowOf first = some one →
    world.rowOf second = some two → one.Apart two
  mixedApart : ∀ push row, world.rowOf push = some row →
    ∀ change ∈ world.visible, change.Apart row
  cursorBelow : world.cursor < world.nextSequence
  openAhead : ∀ push row, world.rowOf push = some row → row.bookId = deviceBook →
    world.cursor < row.sequence
  noneLost : world.NoneLost deviceBook
  deliveredVisible : ∀ number ∈ world.delivered, ∃ change ∈ world.visible,
    change.sequence = number

theorem PullWorld.initial_safe (deviceBook : String) : PullWorld.initial.Safe deviceBook where
  visibleBelow _ member := absurd member List.not_mem_nil
  openBelow _ _ found := by simp [PullWorld.rowOf, PullWorld.initial] at found
  visibleApart := List.Pairwise.nil
  openApart _ _ _ _ _ found := by simp [PullWorld.rowOf, PullWorld.initial] at found
  mixedApart _ _ found := by simp [PullWorld.rowOf, PullWorld.initial] at found
  cursorBelow := by decide
  openAhead _ _ found := by simp [PullWorld.rowOf, PullWorld.initial] at found
  noneLost _ member := absurd member List.not_mem_nil
  deliveredVisible _ member := absurd member List.not_mem_nil

theorem rowOf_insert (world : PullWorld) (push other : Nat) (opened : PushInFlight)
    (next : Int) :
    ({ world with inFlight := world.inFlight.insert push opened
                  nextSequence := next } : PullWorld).rowOf other =
      if other = push then opened.row else world.rowOf other := by
  simp only [PullWorld.rowOf, KeyMap.lookup_insert_eq]
  by_cases same : other = push
  · rw [if_pos same, if_pos same, Option.bind_some]
  · rw [if_neg same, if_neg same]

theorem rowOf_erase {world : PullWorld} {push other : Nat} {row : ChangeRecord}
    {visible : List ChangeRecord}
    (found : ({ world with visible := visible
                           inFlight := world.inFlight.erase push } : PullWorld).rowOf other =
      some row) : other ≠ push ∧ world.rowOf other = some row := by
  rw [PullWorld.rowOf] at found
  by_cases same : other = push
  · subst same
    simp only [AList.lookup_erase, Option.bind_none] at found
    cases found
  · simp only [AList.lookup_erase_ne same] at found
    exact ⟨same, found⟩

/-- Fewer open rows do no harm. -/
theorem PullWorld.Safe.fewer {deviceBook : String} {world other : PullWorld}
    (safe : world.Safe deviceBook) (visible : other.visible = world.visible)
    (rows : ∀ push row, other.rowOf push = some row → world.rowOf push = some row)
    (counter : other.nextSequence = world.nextSequence) (cursor : other.cursor = world.cursor)
    (delivered : other.delivered = world.delivered) : other.Safe deviceBook where
  visibleBelow := by
    rw [visible, counter]
    exact safe.visibleBelow
  openBelow push row found := by
    rw [counter]
    exact safe.openBelow push row (rows push row found)
  visibleApart := by
    rw [visible]
    exact safe.visibleApart
  openApart first second one two different foundOne foundTwo :=
    safe.openApart first second one two different (rows _ _ foundOne) (rows _ _ foundTwo)
  mixedApart push row found := by
    rw [visible]
    exact safe.mixedApart push row (rows push row found)
  cursorBelow := by
    rw [cursor, counter]
    exact safe.cursorBelow
  openAhead push row found inBook := by
    rw [cursor]
    exact safe.openAhead push row (rows push row found) inBook
  noneLost := by
    rw [PullWorld.NoneLost, visible, cursor, delivered]
    exact safe.noneLost
  deliveredVisible := by
    rw [visible, delivered]
    exact safe.deliveredVisible

/-- Opening a push adds no row. -/
theorem PullWorld.Safe.begin {deviceBook : String} {world : PullWorld}
    (safe : world.Safe deviceBook) (push : Nat) (bookId entityId : String) :
    (pullStep deviceBook world (.begin push bookId entityId)).Safe deviceBook := by
  rw [pullStep]
  split
  · exact safe
  · refine safe.fewer rfl (fun other row found => ?_) rfl rfl rfl
    rw [rowOf_insert world push other _ world.nextSequence] at found
    by_cases atPush : other = push
    · rw [if_pos atPush] at found
      cases found
    · rwa [if_neg atPush] at found

theorem PullWorld.Safe.rollback {deviceBook : String} {world : PullWorld}
    (safe : world.Safe deviceBook) (push : Nat) :
    (pullStep deviceBook world (.rollback push)).Safe deviceBook :=
  safe.fewer rfl (fun _ _ found => (rowOf_erase found).2) rfl rfl rfl

/-- A new row gets the next number, so that it is apart from all others and ahead. -/
theorem PullWorld.Safe.allocate {deviceBook : String} {world : PullWorld}
    (safe : world.Safe deviceBook) (push : Nat) (commitId entityType operation : String)
    (entityVersion : Int) (payload : Json) :
    (pullStep deviceBook world
      (.allocate push commitId entityType operation entityVersion payload)).Safe deviceBook := by
  rw [pullStep]
  split
  · rename_i bookId entityId found
    split
    · rename_i fresh
      obtain ⟨freshVisible, freshOpen⟩ := Bool.and_eq_true_iff.mp fresh
      have newVisible : ∀ change ∈ world.visible, change.commitId ≠ commitId := by
        simpa using List.all_eq_true.mp freshVisible
      have newOpen : ∀ other row, world.rowOf other = some row → row.commitId ≠ commitId := by
        intro other row stored
        obtain ⟨opened, holds, isRow⟩ := Option.bind_eq_some_iff.mp stored
        have all := List.all_eq_true.mp freshOpen opened (KeyMap.mem_values_of_lookup holds)
        rw [isRow] at all
        simpa using all
      have rows : ∀ other row, ({ world with
          inFlight := world.inFlight.insert push ⟨bookId, entityId, some
            { sequence := world.nextSequence, bookId := bookId, commitId := commitId,
              entityType := entityType, entityId := entityId, operation := operation,
              entityVersion := entityVersion, payload := payload }⟩
          nextSequence := world.nextSequence + 1 } : PullWorld).rowOf other = some row →
          (other = push ∧ row.sequence = world.nextSequence ∧ row.commitId = commitId) ∨
            (other ≠ push ∧ world.rowOf other = some row) := by
        intro other row stored
        rw [rowOf_insert] at stored
        by_cases atPush : other = push
        · rw [if_pos atPush] at stored
          cases stored
          exact Or.inl ⟨atPush, rfl, rfl⟩
        · rw [if_neg atPush] at stored
          exact Or.inr ⟨atPush, stored⟩
      have newApart : ∀ first second : ChangeRecord,
          first.sequence < world.nextSequence → first.commitId ≠ commitId →
          second.sequence = world.nextSequence → second.commitId = commitId →
          first.Apart second := by
        intro first second below other number commit
        exact ⟨by omega, by rw [commit]; exact other⟩
      exact
        { visibleBelow := fun change member =>
            lt_trans (safe.visibleBelow change member) (lt_add_one _)
          openBelow := by
            intro other row stored
            rcases rows other row stored with ⟨-, number, -⟩ | ⟨-, before⟩
            · rw [number]
              exact lt_add_one _
            · exact lt_trans (safe.openBelow other row before) (lt_add_one _)
          visibleApart := safe.visibleApart
          openApart := by
            intro first second one two different storedOne storedTwo
            rcases rows first one storedOne with ⟨atPush, number, commit⟩ | ⟨-, oneBefore⟩
            · rcases rows second two storedTwo with ⟨alsoPush, -, -⟩ | ⟨-, twoBefore⟩
              · exact absurd (atPush.trans alsoPush.symm) different
              · exact (newApart two one (safe.openBelow _ _ twoBefore)
                  (newOpen _ _ twoBefore) number commit).symm
            · rcases rows second two storedTwo with ⟨-, number, commit⟩ | ⟨-, twoBefore⟩
              · exact newApart one two (safe.openBelow _ _ oneBefore) (newOpen _ _ oneBefore)
                  number commit
              · exact safe.openApart first second one two different oneBefore twoBefore
          mixedApart := by
            intro other row stored change member
            rcases rows other row stored with ⟨-, number, commit⟩ | ⟨-, before⟩
            · exact newApart change row (safe.visibleBelow change member)
                (newVisible change member) number commit
            · exact safe.mixedApart other row before change member
          cursorBelow := lt_trans safe.cursorBelow (lt_add_one _)
          openAhead := by
            intro other row stored inBook
            rcases rows other row stored with ⟨-, number, -⟩ | ⟨-, before⟩
            · rw [number]
              exact safe.cursorBelow
            · exact safe.openAhead other row before inBook
          noneLost := safe.noneLost
          deliveredVisible := safe.deliveredVisible }
    · exact safe
  · exact safe

/-- A row that commits is ahead of the cursor. -/
theorem PullWorld.Safe.commit {deviceBook : String} {world : PullWorld}
    (safe : world.Safe deviceBook) (push : Nat) :
    (pullStep deviceBook world (.commit push)).Safe deviceBook := by
  rw [pullStep]
  have isNew : ∀ change ∈ (world.rowOf push).toList, world.rowOf push = some change :=
    fun change member => Option.mem_toList.mp member
  exact
    { visibleBelow := by
        intro change member
        rcases List.mem_append.mp member with old | new
        · exact safe.visibleBelow change old
        · exact safe.openBelow push change (isNew change new)
      openBelow := fun other row found => safe.openBelow other row (rowOf_erase found).2
      visibleApart := by
        rw [List.pairwise_append]
        refine ⟨safe.visibleApart, ?_, fun old member new isRow =>
          safe.mixedApart push new (isNew new isRow) old member⟩
        cases world.rowOf push with
        | none => exact List.Pairwise.nil
        | some row => exact List.pairwise_singleton _ row
      openApart := fun first second one two different foundOne foundTwo =>
        safe.openApart first second one two different (rowOf_erase foundOne).2
          (rowOf_erase foundTwo).2
      mixedApart := by
        intro other row found change member
        obtain ⟨different, before⟩ := rowOf_erase found
        rcases List.mem_append.mp member with old | new
        · exact safe.mixedApart other row before change old
        · exact safe.openApart push other change row (Ne.symm different) (isNew change new) before
      cursorBelow := safe.cursorBelow
      openAhead := fun other row found inBook =>
        safe.openAhead other row (rowOf_erase found).2 inBook
      noneLost := by
        intro change member inBook behind
        rcases List.mem_append.mp member with old | new
        · exact safe.noneLost change old inBook behind
        · have ahead := safe.openAhead push change (isNew change new) inBook
          exact absurd behind (not_le.mpr ahead)
      deliveredVisible := by
        intro number member
        obtain ⟨change, visible, numbered⟩ := safe.deliveredVisible number member
        exact ⟨change, List.mem_append_left _ visible, numbered⟩ }

/-! ### What a pull delivers -/

/-- The rows between the cursor and a number are the selected ones before it. -/
theorem length_between (changes : List ChangeRecord) (bookId : String) (cursor number : Int) :
    (changes.filter fun change => change.bookId = bookId ∧ cursor < change.sequence ∧
      change.sequence < number).length =
    ((selectChanges changes bookId cursor).filter fun change =>
      change.sequence < number).length := by
  rw [selectChanges, ((List.perm_insertionSort _ _).filter _).length_eq, List.filter_filter]
  congr 1
  refine List.filter_congr fun change _ => ?_
  by_cases below : change.sequence < number <;> simp [below]

section Page

variable {deviceBook : String} {world : PullWorld} (safe : world.Safe deviceBook)
  (limit : Option Nat)

include safe

/-- The rows beyond the cursor, in increasing order. -/
theorem PullWorld.Safe.selected_increasing :
    (selectChanges world.visible deviceBook world.cursor).Pairwise fun first second =>
      first.sequence < second.sequence :=
  selectChanges_increasing (safe.visibleApart.imp fun apart => apart.1) _ _

/-- Every row is a commit of its own, so that a page is cut at the limit. -/
theorem PullWorld.Safe.pullRowsPg_eq :
    pullRowsPg world.visible deviceBook world.cursor limit =
      (selectChanges world.visible deviceBook world.cursor).take (pullLimit limit) := by
  have apart := selectChanges_apart (safe.visibleApart.imp fun apart => apart.2) deviceBook
    world.cursor
  rw [pullRowsPg, Paging.page_eq_take _ _ _ (apart.sublist (List.take_sublist _ _)),
    List.take_take, Nat.min_eq_left (Nat.le_add_right _ _)]

/-- A page ends with its largest number. -/
theorem PullWorld.Safe.mem_page_of_le {change : ChangeRecord}
    (member : change ∈ selectChanges world.visible deviceBook world.cursor)
    (behind : change.sequence ≤
      nextCursor world.cursor (pullRowsPg world.visible deviceBook world.cursor limit)) :
    change ∈ pullRowsPg world.visible deviceBook world.cursor limit := by
  rw [safe.pullRowsPg_eq limit] at behind ⊢
  exact mem_take_of_le_nextCursor safe.selected_increasing member behind

/-- A pull that overtakes nothing stays behind every open row of the book. -/
theorem PullWorld.Safe.nextCursor_lt {push : Nat} {row : ChangeRecord}
    (found : world.rowOf push = some row) (inBook : row.bookId = deviceBook)
    (allowed : ¬Overtakes deviceBook world (.pull limit)) :
    nextCursor world.cursor (pullRowsPg world.visible deviceBook world.cursor limit) <
      row.sequence := by
  rw [safe.pullRowsPg_eq limit, nextCursor]
  cases last : ((selectChanges world.visible deviceBook world.cursor).take
      (pullLimit limit)).getLast? with
  | none => exact safe.openAhead push row found inBook
  | some final =>
    rw [Option.map_some, Option.getD_some]
    by_contra notBehind
    have inPage := List.mem_of_getLast? last
    obtain ⟨visible, ofBook, -⟩ := mem_selectChanges.mp (List.mem_of_mem_take inPage)
    have different := (safe.mixedApart push row found final visible).1
    have later : row.sequence < final.sequence := by omega
    refine allowed ⟨push, row, found, inBook, ⟨final, visible, ofBook, later⟩, ?_⟩
    -- the rows before the open one are the ones of the page that come before `final`
    have beyond : ((selectChanges world.visible deviceBook world.cursor).drop
        (pullLimit limit)).filter (fun change => decide (change.sequence < row.sequence)) = [] := by
      rw [List.filter_eq_nil_iff]
      intro change member
      have increasing := safe.selected_increasing
      rw [← List.take_append_drop (pullLimit limit)
        (selectChanges world.visible deviceBook world.cursor)] at increasing
      have larger := (List.pairwise_append.mp increasing).2.2 final inPage change member
      rw [decide_eq_true_eq]
      omega
    rw [length_between, ← List.take_append_drop (pullLimit limit)
      (selectChanges world.visible deviceBook world.cursor), List.filter_append, beyond,
      List.append_nil]
    refine lt_of_lt_of_le ?_ (List.length_take_le (pullLimit limit)
      (selectChanges world.visible deviceBook world.cursor))
    rw [List.length_filter_lt_length_iff_exists]
    exact ⟨final, inPage, by simpa using le_of_lt later⟩

/-- The cursor goes behind the whole page. -/
theorem PullWorld.Safe.le_nextCursor_of_mem {change : ChangeRecord}
    (member : change ∈ pullRowsPg world.visible deviceBook world.cursor limit) :
    change.sequence ≤
      nextCursor world.cursor (pullRowsPg world.visible deviceBook world.cursor limit) := by
  have increasing := safe.selected_increasing.sublist (List.take_sublist (pullLimit limit) _)
  rw [← safe.pullRowsPg_eq limit] at increasing
  exact Ledgerly.le_nextCursor_of_mem world.cursor increasing member

/-- A pull that overtakes the row of an open push goes on from behind it. -/
theorem PullWorld.Safe.overtaken_le_nextCursor {push : Nat} {row later : ChangeRecord}
    (found : world.rowOf push = some row) (inBook : row.bookId = deviceBook)
    (visible : later ∈ world.visible) (ofBook : later.bookId = deviceBook)
    (after : row.sequence < later.sequence)
    (few : (world.visible.filter fun change => change.bookId = deviceBook ∧
      world.cursor < change.sequence ∧ change.sequence < row.sequence).length <
        pullLimit limit) :
    row.sequence ≤
      nextCursor world.cursor (pullRowsPg world.visible deviceBook world.cursor limit) := by
  by_contra behind
  have ahead := safe.openAhead push row found inBook
  have selected : later ∈ selectChanges world.visible deviceBook world.cursor :=
    mem_selectChanges.mpr ⟨visible, ofBook, lt_trans ahead after⟩
  have before : ∀ change ∈ (selectChanges world.visible deviceBook world.cursor).take
      (pullLimit limit), change.sequence < row.sequence := by
    intro change member
    rw [← safe.pullRowsPg_eq limit] at member
    have reached := safe.le_nextCursor_of_mem limit member
    omega
  -- a page of rows before the open one is short, so that it is the whole selection
  have short : ((selectChanges world.visible deviceBook world.cursor).take
      (pullLimit limit)).length < pullLimit limit := by
    rw [length_between, ← List.take_append_drop (pullLimit limit)
      (selectChanges world.visible deviceBook world.cursor), List.filter_append,
      List.length_append, List.filter_eq_self.mpr fun change member =>
        decide_eq_true (before change member)] at few
    exact lt_of_le_of_lt (Nat.le_add_right _ _) few
  rw [List.length_take] at short
  rw [List.take_of_length_le (by omega)] at before
  exact absurd (before later selected) (not_lt.mpr (le_of_lt after))

end Page

/-- A pull that overtakes nothing loses nothing. -/
theorem PullWorld.Safe.pull {deviceBook : String} {world : PullWorld}
    (safe : world.Safe deviceBook) {limit : Option Nat}
    (allowed : ¬Overtakes deviceBook world (.pull limit)) :
    (pullStep deviceBook world (.pull limit)).Safe deviceBook := by
  have beyond : ∀ change ∈ pullRowsPg world.visible deviceBook world.cursor limit,
      change ∈ world.visible ∧ change.bookId = deviceBook ∧ world.cursor < change.sequence := by
    intro change member
    rw [safe.pullRowsPg_eq limit] at member
    exact mem_selectChanges.mp (List.mem_of_mem_take member)
  exact
    { visibleBelow := safe.visibleBelow
      openBelow := safe.openBelow
      visibleApart := safe.visibleApart
      openApart := safe.openApart
      mixedApart := safe.mixedApart
      cursorBelow := by
        simp only [pullStep, nextCursor]
        cases last : (pullRowsPg world.visible deviceBook world.cursor limit).getLast? with
        | none => exact safe.cursorBelow
        | some final =>
          exact safe.visibleBelow final (beyond final (List.mem_of_getLast? last)).1
      openAhead := fun push row found inBook => safe.nextCursor_lt limit found inBook allowed
      noneLost := by
        intro change member inBook behind
        rw [pullStep, List.mem_append]
        by_cases old : change.sequence ≤ world.cursor
        · exact Or.inl (safe.noneLost change member inBook old)
        · have selected := mem_selectChanges.mpr ⟨member, inBook, not_le.mp old⟩
          exact Or.inr (List.mem_map_of_mem (safe.mem_page_of_le limit selected behind))
      deliveredVisible := by
        intro number member
        rcases List.mem_append.mp member with old | new
        · exact safe.deliveredVisible number old
        · obtain ⟨change, inPage, numbered⟩ := List.mem_map.mp new
          exact ⟨change, (beyond change inPage).1, numbered⟩ }

/-- Every step that overtakes nothing keeps the world safe. -/
theorem pullStep_safe {deviceBook : String} {world : PullWorld}
    (safe : world.Safe deviceBook) {event : PullEvent}
    (allowed : ¬Overtakes deviceBook world event) :
    (pullStep deviceBook world event).Safe deviceBook := by
  cases event with
  | begin push bookId entityId => exact safe.begin push bookId entityId
  | allocate push commitId entityType operation entityVersion payload =>
    exact safe.allocate push commitId entityType operation entityVersion payload
  | commit push => exact safe.commit push
  | rollback push => exact safe.rollback push
  | pull limit => exact safe.pull allowed

/-! ### Whole runs -/

theorem visible_pullStep {deviceBook : String} {world : PullWorld} {change : ChangeRecord}
    (member : change ∈ world.visible) (event : PullEvent) :
    change ∈ (pullStep deviceBook world event).visible := by
  cases event with
  | commit push => exact List.mem_append_left _ member
  | rollback push => exact member
  | pull limit => exact member
  | begin push bookId entityId =>
    rw [pullStep]
    split <;> exact member
  | allocate push commitId entityType operation entityVersion payload =>
    rw [pullStep]
    split
    · split <;> exact member
    · exact member

/-- The cursor moves in pulls only, and never back. -/
theorem cursor_le_pullStep {deviceBook : String} {world : PullWorld}
    (safe : world.Safe deviceBook) (event : PullEvent) :
    world.cursor ≤ (pullStep deviceBook world event).cursor := by
  cases event with
  | commit push => exact le_refl _
  | rollback push => exact le_refl _
  | pull limit =>
    refine le_nextCursor fun change member => ?_
    rw [safe.pullRowsPg_eq limit] at member
    exact (mem_selectChanges.mp (List.mem_of_mem_take member)).2.2
  | begin push bookId entityId =>
    rw [pullStep]
    split <;> exact le_refl _
  | allocate push commitId entityType operation entityVersion payload =>
    rw [pullStep]
    split
    · split <;> exact le_refl _
    · exact le_refl _

/-- A pull for rows moves the cursor if there is a row ahead. -/
theorem cursor_lt_pull {deviceBook : String} {world : PullWorld}
    (safe : world.Safe deviceBook) {change : ChangeRecord} (member : change ∈ world.visible)
    (inBook : change.bookId = deviceBook) (ahead : world.cursor < change.sequence)
    {limit : Option Nat} (positive : 0 < pullLimit limit) :
    world.cursor < (pullStep deviceBook world (.pull limit)).cursor := by
  have selected := mem_selectChanges.mpr ⟨member, inBook, ahead⟩
  simp only [pullStep, nextCursor]
  cases last : (pullRowsPg world.visible deviceBook world.cursor limit).getLast? with
  | none =>
    rw [List.getLast?_eq_none_iff, safe.pullRowsPg_eq limit, List.take_eq_nil_iff] at last
    rcases last with zero | empty
    · omega
    · rw [empty] at selected
      exact absurd selected List.not_mem_nil
  | some final =>
    have inPage := List.mem_of_getLast? last
    rw [safe.pullRowsPg_eq limit] at inPage
    exact (mem_selectChanges.mp (List.mem_of_mem_take inPage)).2.2

/-- Along a guarded run the cursor passes a visible row or gains a number with every pull. -/
theorem cursor_progress {deviceBook : String} {events : List PullEvent} {world : PullWorld}
    (safe : world.Safe deviceBook)
    (guarded : Machine.Guarded (pullStep deviceBook)
      (fun reached event => ¬Overtakes deviceBook reached event) world events)
    {change : ChangeRecord} (member : change ∈ world.visible)
    (inBook : change.bookId = deviceBook) :
    change.sequence ≤ (Machine.run (pullStep deviceBook) world events).cursor ∨
      world.cursor + pullCount events ≤
        (Machine.run (pullStep deviceBook) world events).cursor := by
  induction events generalizing world with
  | nil => exact Or.inr (by simp [pullCount])
  | cons event rest inductionHypothesis =>
    obtain ⟨allowed, later⟩ := guarded
    have moved := cursor_le_pullStep safe event
    rcases inductionHypothesis (pullStep_safe safe allowed) later
        (visible_pullStep member event) with passed | gained
    · exact Or.inl passed
    · by_cases counts : pullCount (event :: rest) = pullCount rest
      · rw [counts]
        exact Or.inr (by rw [Machine.run_cons]; omega)
      · cases event with
        | pull limit =>
          have positive : 0 < pullLimit limit := by
            by_contra zero
            exact counts (by simp [pullCount, zero])
          have oneMore : pullCount (.pull limit :: rest) = pullCount rest + 1 := by
            simp [pullCount, positive]
          by_cases ahead : world.cursor < change.sequence
          · have step := cursor_lt_pull safe member inBook ahead positive
            exact Or.inr (by rw [Machine.run_cons, oneMore]; push_cast; omega)
          · exact Or.inl (by
              rw [Machine.run_cons]
              have reached := (le_trans (not_lt.mp ahead) moved)
              omega)
        | begin | allocate | commit | rollback => exact absurd rfl counts

/-- In every run of pushes and pulls, in any interleaving, whose pulls overtake no row of an
open push to the device's book, no row is ever lost, and a visible row is delivered after at
most as many pulls as it is numbers ahead of the cursor. -/
theorem pull_delivers_every_change (deviceBook : String) (events : List PullEvent)
    (guarded : Machine.Guarded (pullStep deviceBook)
      (fun world event => ¬Overtakes deviceBook world event) .initial events) :
    (∀ before, before <+: events →
      (Machine.run (pullStep deviceBook) .initial before).NoneLost deviceBook) ∧
    ∀ before after, events = before ++ after →
      ∀ change ∈ (Machine.run (pullStep deviceBook) .initial before).visible,
        change.bookId = deviceBook →
        change.sequence - (Machine.run (pullStep deviceBook) .initial before).cursor ≤
          pullCount after →
        change.sequence ∈ (Machine.run (pullStep deviceBook) .initial events).delivered := by
  have preserved : ∀ (world : PullWorld) (event : PullEvent), world.Safe deviceBook →
      ¬Overtakes deviceBook world event → (pullStep deviceBook world event).Safe deviceBook :=
    fun _ _ safe allowed => pullStep_safe safe allowed
  have safeAt : ∀ before after, events = before ++ after →
      (Machine.run (pullStep deviceBook) .initial before).Safe deviceBook ∧
        Machine.Guarded (pullStep deviceBook)
          (fun world event => ¬Overtakes deviceBook world event)
          (Machine.run (pullStep deviceBook) .initial before) after := by
    rintro before after rfl
    rw [Machine.guarded_append] at guarded
    exact ⟨Machine.guarded_invariant preserved (PullWorld.initial_safe deviceBook) guarded.1,
      guarded.2⟩
  refine ⟨?_, ?_⟩
  · rintro before ⟨after, split⟩
    exact (safeAt before after split.symm).1.noneLost
  · intro before after split change member inBook enough
    obtain ⟨safe, later⟩ := safeAt before after split
    have visible : change ∈ (Machine.run (pullStep deviceBook) .initial events).visible := by
      have keeps : ∀ (world : PullWorld) (event : PullEvent), change ∈ world.visible →
          change ∈ (pullStep deviceBook world event).visible :=
        fun _ event holds => visible_pullStep holds event
      rw [split, Machine.run_append]
      exact Machine.run_invariant keeps member after
    have final := (safeAt events [] (List.append_nil _).symm).1
    refine final.noneLost change visible inBook ?_
    rw [split, Machine.run_append]
    rcases cursor_progress safe later member inBook with passed | gained
    · exact passed
    · omega

/-- A push that commits between two pulls reaches the device with the second one. -/
theorem pull_delivers_one_change :
    (1 : Int) ∈ (Machine.run (pullStep "A") .initial
      [.begin 0 "A" "t1", .allocate 0 "c1" "transaction" "upsert" 1 .null, .pull none,
        .commit 0, .pull none]).delivered := by
  have nothingVisible : ∀ world : PullWorld, world.visible = [] →
      ¬Overtakes "A" world (.pull none) := by
    rintro world empty ⟨-, -, -, -, ⟨later, visible, -⟩, -⟩
    rw [empty] at visible
    exact absurd visible List.not_mem_nil
  have nothingOpen : ∀ world : PullWorld, world.inFlight = ∅ →
      ¬Overtakes "A" world (.pull none) := by
    rintro world empty ⟨push, row, found, -⟩
    rw [PullWorld.rowOf, empty, AList.lookup_empty] at found
    cases found
  have guarded : Machine.Guarded (pullStep "A") (fun world event => ¬Overtakes "A" world event)
      .initial [.begin 0 "A" "t1", .allocate 0 "c1" "transaction" "upsert" 1 .null, .pull none,
        .commit 0, .pull none] :=
    ⟨id, id, nothingVisible _ rfl, id, nothingOpen _ rfl, trivial⟩
  exact (pull_delivers_every_change "A" _ guarded).2
    [.begin 0 "A" "t1", .allocate 0 "c1" "transaction" "upsert" 1 .null, .pull none, .commit 0]
    [.pull none] rfl ⟨1, "A", "c1", "transaction", "t1", "upsert", 1, .null⟩
    (List.mem_singleton_self _) rfl (by decide)

/-! ### Overtaken rows are lost -/

/-- The condition is the right one: the push whose row a pull overtakes need only commit, and
its row is lost. -/
theorem overtaken_row_is_lost {deviceBook : String} {world : PullWorld}
    (safe : world.Safe deviceBook) {limit : Option Nat}
    (overtakes : Overtakes deviceBook world (.pull limit)) :
    ∃ push, ¬(Machine.run (pullStep deviceBook) world
      [.pull limit, .commit push]).NoneLost deviceBook := by
  obtain ⟨push, row, found, inBook, ⟨later, visible, ofBook, after⟩, few⟩ := overtakes
  refine ⟨push, fun noneLost => ?_⟩
  have committed : row ∈ (Machine.run (pullStep deviceBook) world
      [.pull limit, .commit push]).visible := by
    refine List.mem_append_right _ ?_
    change row ∈ (world.rowOf push).toList
    rw [found]
    exact List.mem_singleton_self row
  have delivered := noneLost row committed inBook
    (safe.overtaken_le_nextCursor limit found inBook visible ofBook after few)
  have given : ∃ change ∈ world.visible, change.sequence = row.sequence := by
    rcases List.mem_append.mp delivered with old | new
    · exact safe.deliveredVisible _ old
    · obtain ⟨change, inPage, numbered⟩ := List.mem_map.mp new
      rw [safe.pullRowsPg_eq limit] at inPage
      exact ⟨change, (mem_selectChanges.mp (List.mem_of_mem_take inPage)).1, numbered⟩
  obtain ⟨change, isVisible, numbered⟩ := given
  exact (safe.mixedApart push row found change isVisible).1 numbered

/-- Two pushes to different transactions of a book get the numbers 1 and 2; the second
commits, the device pulls, the first commits. -/
theorem pull_loses_change :
    ¬(Machine.run (pullStep "A") .initial
      [.begin 0 "A" "t1", .begin 1 "A" "t2",
        .allocate 0 "c1" "transaction" "upsert" 1 .null,
        .allocate 1 "c2" "transaction" "upsert" 1 .null,
        .commit 1, .pull none, .commit 0]).NoneLost "A" := by
  intro noneLost
  have delivered := noneLost ⟨1, "A", "c1", "transaction", "t1", "upsert", 1, .null⟩
    (List.mem_cons_of_mem _ (List.mem_singleton_self _)) rfl (by decide)
  exact absurd delivered (by decide)

end Ledgerly
