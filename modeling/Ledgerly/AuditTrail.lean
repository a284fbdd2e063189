/-
This file models `query` of the audit trail on its two backends and proves that following
`nextCursor` enumerates the events that match.

Both backends fetch one row more than the page holds, in descending order of the ids, and the page
leads on by the id of its last event if that row is there. They differ in the order of the texts:
the memory backend compares bytes, the database as its collation does. All that is used of the
latter is that it is a linear order of all texts.
-/

import Ledgerly.MemoryStep
import Ledgerly.Library.Keyset
import Mathlib.Data.List.Sort
import Mathlib.Data.String.Basic

namespace Ledgerly

/-- `AuditEventRecord`, and a row of the table `audit_events`. -/
structure AuditEventRecord where
  id : String
  occurredAt : Timestamp
  actorType : String
  actorId : Option String
  action : String
  outcome : String
  targetType : Option String
  targetId : Option String
  requestId : Option String
  metadata : Json

/-- What is asked for: filters, a cursor and the size of a page. -/
structure AuditQuery where
  actorId : Option String
  action : Option String
  outcome : Option String
  before : Option String
  limit : Nat

/-- An event as the page shows it. -/
structure AuditEventView where
  id : String
  occurredAt : String
  actorType : String
  actorId : Option String
  action : String
  outcome : String
  targetType : Option String
  targetId : Option String
  requestId : Option String
  metadata : Json

/-- A page, and the cursor of the next one. -/
structure AuditPage where
  events : List AuditEventView
  nextCursor : Option String

/-- The order of texts of a database whose collation tells different texts apart. -/
class Collation where
  Key : Type
  order : LinearOrder Key
  key : String → Key
  key_injective : Function.Injective key

instance [Collation] : LinearOrder Collation.Key := Collation.order

/-- The filters of a query, without the one by the cursor. -/
def AuditQuery.selects (query : AuditQuery) (event : AuditEventRecord) : Bool :=
  (query.actorId.all fun actorId => event.actorId = some actorId) &&
    (query.action.all fun action => event.action = action) &&
    (query.outcome.all fun outcome => event.outcome = outcome)

/-- The limit of a page. -/
def AuditQuery.pageLimit (query : AuditQuery) : Nat := max 1 (min query.limit 200)

/-- The rows that a query fetches: those that match, of the greatest ids, and one beyond the
page. -/
def fetchRows {Key : Type} [LinearOrder Key] (key : String → Key) (events : List AuditEventRecord)
    (query : AuditQuery) : List AuditEventRecord :=
  ((events.filter fun event => query.selects event &&
      query.before.all fun before => key event.id < key before).insertionSort
    fun one two => key two.id ≤ key one.id).take (query.pageLimit + 1)

section Pages

variable [Rfc3339]

/-- An event as a page shows it. -/
def AuditEventRecord.view (event : AuditEventRecord) : AuditEventView where
  id := event.id
  occurredAt := Rfc3339.format event.occurredAt
  actorType := event.actorType
  actorId := event.actorId
  action := event.action
  outcome := event.outcome
  targetType := event.targetType
  targetId := event.targetId
  requestId := event.requestId
  metadata := event.metadata

/-- `page_from_rows`. -/
def pageFromRows (rows : List AuditEventRecord) (limit : Nat) : AuditPage :=
  let hasMore := limit < rows.length
  let rows := rows.take limit
  { events := rows.map AuditEventRecord.view
    nextCursor := if hasMore then rows.getLast?.map AuditEventRecord.id else none }

/-- `query` of the memory backend. -/
def queryMem (auditEvents : List AuditEventRecord) (query : AuditQuery) : AuditPage :=
  pageFromRows (fetchRows id auditEvents query) query.pageLimit

variable [Collation]

/-- `query` of PostgreSQL. -/
def queryPg (auditEvents : List AuditEventRecord) (query : AuditQuery) : AuditPage :=
  pageFromRows (fetchRows Collation.key auditEvents query) query.pageLimit

/-- The store that is queried. -/
inductive AuditBackend where
  | memory (auditEvents : List AuditEventRecord)
  | postgres (auditEvents : List AuditEventRecord)

namespace AuditBackend

omit [Rfc3339] [Collation] in
/-- The events that the backend holds. -/
def auditEvents : AuditBackend → List AuditEventRecord
  | memory auditEvents => auditEvents
  | postgres auditEvents => auditEvents

/-- `query`. -/
def query (backend : AuditBackend) (query : AuditQuery) : AuditPage :=
  match backend with
  | memory auditEvents => queryMem auditEvents query
  | postgres auditEvents => queryPg auditEvents query

omit [Rfc3339] in
/-- The order of ids that a backend has. -/
def below (backend : AuditBackend) (one two : String) : Bool :=
  match backend with
  | memory _ => one < two
  | postgres _ => Collation.key one < Collation.key two

omit [Rfc3339] in
/-- The events that a query is about. -/
def matching (backend : AuditBackend) (query : AuditQuery) : List AuditEventRecord :=
  backend.auditEvents.filter fun event =>
    query.selects event && query.before.all fun before => backend.below event.id before

/-- The pages from the first one on, each after the cursor of the one before, if the last one is
among so many. -/
def pages (backend : AuditBackend) (query : AuditQuery) (most : Nat) : Option (List AuditPage) :=
  Keyset.follow AuditPage.nextCursor
    (fun before => backend.query { query with before := before }) most query.before

end AuditBackend

/-! ### The pages of an order -/

section Order

variable {Key : Type} [LinearOrder Key] {key : String → Key} {auditEvents : List AuditEventRecord}

omit [Rfc3339] [Collation] in
/-- The rows a query fetches are the first ones beyond its cursor. -/
theorem fetchRows_eq (distinct : (auditEvents.map fun event => key event.id).Nodup)
    (query : AuditQuery) (before : Option String) :
    fetchRows key auditEvents { query with before := before } =
      (Keyset.beyond AuditEventRecord.id key before
        (Keyset.descend AuditEventRecord.id key (auditEvents.filter query.selects))).take
          (query.pageLimit + 1) := by
  have selected : ((auditEvents.filter query.selects).map fun event => key event.id).Nodup :=
    distinct.sublist (List.filter_sublist.map _)
  rw [← Keyset.descend_beyond selected, Keyset.beyond, List.filter_filter]
  refine congrArg (fun rows => (Keyset.descend AuditEventRecord.id key rows).take
    (query.pageLimit + 1)) (List.filter_congr fun event _ => Bool.and_comm _ _)

omit [Collation] in
/-- The pages of a query serve the events that its filters select. -/
theorem serves_pageFromRows (distinct : (auditEvents.map fun event => key event.id).Nodup)
    (query : AuditQuery) :
    Keyset.Serves AuditEventRecord.id key AuditPage.nextCursor AuditPage.events
      AuditEventRecord.view query.pageLimit
      (Keyset.descend AuditEventRecord.id key (auditEvents.filter query.selects))
      fun before => pageFromRows (fetchRows key auditEvents { query with before := before })
        query.pageLimit where
  items_eq before := by
    rw [pageFromRows, fetchRows_eq distinct, List.take_take, Nat.min_eq_left (Nat.le_succ _)]
  next_eq before := by
    rw [pageFromRows, fetchRows_eq distinct, List.take_take, Nat.min_eq_left (Nat.le_succ _),
      List.length_take]
    dsimp only
    by_cases more : query.pageLimit < (Keyset.beyond AuditEventRecord.id key before
        (Keyset.descend AuditEventRecord.id key (auditEvents.filter query.selects))).length
    · rw [if_pos (by omega), if_pos more]
    · rw [if_neg (by omega), if_neg more]

omit [Collation] in
/-- Following the pages of a query gives the events it is about in descending order. -/
theorem follow_pageFromRows (distinct : (auditEvents.map fun event => key event.id).Nodup)
    (query : AuditQuery) (most : Nat) (enough : auditEvents.length < most) :
    ∃ pages, Keyset.follow AuditPage.nextCursor
        (fun before => pageFromRows (fetchRows key auditEvents { query with before := before })
          query.pageLimit) most query.before = some pages ∧
      (pages.flatMap AuditPage.events).Perm ((auditEvents.filter fun event =>
        query.selects event && query.before.all fun before => key event.id < key before).map
          AuditEventRecord.view) ∧
      (pages.flatMap AuditPage.events).Pairwise fun one two => key two.id < key one.id := by
  have selected : ((auditEvents.filter query.selects).map fun event => key event.id).Nodup :=
    distinct.sublist (List.filter_sublist.map _)
  have descending := @Keyset.descending_descend _ _ _ _ AuditEventRecord.id key _ selected
  have perm := Keyset.descend_perm AuditEventRecord.id key (auditEvents.filter query.selects)
  have positive : 0 < query.pageLimit := Nat.lt_of_lt_of_le Nat.one_pos (Nat.le_max_left 1 _)
  have fewer : (Keyset.beyond AuditEventRecord.id key query.before
      (Keyset.descend AuditEventRecord.id key (auditEvents.filter query.selects))).length < most := by
    refine Nat.lt_of_le_of_lt (List.length_filter_le _ _) ?_
    rw [perm.length_eq]
    exact Nat.lt_of_le_of_lt (List.length_filter_le _ _) enough
  obtain ⟨pages, followed, together⟩ := Keyset.follow_eq
    (serves_pageFromRows distinct query) positive descending most query.before fewer
  refine ⟨pages, followed, ?_, ?_⟩
  · rw [together]
    refine List.Perm.map _ ((perm.filter _).trans (List.Perm.of_eq ?_))
    rw [List.filter_filter]
    exact List.filter_congr fun event _ => Bool.and_comm _ _
  · rw [together]
    exact List.pairwise_map.mpr (descending.beyond query.before)

end Order

/-- Whatever the filters and the limit, following `nextCursor` from the first page comes to an end,
and the pages are the events that match, each once, in strictly descending order of their ids. -/
theorem audit_pages_enumerate (backend : AuditBackend) (query : AuditQuery)
    (distinct : (backend.auditEvents.map AuditEventRecord.id).Nodup) (most : Nat)
    (enough : backend.auditEvents.length < most) :
    ∃ pages, backend.pages query most = some pages ∧
      (pages.flatMap AuditPage.events).Perm
        ((backend.matching query).map AuditEventRecord.view) ∧
      (pages.flatMap AuditPage.events).Pairwise fun one two => backend.below two.id one.id := by
  cases backend with
  | memory auditEvents =>
    obtain ⟨pages, followed, perm, descending⟩ :=
      @follow_pageFromRows _ String _ id auditEvents distinct query most enough
    exact ⟨pages, followed, perm, descending.imp fun lower => decide_eq_true lower⟩
  | postgres auditEvents =>
    have ranks : (auditEvents.map fun event => Collation.key event.id).Nodup := by
      have mapped := distinct.map Collation.key_injective
      rwa [List.map_map] at mapped
    obtain ⟨pages, followed, perm, descending⟩ :=
      @follow_pageFromRows _ Collation.Key _ Collation.key auditEvents ranks query most enough
    exact ⟨pages, followed, perm, descending.imp fun lower => decide_eq_true lower⟩

end Pages

/-- A database that compares texts by their characters. -/
@[reducible] def plainCollation : Collation where
  Key := String
  order := inferInstance
  key := id
  key_injective := Function.injective_id

/-- A failed and a successful login. -/
def twoLogins : List AuditEventRecord :=
  [⟨"1", epoch, "user", some "ada", "auth.login", "failure", none, none, none, .obj []⟩,
    ⟨"2", epoch, "user", some "ada", "auth.login", "success", none, none, none, .obj []⟩]

/-- Two logins on pages of one event each. -/
theorem twoLogins_paged :
    let _ := epochClock
    let _ := plainCollation
    let query : AuditQuery := ⟨some "ada", none, none, none, 0⟩
    ∃ pages, (AuditBackend.postgres twoLogins).pages query 3 = some pages ∧
      (pages.flatMap AuditPage.events).Perm
        (((AuditBackend.postgres twoLogins).matching query).map AuditEventRecord.view) ∧
      (pages.flatMap AuditPage.events).Pairwise fun one two =>
        (AuditBackend.postgres twoLogins).below two.id one.id := by
  intro _ _ query
  exact audit_pages_enumerate (.postgres twoLogins) query (by decide) 3 (by decide)

end Ledgerly
