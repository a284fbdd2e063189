/-
This file settles whether a change row of the memory backend describes the row it was
logged with.

The record of a create or an update is made of what the readers of the handler accept, with
the stored record to fall back on, while the log keeps the payload as it was sent, with the
instant and, where the payload has no such key, the source of the record put in. The two
agree on every field but one: a payload that has the key `source` and nothing readable under
it leaves the stored source in the record and hides it in the log.
-/

import Ledgerly.ChangeLog
import Ledgerly.LedgerWriters

namespace Ledgerly

/-! ### What has been written to the store -/

/-- One request that writes to the memory store: a pushed mutation, a transaction of the
endpoint, or anything about books and accounts. -/
inductive MemoryEvent
  | pushed (step : PushStep)
  | created (userId : String) (request : CreateTransactionRequest) (new : NewTransaction)
  | elsewhere (books : KeyMap String BookRecord) (accounts : KeyMap String AccountRecord)

section Requests

variable [Rfc3339]

/-- What an event does to the store. -/
def MemoryEvent.apply (store : MemoryStore) : MemoryEvent → MemoryStore
  | .pushed step => pushStep store step
  | .created userId request new => (createTransaction store userId request new).1
  | .elsewhere books accounts => { store with books := books, accounts := accounts }

/-- The store after a run of requests. -/
def afterEvents (events : List MemoryEvent) : MemoryStore :=
  Machine.run MemoryEvent.apply (.initial ∅ ∅) events

omit [Rfc3339] in
/-- A source that reads as itself. -/
def PlainSource (source : String) : Prop :=
  trim source = source ∧ source ≠ "" ∧ source.length ≤ 32

omit [Rfc3339] in
theorem plainSource_of_parseSource {mutation : SyncMutationDto} {source : String}
    (read : parseSource mutation = some source) : PlainSource source := by
  unfold parseSource at read
  split at read
  · split at read
    · cases read
    · rename_i value _ accepted
      obtain ⟨nonempty, short⟩ := not_or.mp accepted
      cases read
      exact ⟨trim_trim value, nonempty, Nat.le_of_not_lt short⟩
  · cases read

omit [Rfc3339] in
theorem parseSource_of_plain {mutation : SyncMutationDto} {source : String}
    (plain : PlainSource source)
    (present : mutation.payload.get? "source" = some (.str source)) :
    parseSource mutation = some source := by
  obtain ⟨trimmed, nonempty, short⟩ := plain
  rw [parseSource, present]
  simp only [trimmed]
  exact if_neg (not_or.mpr ⟨nonempty, Nat.not_lt.mpr short⟩)

/-- The sources of all records read as themselves. -/
def SourcesPlain (store : MemoryStore) : Prop :=
  ∀ id row source, store.transactions.lookup id = some row → row.source = some source →
    PlainSource source

omit [Rfc3339] in
theorem SourcesPlain.insert {store : MemoryStore} (plain : SourcesPlain store) {id : String}
    {row : TxRecord} (plainRow : ∀ source, row.source = some source → PlainSource source)
    {written : MemoryStore} (wrote : written.transactions = store.transactions.insert id row) :
    SourcesPlain written := by
  intro other stored source found named
  rw [wrote] at found
  rcases KeyMap.lookup_insert_eq_some found with ⟨rfl, rfl⟩ | ⟨-, before⟩
  · exact plainRow source named
  · exact plain other stored source before named

theorem SourcesPlain.apply {store : MemoryStore} (plain : SourcesPlain store)
    (event : MemoryEvent) : SourcesPlain (event.apply store) := by
  cases event with
  | pushed step =>
    refine pushStep_elim (motive := SourcesPlain) step (fun _ _ holds => holds) plain ?_ ?_ ?_
    · intro existing requestedOccurredAt drafts accepts
      refine plain.insert (fun source named => ?_) rfl
      rcases Option.or_eq_some_iff.mp named with read | ⟨-, carried⟩
      · exact plainSource_of_parseSource read
      · obtain ⟨row, isRow, named⟩ := Option.bind_eq_some_iff.mp carried
        rw [isRow] at accepts
        exact plain _ row source accepts.found named
    · intro existing accepts
      have wrote : (writeDeleteMem store step.bookId step.mutation existing step.stamp).1.transactions
          = store.transactions.insert step.mutation.entityId
            { existing with deleted := true, version := existing.version + 1 } := rfl
      refine plain.insert ?_ wrote
      exact fun source named => plain _ existing source accepts.found named
    · exact fun _ _ => plain
  | created userId request new =>
    simp only [MemoryEvent.apply, createTransaction]
    split
    · exact plain
    · split
      · exact plain
      · split
        · exact plain
        · exact plain
        · split
          · exact plain.insert (fun source impossible => by cases impossible) rfl
          · exact plain
  | elsewhere books accounts => exact plain

theorem sourcesPlain_afterEvents (events : List MemoryEvent) :
    SourcesPlain (afterEvents events) := by
  refine Machine.run_invariant ?_ ?_ events
  · exact fun store event plain => plain.apply event
  · intro id row source found
    simp [MemoryStore.initial] at found

/-! ### One row and its change -/

/-- The payload of the change, given to the readers of the handler, says what the row says. -/
structure Describes (mutation : SyncMutationDto) (change : ChangeRecord) (row : TxRecord) :
    Prop where
  description : (change.payload.get? "description").bind Json.asStr? = row.description
  occurredAt : parseOccurredAt { mutation with payload := change.payload } =
    .ok (some row.occurredAt)
  source : parseSource { mutation with payload := change.payload } = row.source
  fingerprint : parseSourceEventFingerprint { mutation with payload := change.payload } =
    row.sourceEventFingerprint
  entries : parseEntries { mutation with payload := change.payload } =
    .ok (row.entries.map StoredEntry.draft)

/-- A create or an update that is new, is applied and is not a duplicate. -/
structure AppliesUpsert (store : MemoryStore) (step : PushStep) : Prop where
  isTransaction : step.mutation.entityType = "transaction"
  isWrite : step.mutation.operation = "create" ∨ step.mutation.operation = "update"
  new : store.mutations.lookup step.key = none
  applied : (pushReceipt store step).status = "applied"
  ok : (pushReceipt store step).resultCode = "OK"

/-- The row that is logged last describes the record. -/
def LogsRow (store : MemoryStore) (step : PushStep) : Prop :=
  ∃ change row, (pushStep store step).changes = store.changes ++ [change] ∧
    (pushStep store step).transactions.lookup step.mutation.entityId = some row ∧
    Describes step.mutation change row

omit [Rfc3339] in
/-- The payload has the key `source` with nothing readable under it, for a transaction that has a
source. -/
def HidesSource (store : MemoryStore) (step : PushStep) : Prop :=
  step.mutation.payload.containsKey "source" = true ∧ parseSource step.mutation = none ∧
    ∃ existing source, store.transactions.lookup step.mutation.entityId = some existing ∧
      existing.source = some source

section Upsert

variable {store : MemoryStore} {step : PushStep}

theorem AppliesUpsert.accepts (applies : AppliesUpsert store step) :
    ∃ existing requestedOccurredAt drafts,
      AcceptsUpsert store step.bookId step.mutation existing requestedOccurredAt drafts := by
  have applied := applies.applied
  have ok := applies.ok
  rw [pushReceipt_processed applies.new] at applied ok
  have effect := processMutationMem_effect store step.bookId step.mutation step.stamp
  generalize processMutationMem store step.bookId step.mutation step.stamp = outcome
    at effect applied ok
  cases effect with
  | refused resultCode entityVersion => simp [rejectedReceipt] at applied
  | deduped duplicate isTransaction notDelete fresh found => simp [dedupedReceipt] at ok
  | upserted existing requestedOccurredAt drafts accepts => exact ⟨_, _, _, accepts⟩
  | deleted existing accepts =>
    rcases applies.isWrite with isCreate | isUpdate
    · exact absurd (accepts.isDelete.symm.trans isCreate) (by simp)
    · exact absurd (accepts.isDelete.symm.trans isUpdate) (by simp)
  | accountWritten record accepts =>
    exact absurd (accepts.isAccount.symm.trans applies.isTransaction) (by simp)

/-- What an accepted create or update leaves. -/
theorem pushStep_upsert (new : store.mutations.lookup step.key = none)
    {existing : Option TxRecord} {requestedOccurredAt : Option Timestamp}
    {drafts : List EntryDraft}
    (accepts : AcceptsUpsert store step.bookId step.mutation existing requestedOccurredAt drafts) :
    let record := upsertRecord step.bookId step.mutation existing requestedOccurredAt drafts
      step.stamp.now
    ∃ change, change.payload = upsertPayload step.mutation existing record.occurredAt ∧
      (pushStep store step).changes = store.changes ++ [change] ∧
      (pushStep store step).transactions.lookup step.mutation.entityId = some record := by
  intro record
  refine ⟨store.nextChange step.bookId step.stamp.commitId "transaction" step.mutation.entityId
    "upsert" record.version (upsertPayload step.mutation existing record.occurredAt), rfl, ?_⟩
  rw [pushStep_processed new]
  simp only [processMutationMem_upsert accepts, writeUpsertMem]
  refine ⟨rfl, ?_⟩
  rw [AList.lookup_insert]

omit [Rfc3339] in
/-- The readers other than that of the source see what was sent. -/
theorem parse_congr (mutation : SyncMutationDto) {payload : Json}
    (kept : ∀ key, key ≠ "occurredAt" → key ≠ "source" →
      payload.get? key = mutation.payload.get? key) :
    (payload.get? "description").bind Json.asStr? =
        (mutation.payload.get? "description").bind Json.asStr? ∧
      parseSourceEventFingerprint { mutation with payload := payload } =
        parseSourceEventFingerprint mutation ∧
      ∀ drafts, parseEntries mutation = .ok drafts →
        parseEntries { mutation with payload := payload } = .ok drafts := by
  refine ⟨?_, ?_, fun drafts parsed => ?_⟩
  · rw [kept _ (by simp) (by simp)]
  · simp only [parseSourceEventFingerprint]
    rw [kept _ (by simp) (by simp), kept _ (by simp) (by simp)]
  · simp only [parseEntries] at parsed ⊢
    rw [kept _ (by simp) (by simp)]
    exact parsed

/-- The source that the log gives: what was sent, or what is put in where the key is missing. -/
theorem parseSource_logged {existing : Option TxRecord} {requestedOccurredAt : Option Timestamp}
    {drafts : List EntryDraft}
    (accepts : AcceptsUpsert store step.bookId step.mutation existing requestedOccurredAt drafts)
    (plain : SourcesPlain store) (occurredAt : Timestamp) :
    parseSource { step.mutation with
        payload := upsertPayload step.mutation existing occurredAt } =
      if step.mutation.payload.containsKey "source" = true then parseSource step.mutation
      else existing.bind TxRecord.source := by
  have dated : (canonicalTransactionPayload step.mutation.payload occurredAt).get? "source" =
      step.mutation.payload.get? "source" :=
    Json.get?_insert_of_ne _ _ _ _ (by decide)
  have present_iff : (canonicalTransactionPayload step.mutation.payload occurredAt).containsKey
      "source" = step.mutation.payload.containsKey "source" := by
    rw [Json.containsKey, dated, Json.containsKey]
  cases present : step.mutation.payload.containsKey "source" with
  | true =>
    rw [if_pos rfl]
    simp only [upsertPayload, present_iff, present, parseSource, dated]
  | false =>
    have absent : step.mutation.payload.get? "source" = none := by
      rw [Json.containsKey] at present
      exact Option.not_isSome_iff_eq_none.mp (by rw [present]; exact Bool.false_ne_true)
    rw [if_neg Bool.false_ne_true]
    cases carried : existing.bind TxRecord.source with
    | none => simp only [upsertPayload, present_iff, present, carried, parseSource, dated, absent]
    | some source =>
      obtain ⟨row, rfl, named⟩ := Option.bind_eq_some_iff.mp carried
      refine parseSource_of_plain (plain _ row source accepts.found named) ?_
      obtain ⟨items, entries, -⟩ := parseEntries_ok accepts.entries
      obtain ⟨fields, isObject⟩ := Json.exists_obj_of_get? entries
      simp only [upsertPayload, present_iff, present, carried]
      rw [canonicalTransactionPayload, isObject]
      exact Json.get?_insert_self _ _ _

/-- The row is described exactly if its source is. -/
theorem describes_iff {existing : Option TxRecord} {requestedOccurredAt : Option Timestamp}
    {drafts : List EntryDraft}
    (accepts : AcceptsUpsert store step.bookId step.mutation existing requestedOccurredAt drafts)
    (plain : SourcesPlain store) (change : ChangeRecord) :
    let record := upsertRecord step.bookId step.mutation existing requestedOccurredAt drafts
      step.stamp.now
    change.payload = upsertPayload step.mutation existing record.occurredAt →
      Rfc3339.parse (Rfc3339.format record.occurredAt) = some record.occurredAt →
      (Describes step.mutation change record ↔ ¬HidesSource store step) := by
  intro record logged reads
  obtain ⟨items, entries, -⟩ := parseEntries_ok accepts.entries
  obtain ⟨description, fingerprint, parsed⟩ := parse_congr step.mutation
    fun key notDate notSource => get?_upsertPayload_of_ne step.mutation existing record.occurredAt
      notDate notSource
  have source := parseSource_logged accepts plain record.occurredAt
  rw [← logged] at description fingerprint parsed source
  have stored : record.source =
      (parseSource step.mutation).or (existing.bind TxRecord.source) := rfl
  have agree_iff : parseSource { step.mutation with payload := change.payload } = record.source ↔
      ¬HidesSource store step := by
    rw [source, stored]
    cases present : step.mutation.payload.containsKey "source" with
    | false =>
      have unread : parseSource step.mutation = none := by
        have absent : step.mutation.payload.get? "source" = none := by
          rw [Json.containsKey] at present
          exact Option.not_isSome_iff_eq_none.mp (by rw [present]; exact Bool.false_ne_true)
        rw [parseSource, absent]
      rw [if_neg Bool.false_ne_true, unread, Option.none_or]
      exact ⟨fun _ hides => Bool.false_ne_true (present.symm.trans hides.1), fun _ => rfl⟩
    | true =>
      rw [if_pos rfl]
      cases read : parseSource step.mutation with
      | some sent =>
        refine ⟨fun _ hides => ?_, fun _ => rfl⟩
        have unread := read.symm.trans hides.2.1
        cases unread
      | none =>
        rw [Option.none_or]
        constructor
        · rintro unsourced ⟨-, -, row, source, found, named⟩
          rw [accepts.found] at found
          rw [found, Option.bind_some, named] at unsourced
          cases unsourced
        · intro shown
          refine (Option.eq_none_iff_forall_ne_some.mpr fun source carried => shown ?_).symm
          obtain ⟨row, isRow, named⟩ := Option.bind_eq_some_iff.mp carried
          exact ⟨present, read, row, source, accepts.found.trans isRow, named⟩
  refine ⟨fun describes => agree_iff.mp describes.source, fun shown => ?_⟩
  refine ⟨description, ?_, agree_iff.mpr shown, fingerprint, ?_⟩
  · simp only [parseOccurredAt]
    rw [logged, get?_upsertPayload_occurredAt entries]
    simp only [Json.asStr?_str, reads]
  · rw [parsed _ accepts.entries]
    exact congrArg Except.ok (stored_draft accepts.balanced).symm

end Upsert

/-- In every store a run of requests reaches, the change of an applied create or update describes
the stored record exactly if the payload does not hide its source. -/
theorem logsRow_iff (events : List MemoryEvent) (step : PushStep)
    (applies : AppliesUpsert (afterEvents events) step)
    (reads : ∀ row, (pushStep (afterEvents events) step).transactions.lookup
      step.mutation.entityId = some row →
      Rfc3339.parse (Rfc3339.format row.occurredAt) = some row.occurredAt) :
    LogsRow (afterEvents events) step ↔ ¬HidesSource (afterEvents events) step := by
  obtain ⟨existing, requestedOccurredAt, drafts, accepts⟩ := applies.accepts
  obtain ⟨change, payload, logged, stored⟩ := pushStep_upsert applies.new accepts
  rw [← describes_iff accepts (sourcesPlain_afterEvents events) change payload (reads _ stored)]
  constructor
  · rintro ⟨last, row, appended, found, describes⟩
    rw [logged] at appended
    rw [stored] at found
    obtain rfl := Option.some.inj found
    obtain rfl := List.singleton_inj.mp (List.append_cancel_left appended)
    exact describes
  · exact fun describes => ⟨_, _, logged, stored, describes⟩

end Requests

/-! ### A source that is sent as null -/

/-- The accounts of book `A`, and a transaction with a source. -/
def sourcedEvents : List MemoryEvent :=
  [.elsewhere ∅ (withAccounts "A" ∅),
    .pushed (transferStep "A" "m1" "t1" "create" 0 [("source", .str "manual")])]

theorem plain_update_is_described : let _ := epochClock
    LogsRow (afterEvents sourcedEvents) (transferStep "A" "m2" "t1" "update" 1 []) ↔
      ¬HidesSource (afterEvents sourcedEvents) (transferStep "A" "m2" "t1" "update" 1 []) := by
  intro clock
  refine logsRow_iff sourcedEvents _ ⟨rfl, by decide, by decide, by decide, by decide⟩ ?_
  intro row found
  have dated : ((pushStep (afterEvents sourcedEvents)
      (transferStep "A" "m2" "t1" "update" 1 [])).transactions.lookup "t1").map
        TxRecord.occurredAt = some epoch := by decide
  have same : row.occurredAt = epoch := by
    rw [show (pushStep (afterEvents sourcedEvents) (transferStep "A" "m2" "t1" "update" 1
      [])).transactions.lookup "t1" = some row from found] at dated
    exact Option.some.inj dated
  rw [same]
  decide

/-- An update sends the source as null: the record keeps `manual`, the logged payload reads as no
source. -/
theorem null_source_is_hidden : let _ := epochClock
    let step := transferStep "A" "m2" "t1" "update" 1 [("source", .null)]
    AppliesUpsert (afterEvents sourcedEvents) step ∧ ¬LogsRow (afterEvents sourcedEvents) step := by
  intro clock step
  refine ⟨⟨rfl, by decide, by decide, by decide, by decide⟩, ?_⟩
  rintro ⟨change, row, appended, found, describes⟩
  have logged : ((pushStep (afterEvents sourcedEvents) step).changes.map fun change =>
      parseSource { step.mutation with payload := change.payload }) = [some "manual", none] := by
    decide
  have stored : ((pushStep (afterEvents sourcedEvents) step).transactions.lookup "t1").bind
      TxRecord.source = some "manual" := by decide
  rw [appended, List.map_append] at logged
  rw [show (pushStep (afterEvents sourcedEvents) step).transactions.lookup "t1" = some row from
    found, Option.bind_some, ← describes.source] at stored
  have last := congrArg List.getLast? logged
  rw [List.map_singleton, List.getLast?_concat, stored] at last
  cases last

end Ledgerly
