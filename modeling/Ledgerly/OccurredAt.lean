/-
This file settles which dates crash a push.

Three ranges meet in `occurredAt`. RFC 3339 has texts for the years 0000 to 9999 with any offset,
the `time` crate has dates for the years -9999 to 9999, and a date is kept and logged in UTC.
`to_offset` panics where the year in UTC is none of the crate, which happens in the last hours of
9999 with an offset to the west. `format` fails, and `expect` panics, where it is before 0000, which
happens in the first hours of 0000 with an offset to the east.

The handlers are stated once more with their panics. Where no date leaves the years 0000 to 9999,
they do what the handlers of the memory store do with a clock that reads and writes all dates.
-/

import Ledgerly.MemoryStep
import Ledgerly.MonthQuery

namespace Ledgerly

/-! ### The crate -/

/-- The years of the `time` crate, in nanoseconds since the Unix epoch. -/
def InCrateYears (nanos : Int) : Prop :=
  -377705116800000000000 ≤ nanos ∧ nanos ≤ 253402300799999999999

instance (nanos : Int) : Decidable (InCrateYears nanos) := inferInstanceAs (Decidable (_ ∧ _))

/-- A date and time of the crate: what its calendar shows, counted as if in UTC, and how many
seconds it is ahead of UTC. -/
structure OffsetDateTime where
  calendar : Int
  offset : Int
  inYears : InCrateYears calendar

namespace OffsetDateTime

/-- The instant in nanoseconds, without the offset. -/
def instant (value : OffsetDateTime) : Int := value.calendar - value.offset * 1000000000

/-- `to_offset(UtcOffset::UTC)`, which panics where the year in UTC is none of the crate. -/
def toUtc (value : OffsetDateTime) : Option OffsetDateTime :=
  if inYears : InCrateYears value.instant then some ⟨value.instant, 0, inYears⟩ else none

/-- The instant that `format_occurred_at` writes, if it does not panic. -/
def written (value : OffsetDateTime) : Option Timestamp :=
  value.toUtc.bind fun utc => inRfc3339 utc.instant

/-- The year in UTC is one that RFC 3339 has texts for. -/
def InWrittenYears (value : OffsetDateTime) : Prop :=
  -62167219200000000000 ≤ value.instant ∧ value.instant ≤ 253402300799999999999

end OffsetDateTime

instance (value : OffsetDateTime) : Decidable value.InWrittenYears :=
  inferInstanceAs (Decidable (_ ∧ _))

/-- A date of the store. -/
def Timestamp.utc (instant : Timestamp) : OffsetDateTime :=
  ⟨instant.val, 0, ⟨le_trans (by decide) instant.2.1, instant.2.2⟩⟩

/-- `OffsetDateTime::parse(_, &Rfc3339)`, and `format(&Rfc3339)` where it succeeds. -/
class TimeCrate where
  parse : String → Option OffsetDateTime
  format : Timestamp → String

/-- The crate as a clock that takes a date for unreadable if it is not in the years 0000 to 9999. -/
instance TimeCrate.clock [TimeCrate] : Rfc3339 where
  parse text := (TimeCrate.parse text).bind fun value => inRfc3339 value.instant
  format := TimeCrate.format

/-! ### The handlers with their panics -/

section Handlers

variable [TimeCrate] (store : MemoryStore) (bookId : String) (mutation : SyncMutationDto)

/-- `parse_occurred_at`. -/
def parseOccurredAt? : Option (Except MutationReceiptDto (Option OffsetDateTime)) :=
  match mutation.payload.get? "occurredAt" with
  | none => some (.ok none)
  | some raw =>
    match raw.asStr? with
    | none => some (.error (rejectedReceipt mutation "INVALID_PAYLOAD" none))
    | some raw =>
      match TimeCrate.parse raw with
      | some value => value.toUtc.map fun utc => .ok (some utc)
      | none => some (.error (rejectedReceipt mutation "INVALID_PAYLOAD" none))

/-- The write of an accepted create or update, which formats its date first. -/
def writeUpsert? (existing : Option TxRecord) (requestedOccurredAt : Option OffsetDateTime)
    (drafts : List EntryDraft) (stamp : Stamp) : Option (MemoryStore × MutationReceiptDto) :=
  let occurredAt := (requestedOccurredAt.or
    (existing.map fun transaction => transaction.occurredAt.utc)).getD stamp.now.utc
  occurredAt.written.map fun occurredAt =>
    writeUpsertMem store bookId mutation existing (some occurredAt) drafts stamp

/-- The part of `process_mutation_mem` that holds the store. -/
def processUpsert? (requestedOccurredAt : Option OffsetDateTime) (drafts : List EntryDraft)
    (stamp : Stamp) : Option (MemoryStore × MutationReceiptDto) :=
  if drafts.all fun draft => accountInBook store.accounts bookId draft.accountId then
    match store.transactions.lookup mutation.entityId with
    | some existing =>
      if mutation.operation = "create" ∨ mutation.baseVersion ≠ existing.version then
        some (store, rejectedReceipt mutation "LEDGER_VERSION_CONFLICT" (some existing.version))
      else writeUpsert? store bookId mutation (some existing) requestedOccurredAt drafts stamp
    | none =>
      match store.duplicateOf bookId mutation with
      | some deduped => some (store, dedupedReceipt mutation deduped.version)
      | none => writeUpsert? store bookId mutation none requestedOccurredAt drafts stamp
  else some (store, rejectedReceipt mutation "ACCOUNT_NOT_FOUND" none)

/-- `process_mutation_mem`. -/
def processMutation? (stamp : Stamp) : Option (MemoryStore × MutationReceiptDto) :=
  if mutation.entityType = "account" then
    some (processAccountMutationMem store bookId mutation stamp)
  else if mutation.entityType ≠ "transaction" then
    some (store, rejectedReceipt mutation "UNSUPPORTED_MUTATION" none)
  else if mutation.operation = "delete" then some (processDeleteMem store bookId mutation stamp)
  else
    (parseOccurredAt? mutation).bind fun
      | .error receipt => some (store, receipt)
      | .ok requestedOccurredAt =>
        match parseEntries mutation with
        | .error receipt => some (store, receipt)
        | .ok drafts =>
          match validateOrReject mutation drafts with
          | some receipt => some (store, receipt)
          | none => processUpsert? store bookId mutation requestedOccurredAt drafts stamp

/-- The date of the mutation, if it has one that can be read, is in the years 0000 to 9999 in
UTC. -/
def DateWritten : Prop :=
  ∀ raw value, mutation.payload.get? "occurredAt" = some (.str raw) →
    TimeCrate.parse raw = some value → value.InWrittenYears

end Handlers

/-! ### No panic -/

section Written

variable {value : OffsetDateTime}

theorem OffsetDateTime.toUtc_eq (inYears : InCrateYears value.instant) :
    ∃ utc, value.toUtc = some utc ∧ utc.instant = value.instant := by
  refine ⟨_, dif_pos inYears, ?_⟩
  rw [instant, zero_mul, sub_zero]

/-- A date is written exactly if its year in UTC has a text. -/
theorem OffsetDateTime.written_eq_some {occurredAt : Timestamp} :
    value.written = some occurredAt ↔ occurredAt.val = value.instant := by
  constructor
  · intro formatted
    obtain ⟨utc, converted, same⟩ := Option.bind_eq_some_iff.mp formatted
    unfold toUtc at converted
    split at converted
    · cases converted
      rw [inRfc3339_eq_some.mp same, instant, zero_mul, sub_zero]
    · cases converted
  · intro same
    have inYears : InCrateYears value.instant := by
      rw [← same]
      exact occurredAt.utc.inYears
    obtain ⟨utc, converted, sameInstant⟩ := toUtc_eq inYears
    rw [written, converted, Option.bind_some, inRfc3339_eq_some, sameInstant, same]

theorem OffsetDateTime.exists_written_iff :
    (∃ occurredAt, value.written = some occurredAt) ↔ value.InWrittenYears := by
  constructor
  · rintro ⟨occurredAt, formatted⟩
    have inRange := occurredAt.2
    rw [written_eq_some.mp formatted] at inRange
    exact inRange
  · exact fun inRange => ⟨⟨value.instant, inRange⟩, written_eq_some.mpr rfl⟩

theorem Timestamp.utc_instant (instant : Timestamp) : instant.utc.instant = instant.val := by
  rw [OffsetDateTime.instant, Timestamp.utc, zero_mul, sub_zero]

end Written

section Refinement

variable [TimeCrate] {store : MemoryStore} {bookId : String} {mutation : SyncMutationDto}

/-- The date that a mutation asks for, read with panics and without. -/
inductive SameDate (mutation : SyncMutationDto) : Prop
  | refused (receipt : MutationReceiptDto)
      (panicking : parseOccurredAt? mutation = some (.error receipt))
      (clock : parseOccurredAt mutation = .error receipt)
  | read (requested : Option OffsetDateTime) (occurredAt : Option Timestamp)
      (panicking : parseOccurredAt? mutation = some (.ok requested))
      (clock : parseOccurredAt mutation = .ok occurredAt)
      (same : requested.map OffsetDateTime.instant = occurredAt.map Subtype.val)

theorem sameDate (written : DateWritten mutation) : SameDate mutation := by
  cases present : mutation.payload.get? "occurredAt" with
  | none =>
    refine .read none none ?_ ?_ rfl
    · rw [parseOccurredAt?, present]
    · rw [parseOccurredAt, present]
  | some field =>
    cases isText : field.asStr? with
    | none =>
      refine .refused (rejectedReceipt mutation "INVALID_PAYLOAD" none) ?_ ?_
      · rw [parseOccurredAt?, present]
        simp only [isText]
      · rw [parseOccurredAt, present]
        simp only [isText]
    | some raw =>
      cases parsed : TimeCrate.parse raw with
      | none =>
        have unread : Rfc3339.parse raw = none := by
          show (TimeCrate.parse raw).bind _ = none
          rw [parsed, Option.bind_none]
        refine .refused (rejectedReceipt mutation "INVALID_PAYLOAD" none) ?_ ?_
        · rw [parseOccurredAt?, present]
          simp only [isText, parsed]
        · rw [parseOccurredAt, present]
          simp only [isText, unread]
      | some value =>
        have inRange := written raw value (by rw [present, Json.asStr?_eq_some isText]) parsed
        obtain ⟨occurredAt, formatted⟩ := OffsetDateTime.exists_written_iff.mpr inRange
        have same := OffsetDateTime.written_eq_some.mp formatted
        have inYears : InCrateYears value.instant := same ▸ occurredAt.utc.inYears
        obtain ⟨utc, converted, sameInstant⟩ := OffsetDateTime.toUtc_eq inYears
        have read : Rfc3339.parse raw = some occurredAt := by
          show (TimeCrate.parse raw).bind _ = some occurredAt
          rw [parsed, Option.bind_some, inRfc3339_eq_some, same]
        refine .read (some utc) (some occurredAt) ?_ ?_ ?_
        · rw [parseOccurredAt?, present]
          simp only [isText, parsed, converted, Option.map_some]
        · rw [parseOccurredAt, present]
          simp only [isText, read]
        · exact congrArg some (sameInstant.trans same.symm)

/-- A write with a date that is written. -/
theorem writeUpsert?_eq {existing : Option TxRecord} {requested : Option OffsetDateTime}
    {occurredAt : Option Timestamp}
    (same : requested.map OffsetDateTime.instant = occurredAt.map Subtype.val)
    (drafts : List EntryDraft) (stamp : Stamp) :
    writeUpsert? store bookId mutation existing requested drafts stamp =
      some (writeUpsertMem store bookId mutation existing occurredAt drafts stamp) := by
  have resolved : ((requested.or (existing.map fun transaction => transaction.occurredAt.utc)).getD
      stamp.now.utc).written = some ((occurredAt.or (existing.map TxRecord.occurredAt)).getD
        stamp.now) := by
    rw [OffsetDateTime.written_eq_some]
    cases requested with
    | some value =>
      obtain ⟨timestamp, rfl⟩ : ∃ timestamp, occurredAt = some timestamp := by
        cases occurredAt with
        | some timestamp => exact ⟨timestamp, rfl⟩
        | none => cases same
      exact (Option.some.inj same).symm
    | none =>
      obtain rfl : occurredAt = none := by
        cases occurredAt with
        | some timestamp => cases same
        | none => rfl
      cases existing with
      | some transaction => exact transaction.occurredAt.utc_instant.symm
      | none => exact stamp.now.utc_instant.symm
  rw [writeUpsert?]
  simp only [resolved, Option.map_some]
  rfl

theorem processUpsert?_eq {requested : Option OffsetDateTime} {occurredAt : Option Timestamp}
    (same : requested.map OffsetDateTime.instant = occurredAt.map Subtype.val)
    (drafts : List EntryDraft) (stamp : Stamp) :
    processUpsert? store bookId mutation requested drafts stamp =
      some (processUpsertMem store bookId mutation occurredAt drafts stamp) := by
  unfold processUpsert? processUpsertMem
  split
  · cases store.transactions.lookup mutation.entityId with
    | some existing =>
      dsimp only
      split
      · rfl
      · exact writeUpsert?_eq same drafts stamp
    | none =>
      dsimp only
      cases store.duplicateOf bookId mutation with
      | some duplicate => rfl
      | none => exact writeUpsert?_eq same drafts stamp
  · rfl

/-- A mutation whose date is written is processed as with a clock that knows all dates. -/
theorem processMutation?_eq (written : DateWritten mutation) (stamp : Stamp) :
    processMutation? store bookId mutation stamp =
      some (processMutationMem store bookId mutation stamp) := by
  unfold processMutation? processMutationMem
  split
  · rfl
  · split
    · rfl
    · split
      · rfl
      · cases sameDate written with
        | refused receipt panicking clock =>
          rw [panicking, checkedDrafts, clock]
          rfl
        | read requested occurredAt panicking clock same =>
          rw [panicking, checkedDrafts, clock, Option.bind_some]
          dsimp only
          cases parseEntries mutation with
          | error receipt => rfl
          | ok drafts =>
            dsimp only
            cases validateOrReject mutation drafts with
            | some receipt => rfl
            | none => exact processUpsert?_eq same drafts stamp

end Refinement

/-! ### A date that survives -/

section Survives

variable [TimeCrate] (store : MemoryStore) (bookId : String) (mutation : SyncMutationDto)

/-- All that a create or update has to pass besides its date. -/
structure PassesOtherwise (existing : Option TxRecord) (drafts : List EntryDraft) : Prop where
  isTransaction : mutation.entityType = "transaction"
  isWrite : mutation.operation = "create" ∨ mutation.operation = "update"
  entries : parseEntries mutation = .ok drafts
  balanced : validateBalanced drafts = .ok ()
  accounts : ∀ draft ∈ drafts, accountInBook store.accounts bookId draft.accountId = true
  found : store.transactions.lookup mutation.entityId = existing
  current : ∀ transaction, existing = some transaction →
    mutation.operation = "update" ∧ mutation.baseVersion = transaction.version
  original : existing = none → store.duplicateOf bookId mutation = none

/-- The mutation is rejected for its payload, or applied: then it is stored with the instant that its
date says, and logged with a date that reads back as this instant. -/
def DateSurvives (raw : String) (outcome : Option (MemoryStore × MutationReceiptDto)) : Prop :=
  outcome = some (store, rejectedReceipt mutation "INVALID_PAYLOAD" none) ∨
  ∃ value next receipt record change text, TimeCrate.parse raw = some value ∧
    outcome = some (next, receipt) ∧ receipt.status = "applied" ∧
    next.transactions.lookup mutation.entityId = some record ∧
    record.occurredAt.val = value.instant ∧ next.changes = store.changes ++ [change] ∧
    change.payload.get? "occurredAt" = some (.str text) ∧
    (TimeCrate.parse text).map OffsetDateTime.instant = some value.instant

variable {store bookId mutation} {existing : Option TxRecord} {drafts : List EntryDraft}
  {raw : String}

/-- With a date of the years 0000 to 9999 a mutation passes all checks. -/
theorem PassesOtherwise.accepts (passes : PassesOtherwise store bookId mutation existing drafts)
    {occurredAt : Timestamp} (parsed : parseOccurredAt mutation = .ok (some occurredAt)) :
    AcceptsUpsert store bookId mutation existing (some occurredAt) drafts :=
  ⟨passes.isTransaction, passes.isWrite, parsed, passes.entries, passes.balanced, passes.accounts,
    passes.found, passes.current, passes.original⟩

omit [TimeCrate] in
theorem PassesOtherwise.notDelete (passes : PassesOtherwise store bookId mutation existing drafts) :
    mutation.operation ≠ "delete" := by
  rcases passes.isWrite with isCreate | isUpdate
  · rw [isCreate]
    decide
  · rw [isUpdate]
    decide

theorem PassesOtherwise.process (passes : PassesOtherwise store bookId mutation existing drafts)
    (stamp : Stamp) :
    processMutation? store bookId mutation stamp = (parseOccurredAt? mutation).bind fun
      | .error receipt => some (store, receipt)
      | .ok requested => writeUpsert? store bookId mutation existing requested drafts stamp := by
  have valid : validateOrReject mutation drafts = none :=
    validateOrReject_eq_none.mpr ⟨passes.isTransaction, Or.inr ⟨passes.isWrite, passes.balanced⟩⟩
  rw [processMutation?, if_neg (notAccount_of_isTransaction passes.isTransaction),
    if_neg (not_not.mpr passes.isTransaction), if_neg passes.notDelete, passes.entries]
  refine congrArg (Option.bind _) (funext fun requested => ?_)
  cases requested with
  | error receipt => rfl
  | ok requested =>
    simp only [valid, processUpsert?]
    rw [if_pos (List.all_eq_true.mpr passes.accounts), passes.found]
    cases existing with
    | none => simp only [passes.original rfl]
    | some transaction =>
      obtain ⟨isUpdate, sameVersion⟩ := passes.current transaction rfl
      have notCreate : mutation.operation ≠ "create" := by
        rw [isUpdate]
        decide
      simp only [notCreate, sameVersion, ne_eq, not_true_eq_false, or_self, if_false]

/-- A date beyond the years 0000 to 9999 panics. -/
theorem PassesOtherwise.panics (passes : PassesOtherwise store bookId mutation existing drafts)
    (present : mutation.payload.get? "occurredAt" = some (.str raw)) {value : OffsetDateTime}
    (parsed : TimeCrate.parse raw = some value) (beyond : ¬value.InWrittenYears) (stamp : Stamp) :
    processMutation? store bookId mutation stamp = none := by
  rw [passes.process stamp, parseOccurredAt?, present]
  simp only [Json.asStr?, parsed]
  cases converted : value.toUtc with
  | none => rfl
  | some utc =>
    have sameInstant : utc.instant = value.instant := by
      unfold OffsetDateTime.toUtc at converted
      split at converted
      · cases converted
        rw [OffsetDateTime.instant, zero_mul, sub_zero]
      · cases converted
    have unwritten : utc.written = none := by
      rw [Option.eq_none_iff_forall_ne_some]
      intro occurredAt formatted
      have inRange := OffsetDateTime.exists_written_iff.mp ⟨occurredAt, formatted⟩
      rw [OffsetDateTime.InWrittenYears, sameInstant] at inRange
      exact beyond inRange
    show utc.written.map _ = none
    rw [unwritten, Option.map_none]

end Survives

/-- A mutation that passes all other checks survives its date exactly if the date, where it can be
read at all, is in the years 0000 to 9999 in UTC. Under that condition no mutation panics, whatever
else is wrong with it. -/
theorem date_survives_iff [TimeCrate]
    (readsBack : ∀ instant : Timestamp,
      (TimeCrate.parse (TimeCrate.format instant)).map OffsetDateTime.instant = some instant.val)
    (store : MemoryStore) (bookId : String) (mutation : SyncMutationDto) (raw : String)
    (present : mutation.payload.get? "occurredAt" = some (.str raw)) (stamp : Stamp) :
    (∀ existing drafts, PassesOtherwise store bookId mutation existing drafts →
      (DateSurvives store mutation raw (processMutation? store bookId mutation stamp) ↔
        DateWritten mutation)) ∧
    (DateWritten mutation → processMutation? store bookId mutation stamp ≠ none) := by
  refine ⟨fun existing drafts passes => ⟨fun survives => ?_, fun written => ?_⟩, fun written => ?_⟩
  · intro other value same parsed
    obtain rfl : raw = other := by
      rw [present] at same
      cases same
      rfl
    by_contra beyond
    rw [passes.panics present parsed beyond stamp] at survives
    rcases survives with rejected | ⟨_, _, _, _, _, _, -, processed, -⟩
    · cases rejected
    · cases processed
  · rw [processMutation?_eq written stamp]
    cases sameDate written with
    | refused receipt panicking clock =>
      have rejected := parseOccurredAt_error clock
      refine Or.inl (congrArg some ?_)
      rw [processMutationMem, if_neg (notAccount_of_isTransaction passes.isTransaction),
        if_neg (not_not.mpr passes.isTransaction), if_neg passes.notDelete, checkedDrafts, clock,
        rejected]
    | read requested occurredAt panicking clock same =>
      -- the date is there, so the one that is stored is the one that was read
      obtain ⟨value, parsed, formatted⟩ : ∃ value, TimeCrate.parse raw = some value ∧
          ∃ time : Timestamp, occurredAt = some time ∧ time.val = value.instant := by
        rw [parseOccurredAt, present] at clock
        simp only [Json.asStr?] at clock
        cases read : Rfc3339.parse raw with
        | none =>
          rw [read] at clock
          cases clock
        | some time =>
          rw [read] at clock
          cases clock
          obtain ⟨value, parsed, inRange⟩ := Option.bind_eq_some_iff.mp read
          exact ⟨value, parsed, time, rfl, inRfc3339_eq_some.mp inRange⟩
      obtain ⟨time, rfl, sameInstant⟩ := formatted
      obtain ⟨items, entries, -⟩ := parseEntries_ok passes.entries
      refine Or.inr ⟨value, _, _, _, _, TimeCrate.format time, parsed, congrArg some
        (processMutationMem_upsert (passes.accepts clock) stamp), rfl, AList.lookup_insert _,
        sameInstant, rfl, get?_upsertPayload_occurredAt entries existing time, ?_⟩
      rw [readsBack, sameInstant]
  · rw [processMutation?_eq written stamp]
    exact Option.some_ne_none _

/-! ### The ends of the range -/

theorem epoch_inYears : InCrateYears 0 := by decide

theorem firstInstant_inYears : InCrateYears (-62167219200000000000) := by decide

theorem lastSecond_inYears : InCrateYears 253402300799000000000 := by decide

/-- The dates of `endsCrate`. -/
def endsParse (text : String) : Option OffsetDateTime :=
  match decimalInt text with
  | some nanos => if inYears : InCrateYears nanos then some ⟨nanos, 0, inYears⟩ else none
  | none =>
    if text = "1970-01-01T00:00:00Z" then some ⟨0, 0, epoch_inYears⟩
    else if text = "9999-12-31T23:59:59-23:59" then
      some ⟨253402300799000000000, -86340, lastSecond_inYears⟩
    else if text = "0000-01-01T00:00:00+23:59" then
      some ⟨-62167219200000000000, 86340, firstInstant_inYears⟩
    else none

/-- The texts of `endsCrate`. -/
def endsFormat (instant : Timestamp) : String :=
  if instant.val = 0 then "1970-01-01T00:00:00Z" else decimalText instant.val

/-- A crate that reads what RFC 3339 prescribes on the epoch and on the two ends of the range, and
writes all other dates as numbers. -/
@[reducible] def endsCrate : TimeCrate where
  parse := endsParse
  format := endsFormat

theorem endsCrate_readsBack (instant : Timestamp) :
    (endsParse (endsFormat instant)).map OffsetDateTime.instant = some instant.val := by
  by_cases isEpoch : instant.val = 0
  · have text : endsFormat instant = "1970-01-01T00:00:00Z" := if_pos isEpoch
    rw [text, isEpoch]
    decide
  · have text : endsFormat instant = decimalText instant.val := if_neg isEpoch
    have read : endsParse (decimalText instant.val) = some instant.utc := by
      rw [endsParse, decimalInt_decimalText]
      exact dif_pos instant.utc.inYears
    rw [text, read, Option.map_some, instant.utc_instant]

/-- A create of one yuan for food with a date. -/
def datedFood (raw : String) : SyncMutationDto :=
  (transferStep "A" "m1" "t1" "create" 0 [("occurredAt", .str raw)]).mutation

/-- The store with the two accounts of book `A`. -/
def foodStore : MemoryStore := .initial ∅ (withAccounts "A" ∅)

theorem datedFood_passes (raw : String) :
    PassesOtherwise foodStore "A" (datedFood raw) none
      [⟨"A:cash", -100, "CNY"⟩, ⟨"A:food", 100, "CNY"⟩] := by
  refine ⟨rfl, Or.inl rfl, ?_, by decide, by decide, rfl, by simp, ?_⟩
  · rfl
  · intro _
    rfl

theorem epoch_survives :
    let _ := endsCrate
    DateSurvives foodStore (datedFood "1970-01-01T00:00:00Z") "1970-01-01T00:00:00Z"
      (processMutation? foodStore "A" (datedFood "1970-01-01T00:00:00Z") ⟨epoch, "c1"⟩) := by
  intro _
  refine ((date_survives_iff endsCrate_readsBack foodStore "A" (datedFood "1970-01-01T00:00:00Z")
    "1970-01-01T00:00:00Z" rfl ⟨epoch, "c1"⟩).1 none _ (datedFood_passes _)).mpr ?_
  intro raw value present parsed
  have same : raw = "1970-01-01T00:00:00Z" := by
    cases present
    rfl
  subst same
  cases parsed
  decide

/-- Two dates that RFC 3339 allows: the one leaves the crate's years and panics in `to_offset`, the
other one the years that have a text and panics in `expect`. -/
theorem ends_panic :
    let _ := endsCrate
    (∀ instant : Timestamp, (TimeCrate.parse (TimeCrate.format instant)).map OffsetDateTime.instant =
      some instant.val) ∧
    parseOccurredAt? (datedFood "9999-12-31T23:59:59-23:59") = none ∧
    processMutation? foodStore "A" (datedFood "9999-12-31T23:59:59-23:59") ⟨epoch, "c1"⟩ = none ∧
    processMutation? foodStore "A" (datedFood "0000-01-01T00:00:00+23:59") ⟨epoch, "c1"⟩ = none ∧
    ¬DateSurvives foodStore (datedFood "9999-12-31T23:59:59-23:59") "9999-12-31T23:59:59-23:59"
      (processMutation? foodStore "A" (datedFood "9999-12-31T23:59:59-23:59") ⟨epoch, "c1"⟩) := by
  intro _
  have late : parseOccurredAt? (datedFood "9999-12-31T23:59:59-23:59") = none := by rfl
  have lateEnds : processMutation? foodStore "A" (datedFood "9999-12-31T23:59:59-23:59")
      ⟨epoch, "c1"⟩ = none := by
    rw [(datedFood_passes _).process, late, Option.bind_none]
  have earlyEnds : processMutation? foodStore "A" (datedFood "0000-01-01T00:00:00+23:59")
      ⟨epoch, "c1"⟩ = none :=
    (datedFood_passes _).panics rfl rfl (by decide) _
  refine ⟨endsCrate_readsBack, late, lateEnds, earlyEnds, ?_⟩
  rw [lateEnds]
  rintro (rejected | ⟨_, _, _, _, _, _, -, processed, -⟩)
  · cases rejected
  · cases processed

end Ledgerly
