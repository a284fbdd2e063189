/-
This file settles which changes of the log a device can take in.

The server logs the payload it was sent, after a reading of it that puts defaults in the place
of what it cannot read; the device casts the same fields and throws. So a row is delivered
exactly if its payload is `Legible`: the description is text, null or missing, and every
entry has a text for its account and text, null or nothing for its currency. The date a device
keeps is cut to seconds, which is what the second condition is about. The rows of the
transactions endpoint, which logs its entries as arrays, are never delivered.
-/

import Ledgerly.Convergence
import Ledgerly.LedgerWriters

namespace Ledgerly

/-- An entry a device can read. -/
structure Json.LegibleEntry (entry : Json) : Prop where
  accountId : ∃ id, entry.get? "accountId" = some (.str id)
  currency : (optionalText entry "currency").isSome = true

/-- A payload a device can read, apart from its date. -/
structure Json.Legible (payload : Json) : Prop where
  description : (optionalText payload "description").isSome = true
  entries : ∀ entry ∈ ((payload.get? "entries").bind asArray?).getD [], entry.LegibleEntry

/-- The column for an instant the row tells keeps the date that is stored. -/
def SecondsKept (instant stored : Timestamp) : Prop :=
  dateColumn (instant.val / 1000) * 1000000000 = stored.val

instance (instant stored : Timestamp) : Decidable (SecondsKept instant stored) :=
  inferInstanceAs (Decidable (_ = _))

/-- The local row has the content of the record. -/
structure LocalTransaction.Holds (row : LocalTransaction) (fromBook toBook : String)
    (record : TxRecord) : Prop where
  occurredAt : row.occurredAt * 1000000000 = record.occurredAt.val
  description : row.description = record.description
  entries : row.entries.map LocalEntry.read =
    record.entries.map (StoredEntry.seenFrom fromBook toBook)

/-- The device takes a change in without a throw, and then has what is stored: after an upsert
the content of the record, after a delete what it had, marked as deleted. -/
structure Device.Receives (device : Device) (remoteBookId : String) (now : Int)
    (change : ChangeRecord) (record : TxRecord) (after : Device) : Prop where
  applied : device.applyChange remoteBookId now change = some after
  upserted : change.operation = "upsert" → ∃ row,
    after.transactions.lookup change.entityId = some row ∧
      row.Holds remoteBookId device.bookId record
  deleted : change.operation = "delete" →
    after.transactions.lookup change.entityId =
      (device.transactions.lookup change.entityId).map fun existing =>
        { existing with
          deleted := true
          version := change.entityVersion }

/-- When a write can be taken in: a pushed delete always, any other push if its payload is
legible and its date is kept, a booked rule if its date is kept, and a transaction of the
endpoint never. -/
def LedgerWrite.Readable [Rfc3339] : LedgerWrite → Prop
  | .push store step => step.mutation.operation = "delete" ∨
      step.mutation.payload.Legible ∧
        SecondsKept (step.instant (store.transactions.lookup step.mutation.entityId))
          (step.instant (store.transactions.lookup step.mutation.entityId))
  | .pushPg store step => step.mutation.operation = "delete" ∨
      step.mutation.payload.Legible ∧
        SecondsKept (step.instant (store.transactions.lookup step.mutation.entityId))
          (step.instant (store.transactions.lookup step.mutation.entityId)).column
  | .create _ _ _ _ => False
  | .recurring _ _ new => SecondsKept new.now new.now.column

/-! ### The two readers -/

section Reading

variable (fromBook toBook : String)

/-- An entry is rewritten and read exactly if it is legible. -/
theorem exists_remoteEntry_iff {entry : Json} :
    (∃ sent local', rewriteEntry fromBook toBook entry = some sent ∧
      remoteEntry sent = some local') ↔ entry.LegibleEntry := by
  constructor
  · rintro ⟨sent, row, rewritten, read⟩
    unfold rewriteEntry at rewritten
    split at rewritten
    · rename_i id account
      cases rewritten
      refine ⟨⟨id, account⟩, ?_⟩
      unfold remoteEntry at read
      split at read
      · rename_i isCurrency
        rw [optionalText_insert_of_ne (by decide)] at isCurrency
        rw [isCurrency]
        rfl
      · cases read
    · cases rewritten
  · rintro ⟨⟨id, account⟩, currency⟩
    obtain ⟨text, isCurrency⟩ := Option.isSome_iff_exists.mp currency
    obtain ⟨fields, rfl⟩ := Json.exists_obj_of_get? account
    refine ⟨(Json.obj fields).insert "accountId" (.str (rewriteAccountId id fromBook toBook)),
      ⟨rewriteAccountId id fromBook toBook,
        (((Json.obj fields).get? "amountMinor").getD .null).dartText, text.getD "CNY"⟩, ?_, ?_⟩
    · rw [rewriteEntry, account]
    · rw [remoteEntry, Json.get?_insert_self, Json.get?_insert_of_ne _ _ _ _ (by decide),
        optionalText_insert_of_ne (by decide), isCurrency]
      rfl

/-- Entries are rewritten and read exactly if they are legible. -/
theorem exists_remoteEntries_iff {items : List Json} :
    (∃ sent entries, items.mapM (rewriteEntry fromBook toBook) = some sent ∧
      sent.mapM remoteEntry = some entries) ↔ ∀ item ∈ items, item.LegibleEntry := by
  constructor
  · rintro ⟨sent, entries, rewritten, read⟩
    rw [List.mapM_eq_some_iff] at rewritten read
    induction rewritten generalizing entries with
    | nil => exact fun _ member => absurd member List.not_mem_nil
    | cons first _ inductionHypothesis =>
      cases read with
      | cons entry rest =>
        exact List.forall_mem_cons.mpr
          ⟨(exists_remoteEntry_iff fromBook toBook).mp ⟨_, _, first, entry⟩,
          inductionHypothesis _ rest⟩
  · intro legible
    induction items with
    | nil => exact ⟨[], [], List.mapM_nil, List.mapM_nil⟩
    | cons item rest inductionHypothesis =>
      obtain ⟨head, tail⟩ := List.forall_mem_cons.mp legible
      obtain ⟨sent, entry, rewritten, read⟩ :=
        (exists_remoteEntry_iff fromBook toBook).mpr head
      obtain ⟨others, entries, later, laterRead⟩ := inductionHypothesis tail
      exact ⟨sent :: others, entry :: entries,
        List.mapM_eq_some_iff.mpr (.cons rewritten (List.mapM_eq_some_iff.mp later)),
        List.mapM_eq_some_iff.mpr (.cons read (List.mapM_eq_some_iff.mp laterRead))⟩

/-- A payload with a date and entries is rewritten and read exactly if it is legible. -/
theorem exists_remoteTransaction_iff [Rfc3339] [ReadsDates] {payload : Json}
    {items : List Json} {instant : Timestamp}
    (dated : payload.get? "occurredAt" = some (.str (Rfc3339.format instant)))
    (present : payload.get? "entries" = some (.arr items)) (known : Option LocalTransaction)
    (version now : Int) :
    (∃ sent row, rewriteTransactionPayload payload fromBook toBook = some sent ∧
      remoteTransaction known version sent now = some row) ↔ payload.Legible := by
  obtain ⟨fields, rfl⟩ := Json.exists_obj_of_get? present
  have listed : entryList (.obj fields) = some items := by rw [entryList, present]
  have entries : (((Json.obj fields).get? "entries").bind Json.asArray?).getD [] = items := by
    rw [present]
    rfl
  have sentDate : ∀ sent, remoteDate known ((Json.obj fields).insert "entries" (.arr sent)) now =
      some (dateColumn (instant.val / 1000)) := by
    intro sent
    rw [remoteDate, Json.get?_insert_of_ne _ _ _ _ (by decide), dated]
    show (remoteOccurredAt (Rfc3339.format instant)).map dateColumn = _
    rw [ReadsDates.remoteOccurredAt_format]
    rfl
  have sentEntries : ∀ sent, entryList ((Json.obj fields).insert "entries" (.arr sent)) =
      some sent := by
    intro sent
    rw [entryList, Json.get?_insert_self]
  constructor
  · rintro ⟨sent, row, rewritten, read⟩
    simp only [rewriteTransactionPayload, listed, Option.bind_some] at rewritten
    obtain ⟨rewrittenEntries, each, rfl⟩ := Option.map_eq_some_iff.mp rewritten
    unfold remoteTransaction at read
    split at read
    · rename_i localEntries isDate isDescription isEntries
      rw [optionalText_insert_of_ne (by decide)] at isDescription
      rw [sentEntries, Option.bind_some] at isEntries
      refine ⟨by rw [isDescription]; rfl, ?_⟩
      rw [entries]
      exact (exists_remoteEntries_iff fromBook toBook).mp ⟨_, _, each, isEntries⟩
    · cases read
  · rintro ⟨description, legible⟩
    rw [entries] at legible
    obtain ⟨text, isDescription⟩ := Option.isSome_iff_exists.mp description
    obtain ⟨sent, localEntries, each, read⟩ :=
      (exists_remoteEntries_iff fromBook toBook).mpr legible
    have reads : (remoteTransaction known version ((Json.obj fields).insert "entries" (.arr sent))
        now).isSome = true := by
      rw [remoteTransaction, sentDate, optionalText_insert_of_ne (by decide), isDescription,
        sentEntries, Option.bind_some, read]
      rfl
    obtain ⟨row, rowRead⟩ := Option.isSome_iff_exists.mp reads
    refine ⟨(Json.obj fields).insert "entries" (.arr sent), row, ?_, rowRead⟩
    simp only [rewriteTransactionPayload, listed, Option.bind_some, each, Option.map_some]

end Reading

/-! ### One row of the log -/

section Rows

variable {device : Device} {remoteBookId : String} {now : Int} {change : ChangeRecord}

/-- The loop body on an upsert of a transaction. -/
theorem Device.applyChange_upsert (isTransaction : change.entityType = "transaction")
    (isUpsert : change.operation = "upsert") : device.applyChange remoteBookId now change =
      (rewriteTransactionPayload change.payload remoteBookId device.bookId).bind fun payload =>
        device.applyRemoteUpsert change.entityId change.entityVersion payload now := by
  have notAccount : ¬(change.entityType = "account" ∧ change.operation = "upsert") := by
    rw [isTransaction]
    simp
  rw [applyChange, if_neg notAccount, if_neg (not_not.mpr isTransaction), if_pos isUpsert]

/-- The loop body on a delete of a transaction. -/
theorem Device.applyChange_delete (isTransaction : change.entityType = "transaction")
    (isDelete : change.operation = "delete") : device.applyChange remoteBookId now change =
      some (device.applyRemoteDelete change.entityId change.entityVersion) := by
  rw [applyChange, isTransaction, isDelete]
  simp

/-- A delete is always received. -/
theorem Device.receives_delete {record : TxRecord}
    (isTransaction : change.entityType = "transaction") (isDelete : change.operation = "delete") :
    ∃ after, device.Receives remoteBookId now change record after := by
  have applied : device.applyChange remoteBookId now change =
      some (device.applyRemoteDelete change.entityId change.entityVersion) :=
    Device.applyChange_delete isTransaction isDelete
  refine ⟨_, applied, fun isUpsert => ?_, fun _ => ?_⟩
  · exact absurd (isUpsert.symm.trans isDelete) (by decide)
  · exact (Device.applyChange_applies applied).deleted _ ⟨isTransaction, rfl⟩ isDelete

variable [Rfc3339] [ReadsDates]

/-- A row that tells a live record is received exactly if its payload is legible, as far as the
device keeps the date. -/
theorem ChangeRecord.Tells.receives_iff {record : TxRecord} {instant : Timestamp}
    (isTransaction : change.entityType = "transaction") (isUpsert : change.operation = "upsert")
    (tells : change.Tells { record with
      occurredAt := instant
      deleted := false }) :
    (∃ after, device.Receives remoteBookId now change record after) ↔
      change.payload.Legible ∧ SecondsKept instant record.occurredAt := by
  obtain ⟨items, present, -⟩ := tells.entries rfl
  have reads := exists_remoteTransaction_iff remoteBookId device.bookId (tells.occurredAt rfl)
    present (device.transactions.lookup change.entityId) change.entityVersion now
  have holds : ∀ {row : LocalTransaction}, row.Mirrors remoteBookId device.bookId { record with
      occurredAt := instant
      deleted := false } → (row.Holds remoteBookId device.bookId record ↔
        SecondsKept instant record.occurredAt) := by
    intro row mirrors
    have date : row.occurredAt = dateColumn (instant.val / 1000) := mirrors.occurredAt rfl
    rw [SecondsKept, ← date]
    exact ⟨LocalTransaction.Holds.occurredAt, fun kept =>
      ⟨kept, mirrors.description rfl, mirrors.entries rfl⟩⟩
  constructor
  · rintro ⟨after, applied, upserted, -⟩
    obtain ⟨payload, row, rewritten, read, written⟩ :=
      (Device.applyChange_applies applied).upserted _ ⟨isTransaction, rfl⟩ isUpsert
    obtain ⟨found, stored, held⟩ := upserted isUpsert
    rw [written] at stored
    cases stored
    exact ⟨reads.mp ⟨payload, row, rewritten, read⟩,
      (holds (tells.mirrors rfl rewritten read).1).mp held⟩
  · rintro ⟨legible, kept⟩
    obtain ⟨payload, row, rewritten, read⟩ := reads.mpr legible
    refine ⟨{ device with transactions := device.transactions.insert change.entityId row }, ?_,
      fun _ => ⟨row, AList.lookup_insert _, (holds (tells.mirrors rfl rewritten read).1).mpr kept⟩,
      fun isDelete => absurd (isUpsert.symm.trans isDelete) (by decide)⟩
    rw [Device.applyChange_upsert isTransaction isUpsert, rewritten, Option.bind_some,
      Device.applyRemoteUpsert, read]
    rfl

end Rows

/-! ### The writers -/

section Writers

variable [Rfc3339]

/-- The payload of a booked rule is legible. -/
theorem RecurringRule.legible_changePayload (rule : RecurringRule) (drafts : List EntryDraft)
    (instant : Timestamp) : (rule.changePayload drafts instant).Legible := by
  refine ⟨rfl, fun entry member => ?_⟩
  have listed : (((rule.changePayload drafts instant).get? "entries").bind Json.asArray?).getD [] =
      drafts.map EntryDraft.recurringJson := rfl
  rw [listed] at member
  obtain ⟨draft, -, rfl⟩ := List.mem_map.mp member
  exact ⟨⟨draft.accountId, rfl⟩, rfl⟩

omit [Rfc3339] in
/-- The server reads of a booked entry what the job stored of it. -/
theorem readEntry_recurringJson {draft : EntryDraft} (inRange : FitsI64 draft.amountMinor) :
    readEntry draft.recurringJson = draft := by
  obtain ⟨lower, upper⟩ := inRange
  have read := parseI128_decimalText draft.amountMinor (by omega) (by omega)
  simp [readEntry, EntryDraft.recurringJson, Json.get?, List.lookup_cons, read]

/-- The row of a booked rule tells the transaction, with the date the column has not cut yet. -/
theorem RecurringRule.tells {rule : RecurringRule} {drafts : List EntryDraft}
    {new : NewTransaction} {row : ChangeRecord}
    (inRange : ∀ draft ∈ drafts, FitsI64 draft.amountMinor)
    (nonzero : ∀ draft ∈ drafts, draft.amountMinor ≠ 0)
    (version : row.entityVersion = 1) (operation : row.operation = "upsert")
    (payload : row.payload = rule.changePayload drafts new.now) :
    row.Tells { rule.row drafts new with
      occurredAt := new.now
      deleted := false } := by
  refine ⟨version, operation, fun _ => ?_, fun _ => ?_,
    fun _ => ⟨drafts.map EntryDraft.recurringJson, ?_, ?_, ?_⟩⟩
  · rw [payload]
    rfl
  · rw [payload]
    rfl
  · rw [payload]
    rfl
  · rw [List.map_map]
    refine List.map_congr_left fun draft member => ?_
    rw [Function.comp_apply, readEntry_recurringJson (inRange draft member)]
  · rw [List.forall_mem_map]
    intro draft member
    rw [readEntry_recurringJson (inRange draft member)]
    exact ⟨nonzero draft member, inRange draft member⟩

omit [Rfc3339] in
/-- Legibility is a matter of two fields. -/
theorem legible_congr {first second : Json}
    (description : first.get? "description" = second.get? "description")
    (entries : first.get? "entries" = second.get? "entries") :
    first.Legible ↔ second.Legible := by
  have text : optionalText first "description" = optionalText second "description" := by
    rw [optionalText, optionalText, description]
  constructor
  · rintro ⟨legible, each⟩
    exact ⟨text ▸ legible, entries ▸ each⟩
  · rintro ⟨legible, each⟩
    exact ⟨text.symm ▸ legible, entries.symm ▸ each⟩

/-- An array is no entry that a device can read. -/
theorem rewrite_createdPayload {request : CreateTransactionRequest} {entries : List StoredEntry}
    (nonempty : entries ≠ []) (instant : Timestamp) (fromBook toBook : String) :
    rewriteTransactionPayload (createdPayload request entries instant) fromBook toBook = none := by
  cases entries with
  | nil => exact absurd rfl nonempty
  | cons entry rest =>
    have first : ((entry :: rest).map StoredEntry.tuple).mapM (rewriteEntry fromBook toBook) =
        none := by
      rw [List.map_cons, List.mapM_cons]
      rfl
    have listed : entryList (createdPayload request (entry :: rest) instant) =
        some ((entry :: rest).map StoredEntry.tuple) := rfl
    have isObject : ∃ fields, createdPayload request (entry :: rest) instant = .obj fields :=
      ⟨_, rfl⟩
    obtain ⟨fields, same⟩ := isObject
    rw [same] at listed ⊢
    rw [rewriteTransactionPayload, listed, Option.bind_some, first]
    rfl

variable [ReadsDates]

/-- A change of any writer is received by any device, whatever the device knows and whatever
date the pull joins to it, exactly if the write is `Readable`: a pushed delete always is, any
other push is if its payload is legible and its date is kept, a booked rule is if its date is
kept, and a transaction of the endpoint never is. -/
theorem received_iff_readable {write : LedgerWrite} {row : ChangeRecord} {record : TxRecord}
    (appends : write.Appends row record) (device : Device) (joined : Option Timestamp)
    (now : Int) :
    (∃ after, device.Receives row.bookId now (row.backfilled joined) record after) ↔
      write.Readable := by
  have pushed : ∀ {step : PushStep} {accounts : KeyMap String AccountRecord}
      {instant : Timestamp}, step.Upserts accounts instant row record →
      ((∃ after, device.Receives row.bookId now (row.backfilled joined) record after) ↔
        step.mutation.operation = "delete" ∨
          step.mutation.payload.Legible ∧ SecondsKept instant record.occurredAt) := by
    intro step accounts instant upserts
    have isUpsert : row.operation = "upsert" := upserts.tells.operation
    rw [upserts.tells.backfilled joined,
      upserts.tells.receives_iff appends.isTransaction isUpsert,
      legible_congr upserts.description upserts.entries]
    exact (or_iff_right upserts.notDelete).symm
  cases write with
  | push store step =>
    rcases push_appends appends with ⟨deletes, isDelete⟩ | ⟨upserts, stored⟩
    · rw [row.backfilled_of_delete joined isDelete]
      exact iff_of_true (Device.receives_delete appends.isTransaction isDelete) (Or.inl deletes)
    · rw [pushed upserts, stored]
      rfl
  | pushPg store step =>
    rcases pushPg_appends appends with ⟨deletes, isDelete⟩ | ⟨upserts, stored⟩
    · rw [row.backfilled_of_delete joined isDelete]
      exact iff_of_true (Device.receives_delete appends.isTransaction isDelete) (Or.inl deletes)
    · rw [pushed upserts, stored]
      rfl
  | create store userId request new =>
    obtain ⟨drafts, -, balanced, isUpsert, payload, -⟩ := create_appends appends
    have nonempty : drafts.map EntryDraft.stored ≠ [] := by
      rintro empty
      rw [List.map_eq_nil_iff.mp empty] at balanced
      exact absurd balanced (by decide)
    have dated : row.payload.get? "occurredAt" = some (.str (Rfc3339.format new.now)) := by
      rw [payload]
      rfl
    rw [row.backfilled_of_dated joined dated]
    refine iff_of_false ?_ id
    rintro ⟨after, applied, -⟩
    rw [Device.applyChange_upsert appends.isTransaction isUpsert, payload,
      rewrite_createdPayload nonempty] at applied
    cases applied
  | recurring store rule new =>
    obtain ⟨items, drafts, -, -, read, -, allowed, isUpsert, version, payload, rfl⟩ :=
      recurring_appends appends
    have tells := RecurringRule.tells (recurringEntries_spec read).2
      (PgStore.allows_nonzero allowed) version isUpsert payload
    rw [tells.backfilled joined, tells.receives_iff appends.isTransaction isUpsert, payload]
    exact and_iff_right (rule.legible_changePayload drafts new.now)

end Writers

/-! ### A row that stops every device -/

/-- An accepted create or update is appended. -/
theorem pushStep_appends [Rfc3339] {store : MemoryStore} {step : PushStep}
    {existing : Option TxRecord} {requestedOccurredAt : Option Timestamp}
    {drafts : List EntryDraft} (fresh : store.mutations.lookup step.key = none)
    (accepts : AcceptsUpsert store step.bookId step.mutation existing requestedOccurredAt
      drafts) :
    (LedgerWrite.push store step).Appends
      (store.nextChange step.bookId step.stamp.commitId "transaction" step.mutation.entityId
        "upsert" (upsertRecord step.bookId step.mutation existing requestedOccurredAt drafts
          step.stamp.now).version (upsertPayload step.mutation existing
            (upsertRecord step.bookId step.mutation existing requestedOccurredAt drafts
              step.stamp.now).occurredAt))
      (upsertRecord step.bookId step.mutation existing requestedOccurredAt drafts
        step.stamp.now) := by
  have outcome : (pushStep store step).tables =
      (writeUpsertMem store step.bookId step.mutation existing requestedOccurredAt drafts
        step.stamp).1.tables := by
    rw [pushStep_processed fresh, processMutationMem_upsert accepts]
    rfl
  refine ⟨?_, rfl, ?_⟩
  · rw [LedgerWrite.after, outcome]
    rfl
  · rw [LedgerWrite.after, outcome]
    exact AList.lookup_insert _

/-- A push of a create with further fields. -/
def describedBy (description : Json) : PushStep :=
  transferStep "A" "m1" "t1" "create" 0
    [("occurredAt", .str "1970-01-01T00:00:00Z"), ("description", description)]

/-- What the check of `describedBy` reads, whatever the description. -/
theorem describedBy_accepts (description : Json) : let _ := utcClock
    AcceptsUpsert (.initial ∅ (withAccounts "A" ∅)) "A" (describedBy description).mutation none
      (some epoch) [⟨"A:cash", -100, "CNY"⟩, ⟨"A:food", 100, "CNY"⟩] := by
  intro clock
  refine ⟨rfl, Or.inl rfl, rfl, rfl, by decide, by decide, rfl, ?_, fun _ => rfl⟩
  rintro transaction ⟨⟩

/-- A transaction with a text for its description is received. -/
theorem text_is_received : let _ := utcClock
    ∃ row record, (LedgerWrite.push (.initial ∅ (withAccounts "A" ∅))
        (describedBy (.str "Lunch"))).Appends row record ∧
      ∃ after, (Device.initial "phone" "local" ∅).Receives row.bookId 0 (row.backfilled none)
        record after := by
  intro clock
  have readsDates : ReadsDates := utcClock_readsDates
  have appends : (LedgerWrite.push (.initial ∅ (withAccounts "A" ∅))
      (describedBy (.str "Lunch"))).Appends _ _ :=
    pushStep_appends rfl (describedBy_accepts (.str "Lunch"))
  refine ⟨_, _, appends, (received_iff_readable appends _ none 0).mpr (Or.inr ⟨?_, by decide⟩)⟩
  refine ⟨rfl, fun entry member => ?_⟩
  obtain rfl | rfl := List.mem_pair.mp member
  · exact ⟨⟨"A:cash", rfl⟩, rfl⟩
  · exact ⟨⟨"A:food", rfl⟩, rfl⟩

/-- The server applies a create whose description is a number; no device can take the change in,
and a device that syncs keeps its cursor. -/
theorem number_is_poison : let _ := utcClock
    let store := MemoryStore.initial ∅ (withAccounts "A" ∅)
    let step := describedBy (.num "5")
    let sync := (Device.initial "phone" "local" ∅).syncNow (quietSync "A") (pushStep store step)
    (pushReceipt store step).status = "applied" ∧
      (∃ row record, (LedgerWrite.push store step).Appends row record ∧
        ∀ device joined now after,
          ¬Device.Receives device row.bookId now (row.backfilled joined) record after) ∧
      sync.ok = false ∧ sync.device.cursor = 0 ∧
      (pullMem (pushStep store step) "A" 0 (some 500)).nextCursor = 1 := by
  intro clock store step sync
  have readsDates : ReadsDates := utcClock_readsDates
  have appends : (LedgerWrite.push store step).Appends _ _ :=
    pushStep_appends rfl (describedBy_accepts (.num "5"))
  refine ⟨by decide, ⟨_, _, appends, fun device joined now after receives => ?_⟩, by decide,
    by decide, by decide⟩
  rcases (received_iff_readable appends device joined now).mp ⟨after, receives⟩ with
    isDelete | ⟨legible, -⟩
  · exact absurd isDelete (by decide)
  · exact absurd legible.description (by decide)

end Ledgerly
