/-
This file proves when keeping the local side of a conflict works.

The conflict has kept neither the type nor the operation of the mutation. `resolveConflict` takes
every conflict for one over a transaction, reads the operation from the payload, and bases the
mutation on the version of the receipt. What the server has checked of the payload before it
compared the versions it finds in order again. So the mutation is applied if it was one of a
transaction and the server still holds the version of the receipt; an account that is sent as a
transaction has no entries, and a version that is not the current one is the next conflict.

What is applied is not all that the payload says: the server keeps a source where the payload has
none, and reads neither a source nor a fingerprint that is not in order.
-/

import Ledgerly.LoggedRow
import Ledgerly.QueueDrain
import Ledgerly.QueueForm
import Ledgerly.SentMutation
import Ledgerly.ServerView
import Ledgerly.VersionChain

namespace Ledgerly

/-! ### On the device -/

/-- The mutation that keeping the local side of a conflict over a row queues. -/
def PendingMutationRow.kept (row : PendingMutationRow) (mutationId : String) (version : Int) :
    PendingMutationRow where
  mutationId := mutationId
  entityType := "transaction"
  entityId := row.entityId
  operation :=
    match row.payload.get? "deleted" with
    | some (.bool true) => "delete"
    | _ => "update"
  baseVersion := version
  payload := row.payload
  entriesFit := row.entriesFit

/-- The device that has resolved a conflict with a mutation. -/
def Device.keeping (device : Device) (conflictId : String) (kept : PendingMutationRow) : Device :=
  { device with
    conflicts := device.conflicts.filter fun other => other.id ≠ conflictId
    pending := device.pending ++ [kept] }

/-- The device holds the conflict over a row that a receipt with a version has recorded. -/
def Device.Holds (device : Device) (conflictId : String) (row : PendingMutationRow)
    (code : String) (version : Int) : Prop :=
  ∃ conflict, (device.conflicts.find? fun other => other.id = conflictId) = some conflict ∧
    conflict.Records row code ∧ conflict.remoteVersion = some version

section Device

variable {device : Device} {row : PendingMutationRow} {conflictId mutationId code : String}
  {version : Int}

/-- Keeping the local side queues the payload of the conflict, based on its version. -/
theorem Device.Holds.resolve (holds : device.Holds conflictId row code version)
    (isObject : ∃ fields, row.payload = .obj fields)
    (unused : ∀ other ∈ device.pending, other.mutationId ≠ mutationId) :
    device.resolveConflict conflictId true mutationId =
      some (device.keeping conflictId (row.kept mutationId version)) := by
  obtain ⟨⟨id, entityId, reason, localPayload, remoteVersion, entriesFit⟩, found, records,
    carried⟩ := holds
  obtain rfl : id = conflictId := by simpa using List.find?_some found
  obtain rfl : entityId = row.entityId := records.entity
  obtain rfl : localPayload = row.payload := records.payload
  obtain rfl : remoteVersion = some version := carried
  obtain ⟨fields, isObject⟩ := isObject
  have free : ¬(device.pending.any fun other => other.mutationId = mutationId) = true := by
    intro taken
    obtain ⟨other, member, same⟩ := List.any_eq_true.mp taken
    exact unused other member (of_decide_eq_true same)
  unfold Device.resolveConflict Device.queue
  rw [found]
  dsimp only
  rw [if_pos rfl, if_neg free]
  split
  · rfl
  · rename_i notObject
    exact absurd isObject (notObject fields)

theorem PendingMutationRow.kept_ne_account :
    (row.kept mutationId version).entityType ≠ "account" :=
  show ("transaction" : String) ≠ "account" by decide

/-- The operation is read back from the payload, where the mutation was one of a transaction. -/
theorem PendingMutationRow.Formed.kept_operation (formed : row.Formed) :
    (row.kept mutationId version).operation =
      if row.operation = "delete" then "delete" else "update" := by
  have marked := formed.marked
  unfold PendingMutationRow.kept
  dsimp only
  split
  · rename_i isMarked
    rw [if_pos (marked.mp isMarked)]
  · rename_i unmarked
    rw [if_neg fun isDelete => unmarked (marked.mpr isDelete)]

/-- So it is sent with the payload that the mutation was sent with. -/
theorem PendingMutationRow.Formed.kept_sentPayload (formed : row.Formed)
    (isTransaction : row.entityType = "transaction") (fromBook toBook : String) :
    (row.kept mutationId version).sentPayload fromBook toBook =
      row.sentPayload fromBook toBook := by
  have notAccount : row.entityType ≠ "account" := isTransaction.trans_ne (by decide)
  have operation : (row.kept mutationId version).operation = _ := formed.kept_operation
  unfold PendingMutationRow.sentPayload
  rw [show (row.kept mutationId version).payload = row.payload from rfl]
  simp only [if_neg notAccount, if_neg row.kept_ne_account]
  by_cases isDelete : row.operation = "delete"
  · rw [if_pos isDelete] at operation
    rw [if_pos isDelete, if_pos operation]
  · rw [if_neg isDelete] at operation
    have keptNotDelete : (row.kept mutationId version).operation ≠ "delete" :=
      operation.trans_ne (by decide)
    rw [if_neg isDelete, if_neg keptNotDelete]

/-- The payload of an account gets an empty list of entries. -/
theorem PendingMutationRow.Formed.kept_sentPayload_account (formed : row.Formed)
    (isAccount : row.entityType = "account") {fields : List (String × Json)}
    (isObject : row.payload = .obj fields) (fromBook toBook : String) :
    (row.kept mutationId version).sentPayload fromBook toBook =
      some ((Json.obj fields).insert "entries" (.arr [])) := by
  obtain ⟨notDelete, noEntries⟩ := formed.account isAccount
  have keptNotDelete : (row.kept mutationId version).operation ≠ "delete" := by
    rw [formed.kept_operation, if_neg notDelete]
    decide
  unfold PendingMutationRow.sentPayload
  rw [show (row.kept mutationId version).payload = .obj fields from isObject]
  rw [isObject] at noEntries
  simp only [if_neg row.kept_ne_account, if_neg keptNotDelete, rewriteTransactionPayload,
    entryList, noEntries, Option.bind_some, List.mapM_nil, Option.pure_def, Option.map_some]

/-- The payload of what has been sent is an object. -/
theorem PendingMutationRow.step_payload {deviceId fromBook toBook : String} {stamp : Stamp}
    {step : PushStep} (made : row.step deviceId fromBook toBook stamp = some step) :
    row.sentPayload fromBook toBook = some step.mutation.payload ∧
      ∃ fields, row.payload = .obj fields := by
  unfold PendingMutationRow.step at made
  split at made
  · cases made
  · rename_i payload sent
    cases made
    refine ⟨sent, ?_⟩
    unfold PendingMutationRow.sentPayload at sent
    split at sent
    · rename_i fields isObject
      exact ⟨fields, isObject⟩
    · cases sent

/-- What has a payload to be sent can be sent. -/
theorem PendingMutationRow.exists_step {fromBook toBook : String} {payload : Json}
    (sent : row.sentPayload fromBook toBook = some payload) (deviceId : String) (stamp : Stamp) :
    ∃ step, row.step deviceId fromBook toBook stamp = some step := by
  unfold PendingMutationRow.step
  split
  · rename_i unsent
    cases unsent.symm.trans sent
  · exact ⟨_, rfl⟩

end Device

/-! ### What the server shows -/

section Shows

variable [Rfc3339]

/-- What a payload says under a key, if it says a text. -/
def Json.told (payload : Json) (key : String) : Option String :=
  (payload.get? key).bind Json.asStr?

/-- A transaction as the payload of a device tells it. The account ids are those of the server. -/
structure TxRecord.ShowsPayload (record : TxRecord) (payload : Json) (fromBook toBook : String) :
    Prop where
  live : record.deleted = false
  book : record.bookId = toBook
  entries : ∃ items, entryList payload = some items ∧
    List.Forall₂ (fun item entry => ∃ sent, rewriteEntry fromBook toBook item = some sent ∧
      (readEntry sent).stored = entry) items record.entries
  description : record.description = payload.told "description"
  occurredAt : ∀ text, payload.get? "occurredAt" = some (.str text) →
    Rfc3339.parse text = some record.occurredAt
  source : record.source = payload.told "source"
  fingerprint : record.sourceEventFingerprint = payload.told "sourceEventFingerprint"

/-- The server holds what the mutation says: the account or the transaction of the payload, or a
deleted transaction. -/
def MemoryStore.Shows (server : MemoryStore) (row : PendingMutationRow)
    (fromBook toBook : String) : Prop :=
  if row.entityType = "account" then
    ∃ record, server.accounts.lookup (rewriteAccountId row.entityId fromBook toBook) = some record ∧
      rewriteAccountPayload row.payload fromBook toBook =
        some (canonicalAccountPayload record.name record.accountType record.currency
          record.parentAccountId)
  else if row.operation = "delete" then
    ∃ record, server.transactions.lookup row.entityId = some record ∧ record.deleted = true
  else
    ∃ record, server.transactions.lookup row.entityId = some record ∧
      record.ShowsPayload row.payload fromBook toBook

/-- The server takes the source and the fingerprint of a payload as they stand there: a source that
it would cut or not read is not one of them, nor is no source where one is stored already. -/
structure ProvenanceTaken (existing : Option TxRecord) (mutation : SyncMutationDto)
    (payload : Json) : Prop where
  source : ∀ text, payload.told "source" = some text → PlainSource text
  noSource : payload.told "source" = none → ∀ stored ∈ existing, stored.source = none
  fingerprint : parseSourceEventFingerprint mutation = payload.told "sourceEventFingerprint"

omit [Rfc3339] in
/-- The source of a record that an accepted create or update writes is the one of the payload if
the server takes it. -/
theorem written_source_iff {mutation : SyncMutationDto} {existing : Option TxRecord} {payload : Json}
    (kept : mutation.payload.get? "source" = payload.get? "source")
    (plain : ∀ stored ∈ existing, ∀ source, stored.source = some source → PlainSource source) :
    (parseSource mutation).or (existing.bind TxRecord.source) = payload.told "source" ↔
      (∀ text, payload.told "source" = some text → PlainSource text) ∧
        (payload.told "source" = none → ∀ stored ∈ existing, stored.source = none) := by
  cases told : payload.told "source" with
  | some text =>
    have present : mutation.payload.get? "source" = some (.str text) := by
      obtain ⟨value, found, isText⟩ := Option.bind_eq_some_iff.mp told
      rw [kept, found, Json.asStr?_eq_some isText]
    constructor
    · intro same
      refine ⟨fun other isText => ?_, fun missing => by cases missing⟩
      obtain rfl := Option.some.inj isText
      rcases Option.or_eq_some_iff.mp same with read | ⟨-, carried⟩
      · exact plainSource_of_parseSource read
      · obtain ⟨stored, isStored, named⟩ := Option.bind_eq_some_iff.mp carried
        exact plain stored isStored text named
    · rintro ⟨taken, -⟩
      rw [parseSource_of_plain (taken text rfl) present, Option.some_or]
  | none =>
    have unread : parseSource mutation = none := by
      unfold parseSource
      split
      · rename_i text found
        rw [Json.told, ← kept, found] at told
        cases told
      · rfl
    rw [unread, Option.none_or]
    constructor
    · intro missing
      refine ⟨fun _ impossible => (by cases impossible), fun _ stored isStored => ?_⟩
      rw [show existing = some stored from isStored] at missing
      exact missing
    · rintro ⟨-, missing⟩
      cases existing with
      | none => rfl
      | some stored => exact missing rfl stored rfl

/-- The record an accepted create or update writes shows the payload it was sent for, if and only if
the server takes the source and the fingerprint as they are. -/
theorem upsertRecord_showsPayload_iff {store : MemoryStore} {mutation : SyncMutationDto}
    {existing : Option TxRecord} {requested : Option Timestamp} {drafts : List EntryDraft}
    {payload : Json} {fromBook toBook : String}
    (accepts : AcceptsUpsert store toBook mutation existing requested drafts)
    (sent : rewriteTransactionPayload payload fromBook toBook = some mutation.payload)
    (plain : SourcesPlain store) (now : Timestamp) :
    (upsertRecord toBook mutation existing requested drafts now).ShowsPayload payload fromBook
      toBook ↔ ProvenanceTaken existing mutation payload := by
  unfold rewriteTransactionPayload at sent
  split at sent
  · rename_i fields
    obtain ⟨entries, rewritten, isSent⟩ := Option.map_eq_some_iff.mp sent
    obtain ⟨items, listed, each⟩ := Option.bind_eq_some_iff.mp rewritten
    obtain ⟨read, found, isDrafts⟩ := parseEntries_ok accepts.entries
    have kept : ∀ {key}, key ≠ "entries" →
        mutation.payload.get? key = (Json.obj fields).get? key := by
      intro key other
      rw [← isSent, Json.get?_insert_of_ne _ _ _ _ other]
    obtain rfl : entries = read := by
      rw [← isSent, Json.get?_insert_self] at found
      exact Json.arr.inj (Option.some.inj found)
    have source := written_source_iff
      (show mutation.payload.get? "source" = (Json.obj fields).get? "source" from kept (by decide))
      fun stored isStored source named => plain _ stored source
        (accepts.found.trans isStored) named
    constructor
    · intro shows
      obtain ⟨taken, missing⟩ := source.mp shows.source
      exact ⟨taken, missing, shows.fingerprint⟩
    · rintro ⟨taken, missing, fingerprint⟩
      refine ⟨rfl, rfl, ⟨items, listed, ?_⟩, ?_, ?_, source.mpr ⟨taken, missing⟩, fingerprint⟩
      · show List.Forall₂ _ items (drafts.map EntryDraft.stored)
        rw [isDrafts, List.map_map, List.forall₂_map_right_iff]
        exact (List.mapM_eq_some_iff.mp each).imp fun item entry made => ⟨entry, made, rfl⟩
      · show (mutation.payload.get? "description").bind Json.asStr? = _
        rw [kept (by decide)]
        rfl
      · intro text told
        have date := accepts.occurredAt
        unfold parseOccurredAt at date
        rw [kept (by decide), told] at date
        simp only [Json.asStr?_str] at date
        split at date
        · rename_i value parsed
          cases date
          exact parsed
        · cases date
  · cases sent

end Shows

/-! ### What the server has checked -/

section Server

variable [Rfc3339]

/-- What the server checks of a create or an update before it looks at its own transactions: the
date and the entries can be read, the entries are balanced, and their accounts are in the book. -/
def PassesChecks (server : MemoryStore) (step : PushStep) : Prop :=
  ∃ requested drafts, checkedDrafts step.mutation = .ok (requested, drafts) ∧
    ∀ draft ∈ drafts, accountInBook server.accounts step.bookId draft.accountId = true

/-- The server's first answer to a step: a rejection with the version it holds. -/
structure RejectsWith (server : MemoryStore) (step : PushStep) (code : String) (version : Int) :
    Prop where
  new : server.mutations.lookup step.key = none
  conflict : code ∈ conflictCodes
  code : (pushReceipt server step).resultCode = code
  version : (pushReceipt server step).entityVersion = some version

variable {server : MemoryStore} {step : PushStep} {code : String} {version : Int}

/-- A mutation of a transaction is rejected with a version only for that version, and only after
every other check. -/
theorem RejectsWith.checked (rejects : RejectsWith server step code version)
    (isTransaction : step.mutation.entityType = "transaction") :
    ∃ existing, server.transactions.lookup step.mutation.entityId = some existing ∧
      existing.version = version ∧
      (step.mutation.operation = "delete" → existing.bookId = step.bookId) ∧
      (step.mutation.operation ≠ "delete" → PassesChecks server step) := by
  have conflicts := rejects.conflict
  have isCode := rejects.code
  have isVersion := rejects.version
  rw [← isCode] at conflicts
  rw [pushReceipt_processed rejects.new, processMutationMem,
    if_neg (notAccount_of_isTransaction isTransaction), if_neg (not_not.mpr isTransaction)]
    at conflicts isVersion
  split at isVersion
  · rename_i isDelete
    rw [if_pos isDelete] at conflicts
    unfold processDeleteMem at conflicts isVersion
    split at isVersion
    · cases isVersion
    · rename_i existing found
      split at isVersion
      · cases isVersion
      · rename_i owned
        simp only [found, if_neg owned] at conflicts
        split at isVersion
        · exact ⟨existing, found, Option.some.inj isVersion, fun _ => not_not.mp owned,
            fun notDelete => absurd isDelete notDelete⟩
        · rename_i current
          rw [if_neg current] at conflicts
          exact absurd conflicts (show ("OK" : String) ∉ conflictCodes by decide)
  · rename_i notDelete
    rw [if_neg notDelete] at conflicts
    split at isVersion
    · rename_i failed
      obtain ⟨other, rfl⟩ := checkedDrafts_error failed
      cases isVersion
    · rename_i requested drafts checked
      simp only [checked] at conflicts
      unfold processUpsertMem at conflicts isVersion
      split at isVersion
      · rename_i accounts
        rw [if_pos accounts] at conflicts
        split at isVersion
        · rename_i existing found
          simp only [found] at conflicts
          split at isVersion
          · exact ⟨existing, found, Option.some.inj isVersion,
              fun isDelete => absurd isDelete notDelete,
              fun _ => ⟨requested, drafts, checked, List.all_eq_true.mp accounts⟩⟩
          · rename_i current
            rw [if_neg current] at conflicts
            exact absurd conflicts (show ("OK" : String) ∉ conflictCodes by decide)
        · rename_i missing
          simp only [missing] at conflicts
          split at isVersion
          · rename_i duplicate duplicated
            rw [duplicated] at conflicts
            exact absurd conflicts (show ("AUTO_LEDGER_DEDUPED" : String) ∉ conflictCodes by decide)
          · rename_i original
            rw [original] at conflicts
            exact absurd conflicts (show ("OK" : String) ∉ conflictCodes by decide)
      · cases isVersion

/-! ### What stays of it -/

/-- A step leaves a stored transaction as it is, or raises its version. -/
theorem pushStep_record_or_newer (server : MemoryStore) (step : PushStep) (id : String) :
    (pushStep server step).transactions.lookup id = server.transactions.lookup id ∨
      server.versionOf id < (pushStep server step).versionOf id := by
  refine pushStep_elim (motive := fun after =>
      after.transactions.lookup id = server.transactions.lookup id ∨
        server.versionOf id < after.versionOf id) step (fun _ _ holds => holds) (Or.inl rfl)
    ?_ ?_ fun _ _ => Or.inl rfl
  · intro existing requested drafts accepts
    have version : (writeUpsertMem server step.bookId step.mutation existing requested drafts
        step.stamp).1.versionOf id = _ := versionOf_insert rfl id
    rw [version, accepts.version]
    by_cases same : id = step.mutation.entityId
    · rw [if_pos same, same]
      exact Or.inr (lt_add_one _)
    · exact Or.inl (AList.lookup_insert_ne same)
  · intro existing accepts
    have version : (writeDeleteMem server step.bookId step.mutation existing
        step.stamp).1.versionOf id = _ := versionOf_insert rfl id
    rw [version]
    by_cases same : id = step.mutation.entityId
    · rw [if_pos same, MemoryStore.versionOf, same, accepts.found]
      exact Or.inr (lt_add_one _)
    · exact Or.inl (AList.lookup_insert_ne same)

/-- So a transaction that still has its version is the one that was stored. -/
theorem run_record_or_newer (server : MemoryStore) (steps : List PushStep) (id : String) :
    (Machine.run pushStep server steps).transactions.lookup id = server.transactions.lookup id ∨
      server.versionOf id < (Machine.run pushStep server steps).versionOf id := by
  have preserved : ∀ (after : MemoryStore) (step : PushStep),
      (after.transactions.lookup id = server.transactions.lookup id ∨
        server.versionOf id < after.versionOf id) →
      (pushStep after step).transactions.lookup id = server.transactions.lookup id ∨
        server.versionOf id < (pushStep after step).versionOf id := by
    rintro after step (same | newer)
    · rcases pushStep_record_or_newer after step id with kept | raised
      · exact Or.inl (kept.trans same)
      · have before : after.versionOf id = server.versionOf id := by
          rw [MemoryStore.versionOf, same, MemoryStore.versionOf]
        exact Or.inr (before ▸ raised)
    · exact Or.inr (newer.trans_le (versionOf_le_pushStep after step id))
  exact Machine.run_invariant preserved (Or.inl rfl) steps

omit [Rfc3339] in
theorem versionOf_of_lookup {id : String} {record : TxRecord}
    (found : server.transactions.lookup id = some record) : server.versionOf id = record.version := by
  rw [MemoryStore.versionOf, found, Option.map_some, Option.getD_some]

omit [Rfc3339] in
/-- Versions are counted from 1. -/
theorem MemoryStore.VersionChain.one_le_version (chain : server.VersionChain) {id : String}
    {record : TxRecord} (found : server.transactions.lookup id = some record) :
    1 ≤ record.version := by
  obtain ⟨n, stored, absent, -⟩ := chain.versions id
  rw [versionOf_of_lookup found] at stored
  have present : n ≠ 0 := fun none => by
    rw [absent.mpr none] at found
    cases found
  omega

/-- A transaction stays the one it was, or has a greater version. -/
theorem run_stored_or_newer (chain : server.VersionChain) {id : String} {existing : TxRecord}
    (found : server.transactions.lookup id = some existing) (steps : List PushStep) :
    ∃ stored, (Machine.run pushStep server steps).transactions.lookup id = some stored ∧
      (stored = existing ∨ existing.version < stored.version) := by
  rcases run_record_or_newer server steps id with same | newer
  · exact ⟨existing, same.trans found, Or.inl rfl⟩
  · rw [versionOf_of_lookup found] at newer
    have positive := chain.one_le_version found
    cases stored : (Machine.run pushStep server steps).transactions.lookup id with
    | none =>
      rw [MemoryStore.versionOf, stored, Option.map_none, Option.getD_none] at newer
      omega
    | some record =>
      rw [versionOf_of_lookup stored] at newer
      exact ⟨record, rfl, Or.inr newer⟩

/-- What has passed the checks passes them later, too. -/
theorem PassesChecks.run (passes : PassesChecks server step) (steps : List PushStep) :
    PassesChecks (Machine.run pushStep server steps) step := by
  have preserved : ∀ (after : MemoryStore) (later : PushStep), PassesChecks after step →
      PassesChecks (pushStep after later) step := by
    rintro after later ⟨requested, drafts, checked, accounts⟩
    exact ⟨requested, drafts, checked, fun draft member =>
      accountInBook_pushStep later (accounts draft member)⟩
  exact Machine.run_invariant preserved passes steps

/-- The checks read the payload, and of the operation that it is no delete. -/
theorem PassesChecks.congr {other : PushStep} (passes : PassesChecks server step)
    (book : other.bookId = step.bookId) (payload : other.mutation.payload = step.mutation.payload)
    (isTransaction : other.mutation.entityType = "transaction")
    (isUpdate : other.mutation.operation = "update") (notDelete : step.mutation.operation ≠ "delete") :
    PassesChecks server other := by
  obtain ⟨requested, drafts, checked, accounts⟩ := passes
  obtain ⟨date, entries, valid⟩ := checkedDrafts_eq_ok.mp checked
  obtain ⟨-, isDelete | ⟨-, balanced⟩⟩ := validateOrReject_eq_none.mp valid
  · exact absurd isDelete notDelete
  refine ⟨requested, drafts, checkedDrafts_eq_ok.mpr ⟨?_, ?_, ?_⟩, by rw [book]; exact accounts⟩
  · unfold parseOccurredAt at date ⊢
    rw [payload]
    split at date
    · exact date
    · rename_i raw found
      split at date
      · cases date
      · split at date
        · exact date
        · cases date
  · obtain ⟨items, found, rfl⟩ := parseEntries_ok entries
    unfold parseEntries
    rw [payload, found]
    rfl
  · exact validateOrReject_eq_none.mpr ⟨isTransaction, Or.inr ⟨Or.inr isUpdate, balanced⟩⟩

/-! ### What the server answers -/

/-- An update is applied if and only if it passes the checks and is based on the stored version. -/
theorem pushReceipt_update_iff {existing : TxRecord}
    (new : server.mutations.lookup step.key = none)
    (isTransaction : step.mutation.entityType = "transaction")
    (isUpdate : step.mutation.operation = "update")
    (found : server.transactions.lookup step.mutation.entityId = some existing) :
    (pushReceipt server step).status = "applied" ↔
      PassesChecks server step ∧ step.mutation.baseVersion = existing.version := by
  have notDelete : step.mutation.operation ≠ "delete" := isUpdate.trans_ne (by decide)
  have notCreate : step.mutation.operation ≠ "create" := isUpdate.trans_ne (by decide)
  rw [pushReceipt_processed new, processMutationMem,
    if_neg (notAccount_of_isTransaction isTransaction), if_neg (not_not.mpr isTransaction),
    if_neg notDelete]
  cases checked : checkedDrafts step.mutation with
  | error receipt =>
    obtain ⟨other, rfl⟩ := checkedDrafts_error checked
    refine iff_of_false (show ("rejected" : String) ≠ "applied" by decide) ?_
    rintro ⟨⟨requested, drafts, passed, -⟩, -⟩
    rw [checked] at passed
    cases passed
  | ok parsed =>
    obtain ⟨requested, drafts⟩ := parsed
    dsimp only
    unfold processUpsertMem
    split
    · rename_i accounts
      rw [found]
      dsimp only
      by_cases current : step.mutation.baseVersion = existing.version
      · rw [if_neg (not_or.mpr ⟨notCreate, not_not.mpr current⟩)]
        exact iff_of_true rfl
          ⟨⟨requested, drafts, checked, List.all_eq_true.mp accounts⟩, current⟩
      · rw [if_pos (Or.inr current)]
        exact iff_of_false (show ("rejected" : String) ≠ "applied" by decide)
          fun both => current both.2
    · rename_i foreign
      refine iff_of_false (show ("rejected" : String) ≠ "applied" by decide) ?_
      rintro ⟨⟨requested', drafts', passed, accounts⟩, -⟩
      obtain ⟨rfl, rfl⟩ := Prod.mk.inj (Except.ok.inj (checked.symm.trans passed))
      exact foreign (List.all_eq_true.mpr accounts)

/-- A delete is applied if and only if the transaction is one of the book and the delete is based
on the stored version or on none. -/
theorem pushReceipt_delete_iff {existing : TxRecord}
    (new : server.mutations.lookup step.key = none)
    (isTransaction : step.mutation.entityType = "transaction")
    (isDelete : step.mutation.operation = "delete")
    (found : server.transactions.lookup step.mutation.entityId = some existing) :
    (pushReceipt server step).status = "applied" ↔
      existing.bookId = step.bookId ∧
        (step.mutation.baseVersion = 0 ∨ step.mutation.baseVersion = existing.version) := by
  rw [pushReceipt_processed new, processMutationMem,
    if_neg (notAccount_of_isTransaction isTransaction), if_neg (not_not.mpr isTransaction),
    if_pos isDelete, processDeleteMem, found]
  dsimp only
  by_cases owned : existing.bookId = step.bookId
  · rw [if_neg (not_not.mpr owned)]
    by_cases current : step.mutation.baseVersion = 0 ∨
        step.mutation.baseVersion = existing.version
    · rw [if_neg (by tauto)]
      exact iff_of_true rfl ⟨owned, current⟩
    · rw [if_pos (not_or.mp current)]
      exact iff_of_false (show ("rejected" : String) ≠ "applied" by decide)
        fun both => current both.2
  · rw [if_pos owned]
    exact iff_of_false (show ("rejected" : String) ≠ "applied" by decide)
      fun both => owned both.1

/-- A mutation without entries is no transaction for the server. -/
theorem pushReceipt_without_entries (new : server.mutations.lookup step.key = none)
    (isTransaction : step.mutation.entityType = "transaction")
    (notDelete : step.mutation.operation ≠ "delete")
    (empty : step.mutation.payload.get? "entries" = some (.arr [])) :
    (pushReceipt server step).status = "rejected" := by
  rw [pushReceipt_processed new, processMutationMem,
    if_neg (notAccount_of_isTransaction isTransaction), if_neg (not_not.mpr isTransaction),
    if_neg notDelete]
  cases checked : checkedDrafts step.mutation with
  | error receipt =>
    obtain ⟨other, rfl⟩ := checkedDrafts_error checked
    rfl
  | ok parsed =>
    obtain ⟨-, entries, valid⟩ := checkedDrafts_eq_ok.mp checked
    obtain ⟨-, isDelete | ⟨-, balanced⟩⟩ := validateOrReject_eq_none.mp valid
    · exact absurd isDelete notDelete
    · obtain ⟨items, found, drafts⟩ := parseEntries_ok entries
      obtain rfl : ([] : List Json) = items :=
        Json.arr.inj (Option.some.inj (empty.symm.trans found))
      rw [drafts] at balanced
      cases balanced

end Server

/-! ### The mutation that is kept -/

/-- The server takes the mutation and shows the local side. -/
structure TakesLocal [Rfc3339] (server : MemoryStore) (step : PushStep) (row : PendingMutationRow)
    (localBook : String) : Prop where
  applied : (pushReceipt server step).status = "applied"
  shown : (pushStep server step).Shows row localBook step.bookId

/-- What `resolveConflict` makes of a row, as the server gets it. -/
structure KeptStep (row : PendingMutationRow) (localBook remoteBook : String) (version : Int)
    (step : PushStep) : Prop where
  book : step.bookId = remoteBook
  type : step.mutation.entityType = "transaction"
  entity : step.mutation.entityId = row.entityId
  operation : step.mutation.operation = if row.operation = "delete" then "delete" else "update"
  base : step.mutation.baseVersion = version
  payload : row.entityType = "transaction" →
    row.sentPayload localBook remoteBook = some step.mutation.payload
  empty : row.entityType = "account" → step.mutation.payload.get? "entries" = some (.arr [])

section Kept

variable {row : PendingMutationRow} {deviceId localBook remoteBook mutationId : String}
  {version : Int} {stamp : Stamp} {step : PushStep}

theorem PendingMutationRow.Formed.kept_step (formed : row.Formed)
    (made : (row.kept mutationId version).step deviceId localBook remoteBook stamp = some step) :
    KeptStep row localBook remoteBook version step := by
  obtain ⟨book, -, -, -, type, operation, base, entity⟩ := PendingMutationRow.step_fields made
  obtain ⟨sent, fields, isObject⟩ := PendingMutationRow.step_payload made
  refine ⟨book, type, entity rfl, operation.trans formed.kept_operation, base,
    fun isTransaction => ?_, fun isAccount => ?_⟩
  · rw [← formed.kept_sentPayload isTransaction]
    exact sent
  · rw [formed.kept_sentPayload_account isAccount isObject] at sent
    rw [← Option.some.inj sent, Json.get?_insert_self]

variable [Rfc3339] {server : MemoryStore}

/-- What is applied shows the local side, if it is a delete or the server takes what it says of the
source and the fingerprint. -/
theorem KeptStep.takesLocal_iff_applied (kept : KeptStep row localBook remoteBook version step)
    (isTransaction : row.entityType = "transaction")
    (new : server.mutations.lookup step.key = none) (plain : SourcesPlain server)
    {existing : TxRecord} (found : server.transactions.lookup row.entityId = some existing) :
    TakesLocal server step row localBook ↔
      (pushReceipt server step).status = "applied" ∧
        (row.operation ≠ "delete" →
          ProvenanceTaken (server.transactions.lookup row.entityId) step.mutation row.payload) := by
  refine Iff.trans ⟨fun takes => ⟨takes.applied, takes.shown⟩, fun both => ⟨both.1, both.2⟩⟩
    (and_congr_right fun applied => ?_)
  have notAccount : row.entityType ≠ "account" := isTransaction.trans_ne (by decide)
  have sent := kept.payload isTransaction
  rw [← kept.entity] at found ⊢
  unfold MemoryStore.Shows
  rw [if_neg notAccount]
  by_cases isDelete : row.operation = "delete"
  · have operation : step.mutation.operation = "delete" := by rw [kept.operation, if_pos isDelete]
    obtain ⟨owned, current⟩ := (pushReceipt_delete_iff new kept.type operation found).mp applied
    rw [if_pos isDelete, pushStep_processed new,
      processMutationMem_delete ⟨kept.type, operation, found, owned, current⟩, ← kept.entity]
    exact iff_of_true ⟨_, AList.lookup_insert _, rfl⟩ fun notDelete => absurd isDelete notDelete
  · have operation : step.mutation.operation = "update" := by rw [kept.operation, if_neg isDelete]
    obtain ⟨⟨requested, drafts, checked, accounts⟩, current⟩ :=
      (pushReceipt_update_iff new kept.type operation found).mp applied
    obtain ⟨date, entries, valid⟩ := checkedDrafts_eq_ok.mp checked
    obtain ⟨-, isDeleted | ⟨isWrite, balanced⟩⟩ := validateOrReject_eq_none.mp valid
    · exact absurd (operation.symm.trans isDeleted) (by decide)
    have accepts : AcceptsUpsert server step.bookId step.mutation (some existing) requested
        drafts := by
      refine ⟨kept.type, isWrite, date, entries, balanced, accounts, found, ?_, by simp⟩
      rintro transaction ⟨⟩
      exact ⟨operation, current⟩
    have rewritten : rewriteTransactionPayload row.payload localBook step.bookId =
        some step.mutation.payload := by
      rw [kept.book]
      unfold PendingMutationRow.sentPayload at sent
      split at sent
      · rwa [if_neg notAccount, if_neg isDelete] at sent
      · cases sent
    have shows := upsertRecord_showsPayload_iff accepts rewritten plain step.stamp.now
    rw [if_neg isDelete, pushStep_processed new, processMutationMem_upsert accepts, ← kept.entity,
      found]
    constructor
    · rintro ⟨record, stored, isShown⟩ -
      obtain rfl := Option.some.inj ((AList.lookup_insert _).symm.trans stored)
      exact shows.mp isShown
    · intro taken
      exact ⟨_, AList.lookup_insert _, shows.mpr (taken isDelete)⟩

/-- It is applied over its version, if it is in order. -/
theorem KeptStep.applied_iff (kept : KeptStep row localBook remoteBook version step)
    (positive : 1 ≤ version) (new : server.mutations.lookup step.key = none) {stored : TxRecord}
    (found : server.transactions.lookup row.entityId = some stored) :
    (pushReceipt server step).status = "applied" ↔ stored.version = version ∧
      (row.operation = "delete" → stored.bookId = remoteBook) ∧
      (row.operation ≠ "delete" → PassesChecks server step) := by
  rw [← kept.entity] at found
  by_cases isDelete : row.operation = "delete"
  · rw [pushReceipt_delete_iff new kept.type (by rw [kept.operation, if_pos isDelete]) found,
      kept.base, kept.book]
    constructor
    · rintro ⟨owned, unversioned | current⟩
      · omega
      · exact ⟨current.symm, fun _ => owned, fun notDelete => absurd isDelete notDelete⟩
    · rintro ⟨current, owned, -⟩
      exact ⟨owned isDelete, Or.inr current.symm⟩
  · rw [pushReceipt_update_iff new kept.type (by rw [kept.operation, if_neg isDelete]) found,
      kept.base]
    constructor
    · rintro ⟨passes, current⟩
      exact ⟨current.symm, fun isDeleted => absurd isDeleted isDelete, fun _ => passes⟩
    · rintro ⟨current, -, passes⟩
      exact ⟨passes isDelete, current.symm⟩

end Kept

/-! ### When it is applied -/

/-- The mutation that is queued when the answer to another is read: that one, or the same one with
another payload, if the transaction was edited meanwhile. -/
structure PendingMutationRow.Continues (last row : PendingMutationRow) : Prop where
  named : last.mutationId = row.mutationId
  type : last.entityType = row.entityType
  entity : last.entityId = row.entityId
  operation : last.operation = row.operation

/-- What it takes: the conflict is over a transaction, the server still holds the version of the
receipt, an edit that the server has not seen passes the checks it makes of any edit, and what the
payload of an edit says of the source and the fingerprint is taken as it is. -/
structure StillCurrent [Rfc3339] (server : MemoryStore) (step : PushStep)
    (row last : PendingMutationRow) (version : Int) : Prop where
  isTransaction : last.entityType = "transaction"
  current : server.versionOf last.entityId = version
  edited : last.payload ≠ row.payload → last.operation ≠ "delete" → PassesChecks server step
  provenance : last.operation ≠ "delete" →
    ProvenanceTaken (server.transactions.lookup last.entityId) step.mutation last.payload

section Answer

variable [Rfc3339] {server : MemoryStore} {row last : PendingMutationRow}
  {deviceId localBook remoteBook code : String} {version : Int} {stamp : Stamp}
  {sent step : PushStep}

omit [Rfc3339] in
/-- The payload is sent again as it was, if there was no edit. -/
theorem KeptStep.payload_eq (kept : KeptStep last localBook remoteBook version step)
    (continues : last.Continues row) (isTransaction : last.entityType = "transaction")
    (made : row.step deviceId localBook remoteBook stamp = some sent)
    (same : last.payload = row.payload) : step.mutation.payload = sent.mutation.payload := by
  have before := (PendingMutationRow.step_payload made).1
  have now := kept.payload isTransaction
  unfold PendingMutationRow.sentPayload at before now
  rw [same, continues.type, continues.operation] at now
  exact Option.some.inj (now.symm.trans before)

/-- An edit that the server has answered has passed its checks. -/
theorem KeptStep.passesChecks (kept : KeptStep last localBook remoteBook version step)
    (continues : last.Continues row) (isTransaction : last.entityType = "transaction")
    (made : row.step deviceId localBook remoteBook stamp = some sent)
    (passes : sent.mutation.operation ≠ "delete" → PassesChecks server sent)
    (same : last.payload = row.payload) (notDelete : last.operation ≠ "delete")
    (steps : List PushStep) : PassesChecks (Machine.run pushStep server steps) step := by
  obtain ⟨book, -, -, -, -, operation, -, -⟩ := PendingMutationRow.step_fields made
  have wasNoDelete : sent.mutation.operation ≠ "delete" := by
    rw [operation, ← continues.operation]
    exact notDelete
  exact ((passes wasNoDelete).run steps).congr (kept.book.trans book.symm)
    (kept.payload_eq continues isTransaction made same) kept.type
    (by rw [kept.operation, if_neg notDelete]) wasNoDelete

/-- Right after the conflict and at any later time, the mutation that keeps the local side is
applied, and shows the local side, if and only if the version is still current. -/
theorem KeptStep.takesLocal_iff (kept : KeptStep last localBook remoteBook version step)
    (chain : server.VersionChain) (plain : SourcesPlain server) (formed : last.Formed)
    (continues : last.Continues row)
    (made : row.step deviceId localBook remoteBook stamp = some sent)
    (rejects : RejectsWith server sent code version) (further : List PushStep)
    (new : (Machine.run pushStep server (sent :: further)).mutations.lookup step.key = none) :
    TakesLocal (Machine.run pushStep server (sent :: further)) step last localBook ↔
      StillCurrent (Machine.run pushStep server (sent :: further)) step row last version := by
  rcases formed.type with isTransaction | isAccount
  · obtain ⟨book, -, -, -, type, operation, -, entity⟩ := PendingMutationRow.step_fields made
    have wasTransaction := continues.type.symm.trans isTransaction
    obtain ⟨existing, found, rfl, owned, passes⟩ := rejects.checked (type.trans wasTransaction)
    rw [entity wasTransaction, ← continues.entity] at found
    obtain ⟨stored, foundNow, sameOrNewer⟩ := run_stored_or_newer chain found (sent :: further)
    have stillPlain : SourcesPlain (Machine.run pushStep server (sent :: further)) :=
      Machine.run_invariant (fun store step plain => plain.apply (.pushed step)) plain _
    rw [kept.takesLocal_iff_applied isTransaction new stillPlain foundNow,
      kept.applied_iff (chain.one_le_version found) new foundNow, ← versionOf_of_lookup foundNow]
    constructor
    · rintro ⟨⟨current, -, checked⟩, taken⟩
      exact ⟨isTransaction, current, fun _ => checked, taken⟩
    · rintro ⟨-, current, edited, taken⟩
      refine ⟨⟨current, fun isDelete => ?_, fun notDelete => ?_⟩, taken⟩
      · -- A delete of the version that was rejected is one of the same transaction.
        rw [versionOf_of_lookup foundNow] at current
        obtain rfl : stored = existing := sameOrNewer.resolve_right (by omega)
        rw [owned (by rw [operation, ← continues.operation, isDelete]), book]
      · by_cases changed : last.payload = row.payload
        · exact kept.passesChecks continues isTransaction made passes changed notDelete _
        · exact edited changed notDelete
  · have notDelete : step.mutation.operation ≠ "delete" := by
      rw [kept.operation, if_neg (formed.account isAccount).1]
      decide
    have rejected := pushReceipt_without_entries new kept.type notDelete (kept.empty isAccount)
    refine iff_of_false (fun takes => ?_) fun still => ?_
    · exact absurd (rejected.symm.trans takes.applied) (by decide)
    · exact absurd (still.isTransaction.symm.trans isAccount) (by decide)

end Answer

/-! ### The sync that sends it -/

/-- Nobody else reaches the server during the sync, and its first request is answered. -/
structure Around.Quiet (around : Around) : Prop where
  alone : around.others = fun _ _ => []
  answered : around.cut 0 = none
  beforePull : around.beforePull = []

/-- The sync has the mutation applied, so that the server shows the local side, and leaves nothing
in the queue and no new conflict. -/
structure Device.SyncsLocal [Rfc3339] (device : Device) (around : Around) (server : MemoryStore)
    (mutationId : String) (row : PendingMutationRow) (remoteBook : String) : Prop where
  applied : ∃ receipt, (Machine.run pushStep server
      (device.syncNow around server).served).mutations.lookup
        (remoteBook, device.deviceId, mutationId) = some receipt ∧ receipt.status = "applied"
  shown : (Machine.run pushStep server (device.syncNow around server).served).Shows row
    device.bookId remoteBook
  drained : (device.syncNow around server).device.pending = []
  conflicts : (device.syncNow around server).device.conflicts = device.conflicts

section Sync

variable [Rfc3339] {device : Device} {around : Around} (server : MemoryStore)
  {kept : PendingMutationRow} {remoteBook : String} {step : PushStep}

theorem Device.syncNow_of_session (session : around.session = some remoteBook)
    (binds : device.remoteBookId = none ∨ device.remoteBookId = some remoteBook) :
    device.syncNow around server = (device.boundTo remoteBook).syncBound remoteBook
      (device.boundTo remoteBook).cursor around server := by
  unfold Device.syncNow Device.boundTo
  rw [session]
  rcases binds with unbound | bound
  · rw [unbound]
  · rw [bound]
    exact if_neg (not_not.mpr rfl)

/-- An attempt to push a single mutation. -/
theorem Device.pushAttempt_single (single : device.pending = [kept]) (quiet : around.Quiet)
    (made : kept.step device.deviceId device.bookId remoteBook (around.stamp 0 0) = some step) :
    (device.pushAttempt remoteBook around 0 server).served = [step] ∧
      ((pushReceipt server step).status = "applied" →
        (device.pushAttempt remoteBook around 0 server).result =
          .ok { device with pending := [] }) := by
  have steps : (device.pending.zipIdx.mapM fun row => row.1.step device.deviceId device.bookId
      remoteBook (around.stamp 0 row.2)) = some [step] := by
    rw [single, List.zipIdx_singleton, List.mapM_cons, made]
    rfl
  unfold Device.pushAttempt
  rw [steps, quiet.answered, quiet.alone]
  refine ⟨rfl, fun applied => ?_⟩
  obtain ⟨-, -, -, named, -⟩ := PendingMutationRow.step_fields made
  have id : (pushReceipt server step).mutationId = kept.mutationId := by
    have ids := receiptsAmong_ids (fun _ => []) 0 server [step]
    exact (List.cons.inj ids).1.trans named
  have handled : ∀ rejected newId, device.handleReceipt [kept] rejected newId
      (pushReceipt server step) = some { device with pending := [] } := by
    intro rejected newId
    unfold Device.handleReceipt
    rw [List.find?_cons_of_pos (by rw [id]; exact decide_eq_true rfl)]
    dsimp only
    rw [if_pos applied, Device.removePending, single, id]
    simp
  show Device.handleReceipts device.pending _ _ 0 device [pushReceipt server step] = _
  rw [Device.handleReceipts, single, handled]
  rfl

/-- A sync with a single mutation to send begins with it, and if it is applied, that is all. -/
theorem Device.syncNow_single (single : device.pending = [kept])
    (binds : device.remoteBookId = none ∨ device.remoteBookId = some remoteBook)
    (session : around.session = some remoteBook) (quiet : around.Quiet)
    (made : kept.step device.deviceId device.bookId remoteBook (around.stamp 0 0) = some step) :
    (∃ later, (device.syncNow around server).served = step :: later) ∧
      ((pushReceipt server step).status = "applied" →
        (device.syncNow around server).served = [step] ∧
          (device.syncNow around server).device.pending = [] ∧
          (device.syncNow around server).device.conflicts = device.conflicts) := by
  obtain ⟨samePending, sameConflicts, sameDevice, sameBook⟩ :
      (device.boundTo remoteBook).pending = device.pending ∧
      (device.boundTo remoteBook).conflicts = device.conflicts ∧
      (device.boundTo remoteBook).deviceId = device.deviceId ∧
      (device.boundTo remoteBook).bookId = device.bookId := by
    unfold Device.boundTo
    split <;> exact ⟨rfl, rfl, rfl, rfl⟩
  rw [Device.syncNow_of_session server session binds]
  rw [← sameConflicts]
  rw [← samePending] at single
  rw [← sameDevice, ← sameBook] at made
  generalize (device.boundTo remoteBook) = bound at *
  obtain ⟨served, worked⟩ := Device.pushAttempt_single server single quiet made
  constructor
  · obtain ⟨later, begins⟩ : ∃ later,
        (bound.pushPending remoteBook around server).1 = step :: later := by
      refine Device.pushPending_elim (motive := fun outcome => ∃ later, outcome.1 = step :: later)
        bound around server ?_ ?_ ?_
      · exact fun idle => absurd (single.symm.trans idle) (List.cons_ne_nil _ _)
      · rintro first rfl
        exact ⟨[], served⟩
      · rintro first second pushed rfl - - result -
        exact ⟨second.served, by dsimp only; rw [served]; rfl⟩
    unfold Device.syncBound
    split
    · rename_i outcome
      rw [outcome] at begins
      exact ⟨later, begins⟩
    · rename_i outcome
      rw [outcome] at begins
      exact ⟨later ++ around.beforePull, by dsimp only at begins ⊢; rw [begins]; rfl⟩
  · intro applied
    have pushed : bound.pushPending remoteBook around server =
        ([step], .ok { bound with pending := [] }) := by
      unfold Device.pushPending
      rw [if_neg (single.trans_ne (List.cons_ne_nil _ _))]
      dsimp only
      rw [worked applied, served]
      rfl
    obtain ⟨pending, conflicts⟩ := Device.pullChanges_queue { bound with pending := [] }
      remoteBook bound.cursor around (Machine.run pushStep server ([step] ++ around.beforePull))
    unfold Device.syncBound
    rw [pushed]
    refine ⟨?_, pending, conflicts⟩
    dsimp only
    rw [quiet.beforePull]
    rfl

/-- So a sync with nothing but the mutation to send does what the server makes of it. -/
theorem Device.syncsLocal_iff {row : PendingMutationRow} (single : device.pending = [kept])
    (binds : device.remoteBookId = none ∨ device.remoteBookId = some remoteBook)
    (session : around.session = some remoteBook) (quiet : around.Quiet)
    (made : kept.step device.deviceId device.bookId remoteBook (around.stamp 0 0) = some step) :
    device.SyncsLocal around server kept.mutationId row remoteBook ↔
      TakesLocal server step row device.bookId := by
  obtain ⟨book, -⟩ := PendingMutationRow.step_fields made
  have key := PendingMutationRow.step_key made
  obtain ⟨⟨later, begins⟩, alone⟩ :=
    Device.syncNow_single server single binds session quiet made
  obtain ⟨receipt, stored, replays⟩ := stored_pushReceipt server step
  have status : receipt.status = (pushReceipt server step).status := by
    rw [← replays]
    rfl
  rw [key] at stored
  constructor
  · rintro ⟨⟨last, answered, applied⟩, shown, -, -⟩
    rw [begins, Machine.run_cons, lookup_mutations_run stored] at answered
    obtain rfl := Option.some.inj answered
    rw [status] at applied
    rw [(alone applied).1] at shown
    exact ⟨applied, by rw [book]; exact shown⟩
  · rintro ⟨applied, shown⟩
    obtain ⟨served, pending, conflicts⟩ := alone applied
    refine ⟨⟨receipt, ?_, status.trans applied⟩, ?_, pending, conflicts⟩
    · rw [served]
      exact stored
    · rw [served, ← book]
      exact shown

end Sync

/-! ### Every conflict -/

section Conflicts

variable [Rfc3339]

/-- How a device comes to hold a conflict with a version. It has queued a mutation, and the server
has rejected that with the version it holds; when the device reads the answer it has the mutation
queued as it is then, sends it once more if it did not get the first answer, and records it. -/
structure ConflictHistory (start : World) (server : MemoryStore) (device : Device)
    (conflictId remoteBook code : String) (version : Int) (row last : PendingMutationRow)
    (sent : PushStep) : Prop where
  begins : ∃ accounts, start.device = .initial device.deviceId device.bookId accounts
  queued : ∃ before after,
    row ∈ (Machine.run worldStep start before).device.pending ∧
      last ∈ (Machine.run worldStep start (before ++ after)).device.pending
  continues : last.Continues row
  made : ∃ stamp, row.step device.deviceId device.bookId remoteBook stamp = some sent
  again : ∃ stamp step, last.step device.deviceId device.bookId remoteBook stamp = some step
  reached : ∃ books accounts earlier,
    server = Machine.run pushStep (.initial books accounts) earlier
  rejects : RejectsWith server sent code version
  holds : device.Holds conflictId last code version

variable {start : World} {server : MemoryStore} {device : Device}
  {conflictId mutationId remoteBook code : String} {version : Int}
  {row last : PendingMutationRow} {sent : PushStep}

/-- Every mutation that was ever queued is one that the functions of the repository queue. -/
theorem ConflictHistory.formed
    (history : ConflictHistory start server device conflictId remoteBook code version row last sent) :
    last.Formed := by
  obtain ⟨accounts, begins⟩ := history.begins
  obtain ⟨before, after, -, queued⟩ := history.queued
  have empty : start.device.QueueFormed := by
    rw [begins]
    exact ⟨⟨List.nodup_nil, fun _ member => absurd member List.not_mem_nil⟩,
      fun _ member => absurd member List.not_mem_nil⟩
  exact (run_queueFormed empty (before ++ after)).rows last queued

theorem ConflictHistory.chain
    (history : ConflictHistory start server device conflictId remoteBook code version row last sent) :
    server.VersionChain := by
  obtain ⟨books, accounts, earlier, rfl⟩ := history.reached
  exact run_versionChain books accounts earlier

theorem ConflictHistory.sourcesPlain
    (history : ConflictHistory start server device conflictId remoteBook code version row last sent) :
    SourcesPlain server := by
  obtain ⟨books, accounts, earlier, rfl⟩ := history.reached
  refine Machine.run_invariant (fun store step plain => plain.apply (.pushed step)) ?_ earlier
  intro id row source found
  simp [MemoryStore.initial] at found

/-- Keeping the local side queues a mutation that can be sent. Whenever the server gets it, it is
applied and shows the local side, and a sync with nothing else to send comes through with it, if
and only if the conflict is over a transaction whose version is still current. -/
theorem keep_local_works_iff
    (history : ConflictHistory start server device conflictId remoteBook code version row last sent)
    (unused : ∀ other ∈ device.pending, other.mutationId ≠ mutationId) (further : List PushStep)
    (new : (Machine.run pushStep server (sent :: further)).mutations.lookup
      (remoteBook, device.deviceId, mutationId) = none) (stamp : Stamp) :
    let reached := Machine.run pushStep server (sent :: further)
    ∃ kept step, device.resolveConflict conflictId true mutationId =
        some (device.keeping conflictId kept) ∧
      kept.mutationId = mutationId ∧
      kept.step device.deviceId device.bookId remoteBook stamp = some step ∧
      (TakesLocal reached step last device.bookId ↔ StillCurrent reached step row last version) ∧
      ∀ around : Around, device.pending = [] →
        (device.remoteBookId = none ∨ device.remoteBookId = some remoteBook) →
        around.session = some remoteBook → around.Quiet → around.stamp 0 0 = stamp →
        ((device.keeping conflictId kept).SyncsLocal around reached mutationId last remoteBook ↔
          StillCurrent reached step row last version) := by
  intro reached
  obtain ⟨_, made⟩ := history.made
  obtain ⟨_, again, resent⟩ := history.again
  have formed := history.formed
  obtain ⟨sentLast, isObject⟩ := PendingMutationRow.step_payload resent
  obtain ⟨step, keptMade⟩ : ∃ step, (last.kept mutationId version).step device.deviceId
      device.bookId remoteBook stamp = some step := by
    rcases formed.type with isTransaction | isAccount
    · exact PendingMutationRow.exists_step
        ((formed.kept_sentPayload isTransaction _ _).trans sentLast) _ _
    · obtain ⟨fields, isObject⟩ := isObject
      exact PendingMutationRow.exists_step
        (formed.kept_sentPayload_account isAccount isObject _ _) _ _
  have kept := formed.kept_step keptMade
  have key : step.key = (remoteBook, device.deviceId, mutationId) :=
    PendingMutationRow.step_key keptMade
  have answer := kept.takesLocal_iff history.chain history.sourcesPlain formed history.continues made
    history.rejects further (by rw [key]; exact new)
  refine ⟨last.kept mutationId version, step, history.holds.resolve isObject unused, rfl, keptMade,
    answer, ?_⟩
  intro around idle binds session quiet stamped
  have single : (device.keeping conflictId (last.kept mutationId version)).pending =
      [last.kept mutationId version] := by
    rw [Device.keeping, idle, List.nil_append]
  rw [← stamped] at keptMade
  exact (Device.syncsLocal_iff reached single binds session quiet keptMade).trans answer

end Conflicts

/-- A book with two accounts, and a device that has not synced yet. -/
def conflictStart : World :=
  ⟨MemoryStore.initial ∅ (withAccounts "A" ∅), Device.initial "phone" "local" ∅⟩

theorem accountPayload_fits (name accountType currency : String) (parent : Option String) :
    (canonicalAccountPayload name accountType currency parent).arrayLength "entries" ≤
      isizeMax := by
  simp [canonicalAccountPayload, Json.arrayLength, Json.get?, List.lookup_cons]

/-- The create of a transaction, as it is queued. -/
def queuedLunch : PendingMutationRow where
  mutationId := "m1"
  entityType := "transaction"
  entityId := "t1"
  operation := "create"
  baseVersion := 0
  payload := (lunchOf "t1" (some "manual") none).createPayload none
  entriesFit := (lunchOf "t1" (some "manual") none).createPayload_fits none

/-- The device that holds the conflict over it: the server had version 2. -/
def lunchConflict : Device :=
  { Device.initial "phone" "local" ∅ with
    conflicts := [⟨"c1", "t1", "LEDGER_VERSION_CONFLICT", queuedLunch.payload, some 2,
      queuedLunch.entriesFit⟩] }

/-- The same transaction, created and updated in the book. -/
def updatedInBook : List PushStep :=
  [transferStep "A" "m1" "t1" "create" 0 [], transferStep "A" "m2" "t1" "update" 1 []]

/-- The create, as it is sent. -/
def sentLunch : PushStep := (queuedLunch.step "phone" "local" "A" ⟨epoch, "c"⟩).get rfl

/-- A create that the book has already, in another version, is applied when it is kept. -/
theorem kept_create_is_applied :
    let _ := utcClock
    let server := Machine.run pushStep (MemoryStore.initial ∅ (withAccounts "A" ∅)) updatedInBook
    ∃ kept, lunchConflict.resolveConflict "c1" true "m3" =
        some (lunchConflict.keeping "c1" kept) ∧
      (lunchConflict.keeping "c1" kept).SyncsLocal (quietSync "A")
        (Machine.run pushStep server [sentLunch]) "m3" queuedLunch "A" := by
  intro clock server
  have made : queuedLunch.step "phone" "local" "A" ⟨epoch, "c"⟩ = some sentLunch := rfl
  have history : ConflictHistory conflictStart server lunchConflict "c1" "A"
      "LEDGER_VERSION_CONFLICT" 2 queuedLunch queuedLunch sentLunch := by
    refine ⟨⟨∅, rfl⟩, ⟨[.act (.save (lunchOf "t1" (some "manual") none) "m1" none)], [], ?_, ?_⟩,
      ⟨rfl, rfl, rfl, rfl⟩, ⟨_, made⟩, ⟨_, _, made⟩, ⟨∅, withAccounts "A" ∅, updatedInBook, rfl⟩,
      ⟨by decide, by decide, by decide +kernel, by decide +kernel⟩,
      ⟨_, rfl, ⟨rfl, rfl, rfl⟩, rfl⟩⟩
    · exact List.mem_of_getElem? (i := 0) rfl
    · exact List.mem_of_getElem? (i := 0) rfl
  have new : (Machine.run pushStep server [sentLunch]).mutations.lookup ("A", "phone", "m3") =
      none := by decide +kernel
  obtain ⟨kept, step, resolved, -, made, -, synced⟩ :=
    keep_local_works_iff history (fun _ member => absurd member List.not_mem_nil) [] new ⟨epoch, "c"⟩
  refine ⟨kept, resolved, (synced (quietSync "A") rfl (Or.inl rfl) rfl ⟨rfl, rfl, rfl⟩ rfl).mpr ?_⟩
  obtain rfl : queuedLunch.kept "m3" 2 = kept :=
    List.singleton_injective (congrArg Device.pending (Option.some.inj resolved))
  obtain rfl := Option.some.inj made
  refine ⟨rfl, by decide +kernel, fun changed => absurd rfl changed, fun _ => ⟨?_, ?_, rfl⟩⟩
  · intro text told
    obtain rfl : "manual" = text := Option.some.inj told
    exact ⟨by decide, by decide, by decide⟩
  · intro missing
    cases missing

/-- The create of a category, as it is queued. -/
def queuedCategory : PendingMutationRow where
  mutationId := "m1"
  entityType := "account"
  entityId := "food"
  operation := "create"
  baseVersion := 0
  payload := canonicalAccountPayload "Food" "expense" "CNY" none
  entriesFit := accountPayload_fits "Food" "expense" "CNY" none

/-- The device that holds the conflict over it: the book has the category already. -/
def categoryConflict : Device :=
  { Device.initial "phone" "local" ∅ with
    conflicts := [⟨"c1", "food", "LEDGER_VERSION_CONFLICT",
      canonicalAccountPayload "Food" "expense" "CNY" none, some 1,
      accountPayload_fits "Food" "expense" "CNY" none⟩] }

/-- The create, as it is sent. -/
def sentCategory : PushStep where
  bookId := "A"
  deviceId := "phone"
  mutation := ⟨"m1", "account", "A:food", "create", 0,
    canonicalAccountPayload "Food" "expense" "CNY" none⟩
  stamp := ⟨epoch, "c"⟩
  entriesFit := accountPayload_fits "Food" "expense" "CNY" none

/-- A category that the book has already is sent as a transaction when it is kept, and refused. -/
theorem kept_category_is_refused :
    let _ := epochClock
    let server := MemoryStore.initial ∅ (withAccounts "A" ∅)
    let kept := queuedCategory.kept "m2" 1
    let resolved := categoryConflict.keeping "c1" kept
    let answered := Machine.run pushStep server [sentCategory]
    ConflictHistory conflictStart server categoryConflict "c1" "A" "LEDGER_VERSION_CONFLICT" 1
        queuedCategory queuedCategory sentCategory ∧
      categoryConflict.resolveConflict "c1" true "m2" = some resolved ∧
      ((Machine.run pushStep answered (resolved.syncNow (quietSync "A") answered).served).mutations
        |>.lookup ("A", "phone", "m2")).map MutationReceipt.resultCode = some "LEDGER_INVALID" ∧
      ¬resolved.SyncsLocal (quietSync "A") answered "m2" queuedCategory "A" := by
  intro clock server kept resolved answered
  have made : queuedCategory.step "phone" "local" "A" ⟨epoch, "c"⟩ = some sentCategory := rfl
  have status : ((Machine.run pushStep answered
      (resolved.syncNow (quietSync "A") answered).served).mutations.lookup
        ("A", "phone", "m2")).map MutationReceipt.status = some "rejected" := by decide
  refine ⟨?_, rfl, by decide, ?_⟩
  · exact ⟨⟨∅, rfl⟩, ⟨[.act (.createAccount "food" ⟨"Food", "expense", "CNY", none⟩ "m1")], [],
      List.mem_of_getElem? (i := 0) rfl, List.mem_of_getElem? (i := 0) rfl⟩, ⟨rfl, rfl, rfl, rfl⟩,
      ⟨_, made⟩, ⟨_, _, made⟩, ⟨∅, withAccounts "A" ∅, [], rfl⟩,
      ⟨by decide, by decide, by decide, by decide⟩, ⟨_, rfl, ⟨rfl, rfl, rfl⟩, rfl⟩⟩
  · rintro ⟨⟨receipt, found, applied⟩, -⟩
    have same : some receipt.status = some "rejected" := by
      rw [← status]
      exact congrArg (Option.map MutationReceipt.status) found.symm
    exact absurd (Option.some.inj same) (applied.trans_ne (by decide))

end Ledgerly
