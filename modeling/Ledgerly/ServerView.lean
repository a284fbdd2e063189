/-
This file says what the mutations in the queue of a device make of its book, if nobody else
writes to it.

To the queue a transaction of the book is a version, whether it is deleted, and its content
under the account ids of the server. The mutations of the queue lead from the view the server
has to the one it will have; the server takes them one by one, exactly on that way.
-/

import Ledgerly.Library.Walk
import Ledgerly.DeviceActions
import Ledgerly.DoubleEntry

namespace Ledgerly

/-! ### Views -/

/-- What a transaction says: its date in nanoseconds, and its entries under the account ids of
the server, with the amounts as integers. -/
structure Content where
  occurredAt : Int
  description : Option String
  entries : List (String × Option Int × String)
  deriving DecidableEq

/-- A transaction of a book on the server. -/
structure ServerView where
  version : Int
  deleted : Bool
  content : Content

/-- The content of a transaction of the server. -/
def TxRecord.content (record : TxRecord) : Content :=
  ⟨record.occurredAt.val, record.description,
    record.entries.map fun entry => (entry.accountId, some entry.amountMinor, entry.currency)⟩

/-- The view of a transaction of the book, none where it is not stored in the book. -/
def MemoryStore.viewOf (store : MemoryStore) (bookId id : String) : Option ServerView :=
  ((store.transactions.lookup id).filter fun record => record.bookId = bookId).map fun record =>
    ⟨record.version, record.deleted, record.content⟩

section Content

variable (localBook bookId : String)

/-- The content of a transaction of the client's ledger, with the server's account ids, -/
def LedgerTransaction.content (tx : LedgerTransaction) : Content :=
  ⟨tx.occurredAt * 1000, tx.description, tx.entries.map fun entry =>
    (rewriteAccountId entry.accountId localBook bookId, some entry.minorUnits, entry.currency)⟩

/-- and of a row of the device. -/
def LocalTransaction.content (row : LocalTransaction) : Content :=
  ⟨row.occurredAt * 1000000000, row.description, row.entries.map fun entry =>
    (rewriteAccountId entry.accountId localBook bookId, decimalInt entry.amountMinor,
      entry.currencyCode)⟩

/-- A transaction the server has room for: a date of whole seconds that RFC 3339 can write,
amounts of 64 bits, and accounts that the book has. -/
structure LedgerTransaction.Plain (accounts : KeyMap String AccountRecord)
    (tx : LedgerTransaction) : Prop where
  dated : (timestampOf tx.occurredAt).isSome = true
  seconds : tx.occurredAt % 1000000 = 0
  amounts : ∀ entry ∈ tx.entries, FitsI64 entry.minorUnits
  accounts : ∀ entry ∈ tx.entries,
    accountInBook accounts bookId (rewriteAccountId entry.accountId localBook bookId) = true

/-- A content that is the same after it has been to the device and back. -/
structure Content.RoundTrips (content : Content) : Prop where
  seconds : content.occurredAt % 1000000000 = 0
  accounts : ∀ entry ∈ content.entries,
    rewriteAccountId (rewriteAccountId entry.1 bookId localBook) localBook bookId = entry.1

/-- What the server makes of a mutation that it accepts. -/
inductive LandsAs (accounts : KeyMap String AccountRecord) :
    Option ServerView → PendingMutationRow → Option ServerView → Prop
  | create {row : PendingMutationRow} {tx : LedgerTransaction} (isCreate : row.operation = "create")
      (carries : row.payload.Carries tx) (plain : tx.Plain localBook bookId accounts) :
      LandsAs accounts none row (some ⟨1, false, tx.content localBook bookId⟩)
  | update {row : PendingMutationRow} {tx : LedgerTransaction} {view : ServerView}
      (isUpdate : row.operation = "update") (current : row.baseVersion = view.version)
      (carries : row.payload.Carries tx) (plain : tx.Plain localBook bookId accounts) :
      LandsAs accounts (some view) row
        (some ⟨view.version + 1, false, tx.content localBook bookId⟩)
  | delete {row : PendingMutationRow} {view : ServerView} (isDelete : row.operation = "delete")
      (current : row.baseVersion = 0 ∨ row.baseVersion = view.version)
      (isObject : row.payload = deletedPayload) :
      LandsAs accounts (some view) row (some ⟨view.version + 1, true, view.content⟩)

end Content

/-! ### Account ids -/

/-- An account id that the device has sent comes back as it was sent. -/
theorem rewriteAccountId_roundTrip (id localBook bookId : String) :
    rewriteAccountId (rewriteAccountId (rewriteAccountId id localBook bookId) bookId localBook)
      localBook bookId = rewriteAccountId id localBook bookId := by
  have back : ∀ rest, rewriteAccountId (rewriteAccountId (bookId ++ ":" ++ rest) bookId localBook)
      localBook bookId = bookId ++ ":" ++ rest := by
    intro rest
    simp only [rewriteAccountId, stripPrefix_append]
  cases own : stripPrefix id (localBook ++ ":") with
  | some rest =>
    have sent : rewriteAccountId id localBook bookId = bookId ++ ":" ++ rest := by
      simp only [rewriteAccountId, own]
    rw [sent, back]
  | none =>
    by_cases hasScope : ':' ∈ id.toList
    · have sent : rewriteAccountId id localBook bookId = id := by
        simp only [rewriteAccountId, own, if_pos hasScope]
      rw [sent]
      cases foreign : stripPrefix id (bookId ++ ":") with
      | some rest =>
        rw [append_of_stripPrefix foreign, back]
      | none =>
        have kept : rewriteAccountId id bookId localBook = id := by
          simp only [rewriteAccountId, foreign, if_pos hasScope]
        rw [kept, sent]
    · have sent : rewriteAccountId id localBook bookId = bookId ++ ":" ++ id := by
        simp only [rewriteAccountId, own, if_neg hasScope]
      rw [sent, back]

/-- What the device sends comes back as it was sent. -/
theorem LedgerTransaction.Plain.roundTrips {localBook bookId : String}
    {accounts : KeyMap String AccountRecord} {tx : LedgerTransaction}
    (plain : tx.Plain localBook bookId accounts) :
    (tx.content localBook bookId).RoundTrips localBook bookId := by
  refine ⟨?_, fun entry member => ?_⟩
  · have := plain.seconds
    show tx.occurredAt * 1000 % 1000000000 = 0
    omega
  · obtain ⟨original, -, rfl⟩ := List.mem_map.mp member
    exact rewriteAccountId_roundTrip original.accountId localBook bookId

/-! ### The server takes a mutation -/

section View

variable {bookId id : String} {server : MemoryStore}

theorem MemoryStore.viewOf_of_lookup {record : TxRecord}
    (found : server.transactions.lookup id = some record) (inBook : record.bookId = bookId) :
    server.viewOf bookId id = some ⟨record.version, record.deleted, record.content⟩ := by
  have kept : (some record).filter (fun record => record.bookId = bookId) = some record :=
    Option.filter_some_pos (decide_eq_true inBook)
  rw [viewOf, found, kept, Option.map_some]

theorem MemoryStore.viewOf_eq_some {view : ServerView} :
    server.viewOf bookId id = some view ↔ ∃ record, server.transactions.lookup id = some record ∧
      record.bookId = bookId ∧ view = ⟨record.version, record.deleted, record.content⟩ := by
  constructor
  · intro seen
    obtain ⟨record, filtered, rfl⟩ := Option.map_eq_some_iff.mp seen
    obtain ⟨found, inBook⟩ := Option.filter_eq_some_iff.mp filtered
    exact ⟨record, found, of_decide_eq_true inBook, rfl⟩
  · rintro ⟨record, found, inBook, rfl⟩
    exact viewOf_of_lookup found inBook

theorem MemoryStore.viewOf_eq_none : server.viewOf bookId id = none ↔ ¬StoredIn server bookId id := by
  constructor
  · rintro unseen ⟨record, found, inBook⟩
    rw [viewOf_of_lookup found inBook] at unseen
    cases unseen
  · intro missing
    cases seen : server.viewOf bookId id with
    | none => rfl
    | some view =>
      obtain ⟨record, found, inBook, -⟩ := viewOf_eq_some.mp seen
      exact absurd ⟨record, found, inBook⟩ missing

end View

/-- No step of the server takes an account out of its book. -/
theorem accountInBook_pushStep [Rfc3339] {server : MemoryStore} (step : PushStep)
    {bookId accountId : String} (owned : accountInBook server.accounts bookId accountId = true) :
    accountInBook (pushStep server step).accounts bookId accountId = true := by
  refine pushStep_elim (motive := fun after => accountInBook after.accounts bookId accountId = true)
    step (fun _ _ holds => holds) owned ?_ ?_ ?_
  · exact fun _ _ _ _ => owned
  · exact fun _ _ => owned
  · exact fun record accepts => accountInBook_insert accepts owned

section Accept

variable [Rfc3339] {bookId deviceId localBook : String} {server : MemoryStore}
  {row : PendingMutationRow} {stamp : Stamp} {step : PushStep} {view : ServerView}

omit [Rfc3339] in
theorem timestampOf_eq_some {micros : Int} {timestamp : Timestamp}
    (dated : timestampOf micros = some timestamp) : timestamp.val = micros * 1000 := by
  unfold timestampOf at dated
  split at dated
  · cases dated
    rfl
  · cases dated

omit [Rfc3339] in
/-- The record written for a transaction of the device has its content. -/
theorem content_upsertRecord {tx : LedgerTransaction} {owner : String} {mutation : SyncMutationDto}
    {existing : Option TxRecord} {timestamp now : Timestamp}
    (dated : timestampOf tx.occurredAt = some timestamp)
    (description : (mutation.payload.get? "description").bind Json.asStr? = tx.description)
    (amounts : ∀ entry ∈ tx.entries, FitsI64 entry.minorUnits)
    (sent : ∀ entry ∈ tx.entries,
      (entry.sent localBook bookId).amountMinor = entry.minorUnits) :
    (upsertRecord owner mutation existing (some timestamp)
      (tx.entries.map (DomainEntry.sent localBook bookId)) now).content =
        tx.content localBook bookId := by
  rw [TxRecord.content, LedgerTransaction.content, Content.mk.injEq]
  refine ⟨timestampOf_eq_some dated, description, ?_⟩
  rw [upsertRecord, List.map_map, List.map_map]
  refine List.map_congr_left fun entry member => ?_
  have amount : asI64 (entry.sent localBook bookId).amountMinor = entry.minorUnits := by
    rw [sent entry member, asI64_of_fits (amounts entry member)]
  show (rewriteAccountId entry.accountId localBook bookId,
    some (asI64 (entry.sent localBook bookId).amountMinor), entry.currency) = _
  rw [amount]

/-- A create or update of the queue that fits is written with the content it carries. -/
theorem Fits.written [ReadsDates] (fits : Fits bookId server row) {tx : LedgerTransaction}
    (made : row.step deviceId localBook bookId stamp = some step)
    (isTransaction : row.entityType = "transaction")
    (isWrite : row.operation = "create" ∨ row.operation = "update")
    (new : server.mutations.lookup step.key = none)
    (benign : Benign bookId deviceId server step)
    (carries : row.payload.Carries tx) (plain : tx.Plain localBook bookId server.accounts) :
    (pushReceipt server step).status = "applied" ∧
      (pushStep server step).viewOf bookId row.entityId =
        some ⟨((server.transactions.lookup row.entityId).map fun transaction =>
          transaction.version + 1).getD 1, false, tx.content localBook bookId⟩ := by
  obtain ⟨timestamp, dated⟩ := Option.isSome_iff_exists.mp plain.dated
  have notDelete : row.operation ≠ "delete" := by
    rcases isWrite with isCreate | isUpdate
    · rw [isCreate]
      decide
    · rw [isUpdate]
      decide
  obtain ⟨date, entries, description⟩ :=
    PendingMutationRow.step_readers made isTransaction notDelete carries dated
  obtain ⟨balanced, amounts⟩ := tx.sent_balanced localBook bookId plain.amounts
  have balanced := validateBalanced_of_balanced balanced
  obtain ⟨book, device, -, -, type, operation, -, entity⟩ := PendingMutationRow.step_fields made
  have entity := entity isTransaction
  have anew := benign.ownCreate ⟨book, device⟩ new (type.trans isTransaction)
  have checked : checkedDrafts step.mutation =
      .ok (some timestamp, tx.entries.map (DomainEntry.sent localBook bookId)) := by
    refine checkedDrafts_eq_ok.mpr ⟨date, entries, validateOrReject_eq_none.mpr
      ⟨type.trans isTransaction, Or.inr ⟨?_, balanced⟩⟩⟩
    rwa [operation]
  have accepts := fits.acceptsUpsert made isTransaction anew notDelete checked balanced
    (List.forall_mem_map.mpr fun entry member => plain.accounts entry member)
  have written : processMutationMem server step.bookId step.mutation step.stamp = _ :=
    processMutationMem_upsert accepts step.stamp
  refine ⟨by rw [pushReceipt_processed new, written]; rfl, ?_⟩
  have stored : (pushStep server step).transactions.lookup row.entityId =
      some (upsertRecord step.bookId step.mutation (server.transactions.lookup row.entityId)
        (some timestamp) (tx.entries.map (DomainEntry.sent localBook bookId)) step.stamp.now) := by
    rw [pushStep_processed new, written, ← entity]
    exact AList.lookup_insert _
  rw [MemoryStore.viewOf_of_lookup stored book,
    content_upsertRecord dated description plain.amounts amounts]
  rfl

/-- A mutation that lands is applied, and leaves the view it leads to. -/
theorem LandsAs.accepted [ReadsDates] {before next : Option ServerView}
    (lands : LandsAs localBook bookId server.accounts before row next)
    (seen : server.viewOf bookId row.entityId = before)
    (made : row.step deviceId localBook bookId stamp = some step)
    (isTransaction : row.entityType = "transaction")
    (new : server.mutations.lookup step.key = none)
    (benign : Benign bookId deviceId server step) :
    (pushReceipt server step).status = "applied" ∧
      (pushStep server step).viewOf bookId row.entityId = next := by
  obtain ⟨book, device, -, -, type, operation, base, entity⟩ := PendingMutationRow.step_fields made
  have entity := entity isTransaction
  cases lands with
  | create isCreate carries plain =>
    have missing := MemoryStore.viewOf_eq_none.mp seen
    have free : server.transactions.lookup row.entityId = none := by
      cases found : server.transactions.lookup row.entityId with
      | none => rfl
      | some record =>
        have inBook := (benign.ownCreate ⟨book, device⟩ new (type.trans isTransaction)
          (operation.trans isCreate)).1 record (by rw [entity, found])
        exact absurd ⟨record, found, inBook⟩ missing
    obtain ⟨applied, written⟩ := Fits.written (Or.inl ⟨isCreate, missing⟩) made isTransaction
      (Or.inl isCreate) new benign carries plain
    rw [free] at written
    exact ⟨applied, written⟩
  | update isUpdate current carries plain =>
    obtain ⟨record, found, inBook, rfl⟩ := MemoryStore.viewOf_eq_some.mp seen
    obtain ⟨applied, written⟩ := Fits.written
      (Or.inr ⟨record, found, inBook, Or.inl ⟨isUpdate, current⟩⟩) made isTransaction
      (Or.inr isUpdate) new benign carries plain
    rw [found] at written
    exact ⟨applied, written⟩
  | delete isDelete current =>
    obtain ⟨record, found, inBook, rfl⟩ := MemoryStore.viewOf_eq_some.mp seen
    have accepts : AcceptsDelete server step.bookId step.mutation record :=
      ⟨type.trans isTransaction, operation.trans isDelete, by rw [entity, found],
        inBook.trans book.symm, by rwa [base]⟩
    have written := processMutationMem_delete accepts step.stamp
    refine ⟨by rw [pushReceipt_processed new, written]; rfl, ?_⟩
    have stored : (pushStep server step).transactions.lookup row.entityId =
        some { record with deleted := true, version := record.version + 1 } := by
      rw [pushStep_processed new, written, ← entity]
      exact AList.lookup_insert _
    exact MemoryStore.viewOf_of_lookup stored inBook

end Accept

end Ledgerly
