/-
This file models the two other writers of the ledger on the server, beside `push`: the
endpoint `POST /v1/transactions`, and the job that books the recurring rules which are due.

The endpoint writes to the memory store, also where the server has a database; the job writes
to the database only. Each writer checks its own input in its own way and logs a payload of
its own shape. `LedgerWrite` is one write of any of the three, and `appends_cases` says once
which row it logs for which transaction.
-/

import Ledgerly.BackendEquivalence
import Ledgerly.BookLog
import Ledgerly.DoubleEntry

namespace Ledgerly

/-- What a writer draws from outside for a new transaction: two ids and the time. -/
structure NewTransaction where
  txId : String
  commitId : String
  now : Timestamp

/-! ### The transactions endpoint -/

/-- `EntryDto`. -/
structure EntryDto where
  accountId : String
  amountMinor : String
  currency : String

/-- `CreateTransactionRequest`. -/
structure CreateTransactionRequest where
  bookId : String
  description : Option String
  entries : List EntryDto
  entriesFit : entries.length ≤ isizeMax := by decide

/-- `CreateTransactionResponse`. -/
structure CreateTransactionResponse where
  transactionId : String
  version : Int
  deriving DecidableEq

/-- The draft of one entry of a request; `none` is the error of `parse::<i128>`. -/
def EntryDto.draft (entry : EntryDto) : Option EntryDraft :=
  (parseI128 entry.amountMinor).map fun amountMinor =>
    ⟨entry.accountId, amountMinor, entry.currency⟩

/-- A tuple `(String, i64, String)`, as `json!` writes it: an array. -/
def StoredEntry.tuple (entry : StoredEntry) : Json :=
  .arr [.str entry.accountId, .num (decimalText entry.amountMinor), .str entry.currency]

/-- The payload of the change row of `create_transaction`. -/
def createdPayload [Rfc3339] (request : CreateTransactionRequest) (entries : List StoredEntry)
    (occurredAt : Timestamp) : Json :=
  canonicalTransactionPayload (.obj [("description", .ofOption request.description),
    ("entries", .arr (entries.map StoredEntry.tuple))]) occurredAt

/-- The record of `create_transaction`. -/
def createdRecord (request : CreateTransactionRequest) (entries : List StoredEntry)
    (new : NewTransaction) : TxRecord where
  id := new.txId
  bookId := request.bookId
  occurredAt := new.now
  description := request.description
  version := 1
  deleted := false
  entries := entries
  source := none
  sourceEventFingerprint := none

/-- The two inserts of `create_transaction`. -/
def writeCreated [Rfc3339] (store : MemoryStore) (request : CreateTransactionRequest)
    (entries : List StoredEntry) (new : NewTransaction) : MemoryStore :=
  { store with
    transactions := store.transactions.insert new.txId (createdRecord request entries new)
    changes := store.changes ++ [store.nextChange request.bookId new.commitId "transaction"
      new.txId "upsert" 1 (createdPayload request entries new.now)] }

/-- `create_transaction`. -/
def createTransaction [Rfc3339] (store : MemoryStore) (userId : String)
    (request : CreateTransactionRequest) (new : NewTransaction) :
    MemoryStore × Except ApiError CreateTransactionResponse :=
  match requireBookMember store userId request.bookId with
  | .error error => (store, .error error)
  | .ok _ =>
    match request.entries.mapM EntryDto.draft with
    | none => (store, .error ⟨400, "INVALID_AMOUNT", "bad amountMinor"⟩)
    | some drafts =>
      match validateBalanced drafts with
      | .error .unbalanced =>
        (store, .error ⟨422, "LEDGER_UNBALANCED", "entries do not sum to zero"⟩)
      | .error other => (store, .error ⟨400, "LEDGER_INVALID", other.text⟩)
      | .ok _ =>
        if (store.books.lookup request.bookId).isSome then
          (writeCreated store request (drafts.map EntryDraft.stored) new, .ok ⟨new.txId, 1⟩)
        else (store, .error ⟨404, "BOOK_NOT_FOUND", "book missing"⟩)

/-! ### The recurring job -/

/-- A row of `recurring_rules` that is due. Any member of the book can store any payload. -/
structure RecurringRule where
  id : String
  bookId : String
  name : String
  payload : Json
  entriesFit : payload.arrayLength "entries" ≤ isizeMax := by decide

/-- The errors that end the job. -/
inductive JobError where
  | missingAccountId
  | badAmountMinor
  | missingAmountMinor
  | parse
  | database
  deriving DecidableEq

/-- `str::parse::<i64>`. -/
def parseI64 (text : String) : Option Int := (parseI128 text).filter fun value => FitsI64 value

/-- `Number::as_i64`: a literal with a fraction or an exponent is no integer, and neither is
the negative zero. -/
def asI64? (literal : String) : Option Int :=
  if literal = "-0" then none else parseI64 literal

/-- The amount of an entry of a rule. -/
def recurringAmount (entry : Json) : Except JobError Int :=
  match entry.get? "amountMinor" with
  | some (.str text) => (parseI64 text).elim (.error .parse) .ok
  | some (.num literal) => (asI64? literal).elim (.error .badAmountMinor) .ok
  | _ => .error .missingAmountMinor

/-- One entry of a rule. -/
def recurringEntry (entry : Json) : Except JobError EntryDraft :=
  match (entry.get? "accountId").bind Json.asStr? with
  | none => .error .missingAccountId
  | some accountId =>
    match recurringAmount entry with
    | .error error => .error error
    | .ok amountMinor =>
      .ok ⟨accountId, amountMinor, ((entry.get? "currency").bind Json.asStr?).getD "CNY"⟩

/-- The loop over the entries of a rule. -/
def recurringEntries : List Json → Except JobError (List EntryDraft)
  | [] => .ok []
  | entry :: rest =>
    match recurringEntry entry with
    | .error error => .error error
    | .ok draft =>
      match recurringEntries rest with
      | .error error => .error error
      | .ok drafts => .ok (draft :: drafts)

/-- The sum of the same loop, carried in an `i128`. -/
def recurringSum (drafts : List EntryDraft) : Int :=
  drafts.foldl (fun sum draft => wrapI128 (sum + draft.amountMinor)) 0

/-- `json!({"accountId", "amountMinor", "currency"})`. -/
def EntryDraft.recurringJson (draft : EntryDraft) : Json :=
  .obj [("accountId", .str draft.accountId), ("amountMinor", .str (decimalText draft.amountMinor)),
    ("currency", .str draft.currency)]

/-- The description of a rule, its name by default. -/
def RecurringRule.description (rule : RecurringRule) : String :=
  ((rule.payload.get? "description").bind Json.asStr?).getD rule.name

/-- The payload of the change row of a rule. -/
def RecurringRule.changePayload [Rfc3339] (rule : RecurringRule) (drafts : List EntryDraft)
    (occurredAt : Timestamp) : Json :=
  .obj [("description", .str rule.description),
    ("occurredAt", .str (Rfc3339.format occurredAt)),
    ("entries", .arr (drafts.map EntryDraft.recurringJson)), ("recurringRuleId", .str rule.id)]

/-- The row of a rule in `transactions`, with its entries. -/
def RecurringRule.row (rule : RecurringRule) (drafts : List EntryDraft) (new : NewTransaction) :
    TxRecord where
  id := new.txId
  bookId := rule.bookId
  occurredAt := new.now.column
  description := some rule.description
  version := 1
  deleted := false
  entries := drafts.map EntryDraft.stored
  source := none
  sourceEventFingerprint := none

/-- The constraints on the rows of a rule: the primary key of `transactions`, and on each
entry the foreign key to `accounts`, which asks for no book, and the check on the amount. -/
def PgStore.allows (store : PgStore) (drafts : List EntryDraft) (new : NewTransaction) : Bool :=
  (store.transactions.lookup new.txId).isNone && drafts.all fun draft =>
    (store.accounts.lookup draft.accountId).isSome && draft.amountMinor ≠ 0

/-- The transaction of a rule. -/
def writeRecurring [Rfc3339] (store : PgStore) (rule : RecurringRule) (drafts : List EntryDraft)
    (new : NewTransaction) : PgStore :=
  ({ store with
      transactions := store.transactions.insert new.txId (rule.row drafts new) } :
    PgStore).logged rule.bookId new.commitId "transaction" new.txId "upsert" 1
      (rule.changePayload drafts new.now)

/-- What becomes of a rule: skipped with a reason, or booked. -/
inductive RuleOutcome where
  | skipped (reason : String)
  | generated (store : PgStore)

/-- The body of the loop of `generate_due_recurring`. -/
def generateRecurring [Rfc3339] (store : PgStore) (rule : RecurringRule) (new : NewTransaction) :
    Except JobError RuleOutcome :=
  let entries := ((rule.payload.get? "entries").bind Json.asArray?).getD []
  if entries.length < 2 then .ok (.skipped "PAYLOAD_MISSING_ENTRIES")
  else
    match recurringEntries entries with
    | .error error => .error error
    | .ok drafts =>
      if recurringSum drafts ≠ 0 then .ok (.skipped "UNBALANCED_PAYLOAD")
      else if store.allows drafts new then .ok (.generated (writeRecurring store rule drafts new))
      else .error .database

/-- The database after the body of the loop. -/
def recurringStep [Rfc3339] (store : PgStore) (rule : RecurringRule) (new : NewTransaction) :
    PgStore :=
  match generateRecurring store rule new with
  | .ok (.generated written) => written
  | _ => store

/-! ### The writers together -/

/-- The tables a writer of the ledger reads and writes, on either backend. -/
structure LedgerTables where
  accounts : KeyMap String AccountRecord
  transactions : KeyMap String TxRecord
  changes : List ChangeRecord

/-- The tables that writers share, on the memory backend -/
def MemoryStore.tables (store : MemoryStore) : LedgerTables :=
  ⟨store.accounts, store.transactions, store.changes⟩

/-- and on PostgreSQL. -/
def PgStore.tables (store : PgStore) : LedgerTables :=
  ⟨store.accounts, store.transactions, store.changes⟩

/-- One run of a writer, with the state it meets: a pushed mutation on the memory backend and on
PostgreSQL, a request to the transactions endpoint, a due rule. -/
inductive LedgerWrite where
  | push (store : MemoryStore) (step : PushStep)
  | pushPg (store : PgStore) (step : PushStep)
  | create (store : MemoryStore) (userId : String) (request : CreateTransactionRequest)
      (new : NewTransaction)
  | recurring (store : PgStore) (rule : RecurringRule) (new : NewTransaction)

/-- The tables before a write, -/
def LedgerWrite.before : LedgerWrite → LedgerTables
  | .push store _ => store.tables
  | .pushPg store _ => store.tables
  | .create store _ _ _ => store.tables
  | .recurring store _ _ => store.tables

/-- and after it. -/
def LedgerWrite.after [Rfc3339] : LedgerWrite → LedgerTables
  | .push store step => (pushStep store step).tables
  | .pushPg store step => (pushStepPg store step).tables
  | .create store userId request new => (createTransaction store userId request new).1.tables
  | .recurring store rule new => (recurringStep store rule new).tables

/-- The write appends the change row of a transaction, which is stored as the record. -/
structure LedgerWrite.Appends [Rfc3339] (write : LedgerWrite) (row : ChangeRecord)
    (record : TxRecord) : Prop where
  logged : write.after.changes = write.before.changes ++ [row]
  isTransaction : row.entityType = "transaction"
  stored : write.after.transactions.lookup row.entityId = some record

/-- What an accepted create or update leaves, on either backend: the row tells the date
`instant`, and the record keeps the drafts of the payload, which were checked. -/
structure PushStep.Upserts [Rfc3339] (step : PushStep)
    (accounts : KeyMap String AccountRecord) (instant : Timestamp) (row : ChangeRecord)
    (record : TxRecord) : Prop where
  notDelete : step.mutation.operation ≠ "delete"
  tells : row.Tells { record with
    occurredAt := instant
    deleted := false }
  description : row.payload.get? "description" = step.mutation.payload.get? "description"
  entries : row.payload.get? "entries" = step.mutation.payload.get? "entries"
  checked : ∃ drafts, parseEntries step.mutation = .ok drafts ∧
    validateBalanced drafts = .ok () ∧ record.entries = drafts.map EntryDraft.stored ∧
    ∀ draft ∈ drafts, accountInBook accounts record.bookId draft.accountId = true

/-- A log that grew by one row grew by no other. -/
theorem row_eq_of_append {changes : List ChangeRecord} {first second : ChangeRecord}
    (same : changes ++ [first] = changes ++ [second]) : first = second :=
  List.singleton_inj.mp (List.append_cancel_left same)

theorem not_append_nil {changes : List ChangeRecord} {row : ChangeRecord}
    (same : changes = changes ++ [row]) : False :=
  List.cons_ne_nil row [] (List.append_right_eq_self.mp same.symm)

section Writes

variable [Rfc3339]

/-- The date a pushed create or update is given: its own, else that of the stored transaction,
else the current one. -/
def PushStep.instant (step : PushStep) (known : Option TxRecord) : Timestamp :=
  match parseOccurredAt step.mutation with
  | .ok requested => (requested.or (known.map TxRecord.occurredAt)).getD step.stamp.now
  | .error _ => step.stamp.now

/-- What a push on the memory backend can append. -/
theorem push_appends {store : MemoryStore} {step : PushStep} {row : ChangeRecord}
    {record : TxRecord} (appends : (LedgerWrite.push store step).Appends row record) :
    step.mutation.operation = "delete" ∧ row.operation = "delete" ∨
      step.Upserts store.accounts
        (step.instant (store.transactions.lookup step.mutation.entityId)) row record ∧
        record.occurredAt =
          step.instant (store.transactions.lookup step.mutation.entityId) := by
  obtain ⟨logged, isTransaction, stored⟩ := appends
  revert logged stored
  refine pushStep_elim (motive := fun after => after.changes = store.changes ++ [row] →
    after.transactions.lookup row.entityId = some record → _) step
    (fun _ _ holds => holds) ?_ ?_ ?_ ?_
  · intro logged
    exact (not_append_nil logged).elim
  · intro existing requestedOccurredAt drafts accepts logged stored
    cases row_eq_of_append logged
    cases (AList.lookup_insert _).symm.trans stored
    have instant : step.instant (store.transactions.lookup step.mutation.entityId) =
        (requestedOccurredAt.or (existing.map TxRecord.occurredAt)).getD step.stamp.now := by
      rw [PushStep.instant, accepts.occurredAt, accepts.found]
    refine Or.inr ⟨⟨accepts.notDelete, ?_, ?_, ?_, drafts, accepts.entries, accepts.balanced, rfl,
      accepts.accounts⟩, instant.symm⟩
    · rw [instant]
      exact accepts.tells step.stamp rfl rfl rfl rfl
    · exact get?_upsertPayload_of_ne _ _ _ (by decide) (by decide)
    · exact get?_upsertPayload_of_ne _ _ _ (by decide) (by decide)
  · intro existing accepts logged stored
    cases row_eq_of_append logged
    exact Or.inl ⟨accepts.isDelete, rfl⟩
  · intro account accepts logged stored
    cases row_eq_of_append logged
    exact absurd isTransaction (by simp [accountChange, MemoryStore.nextChange])

/-- The row of an admitted create or update tells the row it writes, with the date the column
has not cut yet. -/
theorem AdmittedPg.upserts {store : PgStore} {step : PushStep}
    {requestedOccurredAt : Option Timestamp} {drafts : List EntryDraft}
    (admitted : AdmittedPg store step.bookId step.mutation requestedOccurredAt drafts)
    {existing : Option TxRecord} {instant : Timestamp} {row : ChangeRecord} {record : TxRecord}
    (version : row.entityVersion = record.version) (operation : row.operation = "upsert")
    (payload : row.payload = upsertPayload step.mutation existing instant)
    (description : record.description =
      (step.mutation.payload.get? "description").bind Json.asStr?)
    (entries : record.entries = drafts.map EntryDraft.stored)
    (owned : record.bookId = step.bookId) :
    step.Upserts store.accounts instant row record := by
  obtain ⟨-, parsed, valid⟩ := checkedDrafts_eq_ok.mp admitted.checked
  obtain ⟨-, isDelete | ⟨-, balanced⟩⟩ := validateOrReject_eq_none.mp valid
  · exact absurd isDelete admitted.notDelete
  · obtain ⟨items, present, drafted⟩ := parseEntries_ok parsed
    obtain ⟨currency, sound⟩ := sound_of_validateBalanced balanced
    have kept : ∀ {key}, key ≠ "occurredAt" → key ≠ "source" →
        row.payload.get? key = step.mutation.payload.get? key := by
      intro key notDate notSource
      rw [payload, get?_upsertPayload_of_ne _ _ _ notDate notSource]
    refine ⟨admitted.notDelete, ⟨version, operation, fun _ => ?_, fun _ => ?_,
      fun _ => ⟨items, ?_, ?_, ?_⟩⟩, kept (by decide) (by decide), kept (by decide) (by decide),
      drafts, parsed, balanced, entries, ?_⟩
    · rw [payload, get?_upsertPayload_occurredAt present]
    · rw [kept (by decide) (by decide), description]
    · rw [kept (by decide) (by decide), present]
    · rw [entries, drafted, List.map_map]
      rfl
    · intro item member
      have drafted := sound (readEntry item) (by rw [drafted]; exact List.mem_map_of_mem member)
      exact ⟨drafted.nonzero, drafted.inRange⟩
    · rw [owned]
      exact (countAccounts_eq_length_iff store step.bookId drafts).mp admitted.counted

/-- What a push on PostgreSQL can append. -/
theorem pushPg_appends {store : PgStore} {step : PushStep} {row : ChangeRecord}
    {record : TxRecord} (appends : (LedgerWrite.pushPg store step).Appends row record) :
    step.mutation.operation = "delete" ∧ row.operation = "delete" ∨
      step.Upserts store.accounts
        (step.instant (store.transactions.lookup step.mutation.entityId)) row record ∧
        record.occurredAt =
          (step.instant (store.transactions.lookup step.mutation.entityId)).column := by
  obtain ⟨logged, isTransaction, stored⟩ := appends
  revert logged stored
  refine pushStepPg_elim (motive := fun after => after.changes = store.changes ++ [row] →
    after.transactions.lookup row.entityId = some record → _) step
    (fun _ _ holds => holds) ?_ ?_ ?_ ?_ ?_
  · intro logged
    exact (not_append_nil logged).elim
  · intro existing requestedOccurredAt drafts admitted found owned current free logged stored
    cases row_eq_of_append logged
    cases (AList.lookup_insert _).symm.trans stored
    have instant : step.instant (store.transactions.lookup step.mutation.entityId) =
        requestedOccurredAt.getD existing.occurredAt := by
      rw [PushStep.instant, (checkedDrafts_eq_ok.mp admitted.checked).1, found]
      cases requestedOccurredAt <;> rfl
    refine Or.inr ⟨?_, by rw [instant]; rfl⟩
    rw [instant]
    exact admitted.upserts rfl rfl rfl rfl rfl owned
  · intro requestedOccurredAt drafts admitted missing free logged stored
    cases row_eq_of_append logged
    cases (AList.lookup_insert _).symm.trans stored
    have instant : step.instant (store.transactions.lookup step.mutation.entityId) =
        requestedOccurredAt.getD step.stamp.now := by
      rw [PushStep.instant, (checkedDrafts_eq_ok.mp admitted.checked).1, missing]
      cases requestedOccurredAt <;> rfl
    refine Or.inr ⟨?_, by rw [instant]; rfl⟩
    rw [instant]
    exact admitted.upserts rfl rfl rfl rfl rfl rfl
  · intro existing isDelete found owned logged stored
    cases row_eq_of_append logged
    exact Or.inl ⟨isDelete, rfl⟩
  · intro account logged stored
    cases row_eq_of_append logged
    exact absurd isTransaction (by simp)

/-- What the endpoint can append: the tuples of drafts that were checked. -/
theorem create_appends {store : MemoryStore} {userId : String}
    {request : CreateTransactionRequest} {new : NewTransaction} {row : ChangeRecord}
    {record : TxRecord} (appends : (LedgerWrite.create store userId request new).Appends row record) :
    ∃ drafts, request.entries.mapM EntryDto.draft = some drafts ∧
      validateBalanced drafts = .ok () ∧ row.operation = "upsert" ∧
      row.payload = createdPayload request (drafts.map EntryDraft.stored) new.now ∧
      record = createdRecord request (drafts.map EntryDraft.stored) new := by
  obtain ⟨logged, -, stored⟩ := appends
  simp only [LedgerWrite.after, LedgerWrite.before, createTransaction] at logged stored
  split at logged
  · exact (not_append_nil logged).elim
  · rename_i member
    rw [member] at stored
    simp only at stored
    split at logged
    · exact (not_append_nil logged).elim
    · rename_i drafts parsed
      rw [parsed] at stored
      simp only at stored
      split at logged
      · exact (not_append_nil logged).elim
      · exact (not_append_nil logged).elim
      · rename_i balanced
        rw [balanced] at stored
        simp only at stored
        split at logged
        · rename_i present
          rw [if_pos present] at stored
          cases row_eq_of_append logged
          cases (AList.lookup_insert _).symm.trans stored
          exact ⟨drafts, parsed, balanced, rfl, rfl, rfl⟩
        · exact (not_append_nil logged).elim

/-- A request that passes every check is appended. -/
theorem createTransaction_appends {store : MemoryStore} {userId : String}
    {request : CreateTransactionRequest} {new : NewTransaction} (drafts : List EntryDraft)
    (member : requireBookMember store userId request.bookId = .ok ())
    (parsed : request.entries.mapM EntryDto.draft = some drafts)
    (balanced : validateBalanced drafts = .ok ())
    (present : (store.books.lookup request.bookId).isSome = true) :
    (LedgerWrite.create store userId request new).Appends
      (store.nextChange request.bookId new.commitId "transaction" new.txId "upsert" 1
        (createdPayload request (drafts.map EntryDraft.stored) new.now))
      (createdRecord request (drafts.map EntryDraft.stored) new) := by
  have outcome : (createTransaction store userId request new).1 =
      writeCreated store request (drafts.map EntryDraft.stored) new := by
    simp only [createTransaction, member, parsed, balanced]
    rw [if_pos present]
  refine ⟨?_, rfl, ?_⟩
  · simp only [LedgerWrite.after, outcome]
    rfl
  · simp only [LedgerWrite.after, outcome]
    exact AList.lookup_insert _

/-- What a due rule can append: two entries at least that sum to zero, on accounts that
exist. -/
theorem recurring_appends {store : PgStore} {rule : RecurringRule} {new : NewTransaction}
    {row : ChangeRecord} {record : TxRecord}
    (appends : (LedgerWrite.recurring store rule new).Appends row record) :
    ∃ items drafts, rule.payload.get? "entries" = some (.arr items) ∧ 2 ≤ items.length ∧
      recurringEntries items = .ok drafts ∧ recurringSum drafts = 0 ∧
      store.allows drafts new = true ∧ row.operation = "upsert" ∧ row.entityVersion = 1 ∧
      row.payload = rule.changePayload drafts new.now ∧ record = rule.row drafts new := by
  obtain ⟨logged, -, stored⟩ := appends
  simp only [LedgerWrite.after, LedgerWrite.before, recurringStep] at logged stored
  split at logged
  · rename_i written outcome
    rw [outcome] at stored
    simp only at stored
    simp only [generateRecurring] at outcome
    split at outcome
    · cases outcome
    · rename_i enough
      split at outcome
      · cases outcome
      · rename_i drafts parsed
        split at outcome
        · cases outcome
        · rename_i zero
          split at outcome
          · rename_i allowed
            cases outcome
            cases row_eq_of_append logged
            cases (AList.lookup_insert _).symm.trans stored
            cases present : (rule.payload.get? "entries").bind Json.asArray? with
            | none =>
              rw [present] at enough
              exact absurd enough (by decide)
            | some items =>
              rw [present] at enough parsed
              obtain ⟨field, found, isArray⟩ := Option.bind_eq_some_iff.mp present
              refine ⟨items, drafts, ?_, not_lt.mp enough, parsed, not_not.mp zero, allowed, rfl,
                rfl, rfl, rfl⟩
              rw [found, Json.asArray?_eq_some isArray]
          · cases outcome
  · exact (not_append_nil logged).elim

/-- A rule that is booked is appended. -/
theorem generateRecurring_appends {store : PgStore} {rule : RecurringRule} {new : NewTransaction}
    {items : List Json} (drafts : List EntryDraft)
    (present : (rule.payload.get? "entries").bind Json.asArray? = some items)
    (enough : 2 ≤ items.length) (read : recurringEntries items = .ok drafts)
    (zero : recurringSum drafts = 0) (allowed : store.allows drafts new = true) :
    (LedgerWrite.recurring store rule new).Appends
      { sequence := store.nextSequence
        bookId := rule.bookId
        commitId := new.commitId
        entityType := "transaction"
        entityId := new.txId
        operation := "upsert"
        entityVersion := 1
        payload := rule.changePayload drafts new.now } (rule.row drafts new) := by
  have outcome : recurringStep store rule new = writeRecurring store rule drafts new := by
    simp only [recurringStep, generateRecurring, present, Option.getD_some, read]
    rw [if_neg (not_lt.mpr enough), if_neg (not_not.mpr zero), if_pos allowed]
  refine ⟨?_, rfl, ?_⟩
  · simp only [LedgerWrite.after, outcome]
    rfl
  · simp only [LedgerWrite.after, outcome]
    exact AList.lookup_insert _

end Writes

/-! ### What the job reads -/

theorem parseI64_fits {text : String} {value : Int} (parsed : parseI64 text = some value) :
    FitsI64 value := by
  have inRange := (Option.filter_eq_some_iff.mp parsed).2
  simpa using inRange

/-- An amount the job reads fits an `i64`. -/
theorem recurringAmount_fits {entry : Json} {amount : Int}
    (read : recurringAmount entry = .ok amount) : FitsI64 amount := by
  unfold recurringAmount at read
  split at read
  · rename_i text _
    cases parsed : parseI64 text with
    | none =>
      rw [parsed] at read
      cases read
    | some value =>
      rw [parsed] at read
      cases read
      exact parseI64_fits parsed
  · rename_i literal _
    cases parsed : asI64? literal with
    | none =>
      rw [parsed] at read
      cases read
    | some value =>
      rw [parsed] at read
      cases read
      unfold asI64? at parsed
      split at parsed
      · cases parsed
      · exact parseI64_fits parsed
  · cases read

theorem recurringEntry_fits {entry : Json} {draft : EntryDraft}
    (read : recurringEntry entry = .ok draft) : FitsI64 draft.amountMinor := by
  unfold recurringEntry at read
  split at read
  · cases read
  · split at read
    · cases read
    · rename_i amount amountRead
      cases read
      exact recurringAmount_fits amountRead

/-- The loop reads as many entries as there are, each in range. -/
theorem recurringEntries_spec {items : List Json} {drafts : List EntryDraft}
    (read : recurringEntries items = .ok drafts) :
    drafts.length = items.length ∧ ∀ draft ∈ drafts, FitsI64 draft.amountMinor := by
  induction items generalizing drafts with
  | nil =>
    cases read
    exact ⟨rfl, fun _ member => absurd member List.not_mem_nil⟩
  | cons item rest inductionHypothesis =>
    rw [recurringEntries] at read
    split at read
    · cases read
    · rename_i draft first
      split at read
      · cases read
      · rename_i later tail
        cases read
        obtain ⟨length, inRange⟩ := inductionHypothesis tail
        refine ⟨by rw [List.length_cons, List.length_cons, length], ?_⟩
        exact List.forall_mem_cons.mpr ⟨recurringEntry_fits first, inRange⟩

/-- The loop computes the sum modulo `2^128`. -/
theorem recurringSum_eq (drafts : List EntryDraft) :
    recurringSum drafts = wrapI128 (drafts.map EntryDraft.amountMinor).sum := by
  have generalised : ∀ (drafts : List EntryDraft) (sum : Int),
      drafts.foldl (fun sum draft => wrapI128 (sum + draft.amountMinor)) (wrapI128 sum) =
        wrapI128 (sum + (drafts.map EntryDraft.amountMinor).sum) := by
    intro drafts
    induction drafts with
    | nil => simp
    | cons draft rest inductionHypothesis =>
      intro sum
      have wrapped : wrapI128 (wrapI128 sum + draft.amountMinor) =
          wrapI128 (sum + draft.amountMinor) := Int.bmod_add_bmod
      rw [List.foldl_cons, wrapped, inductionHypothesis, List.map_cons, List.sum_cons, add_assoc]
  have zero : wrapI128 0 = 0 := by decide
  have total := generalised drafts 0
  rw [zero, zero_add] at total
  exact total

/-- What the constraints let through has no zero amount. -/
theorem PgStore.allows_nonzero {store : PgStore} {drafts : List EntryDraft}
    {new : NewTransaction} (allowed : store.allows drafts new = true) :
    ∀ draft ∈ drafts, draft.amountMinor ≠ 0 := by
  intro draft member
  simp only [allows, Bool.and_eq_true, List.all_eq_true, decide_eq_true_eq] at allowed
  exact (allowed.2 draft member).2

end Ledgerly
