/-
This file models what the sync handlers do with one pushed mutation before they
touch a store: the request and receipt types of the `ledger-contracts` crate, and
the readers `parse_entries`, `parse_occurred_at`, `parse_source`,
`parse_source_event_fingerprint`, `parse_account_payload` with the receipts they
reject a mutation with.

The `time` crate's RFC 3339 reader and writer are parameters (`Rfc3339`): the
handlers use no more of a timestamp than that.
-/

import Ledgerly.Json
import Ledgerly.LedgerDomain

namespace Ledgerly

/-- An instant in nanoseconds since the Unix epoch, within the years 0000 to 9999 that
RFC 3339 can write. -/
def Timestamp : Type :=
  { nanos : Int // -62167219200000000000 ≤ nanos ∧ nanos ≤ 253402300799999999999 }

instance : DecidableEq Timestamp := inferInstanceAs (DecidableEq (Subtype _))

/-- `OffsetDateTime::parse(_, &Rfc3339)`, moved to UTC, and `format(&Rfc3339)`. -/
class Rfc3339 where
  parse : String → Option Timestamp
  format : Timestamp → String

/-- `SyncMutationDto`. -/
structure SyncMutationDto where
  mutationId : String
  entityType : String
  entityId : String
  operation : String
  baseVersion : Int
  payload : Json

/-- `MutationReceiptDto`. -/
structure MutationReceiptDto where
  mutationId : String
  status : String
  resultCode : String
  entityVersion : Option Int
  deriving DecidableEq

/-- The answer to a mutation that is refused, -/
def rejectedReceipt (mutation : SyncMutationDto) (resultCode : String)
    (entityVersion : Option Int) : MutationReceiptDto where
  mutationId := mutation.mutationId
  status := "rejected"
  resultCode := resultCode
  entityVersion := entityVersion

/-- and to one that is applied. -/
def appliedReceipt (mutation : SyncMutationDto) (version : Int) : MutationReceiptDto where
  mutationId := mutation.mutationId
  status := "applied"
  resultCode := "OK"
  entityVersion := some version

/-- The receipt of a create that names an event another transaction already records. -/
def dedupedReceipt (mutation : SyncMutationDto) (version : Int) : MutationReceiptDto where
  mutationId := mutation.mutationId
  status := "applied"
  resultCode := "AUTO_LEDGER_DEDUPED"
  entityVersion := some version

/-- One element of `payload.entries`, with the defaults of `parse_entries`. -/
def readEntry (entry : Json) : EntryDraft where
  accountId := ((entry.get? "accountId").bind Json.asStr?).getD ""
  amountMinor := (((entry.get? "amountMinor").bind Json.asStr?).bind parseI128).getD 0
  currency := ((entry.get? "currency").bind Json.asStr?).getD "CNY"

/-- The entries of a payload. What cannot be read in one is filled in. -/
def parseEntries (mutation : SyncMutationDto) : Except MutationReceiptDto (List EntryDraft) :=
  match (mutation.payload.get? "entries").bind Json.asArray? with
  | none => .error (rejectedReceipt mutation "INVALID_PAYLOAD" none)
  | some entries => .ok (entries.map readEntry)

/-- The date of a payload, if it has one. -/
def parseOccurredAt [Rfc3339] (mutation : SyncMutationDto) :
    Except MutationReceiptDto (Option Timestamp) :=
  match mutation.payload.get? "occurredAt" with
  | none => .ok none
  | some raw =>
    match raw.asStr? with
    | none => .error (rejectedReceipt mutation "INVALID_PAYLOAD" none)
    | some raw =>
      match Rfc3339.parse raw with
      | some value => .ok (some value)
      | none => .error (rejectedReceipt mutation "INVALID_PAYLOAD" none)

/-- The fingerprint of a payload, under either name: 64 hex digits. -/
def parseSourceEventFingerprint (mutation : SyncMutationDto) : Option String :=
  match (mutation.payload.get? "sourceEventFingerprint").or
      (mutation.payload.get? "source_event_fingerprint") with
  | some (.str value) =>
    if (trim value).utf8ByteSize = 64 ∧ (trim value).toList.all isAsciiHexdigit = true then
      some (trim value)
    else none
  | _ => none

/-- The source of a payload: a text of at most 32 characters. -/
def parseSource (mutation : SyncMutationDto) : Option String :=
  match mutation.payload.get? "source" with
  | some (.str value) =>
    if trim value = "" ∨ (trim value).length > 32 then none else some (trim value)
  | _ => none

/-- The pair a create is deduplicated by: a fingerprint on an `auto_ledger` mutation. -/
def autoLedgerFingerprint (mutation : SyncMutationDto) : Option String :=
  if parseSource mutation = some "auto_ledger" then parseSourceEventFingerprint mutation else none

/-- The payload with the date as the server writes it. -/
def canonicalTransactionPayload [Rfc3339] (payload : Json) (occurredAt : Timestamp) : Json :=
  payload.insert "occurredAt" (.str (Rfc3339.format occurredAt))

/-- The payload with a date, which old rows of the log do not have. -/
def backfillTransactionOccurredAt [Rfc3339] (payload : Json) (occurredAt : Timestamp) : Json :=
  if (payload.get? "occurredAt").isSome then payload
  else canonicalTransactionPayload payload occurredAt

/-- The checks of a mutation of a transaction. A delete has no entries to check. -/
def validateOrReject (mutation : SyncMutationDto) (drafts : List EntryDraft) :
    Option MutationReceiptDto :=
  if mutation.entityType ≠ "transaction" ∨ (mutation.operation ≠ "create" ∧
      mutation.operation ≠ "update" ∧ mutation.operation ≠ "delete") then
    some (rejectedReceipt mutation "UNSUPPORTED_MUTATION" none)
  else if mutation.operation = "delete" then none
  else match validateBalanced drafts with
    | .ok _ => none
    | .error .unbalanced => some (rejectedReceipt mutation "LEDGER_UNBALANCED" none)
    | .error _ => some (rejectedReceipt mutation "LEDGER_INVALID" none)

/-- The checks both backends run, in this order, on a transaction mutation that is not a
delete, before they open the store. -/
def checkedDrafts [Rfc3339] (mutation : SyncMutationDto) :
    Except MutationReceiptDto (Option Timestamp × List EntryDraft) :=
  match parseOccurredAt mutation with
  | .error receipt => .error receipt
  | .ok requestedOccurredAt =>
    match parseEntries mutation with
    | .error receipt => .error receipt
    | .ok drafts =>
      match validateOrReject mutation drafts with
      | some receipt => .error receipt
      | none => .ok (requestedOccurredAt, drafts)

/-- `AccountPayload`. A missing parent keeps the current one, an explicit null moves the
account to the root. -/
structure AccountPayload where
  name : String
  accountType : String
  currency : String
  parentAccountId : Option (Option String)

/-- The test of the scalar fields in `parse_account_payload`. -/
def validAccountFields (name accountType currency : String) : Bool :=
  name ≠ "" && name.length ≤ 24 &&
    accountType ∈ ["asset", "liability", "income", "expense", "equity"] &&
    currency.utf8ByteSize = 3 && currency.toList.all isAsciiUppercase

/-- The `parentAccountId` field: absent, null, or the id of an account of the book. -/
def parseParentAccountId (scopedPrefix : String) (payload : Json) :
    Option (Option (Option String)) :=
  match payload.get? "parentAccountId" with
  | none => some none
  | some .null => some (some none)
  | some (.str parentId) =>
    if startsWith parentId scopedPrefix ∧ scopedPrefix.utf8ByteSize < parentId.utf8ByteSize then
      some (some (some parentId))
    else none
  | some _ => none

/-- The account of a payload, whose id must be of the book. -/
def parseAccountPayload (bookId : String) (mutation : SyncMutationDto) :
    Except MutationReceiptDto AccountPayload :=
  let invalid := rejectedReceipt mutation "INVALID_PAYLOAD" none
  let scopedPrefix := bookId ++ ":"
  if mutation.operation ≠ "create" ∧ mutation.operation ≠ "update" then
    .error (rejectedReceipt mutation "UNSUPPORTED_MUTATION" none)
  else if (stripPrefix mutation.entityId scopedPrefix).getD "" = "" then .error invalid
  else
    match (mutation.payload.get? "name").bind Json.asStr?,
      (mutation.payload.get? "accountType").bind Json.asStr?,
      (mutation.payload.get? "currency").bind Json.asStr? with
    | some name, some accountType, some currency =>
      if validAccountFields (trim name) accountType currency then
        match parseParentAccountId scopedPrefix mutation.payload with
        | some parentAccountId => .ok ⟨trim name, accountType, currency, parentAccountId⟩
        | none => .error invalid
      else .error invalid
    | _, _, _ => .error invalid

/-! ### What the readers accept -/

theorem parseEntries_ok {mutation : SyncMutationDto} {drafts : List EntryDraft}
    (parsed : parseEntries mutation = .ok drafts) :
    ∃ items, mutation.payload.get? "entries" = some (.arr items) ∧ drafts = items.map readEntry := by
  unfold parseEntries at parsed
  split at parsed
  · cases parsed
  · rename_i items found
    obtain ⟨field, present, isArray⟩ := Option.bind_eq_some_iff.mp found
    refine ⟨items, ?_, (Except.ok.inj parsed).symm⟩
    rw [present, Json.asArray?_eq_some isArray]

theorem parseEntries_error {mutation : SyncMutationDto} {receipt : MutationReceiptDto}
    (failed : parseEntries mutation = .error receipt) :
    receipt = rejectedReceipt mutation "INVALID_PAYLOAD" none := by
  unfold parseEntries at failed
  split at failed
  · exact (Except.error.inj failed).symm
  · cases failed

theorem parseOccurredAt_error [Rfc3339] {mutation : SyncMutationDto}
    {receipt : MutationReceiptDto} (failed : parseOccurredAt mutation = .error receipt) :
    receipt = rejectedReceipt mutation "INVALID_PAYLOAD" none := by
  unfold parseOccurredAt at failed
  split at failed
  · cases failed
  · split at failed
    · exact (Except.error.inj failed).symm
    · split at failed
      · cases failed
      · exact (Except.error.inj failed).symm

theorem validateOrReject_eq_some {mutation : SyncMutationDto} {drafts : List EntryDraft}
    {receipt : MutationReceiptDto} (rejected : validateOrReject mutation drafts = some receipt) :
    ∃ code, receipt = rejectedReceipt mutation code none := by
  unfold validateOrReject at rejected
  split at rejected
  · exact ⟨_, (Option.some.inj rejected).symm⟩
  · split at rejected
    · cases rejected
    · split at rejected
      · cases rejected
      · exact ⟨_, (Option.some.inj rejected).symm⟩
      · exact ⟨_, (Option.some.inj rejected).symm⟩

/-- What `validate_or_reject` lets through. -/
theorem validateOrReject_eq_none {mutation : SyncMutationDto} {drafts : List EntryDraft} :
    validateOrReject mutation drafts = none ↔
      mutation.entityType = "transaction" ∧
        (mutation.operation = "delete" ∨
          (mutation.operation = "create" ∨ mutation.operation = "update") ∧
            validateBalanced drafts = .ok ()) := by
  unfold validateOrReject
  split
  · rename_i unsupported
    refine ⟨fun impossible => absurd impossible (by simp), ?_⟩
    rintro ⟨isTransaction, isDelete | ⟨isWrite, -⟩⟩ <;> grind
  · split
    · grind
    · rename_i notDelete
      split
      · grind
      · rename_i unbalanced
        simp [notDelete, unbalanced]
      · rename_i error invalid
        simp [notDelete, invalid]

/-- A mutation that passes the checks of the handlers, read field by field. -/
theorem checkedDrafts_eq_ok [Rfc3339] {mutation : SyncMutationDto}
    {requested : Option Timestamp} {drafts : List EntryDraft} :
    checkedDrafts mutation = .ok (requested, drafts) ↔
      parseOccurredAt mutation = .ok requested ∧ parseEntries mutation = .ok drafts ∧
        validateOrReject mutation drafts = none := by
  unfold checkedDrafts
  split
  · rename_i occurred
    simp [occurred]
  · rename_i occurred
    split
    · rename_i parsed
      simp [parsed]
    · rename_i parsed
      split
      · rename_i rejected
        simp only [reduceCtorEq, false_iff, not_and]
        rintro - same
        rw [parsed] at same
        cases same
        rw [rejected]
        simp
      · rename_i valid
        rw [occurred, parsed]
        constructor
        · rintro accepted
          cases accepted
          exact ⟨rfl, rfl, valid⟩
        · rintro ⟨sameTime, sameEntries, -⟩
          cases sameTime
          cases sameEntries
          rfl

/-- A mutation that fails the checks is rejected without a version. -/
theorem checkedDrafts_error [Rfc3339] {mutation : SyncMutationDto}
    {receipt : MutationReceiptDto} (failed : checkedDrafts mutation = .error receipt) :
    ∃ code, receipt = rejectedReceipt mutation code none := by
  unfold checkedDrafts at failed
  split at failed
  · rename_i occurred
    cases failed
    exact ⟨_, parseOccurredAt_error occurred⟩
  · split at failed
    · rename_i parsed
      cases failed
      exact ⟨_, parseEntries_error parsed⟩
    · split at failed
      · rename_i rejected
        cases failed
        exact validateOrReject_eq_some rejected
      · cases failed

theorem parseAccountPayload_error {bookId : String} {mutation : SyncMutationDto}
    {receipt : MutationReceiptDto} (failed : parseAccountPayload bookId mutation = .error receipt) :
    ∃ code, receipt = rejectedReceipt mutation code none := by
  simp only [parseAccountPayload] at failed
  repeat' split at failed
  all_goals first
    | cases failed; done
    | exact ⟨_, (Except.error.inj failed).symm⟩

/-- A readable entry is written by its text: the amount is the integer the string spells. -/
theorem readEntry_amountMinor {entry : Json} (nonzero : (readEntry entry).amountMinor ≠ 0) :
    ∃ text, entry.get? "amountMinor" = some (.str text) ∧
      decimalInt text = some (readEntry entry).amountMinor := by
  unfold readEntry at nonzero ⊢
  simp only at nonzero ⊢
  cases read : ((entry.get? "amountMinor").bind Json.asStr?).bind parseI128 with
  | none => exact absurd (by rw [read]; rfl) nonzero
  | some value =>
    obtain ⟨text, found, parsed⟩ := Option.bind_eq_some_iff.mp read
    obtain ⟨field, present, isText⟩ := Option.bind_eq_some_iff.mp found
    exact ⟨text, by rw [present, Json.asStr?_eq_some isText], parseI128_eq_some parsed⟩

end Ledgerly
