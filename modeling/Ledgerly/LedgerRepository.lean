/-
This file models the database of one device for the book it syncs, and the functions of
`LedgerRepository` that write it: local transactions, the queue of pending mutations, the
conflicts, the accounts, and the state of the sync.

A function of the repository runs in a database transaction: it throws and leaves the
database alone, or it writes all it has to. The former is `none`. Pending mutations are
kept in the order they were made in, which is the order of `listPending`.
-/

import Ledgerly.ClientDate
import Ledgerly.MemoryStore

namespace Ledgerly

/-! ### Transactions of the domain -/

/-- `TransactionEntry` of the domain package, with the checks of `Money` and
`CurrencyCode`. -/
structure DomainEntry where
  accountId : String
  minorUnits : Int
  currency : String
  nonzero : minorUnits ≠ 0
  currencyCode : IsCurrencyCode currency

/-- `LedgerTransaction` of the domain package: its constructor throws unless there are two
entries of one currency at least and they sum to zero. The date is in microseconds. -/
structure LedgerTransaction where
  id : String
  occurredAt : Int
  description : Option String
  version : Int
  source : Option String
  sourceEventFingerprint : Option String
  entries : List DomainEntry
  atLeastTwo : 2 ≤ entries.length
  oneCurrency : ∃ currency, ∀ entry ∈ entries, entry.currency = currency
  sumZero : (entries.map DomainEntry.minorUnits).sum = 0
  entriesFit : entries.length ≤ isizeMax

/-- One yuan for lunch, paid in cash. -/
def lunchOf (id : String) (source sourceEventFingerprint : Option String) : LedgerTransaction where
  id := id
  occurredAt := 0
  description := none
  version := 1
  source := source
  sourceEventFingerprint := sourceEventFingerprint
  entries := [⟨"local:cash", -100, "CNY", by decide, isCurrencyCode_cny⟩,
    ⟨"local:food", 100, "CNY", by decide, isCurrencyCode_cny⟩]
  atLeastTwo := by simp
  oneCurrency := ⟨"CNY", by simp⟩
  sumZero := rfl
  entriesFit := two_le_isizeMax

/-- One entry in a payload, as `jsonEncode` is given it. -/
def DomainEntry.json (entry : DomainEntry) : Json :=
  .obj [("accountId", .str entry.accountId), ("amountMinor", .str (decimalText entry.minorUnits)),
    ("currency", .str entry.currency)]

/-- The payload of a create. -/
def LedgerTransaction.createPayload (tx : LedgerTransaction)
    (sourceEventFingerprint : Option String) : Json :=
  .obj [("description", .ofOption tx.description),
    ("occurredAt", .str (toIso8601String tx.occurredAt)), ("source", .ofOption tx.source),
    ("sourceEventFingerprint", .ofOption (sourceEventFingerprint.or tx.sourceEventFingerprint)),
    ("entries", .arr (tx.entries.map DomainEntry.json))]

/-- The payload of an update. -/
def LedgerTransaction.updatePayload (tx : LedgerTransaction) : Json :=
  .obj [("description", .ofOption tx.description),
    ("occurredAt", .str (toIso8601String tx.occurredAt)), ("source", .ofOption tx.source),
    ("entries", .arr (tx.entries.map DomainEntry.json))]

/-! ### The tables -/

/-- A row of `transaction_entries`. -/
structure LocalEntry where
  accountId : String
  amountMinor : String
  currencyCode : String
  deriving DecidableEq

/-- A row of `transactions` with its entries. -/
structure LocalTransaction where
  occurredAt : Int
  description : Option String
  version : Int
  deleted : Bool
  source : Option String
  sourceEventFingerprint : Option String
  entries : List LocalEntry
  deriving DecidableEq

/-- A row of `accounts`. -/
structure LocalAccount where
  name : String
  type : String
  currencyCode : String
  parentAccountId : Option String

/-- A row of `pending_mutations`. -/
structure PendingMutationRow where
  mutationId : String
  entityType : String
  entityId : String
  operation : String
  baseVersion : Int
  payload : Json
  entriesFit : payload.arrayLength "entries" ≤ isizeMax

/-- A row of `sync_conflicts`. -/
structure SyncConflict where
  id : String
  entityId : String
  reason : String
  localPayload : Json
  remoteVersion : Option Int
  entriesFit : localPayload.arrayLength "entries" ≤ isizeMax

/-- The database of a device for its local book `bookId`, with the row of `sync_states`. -/
structure Device where
  deviceId : String
  bookId : String
  transactions : KeyMap String LocalTransaction
  accounts : KeyMap String LocalAccount
  pending : List PendingMutationRow
  conflicts : List SyncConflict
  remoteBookId : Option String
  cursor : Int

/-- A device that has been set up, before its first transaction and its first sync. -/
def Device.initial (deviceId bookId : String) (accounts : KeyMap String LocalAccount) :
    Device where
  deviceId := deviceId
  bookId := bookId
  transactions := ∅
  accounts := accounts
  pending := []
  conflicts := []
  remoteBookId := none
  cursor := 0

/-- The insert into `pending_mutations`: the mutation id is the primary key. -/
def Device.queue (device : Device) (row : PendingMutationRow) : Option Device :=
  if device.pending.any fun other => other.mutationId = row.mutationId then none
  else some { device with pending := device.pending ++ [row] }

/-! ### Local writes -/

theorem LedgerTransaction.createPayload_fits (tx : LedgerTransaction)
    (fingerprint : Option String) :
    (tx.createPayload fingerprint).arrayLength "entries" ≤ isizeMax := by
  have length : (tx.createPayload fingerprint).arrayLength "entries" = tx.entries.length := by
    simp [createPayload, Json.arrayLength, Json.get?, List.lookup_cons]
  rw [length]
  exact tx.entriesFit

theorem LedgerTransaction.updatePayload_fits (tx : LedgerTransaction) :
    tx.updatePayload.arrayLength "entries" ≤ isizeMax := by
  have length : tx.updatePayload.arrayLength "entries" = tx.entries.length := by
    simp [updatePayload, Json.arrayLength, Json.get?, List.lookup_cons]
  rw [length]
  exact tx.entriesFit

/-- The rows of `transaction_entries` of a transaction of the domain. -/
def LedgerTransaction.localEntries (tx : LedgerTransaction) : List LocalEntry :=
  tx.entries.map fun entry => ⟨entry.accountId, decimalText entry.minorUnits, entry.currency⟩

/-- `saveDomainTransaction`. -/
def Device.saveDomainTransaction (device : Device) (tx : LedgerTransaction) (mutationId : String)
    (sourceEventFingerprint : Option String) : Option Device :=
  if (device.transactions.lookup tx.id).isSome then none
  else
    ({ device with
        transactions := device.transactions.insert tx.id
          { occurredAt := dateColumn tx.occurredAt
            description := tx.description
            version := tx.version
            deleted := false
            source := tx.source
            sourceEventFingerprint := sourceEventFingerprint.or tx.sourceEventFingerprint
            entries := tx.localEntries } } : Device).queue
      { mutationId := mutationId
        entityType := "transaction"
        entityId := tx.id
        operation := "create"
        baseVersion := 0
        payload := tx.createPayload sourceEventFingerprint
        entriesFit := tx.createPayload_fits sourceEventFingerprint }

/-- The pending create of a transaction. -/
def PendingMutationRow.Creates (row : PendingMutationRow) (id : String) : Prop :=
  row.entityType = "transaction" ∧ row.entityId = id ∧ row.operation = "create"

instance (row : PendingMutationRow) (id : String) : Decidable (row.Creates id) :=
  inferInstanceAs (Decidable (_ ∧ _))

/-- `updateDomainTransaction`. An edit of a transaction whose create is still pending replaces
the payload of the create; two pending creates of it would be an error. -/
def Device.updateDomainTransaction (device : Device) (tx : LedgerTransaction) (baseVersion : Int)
    (mutationId : String) : Option Device :=
  match device.transactions.lookup tx.id with
  | none => none
  | some current =>
    if current.deleted = true ∨ current.version ≠ baseVersion then none
    else
      let written : Device :=
        { device with
          transactions := device.transactions.insert tx.id
            { current with
              occurredAt := dateColumn tx.occurredAt
              description := tx.description
              version := current.version + 1
              entries := tx.localEntries } }
      match device.pending.filter fun row => row.Creates tx.id with
      | [] => written.queue
          { mutationId := mutationId
            entityType := "transaction"
            entityId := tx.id
            operation := "update"
            baseVersion := baseVersion
            payload := tx.updatePayload
            entriesFit := tx.updatePayload_fits }
      | [pendingCreate] =>
        some { written with
          pending := written.pending.map fun row =>
            if row.mutationId = pendingCreate.mutationId then
              { row with
                payload := tx.updatePayload
                entriesFit := tx.updatePayload_fits }
            else row }
      | _ => none

/-- The payload of a local delete. -/
def deletedPayload : Json := .obj [("deleted", .bool true)]

/-- `softDeleteTransaction`. -/
def Device.softDeleteTransaction (device : Device) (txId mutationId : String) : Option Device :=
  match device.transactions.lookup txId with
  | none => none
  | some tx =>
    ({ device with
        transactions := device.transactions.insert txId
          { tx with
            deleted := true
            version := tx.version + 1 } } : Device).queue
      { mutationId := mutationId
        entityType := "transaction"
        entityId := txId
        operation := "delete"
        baseVersion := tx.version
        payload := deletedPayload
        entriesFit := by decide }

/-- `_queueAccountMutation`. -/
def Device.queueAccountMutation (device : Device) (mutationId entityId operation : String)
    (account : LocalAccount) : Option Device :=
  device.queue
    { mutationId := mutationId
      entityType := "account"
      entityId := entityId
      operation := operation
      baseVersion := 0
      payload := canonicalAccountPayload account.name account.type account.currencyCode
        account.parentAccountId
      entriesFit := by simp [canonicalAccountPayload, Json.arrayLength, Json.get?, List.lookup_cons] }

/-- `createLocalAccount`. -/
def Device.createLocalAccount (device : Device) (id : String) (account : LocalAccount)
    (mutationId : String) : Option Device :=
  if (device.accounts.lookup id).isSome then none
  else ({ device with accounts := device.accounts.insert id account } :
    Device).queueAccountMutation mutationId id "create" account

/-- The shared part of `renameLocalAccount` and `updateLocalCategory`. -/
def Device.updateLocalAccount (device : Device) (id mutationId : String)
    (change : LocalAccount → LocalAccount) : Option Device :=
  match device.accounts.lookup id with
  | none => none
  | some account =>
    ({ device with accounts := device.accounts.insert id (change account) } :
      Device).queueAccountMutation mutationId id "update" (change account)

/-- `renameLocalAccount`. -/
def Device.renameLocalAccount (device : Device) (id name mutationId : String) : Option Device :=
  device.updateLocalAccount id mutationId fun account => { account with name := name }

/-- `updateLocalCategory`. -/
def Device.updateLocalCategory (device : Device) (id name : String)
    (parentAccountId : Option String) (mutationId : String) : Option Device :=
  device.updateLocalAccount id mutationId fun account =>
    { account with
      name := name
      parentAccountId := parentAccountId }

/-! ### The queue and the conflicts during a sync -/

/-- `removePending`. -/
def Device.removePending (device : Device) (mutationId : String) : Device :=
  { device with pending := device.pending.filter fun row => row.mutationId ≠ mutationId }

/-- The delete and the insert of a pending mutation under a new id; `createdAt` stays, so that
it keeps its place. -/
def Device.requeue (device : Device) (mutationId : String) (row : PendingMutationRow) :
    Option Device :=
  if device.pending.any fun other =>
      other.mutationId ≠ mutationId && other.mutationId = row.mutationId then none
  else some
    { device with
      pending := device.pending.map fun other =>
        if other.mutationId = mutationId then row else other }

/-- `renewPendingMutation`. -/
def Device.renewPendingMutation (device : Device) (mutationId newId : String) : Option Device :=
  match device.pending.find? fun row => row.mutationId = mutationId with
  | none => some device
  | some pending => device.requeue mutationId { pending with mutationId := newId }

theorem arrayLength_insert_parent (fields : List (String × Json)) :
    ((Json.obj fields).insert "parentAccountId" .null).arrayLength "entries" =
      (Json.obj fields).arrayLength "entries" := by
  rw [Json.arrayLength, Json.get?_insert_of_ne _ _ _ _ (by decide), Json.arrayLength]

/-- `retryCategoryMutationAsRoot`. -/
def Device.retryCategoryMutationAsRoot (device : Device) (mutationId newId : String) :
    Option Device :=
  match device.pending.find? fun row => row.mutationId = mutationId with
  | none => some device
  | some pending =>
    if pending.entityType ≠ "account" then none
    else
      match isObject : pending.payload, device.accounts.lookup pending.entityId with
      | .obj fields, some account =>
        ({ device with
            accounts := device.accounts.insert pending.entityId
              { account with parentAccountId := none } } : Device).requeue mutationId
          { pending with
            mutationId := newId
            payload := (Json.obj fields).insert "parentAccountId" .null
            entriesFit := by
              rw [arrayLength_insert_parent, ← isObject]
              exact pending.entriesFit }
      | _, _ => none

/-- `addConflict`. -/
def Device.addConflict (device : Device) (newId : String) (row : PendingMutationRow)
    (reason : String) (remoteVersion : Option Int) : Option Device :=
  if device.conflicts.any fun conflict => conflict.id = newId then none
  else some
    { device with
      conflicts := device.conflicts ++ [
        { id := newId
          entityId := row.entityId
          reason := reason
          localPayload := row.payload
          remoteVersion := remoteVersion
          entriesFit := row.entriesFit }] }

/-- `resolveConflict`: the conflict is dropped, and queued again to keep the local side. -/
def Device.resolveConflict (device : Device) (id : String) (keepLocal : Bool)
    (mutationId : String) : Option Device :=
  match device.conflicts.find? fun conflict => conflict.id = id with
  | none => some device
  | some conflict =>
    let resolved : Device :=
      { device with conflicts := device.conflicts.filter fun other => other.id ≠ conflict.id }
    if keepLocal then
      match conflict.localPayload with
      | .obj _ => resolved.queue
          { mutationId := mutationId
            entityType := "transaction"
            entityId := conflict.entityId
            operation :=
              match conflict.localPayload.get? "deleted" with
              | some (.bool true) => "delete"
              | _ => "update"
            baseVersion := conflict.remoteVersion.getD 0
            payload := conflict.localPayload
            entriesFit := conflict.entriesFit }
      | _ => none
    else some resolved

/-! ### Remote changes -/

/-- A cast `as String?` of a field that may be missing. -/
def optionalText (payload : Json) (key : String) : Option (Option String) :=
  match payload.get? key with
  | none => some none
  | some .null => some none
  | some (.str text) => some (some text)
  | some _ => none

/-- `toString` of a value of a payload; containers are written out, which no reader of an amount
accepts. -/
def Json.dartText : Json → String
  | .null => "null"
  | .bool true => "true"
  | .bool false => "false"
  | .num literal => literal
  | .str text => text
  | .arr _ => "[]"
  | .obj _ => "{}"

/-- An entry of a pulled payload. -/
def remoteEntry (entry : Json) : Option LocalEntry :=
  match (entry.get? "accountId").bind Json.asStr?, optionalText entry "currency" with
  | some accountId, some currency =>
    some ⟨accountId, ((entry.get? "amountMinor").getD .null).dartText, currency.getD "CNY"⟩
  | _, _ => none

/-- The list under `entries`, a missing one being empty. -/
def entryList (payload : Json) : Option (List Json) :=
  match payload.get? "entries" with
  | none => some []
  | some .null => some []
  | some (.arr items) => some items
  | some _ => none

/-- `_remoteOccurredAt` and the column it is written to: the date of the payload, else the one
that is there, else the current one. -/
def remoteDate (known : Option LocalTransaction) (payload : Json) (now : Int) : Option Int :=
  match payload.get? "occurredAt" with
  | some (.str raw) => (remoteOccurredAt raw).map dateColumn
  | some _ => none
  | none => some ((known.map LocalTransaction.occurredAt).getD (dateColumn now))

/-- The row `applyRemoteUpsert` leaves: an insert, or an update of the columns it names, which
`source` and `sourceEventFingerprint` are not among. -/
def remoteTransaction (known : Option LocalTransaction) (version : Int) (payload : Json)
    (now : Int) : Option LocalTransaction :=
  match remoteDate known payload now, optionalText payload "description",
    (entryList payload).bind fun items => items.mapM remoteEntry with
  | some occurredAt, some description, some entries =>
    some
      { occurredAt := occurredAt
        description := description
        version := version
        deleted := false
        source := known.bind LocalTransaction.source
        sourceEventFingerprint := known.bind LocalTransaction.sourceEventFingerprint
        entries := entries }
  | _, _, _ => none

/-- `applyRemoteUpsert`. -/
def Device.applyRemoteUpsert (device : Device) (entityId : String) (version : Int)
    (payload : Json) (now : Int) : Option Device :=
  (remoteTransaction (device.transactions.lookup entityId) version payload now).map fun row =>
    { device with transactions := device.transactions.insert entityId row }

/-- `applyRemoteDelete`: an update, which does nothing where there is no row. -/
def Device.applyRemoteDelete (device : Device) (entityId : String) (version : Int) : Device :=
  match device.transactions.lookup entityId with
  | none => device
  | some existing =>
    { device with
      transactions := device.transactions.insert entityId
        { existing with
          deleted := true
          version := version } }

/-- `applyRemoteAccountUpsert`. -/
def Device.applyRemoteAccountUpsert (device : Device) (entityId : String) (payload : Json) :
    Option Device :=
  match (payload.get? "name").bind Json.asStr?, (payload.get? "accountType").bind Json.asStr?,
    optionalText payload "currency", optionalText payload "parentAccountId" with
  | some name, some type, some currency, some parentAccountId =>
    let known := (device.accounts.lookup entityId).bind LocalAccount.parentAccountId
    some { device with
      accounts := device.accounts.insert entityId
        { name := name
          type := type
          currencyCode := currency.getD "CNY"
          parentAccountId :=
            if payload.containsKey "parentAccountId" then parentAccountId else known } }
  | _, _, _, _ => none

end Ledgerly
