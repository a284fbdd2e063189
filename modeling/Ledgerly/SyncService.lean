/-
This file models `SyncService.syncNow`: the device sends its pending mutations, works through
the receipts, and applies one page of changes.

What happens around a sync is its parameter `Around`: the session, the clocks, the ids that
`newId` gives out, the mutations of other devices that the server processes in between, and
where the network fails. The steps the server takes meanwhile are collected in `served`, in
their order, so that the store after a sync is the run of `pushStep` over them.
-/

import Ledgerly.Library.Partial
import Ledgerly.LedgerRepository
import Ledgerly.Pull

namespace Ledgerly

/-! ### Account ids on the way -/

/-- `_rewriteAccountId`. -/
def rewriteAccountId (id fromBook toBook : String) : String :=
  match stripPrefix id (fromBook ++ ":") with
  | some rest => toBook ++ ":" ++ rest
  | none => if ':' ∈ id.toList then id else toBook ++ ":" ++ id

/-- The rewriting of one entry. -/
def rewriteEntry (fromBook toBook : String) (entry : Json) : Option Json :=
  match entry.get? "accountId" with
  | some (.str id) => some (entry.insert "accountId" (.str (rewriteAccountId id fromBook toBook)))
  | _ => none

/-- `_rewriteTransactionPayload`. -/
def rewriteTransactionPayload (payload : Json) (fromBook toBook : String) : Option Json :=
  match payload with
  | .obj fields => ((entryList (.obj fields)).bind fun items =>
      items.mapM (rewriteEntry fromBook toBook)).map fun entries =>
        (Json.obj fields).insert "entries" (.arr entries)
  | _ => none

/-- `_rewriteAccountPayload`. -/
def rewriteAccountPayload (payload : Json) (fromBook toBook : String) : Option Json :=
  match payload with
  | .obj fields =>
    match (Json.obj fields).get? "parentAccountId" with
    | none => some (.obj fields)
    | some .null => some ((Json.obj fields).insert "parentAccountId" .null)
    | some (.str parent) => some ((Json.obj fields).insert "parentAccountId"
        (.str (rewriteAccountId parent fromBook toBook)))
    | some _ => none
  | _ => none

theorem rewriteTransactionPayload_fits {payload sent : Json} {fromBook toBook : String}
    (made : rewriteTransactionPayload payload fromBook toBook = some sent)
    (fits : payload.arrayLength "entries" ≤ isizeMax) :
    sent.arrayLength "entries" ≤ isizeMax := by
  unfold rewriteTransactionPayload at made
  split at made
  · rename_i fields
    obtain ⟨entries, rewritten, rfl⟩ := Option.map_eq_some_iff.mp made
    obtain ⟨items, listed, each⟩ := Option.bind_eq_some_iff.mp rewritten
    have length : entries.length = items.length := List.length_of_mapM_eq_some each
    have same : items.length = (Json.obj fields).arrayLength "entries" := by
      unfold entryList at listed
      unfold Json.arrayLength
      split at listed <;> rename_i found <;> rw [found]
      · cases listed
        rfl
      · cases listed
        rfl
      · cases listed
        rfl
      · cases listed
    rw [Json.arrayLength, Json.get?_insert_self, Option.bind_some, Json.asArray?_arr,
      Option.getD_some, length, same]
    exact fits
  · cases made

theorem rewriteAccountPayload_fits {payload sent : Json} {fromBook toBook : String}
    (made : rewriteAccountPayload payload fromBook toBook = some sent)
    (fits : payload.arrayLength "entries" ≤ isizeMax) :
    sent.arrayLength "entries" ≤ isizeMax := by
  have inserted : ∀ (payload value : Json),
      (payload.insert "parentAccountId" value).arrayLength "entries" =
        payload.arrayLength "entries" := by
    intro payload value
    rw [Json.arrayLength, Json.get?_insert_of_ne _ _ _ _ (by decide), Json.arrayLength]
  unfold rewriteAccountPayload at made
  split at made
  · split at made
    · cases made
      exact fits
    · cases made
      rwa [inserted]
    · cases made
      rwa [inserted]
    · cases made
  · cases made

/-! ### Sending -/

/-- The payload a pending mutation is sent with. -/
def PendingMutationRow.sentPayload (row : PendingMutationRow) (fromBook toBook : String) :
    Option Json :=
  match row.payload with
  | .obj _ =>
    if row.entityType = "account" then rewriteAccountPayload row.payload fromBook toBook
    else if row.operation = "delete" then some row.payload
    else rewriteTransactionPayload row.payload fromBook toBook
  | _ => none

theorem PendingMutationRow.sentPayload_fits {row : PendingMutationRow} {fromBook toBook : String}
    {payload : Json} (made : row.sentPayload fromBook toBook = some payload) :
    payload.arrayLength "entries" ≤ isizeMax := by
  unfold sentPayload at made
  split at made
  · split at made
    · exact rewriteAccountPayload_fits made row.entriesFit
    · split at made
      · cases made
        exact row.entriesFit
      · exact rewriteTransactionPayload_fits made row.entriesFit
  · cases made

/-- What the server is given for a pending mutation. -/
def PendingMutationRow.step (row : PendingMutationRow) (deviceId fromBook toBook : String)
    (stamp : Stamp) : Option PushStep :=
  match made : row.sentPayload fromBook toBook with
  | none => none
  | some payload =>
    some
      { bookId := toBook
        deviceId := deviceId
        mutation :=
          { mutationId := row.mutationId
            entityType := row.entityType
            entityId := if row.entityType = "account" then
                rewriteAccountId row.entityId fromBook toBook
              else row.entityId
            operation := row.operation
            baseVersion := row.baseVersion
            payload := payload }
        stamp := stamp
        entriesFit := sentPayload_fits made }

/-- What happens around one sync. The natural numbers count the attempts to push, and in an
attempt the mutations sent; `others attempt position` is processed before the mutation at
the position, and an attempt that is `cut` ends after so many mutations without an answer. -/
structure Around where
  session : Option String
  now : Int
  stamp : Nat → Nat → Stamp
  newId : Nat → Nat → String
  others : Nat → Nat → List PushStep
  cut : Nat → Option Nat
  beforePull : List PushStep
  pullAnswered : Bool

/-- The mutations sent, from a position on, among those of other devices. -/
def interleaved (others : Nat → List PushStep) : Nat → List PushStep → List PushStep
  | _, [] => []
  | position, step :: rest =>
    others position ++ step :: interleaved others (position + 1) rest

/-- The receipts of the mutations sent. -/
def receiptsAmong [Rfc3339] (others : Nat → List PushStep) :
    Nat → MemoryStore → List PushStep → List MutationReceiptDto
  | _, _, [] => []
  | position, store, step :: rest =>
    let reached := Machine.run pushStep store (others position)
    pushReceipt reached step ::
      receiptsAmong others (position + 1) (pushStep reached step) rest

/-! ### Receipts -/

/-- The codes after which a mutation is given up as a conflict. -/
def conflictCodes : List String :=
  ["LEDGER_VERSION_CONFLICT", "LEDGER_UNBALANCED", "UNSUPPORTED_MUTATION", "INVALID_PAYLOAD"]

/-- `rejectedCategoryEntityIds`. -/
def rejectedCategories (pending : List PendingMutationRow)
    (receipts : List MutationReceiptDto) : List String :=
  (receipts.filter fun receipt => receipt.resultCode = "INVALID_CATEGORY_PARENT").filterMap
    fun receipt =>
      (pending.find? fun row =>
        row.mutationId = receipt.mutationId && row.entityType = "account").map
          PendingMutationRow.entityId

/-- The body of the loop over the receipts; `none` is the throw. -/
def Device.handleReceipt (device : Device) (pending : List PendingMutationRow)
    (rejected : List String) (newId : String) (receipt : MutationReceiptDto) : Option Device :=
  match pending.find? fun row => row.mutationId = receipt.mutationId with
  | none => none
  | some pendingRow =>
    if receipt.status = "applied" then some (device.removePending receipt.mutationId)
    else if receipt.resultCode = "INVALID_CATEGORY_PARENT" ∧ pendingRow.entityType = "account" then
      device.retryCategoryMutationAsRoot receipt.mutationId newId
    else if receipt.resultCode = "ACCOUNT_NOT_FOUND" ∧ pendingRow.entityType = "account" ∧
        pendingRow.entityId ∈ rejected then
      device.retryCategoryMutationAsRoot receipt.mutationId newId
    else if receipt.resultCode = "ACCOUNT_NOT_FOUND" ∧ rejected ≠ [] ∧
        pendingRow.entityType = "transaction" then
      device.renewPendingMutation receipt.mutationId newId
    else if receipt.resultCode ∈ conflictCodes then
      (device.addConflict newId pendingRow receipt.resultCode receipt.entityVersion).map
        fun recorded => recorded.removePending receipt.mutationId
    else none

/-- The loop over the receipts. A throw leaves what the receipts before it have done. -/
def Device.handleReceipts (pending : List PendingMutationRow) (rejected : List String)
    (newId : Nat → String) : Nat → Device → List MutationReceiptDto → Except Device Device
  | _, device, [] => .ok device
  | position, device, receipt :: rest =>
    match device.handleReceipt pending rejected (newId position) receipt with
    | none => .error device
    | some handled => handleReceipts pending rejected newId (position + 1) handled rest

/-- One attempt to push: the steps of the server meanwhile, the receipts the device gets, and
the device, or the device at a throw. -/
structure PushAttempt where
  served : List PushStep
  receipts : List MutationReceiptDto
  result : Except Device Device

/-- The body of the loop of `syncNow` over `pushAttempt`. -/
def Device.pushAttempt [Rfc3339] (device : Device) (remoteBookId : String) (around : Around)
    (attempt : Nat) (store : MemoryStore) : PushAttempt :=
  match device.pending.zipIdx.mapM fun row =>
      row.1.step device.deviceId device.bookId remoteBookId (around.stamp attempt row.2) with
  | none => ⟨[], [], .error device⟩
  | some steps =>
    match around.cut attempt with
    | some count =>
      ⟨interleaved (around.others attempt) 0 (steps.take count), [], .error device⟩
    | none =>
      let receipts := receiptsAmong (around.others attempt) 0 store steps
      ⟨interleaved (around.others attempt) 0 steps, receipts,
        Device.handleReceipts device.pending (rejectedCategories device.pending receipts)
          (around.newId attempt) 0 device receipts⟩

/-- The loop of `syncNow` over two attempts to push. -/
def Device.pushPending [Rfc3339] (device : Device) (remoteBookId : String) (around : Around)
    (store : MemoryStore) : List PushStep × Except Device Device :=
  if device.pending = [] then ([], .ok device)
  else
    let first := device.pushAttempt remoteBookId around 0 store
    match first.result with
    | .error thrown => (first.served, .error thrown)
    | .ok pushed =>
      if pushed.pending = [] then (first.served, .ok pushed)
      else
        let second := pushed.pushAttempt remoteBookId around 1
          (Machine.run pushStep store first.served)
        match second.result with
        | .error thrown => (first.served ++ second.served, .error thrown)
        | .ok again =>
          (first.served ++ second.served,
            if again.pending = [] then .ok again else .error again)

/-! ### Pulling -/

/-- The body of the loop over the pulled changes; `none` is the throw. -/
def Device.applyChange (device : Device) (remoteBookId : String) (now : Int)
    (change : ChangeRecord) : Option Device :=
  if change.entityType = "account" ∧ change.operation = "upsert" then
    (rewriteAccountPayload change.payload remoteBookId device.bookId).bind fun payload =>
      device.applyRemoteAccountUpsert
        (rewriteAccountId change.entityId remoteBookId device.bookId) payload
  else if change.entityType ≠ "transaction" then some device
  else if change.operation = "upsert" then
    (rewriteTransactionPayload change.payload remoteBookId device.bookId).bind fun payload =>
      device.applyRemoteUpsert change.entityId change.entityVersion payload now
  else if change.operation = "delete" then
    some (device.applyRemoteDelete change.entityId change.entityVersion)
  else some device

/-- The loop over the pulled changes. -/
def Device.applyChanges (remoteBookId : String) (now : Int) :
    Device → List ChangeRecord → Except Device Device
  | device, [] => .ok device
  | device, change :: rest =>
    match device.applyChange remoteBookId now change with
    | none => .error device
    | some applied => applyChanges remoteBookId now applied rest

/-- The outcome of a sync: the steps of the server meanwhile, the device, and whether the
result says ok. -/
structure SyncRun where
  served : List PushStep
  device : Device
  ok : Bool

/-- The second half of `syncNow`, from the pull on. -/
def Device.pullChanges [Rfc3339] (device : Device) (remoteBookId : String) (cursor : Int)
    (around : Around) (store : MemoryStore) : Device × Bool :=
  if around.pullAnswered then
    let pull := pullMem store remoteBookId cursor (some 500)
    match device.applyChanges remoteBookId around.now pull.changes with
    | .error thrown => (thrown, false)
    | .ok applied => ({ applied with cursor := pull.nextCursor }, true)
  else (device, false)

/-- `syncNow` of a device that is bound to the remote book. -/
def Device.syncBound [Rfc3339] (device : Device) (remoteBookId : String) (cursor : Int)
    (around : Around) (store : MemoryStore) : SyncRun :=
  match device.pushPending remoteBookId around store with
  | (served, .error thrown) => ⟨served, thrown, false⟩
  | (served, .ok pushed) =>
    let pulled := pushed.pullChanges remoteBookId cursor around
      (Machine.run pushStep store (served ++ around.beforePull))
    ⟨served ++ around.beforePull, pulled.1, pulled.2⟩

/-- `syncNow`. -/
def Device.syncNow [Rfc3339] (device : Device) (around : Around) (store : MemoryStore) : SyncRun :=
  match around.session with
  | none => ⟨[], device, false⟩
  | some remoteBookId =>
    match device.remoteBookId with
    | none => ({ device with
        remoteBookId := some remoteBookId
        cursor := 0 } : Device).syncBound remoteBookId 0 around store
    | some bound =>
      if bound ≠ remoteBookId then ⟨[], device, false⟩
      else device.syncBound remoteBookId device.cursor around store

end Ledgerly
