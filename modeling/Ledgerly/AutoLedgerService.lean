/-
This file models `AutoLedgerService`: how a captured payment event becomes a transaction, how an
event is recognised in the ledger, and `syncPending`, which drains the native queue of captured
events, next to `PaymentEventStore`, which fills that queue at any moment.

`syncPending` reads the queue, handles one event a round, and clears the queue. It gives the
event loop away between any two of these, so they are steps of their own here.
-/

import Ledgerly.LedgerAppService

namespace Ledgerly

/-! ### Events and their classification -/

/-- `PaymentEvent`, in the native queue as well as on the client. The timestamp is in milliseconds
since the epoch. -/
structure PaymentEvent where
  id : String
  platform : String
  direction : String
  amountMinor : Int
  merchant : Option String
  timestamp : Int
  deriving DecidableEq

/-- `event.occurredAt`, in microseconds. -/
def PaymentEvent.occurredAt (event : PaymentEvent) : Int := event.timestamp * 1000

/-- `MerchantRule`. -/
structure MerchantRule where
  categoryKey : String
  needles : List String

/-- `MerchantClassifier.classify`. -/
def classify [DartText] (rules : List MerchantRule) (merchant : Option String)
    (direction bookId : String) : String :=
  let fallback :=
    if direction = "income" then accountKeyOtherIncome bookId else accountKeyOtherExpense bookId
  match merchant with
  | none => fallback
  | some merchant =>
    if dartTrim merchant = "" then fallback
    else
      let key := DartText.toLowerCase merchant
      match rules.find? fun rule =>
        rule.needles.any fun needle => containsText key (DartText.toLowerCase needle) with
      | some rule => accountId bookId rule.categoryKey
      | none => fallback

/-- `AutoLedgerService.describe`. -/
def PaymentEvent.describe (event : PaymentEvent) (merchant : Option String) : String :=
  let merchantPart := match merchant with
    | none => "未知商户"
    | some merchant => if merchant = "" then "未知商户" else merchant
  platformLabel event.platform ++ " · " ++ merchantPart

/-- `computeFingerprint`. -/
def computeFingerprint [DartText] (direction : String) (amountMinor occurredAt : Int)
    (merchant : Option String) (bookId : String) : String :=
  DartText.sha256 ("|".intercalate
    [direction, decimalText amountMinor, decimalText ((occurredAt.tdiv 1000).tdiv 1000),
      DartText.toLowerCase (dartTrim (merchant.getD "")), bookId])

/-- `_postEvent`. -/
def Device.postEvent [DartText] (device : Device) (rules : List MerchantRule)
    (event : PaymentEvent) (txId newId : String) : Except LedgerError Device :=
  if event.amountMinor ≤ 0 then .error .rejected
  else
    let merchant := event.merchant.map dartTrim
    let categoryId := classify rules merchant event.direction device.bookId
    let header : TransactionHeader :=
      { id := txId
        occurredAt := event.occurredAt
        description := some (event.describe merchant)
        source := some "auto_ledger"
        sourceEventFingerprint := some (computeFingerprint event.direction event.amountMinor
          event.occurredAt merchant device.bookId) }
    if event.direction = "income" then
      device.createIncome header categoryId (accountKeyBank device.bookId) event.amountMinor
        (some event.id) newId
    else
      device.createExpense header categoryId (accountKeyBank device.bookId) event.amountMinor
        (some event.id) newId

/-! ### Summaries -/

/-- `TransactionSummary`: the date is in seconds, as the column keeps it. -/
structure TransactionSummary where
  occurredAt : Int
  description : Option String
  kind : TransactionSummaryKind
  amountMinor : Int

/-- `_absoluteTotal`; an amount that is no number throws. -/
def absoluteTotal (entries : List LocalEntry) : Option Int := do
  let amounts ← entries.mapM fun entry => decimalInt entry.amountMinor
  return amounts.sum.natAbs

/-- The entries on accounts of some types. -/
def Device.entriesOn (device : Device) (entries : List LocalEntry) (types : List String) :
    List LocalEntry :=
  entries.filter fun entry =>
    (device.accounts.lookup entry.accountId).any fun account => account.type ∈ types

/-- `_summarizeTransaction`. -/
def Device.summarizeTransaction (device : Device) (tx : LocalTransaction) :
    Option TransactionSummary := do
  let summary := fun kind (amount : Int) =>
    { occurredAt := tx.occurredAt, description := tx.description, kind := kind,
      amountMinor := amount : TransactionSummary }
  let expenses := device.entriesOn tx.entries ["expense"]
  let incomes := device.entriesOn tx.entries ["income"]
  let balances := device.entriesOn tx.entries ["asset", "liability"]
  if expenses ≠ [] then
    return summary .expense (← absoluteTotal expenses)
  else if incomes ≠ [] then
    return summary .income (← absoluteTotal incomes)
  else if 2 ≤ balances.length then
    let amounts ← balances.mapM fun entry => decimalInt entry.amountMinor
    return summary .transfer (amounts.min?.getD 0).natAbs
  else
    return summary .adjustment (← absoluteTotal tx.entries)

/-- `watchSummariesSync`, over the transactions that began in a window of the date column. -/
def Device.watchSummariesSync (device : Device) (inWindow : Int → Bool) :
    Option (List TransactionSummary) :=
  (device.transactions.values.filter fun tx => !tx.deleted && inWindow tx.occurredAt).mapM
    device.summarizeTransaction

/-- `_dedupWindow`, in microseconds. -/
def dedupWindow : Int := 60000000

/-- `_staleAfter`, in microseconds. -/
def staleAfter : Int := 604800000000

/-- One summary is the one an event would make. -/
def TransactionSummary.matchesEvent [DartText] (tx : TransactionSummary) (event : PaymentEvent) :
    Bool :=
  let description := tx.description.getD ""
  let merchantLower := DartText.toLowerCase (event.merchant.getD "")
  let expectedKind : TransactionSummaryKind :=
    if event.direction = "income" then .income else .expense
  tx.kind = expectedKind && tx.amountMinor = event.amountMinor &&
    (!(event.platform = "wechat" || event.platform = "alipay") ||
      containsText description (platformLabel event.platform)) &&
    (merchantLower = "" || containsText (DartText.toLowerCase description) merchantLower) &&
    (tx.occurredAt * 1000000 - event.occurredAt).natAbs ≤ dedupWindow

/-- `_isDuplicateInLedger`. -/
def Device.isDuplicateInLedger [DartText] (device : Device) (event : PaymentEvent) :
    Option Bool := do
  let window ← device.watchSummariesSync fun occurredAt =>
    dateColumn (event.occurredAt - dedupWindow) ≤ occurredAt &&
      occurredAt < dateColumn (event.occurredAt + dedupWindow)
  return window.any fun tx => tx.matchesEvent event

/-! ### The native queue -/

/-- `MAX_QUEUED`. -/
def maxQueued : Nat := 200

/-- `PaymentEventStore.save`. -/
def PaymentEvent.save (event : PaymentEvent) (queue : List PaymentEvent) : List PaymentEvent :=
  if queue.any fun queued => queued.id = event.id then queue
  else
    let array := queue ++ [event]
    array.drop (array.length - maxQueued)

/-! ### Draining it -/

/-- A call of `syncPending` in its loop. -/
structure Drain where
  remaining : List PaymentEvent
  now : Int
  rules : List MerchantRule

/-- The native queue, and the service with its ledger and the call in progress. -/
structure Capture where
  queue : List PaymentEvent
  device : Device
  seenRawIds : List String
  drain : Option Drain

/-- What a round of the loop comes to. -/
inductive EventHandling where
  | stale
  | seen
  | duplicate
  | posted (device : Device)
  | postingRaised
  | threw

/-- A round of the loop for one event. Posting may raise for reasons outside the model too. -/
def Capture.handle [DartText] (capture : Capture) (drain : Drain) (event : PaymentEvent)
    (txId newId : String) (raises : Bool) : EventHandling :=
  if drain.now - event.occurredAt > staleAfter then .stale
  else if event.id ∈ capture.seenRawIds then .seen
  else
    match capture.device.isDuplicateInLedger event with
    | none => .threw
    | some true => .duplicate
    | some false =>
      if raises then .postingRaised
      else
        match capture.device.postEvent drain.rules event txId newId with
        | .error _ => .postingRaised
        | .ok device => .posted device

/-- What the round leaves behind. -/
def Capture.afterRound (capture : Capture) (next : Drain) (id : String) : EventHandling → Capture
  | .stale | .duplicate =>
    { capture with
      seenRawIds := id :: capture.seenRawIds
      drain := some next }
  | .seen => { capture with drain := some next }
  | .posted device =>
    { capture with
      seenRawIds := id :: capture.seenRawIds
      device := device
      drain := some next }
  -- The id is added before the post and removed again in the `catch`.
  | .postingRaised =>
    { capture with
      seenRawIds := capture.seenRawIds.filter (· ≠ id)
      drain := some next }
  | .threw => { capture with drain := none }

/-- What happens to the queue and the service. -/
inductive CaptureEvent where
  /-- The notification listener saves an event. -/
  | save (event : PaymentEvent)
  /-- `syncPending` is called and reads the queue. -/
  | start (now : Int) (rules : List MerchantRule)
  /-- The loop of the call takes its next event. -/
  | round (txId newId : String) (raises : Bool)
  /-- The call leaves its loop, clears the queue and returns. -/
  | clear
  /-- The call ends with an exception. -/
  | abort
  /-- The process ends, and starts again later. -/
  | restart
  /-- Something else writes the ledger. -/
  | ledger (device : Device)

/-- `clearPendingEvents` comes after the last round of a call. -/
def Capture.Finishes (capture : Capture) : CaptureEvent → Prop
  | .clear => ∃ now rules, capture.drain = some ⟨[], now, rules⟩
  | _ => False

end Ledgerly
