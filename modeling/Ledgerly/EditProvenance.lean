/-
This file follows the queued create of a captured payment through the edits of its transaction.

An edit builds a new transaction of the domain from its arguments, which carries no source and
no fingerprint, and writes it over the local row and over the payload of the pending create. The
columns of the row stay, those of the payload are lost. So what is pushed tells the server where
the transaction comes from exactly if no edit has been taken in, and which edits are taken in
can be read off their arguments: as long as the create is as it was queued, the row still has its
first version.
-/

import Ledgerly.KeptTransaction
import Ledgerly.AutoLedgerCapture

namespace Ledgerly

/-! ### The edits of the service -/

/-- The arguments that the three edits share, with the id that `newId` gives. -/
structure EditArguments where
  transactionId : String
  occurredAt : Int
  version : Int
  amountMinor : Int
  description : Option String
  mutationId : String

/-- The header of the transaction that an edit builds: no source and no fingerprint is given. -/
def EditArguments.header (arguments : EditArguments) : TransactionHeader where
  id := arguments.transactionId
  occurredAt := arguments.occurredAt
  description := arguments.description
  source := none
  sourceEventFingerprint := none

theorem neg_amount_nonzero {amount : Int} (nonzero : amount ≠ 0) : -amount ≠ 0 :=
  Int.neg_ne_zero.mpr nonzero

/-- `TransactionFactory.transfer`, for an amount of `CNY`. -/
def TransactionHeader.transfer (header : TransactionHeader) (source target : DomainAccount)
    (amount : Int) : Option LedgerTransaction :=
  if nonzero : amount ≠ 0 then
    if source.id = target.id then none
    else if source.currency ≠ "CNY" ∨ target.currency ≠ "CNY" then none
    else some (header.move source.id target.id (-amount) (neg_amount_nonzero nonzero))
  else none

/-- One call of an edit of the service. -/
inductive TransactionEdit where
  | expense (arguments : EditArguments) (expenseAccountId fundingAccountId : String)
  | income (arguments : EditArguments) (incomeAccountId depositAccountId : String)
  | transfer (arguments : EditArguments) (fromAccountId toAccountId : String)

/-- What an edit of any kind is called with. -/
def TransactionEdit.arguments : TransactionEdit → EditArguments
  | .expense arguments _ _ => arguments
  | .income arguments _ _ => arguments
  | .transfer arguments _ _ => arguments

section Service

variable [DartText]

/-- The transaction an edit builds, if the accounts are known and the factory accepts them. -/
def TransactionEdit.built (device : Device) : TransactionEdit → Option LedgerTransaction
  | .expense arguments expenseAccountId fundingAccountId => do
    let expense ← device.domainAccount expenseAccountId
    let funding ← device.domainAccount fundingAccountId
    arguments.header.expense expense funding arguments.amountMinor
  | .income arguments incomeAccountId depositAccountId => do
    let income ← device.domainAccount incomeAccountId
    let deposit ← device.domainAccount depositAccountId
    arguments.header.income income deposit arguments.amountMinor
  | .transfer arguments fromAccountId toAccountId => do
    let source ← device.domainAccount fromAccountId
    let target ← device.domainAccount toAccountId
    arguments.header.transfer source target arguments.amountMinor

/-- `updateExpense`, `updateIncome` and `updateTransfer`: `none` is a throw. -/
def Device.edit (device : Device) (edit : TransactionEdit) : Option Device :=
  (edit.built device).bind fun tx =>
    device.updateDomainTransaction tx edit.arguments.version edit.arguments.mutationId

/-- The device after an edit: one that throws leaves it alone. -/
def Device.afterEdit (device : Device) (edit : TransactionEdit) : Device :=
  (device.edit edit).getD device

/-- An edit of a transaction as it was saved, with accounts that the factory accepts. -/
def TransactionEdit.Rewrites (edit : TransactionEdit) (tx : LedgerTransaction)
    (device : Device) : Prop :=
  edit.arguments.transactionId = tx.id ∧ edit.arguments.version = tx.version ∧
    (edit.built device).isSome = true

end Service

/-- The local row of a transaction has a source and a fingerprint, and the create that is sent for
it carries the same two. -/
structure Device.SendsProvenance (device : Device) (id remoteBookId : String)
    (source fingerprint : Option String) : Prop where
  row : ∃ row, device.transactions.lookup id = some row ∧ row.source = source ∧
    row.sourceEventFingerprint = fingerprint
  create : ∃ row ∈ device.pending, row.Creates id ∧
    ∃ payload, row.sentPayload device.bookId remoteBookId = some payload ∧
      payload.get? "source" = some (.ofOption source) ∧
      payload.get? "sourceEventFingerprint" = some (.ofOption fingerprint)

/-! ### What an edit builds -/

section Built

variable {device other : Device} {edit : TransactionEdit} {tx : LedgerTransaction}

theorem TransactionHeader.expense_eq_some {header : TransactionHeader} {first second : DomainAccount}
    {amount : Int} (made : header.expense first second amount = some tx) :
    tx.id = header.id ∧ tx.source = header.source := by
  unfold expense at made
  split_ifs at made
  obtain rfl := Option.some.inj made
  exact ⟨rfl, rfl⟩

theorem TransactionHeader.income_eq_some {header : TransactionHeader} {first second : DomainAccount}
    {amount : Int} (made : header.income first second amount = some tx) :
    tx.id = header.id ∧ tx.source = header.source := by
  unfold income at made
  split_ifs at made
  obtain rfl := Option.some.inj made
  exact ⟨rfl, rfl⟩

theorem TransactionHeader.transfer_eq_some {header : TransactionHeader}
    {first second : DomainAccount} {amount : Int}
    (made : header.transfer first second amount = some tx) :
    tx.id = header.id ∧ tx.source = header.source := by
  unfold transfer at made
  split_ifs at made
  obtain rfl := Option.some.inj made
  exact ⟨rfl, rfl⟩

variable [DartText]

/-- A transaction that an edit builds has the id of the arguments and no source. -/
theorem TransactionEdit.built_eq_some (made : edit.built device = some tx) :
    tx.id = edit.arguments.transactionId ∧ tx.source = none := by
  cases edit with
  | expense arguments first second =>
    obtain ⟨_, -, made⟩ := Option.bind_eq_some_iff.mp made
    obtain ⟨_, -, made⟩ := Option.bind_eq_some_iff.mp made
    exact TransactionHeader.expense_eq_some made
  | income arguments first second =>
    obtain ⟨_, -, made⟩ := Option.bind_eq_some_iff.mp made
    obtain ⟨_, -, made⟩ := Option.bind_eq_some_iff.mp made
    exact TransactionHeader.income_eq_some made
  | transfer arguments first second =>
    obtain ⟨_, -, made⟩ := Option.bind_eq_some_iff.mp made
    obtain ⟨_, -, made⟩ := Option.bind_eq_some_iff.mp made
    exact TransactionHeader.transfer_eq_some made

/-- What an edit builds depends on the accounts of the device only. -/
theorem TransactionEdit.built_congr (sameAccounts : device.accounts = other.accounts)
    (edit : TransactionEdit) : edit.built device = edit.built other := by
  have each : ∀ id, device.domainAccount id = other.domainAccount id := by
    intro id
    rw [Device.domainAccount, Device.domainAccount, sameAccounts]
  cases edit <;> simp only [built, each]

end Built

/-! ### The queue under an edit -/

/-- The device holds a transaction whose create is still pending: the row, and the only create of
it in the queue. -/
structure Device.HoldsCreate (accounts : KeyMap String LocalAccount) (id : String)
    (source fingerprint : Option String) (version : Int) (payload : Json) (device : Device) :
    Prop where
  sound : device.QueueSound
  accounts : device.accounts = accounts
  row : ∃ row, device.transactions.lookup id = some row ∧ row.deleted = false ∧
    row.version = version ∧ row.source = source ∧ row.sourceEventFingerprint = fingerprint
  create : ∃ row, device.pending.filter (fun row => row.Creates id) = [row] ∧
    row.payload = payload

section Queue

variable {accounts : KeyMap String LocalAccount} {id : String} {source fingerprint : Option String}
  {version : Int} {payload : Json} {device after : Device} {tx : LedgerTransaction}
  {mutationId : String}

/-- The row with the payload of an update, if it is the one with the mutation id. -/
def PendingMutationRow.overwritten (mutationId : String) (tx : LedgerTransaction)
    (row : PendingMutationRow) : PendingMutationRow :=
  if row.mutationId = mutationId then
    { row with
      payload := tx.updatePayload
      entriesFit := tx.updatePayload_fits }
  else row

theorem PendingMutationRow.overwritten_creates (row : PendingMutationRow) :
    (row.overwritten mutationId tx).Creates id ↔ row.Creates id := by
  unfold overwritten
  split <;> exact Iff.rfl

theorem filter_overwritten (rows : List PendingMutationRow) :
    (rows.map (PendingMutationRow.overwritten mutationId tx)).filter (fun row => row.Creates id) =
      (rows.filter fun row => row.Creates id).map
        (PendingMutationRow.overwritten mutationId tx) := by
  rw [List.filter_map]
  refine congrArg _ (List.filter_congr fun row _ => ?_)
  exact decide_eq_decide.mpr row.overwritten_creates

/-- The only pending create of a transaction. -/
theorem mem_of_filter_eq_singleton {rows : List PendingMutationRow} {create : PendingMutationRow}
    (only : rows.filter (fun row => row.Creates id) = [create]) :
    create ∈ rows ∧ create.Creates id := by
  have member : create ∈ rows.filter fun row => row.Creates id := by
    rw [only]
    exact List.mem_singleton_self create
  obtain ⟨inRows, creates⟩ := List.mem_filter.mp member
  exact ⟨inRows, of_decide_eq_true creates⟩

/-- An edit of the transaction writes its payload over the pending create. -/
theorem Device.HoldsCreate.update (holds : device.HoldsCreate accounts tx.id source fingerprint
      version payload) (mutationId : String) :
    ∃ after, device.updateDomainTransaction tx version mutationId = some after ∧
      after.HoldsCreate accounts tx.id source fingerprint (version + 1) tx.updatePayload := by
  obtain ⟨sound, sameAccounts, ⟨row, found, live, isVersion, isSource, isFingerprint⟩, create, only,
    -⟩ := holds
  have updated : device.updateDomainTransaction tx version mutationId = some
      { device with
        transactions := device.transactions.insert tx.id
          { row with
            occurredAt := dateColumn tx.occurredAt
            description := tx.description
            version := row.version + 1
            entries := tx.localEntries }
        pending := device.pending.map (PendingMutationRow.overwritten create.mutationId tx) } := by
    rw [updateDomainTransaction, found]
    dsimp only
    rw [if_neg (by simp [live, isVersion]), only]
    rfl
  refine ⟨_, updated, sound.act (show device.act (.update tx version mutationId) = _ from updated),
    sameAccounts, ⟨_, AList.lookup_insert _, live, ?_, isSource, isFingerprint⟩,
    create.overwritten create.mutationId tx, ?_, ?_⟩
  · dsimp only
    rw [isVersion]
  · dsimp only
    rw [filter_overwritten, only, List.map_singleton]
  · rw [PendingMutationRow.overwritten, if_pos rfl]

/-- An edit of another transaction leaves the pending create alone. -/
theorem Device.HoldsCreate.updateOther (holds : device.HoldsCreate accounts id source fingerprint
      version payload) (other : tx.id ≠ id) {baseVersion : Int}
    (updated : device.updateDomainTransaction tx baseVersion mutationId = some after) :
    after.HoldsCreate accounts id source fingerprint version payload := by
  obtain ⟨sound, sameAccounts, ⟨row, found, isRow⟩, create, only, isPayload⟩ := holds
  have afterSound := sound.act (show device.act (.update tx baseVersion mutationId) = _ from updated)
  unfold updateDomainTransaction at updated
  split at updated
  · cases updated
  · split at updated
    · cases updated
    · dsimp only at updated
      split at updated
      · obtain ⟨-, rfl⟩ := Device.queue_eq_some updated
        refine ⟨afterSound, sameAccounts, ⟨row, ?_, isRow⟩, create, ?_, isPayload⟩
        · exact (AList.lookup_insert_ne other.symm).trans found
        · dsimp only
          rw [List.filter_append, only, List.filter_cons_of_neg, List.filter_nil, List.append_nil]
          simp [PendingMutationRow.Creates]
      · rename_i otherCreate onlyOther
        obtain rfl := Option.some.inj updated
        refine ⟨afterSound, sameAccounts, ⟨row, ?_, isRow⟩, create, ?_, isPayload⟩
        · exact (AList.lookup_insert_ne other.symm).trans found
        · have different : create.mutationId ≠ otherCreate.mutationId := by
            intro same
            obtain ⟨createMember, creates⟩ := mem_of_filter_eq_singleton only
            obtain ⟨otherMember, otherCreates⟩ := mem_of_filter_eq_singleton onlyOther
            obtain rfl := List.inj_on_of_nodup_map sound.distinct createMember otherMember same
            exact other (otherCreates.2.1.symm.trans creates.2.1)
          show (device.pending.map (PendingMutationRow.overwritten otherCreate.mutationId tx)).filter
            (fun row => row.Creates id) = [create]
          rw [filter_overwritten, only, List.map_singleton, PendingMutationRow.overwritten,
            if_neg different]
      · cases updated

/-- An edit with another version throws. -/
theorem Device.HoldsCreate.updateStale (holds : device.HoldsCreate accounts tx.id source fingerprint
      version payload) {baseVersion : Int} (stale : baseVersion ≠ version) :
    device.updateDomainTransaction tx baseVersion mutationId = none := by
  obtain ⟨row, found, -, isVersion, -⟩ := holds.row
  rw [updateDomainTransaction, found]
  dsimp only
  rw [if_pos]
  rw [isVersion]
  exact Or.inr stale.symm

/-- What an edit does to a transaction whose create is pending: one that has the version of the row
and builds a transaction writes its payload over that of the create, any other leaves both. -/
theorem Device.HoldsCreate.afterEdit [DartText] (holds : device.HoldsCreate accounts id source
      fingerprint version payload) (edit : TransactionEdit) :
    (∃ tx, edit.arguments.transactionId = id ∧ edit.arguments.version = version ∧
      edit.built device = some tx ∧ (device.afterEdit edit).HoldsCreate accounts id source
        fingerprint (version + 1) tx.updatePayload) ∨
    ¬(edit.arguments.transactionId = id ∧ edit.arguments.version = version ∧
        (edit.built device).isSome = true) ∧
      (device.afterEdit edit).HoldsCreate accounts id source fingerprint version payload := by
  cases built : edit.built device with
  | none =>
    refine Or.inr ⟨fun rewrites => absurd rewrites.2.2 (by simp), ?_⟩
    rw [Device.afterEdit, Device.edit, built]
    exact holds
  | some tx =>
    obtain ⟨isId, -⟩ := TransactionEdit.built_eq_some built
    have edited : device.edit edit =
        device.updateDomainTransaction tx edit.arguments.version edit.arguments.mutationId := by
      rw [Device.edit, built, Option.bind_some]
    rw [Device.afterEdit, edited, ← isId]
    by_cases ofId : tx.id = id
    · subst ofId
      by_cases current : edit.arguments.version = version
      · obtain ⟨after, updated, kept⟩ := holds.update edit.arguments.mutationId
        refine Or.inl ⟨tx, rfl, current, rfl, ?_⟩
        rw [current, updated]
        exact kept
      · refine Or.inr ⟨fun rewrites => current rewrites.2.1, ?_⟩
        rw [holds.updateStale current]
        exact holds
    · refine Or.inr ⟨fun rewrites => ofId rewrites.1, ?_⟩
      cases updated : device.updateDomainTransaction tx edit.arguments.version
          edit.arguments.mutationId with
      | none => exact holds
      | some after => exact holds.updateOther ofId updated

end Queue

/-! ### Runs of edits -/

section Runs

variable [DartText] {accounts : KeyMap String LocalAccount} {id : String}
  {source fingerprint : Option String} {version : Int} {payload : Json} {device : Device}

/-- The create has been written over by an edit. -/
def Device.HoldsEdited (accounts : KeyMap String LocalAccount) (id : String)
    (source fingerprint : Option String) (device : Device) : Prop :=
  ∃ version, ∃ tx : LedgerTransaction, tx.source = none ∧
    device.HoldsCreate accounts id source fingerprint version tx.updatePayload

theorem Device.HoldsEdited.afterEdit (holds : device.HoldsEdited accounts id source fingerprint)
    (edit : TransactionEdit) :
    (device.afterEdit edit).HoldsEdited accounts id source fingerprint := by
  obtain ⟨version, tx, noSource, holds⟩ := holds
  obtain ⟨next, -, -, built, after⟩ | ⟨-, after⟩ := holds.afterEdit edit
  · exact ⟨version + 1, next, (TransactionEdit.built_eq_some built).2, after⟩
  · exact ⟨version, tx, noSource, after⟩

theorem Device.HoldsEdited.run (holds : device.HoldsEdited accounts id source fingerprint)
    (edits : List TransactionEdit) :
    (Machine.run Device.afterEdit device edits).HoldsEdited accounts id source fingerprint := by
  induction edits generalizing device with
  | nil => exact holds
  | cons edit rest inductionHypothesis => exact inductionHypothesis (holds.afterEdit edit)

/-- A run of edits leaves the create as it was queued, or one of the edits has written over it. -/
theorem Device.HoldsCreate.run {saved : Device} {tx : LedgerTransaction}
    (holds : device.HoldsCreate saved.accounts tx.id source fingerprint tx.version payload)
    (edits : List TransactionEdit) :
    (∀ edit ∈ edits, ¬edit.Rewrites tx saved) ∧
        (Machine.run Device.afterEdit device edits).HoldsCreate saved.accounts tx.id source
          fingerprint tx.version payload ∨
      (∃ edit ∈ edits, edit.Rewrites tx saved) ∧
        (Machine.run Device.afterEdit device edits).HoldsEdited saved.accounts tx.id source
          fingerprint := by
  induction edits generalizing device with
  | nil => exact Or.inl ⟨fun _ member => absurd member List.not_mem_nil, holds⟩
  | cons edit rest inductionHypothesis =>
    have sameBuilt := TransactionEdit.built_congr holds.accounts edit
    obtain ⟨next, ofId, current, built, after⟩ | ⟨refused, after⟩ := holds.afterEdit edit
    · refine Or.inr ⟨⟨edit, List.mem_cons_self, ofId, current, ?_⟩, ?_⟩
      · rw [← sameBuilt, built]
        rfl
      · exact Device.HoldsEdited.run ⟨_, next, (TransactionEdit.built_eq_some built).2, after⟩ rest
    · have notThis : ¬edit.Rewrites tx saved := by
        rw [TransactionEdit.Rewrites, ← sameBuilt]
        exact refused
      obtain ⟨none, kept⟩ | ⟨⟨later, member, rewrites⟩, edited⟩ := inductionHypothesis after
      · exact Or.inl ⟨List.forall_mem_cons.mpr ⟨notThis, none⟩, kept⟩
      · exact Or.inr ⟨⟨later, List.mem_cons_of_mem _ member, rewrites⟩, edited⟩

end Runs

/-! ### What is sent -/

section Sent

variable {id localBook remoteBook : String} {source fingerprint : Option String}
  {device saved : Device} {tx : LedgerTransaction} {row : PendingMutationRow}

/-- A pending create is sent with the account ids of the server, and else as it is. -/
theorem PendingMutationRow.Creates.sentPayload (creates : row.Creates id)
    (carries : row.payload.Carries tx) :
    row.sentPayload localBook remoteBook = some (row.payload.insert "entries"
      (.arr (tx.entries.map (DomainEntry.sentJson localBook remoteBook)))) := by
  obtain ⟨isTransaction, -, isCreate⟩ := creates
  obtain ⟨fields, isObject⟩ := Json.exists_obj_of_get? carries.entries
  rw [PendingMutationRow.sentPayload, isTransaction, if_neg (by decide), isCreate,
    if_neg (by decide), rewriteTransactionPayload_of_carries localBook remoteBook carries, isObject]

theorem LedgerTransaction.createPayload_source (tx : LedgerTransaction)
    (fingerprint : Option String) :
    (tx.createPayload fingerprint).get? "source" = some (.ofOption tx.source) ∧
      (tx.createPayload fingerprint).get? "sourceEventFingerprint" =
        some (.ofOption (fingerprint.or tx.sourceEventFingerprint)) := by
  constructor <;> simp [createPayload, Json.get?, List.lookup_cons]

theorem LedgerTransaction.updatePayload_source (tx : LedgerTransaction) :
    tx.updatePayload.get? "source" = some (.ofOption tx.source) := by
  simp [updatePayload, Json.get?, List.lookup_cons]

/-- A transaction that is new to the device is held with its create. -/
theorem Device.HoldsCreate.ofSave (sound : device.QueueSound)
    (fresh : ∀ row ∈ device.pending, row.entityId ≠ tx.id) {mutationId : String}
    (isSaved : device.saveDomainTransaction tx mutationId fingerprint = some saved) :
    saved.HoldsCreate saved.accounts tx.id tx.source (fingerprint.or tx.sourceEventFingerprint)
      tx.version (tx.createPayload fingerprint) := by
  have savedSound := sound.save isSaved
  unfold Device.saveDomainTransaction at isSaved
  split at isSaved
  · cases isSaved
  · obtain ⟨-, rfl⟩ := Device.queue_eq_some isSaved
    have noOther : device.pending.filter (fun row => row.Creates tx.id) = [] := by
      rw [List.filter_eq_nil_iff]
      intro row member creates
      exact fresh row member (of_decide_eq_true creates).2.1
    have only : ∀ row : PendingMutationRow, row.Creates tx.id →
        (device.pending ++ [row]).filter (fun row => row.Creates tx.id) = [row] := by
      intro row creates
      rw [List.filter_append, noOther, List.nil_append]
      simp [creates]
    exact ⟨savedSound, rfl, ⟨_, AList.lookup_insert _, rfl, rfl, rfl, rfl⟩, _,
      only _ ⟨rfl, rfl, rfl⟩, rfl⟩

/-- A create that is as it was queued sends the source and the fingerprint. -/
theorem Device.HoldsCreate.sends {version : Int}
    (holds : device.HoldsCreate saved.accounts tx.id tx.source
      (fingerprint.or tx.sourceEventFingerprint) version (tx.createPayload fingerprint)) :
    device.SendsProvenance tx.id remoteBook tx.source
      (fingerprint.or tx.sourceEventFingerprint) := by
  obtain ⟨-, -, ⟨row, found, -, -, isSource, isFingerprint⟩, create, only, isPayload⟩ := holds
  obtain ⟨member, creates⟩ := mem_of_filter_eq_singleton only
  have carries : create.payload.Carries tx := by
    rw [isPayload]
    exact tx.createPayload_carries fingerprint
  obtain ⟨sentSource, sentFingerprint⟩ := tx.createPayload_source fingerprint
  refine ⟨⟨row, found, isSource, isFingerprint⟩, create, member, creates, _,
    creates.sentPayload carries, ?_, ?_⟩
  · rw [Json.get?_insert_of_ne _ _ _ _ (by decide), isPayload, sentSource]
  · rw [Json.get?_insert_of_ne _ _ _ _ (by decide), isPayload, sentFingerprint]

/-- Every create that is sent after an edit has no source, and the server sees no captured payment
in it. -/
theorem Device.HoldsEdited.sent (holds : device.HoldsEdited saved.accounts id source fingerprint)
    (member : row ∈ device.pending) (creates : row.Creates id) :
    ∃ payload, row.sentPayload localBook remoteBook = some payload ∧
      payload.get? "source" = some .null ∧ payload.Uncaptured := by
  obtain ⟨version, tx, noSource, holds⟩ := holds
  obtain ⟨create, only, isPayload⟩ := holds.create
  have isCreate : row = create := by
    have among : row ∈ device.pending.filter fun row => row.Creates id :=
      List.mem_filter.mpr ⟨member, decide_eq_true creates⟩
    rw [only] at among
    exact List.mem_singleton.mp among
  subst isCreate
  have carries : row.payload.Carries tx := by
    rw [isPayload]
    exact tx.updatePayload_carries
  refine ⟨_, creates.sentPayload carries, ?_, ?_⟩
  · rw [Json.get?_insert_of_ne _ _ _ _ (by decide), isPayload, tx.updatePayload_source, noSource]
    rfl
  · rw [isPayload]
    exact tx.updatePayload_uncaptured.insertEntries _

end Sent

/-- For every transaction that is saved with a source, under an id that is new to the queue, and for
every sequence of edits of any transactions: the create that is pushed in the end tells the source
and the fingerprint of the capture and of the row exactly if no edit of the sequence is one of the
transaction in its first version with accounts that the factory accepts. After one that is, the
server never sees a captured payment in it. -/
theorem provenance_sent_iff [DartText] {device saved : Device} {tx : LedgerTransaction}
    {mutationId source : String} {fingerprint : Option String} (sound : device.QueueSound)
    (fresh : ∀ row ∈ device.pending, row.entityId ≠ tx.id)
    (isSaved : device.saveDomainTransaction tx mutationId fingerprint = some saved)
    (isSource : tx.source = some source) (edits : List TransactionEdit) (remoteBook : String) :
    let edited := Machine.run Device.afterEdit saved edits
    (edited.SendsProvenance tx.id remoteBook tx.source
        (fingerprint.or tx.sourceEventFingerprint) ↔ ∀ edit ∈ edits, ¬edit.Rewrites tx saved) ∧
    ((∃ edit ∈ edits, edit.Rewrites tx saved) →
      ∀ row ∈ edited.pending, row.Creates tx.id →
        ∃ payload, row.sentPayload edited.bookId remoteBook = some payload ∧ payload.Uncaptured) := by
  intro edited
  rcases (Device.HoldsCreate.ofSave sound fresh isSaved).run edits with
    ⟨none, kept⟩ | ⟨⟨edit, member, rewrites⟩, lost⟩
  · refine ⟨iff_of_true kept.sends none, fun ⟨edit, member, rewrites⟩ => ?_⟩
    exact absurd rewrites (none edit member)
  · refine ⟨iff_of_false (fun sends => ?_) fun none => none edit member rewrites, fun _ => ?_⟩
    · obtain ⟨row, inQueue, creates, payload, sent, hasSource, -⟩ := sends.create
      obtain ⟨other, alsoSent, noSource, -⟩ := lost.sent inQueue creates
      obtain rfl := Option.some.inj (sent.symm.trans alsoSent)
      rw [isSource, noSource] at hasSource
      cases Option.some.inj hasSource
    · intro row inQueue creates
      obtain ⟨payload, sent, -, uncaptured⟩ := lost.sent inQueue creates
      exact ⟨payload, sent, uncaptured⟩

/-- The device after it has posted a captured lunch. -/
def lunchCaptured : Device :=
  ((@Device.postEvent asciiText walletDevice [] (lunchPayment 1) "t1" "m1").toOption).getD
    walletDevice

/-- An edit of the lunch. -/
def lunchEdit (version : Int) : TransactionEdit :=
  .expense ⟨"t1", 1000000, version, 3600, none, "m2"⟩ "book:acc_other_expense" "book:acc_bank"

/-- A create that is pushed after an edit that is refused. -/
theorem refused_edit_keeps_source :
    ∃ saved, walletDevice.saveDomainTransaction (lunchOf "t1" (some "auto_ledger") (some "f1")) "m1"
        none = some saved ∧
      (Machine.run (@Device.afterEdit asciiText) saved [lunchEdit 2]).SendsProvenance "t1" "cloud"
        (some "auto_ledger") (some "f1") := by
  obtain ⟨saved, isSaved⟩ : ∃ saved, walletDevice.saveDomainTransaction
      (lunchOf "t1" (some "auto_ledger") (some "f1")) "m1" none = some saved := ⟨_, rfl⟩
  refine ⟨saved, isSaved, ((@provenance_sent_iff asciiText walletDevice saved
    (lunchOf "t1" (some "auto_ledger") (some "f1")) "m1" "auto_ledger" none
    (Device.initial_queueSound _ _ _) (fun _ member => absurd member List.not_mem_nil) isSaved rfl
    [lunchEdit 2] "cloud").1).mpr ?_⟩
  intro edit member rewrites
  rw [List.mem_singleton.mp member] at rewrites
  exact absurd rewrites.2.1 (by decide)

/-- A captured lunch is edited, and its create no longer says where it comes from. -/
theorem edited_lunch_loses_source :
    @Device.postEvent asciiText walletDevice [] (lunchPayment 1) "t1" "m1" = .ok lunchCaptured ∧
    ∃ row, lunchCaptured.transactions.lookup "t1" = some row ∧ row.source = some "auto_ledger" ∧
      row.sourceEventFingerprint.isSome = true ∧
      ¬(Machine.run (@Device.afterEdit asciiText) lunchCaptured [lunchEdit 1]).SendsProvenance "t1"
        "cloud" row.source row.sourceEventFingerprint := by
  have silent : ∀ row ∈ (Machine.run (@Device.afterEdit asciiText) lunchCaptured
      [lunchEdit 1]).pending, ((row.sentPayload "book" "cloud").bind
        (fun payload => payload.get? "source")).bind Json.asStr? = none := by
    decide +kernel
  refine ⟨rfl, _, rfl, rfl, rfl, fun sends => ?_⟩
  obtain ⟨row, member, -, payload, sent, source, -⟩ := sends.create
  have none := silent row member
  rw [show row.sentPayload "book" "cloud" = some payload from sent, Option.bind_some, source] at none
  cases none

end Ledgerly
