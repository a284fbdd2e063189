/-
This file follows a device through the first half of a sync: the attempts to push, and the
receipts it works through.

The receipts are those the server has stored, so that the device drops no mutation that would
still land. A mutation that is tried again gets an id that the server has not answered, and
lands if it did before.
-/

import Ledgerly.DeviceInvariant

namespace Ledgerly

/-! ### One receipt -/

/-- Nothing but the queue, the accounts and the conflicts of a device differ. -/
structure Device.SameBooks (before after : Device) : Prop where
  deviceId : after.deviceId = before.deviceId
  bookId : after.bookId = before.bookId
  transactions : after.transactions = before.transactions
  remoteBookId : after.remoteBookId = before.remoteBookId
  cursor : after.cursor = before.cursor

theorem Device.SameBooks.refl (device : Device) : device.SameBooks device :=
  ⟨rfl, rfl, rfl, rfl, rfl⟩

theorem Device.SameBooks.trans {first second third : Device} (before : first.SameBooks second)
    (after : second.SameBooks third) : first.SameBooks third :=
  ⟨after.deviceId.trans before.deviceId, after.bookId.trans before.bookId,
    after.transactions.trans before.transactions, after.remoteBookId.trans before.remoteBookId,
    after.cursor.trans before.cursor⟩

/-- A mutation queued again in the place of another: the same one under a new id, or an
account. -/
structure PendingMutationRow.Renews (old new : PendingMutationRow) (newId : String) : Prop where
  renamed : new.mutationId = newId
  same : (new.entityType = old.entityType ∧ new.entityId = old.entityId ∧
      new.operation = old.operation ∧ new.baseVersion = old.baseVersion ∧
      new.payload = old.payload) ∨
    old.entityType = "account" ∧ new.entityType = "account"

/-- What working through one receipt does to the queue. -/
inductive QueueEffect (device : Device) (receipt : MutationReceiptDto) (newId : String)
    (after : Device) : Prop
  | kept (same : after.pending = device.pending)
  | dropped (givesUp : receipt.stored.GivesUp)
      (left : after.pending = device.pending.filter fun row =>
        row.mutationId ≠ receipt.mutationId)
  | renewed (old new : PendingMutationRow) (member : old ∈ device.pending)
      (named : old.mutationId = receipt.mutationId) (renews : old.Renews new newId)
      (free : ∀ other ∈ device.pending, other.mutationId = newId →
        other.mutationId = receipt.mutationId)
      (left : after.pending = device.pending.map fun other =>
        if other.mutationId = receipt.mutationId then new else other)

section Receipt

variable {device after : Device} {mutationId newId : String}

/-- Queueing again writes one row of the queue, and maybe accounts with it. -/
theorem Device.requeue_effect {receipt : MutationReceiptDto} {old new : PendingMutationRow}
    (found : (device.pending.find? fun row => row.mutationId = receipt.mutationId) = some old)
    {accounts : KeyMap String LocalAccount}
    (requeued : ({ device with accounts := accounts } : Device).requeue receipt.mutationId new =
      some after) (renews : old.Renews new newId) :
    device.SameBooks after ∧ QueueEffect device receipt newId after := by
  unfold requeue at requeued
  split at requeued
  · cases requeued
  · rename_i free
    cases requeued
    have named : old.mutationId = receipt.mutationId := by simpa using List.find?_some found
    refine ⟨⟨rfl, rfl, rfl, rfl, rfl⟩, .renewed old new (List.mem_of_find?_eq_some found) named
      renews (fun other member same => ?_) rfl⟩
    by_contra different
    refine free (List.any_eq_true.mpr ⟨other, member, ?_⟩)
    rw [renews.renamed, same] at *
    simp [different]

theorem Device.renewPendingMutation_effect {receipt : MutationReceiptDto}
    (renewed : device.renewPendingMutation receipt.mutationId newId = some after) :
    device.SameBooks after ∧ QueueEffect device receipt newId after := by
  unfold renewPendingMutation at renewed
  split at renewed
  · cases renewed
    exact ⟨.refl device, .kept rfl⟩
  · rename_i pending found
    exact requeue_effect found renewed ⟨rfl, Or.inl ⟨rfl, rfl, rfl, rfl, rfl⟩⟩

theorem Device.retryCategoryMutationAsRoot_effect {receipt : MutationReceiptDto}
    (retried : device.retryCategoryMutationAsRoot receipt.mutationId newId = some after) :
    device.SameBooks after ∧ QueueEffect device receipt newId after := by
  unfold retryCategoryMutationAsRoot at retried
  split at retried
  · cases retried
    exact ⟨.refl device, .kept rfl⟩
  · rename_i pending found
    split at retried
    · cases retried
    · rename_i isAccount
      have isAccount := not_not.mp isAccount
      split at retried
      · exact requeue_effect found retried ⟨rfl, Or.inr ⟨isAccount, isAccount⟩⟩
      · cases retried

/-- Everything the body of the loop over the receipts can do. -/
theorem Device.handleReceipt_effect {pending : List PendingMutationRow} {rejected : List String}
    {receipt : MutationReceiptDto}
    (handled : device.handleReceipt pending rejected newId receipt = some after) :
    device.SameBooks after ∧ QueueEffect device receipt newId after := by
  unfold handleReceipt at handled
  split at handled
  · cases handled
  · rename_i row found
    split at handled
    · rename_i applied
      cases handled
      exact ⟨⟨rfl, rfl, rfl, rfl, rfl⟩, .dropped (Or.inl applied) rfl⟩
    · split at handled
      · exact retryCategoryMutationAsRoot_effect handled
      · split at handled
        · exact retryCategoryMutationAsRoot_effect handled
        · split at handled
          · exact renewPendingMutation_effect handled
          · split at handled
            · rename_i conflict
              obtain ⟨recorded, added, rfl⟩ := Option.map_eq_some_iff.mp handled
              unfold addConflict at added
              split at added
              · cases added
              · cases added
                exact ⟨⟨rfl, rfl, rfl, rfl, rfl⟩, .dropped (Or.inr conflict) rfl⟩
            · cases handled

end Receipt

/-! ### The invariant over the receipts -/

section Queue

variable {bookId : String} {server : MemoryStore} {device after : Device}

theorem Device.SameBooks.writesAt (same : device.SameBooks after) (id : String) :
    device.WritesAt id after where
  deviceId := same.deviceId
  bookId := same.bookId
  cursor := same.cursor
  others _ _ := by rw [same.transactions]
  known was := by rwa [same.transactions]

/-- A change of the queue keeps the device in step if every mutation that lands stays, maybe
under another id, and no create is new. -/
theorem InStep.ofQueue (inStep : InStep bookId server device) (same : device.SameBooks after)
    (distinct : (after.pending.map PendingMutationRow.mutationId).Nodup)
    (creates : ∀ row ∈ after.pending, ∀ id, row.Creates id →
      ∃ old ∈ device.pending, old.Creates id)
    (lands : ∀ row ∈ device.pending, Lands bookId server device row →
      ∃ new ∈ after.pending, new.entityId = row.entityId ∧ Lands bookId server after new) :
    InStep bookId server after :=
  have writes := same.writesAt ""
  inStep.ofWrite writes distinct
    (fun row member id isCreate => Or.inl (creates row member id isCreate)) lands
    fun agrees => Or.inr (Or.inl (writes.agrees (by rw [same.transactions]) agrees))

/-- What lands under one id lands under another that is not answered. -/
theorem Lands.renewed {old new : PendingMutationRow} {newId : String}
    (lands : Lands bookId server device old) (same : device.SameBooks after)
    (renews : old.Renews new newId) (spare : Unanswered bookId server device newId) :
    new.entityId = old.entityId ∧ Lands bookId server after new := by
  obtain ⟨type, entity, operation, base, payload⟩ :=
    renews.same.resolve_right fun accounts => by
      have := lands.isTransaction.symm.trans accounts.1
      exact absurd this (by decide)
  refine ⟨entity, type.trans lands.isTransaction, ?_, ?_, ?_⟩
  · have fits := lands.fits
    unfold Fits at fits ⊢
    rwa [operation, entity, base]
  · unfold PendingMutationRow.Sendable
    rw [operation, payload]
    exact lands.sendable
  · intro receipt found
    rw [same.deviceId, renews.renamed, spare] at found
    cases found

theorem PendingMutationRow.Renews.creates {old new : PendingMutationRow} {newId id : String}
    (renews : old.Renews new newId) (isCreate : new.Creates id) : old.Creates id := by
  rcases renews.same with ⟨type, entity, operation, -⟩ | ⟨-, isAccount⟩
  · unfold PendingMutationRow.Creates at isCreate ⊢
    rwa [type, entity, operation] at isCreate
  · have := isCreate.1.symm.trans isAccount
    exact absurd this (by decide)

/-- Working through a receipt that the server has stored keeps the device in step. -/
theorem InStep.afterReceipt (inStep : InStep bookId server device) {receipt : MutationReceiptDto}
    {newId : String} (same : device.SameBooks after)
    (effect : QueueEffect device receipt newId after)
    (answered : server.mutations.lookup (bookId, device.deviceId, receipt.mutationId) =
      some receipt.stored)
    (spare : Unanswered bookId server device newId) : InStep bookId server after := by
  have moved : ∀ row, Lands bookId server device row → Lands bookId server after row :=
    fun row lands => ⟨lands.isTransaction, lands.fits, lands.sendable, by
      rw [same.deviceId]
      exact lands.undecided⟩
  cases effect with
  | kept unchanged =>
    refine inStep.ofQueue same ?_ ?_ ?_ <;> rw [unchanged]
    · exact inStep.distinct
    · exact fun row member id isCreate => ⟨row, member, isCreate⟩
    · exact fun row member lands => ⟨row, member, rfl, moved row lands⟩
  | dropped givesUp left =>
    refine inStep.ofQueue same ?_ ?_ ?_ <;> rw [left]
    · exact inStep.distinct.sublist (List.filter_sublist.map _)
    · exact fun row member id isCreate => ⟨row, List.mem_of_mem_filter member, isCreate⟩
    · intro row member lands
      refine ⟨row, List.mem_filter.mpr ⟨member, decide_eq_true fun named => ?_⟩, rfl,
        moved row lands⟩
      exact lands.undecided receipt.stored (by rw [named, answered]) givesUp
  | renewed old new member named renews free left =>
    refine inStep.ofQueue same ?_ ?_ ?_ <;> rw [left]
    · have apart : device.pending.Pairwise fun first second =>
          first.mutationId ≠ second.mutationId := List.pairwise_map.mp inStep.distinct
      refine List.pairwise_map.mpr (List.pairwise_map.mpr (apart.imp_of_mem ?_))
      intro first second firstMember secondMember different
      split <;> split
      · rename_i here there
        exact absurd (here.trans there.symm) different
      · rename_i elsewhere
        rw [renews.renamed]
        exact fun taken => elsewhere (free second secondMember taken.symm)
      · rename_i elsewhere _
        rw [renews.renamed]
        exact fun taken => elsewhere (free first firstMember taken)
      · exact different
    · intro row written id isCreate
      obtain ⟨other, otherMember, rfl⟩ := List.mem_map.mp written
      split at isCreate
      · exact ⟨old, member, renews.creates isCreate⟩
      · exact ⟨other, otherMember, isCreate⟩
    · intro row rowMember lands
      by_cases here : row.mutationId = receipt.mutationId
      · have isOld : row = old :=
          List.inj_on_of_nodup_map inStep.distinct rowMember member (here.trans named.symm)
        subst isOld
        exact ⟨new, List.mem_map.mpr ⟨row, rowMember, if_pos here⟩,
          lands.renewed same renews spare⟩
      · exact ⟨row, List.mem_map.mpr ⟨row, rowMember, if_neg here⟩, rfl, moved row lands⟩

end Queue

/-! ### An attempt to push -/

/-- The device a loop leaves, whether it throws or not. -/
def Device.left : Except Device Device → Device
  | .ok device => device
  | .error device => device

/-- A device in step whose queue has no ids but those of an earlier one and new ones. -/
structure Device.Continues (bookId : String) (server : MemoryStore) (newId : Nat → String)
    (before after : Device) : Prop where
  inStep : InStep bookId server after
  ids : ∀ row ∈ after.pending,
    (∃ old ∈ before.pending, old.mutationId = row.mutationId) ∨
      ∃ position, row.mutationId = newId position

section Attempt

variable {bookId : String} {server : MemoryStore} {device after : Device}

theorem QueueEffect.ids {receipt : MutationReceiptDto} {newId : String}
    (effect : QueueEffect device receipt newId after) :
    ∀ row ∈ after.pending,
      (∃ old ∈ device.pending, old.mutationId = row.mutationId) ∨ row.mutationId = newId := by
  intro row member
  cases effect with
  | kept unchanged =>
    rw [unchanged] at member
    exact Or.inl ⟨row, member, rfl⟩
  | dropped _ left =>
    rw [left] at member
    exact Or.inl ⟨row, List.mem_of_mem_filter member, rfl⟩
  | renewed old new _ _ renews _ left =>
    rw [left] at member
    obtain ⟨other, otherMember, rfl⟩ := List.mem_map.mp member
    split
    · exact Or.inr renews.renamed
    · exact Or.inl ⟨other, otherMember, rfl⟩

/-- What working through one receipt keeps, the loop keeps, whether it throws or not. -/
theorem Device.handleReceipts_keeps {keeps : Device → Prop} {pending : List PendingMutationRow}
    {rejected : List String} {newId : Nat → String}
    (handles : ∀ {device after : Device} {newId : String} {receipt : MutationReceiptDto},
      keeps device → device.handleReceipt pending rejected newId receipt = some after → keeps after)
    (position : Nat) {device : Device} (start : keeps device) (receipts : List MutationReceiptDto) :
    keeps (Device.left (Device.handleReceipts pending rejected newId position device receipts)) := by
  induction receipts generalizing device position with
  | nil => exact start
  | cons receipt rest inductionHypothesis =>
    rw [Device.handleReceipts]
    cases handled : device.handleReceipt pending rejected (newId position) receipt with
    | none => exact start
    | some worked => exact inductionHypothesis (position + 1) (handles start handled)

/-- Working through receipts leaves the books alone. -/
theorem Device.handleReceipts_sameBooks (pending : List PendingMutationRow)
    (rejected : List String) (newId : Nat → String) (position : Nat) (device : Device)
    (receipts : List MutationReceiptDto) :
    device.SameBooks
      (Device.left (Device.handleReceipts pending rejected newId position device receipts)) :=
  Device.handleReceipts_keeps
    (fun same handled => same.trans (Device.handleReceipt_effect handled).1) position
    (.refl device) receipts

/-- The loop leaves the ids of the queue, and new ones. -/
theorem Device.handleReceipts_ids (pending : List PendingMutationRow) (rejected : List String)
    (newId : Nat → String) (receipts : List MutationReceiptDto) (position : Nat) :
    ∀ row ∈ (Device.left
        (Device.handleReceipts pending rejected newId position device receipts)).pending,
      (∃ old ∈ device.pending, old.mutationId = row.mutationId) ∨
        ∃ position, row.mutationId = newId position := by
  induction receipts generalizing device position with
  | nil => exact fun row member => Or.inl ⟨row, member, rfl⟩
  | cons receipt rest inductionHypothesis =>
    rw [Device.handleReceipts]
    cases handled : device.handleReceipt pending rejected (newId position) receipt with
    | none => exact fun row member => Or.inl ⟨row, member, rfl⟩
    | some worked =>
      obtain ⟨-, effect⟩ := Device.handleReceipt_effect handled
      intro row member
      rcases inductionHypothesis (position + 1) row member with ⟨old, oldMember, named⟩ | new
      · rcases effect.ids old oldMember with ⟨first, firstMember, same⟩ | new
        · exact Or.inl ⟨first, firstMember, same.trans named⟩
        · exact Or.inr ⟨position, named.symm.trans new⟩
      · exact Or.inr new

/-- Working through receipts that the server has stored keeps the device in step. -/
theorem Device.handleReceipts_continues {pending : List PendingMutationRow}
    {rejected : List String} {newId : Nat → String} {receipts : List MutationReceiptDto}
    (inStep : InStep bookId server device)
    (answered : ∀ receipt ∈ receipts,
      server.mutations.lookup (bookId, device.deviceId, receipt.mutationId) = some receipt.stored)
    (spare : ∀ position, Unanswered bookId server device (newId position)) (position : Nat) :
    device.Continues bookId server newId
      (Device.left (Device.handleReceipts pending rejected newId position device receipts)) := by
  refine ⟨?_, Device.handleReceipts_ids pending rejected newId receipts position⟩
  induction receipts generalizing device position with
  | nil => exact inStep
  | cons receipt rest inductionHypothesis =>
    rw [Device.handleReceipts]
    cases handled : device.handleReceipt pending rejected (newId position) receipt with
    | none => exact inStep
    | some worked =>
      obtain ⟨same, effect⟩ := Device.handleReceipt_effect handled
      have kept := inStep.afterReceipt same effect (answered receipt List.mem_cons_self)
        (spare position)
      refine inductionHypothesis kept (fun other member => ?_) (fun later => ?_) (position + 1)
      · rw [same.deviceId]
        exact answered other (List.mem_cons_of_mem _ member)
      · unfold Unanswered
        rw [same.deviceId]
        exact spare later

variable [Rfc3339]

/-- Every receipt of a push is stored when the push is over. -/
theorem answered_receiptsAmong {others : Nat → List PushStep} {steps : List PushStep}
    {deviceId : String} (own : ∀ step ∈ steps, step.Own bookId deviceId) (position : Nat)
    (store : MemoryStore) :
    ∀ receipt ∈ receiptsAmong others position store steps,
      (Machine.run pushStep store (interleaved others position steps)).mutations.lookup
        (bookId, deviceId, receipt.mutationId) = some receipt.stored := by
  induction steps generalizing store position with
  | nil => exact fun receipt member => absurd member List.not_mem_nil
  | cons step rest inductionHypothesis =>
    intro receipt member
    rw [interleaved, Machine.run_append, Machine.run_cons]
    rcases List.mem_cons.mp member with rfl | later
    · obtain ⟨stored, found, replayed⟩ :=
        stored_pushReceipt (Machine.run pushStep store (others position)) step
      have key : step.key = (bookId, deviceId,
          (pushReceipt (Machine.run pushStep store (others position)) step).mutationId) := by
        obtain ⟨book, device⟩ := own step List.mem_cons_self
        rw [← replayed, PushStep.key, book, device]
        rfl
      rw [← key]
      have kept : ∀ (store : MemoryStore) (other : PushStep),
          store.mutations.lookup step.key = some stored →
            (pushStep store other).mutations.lookup step.key = some stored :=
        fun _ other holds => lookup_mutations_pushStep holds other
      rw [Machine.run_invariant kept found, ← replayed]
      rfl
    · exact inductionHypothesis (fun other member => own other (List.mem_cons_of_mem _ member))
        (position + 1) _ receipt later

/-- The receipts of a push name the mutations that were sent. -/
theorem receiptsAmong_ids (others : Nat → List PushStep) (position : Nat) (store : MemoryStore)
    (steps : List PushStep) :
    (receiptsAmong others position store steps).map MutationReceiptDto.mutationId =
      steps.map fun step => step.mutation.mutationId := by
  induction steps generalizing position store with
  | nil => rfl
  | cons step rest inductionHypothesis =>
    obtain ⟨receipt, -, replayed⟩ :=
      stored_pushReceipt (Machine.run pushStep store (others position)) step
    rw [receiptsAmong, List.map_cons, List.map_cons, inductionHypothesis, ← replayed]
    rfl

omit [Rfc3339] in
theorem mem_interleaved {others : Nat → List PushStep} {steps : List PushStep} {position : Nat}
    {step : PushStep} (member : step ∈ interleaved others position steps) :
    step ∈ steps ∨ ∃ position, step ∈ others position := by
  induction steps generalizing position with
  | nil => exact absurd member List.not_mem_nil
  | cons first rest inductionHypothesis =>
    rw [interleaved] at member
    rcases List.mem_append.mp member with other | member
    · exact Or.inr ⟨position, other⟩
    · rcases List.mem_cons.mp member with rfl | later
      · exact Or.inl List.mem_cons_self
      · exact (inductionHypothesis later).imp_left (List.mem_cons_of_mem _)

/-- An id that is not in the queue stays unanswered while the queue is sent. -/
theorem Unanswered.afterRun {served : List PushStep} {id : String}
    (unanswered : Unanswered bookId server device id)
    (ids : ∀ step ∈ served, step.Own bookId device.deviceId →
      ∃ row ∈ device.pending, step.mutation.mutationId = row.mutationId)
    (unused : ∀ row ∈ device.pending, row.mutationId ≠ id) :
    Unanswered bookId (Machine.run pushStep server served) device id := by
  have kept : ∀ store, ∀ step ∈ served, Unanswered bookId store device id →
      Unanswered bookId (pushStep store step) device id := by
    intro store step member holds
    unfold Unanswered at holds ⊢
    rw [lookup_mutations_of_ne, holds]
    intro key
    obtain ⟨book, rest⟩ := Prod.mk.inj key
    obtain ⟨deviceId, named⟩ := Prod.mk.inj rest
    obtain ⟨row, rowMember, same⟩ := ids step member ⟨book.symm, deviceId.symm⟩
    exact unused row rowMember (same.symm.trans named.symm)
  exact Machine.run_invariant_of_mem kept unanswered

/-- The steps of an attempt that are the device's own are mutations of its queue. -/
theorem Device.pushAttempt_ids (server : MemoryStore) {around : Around} {attempt : Nat}
    (notOwn : ∀ position, ∀ step ∈ around.others attempt position,
      ¬step.Own bookId device.deviceId) :
    ∀ step ∈ (device.pushAttempt bookId around attempt server).served,
      step.Own bookId device.deviceId →
        ∃ row ∈ device.pending, step.mutation.mutationId = row.mutationId := by
  unfold Device.pushAttempt
  split
  · exact fun step member => absurd member List.not_mem_nil
  · rename_i steps made
    have sent : ∀ step ∈ steps,
        ∃ row ∈ device.pending, step.mutation.mutationId = row.mutationId := by
      intro step member
      obtain ⟨row, rowMember, sent⟩ := List.exists_of_mapM_eq_some made member
      obtain ⟨-, -, -, named, -⟩ := PendingMutationRow.step_fields sent
      exact ⟨row.1, List.fst_mem_of_mem_zipIdx rowMember, named⟩
    split
    · intro step member own
      rcases mem_interleaved member with taken | ⟨position, other⟩
      · exact sent step (List.mem_of_mem_take taken)
      · exact absurd own (notOwn position step other)
    · intro step member own
      rcases mem_interleaved member with mine | ⟨position, other⟩
      · exact sent step mine
      · exact absurd own (notOwn position step other)

/-- An attempt to push keeps the device in step, whether it succeeds or not. -/
theorem InStep.afterAttempt [ReadsDates] (inStep : InStep bookId server device)
    (log : server.LogOf bookId) {around : Around} {attempt : Nat}
    (spare : ∀ position, Unanswered bookId server device (around.newId attempt position))
    (unused : ∀ position, ∀ row ∈ device.pending,
      row.mutationId ≠ around.newId attempt position)
    (notOwn : ∀ position, ∀ step ∈ around.others attempt position,
      ¬step.Own bookId device.deviceId)
    (guarded : Machine.Guarded pushStep (Benign bookId device.deviceId) server
      (device.pushAttempt bookId around attempt server).served) :
    (Machine.run pushStep server
        (device.pushAttempt bookId around attempt server).served).LogOf bookId ∧
      device.Continues bookId (Machine.run pushStep server
        (device.pushAttempt bookId around attempt server).served) (around.newId attempt)
        (Device.left (device.pushAttempt bookId around attempt server).result) := by
  have ids := Device.pushAttempt_ids server notOwn
  unfold Device.pushAttempt at guarded ids ⊢
  split
  · exact ⟨log, inStep, fun row member => Or.inl ⟨row, member, rfl⟩⟩
  · rename_i steps made
    simp only [made] at guarded ids
    have queued : ∀ step ∈ steps, ∃ row ∈ device.pending, ∃ stamp,
        row.step device.deviceId device.bookId bookId stamp = some step := by
      intro step member
      obtain ⟨row, rowMember, sent⟩ := List.exists_of_mapM_eq_some made member
      exact ⟨row.1, List.fst_mem_of_mem_zipIdx rowMember, _, sent⟩
    split
    · rename_i count cut
      simp only [cut] at guarded
      obtain ⟨kept, keptLog⟩ := inStep.afterInterleaved log notOwn
        (fun step member => queued step (List.mem_of_mem_take member)) 0 guarded
      exact ⟨keptLog, kept, fun row member => Or.inl ⟨row, member, rfl⟩⟩
    · rename_i answered
      simp only [answered] at guarded ids
      obtain ⟨kept, keptLog⟩ := inStep.afterInterleaved log notOwn queued 0 guarded
      have own : ∀ step ∈ steps, step.Own bookId device.deviceId := by
        intro step member
        obtain ⟨row, -, stamp, sent⟩ := queued step member
        obtain ⟨book, deviceId, -⟩ := PendingMutationRow.step_fields sent
        exact ⟨book, deviceId⟩
      refine ⟨keptLog, Device.handleReceipts_continues kept
        (answered_receiptsAmong own 0 server)
        (fun position => (spare position).afterRun ids (unused position)) 0⟩

/-- An attempt to push leaves the books alone. -/
theorem Device.pushAttempt_sameBooks (device : Device) (bookId : String) (around : Around)
    (attempt : Nat) (server : MemoryStore) :
    device.SameBooks (Device.left (device.pushAttempt bookId around attempt server).result) := by
  unfold Device.pushAttempt
  split
  · exact .refl device
  · split
    · exact .refl device
    · exact Device.handleReceipts_sameBooks _ _ _ _ device _

/-- The loop of `syncNow` over its attempts: none, one, or two. -/
theorem Device.pushPending_elim {motive : List PushStep × Except Device Device → Prop}
    (device : Device) (around : Around) (server : MemoryStore)
    (idle : device.pending = [] → motive ([], .ok device))
    (once : ∀ first, first = device.pushAttempt bookId around 0 server →
      motive (first.served, first.result))
    (twice : ∀ first second pushed, first = device.pushAttempt bookId around 0 server →
      first.result = .ok pushed →
      second = pushed.pushAttempt bookId around 1 (Machine.run pushStep server first.served) →
        ∀ result, Device.left result = Device.left second.result →
          motive (first.served ++ second.served, result)) :
    motive (device.pushPending bookId around server) := by
  unfold Device.pushPending
  split
  · rename_i empty
    exact idle empty
  · dsimp only
    split
    · rename_i thrown failed
      rw [← failed]
      exact once _ rfl
    · rename_i pushed worked
      split
      · rw [← worked]
        exact once _ rfl
      · split
        · rename_i thrown failed
          exact twice _ _ pushed rfl worked rfl _ (by rw [failed])
        · rename_i again done
          refine twice _ _ pushed rfl worked rfl _ ?_
          rw [done]
          split <;> rfl

/-- What working through one receipt keeps, the attempts to push keep. -/
theorem Device.pushPending_keeps {keeps : Device → Prop}
    (handles : ∀ {device after : Device} {pending : List PendingMutationRow}
      {rejected : List String} {newId : String} {receipt : MutationReceiptDto}, keeps device →
        device.handleReceipt pending rejected newId receipt = some after → keeps after)
    {device : Device} (start : keeps device) (bookId : String) (around : Around)
    (server : MemoryStore) : keeps (Device.left (device.pushPending bookId around server).2) := by
  have attempted : ∀ {device : Device} attempt store, keeps device →
      keeps (Device.left (device.pushAttempt bookId around attempt store).result) := by
    intro device attempt store start
    unfold Device.pushAttempt
    split
    · exact start
    · split
      · exact start
      · exact Device.handleReceipts_keeps handles 0 start _
  refine Device.pushPending_elim (motive := fun outcome => keeps (Device.left outcome.2)) device
    around server ?_ ?_ ?_
  · exact fun _ => start
  · rintro first rfl
    exact attempted 0 server start
  · rintro first second pushed rfl worked rfl result same
    have kept := attempted 0 server start
    rw [worked] at kept
    rw [same]
    exact attempted 1 _ kept

/-- A push that does not throw has emptied the queue. -/
theorem Device.pending_of_pushPending {around : Around} {served : List PushStep}
    (pushed : device.pushPending bookId around server = (served, .ok after)) :
    after.pending = [] := by
  unfold Device.pushPending at pushed
  split at pushed
  · cases pushed
    assumption
  · dsimp only at pushed
    split at pushed
    · cases pushed
    · split at pushed
      · cases pushed
        assumption
      · split at pushed
        · cases pushed
        · split at pushed
          · cases pushed
            assumption
          · cases pushed

/-- The push leaves the books alone. -/
theorem Device.pushPending_sameBooks (device : Device) (bookId : String) (around : Around)
    (server : MemoryStore) :
    device.SameBooks (Device.left (device.pushPending bookId around server).2) := by
  have attempted := fun device attempt store =>
    Device.pushAttempt_sameBooks device bookId around attempt store
  refine Device.pushPending_elim (motive := fun outcome =>
    device.SameBooks (Device.left outcome.2)) device around server ?_ ?_ ?_
  · exact fun _ => .refl device
  · rintro first rfl
    exact attempted device 0 server
  · rintro first second pushed rfl worked rfl result same
    have firstKeeps := attempted device 0 server
    rw [worked] at firstKeeps
    rw [same]
    exact firstKeeps.trans (attempted pushed 1 _)

/-- The ids of the second attempt are new after the first one. -/
theorem FreshIds.afterFirst {newId : Nat → Nat → String} {pushed : Device} {served : List PushStep}
    (fresh : FreshIds bookId ⟨server, device⟩ newId) (sameBooks : device.SameBooks pushed)
    (own : ∀ step ∈ served, step.Own bookId device.deviceId →
      ∃ row ∈ device.pending, step.mutation.mutationId = row.mutationId)
    (ids : ∀ row ∈ pushed.pending, (∃ old ∈ device.pending, old.mutationId = row.mutationId) ∨
      ∃ position, row.mutationId = newId 0 position) :
    (∀ position, Unanswered bookId (Machine.run pushStep server served) pushed
      (newId 1 position)) ∧
    ∀ position, ∀ row ∈ pushed.pending, row.mutationId ≠ newId 1 position := by
  refine ⟨fun position => ?_, fun position row member same => ?_⟩
  · have unanswered := (fresh.unanswered 1 position).afterRun own (fresh.unused 1 position)
    unfold Unanswered at unanswered ⊢
    rwa [sameBooks.deviceId]
  · rcases ids row member with ⟨old, oldMember, named⟩ | ⟨other, named⟩
    · exact fresh.unused 1 position old oldMember (named.trans same)
    · have := (fresh.distinct 0 other 1 position (named.symm.trans same)).1
      exact absurd this (by decide)

/-- The push keeps the device in step, whether it succeeds or not. -/
theorem InStep.afterPush [ReadsDates] (inStep : InStep bookId server device)
    (log : server.LogOf bookId) {around : Around}
    (fresh : FreshIds bookId ⟨server, device⟩ around.newId)
    (notOwn : ∀ attempt position, ∀ step ∈ around.others attempt position,
      ¬step.Own bookId device.deviceId) :
    Machine.Guarded pushStep (Benign bookId device.deviceId) server
        (device.pushPending bookId around server).1 →
      (Machine.run pushStep server (device.pushPending bookId around server).1).LogOf bookId ∧
        InStep bookId
          (Machine.run pushStep server (device.pushPending bookId around server).1)
          (Device.left (device.pushPending bookId around server).2) := by
  have firstKeeps := inStep.afterAttempt log (fresh.unanswered 0) (fresh.unused 0) (notOwn 0)
  refine Device.pushPending_elim (motive := fun outcome =>
      Machine.Guarded pushStep (Benign bookId device.deviceId) server outcome.1 →
        (Machine.run pushStep server outcome.1).LogOf bookId ∧
          InStep bookId (Machine.run pushStep server outcome.1) (Device.left outcome.2))
    device around server ?_ ?_ ?_
  · exact fun _ _ => ⟨log, inStep⟩
  · rintro first rfl guarded
    obtain ⟨keptLog, kept, -⟩ := firstKeeps guarded
    exact ⟨keptLog, kept⟩
  · intro first second pushed isFirst worked isSecond result same guarded
    obtain ⟨guardedFirst, guardedSecond⟩ := (Machine.guarded_append _ _ _).mp guarded
    have sameBooks := Device.pushAttempt_sameBooks device bookId around 0 server
    have own := Device.pushAttempt_ids server (notOwn 0)
    rw [← isFirst] at firstKeeps sameBooks own
    obtain ⟨keptLog, kept, ids⟩ := firstKeeps guardedFirst
    simp only [worked, Device.left] at sameBooks kept ids
    obtain ⟨spare, unused⟩ := fresh.afterFirst sameBooks own ids
    rw [isSecond] at guardedSecond ⊢
    rw [← sameBooks.deviceId] at guardedSecond
    obtain ⟨finalLog, final, -⟩ := kept.afterAttempt keptLog spare unused
      (by rw [sameBooks.deviceId]; exact notOwn 1) guardedSecond
    rw [same, isSecond, Machine.run_append]
    exact ⟨finalLog, final⟩

end Attempt

end Ledgerly
