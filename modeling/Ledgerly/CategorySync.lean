/-
This file is about the rules for categories, which the client and the server each have: whatever
a device accepts, starting from the default accounts, the memory backend applies, and then the
two have the same categories.

The two trees are related account by account, under the ids of the local book and under those of
the remote one. A check of the client gives what `parse_account_payload` and
`valid_account_parent_mem` ask of the mutation that comes of it.
-/

import Ledgerly.AccountDecision
import Ledgerly.DefaultCategories
import Ledgerly.DeviceActions

namespace Ledgerly

open Machine

/-! ### Names -/

/-- A name without blanks at its ends in Dart has none in Rust. -/
theorem trim_dartTrim (text : String) : trim (dartTrim text) = dartTrim text := by
  unfold trim dartTrim
  dsimp only
  rw [String.toList_ofList]
  congr 1
  exact strip_strip (fun character blank => by rw [blank]; rfl) text.toList

theorem length_le_utf16Length (text : String) : text.length ≤ utf16Length text := by
  rw [← String.length_toList, utf16Length]
  induction text.toList with
  | nil => exact le_rfl
  | cons character rest inductionHypothesis =>
    rw [List.length_cons, List.map_cons, List.sum_cons]
    split <;> omega

theorem normalizeCategoryName_ok {name normalizedName : String}
    (normalized : normalizeCategoryName name = .ok normalizedName) :
    trim normalizedName = normalizedName ∧ normalizedName ≠ "" ∧ normalizedName.length ≤ 24 := by
  unfold normalizeCategoryName at normalized
  dsimp only at normalized
  split_ifs at normalized with isEmpty tooLong
  obtain rfl := Except.ok.inj normalized
  exact ⟨trim_dartTrim name, isEmpty,
    (length_le_utf16Length _).trans (Nat.not_lt.mp tooLong)⟩

/-! ### The mutation on its way -/

theorem rewriteAccountId_accountId (bookId remoteBookId key : String) :
    rewriteAccountId (accountId bookId key) bookId remoteBookId =
      scopedAccountId remoteBookId key := by
  rw [rewriteAccountId, accountId, stripPrefix_append, scopedAccountId]

theorem rewriteAccountPayload_canonical (name type currency : String) (parent : Option String)
    (bookId remoteBookId : String) :
    rewriteAccountPayload (canonicalAccountPayload name type currency parent) bookId remoteBookId =
      some (canonicalAccountPayload name type currency
        (parent.map fun id => rewriteAccountId id bookId remoteBookId)) := by
  cases parent <;> rfl

/-- The id of a parent that a category may have: none, or a proper one of the book. -/
def ProperParent (bookId : String) (parent : Option String) : Prop :=
  ∀ id, parent = some id → ∃ key, key ≠ "" ∧ id = scopedAccountId bookId key

theorem parseParentAccountId_canonical {remoteBookId : String} {parent : Option String}
    (proper : ProperParent remoteBookId parent) (name type currency : String) :
    parseParentAccountId (remoteBookId ++ ":")
      (canonicalAccountPayload name type currency parent) = some (some parent) := by
  cases parent with
  | none => rfl
  | some id =>
    obtain ⟨key, nonempty, rfl⟩ := proper id rfl
    have isPrefix : startsWith (scopedAccountId remoteBookId key) (remoteBookId ++ ":") = true := by
      have letters : (remoteBookId ++ ":" ++ key).toList =
          (remoteBookId ++ ":").toList ++ key.toList := String.toList_append
      rw [startsWith, scopedAccountId, letters, List.isPrefixOf_iff_prefix]
      exact List.prefix_append _ _
    have longer : (remoteBookId ++ ":").utf8ByteSize <
        (scopedAccountId remoteBookId key).utf8ByteSize := by
      rw [scopedAccountId, String.utf8ByteSize_append (s := remoteBookId ++ ":")]
      have positive : 0 < key.utf8ByteSize :=
        Nat.pos_of_ne_zero fun zero => nonempty (String.utf8ByteSize_eq_zero_iff.mp zero)
      omega
    show (if startsWith (scopedAccountId remoteBookId key) (remoteBookId ++ ":") = true ∧
        (remoteBookId ++ ":").utf8ByteSize < (scopedAccountId remoteBookId key).utf8ByteSize then
      some (some (some (scopedAccountId remoteBookId key))) else none) = _
    rw [if_pos ⟨isPrefix, longer⟩]

/-- The server reads what the client has checked. -/
theorem parseAccountPayload_canonical {remoteBookId key name type : String}
    {parent : Option String} (nonempty : key ≠ "") (proper : ProperParent remoteBookId parent)
    (isCategory : isCategoryType type = true)
    (isName : trim name = name ∧ name ≠ "" ∧ name.length ≤ 24) {mutation : SyncMutationDto}
    (isEntity : mutation.entityId = scopedAccountId remoteBookId key)
    (isOperation : mutation.operation = "create" ∨ mutation.operation = "update")
    (isPayload : mutation.payload = canonicalAccountPayload name type "CNY" parent) :
    parseAccountPayload remoteBookId mutation = .ok ⟨name, type, "CNY", some parent⟩ := by
  obtain ⟨trimmed, hasName, short⟩ := isName
  have isOurs : stripPrefix mutation.entityId (remoteBookId ++ ":") = some key := by
    rw [isEntity]
    exact stripPrefix_append _ _
  have fields : validAccountFields (trim name) type "CNY" = true := by
    have isType : type ∈ ["asset", "liability", "income", "expense", "equity"] := by
      rcases Bool.or_eq_true_iff.mp isCategory with expense | income
      · rw [of_decide_eq_true expense]
        decide
      · rw [of_decide_eq_true income]
        decide
    rw [validAccountFields, trimmed, decide_eq_true hasName, decide_eq_true short,
      decide_eq_true isType]
    decide
  unfold parseAccountPayload
  dsimp only
  rw [if_neg (by rintro ⟨notCreate, notUpdate⟩; exact isOperation.elim notCreate notUpdate), isOurs,
    Option.getD_some, if_neg nonempty, isPayload]
  have nameField : ((canonicalAccountPayload name type "CNY" parent).get? "name").bind
      Json.asStr? = some name := rfl
  have typeField : ((canonicalAccountPayload name type "CNY" parent).get? "accountType").bind
      Json.asStr? = some type := rfl
  have currencyField : ((canonicalAccountPayload name type "CNY" parent).get? "currency").bind
      Json.asStr? = some "CNY" := rfl
  rw [nameField, typeField, currencyField]
  dsimp only
  rw [if_pos fields, parseParentAccountId_canonical proper, trimmed]

/-! ### The two trees -/

/-- A row of the client and a record of the server are the same account. -/
structure SameCategory (bookId remoteBookId : String) (row : LocalAccount)
    (record : AccountRecord) : Prop where
  book : record.bookId = remoteBookId
  name : record.name = row.name
  type : record.accountType = row.type
  parent : record.parentAccountId =
    row.parentAccountId.map fun id => rewriteAccountId id bookId remoteBookId

/-- The server holds, in the remote book, what the device holds in the local one. -/
structure Mirrored (remoteBookId : String) (device : Device) (store : MemoryStore) : Prop where
  record_of_row : ∀ key row, device.accounts.lookup (accountId device.bookId key) = some row →
    ∃ record, store.accounts.lookup (scopedAccountId remoteBookId key) = some record ∧
      SameCategory device.bookId remoteBookId row record
  row_of_record : ∀ key record,
    store.accounts.lookup (scopedAccountId remoteBookId key) = some record →
      ∃ row, device.accounts.lookup (accountId device.bookId key) = some row ∧
        SameCategory device.bookId remoteBookId row record

/-- The accounts of a device stand under proper ids of its book, with parents that are there, and
in the currency of the categories. -/
structure Device.Tidy (device : Device) : Prop where
  owns : ∀ id row, device.accounts.lookup id = some row →
    ∃ key, key ≠ "" ∧ id = accountId device.bookId key
  parents : ∀ id row parentId, device.accounts.lookup id = some row →
    row.parentAccountId = some parentId → (device.accounts.lookup parentId).isSome
  currency : ∀ id row, device.accounts.lookup id = some row → row.currencyCode = "CNY"

/-- What the checks of a call say of the row that it writes. -/
structure AcceptedWrite (device : Device) (key operation : String) (row : LocalAccount) :
    Prop where
  nonempty : key ≠ ""
  isCategory : isCategoryType row.type = true
  isName : trim row.name = row.name ∧ row.name ≠ "" ∧ row.name.length ≤ 24
  currency : row.currencyCode = "CNY"
  finds : (device.accounts.lookup (accountId device.bookId key) = none ∧ operation = "create") ∨
    ∃ old, device.accounts.lookup (accountId device.bookId key) = some old ∧
      old.type = row.type ∧ operation = "update"
  parent : ∀ parentId, row.parentAccountId = some parentId →
    parentId ≠ accountId device.bookId key ∧
    (∃ parent, device.accounts.lookup parentId = some parent ∧ parent.type = row.type ∧
      parent.parentAccountId = none) ∧
    ∀ id child, device.accounts.lookup id = some child →
      child.parentAccountId ≠ some (accountId device.bookId key)

section Server

variable {device : Device} {store : MemoryStore} {remoteBookId key operation : String}
  {row : LocalAccount}

/-- The parent that an accepted write names, as the server knows it. -/
theorem AcceptedWrite.properParent (tidy : device.Tidy)
    (write : AcceptedWrite device key operation row) :
    ProperParent remoteBookId
      (row.parentAccountId.map fun id => rewriteAccountId id device.bookId remoteBookId) := by
  intro id named
  obtain ⟨parentId, isParent, rfl⟩ := Option.map_eq_some_iff.mp named
  obtain ⟨-, ⟨parent, there, -⟩, -⟩ := write.parent parentId isParent
  obtain ⟨parentKey, nonempty, rfl⟩ := tidy.owns parentId parent there
  exact ⟨parentKey, nonempty, rewriteAccountId_accountId _ _ _⟩

/-- The server finds the parent valid. -/
theorem AcceptedWrite.validParent (tidy : device.Tidy) (mirrored : Mirrored remoteBookId device store)
    (placed : AccountsPlaced store.accounts) (plain : ':' ∉ remoteBookId.toList)
    (write : AcceptedWrite device key operation row) :
    validAccountParent store.accounts remoteBookId (scopedAccountId remoteBookId key) row.type
      (row.parentAccountId.map fun id => rewriteAccountId id device.bookId remoteBookId) =
        true := by
  cases isParent : row.parentAccountId with
  | none => rfl
  | some parentId =>
    obtain ⟨notSelf, ⟨parent, there, sameType, root⟩, childless⟩ := write.parent parentId isParent
    obtain ⟨parentKey, -, rfl⟩ := tidy.owns parentId parent there
    obtain ⟨record, onServer, same⟩ := mirrored.record_of_row parentKey parent there
    rw [Option.map_some, rewriteAccountId_accountId, validAccountParent_iff]
    refine ⟨?_, fun sameId => notSelf ?_, ⟨record, onServer, same.book, same.type.trans sameType, ?_⟩,
      fun id child found named => ?_⟩
    · simpa [isCategoryType] using write.isCategory
    · rw [scopedAccountId_inj sameId]
    · rw [same.parent, root, Option.map_none]
    · -- A child on the server is of the book, so that it is a child on the device.
      obtain ⟨childPlain, ⟨childKey, rfl⟩, parents⟩ := placed id child found
      obtain ⟨other, isKey⟩ := parents _ named
      obtain rfl := bookId_eq_of_scoped plain childPlain isKey
      obtain ⟨childRow, childThere, sameChild⟩ := mirrored.row_of_record childKey child found
      have namedRow := sameChild.parent.symm.trans named
      obtain ⟨localParent, isLocal, rewritten⟩ := Option.map_eq_some_iff.mp namedRow
      obtain ⟨parentRow, parentThere⟩ :=
        Option.isSome_iff_exists.mp (tidy.parents _ childRow localParent childThere isLocal)
      obtain ⟨localKey, -, rfl⟩ := tidy.owns localParent parentRow parentThere
      rw [rewriteAccountId_accountId] at rewritten
      rw [scopedAccountId_inj rewritten] at isLocal
      exact childless _ childRow childThere isLocal

/-- The server decides to write the account. -/
theorem AcceptedWrite.decision (tidy : device.Tidy) (mirrored : Mirrored remoteBookId device store)
    (placed : AccountsPlaced store.accounts) (plain : ':' ∉ remoteBookId.toList)
    (write : AcceptedWrite device key operation row) {mutation : SyncMutationDto}
    (isEntity : mutation.entityId = scopedAccountId remoteBookId key)
    (isOperation : mutation.operation = operation)
    (isPayload : mutation.payload = canonicalAccountPayload row.name row.type "CNY"
      (row.parentAccountId.map fun id => rewriteAccountId id device.bookId remoteBookId)) :
    ∃ record, AccountDecision store.accounts remoteBookId mutation (.ok record) ∧
      SameCategory device.bookId remoteBookId row record := by
  have valid := write.validParent tidy mirrored placed plain
  have isKnown : mutation.operation = "create" ∨ mutation.operation = "update" := by
    rw [isOperation]
    rcases write.finds with ⟨-, created⟩ | ⟨-, -, -, updated⟩
    · exact .inl created
    · exact .inr updated
  have parsed := parseAccountPayload_canonical write.nonempty (write.properParent tidy)
    write.isCategory write.isName isEntity isKnown isPayload
  rcases write.finds with ⟨missing, created⟩ | ⟨old, there, sameType, updated⟩
  · have notFound : store.accounts.lookup mutation.entityId = none := by
      rw [isEntity]
      cases found : store.accounts.lookup (scopedAccountId remoteBookId key) with
      | none => rfl
      | some record =>
        obtain ⟨other, isThere, -⟩ := mirrored.row_of_record key record found
        rw [missing] at isThere
        cases isThere
    refine ⟨_, .accepted parsed ?_ ?_, ?_⟩
    · rw [notFound]
      exact isOperation.trans created
    · rw [notFound, isEntity]
      exact valid
    · rw [notFound]
      exact ⟨rfl, rfl, rfl, rfl⟩
  · obtain ⟨record, found, same⟩ := mirrored.record_of_row key old there
    rw [← isEntity] at found
    refine ⟨_, .accepted parsed ?_ ?_, ?_⟩
    · rw [found]
      refine ⟨?_, same.book⟩
      rw [isOperation, updated]
      decide
    · rw [found, isEntity]
      show validAccountParent _ _ _ record.accountType _ = true
      rw [same.type, sameType]
      exact valid
    · rw [found]
      exact ⟨same.book, rfl, same.type.trans sameType, rfl⟩

end Server

/-! ### What a call writes -/

/-- The ids that `newId` gives are not empty. -/
def CategoryCall.ProperId : CategoryCall → Prop
  | .create newId _ _ _ _ => newId ≠ ""
  | _ => True

/-- What an accepted call does: it writes the row of an account, and queues its mutation. -/
inductive CallEffect (device : Device) : Device → Prop where
  | wrote {key operation : String} {row : LocalAccount} {pending : PendingMutationRow}
      (write : AcceptedWrite device key operation row)
      (carries : pending.CarriesAccount (accountId device.bookId key) operation row)
      (fresh : ∀ other ∈ device.pending, other.mutationId ≠ pending.mutationId) :
      CallEffect device { device with
        accounts := device.accounts.insert (accountId device.bookId key) row
        pending := device.pending ++ [pending] }

section Calls

variable [DartText] {device after : Device}

omit [DartText] in
theorem orRepositoryError_ok {written : Option Device}
    (ok : orRepositoryError written = .ok after) : written = some after := by
  cases written with
  | none => cases ok
  | some device => rw [Except.ok.inj ok]

theorem createCategory_effect (tidy : device.Tidy) {newId name type mutationId : String}
    {parentCategoryId : Option String} (proper : newId ≠ "")
    (created : device.createCategory newId name type parentCategoryId mutationId = .ok after) :
    CallEffect device after := by
  obtain ⟨normalizedName, checked, written⟩ := Except.bind_eq_ok.mp created
  obtain ⟨isCategory, valid, named⟩ := checkCreate_ok checked
  obtain ⟨missing, row, carries, fresh, rfl⟩ :=
    Device.createLocalAccount_eq_some (orRepositoryError_ok written)
  refine .wrote ⟨proper, isCategory, normalizeCategoryName_ok named, rfl, .inl ⟨missing, rfl⟩, ?_⟩
    carries fresh
  intro parentId isParent
  obtain ⟨-, parent, there, sameType, -, root⟩ := validateCategoryParent_ok valid parentId isParent
  refine ⟨?_, ⟨parent, there, sameType, root⟩, fun id child found named => ?_⟩
  · rintro rfl
    rw [missing] at there
    cases there
  · have present := tidy.parents id child _ found named
    rw [missing] at present
    cases present

theorem updateCategory_effect (tidy : device.Tidy) {categoryId name mutationId : String}
    {parentCategoryId : Option String}
    (updated : device.updateCategory categoryId name parentCategoryId mutationId = .ok after) :
    CallEffect device after := by
  obtain ⟨normalizedName, checked, written⟩ := Except.bind_eq_ok.mp updated
  obtain ⟨category, found, valid, nesting, named⟩ := checkUpdate_ok checked
  obtain ⟨there, isCategory⟩ := findCategory_ok found
  obtain ⟨key, nonempty, rfl⟩ := tidy.owns categoryId category there
  obtain ⟨account, isThere, row, carries, fresh, rfl⟩ :=
    Device.updateLocalAccount_eq_some (orRepositoryError_ok written)
  obtain rfl := Option.some.inj (there.symm.trans isThere)
  refine .wrote ⟨nonempty, isCategory, normalizeCategoryName_ok named,
    tidy.currency _ category there, .inr ⟨category, there, rfl, rfl⟩, ?_⟩ carries fresh
  intro parentId isParent
  obtain ⟨different, parent, parentThere, sameType, -, root⟩ :=
    validateCategoryParent_ok valid parentId isParent
  refine ⟨fun same => different (congrArg some same), ⟨parent, parentThere, sameType, root⟩,
    fun id child childThere => ?_⟩
  obtain rfl : parentCategoryId = some parentId := isParent
  exact validateCategoryNesting_ok nesting childThere

/-- A call that is accepted writes what the server will accept. -/
theorem callCategory_effect (tidy : device.Tidy) {call : CategoryCall} (proper : call.ProperId)
    (called : device.callCategory call = .ok after) : CallEffect device after := by
  cases call with
  | create newId name type parentCategoryId mutationId =>
    exact createCategory_effect tidy proper called
  | update categoryId name parentCategoryId mutationId => exact updateCategory_effect tidy called
  | rename categoryId name mutationId =>
    obtain ⟨category, -, updated⟩ := Except.bind_eq_ok.mp called
    exact updateCategory_effect tidy updated

omit [DartText] in
/-- An accepted call keeps the accounts tidy. -/
theorem CallEffect.tidy (effect : CallEffect device after) (tidy : device.Tidy) : after.Tidy := by
  cases effect with
  | @wrote key operation row pending write carries fresh =>
    refine ⟨fun id other found => ?_, fun id other parentId found named => ?_,
      fun id other found => ?_⟩
    · rcases KeyMap.lookup_insert_eq_some found with ⟨rfl, -⟩ | ⟨-, before⟩
      · exact ⟨key, write.nonempty, rfl⟩
      · exact tidy.owns id other before
    · have present : (device.accounts.lookup parentId).isSome := by
        rcases KeyMap.lookup_insert_eq_some found with ⟨-, rfl⟩ | ⟨-, before⟩
        · obtain ⟨-, ⟨parent, there, -⟩, -⟩ := write.parent parentId named
          rw [there]
          rfl
        · exact tidy.parents id other parentId before named
      dsimp only
      rw [KeyMap.lookup_insert_eq]
      split
      · rfl
      · exact present
    · rcases KeyMap.lookup_insert_eq_some found with ⟨-, rfl⟩ | ⟨-, before⟩
      · exact write.currency
      · exact tidy.currency id other before

end Calls

/-! ### Pushing -/

/-- A server that accounts of a book are pushed to. -/
structure PushedTo (remoteBookId : String) (store : MemoryStore) : Prop where
  inBooks : store.Scoped
  placed : AccountsPlaced store.accounts
  isBook : (store.books.lookup remoteBookId).isSome

/-- No mutation of the device has an id that is not among those. -/
def UnsentBut (store : MemoryStore) (remoteBookId deviceId : String) (sent : List String) : Prop :=
  ∀ mutationId, mutationId ∉ sent → store.mutations.lookup (remoteBookId, deviceId, mutationId) = none

section Pushing

variable [Rfc3339] {device after : Device} {store : MemoryStore} {remoteBookId : String}

omit [Rfc3339] in
theorem PushedTo.plain (pushedTo : PushedTo remoteBookId store) : ':' ∉ remoteBookId.toList := by
  obtain ⟨book, found⟩ := Option.isSome_iff_exists.mp pushedTo.isBook
  exact (pushedTo.inBooks.books remoteBookId book found).2

/-- The mutation of an accepted call is applied, and then the server holds what the device holds. -/
theorem CallEffect.pushed (effect : CallEffect device after) (tidy : device.Tidy)
    (mirrored : Mirrored remoteBookId device store) (pushedTo : PushedTo remoteBookId store)
    (unsent : UnsentBut store remoteBookId device.deviceId
      (device.pending.map PendingMutationRow.mutationId)) :
    ∃ row, after.pending = device.pending ++ [row] ∧ after.deviceId = device.deviceId ∧
      after.bookId = device.bookId ∧ ∀ stamp, ∃ step,
        row.step device.deviceId device.bookId remoteBookId stamp = some step ∧
        (pushReceipt store step).status = "applied" ∧
        Mirrored remoteBookId after (pushStep store step) ∧
        PushedTo remoteBookId (pushStep store step) ∧
        UnsentBut (pushStep store step) remoteBookId device.deviceId
          (after.pending.map PendingMutationRow.mutationId) := by
  cases effect with
  | @wrote key operation row pending write carries fresh =>
    refine ⟨pending, rfl, rfl, rfl, fun stamp => ?_⟩
    -- What is sent is the row under the ids of the remote book.
    have sent : pending.sentPayload device.bookId remoteBookId =
        some (canonicalAccountPayload row.name row.type "CNY"
          (row.parentAccountId.map fun id => rewriteAccountId id device.bookId remoteBookId)) := by
      have made := rewriteAccountPayload_canonical row.name row.type row.currencyCode
        row.parentAccountId device.bookId remoteBookId
      rw [write.currency] at made
      unfold PendingMutationRow.sentPayload
      rw [carries.payload, write.currency, carries.isAccount]
      exact made
    have isEntity : rewriteAccountId pending.entityId device.bookId remoteBookId =
        scopedAccountId remoteBookId key := by
      rw [carries.entity, rewriteAccountId_accountId]
    obtain ⟨step, made, atBook, ofDevice, mutationId, isAccount, entity, ofOperation, ofPayload⟩ :
        ∃ step, pending.step device.deviceId device.bookId remoteBookId stamp = some step ∧
          step.bookId = remoteBookId ∧ step.deviceId = device.deviceId ∧
          step.mutation.mutationId = pending.mutationId ∧ step.mutation.entityType = "account" ∧
          step.mutation.entityId = scopedAccountId remoteBookId key ∧
          step.mutation.operation = operation ∧
          step.mutation.payload = canonicalAccountPayload row.name row.type "CNY"
            (row.parentAccountId.map fun id =>
              rewriteAccountId id device.bookId remoteBookId) := by
      unfold PendingMutationRow.step
      split
      · rename_i missing
        rw [sent] at missing
        cases missing
      · rename_i payload isPayload
        obtain rfl := Option.some.inj (sent.symm.trans isPayload)
        refine ⟨_, rfl, rfl, rfl, rfl, carries.isAccount, ?_, carries.operation, rfl⟩
        dsimp only
        rw [if_pos carries.isAccount, isEntity]
    have notSent : store.mutations.lookup step.key = none := by
      rw [PushStep.key, atBook, ofDevice, mutationId]
      refine unsent pending.mutationId fun member => ?_
      obtain ⟨other, isPending, same⟩ := List.mem_map.mp member
      exact fresh other isPending same
    obtain ⟨record, decision, same⟩ := write.decision tidy mirrored pushedTo.placed pushedTo.plain
      entity ofOperation ofPayload
    have processed : processMutationMem store remoteBookId step.mutation step.stamp =
        writeAccountMem store remoteBookId step.mutation record step.stamp := by
      rw [processMutationMem, if_pos isAccount, decision.writes]
    have writes := decision.writesAccount
    have stepped : pushStep store step =
        { (writeAccountMem store remoteBookId step.mutation record step.stamp).1 with
          mutations := store.mutations.insert step.key
            (appliedReceipt step.mutation record.version).stored } := by
      rw [pushStep_processed notSent, atBook, processed]
      rfl
    refine ⟨step, made, ?_, ?_, ?_, ?_⟩
    · rw [pushReceipt_processed notSent, atBook, processed]
      rfl
    · rw [stepped]
      constructor
      · intro otherKey other found
        show ∃ record', (store.accounts.insert step.mutation.entityId record).lookup
          (scopedAccountId remoteBookId otherKey) = some record' ∧ _
        rw [entity]
        rcases KeyMap.lookup_insert_eq_some found with ⟨isKey, rfl⟩ | ⟨different, before⟩
        · obtain rfl := scopedAccountId_inj isKey
          exact ⟨record, AList.lookup_insert _, same⟩
        · obtain ⟨there, isThere, sameOther⟩ := mirrored.record_of_row otherKey other before
          refine ⟨there, ?_, sameOther⟩
          rwa [AList.lookup_insert_ne fun isKey => different
            (congrArg (accountId device.bookId) (scopedAccountId_inj isKey))]
      · intro otherKey other found
        replace found : (store.accounts.insert step.mutation.entityId record).lookup
          (scopedAccountId remoteBookId otherKey) = some other := found
        rw [entity] at found
        rcases KeyMap.lookup_insert_eq_some found with ⟨isKey, rfl⟩ | ⟨different, before⟩
        · obtain rfl := scopedAccountId_inj isKey
          exact ⟨row, AList.lookup_insert _, same⟩
        · obtain ⟨there, isThere, sameOther⟩ := mirrored.row_of_record otherKey other before
          refine ⟨there, ?_, sameOther⟩
          exact (AList.lookup_insert_ne fun isKey => different
            (congrArg (scopedAccountId remoteBookId) (scopedAccountId_inj isKey))).trans isThere
    · have kept := pushStep_tree pushedTo.inBooks (by rw [atBook]; exact pushedTo.isBook)
      refine ⟨kept.1, ?_, ?_⟩
      · rw [stepped]
        exact writes.insert_placed pushedTo.placed pushedTo.plain
      · rw [pushStep_books]
        exact pushedTo.isBook
    · intro other notAmong
      rw [stepped]
      refine (AList.lookup_insert_ne fun isKey => ?_).trans (unsent other fun member => ?_)
      · rw [PushStep.key, atBook, ofDevice, mutationId] at isKey
        refine notAmong ?_
        rw [(Prod.mk.inj (Prod.mk.inj isKey).2).2, List.map_append]
        exact List.mem_append_right _ (List.mem_singleton_self _)
      · refine notAmong ?_
        rw [List.map_append]
        exact List.mem_append_left _ member

/-- The mutations of accepted calls, pushed in their order. -/
theorem calls_pushed [DartText] {calls : List CategoryCall} (proper : ∀ call ∈ calls, call.ProperId)
    (called : calls.foldlM Device.callCategory device = .ok after) (tidy : device.Tidy)
    (mirrored : Mirrored remoteBookId device store) (pushedTo : PushedTo remoteBookId store)
    (unsent : UnsentBut store remoteBookId device.deviceId
      (device.pending.map PendingMutationRow.mutationId))
    (stamp : Nat → Stamp) (offset : Nat) :
    ∃ rows steps, after.pending = device.pending ++ rows ∧ rows.length = calls.length ∧
      after.deviceId = device.deviceId ∧ after.bookId = device.bookId ∧ after.Tidy ∧
      ((rows.zipIdx offset).mapM fun row =>
        row.1.step device.deviceId device.bookId remoteBookId (stamp row.2)) = some steps ∧
      (∀ receipt ∈ pushReceipts store steps, receipt.status = "applied") ∧
      Mirrored remoteBookId after (run pushStep store steps) ∧
      PushedTo remoteBookId (run pushStep store steps) := by
  induction calls generalizing device store offset with
  | nil =>
    obtain rfl := Except.ok.inj called
    refine ⟨[], [], (List.append_nil _).symm, rfl, rfl, rfl, tidy, rfl, ?_, mirrored, pushedTo⟩
    exact fun receipt none => absurd none List.not_mem_nil
  | cons call rest inductionHypothesis =>
    rw [List.foldlM_cons] at called
    obtain ⟨between, first, later⟩ := Except.bind_eq_ok.mp called
    have effect := callCategory_effect tidy (proper call List.mem_cons_self) first
    obtain ⟨row, queue, sameDevice, sameBook, pushes⟩ :=
      effect.pushed tidy mirrored pushedTo unsent
    obtain ⟨step, made, applied, next, nextTo, nextUnsent⟩ := pushes (stamp offset)
    rw [← sameDevice] at nextUnsent
    obtain ⟨rows, steps, isQueue, count, lastDevice, lastBook, lastTidy, others, allApplied, last,
        lastTo⟩ :=
      inductionHypothesis (fun other member => proper other (List.mem_cons_of_mem _ member)) later
        (effect.tidy tidy) next nextTo nextUnsent (offset + 1)
    refine ⟨row :: rows, step :: steps, ?_, ?_, lastDevice.trans sameDevice,
      lastBook.trans sameBook, lastTidy, ?_, ?_, last, lastTo⟩
    · rw [isQueue, queue, List.append_assoc, List.singleton_append]
    · rw [List.length_cons, List.length_cons, count]
    · rw [sameDevice, sameBook] at others
      rw [List.zipIdx_cons, List.mapM_cons, others, made]
      rfl
    · intro receipt member
      rcases List.mem_cons.mp member with rfl | among
      · exact applied
      · exact allApplied receipt among

end Pushing

/-! ### From the default accounts -/

section Defaults

variable {bookId remoteBookId : String}

theorem defaultAccounts_nonempty : ∀ account ∈ defaultAccounts, account.key ≠ "" := by
  decide +kernel

/-- A book that has just been seeded is tidy. -/
theorem seeded_tidy (deviceId : String) :
    (Device.initial deviceId bookId (ensureDefaultBookAccounts ∅ bookId)).Tidy := by
  constructor
  · intro id row found
    obtain ⟨account, member, rfl, rfl⟩ := seeded_lookup_iff.mp found
    exact ⟨account.key, defaultAccounts_nonempty account member, rfl⟩
  · intro id row parentId found named
    obtain ⟨account, member, rfl, rfl⟩ := seeded_lookup_iff.mp found
    obtain ⟨parentKey, isKey, rfl⟩ := Option.map_eq_some_iff.mp named
    obtain ⟨-, parent, parentMember, rfl, -⟩ := defaultAccounts_parent account member parentKey isKey
    exact Option.isSome_iff_exists.mpr ⟨_, seeded_lookup_iff.mpr ⟨parent, parentMember, rfl, rfl⟩⟩
  · intro id row found
    obtain ⟨account, -, -, rfl⟩ := seeded_lookup_iff.mp found
    rfl

/-- A remote book holds the default accounts, and no others. -/
def HoldsDefaults (store : MemoryStore) (remoteBookId : String) : Prop :=
  ∀ key, store.accounts.lookup (scopedAccountId remoteBookId key) =
    (defaultAccounts.find? fun account => account.key = key).map fun account =>
      account.record remoteBookId

/-- A default account is the same in both books. -/
theorem sameCategory_default (account : DefaultAccount) :
    SameCategory bookId remoteBookId (account.localRow bookId) (account.record remoteBookId) := by
  refine ⟨rfl, rfl, rfl, ?_⟩
  show account.parentKey.map (scopedAccountId remoteBookId) =
    (account.parentKey.map (accountId bookId)).map fun id => rewriteAccountId id bookId remoteBookId
  rw [Option.map_map]
  refine congrArg (fun f => Option.map f account.parentKey) (funext fun key => ?_)
  exact (rewriteAccountId_accountId bookId remoteBookId key).symm

theorem mirrored_defaults {store : MemoryStore} (holds : HoldsDefaults store remoteBookId)
    (deviceId : String) :
    Mirrored remoteBookId (Device.initial deviceId bookId (ensureDefaultBookAccounts ∅ bookId))
      store := by
  constructor
  · intro key row found
    obtain ⟨account, member, isKey, rfl⟩ := seeded_lookup_iff.mp found
    obtain rfl := scopedAccountId_inj isKey
    exact ⟨account.record remoteBookId,
      by rw [holds, defaultAccounts_find account member, Option.map_some],
      sameCategory_default account⟩
  · intro key record found
    rw [holds] at found
    obtain ⟨account, isFound, rfl⟩ := Option.map_eq_some_iff.mp found
    have hasKey := List.find?_some isFound
    refine ⟨account.localRow bookId, seeded_lookup_iff.mpr ⟨account,
      List.mem_of_find?_eq_some isFound, ?_, rfl⟩, sameCategory_default account⟩
    rw [of_decide_eq_true hasKey]
    rfl

end Defaults

/-- The calls that a device accepts, starting from the default accounts that its book and the
remote one hold, give mutations that the server applies one after the other; then the two books
have the same categories, and only such under ids of their own. -/
theorem category_rules_agree [DartText] [Rfc3339] (deviceId bookId remoteBookId : String)
    (events : List BookEvent) (calls : List CategoryCall) (after : Device) (stamp : Nat → Stamp)
    (holds : HoldsDefaults (run bookStep emptyServer events) remoteBookId)
    (unsent : ∀ mutationId, (run bookStep emptyServer events).mutations.lookup
      (remoteBookId, deviceId, mutationId) = none)
    (proper : ∀ call ∈ calls, call.ProperId)
    (accepted : calls.foldlM Device.callCategory
      (Device.initial deviceId bookId (ensureDefaultBookAccounts ∅ bookId)) = .ok after) :
    ∃ steps,
      (after.pending.zipIdx.mapM fun row =>
        row.1.step deviceId bookId remoteBookId (stamp row.2)) = some steps ∧
      after.pending.length = calls.length ∧
      (∀ receipt ∈ pushReceipts (run bookStep emptyServer events) steps,
        receipt.status = "applied") ∧
      (∀ id row, after.accounts.lookup id = some row → ∃ key record, id = accountId bookId key ∧
        (run pushStep (run bookStep emptyServer events) steps).accounts.lookup
          (scopedAccountId remoteBookId key) = some record ∧
        SameCategory bookId remoteBookId row record) ∧
      ∀ id record, (run pushStep (run bookStep emptyServer events) steps).accounts.lookup id =
          some record → record.bookId = remoteBookId →
        ∃ key row, id = scopedAccountId remoteBookId key ∧
          after.accounts.lookup (accountId bookId key) = some row ∧
          SameCategory bookId remoteBookId row record := by
  have inBooks := (Machine.run_invariant (fun store event (kept : store.Scoped) =>
    (bookStep_tree kept event).1) emptyServer_scoped events)
  have pushedTo : PushedTo remoteBookId (run bookStep emptyServer events) := by
    refine ⟨inBooks, run_accountsPlaced events, ?_⟩
    have cash : (run bookStep emptyServer events).accounts.lookup
        (scopedAccountId remoteBookId "acc_cash") =
          some (DefaultAccount.record ⟨"acc_cash", "Cash", "asset", none⟩ remoteBookId) := by
      rw [holds]
      rfl
    exact (inBooks.accounts _ _ cash).1
  obtain ⟨rows, steps, queue, count, sameDevice, sameBook, tidy, made, applied, mirrored, lastTo⟩ :=
    calls_pushed proper accepted (seeded_tidy deviceId) (mirrored_defaults holds deviceId) pushedTo
      (fun mutationId _ => unsent mutationId) stamp 0
  replace sameBook : after.bookId = bookId := sameBook
  rw [Device.initial, List.nil_append] at queue
  refine ⟨steps, ?_, ?_, applied, fun id row found => ?_, fun id record found inBook => ?_⟩
  · rw [queue]
    exact made
  · rw [queue, count]
  · obtain ⟨key, -, rfl⟩ := tidy.owns id row found
    obtain ⟨record, there, same⟩ := mirrored.record_of_row key row found
    rw [sameBook] at same ⊢
    exact ⟨key, record, rfl, there, same⟩
  · obtain ⟨-, key, rfl⟩ := lastTo.inBooks.accounts id record found
    rw [inBook] at found ⊢
    obtain ⟨row, there, same⟩ := mirrored.row_of_record key record found
    rw [sameBook] at there same
    exact ⟨key, row, rfl, there, same⟩

/-- A first login opens a book with the default accounts. -/
def firstLogin : List BookEvent := [.login "user" "none" "remote"]

theorem firstLogin_seeds [Rfc3339] :
    run bookStep emptyServer firstLogin =
      seedAccountsMem (emptyServer.withBook "remote" "Personal" "user") "remote" := by
  rw [firstLogin, run_cons, run_nil, bookStep, if_pos (by decide +kernel),
    ensureDemoBook_of_none (by decide +kernel)]

theorem firstLogin_holds [Rfc3339] :
    HoldsDefaults (run bookStep emptyServer firstLogin) "remote" := by
  intro key
  have sameKey : (fun account : DefaultAccount => decide (scopedAccountId "remote" account.key =
      scopedAccountId "remote" key)) = fun account => decide (account.key = key) := by
    funext account
    exact decide_eq_decide.mpr ⟨scopedAccountId_inj, congrArg _⟩
  have empty : (emptyServer.withBook "remote" "Personal" "user").accounts.lookup
      (scopedAccountId "remote" key) = none := AList.lookup_empty _
  rw [firstLogin_seeds, seedAccountsMem_lookup, empty, Option.none_or, sameKey]

theorem seedAccountsMem_mutations (store : MemoryStore) (bookId : String) :
    (seedAccountsMem store bookId).mutations = store.mutations :=
  List.foldlRecOn defaultAccounts (seedAccount bookId)
    (motive := fun reached => reached.mutations = store.mutations) rfl
    fun reached kept account _ => by
      unfold seedAccount
      split
      · exact kept
      · exact kept

/-- A category and a child of it are created; the child gets another name and then another
parent. -/
def petCalls : List CategoryCall :=
  [.create "pets" "Pets" "expense" none "one",
    .create "treats" "Treats" "expense" (some "local:pets") "two",
    .rename "local:treats" "Snacks" "three",
    .update "local:treats" "Snacks" (some "local:acc_food") "four"]

set_option maxRecDepth 100000 in
theorem petCalls_accepted : let := asciiText
    (petCalls.foldlM Device.callCategory
      (Device.initial "phone" "local" (ensureDefaultBookAccounts ∅ "local"))).isOk = true := by
  decide +kernel

/-- The mutations of those calls are applied. -/
theorem pets_agree : let := epochClock; let := asciiText
    ∃ after steps,
      petCalls.foldlM Device.callCategory
        (Device.initial "phone" "local" (ensureDefaultBookAccounts ∅ "local")) = .ok after ∧
      (after.pending.zipIdx.mapM fun row =>
        row.1.step "phone" "local" "remote" ⟨epoch, "commit"⟩) = some steps ∧
      after.pending.length = 4 ∧
      (∀ receipt ∈ pushReceipts (run bookStep emptyServer firstLogin) steps,
        receipt.status = "applied") ∧
      ∀ id row, after.accounts.lookup id = some row → ∃ key record, id = accountId "local" key ∧
        (run pushStep (run bookStep emptyServer firstLogin) steps).accounts.lookup
          (scopedAccountId "remote" key) = some record ∧
        SameCategory "local" "remote" row record := by
  intro clock text
  obtain ⟨after, accepted⟩ : ∃ after, petCalls.foldlM Device.callCategory
      (Device.initial "phone" "local" (ensureDefaultBookAccounts ∅ "local")) = .ok after := by
    have isOk : (petCalls.foldlM Device.callCategory (Device.initial "phone" "local"
        (ensureDefaultBookAccounts ∅ "local"))).isOk = true := petCalls_accepted
    revert isOk
    cases petCalls.foldlM Device.callCategory
        (Device.initial "phone" "local" (ensureDefaultBookAccounts ∅ "local")) with
    | ok after => exact fun _ => ⟨after, rfl⟩
    | error error => exact nofun
  have unsent : ∀ mutationId, (run bookStep emptyServer firstLogin).mutations.lookup
      ("remote", "phone", mutationId) = none := by
    intro mutationId
    rw [firstLogin_seeds, seedAccountsMem_mutations]
    exact AList.lookup_empty _
  have proper : ∀ call ∈ petCalls, call.ProperId := by
    simp only [petCalls, List.forall_mem_cons]
    exact ⟨show "pets" ≠ "" by decide, show "treats" ≠ "" by decide, trivial, trivial, nofun⟩
  obtain ⟨steps, made, count, applied, same, -⟩ := category_rules_agree "phone" "local" "remote"
    firstLogin _ after (fun _ => ⟨epoch, "commit"⟩) firstLogin_holds unsent proper accepted
  exact ⟨after, steps, accepted, made, count, applied, same⟩

end Ledgerly
