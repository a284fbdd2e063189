/-
This file separates what an account mutation comes to from what it writes: a receipt that
refuses it, or the record it puts under its id.

The decision reads accounts of the book of the mutation only. Account ids start with the id of
their book, those of the parents too, so that no account of another book is the one that is
named, its parent or one of its children.
-/

import Ledgerly.CategoryTree

namespace Ledgerly

/-- The columns that `process_account_mutation_pg` binds from the payload or from the row it has
selected. -/
structure AccountColumns where
  version : Int
  accountType : String
  currency : String
  parentAccountId : Option String

/-- The columns of a mutation over the record it found, if any. -/
def AccountPayload.columns (payload : AccountPayload) : Option AccountRecord → AccountColumns
  | none => ⟨1, payload.accountType, payload.currency, payload.parentAccountId.getD none⟩
  | some existing => ⟨existing.version + 1, existing.accountType, existing.currency,
      payload.parentAccountId.getD existing.parentAccountId⟩

/-- The record after `INSERT INTO accounts` or `UPDATE accounts`. -/
def AccountPayload.row (payload : AccountPayload) (bookId entityId : String)
    (columns : AccountColumns) : Option AccountRecord → AccountRecord
  | none => {
      id := entityId
      bookId := bookId
      name := payload.name
      accountType := payload.accountType
      currency := payload.currency
      parentAccountId := columns.parentAccountId
      version := 1 }
  | some existing => { existing with
      name := payload.name
      parentAccountId := columns.parentAccountId
      version := columns.version }

/-- A create finds no record, an update one of the book. -/
def Finds (bookId : String) (mutation : SyncMutationDto) : Option AccountRecord → Prop
  | none => mutation.operation = "create"
  | some existing => mutation.operation ≠ "create" ∧ existing.bookId = bookId

/-- What an account mutation comes to. -/
inductive AccountDecision (accounts : KeyMap String AccountRecord) (bookId : String)
    (mutation : SyncMutationDto) : Except MutationReceiptDto AccountRecord → Prop
  | malformed {receipt : MutationReceiptDto}
      (parsed : parseAccountPayload bookId mutation = .error receipt) :
      AccountDecision accounts bookId mutation (.error receipt)
  | taken {payload : AccountPayload} {existing : AccountRecord}
      (parsed : parseAccountPayload bookId mutation = .ok payload)
      (isCreate : mutation.operation = "create")
      (found : accounts.lookup mutation.entityId = some existing) :
      AccountDecision accounts bookId mutation
        (.error (rejectedReceipt mutation "LEDGER_VERSION_CONFLICT" (some existing.version)))
  | missing {payload : AccountPayload}
      (parsed : parseAccountPayload bookId mutation = .ok payload)
      (notCreate : mutation.operation ≠ "create")
      (notFound : ∀ existing, accounts.lookup mutation.entityId = some existing →
        existing.bookId ≠ bookId) :
      AccountDecision accounts bookId mutation
        (.error (rejectedReceipt mutation "ACCOUNT_NOT_FOUND" none))
  | badParent {payload : AccountPayload}
      (parsed : parseAccountPayload bookId mutation = .ok payload)
      (finds : Finds bookId mutation (accounts.lookup mutation.entityId))
      (invalid : validAccountParent accounts bookId mutation.entityId
        (payload.columns (accounts.lookup mutation.entityId)).accountType
        (payload.columns (accounts.lookup mutation.entityId)).parentAccountId = false) :
      AccountDecision accounts bookId mutation
        (.error (rejectedReceipt mutation "INVALID_CATEGORY_PARENT" none))
  | accepted {payload : AccountPayload}
      (parsed : parseAccountPayload bookId mutation = .ok payload)
      (finds : Finds bookId mutation (accounts.lookup mutation.entityId))
      (valid : validAccountParent accounts bookId mutation.entityId
        (payload.columns (accounts.lookup mutation.entityId)).accountType
        (payload.columns (accounts.lookup mutation.entityId)).parentAccountId = true) :
      AccountDecision accounts bookId mutation (.ok (payload.row bookId mutation.entityId
        (payload.columns (accounts.lookup mutation.entityId))
        (accounts.lookup mutation.entityId)))

section Decisions

variable {store : MemoryStore} {bookId : String} {mutation : SyncMutationDto}

/-- The memory backend refuses what is decided to be refused. -/
theorem AccountDecision.refuses {receipt : MutationReceiptDto}
    (decision : AccountDecision store.accounts bookId mutation (.error receipt)) (stamp : Stamp) :
    processAccountMutationMem store bookId mutation stamp = (store, receipt) := by
  unfold processAccountMutationMem
  cases decision with
  | malformed parsed => rw [parsed]
  | taken parsed isCreate found =>
    rw [parsed]
    simp only [found, if_pos isCreate]
  | missing parsed notCreate notFound =>
    rw [parsed]
    cases found : store.accounts.lookup mutation.entityId with
    | none => simp only [if_neg notCreate]
    | some existing => simp only [if_neg notCreate, if_pos (notFound existing found)]
  | badParent parsed finds invalid =>
    rw [parsed]
    cases found : store.accounts.lookup mutation.entityId with
    | none =>
      rw [found] at finds invalid
      simp only [if_pos (show mutation.operation = "create" from finds)]
      exact if_neg (ne_true_of_eq_false invalid)
    | some existing =>
      rw [found] at finds invalid
      simp only [if_neg finds.1, if_neg (not_not.mpr finds.2)]
      exact if_neg (ne_true_of_eq_false invalid)

/-- The memory backend writes what is decided to be written. -/
theorem AccountDecision.writes {record : AccountRecord}
    (decision : AccountDecision store.accounts bookId mutation (.ok record)) (stamp : Stamp) :
    processAccountMutationMem store bookId mutation stamp =
      writeAccountMem store bookId mutation record stamp := by
  unfold processAccountMutationMem
  cases decision with
  | accepted parsed finds valid =>
    rw [parsed]
    cases found : store.accounts.lookup mutation.entityId with
    | none =>
      rw [found] at finds valid
      simp only [if_pos (show mutation.operation = "create" from finds)]
      exact if_pos valid
    | some existing =>
      rw [found] at finds valid
      simp only [if_neg finds.1, if_neg (not_not.mpr finds.2)]
      exact if_pos valid

end Decisions

/-! ### Locality -/

/-- Accounts stand under an id of their book, and so do their parents. -/
def AccountsPlaced (accounts : KeyMap String AccountRecord) : Prop :=
  ∀ id account, accounts.lookup id = some account → ':' ∉ account.bookId.toList ∧
    (∃ key, id = scopedAccountId account.bookId key) ∧
      ∀ parentId, account.parentAccountId = some parentId →
        ∃ key, parentId = scopedAccountId account.bookId key

/-- Two states of the accounts with the same accounts under the ids of a book. -/
def AgreeOn (bookId : String) (first second : KeyMap String AccountRecord) : Prop :=
  ∀ key, first.lookup (scopedAccountId bookId key) = second.lookup (scopedAccountId bookId key)

theorem AgreeOn.symm {bookId : String} {first second : KeyMap String AccountRecord}
    (agree : AgreeOn bookId first second) : AgreeOn bookId second first :=
  fun key => (agree key).symm

section Locality

variable {bookId : String} {first second accounts : KeyMap String AccountRecord}

/-- Agreeing states have the same children of an account of the book. -/
theorem AgreeOn.noChildren (agree : AgreeOn bookId first second) (placed : AccountsPlaced second)
    (plain : ':' ∉ bookId.toList) {key : String}
    (none : ∀ id account, first.lookup id = some account →
      account.parentAccountId ≠ some (scopedAccountId bookId key)) :
    ∀ id account, second.lookup id = some account →
      account.parentAccountId ≠ some (scopedAccountId bookId key) := by
  intro id account found child
  obtain ⟨alsoPlain, ⟨own, rfl⟩, parents⟩ := placed id account found
  obtain ⟨other, same⟩ := parents _ child
  obtain rfl := bookId_eq_of_scoped plain alsoPlain same
  exact none _ account ((agree own).trans found) child

/-- A parent of the book is judged alike in agreeing states. -/
theorem AgreeOn.validAccountParent_imp (agree : AgreeOn bookId first second)
    (placed : AccountsPlaced second) (plain : ':' ∉ bookId.toList) {key accountType : String}
    {parentAccountId : Option String}
    (scopedParent : ∀ parentId, parentAccountId = some parentId →
      ∃ other, parentId = scopedAccountId bookId other)
    (valid : validAccountParent first bookId (scopedAccountId bookId key) accountType
      parentAccountId = true) :
    validAccountParent second bookId (scopedAccountId bookId key) accountType parentAccountId =
      true := by
  cases parentAccountId with
  | none => rfl
  | some parentId =>
    obtain ⟨other, rfl⟩ := scopedParent parentId rfl
    rw [validAccountParent_iff] at valid ⊢
    obtain ⟨type, notSelf, ⟨parent, found, fits⟩, children⟩ := valid
    exact ⟨type, notSelf, ⟨parent, (agree other).symm.trans found, fits⟩,
      agree.noChildren placed plain children⟩

theorem AgreeOn.validAccountParent_eq (agree : AgreeOn bookId first second)
    (placedFirst : AccountsPlaced first) (placedSecond : AccountsPlaced second)
    (plain : ':' ∉ bookId.toList) {key accountType : String} {parentAccountId : Option String}
    (scopedParent : ∀ parentId, parentAccountId = some parentId →
      ∃ other, parentId = scopedAccountId bookId other) :
    validAccountParent first bookId (scopedAccountId bookId key) accountType parentAccountId =
      validAccountParent second bookId (scopedAccountId bookId key) accountType
        parentAccountId := by
  rw [Bool.eq_iff_iff]
  exact ⟨agree.validAccountParent_imp placedSecond plain scopedParent,
    agree.symm.validAccountParent_imp placedFirst plain scopedParent⟩

/-- A payload names a parent of the book. -/
theorem parseAccountPayload_parent {mutation : SyncMutationDto} {payload : AccountPayload}
    (parsed : parseAccountPayload bookId mutation = .ok payload) {parentId : String}
    (named : payload.parentAccountId = some (some parentId)) :
    ∃ key, parentId = scopedAccountId bookId key := by
  have read : parseParentAccountId (bookId ++ ":") mutation.payload =
      some payload.parentAccountId := by
    simp only [parseAccountPayload] at parsed
    split at parsed
    · cases parsed
    · split at parsed
      · cases parsed
      · split at parsed
        · split at parsed
          · split at parsed
            · rename_i parentAccountId found
              rw [found, ← Except.ok.inj parsed]
            · cases parsed
          · cases parsed
        · cases parsed
  rw [named] at read
  unfold parseParentAccountId at read
  split at read
  · cases read
  · cases read
  · split at read
    · rename_i text _ test
      obtain rfl : text = parentId := by simpa using read
      exact ⟨_, append_of_stripPrefix (if_pos test.1)⟩
    · cases read
  · cases read

/-- The parent of the columns of a mutation is of the book. -/
theorem columns_parent {mutation : SyncMutationDto} {payload : AccountPayload}
    (parsed : parseAccountPayload bookId mutation = .ok payload)
    (placed : AccountsPlaced accounts)
    (finds : Finds bookId mutation (accounts.lookup mutation.entityId)) {parentId : String}
    (named : (payload.columns (accounts.lookup mutation.entityId)).parentAccountId =
      some parentId) : ∃ key, parentId = scopedAccountId bookId key := by
  cases found : accounts.lookup mutation.entityId with
  | none =>
    rw [found] at named
    cases given : payload.parentAccountId with
    | none => rw [AccountPayload.columns, given] at named; cases named
    | some parent =>
      rw [AccountPayload.columns, given] at named
      exact parseAccountPayload_parent parsed (given.trans (congrArg some named))
  | some existing =>
    rw [found] at named finds
    cases given : payload.parentAccountId with
    | none =>
      rw [AccountPayload.columns, given] at named
      obtain ⟨-, -, parents⟩ := placed _ existing found
      rw [← finds.2]
      exact parents parentId named
    | some parent =>
      rw [AccountPayload.columns, given] at named
      exact parseAccountPayload_parent parsed (given.trans (congrArg some named))

/-- A mutation comes to the same in agreeing states. -/
theorem AccountDecision.congr {mutation : SyncMutationDto}
    {outcome : Except MutationReceiptDto AccountRecord} (agree : AgreeOn bookId first second)
    (placedFirst : AccountsPlaced first) (placedSecond : AccountsPlaced second)
    (plain : ':' ∉ bookId.toList) (decision : AccountDecision first bookId mutation outcome) :
    AccountDecision second bookId mutation outcome := by
  have entity : ∀ {payload : AccountPayload}, parseAccountPayload bookId mutation = .ok payload →
      first.lookup mutation.entityId = second.lookup mutation.entityId := by
    intro payload parsed
    obtain ⟨key, scopedEntity⟩ := parseAccountPayload_scoped parsed
    rw [scopedEntity, agree key]
  have judged : ∀ {payload : AccountPayload}, parseAccountPayload bookId mutation = .ok payload →
      Finds bookId mutation (first.lookup mutation.entityId) →
      validAccountParent first bookId mutation.entityId
          (payload.columns (first.lookup mutation.entityId)).accountType
          (payload.columns (first.lookup mutation.entityId)).parentAccountId =
        validAccountParent second bookId mutation.entityId
          (payload.columns (first.lookup mutation.entityId)).accountType
          (payload.columns (first.lookup mutation.entityId)).parentAccountId := by
    intro payload parsed finds
    obtain ⟨key, scopedEntity⟩ := parseAccountPayload_scoped parsed
    have parents : ∀ parentId,
        (payload.columns (first.lookup mutation.entityId)).parentAccountId = some parentId →
          ∃ other, parentId = scopedAccountId bookId other :=
      fun _ => columns_parent parsed placedFirst finds
    generalize payload.columns (first.lookup mutation.entityId) = columns at parents ⊢
    rw [scopedEntity]
    exact agree.validAccountParent_eq placedFirst placedSecond plain parents
  cases decision with
  | malformed parsed => exact .malformed parsed
  | taken parsed isCreate found => exact .taken parsed isCreate ((entity parsed).symm.trans found)
  | missing parsed notCreate notFound =>
    exact .missing parsed notCreate ((entity parsed) ▸ notFound)
  | badParent parsed finds invalid =>
    rw [judged parsed finds] at invalid
    rw [entity parsed] at finds invalid
    exact .badParent parsed finds invalid
  | accepted parsed finds valid =>
    rw [judged parsed finds] at valid
    rw [entity parsed] at finds valid ⊢
    exact .accepted parsed finds valid

/-- The record that is written belongs where it is put. -/
theorem AccountDecision.writesAccount {mutation : SyncMutationDto} {record : AccountRecord}
    (decision : AccountDecision accounts bookId mutation (.ok record)) :
    WritesAccount accounts bookId mutation record := by
  cases decision with
  | accepted parsed finds valid =>
    have placed := parseAccountPayload_scoped parsed
    cases found : accounts.lookup mutation.entityId with
    | none =>
      rw [found] at valid
      refine ⟨rfl, placed, valid, fun existing isThere => ?_⟩
      rw [found] at isThere
      cases isThere
    | some existing =>
      rw [found] at valid finds
      refine ⟨finds.2, placed, valid, fun other isThere => ?_⟩
      rw [found] at isThere
      cases isThere
      exact ⟨finds.2, rfl, rfl⟩

/-- A parent that is asked for is there, so that it is of the book. -/
theorem WritesAccount.insert_placed {mutation : SyncMutationDto} {record : AccountRecord}
    (writes : WritesAccount accounts bookId mutation record) (placed : AccountsPlaced accounts)
    (plain : ':' ∉ bookId.toList) :
    AccountsPlaced (accounts.insert mutation.entityId record) := by
  intro id account found
  rcases KeyMap.lookup_insert_eq_some found with ⟨rfl, rfl⟩ | ⟨-, before⟩
  · rw [writes.owned]
    refine ⟨plain, writes.placed, fun parentId named => ?_⟩
    have valid := writes.valid
    rw [named, validAccountParent_iff] at valid
    obtain ⟨-, -, ⟨parent, there, inBook, -⟩, -⟩ := valid
    obtain ⟨-, ownKey, -⟩ := placed parentId parent there
    rwa [inBook] at ownKey
  · exact placed id account before

/-- A state of the accounts whose books each stand as in one of two trees is a tree. -/
theorem CategoryTree.of_agree {after : KeyMap String AccountRecord} (placed : AccountsPlaced after)
    (treeFirst : CategoryTree first) (treeSecond : CategoryTree second)
    (agree : ∀ book, ':' ∉ book.toList → AgreeOn book first after ∨ AgreeOn book second after) :
    CategoryTree after := by
  have within : ∀ {accounts : KeyMap String AccountRecord} {book : String},
      CategoryTree accounts → AgreeOn book accounts after → ∀ key account other,
        after.lookup (scopedAccountId book key) = some account →
        account.parentAccountId = some (scopedAccountId book other) →
        ∃ parent, after.lookup (scopedAccountId book other) = some parent ∧
          parent.parentAccountId = none ∧ account.Under parent := by
    intro accounts book tree agrees key account other found named
    obtain ⟨parent, there, fits⟩ := tree _ account _ ((agrees key).trans found) named
    exact ⟨parent, (agrees other).symm.trans there, fits⟩
  intro id account parentId found named
  obtain ⟨plain, ⟨key, rfl⟩, parents⟩ := placed id account found
  obtain ⟨other, rfl⟩ := parents parentId named
  rcases agree account.bookId plain with agrees | agrees
  · exact within treeFirst agrees key account other found named
  · exact within treeSecond agrees key account other found named

end Locality

/-! ### The accounts of the server -/

section Server

variable [Rfc3339] {store : MemoryStore}

theorem push_accountsPlaced (placed : store.Scoped) (accounts : AccountsPlaced store.accounts)
    (request : PushRequest) : AccountsPlaced (push store request).1.accounts := by
  unfold push
  split
  · exact accounts
  · rename_i member
    obtain ⟨book, found⟩ : ∃ book, store.books.lookup request.bookId = some book := by
      unfold requireBookMember at member
      split at member
      · rename_i book found
        exact ⟨book, found⟩
      · cases member
    have plain := (placed.books _ book found).2
    have each : ∀ reached : MemoryStore, ∀ step ∈ request.steps,
        AccountsPlaced reached.accounts → AccountsPlaced (pushStep reached step).accounts := by
      intro reached step isStep before
      rcases pushStep_accounts reached step with unchanged | ⟨record, writes, written⟩
      · rw [unchanged]
        exact before
      · rw [written]
        refine writes.insert_placed before ?_
        rw [(request.addressed step isStep).1]
        exact plain
    have kept := Machine.run_invariant_of_mem each accounts
    exact kept

/-- Whatever logins, new books and pushes have made of the accounts, they are placed. -/
theorem bookStep_accountsPlaced (placed : store.Scoped) (accounts : AccountsPlaced store.accounts)
    (event : BookEvent) : AccountsPlaced (bookStep store event).accounts := by
  have seeded : ∀ (before : MemoryStore) (bookId : String), ':' ∉ bookId.toList →
      AccountsPlaced before.accounts →
      AccountsPlaced (seedAccountsMem before bookId).accounts := by
    intro before bookId plain wasPlaced id record found
    rcases seedAccountsMem_account found with there | ⟨-, account, -, rfl, rfl⟩
    · exact wasPlaced id record there
    · refine ⟨plain, ⟨account.key, rfl⟩, fun parentId named => ?_⟩
      obtain ⟨key, -, rfl⟩ := Option.map_eq_some_iff.mp named
      exact ⟨key, rfl⟩
  have plainOf : ∀ {newId : String}, store.freshBook newId = true → ':' ∉ newId.toList := by
    intro newId fresh
    simp only [MemoryStore.freshBook, Bool.and_eq_true, decide_eq_true_eq] at fresh
    exact fresh.2
  cases event with
  | push request => exact push_accountsPlaced placed accounts request
  | createBook userId name currencyCode newId =>
    simp only [bookStep]
    split
    · rename_i fresh
      unfold createBook
      split
      · exact accounts
      · split
        · exact accounts
        · intro id account found
          rcases KeyMap.lookup_insert_eq_some found with ⟨rfl, rfl⟩ | ⟨-, before⟩
          · exact ⟨plainOf fresh, ⟨"acc_bank", rfl⟩, fun _ none => by cases none⟩
          · rcases KeyMap.lookup_insert_eq_some before with ⟨rfl, rfl⟩ | ⟨-, first⟩
            · exact ⟨plainOf fresh, ⟨"acc_cash", rfl⟩, fun _ none => by cases none⟩
            · exact accounts id account first
    · exact accounts
  | login userId first newId =>
    simp only [bookStep]
    split
    · rename_i possible
      obtain ⟨fresh, -⟩ := Bool.and_eq_true_iff.mp possible
      cases met : (store.books.lookup first).filter fun book => book.ownerId = userId with
      | some existing =>
        obtain ⟨found, -⟩ := Option.filter_eq_some_iff.mp met
        obtain ⟨hasId, plain⟩ := placed.books first existing found
        rw [ensureDemoBook_of_some met]
        exact seeded store existing.id (hasId ▸ plain) accounts
      | none =>
        rw [ensureDemoBook_of_none met]
        exact seeded (store.withBook newId "Personal" userId) newId (plainOf fresh) accounts
    · exact accounts

theorem run_accountsPlaced (events : List BookEvent) :
    AccountsPlaced (Machine.run bookStep emptyServer events).accounts := by
  have both : ∀ (reached : MemoryStore) (event : BookEvent),
      reached.Scoped ∧ AccountsPlaced reached.accounts →
      (bookStep reached event).Scoped ∧ AccountsPlaced (bookStep reached event).accounts :=
    fun reached event kept =>
      ⟨(bookStep_tree kept.1 event).1, bookStep_accountsPlaced kept.1 kept.2 event⟩
  refine (Machine.run_invariant both ⟨emptyServer_scoped, fun id account none => ?_⟩ events).2
  cases (AList.lookup_empty id).symm.trans none

end Server

end Ledgerly
