/-
This file settles when the categories of the memory backend form a tree of two levels.

Every push of an account asks `valid_account_parent_mem`, and `create_book` opens roots only.
The seeding of the default accounts puts in what is missing and asks nothing: it hangs a
default category under whatever account has the id of its parent. In a book that was opened
without the defaults a user can have made that account something else before the next login.
-/

import Ledgerly.Books
import Ledgerly.Library.TwoLevel

namespace Ledgerly

/-- A parent fits a category of the same book and type; only expenses and incomes have one. -/
def AccountRecord.Under (account parent : AccountRecord) : Prop :=
  (account.accountType = "expense" ∨ account.accountType = "income") ∧
    parent.bookId = account.bookId ∧ parent.accountType = account.accountType

/-- Every account with a parent is an expense or an income under a root of its book and type. -/
def CategoryTree (accounts : KeyMap String AccountRecord) : Prop :=
  accounts.TwoLevel AccountRecord.parentAccountId AccountRecord.Under

/-- No account changes its type, its currency or its book. -/
def SameAccounts (before after : KeyMap String AccountRecord) : Prop :=
  ∀ id account, before.lookup id = some account → ∃ later, after.lookup id = some later ∧
    later.accountType = account.accountType ∧ later.currency = account.currency ∧
      later.bookId = account.bookId

theorem SameAccounts.refl (accounts : KeyMap String AccountRecord) :
    SameAccounts accounts accounts :=
  fun _ account found => ⟨account, found, rfl, rfl, rfl⟩

theorem SameAccounts.trans {first second third : KeyMap String AccountRecord}
    (before : SameAccounts first second) (after : SameAccounts second third) :
    SameAccounts first third := by
  intro id account found
  obtain ⟨middle, there, type, currency, book⟩ := before id account found
  obtain ⟨last, still, sameType, sameCurrency, sameBook⟩ := after id middle there
  exact ⟨last, still, sameType.trans type, sameCurrency.trans currency, sameBook.trans book⟩

/-- A default category that is missing finds its parent missing, too, or a root of its type. -/
def SeedsWell (store : MemoryStore) (bookId : String) : Prop :=
  ∀ account ∈ defaultAccounts, ∀ parentKey, account.parentKey = some parentKey →
    store.accounts.lookup (scopedAccountId bookId account.key) = none →
    ∀ parent, store.accounts.lookup (scopedAccountId bookId parentKey) = some parent →
      parent.accountType = account.accountType ∧ parent.parentAccountId = none

/-- A login seeds no book in which an account has taken the place of a default parent. -/
def KeepsTree (store : MemoryStore) : BookEvent → Prop
  | .push _ => True
  | .createBook _ _ _ _ => True
  | .login userId first newId => store.freshBook newId = true → store.meets userId first = true →
      SeedsWell store ((((store.books.lookup first).filter fun book =>
        book.ownerId = userId).map BookRecord.id).getD newId)

/-! ### Account ids -/

theorem scopedAccountId_inj {bookId first second : String}
    (same : scopedAccountId bookId first = scopedAccountId bookId second) : first = second := by
  have letters := congrArg String.toList same
  simpa only [scopedAccountId, String.toList_append, List.append_cancel_left_eq,
    String.toList_inj] using letters

/-- A book id without a colon is the part of an account id before the first one. -/
theorem bookId_eq_of_scoped {first second key other : String} (plain : ':' ∉ first.toList)
    (alsoPlain : ':' ∉ second.toList) (same : scopedAccountId first key =
      scopedAccountId second other) : first = second := by
  have before : ∀ (book rest : String), ':' ∉ book.toList →
      (scopedAccountId book rest).toList.takeWhile (· ≠ ':') = book.toList := by
    intro book rest noColon
    have all : ∀ letter ∈ book.toList, decide (letter ≠ ':') = true := by
      intro letter member
      simpa using fun isColon : letter = ':' => noColon (isColon ▸ member)
    rw [scopedAccountId, String.toList_append, String.toList_append, List.append_assoc,
      List.takeWhile_append_of_pos all]
    simp
  have both := congrArg (fun text : String => text.toList.takeWhile (· ≠ ':')) same
  simp only [before first key plain, before second other alsoPlain] at both
  exact String.toList_inj.mp both

/-- Books stand under their ids, which have no colon, and accounts under an id of their
book. -/
structure MemoryStore.Scoped (store : MemoryStore) : Prop where
  books : ∀ id book, store.books.lookup id = some book → book.id = id ∧ ':' ∉ id.toList
  accounts : ∀ id account, store.accounts.lookup id = some account →
    (store.books.lookup account.bookId).isSome = true ∧
      ∃ key, id = scopedAccountId account.bookId key

theorem MemoryStore.Scoped.bookId_eq {store : MemoryStore} (placed : store.Scoped)
    {bookId key : String} {account : AccountRecord} (plain : ':' ∉ bookId.toList)
    (found : store.accounts.lookup (scopedAccountId bookId key) = some account) :
    account.bookId = bookId := by
  obtain ⟨isBook, other, same⟩ := placed.accounts _ account found
  obtain ⟨book, isThere⟩ := Option.isSome_iff_exists.mp isBook
  exact (bookId_eq_of_scoped plain (placed.books _ book isThere).2 same).symm

/-- A new book has no accounts yet. -/
theorem MemoryStore.Scoped.missing {store : MemoryStore} (placed : store.Scoped) {newId : String}
    (fresh : store.freshBook newId = true) (key : String) :
    store.accounts.lookup (scopedAccountId newId key) = none := by
  simp only [freshBook, Bool.and_eq_true, decide_eq_true_eq] at fresh
  cases found : store.accounts.lookup (scopedAccountId newId key) with
  | none => rfl
  | some account =>
    have isBook := (placed.accounts _ account found).1
    rw [placed.bookId_eq fresh.2 found, Option.isNone_iff_eq_none.mp fresh.1] at isBook
    exact absurd isBook (by decide)

/-! ### Pushes -/

/-- The record an accepted account mutation writes: of the book, under an id of the book, with a
valid parent, and over an existing one without changing its type and currency. -/
structure WritesAccount (accounts : KeyMap String AccountRecord) (bookId : String)
    (mutation : SyncMutationDto) (record : AccountRecord) : Prop where
  owned : record.bookId = bookId
  placed : ∃ key, mutation.entityId = scopedAccountId bookId key
  valid : validAccountParent accounts bookId mutation.entityId record.accountType
    record.parentAccountId = true
  kept : ∀ existing, accounts.lookup mutation.entityId = some existing →
    existing.bookId = bookId ∧ record.accountType = existing.accountType ∧
      record.currency = existing.currency

/-- An accepted account payload names an account of the book. -/
theorem parseAccountPayload_scoped {bookId : String} {mutation : SyncMutationDto}
    {payload : AccountPayload} (parsed : parseAccountPayload bookId mutation = .ok payload) :
    ∃ key, mutation.entityId = scopedAccountId bookId key := by
  simp only [parseAccountPayload] at parsed
  split at parsed
  · cases parsed
  · split at parsed
    · cases parsed
    · rename_i nonempty
      cases stripped : stripPrefix mutation.entityId (bookId ++ ":") with
      | none => exact absurd (by rw [stripped]; rfl) nonempty
      | some key => exact ⟨key, append_of_stripPrefix stripped⟩

theorem processAccountMutationMem_accounts (store : MemoryStore) (bookId : String)
    (mutation : SyncMutationDto) (stamp : Stamp) :
    (processAccountMutationMem store bookId mutation stamp).1.accounts = store.accounts ∨
      ∃ record, WritesAccount store.accounts bookId mutation record ∧
        (processAccountMutationMem store bookId mutation stamp).1.accounts =
          store.accounts.insert mutation.entityId record := by
  unfold processAccountMutationMem
  split
  · exact Or.inl rfl
  · rename_i payload parsed
    have placed := parseAccountPayload_scoped parsed
    split
    · rename_i existing found
      split
      · exact Or.inl rfl
      · split
        · exact Or.inl rfl
        · rename_i owned
          have owned := not_not.mp owned
          simp only
          split
          · rename_i valid
            refine Or.inr ⟨{ existing with
              name := payload.name
              parentAccountId := payload.parentAccountId.getD existing.parentAccountId
              version := existing.version + 1 }, ⟨owned, placed, valid, fun other isThere => ?_⟩,
              rfl⟩
            rw [found] at isThere
            cases isThere
            exact ⟨owned, rfl, rfl⟩
          · exact Or.inl rfl
    · rename_i missing
      split
      · simp only
        split
        · rename_i valid
          refine Or.inr ⟨{
            id := mutation.entityId
            bookId := bookId
            name := payload.name
            accountType := payload.accountType
            currency := payload.currency
            parentAccountId := payload.parentAccountId.getD none
            version := 1 }, ⟨rfl, placed, valid, fun other isThere => ?_⟩, rfl⟩
          rw [missing] at isThere
          cases isThere
        · exact Or.inl rfl
      · exact Or.inl rfl

/-- What a parent passes. -/
theorem validAccountParent_iff {accounts : KeyMap String AccountRecord}
    {bookId accountId accountType parentId : String} :
    validAccountParent accounts bookId accountId accountType (some parentId) = true ↔
      (accountType = "expense" ∨ accountType = "income") ∧ parentId ≠ accountId ∧
        (∃ parent, accounts.lookup parentId = some parent ∧ parent.bookId = bookId ∧
          parent.accountType = accountType ∧ parent.parentAccountId = none) ∧
        ∀ id account, accounts.lookup id = some account →
          account.parentAccountId ≠ some accountId := by
  unfold validAccountParent
  simp only
  split
  · rename_i refused
    refine iff_of_false Bool.false_ne_true ?_
    rintro ⟨type, notSelf, -⟩
    rcases refused with wrongType | isSelf
    · exact wrongType (by simpa using type)
    · exact notSelf isSelf
  · rename_i passed
    obtain ⟨type, notSelf⟩ := not_or.mp passed
    have type : accountType = "expense" ∨ accountType = "income" := by
      simpa using not_not.mp type
    split
    · rename_i missing
      refine iff_of_false Bool.false_ne_true ?_
      rintro ⟨-, -, ⟨parent, found, -⟩, -⟩
      rw [missing] at found
      cases found
    · rename_i parent found
      have children : (accounts.values.any fun account =>
          decide (account.parentAccountId = some accountId)) = false ↔
          ∀ id account, accounts.lookup id = some account →
            account.parentAccountId ≠ some accountId := by
        rw [List.any_eq_false]
        constructor
        · intro none id account isThere child
          exact none account (KeyMap.mem_values_of_lookup isThere) (by simpa using child)
        · intro none account member child
          obtain ⟨id, isThere⟩ := KeyMap.mem_values_iff.mp member
          exact none id account isThere (by simpa using child)
      simp only [Bool.and_eq_true, decide_eq_true_eq, Bool.not_eq_true', children,
        Option.isNone_iff_eq_none, and_assoc]
      constructor
      · rintro ⟨book, sameType, root, none⟩
        exact ⟨type, notSelf, ⟨parent, found, book, sameType, root⟩, none⟩
      · rintro ⟨-, -, ⟨other, isThere, book, sameType, root⟩, none⟩
        rw [found] at isThere
        cases isThere
        exact ⟨book, sameType, root, none⟩

section Pushes

variable {accounts : KeyMap String AccountRecord} {bookId : String} {mutation : SyncMutationDto}
  {record : AccountRecord}

/-- An accepted account mutation keeps the tree. -/
theorem WritesAccount.tree (writes : WritesAccount accounts bookId mutation record)
    (tree : CategoryTree accounts) :
    CategoryTree (accounts.insert mutation.entityId record) := by
  have valid := writes.valid
  refine tree.insert (fun parentId named => ?_) fun other below found _ child => ?_
  · rw [named, validAccountParent_iff] at valid
    obtain ⟨type, notSelf, ⟨parent, there, book, sameType, root⟩, -⟩ := valid
    exact ⟨notSelf, parent, there, root, type, book.trans writes.owned.symm, sameType⟩
  · cases named : record.parentAccountId with
    | some parentId =>
      rw [named, validAccountParent_iff] at valid
      exact absurd child (valid.2.2.2 other below found)
    | none =>
      obtain ⟨existing, there, -, type, book, sameType⟩ := tree other below _ found child
      obtain ⟨inBook, keptType, -⟩ := writes.kept existing there
      exact ⟨rfl, type, writes.owned.trans (inBook.symm.trans book), keptType.trans sameType⟩

theorem WritesAccount.same (writes : WritesAccount accounts bookId mutation record) :
    SameAccounts accounts (accounts.insert mutation.entityId record) := by
  intro id account found
  by_cases isEntity : id = mutation.entityId
  · subst isEntity
    obtain ⟨inBook, type, currency⟩ := writes.kept account found
    exact ⟨record, AList.lookup_insert _, type, currency, writes.owned.trans inBook.symm⟩
  · exact ⟨account, (AList.lookup_insert_ne isEntity).trans found, rfl, rfl, rfl⟩

variable [Rfc3339] {store : MemoryStore}

/-- What one push does to the accounts. -/
theorem pushStep_accounts (store : MemoryStore) (step : PushStep) :
    (pushStep store step).accounts = store.accounts ∨
      ∃ record, WritesAccount store.accounts step.bookId step.mutation record ∧
        (pushStep store step).accounts =
          store.accounts.insert step.mutation.entityId record := by
  cases stored : store.mutations.lookup step.key with
  | some receipt =>
    rw [pushStep_replayed stored]
    exact Or.inl rfl
  | none =>
    rw [pushStep_processed stored]
    show (processMutationMem store step.bookId step.mutation step.stamp).1.accounts = _ ∨ ∃ record,
      _ ∧ (processMutationMem store step.bookId step.mutation step.stamp).1.accounts = _
    by_cases isAccount : step.mutation.entityType = "account"
    · rw [processMutationMem, if_pos isAccount]
      exact processAccountMutationMem_accounts store step.bookId step.mutation step.stamp
    · have effect := processMutationMem_effect store step.bookId step.mutation step.stamp
      generalize processMutationMem store step.bookId step.mutation step.stamp = outcome at effect
      cases effect with
      | refused | deduped | upserted | deleted => exact Or.inl rfl
      | accountWritten record accepts => exact absurd accepts.isAccount isAccount

theorem pushStep_books (store : MemoryStore) (step : PushStep) :
    (pushStep store step).books = store.books :=
  pushStep_elim (motive := fun after => after.books = store.books) step (fun _ _ same => same) rfl
    (fun _ _ _ _ => rfl) (fun _ _ => rfl) fun _ _ => rfl

/-- Every step to a book that is there keeps the placement, the tree, and the accounts. -/
theorem pushStep_tree {step : PushStep} (placed : store.Scoped)
    (isBook : (store.books.lookup step.bookId).isSome = true) :
    (pushStep store step).Scoped ∧
      (CategoryTree store.accounts → CategoryTree (pushStep store step).accounts) ∧
      SameAccounts store.accounts (pushStep store step).accounts := by
  have books := pushStep_books store step
  rcases pushStep_accounts store step with unchanged | ⟨record, writes, written⟩
  · refine ⟨⟨by rw [books]; exact placed.books, by rw [books, unchanged]; exact placed.accounts⟩, ?_,
      ?_⟩
    · rw [unchanged]
      exact id
    · rw [unchanged]
      exact .refl _
  · rw [written]
    refine ⟨⟨by rw [books]; exact placed.books, ?_⟩, writes.tree, writes.same⟩
    rw [books, written]
    intro id account found
    rcases KeyMap.lookup_insert_eq_some found with ⟨rfl, rfl⟩ | ⟨-, before⟩
    · rw [writes.owned]
      exact ⟨isBook, writes.placed⟩
    · exact placed.accounts id account before

/-- A request keeps them, whoever makes it. -/
theorem push_tree (placed : store.Scoped) (request : PushRequest) :
    (push store request).1.Scoped ∧
      (CategoryTree store.accounts → CategoryTree (push store request).1.accounts) ∧
      SameAccounts store.accounts (push store request).1.accounts := by
  have nothing : store.Scoped ∧ (CategoryTree store.accounts → CategoryTree store.accounts) ∧
      SameAccounts store.accounts store.accounts := ⟨placed, id, .refl _⟩
  unfold push
  split
  · exact nothing
  · rename_i member
    have isBook : (store.books.lookup request.bookId).isSome = true := by
      unfold requireBookMember at member
      split at member
      · rename_i book found
        rw [found]
        rfl
      · cases member
    have each : ∀ reached : MemoryStore, ∀ step ∈ request.steps,
        (reached.books = store.books ∧ reached.Scoped ∧
          (CategoryTree store.accounts → CategoryTree reached.accounts) ∧
          SameAccounts store.accounts reached.accounts) →
        (pushStep reached step).books = store.books ∧ (pushStep reached step).Scoped ∧
          (CategoryTree store.accounts → CategoryTree (pushStep reached step).accounts) ∧
          SameAccounts store.accounts (pushStep reached step).accounts := by
      rintro reached step isStep ⟨books, stillPlaced, tree, same⟩
      have there : (reached.books.lookup step.bookId).isSome = true := by
        rw [books, (request.addressed step isStep).1]
        exact isBook
      obtain ⟨nextPlaced, nextTree, nextSame⟩ := pushStep_tree stillPlaced there
      exact ⟨(pushStep_books reached step).trans books, nextPlaced, fun first =>
        nextTree (tree first), same.trans nextSame⟩
    exact (Machine.run_invariant_of_mem each ⟨rfl, nothing⟩).2

end Pushes

/-! ### The seeding -/

/-- A default account with a parent is an expense or an income under a default root of its
type. -/
theorem defaultAccounts_parent : ∀ account ∈ defaultAccounts, ∀ parentKey ∈ account.parentKey,
    (account.accountType = "expense" ∨ account.accountType = "income") ∧
      ∃ parent ∈ defaultAccounts, parent.key = parentKey ∧ parent.parentKey = none ∧
        parent.accountType = account.accountType := by
  decide +kernel

/-- The keys of the default accounts are distinct. -/
theorem defaultAccounts_find : ∀ account ∈ defaultAccounts,
    (defaultAccounts.find? fun other => other.key = account.key) = some account := by
  decide +kernel

section Seeding

variable (store : MemoryStore) (bookId : String)

theorem seedAccountsMem_books : (seedAccountsMem store bookId).books = store.books :=
  List.foldlRecOn defaultAccounts (seedAccount bookId)
    (motive := fun reached => reached.books = store.books) rfl fun reached kept account _ => by
      unfold seedAccount
      split
      · exact kept
      · exact kept

/-- What stands under an id after the seeding. -/
theorem seedAccountsMem_lookup (id : String) :
    (seedAccountsMem store bookId).accounts.lookup id =
      (store.accounts.lookup id).or ((defaultAccounts.find? fun account =>
        scopedAccountId bookId account.key = id).map fun account => account.record bookId) := by
  refine KeyMap.lookup_foldl_insert_missing MemoryStore.accounts
    (fun account : DefaultAccount => scopedAccountId bookId account.key)
    (fun account => account.record bookId) (seedAccount bookId) (fun reached account => ?_) store
    defaultAccounts id
  unfold seedAccount
  split
  · rfl
  · rfl

variable {store bookId}

/-- The seeding overwrites nothing. -/
theorem seedAccountsMem_kept {id : String} {account : AccountRecord}
    (found : store.accounts.lookup id = some account) :
    (seedAccountsMem store bookId).accounts.lookup id = some account := by
  rw [seedAccountsMem_lookup, found, Option.some_or]

/-- A default account that is missing is put in. -/
theorem seedAccountsMem_put {account : DefaultAccount} (member : account ∈ defaultAccounts)
    (missing : store.accounts.lookup (scopedAccountId bookId account.key) = none) :
    (seedAccountsMem store bookId).accounts.lookup (scopedAccountId bookId account.key) =
      some (account.record bookId) := by
  have sameKey : (fun other : DefaultAccount => decide (scopedAccountId bookId other.key =
      scopedAccountId bookId account.key)) = fun other => decide (other.key = account.key) := by
    funext other
    exact decide_eq_decide.mpr ⟨scopedAccountId_inj, congrArg _⟩
  rw [seedAccountsMem_lookup, missing, Option.none_or, sameKey,
    defaultAccounts_find account member, Option.map_some]

/-- Every account after the seeding was there, or is a default account that was missing. -/
theorem seedAccountsMem_account {id : String} {record : AccountRecord}
    (found : (seedAccountsMem store bookId).accounts.lookup id = some record) :
    store.accounts.lookup id = some record ∨ store.accounts.lookup id = none ∧
      ∃ account ∈ defaultAccounts, id = scopedAccountId bookId account.key ∧
        record = account.record bookId := by
  rw [seedAccountsMem_lookup] at found
  cases there : store.accounts.lookup id with
  | some before =>
    rw [there, Option.some_or] at found
    exact Or.inl found
  | none =>
    rw [there, Option.none_or] at found
    obtain ⟨account, isFound, rfl⟩ := Option.map_eq_some_iff.mp found
    have hasId := List.find?_some isFound
    exact Or.inr ⟨rfl, account, List.mem_of_find?_eq_some isFound,
      (of_decide_eq_true hasId).symm, rfl⟩

variable (store bookId) in
theorem seedAccountsMem_same :
    SameAccounts store.accounts (seedAccountsMem store bookId).accounts :=
  fun _ account found => ⟨account, seedAccountsMem_kept found, rfl, rfl, rfl⟩

theorem seedAccountsMem_scoped (placed : store.Scoped)
    (isBook : (store.books.lookup bookId).isSome = true) :
    (seedAccountsMem store bookId).Scoped := by
  have books := seedAccountsMem_books store bookId
  refine ⟨by rw [books]; exact placed.books, fun id record found => ?_⟩
  rw [books]
  rcases seedAccountsMem_account found with before | ⟨-, account, -, rfl, rfl⟩
  · exact placed.accounts id record before
  · exact ⟨isBook, account.key, rfl⟩

/-- The seeding keeps the tree exactly if it finds every parent it needs as a root of its
type. -/
theorem seedAccountsMem_tree_iff (placed : store.Scoped) (plain : ':' ∉ bookId.toList)
    (tree : CategoryTree store.accounts) :
    CategoryTree (seedAccountsMem store bookId).accounts ↔ SeedsWell store bookId := by
  constructor
  · intro after account member parentKey named missing parent there
    obtain ⟨above, found, root, fitting⟩ := after _ _ (scopedAccountId bookId parentKey)
      (seedAccountsMem_put member missing)
      (congrArg (Option.map (scopedAccountId bookId)) named)
    rw [seedAccountsMem_kept there] at found
    cases found
    exact ⟨fitting.2.2, root⟩
  · intro well id record parentId found named
    rcases seedAccountsMem_account found with before | ⟨missing, account, member, rfl, rfl⟩
    · obtain ⟨parent, there, root, fitting⟩ := tree id record parentId before named
      exact ⟨parent, seedAccountsMem_kept there, root, fitting⟩
    · obtain ⟨parentKey, hasParent, rfl⟩ := Option.map_eq_some_iff.mp named
      obtain ⟨type, default, isDefault, rfl, isRoot, sameType⟩ :=
        defaultAccounts_parent account member parentKey hasParent
      cases there : store.accounts.lookup (scopedAccountId bookId default.key) with
      | some parent =>
        obtain ⟨parentType, root⟩ := well account member default.key hasParent missing parent there
        exact ⟨parent, seedAccountsMem_kept there, root, type, placed.bookId_eq plain there,
          parentType⟩
      | none =>
        refine ⟨default.record bookId, seedAccountsMem_put isDefault there, ?_, type, rfl, sameType⟩
        exact congrArg (Option.map (scopedAccountId bookId)) isRoot

end Seeding

/-! ### New books -/

section NewBooks

variable {store : MemoryStore}

/-- A root under an id that is not taken. -/
theorem insert_missing_tree {accounts : KeyMap String AccountRecord} {id : String}
    {record : AccountRecord} (missing : accounts.lookup id = none)
    (root : record.parentAccountId = none) (tree : CategoryTree accounts) :
    CategoryTree (accounts.insert id record) := by
  refine tree.insert (fun parentId named => ?_) fun other below found _ child => ?_
  · rw [root] at named
    cases named
  · exact absurd child (tree.ne_of_missing missing found)

theorem SameAccounts.insert_missing {accounts : KeyMap String AccountRecord} {id : String}
    (missing : accounts.lookup id = none) (record : AccountRecord) :
    SameAccounts accounts (accounts.insert id record) := by
  intro other account found
  refine ⟨account, (AList.lookup_insert_ne fun same => ?_).trans found, rfl, rfl, rfl⟩
  rw [same, missing] at found
  cases found

/-- A new book. -/
theorem MemoryStore.Scoped.withBook (placed : store.Scoped) {newId : String}
    (fresh : store.freshBook newId = true) (name ownerId : String) :
    (store.withBook newId name ownerId).Scoped := by
  simp only [freshBook, Bool.and_eq_true, decide_eq_true_eq, Option.isNone_iff_eq_none] at fresh
  refine ⟨fun id book found => ?_, fun id account found => ?_⟩
  · rcases KeyMap.lookup_insert_eq_some found with ⟨rfl, rfl⟩ | ⟨-, before⟩
    · exact ⟨rfl, fresh.2⟩
    · exact placed.books id book before
  · obtain ⟨isBook, named⟩ := placed.accounts id account found
    refine ⟨?_, named⟩
    show ((store.books.insert newId _).lookup account.bookId).isSome = true
    rw [KeyMap.lookup_insert_eq]
    split
    · rfl
    · exact isBook

/-- `create_book` opens two roots under ids that are not taken. -/
theorem openBook_tree (placed : store.Scoped) {newId : String}
    (fresh : store.freshBook newId = true) (userId name currencyCode : String) :
    (openBook store userId name currencyCode newId).Scoped ∧
      (CategoryTree store.accounts →
        CategoryTree (openBook store userId name currencyCode newId).accounts) ∧
      SameAccounts store.accounts (openBook store userId name currencyCode newId).accounts := by
  have cash := placed.missing fresh "acc_cash"
  have bank : (store.accounts.insert (scopedAccountId newId "acc_cash")
      (openedAccount newId "acc_cash" "Cash" "asset" currencyCode)).lookup
        (scopedAccountId newId "acc_bank") = none := by
    rw [AList.lookup_insert_ne fun same => absurd (scopedAccountId_inj same) (by decide)]
    exact placed.missing fresh "acc_bank"
  refine ⟨⟨(placed.withBook fresh name userId).books, fun id account found => ?_⟩, fun tree => ?_,
    (SameAccounts.insert_missing cash _).trans (.insert_missing bank _)⟩
  · have isBook : ((store.books.insert newId ⟨newId, name, userId⟩).lookup newId).isSome = true := by
      rw [AList.lookup_insert]
      rfl
    rcases KeyMap.lookup_insert_eq_some found with ⟨rfl, rfl⟩ | ⟨-, before⟩
    · exact ⟨isBook, "acc_bank", rfl⟩
    · rcases KeyMap.lookup_insert_eq_some before with ⟨rfl, rfl⟩ | ⟨-, first⟩
      · exact ⟨isBook, "acc_cash", rfl⟩
      · exact (placed.withBook fresh name userId).accounts id account first
  · exact insert_missing_tree bank rfl (insert_missing_tree cash rfl tree)

/-- A login puts default accounts in a book of the user, or in a new one. -/
theorem ensureDemoBook_tree (placed : store.Scoped) {newId : String}
    (fresh : store.freshBook newId = true) (userId first : String) :
    (ensureDemoBook store userId first newId).1.Scoped ∧
      (CategoryTree store.accounts →
        (CategoryTree (ensureDemoBook store userId first newId).1.accounts ↔
          SeedsWell store ((((store.books.lookup first).filter fun book =>
            book.ownerId = userId).map BookRecord.id).getD newId))) ∧
      SameAccounts store.accounts (ensureDemoBook store userId first newId).1.accounts := by
  cases met : (store.books.lookup first).filter fun book => book.ownerId = userId with
  | some existing =>
    rw [ensureDemoBook_of_some met, Option.map_some, Option.getD_some]
    obtain ⟨found, -⟩ := Option.filter_eq_some_iff.mp met
    obtain ⟨hasId, plain⟩ := placed.books first existing found
    subst hasId
    refine ⟨seedAccountsMem_scoped placed ?_, seedAccountsMem_tree_iff placed plain,
      seedAccountsMem_same store existing.id⟩
    rw [found]
    rfl
  | none =>
    rw [ensureDemoBook_of_none met, Option.map_none, Option.getD_none]
    have plain : ':' ∉ newId.toList := by
      simp only [MemoryStore.freshBook, Bool.and_eq_true, decide_eq_true_eq] at fresh
      exact fresh.2
    have created := placed.withBook fresh "Personal" userId
    have isBook : ((store.withBook newId "Personal" userId).books.lookup newId).isSome = true := by
      rw [MemoryStore.withBook, AList.lookup_insert]
      rfl
    unfold SeedsWell
    rw [← store.withBook_accounts newId "Personal" userId]
    exact ⟨seedAccountsMem_scoped created isBook, seedAccountsMem_tree_iff created plain,
      seedAccountsMem_same (store.withBook newId "Personal" userId) newId⟩

end NewBooks

/-! ### Runs -/

section Runs

variable [Rfc3339]

/-- Every step keeps the placement and the accounts, and keeps the tree exactly if it meets the
guard. -/
theorem bookStep_tree {store : MemoryStore} (placed : store.Scoped) (event : BookEvent) :
    (bookStep store event).Scoped ∧
      (CategoryTree store.accounts →
        (CategoryTree (bookStep store event).accounts ↔ KeepsTree store event)) ∧
      SameAccounts store.accounts (bookStep store event).accounts := by
  cases event with
  | push request =>
    obtain ⟨after, tree, same⟩ := push_tree placed request
    exact ⟨after, fun before => iff_of_true (tree before) trivial, same⟩
  | createBook userId name currencyCode newId =>
    simp only [bookStep]
    split
    · rename_i fresh
      unfold createBook
      split
      · exact ⟨placed, fun before => iff_of_true before trivial, .refl _⟩
      · split
        · exact ⟨placed, fun before => iff_of_true before trivial, .refl _⟩
        · obtain ⟨after, tree, same⟩ :=
            openBook_tree placed fresh userId (trim name) currencyCode
          exact ⟨after, fun before => iff_of_true (tree before) trivial, same⟩
    · exact ⟨placed, fun before => iff_of_true before trivial, .refl _⟩
  | login userId first newId =>
    simp only [bookStep]
    split
    · rename_i possible
      obtain ⟨fresh, meets⟩ := Bool.and_eq_true_iff.mp possible
      obtain ⟨after, tree, same⟩ := ensureDemoBook_tree placed fresh userId first
      refine ⟨after, fun before => (tree before).trans ?_, same⟩
      exact ⟨fun well _ _ => well, fun kept => kept fresh meets⟩
    · rename_i impossible
      refine ⟨placed, fun before => iff_of_true before fun fresh meets => ?_, .refl _⟩
      exact absurd (Bool.and_eq_true_iff.mpr ⟨fresh, meets⟩) impossible

/-- A server without books and accounts. -/
def emptyServer : MemoryStore := .initial ∅ ∅

omit [Rfc3339] in
theorem emptyServer_scoped : emptyServer.Scoped := by
  refine ⟨fun id book found => ?_, fun id account found => ?_⟩
  · cases (AList.lookup_empty id).symm.trans found
  · cases (AList.lookup_empty id).symm.trans found

/-- No account changes its type, its currency or its book along a run. -/
theorem run_sameAccounts {store : MemoryStore} (placed : store.Scoped) (events : List BookEvent) :
    SameAccounts store.accounts (Machine.run bookStep store events).accounts := by
  induction events generalizing store with
  | nil => exact .refl _
  | cons event rest inductionHypothesis =>
    obtain ⟨after, -, same⟩ := bookStep_tree placed event
    exact same.trans (inductionHypothesis after)

/-- The accounts form a tree of two levels after every part of a run exactly if every login of
the run finds the default parents as roots of their type. Type, currency and book of an account
stay in every run. -/
theorem categoryTree_throughout_iff (events : List BookEvent) :
    ((∀ before, before <+: events →
        CategoryTree (Machine.run bookStep emptyServer before).accounts) ↔
      Machine.Guarded bookStep KeepsTree emptyServer events) ∧
      ∀ before between, before ++ between <+: events →
        SameAccounts (Machine.run bookStep emptyServer before).accounts
          (Machine.run bookStep emptyServer (before ++ between)).accounts := by
  have keeps : ∀ (store : MemoryStore) (event : BookEvent), store.Scoped →
      (bookStep store event).Scoped := fun store event placed => (bookStep_tree placed event).1
  have exact_step : ∀ (store : MemoryStore) (event : BookEvent), store.Scoped →
      CategoryTree store.accounts →
        (CategoryTree (bookStep store event).accounts ↔ KeepsTree store event) :=
    fun store event placed => (bookStep_tree placed event).2.1
  constructor
  · exact Machine.invariant_throughout_iff keeps exact_step emptyServer_scoped
      KeyMap.twoLevel_empty events
  · intro before between _
    rw [Machine.run_append]
    exact run_sameAccounts (Machine.run_invariant keeps emptyServer_scoped before) between

end Runs

/-- A user logs in, opens a second book, makes an asset of the id of the default category of
food in it, and logs in again, when the search meets the second book first. -/
def foodAsAsset : List BookEvent :=
  [.login "user" "home" "home",
    .createBook "user" "Trip" "CNY" "trip",
    .push {
      userId := "user"
      bookId := "trip"
      deviceId := "phone"
      steps := [{
        bookId := "trip"
        deviceId := "phone"
        mutation := {
          mutationId := "m1"
          entityType := "account"
          entityId := "trip:acc_food"
          operation := "create"
          baseVersion := 0
          payload := .obj [("name", .str "Canteen card"), ("accountType", .str "asset"),
            ("currency", .str "CNY")] }
        stamp := ⟨epoch, "commit"⟩ }]
      addressed := by simp },
    .login "user" "trip" "spare"]

/-- The second login hangs an expense under an asset. -/
theorem seeding_breaks_tree : let := epochClock
    ¬∀ before, before <+: foodAsAsset →
      CategoryTree (Machine.run bookStep emptyServer before).accounts := by
  intro clock all
  have reached : let accounts := (Machine.run bookStep emptyServer foodAsAsset).accounts
      accounts.lookup "trip:acc_food_meals" = some ⟨"trip:acc_food_meals", "trip", "Meals",
        "expense", "CNY", some "trip:acc_food", 1⟩ ∧
      accounts.lookup "trip:acc_food" =
        some ⟨"trip:acc_food", "trip", "Canteen card", "asset", "CNY", none, 1⟩ := by
    decide +kernel
  obtain ⟨meals, food⟩ := reached
  obtain ⟨parent, found, -, -, -, sameType⟩ :=
    all foodAsAsset (List.prefix_refl _) _ _ _ meals rfl
  rw [food] at found
  cases found
  exact absurd sameType (by decide)

end Ledgerly
