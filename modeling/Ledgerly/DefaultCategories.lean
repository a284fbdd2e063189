/-
This file relates the default accounts of the client to those of the server: the two lists have
the same keys, names, types and parents, so that a seeded local book holds, under the ids of its
own, what a seeded book of the server holds.
-/

import Ledgerly.Categories
import Ledgerly.CategoryTree

namespace Ledgerly

/-- The row of a default account in a local book. -/
def DefaultAccount.localRow (account : DefaultAccount) (bookId : String) : LocalAccount where
  name := account.name
  type := account.accountType
  currencyCode := "CNY"
  parentAccountId := account.parentKey.map (accountId bookId)

/-- The default accounts of the server are those of the client. -/
theorem defaultAccounts_eq :
    defaultAccounts =
      ⟨"acc_cash", "Cash", "asset", none⟩ :: ⟨"acc_bank", "Bank", "asset", none⟩ ::
        defaultCategoryDefinitions.map fun category =>
          ⟨category.key, category.name, category.type, category.parentKey⟩ := rfl

/-- The seeding of a local book puts in the default accounts that are missing. -/
theorem ensureDefaultBookAccounts_eq (accounts : KeyMap String LocalAccount) (bookId : String) :
    ensureDefaultBookAccounts accounts bookId =
      defaultAccounts.foldl (fun accounts account =>
        insertAccountIfMissing accounts (accountId bookId account.key) (account.localRow bookId))
        accounts := by
  have seeds : ∀ definitions : List DefaultCategoryDefinition,
      definitions.foldl (fun accounts category =>
          insertAccountIfMissing accounts (accountId bookId category.key) (category.row bookId))
        (insertAccountIfMissing
          (insertAccountIfMissing accounts (accountKeyCash bookId) ⟨"Cash", "asset", "CNY", none⟩)
          (accountKeyBank bookId) ⟨"Bank", "asset", "CNY", none⟩) =
      (⟨"acc_cash", "Cash", "asset", none⟩ :: ⟨"acc_bank", "Bank", "asset", none⟩ ::
        definitions.map fun category => (⟨category.key, category.name, category.type,
          category.parentKey⟩ : DefaultAccount)).foldl (fun accounts account =>
            insertAccountIfMissing accounts (accountId bookId account.key)
              (account.localRow bookId)) accounts := by
    intro definitions
    rw [List.foldl_cons, List.foldl_cons, List.foldl_map]
    rfl
  unfold ensureDefaultBookAccounts
  rw [seeds, ← defaultAccounts_eq]

theorem lookup_ensureDefaultBookAccounts (accounts : KeyMap String LocalAccount)
    (bookId id : String) :
    (ensureDefaultBookAccounts accounts bookId).lookup id =
      (accounts.lookup id).or ((defaultAccounts.find? fun account =>
        accountId bookId account.key = id).map fun account => account.localRow bookId) := by
  rw [ensureDefaultBookAccounts_eq]
  exact KeyMap.lookup_foldl_insert_missing (fun table : KeyMap String LocalAccount => table)
    (fun account : DefaultAccount => accountId bookId account.key)
    (fun account => account.localRow bookId) _ (fun _ _ => rfl) accounts defaultAccounts id

section Seeded

variable {bookId : String}

/-- A seeded book has its default accounts, and no others. -/
theorem seeded_lookup_iff {id : String} {row : LocalAccount} :
    (ensureDefaultBookAccounts ∅ bookId).lookup id = some row ↔
      ∃ account ∈ defaultAccounts, id = accountId bookId account.key ∧
        row = account.localRow bookId := by
  rw [lookup_ensureDefaultBookAccounts, AList.lookup_empty, Option.none_or, Option.map_eq_some_iff]
  constructor
  · rintro ⟨account, found, rfl⟩
    have hasId := List.find?_some found
    exact ⟨account, List.mem_of_find?_eq_some found, (of_decide_eq_true hasId).symm, rfl⟩
  · rintro ⟨account, member, rfl, rfl⟩
    have sameKey : (fun other : DefaultAccount => decide (accountId bookId other.key =
        accountId bookId account.key)) = fun other => decide (other.key = account.key) := by
      funext other
      exact decide_eq_decide.mpr ⟨scopedAccountId_inj, congrArg _⟩
    refine ⟨account, ?_, rfl⟩
    rw [sameKey, defaultAccounts_find account member]

end Seeded

end Ledgerly
