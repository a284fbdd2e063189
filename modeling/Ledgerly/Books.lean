/-
This file models how books and their accounts come about on the memory backend beside pushes:
`create_book`, and the seeding of the default accounts at every login.

A new book id is a UUID: it names no book yet and has no colon, so that it shares no account id
with another book. A hash map is searched for a book of the user in no particular order; which
of them is met first is part of the event.
-/

import Ledgerly.MemoryStep

namespace Ledgerly

/-- A row of `DEFAULT_ACCOUNTS`. -/
structure DefaultAccount where
  key : String
  name : String
  accountType : String
  parentKey : Option String
  deriving DecidableEq

/-- The accounts that a new book has. -/
def defaultAccounts : List DefaultAccount :=
  [⟨"acc_cash", "Cash", "asset", none⟩,
    ⟨"acc_bank", "Bank", "asset", none⟩,
    ⟨"acc_food", "Food", "expense", none⟩,
    ⟨"acc_food_meals", "Meals", "expense", some "acc_food"⟩,
    ⟨"acc_food_drinks", "Drinks & Snacks", "expense", some "acc_food"⟩,
    ⟨"acc_transport", "Transport", "expense", none⟩,
    ⟨"acc_transport_public", "Public Transport", "expense", some "acc_transport"⟩,
    ⟨"acc_transport_taxi", "Taxi", "expense", some "acc_transport"⟩,
    ⟨"acc_transport_car", "Car Expenses", "expense", some "acc_transport"⟩,
    ⟨"acc_shopping", "Shopping", "expense", none⟩,
    ⟨"acc_shopping_daily", "Daily Essentials", "expense", some "acc_shopping"⟩,
    ⟨"acc_shopping_clothing", "Clothing", "expense", some "acc_shopping"⟩,
    ⟨"acc_shopping_digital", "Electronics", "expense", some "acc_shopping"⟩,
    ⟨"acc_housing", "Housing", "expense", none⟩,
    ⟨"acc_housing_rent", "Rent & Mortgage", "expense", some "acc_housing"⟩,
    ⟨"acc_housing_utilities", "Utilities", "expense", some "acc_housing"⟩,
    ⟨"acc_housing_property", "Property Services", "expense", some "acc_housing"⟩,
    ⟨"acc_leisure", "Leisure", "expense", none⟩,
    ⟨"acc_leisure_entertainment", "Entertainment", "expense", some "acc_leisure"⟩,
    ⟨"acc_leisure_fitness", "Fitness", "expense", some "acc_leisure"⟩,
    ⟨"acc_leisure_travel", "Travel", "expense", some "acc_leisure"⟩,
    ⟨"acc_healthcare", "Healthcare", "expense", none⟩,
    ⟨"acc_healthcare_medical", "Medical Care", "expense", some "acc_healthcare"⟩,
    ⟨"acc_healthcare_medicine", "Medicine", "expense", some "acc_healthcare"⟩,
    ⟨"acc_education", "Education", "expense", none⟩,
    ⟨"acc_education_books", "Books", "expense", some "acc_education"⟩,
    ⟨"acc_education_courses", "Courses", "expense", some "acc_education"⟩,
    ⟨"acc_other_expense", "Other Expense", "expense", none⟩,
    ⟨"acc_salary", "Salary", "income", none⟩,
    ⟨"acc_salary_base", "Base Salary", "income", some "acc_salary"⟩,
    ⟨"acc_salary_bonus", "Bonus", "income", some "acc_salary"⟩,
    ⟨"acc_side_income", "Side Income", "income", none⟩,
    ⟨"acc_side_income_freelance", "Freelance", "income", some "acc_side_income"⟩,
    ⟨"acc_side_income_business", "Business Income", "income", some "acc_side_income"⟩,
    ⟨"acc_investment_income", "Investment Income", "income", none⟩,
    ⟨"acc_investment_income_interest", "Interest", "income", some "acc_investment_income"⟩,
    ⟨"acc_investment_income_dividends", "Dividends", "income", some "acc_investment_income"⟩,
    ⟨"acc_other_income", "Other Income", "income", none⟩]

/-- The id of a default account in a book. -/
def scopedAccountId (bookId key : String) : String := bookId ++ ":" ++ key

/-- The record of a default account in a book. -/
def DefaultAccount.record (account : DefaultAccount) (bookId : String) : AccountRecord where
  id := scopedAccountId bookId account.key
  bookId := bookId
  name := account.name
  accountType := account.accountType
  currency := "CNY"
  parentAccountId := account.parentKey.map (scopedAccountId bookId)
  version := 1

/-- The body of the loop of `seed_accounts_mem`. -/
def seedAccount (bookId : String) (store : MemoryStore) (account : DefaultAccount) :
    MemoryStore :=
  if (store.accounts.lookup (scopedAccountId bookId account.key)).isSome then store
  else
    { store with
      accounts := store.accounts.insert (scopedAccountId bookId account.key)
        (account.record bookId)
      changes := store.changes ++ [store.nextChange bookId ("category-defaults-v2:" ++ bookId)
        "account" (scopedAccountId bookId account.key) "upsert" 1
        (canonicalAccountPayload account.name account.accountType "CNY"
          (account.parentKey.map (scopedAccountId bookId)))] }

/-- `seed_accounts_mem`. -/
def seedAccountsMem (store : MemoryStore) (bookId : String) : MemoryStore :=
  defaultAccounts.foldl (seedAccount bookId) store

/-- The insert of a book. -/
def MemoryStore.withBook (store : MemoryStore) (bookId name ownerId : String) : MemoryStore :=
  { store with books := store.books.insert bookId ⟨bookId, name, ownerId⟩ }

theorem MemoryStore.withBook_accounts (store : MemoryStore) (bookId name ownerId : String) :
    (store.withBook bookId name ownerId).accounts = store.accounts := rfl

/-- `ensure_demo_book`: `first` is the book the search meets first, `newId` a fresh id. -/
def ensureDemoBook (store : MemoryStore) (userId first newId : String) : MemoryStore × String :=
  match (store.books.lookup first).filter fun book => book.ownerId = userId with
  | some existing => (seedAccountsMem store existing.id, existing.id)
  | none => (seedAccountsMem (store.withBook newId "Personal" userId) newId, newId)

section DemoBook

variable {store : MemoryStore} {userId first newId : String}

theorem ensureDemoBook_of_some {existing : BookRecord}
    (met : ((store.books.lookup first).filter fun book => book.ownerId = userId) =
      some existing) :
    (ensureDemoBook store userId first newId).1 = seedAccountsMem store existing.id := by
  simp only [ensureDemoBook, met]

theorem ensureDemoBook_of_none
    (met : ((store.books.lookup first).filter fun book => book.ownerId = userId) = none) :
    (ensureDemoBook store userId first newId).1 =
      seedAccountsMem (store.withBook newId "Personal" userId) newId := by
  simp only [ensureDemoBook, met]

end DemoBook

/-- The response of `create_book`. -/
structure CreateBookResponse where
  id : String
  name : String
  currencyCode : String
  role : String
  deriving DecidableEq

/-- The record of an account that `create_book` opens. -/
def openedAccount (bookId key name accountType currency : String) : AccountRecord where
  id := scopedAccountId bookId key
  bookId := bookId
  name := name
  accountType := accountType
  currency := currency
  parentAccountId := none
  version := 1

/-- The inserts of `create_book`. -/
def openBook (store : MemoryStore) (userId name currencyCode bookId : String) : MemoryStore :=
  { store with
    books := store.books.insert bookId ⟨bookId, name, userId⟩
    accounts := (store.accounts.insert (scopedAccountId bookId "acc_cash")
        (openedAccount bookId "acc_cash" "Cash" "asset" currencyCode)).insert
      (scopedAccountId bookId "acc_bank")
        (openedAccount bookId "acc_bank" "Bank" "asset" currencyCode) }

/-- `create_book`. -/
def createBook (store : MemoryStore) (userId name currencyCode bookId : String) :
    MemoryStore × Except ApiError CreateBookResponse :=
  if trim name = "" ∨ 40 < (trim name).length then
    (store, .error ⟨400, "INVALID_BOOK_NAME", "book name must contain 1 to 40 characters"⟩)
  else if ¬IsCurrencyCode currencyCode then
    (store, .error ⟨400, "INVALID_CURRENCY",
      "currencyCode must be an uppercase ISO currency code"⟩)
  else (openBook store userId (trim name) currencyCode bookId,
    .ok ⟨bookId, trim name, currencyCode, "owner"⟩)

/-- What happens to the accounts of the server: a push, a new book, a login. -/
inductive BookEvent where
  | push (request : PushRequest)
  | createBook (userId name currencyCode newId : String)
  | login (userId first newId : String)

/-- An id as `Uuid::now_v7` makes it: new, and without a colon. -/
def MemoryStore.freshBook (store : MemoryStore) (newId : String) : Bool :=
  (store.books.lookup newId).isNone && decide (':' ∉ newId.toList)

/-- The search of a login can meet `first` first: it is a book of the user, or there is none. -/
def MemoryStore.meets (store : MemoryStore) (userId first : String) : Bool :=
  ((store.books.lookup first).any fun book => book.ownerId = userId) ||
    store.books.values.all fun book => book.ownerId ≠ userId

/-- One step. An event that is not possible in a state leaves it as it is. -/
def bookStep [Rfc3339] (store : MemoryStore) : BookEvent → MemoryStore
  | .push request => (push store request).1
  | .createBook userId name currencyCode newId =>
    if store.freshBook newId then (createBook store userId name currencyCode newId).1 else store
  | .login userId first newId =>
    if store.freshBook newId && store.meets userId first then
      (ensureDemoBook store userId first newId).1
    else store

end Ledgerly
