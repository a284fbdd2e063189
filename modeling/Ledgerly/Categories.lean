/-
This file models the categories of the client: the default ones, the calls that create, rename
and move a category, with the checks they make on the local accounts, and the spending of a
budget, which climbs from the category of a transaction to its ancestors.

A check reads the local accounts, and the write comes later. What is written between the two is
not checked again.
-/

import Ledgerly.LedgerAppService
import Ledgerly.Library.ParentChain
import Ledgerly.Library.Partial

namespace Ledgerly

/-! ### The default categories -/

/-- A category that every book begins with. -/
structure DefaultCategoryDefinition where
  key : String
  name : String
  label : String
  type : String
  parentKey : Option String

/-- The categories that a book begins with, parents before their children. -/
def defaultCategoryDefinitions : List DefaultCategoryDefinition :=
  [⟨"acc_food", "Food", "餐饮", "expense", none⟩,
    ⟨"acc_food_meals", "Meals", "日常用餐", "expense", some "acc_food"⟩,
    ⟨"acc_food_drinks", "Drinks & Snacks", "饮品零食", "expense", some "acc_food"⟩,
    ⟨"acc_transport", "Transport", "交通", "expense", none⟩,
    ⟨"acc_transport_public", "Public Transport", "公交地铁", "expense", some "acc_transport"⟩,
    ⟨"acc_transport_taxi", "Taxi", "网约车", "expense", some "acc_transport"⟩,
    ⟨"acc_transport_car", "Car Expenses", "驾车养车", "expense", some "acc_transport"⟩,
    ⟨"acc_shopping", "Shopping", "购物", "expense", none⟩,
    ⟨"acc_shopping_daily", "Daily Essentials", "日用百货", "expense", some "acc_shopping"⟩,
    ⟨"acc_shopping_clothing", "Clothing", "服饰美妆", "expense", some "acc_shopping"⟩,
    ⟨"acc_shopping_digital", "Electronics", "数码电器", "expense", some "acc_shopping"⟩,
    ⟨"acc_housing", "Housing", "居住", "expense", none⟩,
    ⟨"acc_housing_rent", "Rent & Mortgage", "房租房贷", "expense", some "acc_housing"⟩,
    ⟨"acc_housing_utilities", "Utilities", "水电燃气", "expense", some "acc_housing"⟩,
    ⟨"acc_housing_property", "Property Services", "物业家政", "expense", some "acc_housing"⟩,
    ⟨"acc_leisure", "Leisure", "休闲", "expense", none⟩,
    ⟨"acc_leisure_entertainment", "Entertainment", "娱乐", "expense", some "acc_leisure"⟩,
    ⟨"acc_leisure_fitness", "Fitness", "运动健身", "expense", some "acc_leisure"⟩,
    ⟨"acc_leisure_travel", "Travel", "旅行", "expense", some "acc_leisure"⟩,
    ⟨"acc_healthcare", "Healthcare", "医疗健康", "expense", none⟩,
    ⟨"acc_healthcare_medical", "Medical Care", "看病就医", "expense", some "acc_healthcare"⟩,
    ⟨"acc_healthcare_medicine", "Medicine", "药品保健", "expense", some "acc_healthcare"⟩,
    ⟨"acc_education", "Education", "学习", "expense", none⟩,
    ⟨"acc_education_books", "Books", "书籍", "expense", some "acc_education"⟩,
    ⟨"acc_education_courses", "Courses", "课程培训", "expense", some "acc_education"⟩,
    ⟨"acc_other_expense", "Other Expense", "其他支出", "expense", none⟩,
    ⟨"acc_salary", "Salary", "工资收入", "income", none⟩,
    ⟨"acc_salary_base", "Base Salary", "基本工资", "income", some "acc_salary"⟩,
    ⟨"acc_salary_bonus", "Bonus", "奖金", "income", some "acc_salary"⟩,
    ⟨"acc_side_income", "Side Income", "副业收入", "income", none⟩,
    ⟨"acc_side_income_freelance", "Freelance", "自由职业", "income", some "acc_side_income"⟩,
    ⟨"acc_side_income_business", "Business Income", "经营收入", "income", some "acc_side_income"⟩,
    ⟨"acc_investment_income", "Investment Income", "投资收益", "income", none⟩,
    ⟨"acc_investment_income_interest", "Interest", "利息", "income", some "acc_investment_income"⟩,
    ⟨"acc_investment_income_dividends", "Dividends", "分红", "income", some "acc_investment_income"⟩,
    ⟨"acc_other_income", "Other Income", "其他收入", "income", none⟩]

/-- `defaultCategoryComparisonKey`. -/
def defaultCategoryComparisonKey [DartText] (name : String) : String :=
  let normalized := DartText.toLowerCase (dartTrim name)
  match defaultCategoryDefinitions.find? fun category =>
      DartText.toLowerCase category.name = normalized ||
        DartText.toLowerCase category.label = normalized with
  | some category => "built-in:" ++ category.key
  | none => normalized

/-- `accountKeyCash`. -/
def accountKeyCash (bookId : String) : String := accountId bookId "acc_cash"

/-- The row of a default category. -/
def DefaultCategoryDefinition.row (category : DefaultCategoryDefinition) (bookId : String) :
    LocalAccount where
  name := category.name
  type := category.type
  currencyCode := "CNY"
  parentAccountId := category.parentKey.map (accountId bookId)

/-- `_insertAccountIfMissing`. -/
def insertAccountIfMissing (accounts : KeyMap String LocalAccount) (id : String)
    (row : LocalAccount) : KeyMap String LocalAccount :=
  if (accounts.lookup id).isSome then accounts else accounts.insert id row

/-- `_ensureDefaultBookAccounts`. -/
@[irreducible] def ensureDefaultBookAccounts (accounts : KeyMap String LocalAccount) (bookId : String) :
    KeyMap String LocalAccount :=
  defaultCategoryDefinitions.foldl (fun accounts category =>
      insertAccountIfMissing accounts (accountId bookId category.key) (category.row bookId))
    (insertAccountIfMissing
      (insertAccountIfMissing accounts (accountKeyCash bookId) ⟨"Cash", "asset", "CNY", none⟩)
      (accountKeyBank bookId) ⟨"Bank", "asset", "CNY", none⟩)

/-! ### The checks -/

/-- What the category methods throw: a `CategoryValidationException`, by its localised text, or
the error of the repository. -/
inductive CategoryError where
  | enterCategoryName
  | categoryNameTooLong
  | invalidCategoryType
  | categoryNotFound
  | categoryCannotBeOwnParent
  | chooseSameTypeParent
  | categoryMaxTwoLevels
  | cannotNestRootWithChildren
  | duplicateCategoryName
  | repository
  deriving DecidableEq

/-- `String.length` of Dart: the number of UTF-16 code units. -/
def utf16Length (text : String) : Nat :=
  (text.toList.map fun character => if character.toNat < 0x10000 then 1 else 2).sum

/-- `_normalizeCategoryName`. -/
def normalizeCategoryName (name : String) : Except CategoryError String :=
  let normalized := dartTrim name
  if normalized = "" then .error .enterCategoryName
  else if 24 < utf16Length normalized then .error .categoryNameTooLong
  else .ok normalized

/-- The types of accounts that are categories. -/
def isCategoryType (type : String) : Bool := type = "expense" || type = "income"

/-- `_validateCategoryType`. -/
def validateCategoryType (type : String) : Except CategoryError Unit :=
  if isCategoryType type then .ok () else .error .invalidCategoryType

/-- `_validateCategoryParent`. -/
def validateCategoryParent (accounts : KeyMap String LocalAccount)
    (parentCategoryId : Option String) (categoryType : String) (categoryId : Option String) :
    Except CategoryError Unit :=
  match parentCategoryId with
  | none => .ok ()
  | some parentId =>
    if some parentId = categoryId then .error .categoryCannotBeOwnParent
    else
      match accounts.lookup parentId with
      | none => .error .chooseSameTypeParent
      | some parent =>
        if parent.type ≠ categoryType ∨ isCategoryType parent.type = false then
          .error .chooseSameTypeParent
        else if parent.parentAccountId ≠ none then .error .categoryMaxTwoLevels
        else .ok ()

/-- `_ensureUniqueCategoryName`. -/
def ensureUniqueCategoryName [DartText] (accounts : KeyMap String LocalAccount)
    (name type : String) (excludingId : Option String) : Except CategoryError Unit :=
  if accounts.entries.any fun entry =>
      entry.2.type = type && some entry.1 ≠ excludingId &&
        defaultCategoryComparisonKey entry.2.name = defaultCategoryComparisonKey name then
    .error .duplicateCategoryName
  else .ok ()

/-- `createCategory` as far as its write: the name to write. -/
def checkCreate [DartText] (accounts : KeyMap String LocalAccount) (name type : String)
    (parentCategoryId : Option String) : Except CategoryError String := do
  validateCategoryType type
  let normalizedName ← normalizeCategoryName name
  validateCategoryParent accounts parentCategoryId type none
  ensureUniqueCategoryName accounts normalizedName type none
  return normalizedName

/-- The category with an id. -/
def findCategory (accounts : KeyMap String LocalAccount) (categoryId : String) :
    Except CategoryError LocalAccount :=
  match accounts.lookup categoryId with
  | none => .error .categoryNotFound
  | some category =>
    if isCategoryType category.type = false then .error .categoryNotFound else .ok category

/-- The test for children in `updateCategory`. -/
def validateCategoryNesting (accounts : KeyMap String LocalAccount) (categoryId : String)
    (parentCategoryId : Option String) : Except CategoryError Unit :=
  if parentCategoryId ≠ none ∧ accounts.entries.any fun entry =>
      entry.2.parentAccountId = some categoryId then
    .error .cannotNestRootWithChildren
  else .ok ()

/-- `updateCategory` as far as its write: the name to write. -/
def checkUpdate [DartText] (accounts : KeyMap String LocalAccount) (categoryId name : String)
    (parentCategoryId : Option String) : Except CategoryError String := do
  let category ← findCategory accounts categoryId
  validateCategoryParent accounts parentCategoryId category.type (some categoryId)
  validateCategoryNesting accounts categoryId parentCategoryId
  let normalizedName ← normalizeCategoryName name
  ensureUniqueCategoryName accounts normalizedName category.type (some categoryId)
  return normalizedName

/-! ### The calls -/

/-- A call of the category methods, with the id of its mutation and, of a create, what `newId`
gives for the id of the account. -/
inductive CategoryCall where
  | create (newId name type : String) (parentCategoryId : Option String) (mutationId : String)
  | update (categoryId name : String) (parentCategoryId : Option String) (mutationId : String)
  | rename (categoryId name mutationId : String)

/-- A write that throws is an error of the repository. -/
def orRepositoryError : Option Device → Except CategoryError Device
  | some device => .ok device
  | none => .error .repository

/-- `createCategory`, nothing else coming between its check and its write. -/
def Device.createCategory [DartText] (device : Device) (newId name type : String)
    (parentCategoryId : Option String) (mutationId : String) : Except CategoryError Device := do
  let normalizedName ← checkCreate device.accounts name type parentCategoryId
  orRepositoryError (device.createLocalAccount (accountId device.bookId newId)
    ⟨normalizedName, type, "CNY", parentCategoryId⟩ mutationId)

/-- `updateCategory`, nothing else coming between its check and its write. -/
def Device.updateCategory [DartText] (device : Device) (categoryId name : String)
    (parentCategoryId : Option String) (mutationId : String) : Except CategoryError Device := do
  let normalizedName ← checkUpdate device.accounts categoryId name parentCategoryId
  orRepositoryError (device.updateLocalCategory categoryId normalizedName parentCategoryId
    mutationId)

/-- `renameCategory`. -/
def Device.renameCategory [DartText] (device : Device) (categoryId name mutationId : String) :
    Except CategoryError Device := do
  let category ← findCategory device.accounts categoryId
  device.updateCategory categoryId name category.parentAccountId mutationId

/-- A call of the repository about categories. -/
def Device.callCategory [DartText] (device : Device) : CategoryCall → Except CategoryError Device
  | .create newId name type parentCategoryId mutationId =>
    device.createCategory newId name type parentCategoryId mutationId
  | .update categoryId name parentCategoryId mutationId =>
    device.updateCategory categoryId name parentCategoryId mutationId
  | .rename categoryId name mutationId => device.renameCategory categoryId name mutationId

/-! ### Budgets -/

/-- `TransactionSummary`, as far as budgets read it. -/
structure BudgetedTransaction where
  kind : TransactionSummaryKind
  amountMinor : Int
  categoryAccountId : Option String

/-- `parentById` of the pages: the parents of the accounts of a type. -/
def parentById (accounts : KeyMap String LocalAccount) (type : String) (id : String) :
    Option String :=
  ((accounts.lookup id).filter fun account => account.type = type).bind
    LocalAccount.parentAccountId

/-- A parent that a chain follows; the empty text ends it. -/
def namedParent (parentAccountId : Option String) : Option String :=
  parentAccountId.filter fun parent => parent ≠ ""

/-- `_matchesCategory`; `none` where the loop has not ended yet. -/
def matchesCategory (fuel : Nat) (transactionCategoryId budgetCategoryId : String)
    (parentById : String → Option String) : Option Bool :=
  if budgetCategoryId = "" then some true
  else ParentChain.seek (fun id => namedParent (parentById id)) budgetCategoryId fuel
    transactionCategoryId

/-- `spentForBudget`, for a budget by its category. -/
def spentForBudget (fuel : Nat) (budgetCategoryId : String)
    (transactions : List BudgetedTransaction) (parentById : String → Option String) :
    Option Int :=
  transactions.foldlM (fun spent tx =>
    if tx.kind ≠ .expense then some spent
    else (matchesCategory fuel (tx.categoryAccountId.getD "") budgetCategoryId parentById).map
      fun inBudget => if inBudget then spent + tx.amountMinor else spent) 0

/-! ### What the checks give -/

section Checks

variable [DartText] {accounts : KeyMap String LocalAccount}

omit [DartText] in
theorem validateCategoryParent_ok {parentCategoryId categoryId : Option String} {type : String}
    (valid : validateCategoryParent accounts parentCategoryId type categoryId = .ok ()) :
    ∀ parentId, parentCategoryId = some parentId → some parentId ≠ categoryId ∧
      ∃ parent, accounts.lookup parentId = some parent ∧ parent.type = type ∧
        isCategoryType parent.type = true ∧ parent.parentAccountId = none := by
  rintro parentId rfl
  unfold validateCategoryParent at valid
  dsimp only at valid
  split_ifs at valid with self
  cases found : accounts.lookup parentId with
  | none =>
    rw [found] at valid
    cases valid
  | some parent =>
    rw [found] at valid
    dsimp only at valid
    split_ifs at valid with mistyped nested
    rw [not_or, not_not, Bool.not_eq_false] at mistyped
    exact ⟨self, parent, rfl, mistyped.1, mistyped.2, not_not.mp nested⟩

/-- What a checked update is about. -/
theorem checkUpdate_ok {categoryId name normalizedName : String} {parentCategoryId : Option String}
    (checked : checkUpdate accounts categoryId name parentCategoryId = .ok normalizedName) :
    ∃ category, findCategory accounts categoryId = .ok category ∧
      validateCategoryParent accounts parentCategoryId category.type (some categoryId) = .ok () ∧
      validateCategoryNesting accounts categoryId parentCategoryId = .ok () ∧
      normalizeCategoryName name = .ok normalizedName := by
  unfold checkUpdate at checked
  obtain ⟨category, found, checked⟩ := Except.bind_eq_ok.mp checked
  obtain ⟨_, parent, checked⟩ := Except.bind_eq_ok.mp checked
  obtain ⟨_, nesting, checked⟩ := Except.bind_eq_ok.mp checked
  obtain ⟨normalized, named, checked⟩ := Except.bind_eq_ok.mp checked
  obtain ⟨_, -, returned⟩ := Except.bind_eq_ok.mp checked
  obtain rfl := Except.ok.inj returned
  exact ⟨category, found, parent, nesting, named⟩

/-- What a checked create is about. -/
theorem checkCreate_ok {name type normalizedName : String} {parentCategoryId : Option String}
    (checked : checkCreate accounts name type parentCategoryId = .ok normalizedName) :
    isCategoryType type = true ∧
      validateCategoryParent accounts parentCategoryId type none = .ok () ∧
      normalizeCategoryName name = .ok normalizedName := by
  unfold checkCreate at checked
  obtain ⟨_, typed, checked⟩ := Except.bind_eq_ok.mp checked
  obtain ⟨normalized, named, checked⟩ := Except.bind_eq_ok.mp checked
  obtain ⟨_, parent, checked⟩ := Except.bind_eq_ok.mp checked
  obtain ⟨_, -, returned⟩ := Except.bind_eq_ok.mp checked
  obtain rfl := Except.ok.inj returned
  refine ⟨?_, parent, named⟩
  unfold validateCategoryType at typed
  split_ifs at typed with isCategory
  exact isCategory

omit [DartText] in
theorem findCategory_ok {categoryId : String} {category : LocalAccount}
    (found : findCategory accounts categoryId = .ok category) :
    accounts.lookup categoryId = some category ∧ isCategoryType category.type = true := by
  unfold findCategory at found
  cases isThere : accounts.lookup categoryId with
  | none =>
    rw [isThere] at found
    cases found
  | some other =>
    rw [isThere] at found
    dsimp only at found
    split_ifs at found with mistyped
    obtain rfl := Except.ok.inj found
    exact ⟨rfl, Bool.eq_true_of_not_eq_false mistyped⟩

omit [DartText] in
/-- An account that gets a parent has no children. -/
theorem validateCategoryNesting_ok {categoryId parentId : String}
    (valid : validateCategoryNesting accounts categoryId (some parentId) = .ok ()) {id : String}
    {account : LocalAccount} (found : accounts.lookup id = some account) :
    account.parentAccountId ≠ some categoryId := by
  intro child
  unfold validateCategoryNesting at valid
  split_ifs at valid with hasChildren
  refine hasChildren ⟨Option.some_ne_none _, List.any_eq_true.mpr ?_⟩
  exact ⟨⟨id, account⟩, AList.mem_lookup_iff.mp found, decide_eq_true child⟩

end Checks

end Ledgerly
