/-
This file proves which captured events `_postEvent` posts in a book with the seeded accounts.

The classifier picks a rule by the merchant alone, and the factory asks for a category of the type
that the direction says. The fallback category is of this type; that of a rule need not be. All
built-in rules are for expenses, so that what a merchant they know pays back is never posted.
-/

import Ledgerly.DefaultCategories
import Ledgerly.AutoLedgerService

namespace Ledgerly

/-! ### The rules -/

/-- `defaultMerchantRules`. -/
def defaultMerchantRules : List MerchantRule :=
  [⟨"acc_food", ["美团", "饿了么", "麦当劳", "肯德基", "星巴克", "瑞幸", "海底捞"]⟩,
    ⟨"acc_transport_taxi", ["滴滴", "高德打车", "曹操出行", "T3出行", "首汽约车"]⟩,
    ⟨"acc_transport_public", ["地铁", "公交", "12306", "铁路", "一卡通", "市民卡"]⟩,
    ⟨"acc_transport_car", ["加油", "中石化", "中石油", "壳牌", "停车"]⟩,
    ⟨"acc_shopping", ["淘宝", "天猫", "京东", "拼多多", "唯品会"]⟩,
    ⟨"acc_shopping_daily", ["盒马", "永辉", "沃尔玛", "家乐福", "便利店", "711", "罗森"]⟩,
    ⟨"acc_housing_utilities", ["电费", "水费", "燃气", "国家电网", "中国移动", "中国联通", "中国电信"]⟩,
    ⟨"acc_housing_rent", ["房租", "自如", "链家", "我爱我家"]⟩,
    ⟨"acc_leisure_entertainment", ["猫眼", "淘票票", "大麦", "网易云", "QQ音乐", "腾讯视频", "爱奇艺",
      "优酷", "B站", "哔哩哔哩"]⟩,
    ⟨"acc_leisure_travel", ["携程", "飞猪", "去哪儿", "航旅纵横"]⟩,
    ⟨"acc_healthcare", ["医院", "药房", "药店", "微医", "好大夫"]⟩,
    ⟨"acc_education", ["学而思", "猿辅导", "作业帮", "得到", "极客时间"]⟩]

/-- `effectiveRules`: the rules of the user come first. -/
def effectiveRules (userRules : List MerchantRule) : List MerchantRule :=
  if userRules = [] then defaultMerchantRules else userRules ++ defaultMerchantRules

/-- The key of a rule is that of a seeded category. -/
def SeededCategory (key : String) : Prop := ∃ category ∈ defaultCategoryDefinitions, category.key = key

theorem seededCategory_default : ∀ rule ∈ defaultMerchantRules, SeededCategory rule.categoryKey := by
  unfold SeededCategory
  decide +kernel

/-- The type of the seeded category with a key. -/
def seededType (key : String) : Option String :=
  (defaultCategoryDefinitions.find? fun category => category.key = key).map fun category =>
    category.type

theorem seededType_default : ∀ category ∈ defaultCategoryDefinitions,
    seededType category.key = some category.type := by
  decide +kernel

/-- The fallback categories are seeded. -/
theorem otherIncome_default : ∃ category ∈ defaultCategoryDefinitions,
    category.key = "acc_other_income" ∧ category.type = "income" := by
  decide +kernel

theorem otherExpense_default : ∃ category ∈ defaultCategoryDefinitions,
    category.key = "acc_other_expense" ∧ category.type = "expense" := by
  decide +kernel

/-- The type of the category that `_postEvent` needs. -/
def requiredType (direction : String) : String :=
  if direction = "income" then "income" else "expense"

section Classifier

variable [DartText]

/-- The rule applies to a merchant. -/
def MerchantRule.appliesTo (rule : MerchantRule) (merchant : String) : Bool :=
  rule.needles.any fun needle =>
    containsText (DartText.toLowerCase merchant) (DartText.toLowerCase needle)

/-- The rule that files a merchant. -/
def filingRule (rules : List MerchantRule) (merchant : Option String) : Option MerchantRule :=
  (merchant.filter fun merchant => dartTrim merchant ≠ "").bind fun merchant =>
    rules.find? fun rule => rule.appliesTo merchant

theorem classify_filingRule (rules : List MerchantRule) (merchant : Option String)
    (direction bookId : String) :
    classify rules merchant direction bookId =
      ((filingRule rules merchant).map fun rule => accountId bookId rule.categoryKey).getD
        (if direction = "income" then accountKeyOtherIncome bookId
        else accountKeyOtherExpense bookId) := by
  cases merchant with
  | none => rfl
  | some merchant =>
    unfold classify filingRule
    by_cases blank : dartTrim merchant = ""
    · rw [Option.filter_some_neg (by simp [blank])]
      exact if_pos blank
    · rw [Option.filter_some_pos (by simp [blank]), Option.bind_some]
      dsimp only
      rw [if_neg blank]
      simp only [MerchantRule.appliesTo]
      cases rules.find? fun rule => rule.needles.any fun needle =>
        containsText (DartText.toLowerCase merchant) (DartText.toLowerCase needle) with
      | none => rfl
      | some rule => rfl

/-- The rule that files the merchant of an event, if there is one, is of a category of the type that
the direction asks for. -/
def PaymentEvent.FitsRules (event : PaymentEvent) (rules : List MerchantRule) : Prop :=
  ∀ rule, filingRule rules (event.merchant.map dartTrim) = some rule →
    seededType rule.categoryKey = some (requiredType event.direction)

omit [DartText] in
theorem seededCategory_effective {userRules : List MerchantRule}
    (known : ∀ rule ∈ userRules, SeededCategory rule.categoryKey) :
    ∀ rule ∈ effectiveRules userRules, SeededCategory rule.categoryKey := by
  intro rule member
  unfold effectiveRules at member
  split at member
  · exact seededCategory_default rule member
  · exact (List.mem_append.mp member).elim (known rule) (seededCategory_default rule)

/-- An event is filed under a seeded category, of the type that is asked for exactly if the rules
fit. -/
theorem exists_category {rules : List MerchantRule} {event : PaymentEvent}
    (known : ∀ rule ∈ rules, SeededCategory rule.categoryKey) (bookId : String) :
    ∃ category ∈ defaultCategoryDefinitions,
      classify rules (event.merchant.map dartTrim) event.direction bookId =
        accountId bookId category.key ∧
      (category.type = requiredType event.direction ↔ event.FitsRules rules) := by
  rw [classify_filingRule]
  cases found : filingRule rules (event.merchant.map dartTrim) with
  | none =>
    have fits : event.FitsRules rules := by
      intro rule isRule
      rw [found] at isRule
      cases isRule
    by_cases isIncome : event.direction = "income"
    · obtain ⟨category, isDefault, key, type⟩ := otherIncome_default
      refine ⟨category, isDefault, by rw [if_pos isIncome, key]; rfl, ?_⟩
      rw [requiredType, if_pos isIncome]
      exact iff_of_true type fits
    · obtain ⟨category, isDefault, key, type⟩ := otherExpense_default
      refine ⟨category, isDefault, by rw [if_neg isIncome, key]; rfl, ?_⟩
      rw [requiredType, if_neg isIncome]
      exact iff_of_true type fits
  | some rule =>
    have member : rule ∈ rules := by
      obtain ⟨merchant, -, isRule⟩ := Option.bind_eq_some_iff.mp found
      exact List.mem_of_find?_eq_some isRule
    obtain ⟨category, isDefault, same⟩ := known rule member
    refine ⟨category, isDefault, by rw [same]; rfl, ?_⟩
    have type := seededType_default category isDefault
    rw [same] at type
    constructor
    · intro required other isOther
      rw [found] at isOther
      obtain rfl := Option.some.inj isOther
      rw [type, required]
    · intro fits
      exact Option.some.inj (type.symm.trans (fits rule found))

end Classifier

/-! ### The accounts -/

/-- The book of the device has the seeded accounts. Their names may have been changed. -/
structure Device.Seeded (device : Device) : Prop where
  bank : ∃ row, device.accounts.lookup (accountKeyBank device.bookId) = some row ∧
    row.type = "asset" ∧ row.currencyCode = "CNY"
  category : ∀ category ∈ defaultCategoryDefinitions,
    ∃ row, device.accounts.lookup (accountId device.bookId category.key) = some row ∧
      row.type = category.type ∧ row.currencyCode = "CNY"

/-- A new book is seeded when its accounts are listed for the first time. -/
theorem seeded_initial (deviceId bookId : String) :
    (Device.initial deviceId bookId (ensureDefaultBookAccounts ∅ bookId)).Seeded where
  bank := by
    refine ⟨(⟨"acc_bank", "Bank", "asset", none⟩ : DefaultAccount).localRow bookId, ?_, rfl, rfl⟩
    exact seeded_lookup_iff.mpr ⟨_, by decide, rfl, rfl⟩
  category := by
    intro category isDefault
    refine ⟨(⟨category.key, category.name, category.type, category.parentKey⟩ :
      DefaultAccount).localRow bookId, seeded_lookup_iff.mpr ⟨_, ?_, rfl, rfl⟩, rfl, rfl⟩
    rw [defaultAccounts_eq]
    exact List.mem_cons_of_mem _ (List.mem_cons_of_mem _ (List.mem_map_of_mem isDefault))

theorem named_default : ∀ category ∈ defaultCategoryDefinitions,
    category.type = "expense" ∧ AccountType.named category.type = some .expense ∨
      category.type = "income" ∧ AccountType.named category.type = some .income := by
  decide +kernel

section Posting

variable [DartText]

/-- No transaction and no pending mutation has the ids of the post. -/
structure Device.Unposted (device : Device) (event : PaymentEvent) (txId newId : String) : Prop where
  transaction : device.transactions.lookup txId = none
  mutation : ∀ row ∈ device.pending,
    row.mutationId ≠ resolveMutationId device.bookId newId (some "auto_ledger") (some event.id)

omit [DartText] in
/-- A transaction is saved exactly if its ids are new. -/
theorem exists_saved_iff {device : Device} {tx : LedgerTransaction} {mutationId : String}
    {fingerprint : Option String} :
    (∃ saved, device.post (some tx) mutationId fingerprint = .ok saved) ↔
      device.transactions.lookup tx.id = none ∧
        ∀ row ∈ device.pending, row.mutationId ≠ mutationId := by
  have saves : (∃ saved, device.saveDomainTransaction tx mutationId fingerprint = some saved) ↔
      device.transactions.lookup tx.id = none ∧
        ∀ row ∈ device.pending, row.mutationId ≠ mutationId := by
    unfold Device.saveDomainTransaction Device.queue
    by_cases known : (device.transactions.lookup tx.id).isSome = true
    · rw [if_pos known]
      refine iff_of_false (fun ⟨_, written⟩ => by cases written) fun both => ?_
      rw [both.1] at known
      cases known
    · rw [if_neg known]
      have queued : (device.pending.any fun other => other.mutationId = mutationId) = true ↔
          ¬∀ row ∈ device.pending, row.mutationId ≠ mutationId := by
        simp
      by_cases new : ∀ row ∈ device.pending, row.mutationId ≠ mutationId
      · rw [if_neg fun found => queued.mp found new]
        exact iff_of_true ⟨_, rfl⟩ ⟨Option.not_isSome_iff_eq_none.mp known, new⟩
      · rw [if_pos (queued.mpr new)]
        exact iff_of_false (fun ⟨_, written⟩ => by cases written) fun both => new both.2
  rw [← saves]
  unfold Device.post
  dsimp only
  cases device.saveDomainTransaction tx mutationId fingerprint with
  | none => exact iff_of_false (fun ⟨_, posted⟩ => by cases posted) fun ⟨_, written⟩ => by cases written
  | some saved => exact iff_of_true ⟨saved, rfl⟩ ⟨saved, rfl⟩

/-- An account of the book, as the factory sees it. -/
theorem domainAccount_eq (upper : DartText.toUpperCase "CNY" = "CNY") {device : Device} {id : String}
    {row : LocalAccount} {type : AccountType} (found : device.accounts.lookup id = some row)
    (named : AccountType.named row.type = some type) (currency : row.currencyCode = "CNY") :
    device.domainAccount id = some ⟨id, type, "CNY"⟩ := by
  have parsed : parseCurrencyCode "CNY" = some "CNY" := by
    unfold parseCurrencyCode
    rw [show dartTrim "CNY" = "CNY" by decide, upper]
    decide
  rw [Device.domainAccount, found, Option.bind_eq_bind, Option.bind_some, named,
    Option.bind_eq_bind, Option.bind_some, currency, parsed]
  rfl

/-- `_postEvent` posts an event of a positive amount in a seeded book exactly if the rule that files
its merchant fits its direction and the ids are new. -/
theorem postEvent_posts_iff (upper : DartText.toUpperCase "CNY" = "CNY") {device : Device}
    (seeded : device.Seeded) {userRules : List MerchantRule}
    (known : ∀ rule ∈ userRules, SeededCategory rule.categoryKey) {event : PaymentEvent}
    (positive : 0 < event.amountMinor) (txId newId : String) :
    (∃ saved, device.postEvent (effectiveRules userRules) event txId newId = .ok saved) ↔
      event.FitsRules (effectiveRules userRules) ∧ device.Unposted event txId newId := by
  obtain ⟨category, isDefault, filed, fits⟩ :=
    @exists_category _ _ event (seededCategory_effective known) device.bookId
  obtain ⟨row, found, sameType, currency⟩ := seeded.category category isDefault
  obtain ⟨bankRow, bankFound, bankType, bankCurrency⟩ := seeded.bank
  have bank := domainAccount_eq upper bankFound (by rw [bankType]; rfl) bankCurrency
  have unposted : ∀ tx : LedgerTransaction, tx.id = txId →
      ((∃ saved, device.post (some tx)
          (resolveMutationId device.bookId newId (some "auto_ledger") (some event.id))
          (some (computeFingerprint event.direction event.amountMinor event.occurredAt
            (event.merchant.map dartTrim) device.bookId)) = .ok saved) ↔
        device.Unposted event txId newId) := by
    intro tx sameId
    rw [exists_saved_iff, sameId]
    exact ⟨fun both => ⟨both.1, both.2⟩, fun both => ⟨both.transaction, both.mutation⟩⟩
  have rejected : ¬∃ saved, device.post none
      (resolveMutationId device.bookId newId (some "auto_ledger") (some event.id))
      (some (computeFingerprint event.direction event.amountMinor event.occurredAt
        (event.merchant.map dartTrim) device.bookId)) = .ok saved := by
    rintro ⟨saved, posted⟩
    cases posted
  have nonzero : event.amountMinor ≠ 0 := by omega
  rw [← fits]
  unfold Device.postEvent
  rw [if_neg (by omega)]
  dsimp only
  rw [filed, requiredType]
  -- the two directions, with the two types that a category may have
  rcases named_default category isDefault with ⟨isType, named⟩ | ⟨isType, named⟩
  all_goals
    have account := domainAccount_eq upper found (by rw [sameType]; exact named) currency
    by_cases isIncome : event.direction = "income"
  · rw [if_pos isIncome, if_pos isIncome, isType, Device.createIncome, account, bank]
    simp only [Option.bind_eq_bind, Option.bind_some, TransactionHeader.income, dif_pos nonzero]
    exact iff_of_false rejected fun both => absurd both.1 (by decide)
  · rw [if_neg isIncome, if_neg isIncome, isType, Device.createExpense, account, bank]
    simp only [Option.bind_eq_bind, Option.bind_some, TransactionHeader.expense, dif_pos nonzero]
    exact (unposted _ rfl).trans ⟨fun new => ⟨trivial, new⟩, fun both => both.2⟩
  · rw [if_pos isIncome, if_pos isIncome, isType, Device.createIncome, account, bank]
    simp only [Option.bind_eq_bind, Option.bind_some, TransactionHeader.income, dif_pos nonzero]
    exact (unposted _ rfl).trans ⟨fun new => ⟨trivial, new⟩, fun both => both.2⟩
  · rw [if_neg isIncome, if_neg isIncome, isType, Device.createExpense, account, bank]
    simp only [Option.bind_eq_bind, Option.bind_some, TransactionHeader.expense, dif_pos nonzero]
    exact iff_of_false rejected fun both => absurd both.1 (by decide)

end Posting

/-! ### Money back from a shop -/

/-- A device with a new book. -/
def seededDevice : Device := Device.initial "phone" "book" (ensureDefaultBookAccounts ∅ "book")

/-- A payment, or a payment back, of one yuan. -/
def yuanOf (merchant direction : String) : PaymentEvent :=
  ⟨"event-1", "wechat", direction, 100, some merchant, 1767225600000⟩

theorem seededDevice_unposted (merchant direction : String) :
    seededDevice.Unposted (yuanOf merchant direction) "tx-1" "mutation-1" where
  transaction := rfl
  mutation := fun _ member => absurd member List.not_mem_nil

theorem lunch_is_posted :
    ∃ saved, @Device.postEvent asciiText seededDevice (effectiveRules []) (yuanOf "美团外卖" "expense")
      "tx-1" "mutation-1" = .ok saved := by
  refine (@postEvent_posts_iff asciiText (by decide) _ (seeded_initial "phone" "book") []
    (fun _ member => absurd member List.not_mem_nil) _ (by decide) "tx-1" "mutation-1").mpr
      ⟨?_, seededDevice_unposted _ _⟩
  have filed : (@filingRule asciiText (effectiveRules [])
      ((yuanOf "美团外卖" "expense").merchant.map dartTrim)).map MerchantRule.categoryKey =
        some "acc_food" := by
    decide +kernel
  intro rule isRule
  rw [isRule] at filed
  rw [Option.some.inj filed]
  decide +kernel

/-- What 美团 pays back is filed under food, and the factory throws. -/
theorem refund_is_not_posted :
    (∀ saved, @Device.postEvent asciiText seededDevice (effectiveRules [])
      (yuanOf "美团外卖" "income") "tx-1" "mutation-1" ≠ .ok saved) ∧
    ¬∀ (device : Device) (userRules : List MerchantRule) (event : PaymentEvent)
      (txId newId : String), device.Seeded → (∀ rule ∈ userRules, SeededCategory rule.categoryKey) →
        0 < event.amountMinor → device.Unposted event txId newId →
          ∃ saved, @Device.postEvent asciiText device (effectiveRules userRules) event txId newId =
            .ok saved := by
  have refused : ∀ saved, @Device.postEvent asciiText seededDevice (effectiveRules [])
      (yuanOf "美团外卖" "income") "tx-1" "mutation-1" ≠ .ok saved := by
    have refused : (match @Device.postEvent asciiText seededDevice (effectiveRules [])
        (yuanOf "美团外卖" "income") "tx-1" "mutation-1" with
      | .ok _ => true
      | .error _ => false) = false := by
      decide +kernel
    intro saved posted
    rw [posted] at refused
    cases refused
  refine ⟨refused, fun holds => ?_⟩
  obtain ⟨saved, posted⟩ := holds seededDevice [] (yuanOf "美团外卖" "income") "tx-1" "mutation-1"
    (seeded_initial "phone" "book") (fun _ member => absurd member List.not_mem_nil) (by decide)
    (seededDevice_unposted _ _)
  exact refused saved posted

end Ledgerly
