/-
This file models the parser of payment notifications, and how the brand line above a notification
decides the direction of its payment.

The listener joins the title and the texts of a notification, and the title of a payment app is its
name. The name of either app contains a keyword of expenses, and any such keyword outweighs those
of incomes.
-/

import Ledgerly.AutoLedgerService
import Ledgerly.Categories
import Ledgerly.Library.DelimitedText
import Ledgerly.Library.Matching
import Ledgerly.LedgerDomain
import Mathlib.Data.List.Infix
import Mathlib.Data.Rat.Floor

namespace Ledgerly.PaymentParser

open Matching

/-! ### Texts and numbers of the platform -/

/-- `\s`. -/
def isSpace (character : Char) : Bool :=
  character = ' ' || (9 ≤ character.toNat && character.toNat ≤ 13)

/-- What `.` does not match. -/
def isLineTerminator (character : Char) : Bool :=
  character = '\n' || character = '\r' || character.toNat = 0x85 || character.toNat = 0x2028 ||
    character.toNat = 0x2029

/-- `Char.isWhitespace`. -/
def isKotlinWhitespace (character : Char) : Bool :=
  let code := character.toNat
  (9 ≤ code && code ≤ 13) || (0x1C ≤ code && code ≤ 0x20) || code = 0xA0 || code = 0x1680 ||
    (0x2000 ≤ code && code ≤ 0x200A) || code = 0x2028 || code = 0x2029 || code = 0x202F ||
    code = 0x205F || code = 0x3000

/-- `String.take`, which counts UTF-16 units. A character that the cut would halve is left out. -/
def takeChars : Nat → List Char → List Char
  | _, [] => []
  | count, character :: rest =>
    let units := if character.toNat < 0x10000 then 1 else 2
    if units ≤ count then character :: takeChars (count - units) rest else []

/-- `String.take`, which counts in UTF-16. -/
def take (count : Nat) (text : String) : String := String.ofList (takeChars count text.toList)

/-- `String.contains`. -/
def contains (text part : String) : Bool := part.toList <:+: text.toList

/-- `Double`, as far as the parser uses it: `nearest value` is what `BigDecimal.valueOf` makes of
the `Double` that a decimal text of the value is read as, `none` where that is infinite. Fifteen
digits survive it. -/
class Doubles where
  nearest : ℚ → Option ℚ
  nearest_cents : ∀ cents : ℕ, cents < 10 ^ 15 →
    nearest ((cents : ℚ) / 100) = some ((cents : ℚ) / 100)

/-- `setScale(0, RoundingMode.HALF_UP)`. -/
def roundHalfUp (value : ℚ) : Int :=
  if 0 ≤ value then ⌊value + 1 / 2⌋ else -⌊-value + 1 / 2⌋

/-- The value of digits that may have a point among them. -/
def decimalOf (text : List Char) : Option ℚ :=
  (decimalNat (text.filter fun character => character ≠ '.')).map fun units =>
    (units : ℚ) / 10 ^ ((text.dropWhile fun character => character ≠ '.').drop 1).length

/-! ### The parser -/

/-- The name of WeChat, -/
def platformWechat : String := "wechat"

/-- and of Alipay. -/
def platformAlipay : String := "alipay"

/-- The direction of a payment, -/
def directionExpense : String := "expense"

/-- and of what comes in. -/
def directionIncome : String := "income"

/-- The two signs for yuan. -/
def isCurrencyMark (character : Char) : Bool := character = '¥' || character = '￥'

/-- `(?:\.\d{1,2})?` -/
def optionalCents : Pattern Char :=
  optional (seq (one fun character => character = '.')
    (seq (one Char.isDigit) (optional (one Char.isDigit))))

/-- `\d+(?:\.\d{1,2})?` -/
def amountGroup : Pattern Char := seq (seq (one Char.isDigit) (greedy Char.isDigit)) optionalCents

/-- The first of `AMOUNT_PATTERNS`: a mark before the amount. -/
def markedBefore : Grouped Char where
  before := seq (one isCurrencyMark) (greedy isSpace)
  group := amountGroup
  after := nothing

/-- The second of `AMOUNT_PATTERNS`: a mark after the amount. -/
def markedAfter : Grouped Char where
  before := nothing
  group := amountGroup
  after := seq (greedy isSpace) (one fun character => character = '元')

/-- The patterns of an amount, in the order in which they are tried. -/
def amountPatterns : List (Grouped Char) := [markedBefore, markedAfter]

/-- The words that tell an expense, -/
def expenseKeywords : List String :=
  ["付款", "支付成功", "支付", "消费", "扣款", "支出", "已支付"]

/-- and those that tell an income. -/
def incomeKeywords : List String := ["收款", "到账", "转入", "入账", "已收款"]

/-- One of these words. -/
def wordsOf (words : List String) : Pattern Char := oneOf (words.map String.toList)

/-- A character that the dot of a pattern stands for. -/
def isOrdinary (character : Char) : Bool := !isLineTerminator character

/-- `MERCHANT_PATTERNS`. -/
def merchantPatterns : List (Grouped Char) :=
  [{ before := seq (wordsOf ["商家", "商户", "付款方", "收款方"])
      (seq (one fun character => character = '：' || character = ':') (greedy isSpace))
     group := seq (one isOrdinary) (greedy isOrdinary)
     after := nothing },
   { before := seq (wordsOf ["向", "付款给", "收款来自"]) (greedy isSpace)
     group := seq (one isOrdinary) (reluctant isOrdinary)
     after := seq (greedy isSpace) (wordsOf ["付款", "支付", "收款", "转账"]) },
   { before := nothing
     group := seq (one isOrdinary) (reluctant isOrdinary)
     after := seq (greedy isSpace) (wordsOf ["收款", "向你付款"]) }]

/-- A `PaymentEvent` as the parser builds it. -/
structure CapturedPayment extends PaymentEvent where
  rawText : String
  deriving DecidableEq

/-- What is made of a notification: the payment, or why there is none. -/
inductive PaymentParseResult where
  | parsed (event : CapturedPayment)
  | unsupportedPlatform (packageName : String)
  | blankContent (platform : String)
  | noDirectionKeyword (platform contentPreview : String)
  | noAmount (platform direction contentPreview : String)
  | nonPositiveAmount (platform direction : String) (amount : ℚ)
  deriving DecidableEq

/-- The platform, where it was recognised. -/
def PaymentParseResult.platform : PaymentParseResult → Option String
  | .parsed event => some event.platform
  | .unsupportedPlatform _ => none
  | .blankContent platform => some platform
  | .noDirectionKeyword platform _ => some platform
  | .noAmount platform _ _ => some platform
  | .nonPositiveAmount platform _ _ => some platform

/-- The tag that an unparsed notification is kept with. -/
def PaymentParseResult.reasonTag : PaymentParseResult → String
  | .parsed _ => "parsed"
  | .unsupportedPlatform _ => "unsupported_platform"
  | .blankContent _ => "blank_content"
  | .noDirectionKeyword _ _ => "no_direction_keyword"
  | .noAmount _ _ _ => "no_amount"
  | .nonPositiveAmount _ _ _ => "non_positive_amount"

/-- The direction a result carries. -/
def PaymentParseResult.direction : PaymentParseResult → Option String
  | .parsed event => some event.direction
  | .noAmount _ direction _ => some direction
  | .nonPositiveAmount _ direction _ => some direction
  | _ => none

/-- The platform of an app. -/
def platformOf (packageName : String) : Option String :=
  if packageName = "com.tencent.mm" then some platformWechat
  else if packageName = "com.eg.android.AlipayGphone" then some platformAlipay
  else none

/-- `String.isBlank`. -/
def isBlank (text : String) : Bool := text.toList.all isKotlinWhitespace

/-- The direction that the words tell. An expense word outweighs every income word. -/
def directionOf (content : String) : Option String :=
  if (incomeKeywords.any fun keyword => contains content keyword) &&
      !(expenseKeywords.any fun keyword => contains content keyword) then some directionIncome
  else if expenseKeywords.any fun keyword => contains content keyword then some directionExpense
  else none

/-- The number in a match, where it is finite and positive. -/
def readAmount [Doubles] (group : List Char) : Option ℚ :=
  ((decimalOf group).bind Doubles.nearest).filter fun value => 0 < value

/-- The amount of the first pattern that has a match which can be read. -/
def findAmount [Doubles] (text : List Char) : Option ℚ :=
  amountPatterns.findSome? fun regex => (regex.find text).bind readAmount

/-- The merchant of the first pattern that has one, cut to 50 units. -/
def findMerchant (text : List Char) : Option String :=
  merchantPatterns.findSome? fun regex =>
    (regex.find text).bind fun group =>
      let raw := DelimitedText.strip isKotlinWhitespace group
      if raw = [] then none else some (String.ofList (takeChars 50 raw))

/-- `BigDecimal.valueOf(amount).multiply(BigDecimal(100)).setScale(0, HALF_UP).toLong()` -/
def amountMinorOf (amount : ℚ) : Int := asI64 (roundHalfUp (amount * 100))

/-- `PaymentParser.parse`: the checks in their order, and the payment if all succeed. -/
def parse [Doubles] (packageName content : String) (timestamp : Int) : PaymentParseResult :=
  match platformOf packageName with
  | none => .unsupportedPlatform packageName
  | some platform =>
    if isBlank content then .blankContent platform
    else
      match directionOf content with
      | none => .noDirectionKeyword platform (take 120 content)
      | some direction =>
        match findAmount content.toList with
        | none => .noAmount platform direction (take 120 content)
        | some amount =>
          if amount ≤ 0 then .nonPositiveAmount platform direction amount
          else
            let amountMinor := amountMinorOf amount
            if amountMinor ≤ 0 then .nonPositiveAmount platform direction amount
            else
              .parsed
                { id := platform ++ "-" ++ decimalText timestamp ++ "-" ++ decimalText amountMinor
                  platform
                  direction
                  amountMinor
                  merchant := findMerchant content.toList
                  timestamp
                  rawText := take 2000 content }

/-! ### Keywords in a text -/

/-- The text has a word for an expense, -/
def hasExpenseKeyword (content : String) : Bool :=
  expenseKeywords.any fun keyword => contains content keyword

/-- or one for an income. -/
def hasIncomeKeyword (content : String) : Bool :=
  incomeKeywords.any fun keyword => contains content keyword

theorem contains_iff {text part : String} :
    contains text part = true ↔ ∃ front back, text.toList = front ++ part.toList ++ back := by
  rw [contains, decide_eq_true_eq]
  exact ⟨fun ⟨front, back, split⟩ => ⟨front, back, split.symm⟩,
    fun ⟨front, back, split⟩ => ⟨front, back, split.symm⟩⟩

/-- What a part contains, the text contains. -/
theorem contains_trans {text part inner : String} (outer : contains text part = true)
    (within : contains part inner = true) : contains text inner = true :=
  decide_eq_true ((of_decide_eq_true within).trans (of_decide_eq_true outer))

/-- A text with a keyword in it is not blank. -/
theorem isBlank_of_contains {content keyword : String}
    (member : keyword ∈ expenseKeywords ++ incomeKeywords) (found : contains content keyword = true) :
    isBlank content = false := by
  have visible : ∀ keyword ∈ expenseKeywords ++ incomeKeywords, isBlank keyword = false := by
    decide +kernel
  obtain ⟨character, inKeyword, notBlank⟩ := List.all_eq_false.mp (visible keyword member)
  obtain ⟨front, back, split⟩ := contains_iff.mp found
  rw [isBlank, List.all_eq_false]
  refine ⟨character, ?_, notBlank⟩
  rw [split]
  exact List.mem_append_left _ (List.mem_append_right _ inKeyword)

theorem directionOf_eq (content : String) :
    directionOf content =
      if hasExpenseKeyword content then some directionExpense
      else if hasIncomeKeyword content then some directionIncome else none := by
  rw [directionOf, ← hasExpenseKeyword, ← hasIncomeKeyword]
  cases hasExpenseKeyword content <;> cases hasIncomeKeyword content <;> rfl

theorem directionOf_of_blank {content : String} (blank : isBlank content = true) :
    directionOf content = none := by
  have noKeyword : ∀ keywords, keywords ⊆ expenseKeywords ++ incomeKeywords →
      (keywords.any fun keyword => contains content keyword) = false := by
    intro keywords known
    rw [List.any_eq_false]
    intro keyword member found
    rw [isBlank_of_contains (known member) found] at blank
    cases blank
  rw [directionOf_eq, hasExpenseKeyword, hasIncomeKeyword,
    noKeyword _ (List.subset_append_left _ _), noKeyword _ (List.subset_append_right _ _)]
  rfl

/-- The direction a result carries is that of the content, whatever becomes of the amount. -/
theorem direction_parse [Doubles] {packageName platform : String}
    (supported : platformOf packageName = some platform) (content : String) (timestamp : Int) :
    (parse packageName content timestamp).direction = directionOf content := by
  rw [parse, supported]
  dsimp only
  by_cases blank : isBlank content = true
  · rw [if_pos blank, directionOf_of_blank blank]
    rfl
  · rw [if_neg blank]
    cases directed : directionOf content with
    | none => rfl
    | some direction =>
      dsimp only
      cases findAmount content.toList with
      | none => rfl
      | some amount =>
        dsimp only
        by_cases zero : amount ≤ 0
        · rw [if_pos zero]
          rfl
        · rw [if_neg zero]
          by_cases small : amountMinorOf amount ≤ 0
          · rw [if_pos small]
            rfl
          · rw [if_neg small]
            rfl

/-! ### The brand line -/

/-- The apps whose notifications the listener reads. -/
inductive PaymentApp where
  | wechat
  | alipay

/-- The package that the notifications of an app come from. -/
def PaymentApp.packageName : PaymentApp → String
  | .wechat => "com.tencent.mm"
  | .alipay => "com.eg.android.AlipayGphone"

/-- The title of the app's payment notifications. -/
def PaymentApp.brandName : PaymentApp → String
  | .wechat => "微信支付"
  | .alipay => "支付宝"

/-- A notification whose title is the name of the app. -/
def PaymentApp.withBrandLine (app : PaymentApp) (body : String) : String :=
  app.brandName ++ "\n" ++ body

/-- Every keyword of expenses in a text stands within the name of an app. -/
def ExpenseOnlyInBrands (body : String) : Prop :=
  ∀ front keyword back, keyword ∈ expenseKeywords → body.toList = front ++ keyword.toList ++ back →
    ∃ app : PaymentApp, ∃ start stop, body.toList = start ++ app.brandName.toList ++ stop ∧
      start.length ≤ front.length ∧ stop.length ≤ back.length

theorem PaymentApp.platformOf_packageName (app : PaymentApp) :
    ∃ platform, platformOf app.packageName = some platform := by
  cases app
  · exact ⟨platformWechat, rfl⟩
  · exact ⟨platformAlipay, rfl⟩

/-- The name of an app contains a keyword of expenses. -/
theorem PaymentApp.hasExpenseKeyword_of_brandName {app : PaymentApp} {content : String}
    (named : contains content app.brandName = true) : hasExpenseKeyword content = true := by
  have inName : contains app.brandName "支付" = true := by
    cases app <;> decide +kernel
  exact List.any_eq_true.mpr ⟨"支付", by decide, contains_trans named inName⟩

theorem PaymentApp.contains_withBrandLine (app : PaymentApp) (body : String) :
    contains (app.withBrandLine body) app.brandName = true := by
  refine contains_iff.mpr ⟨[], '\n' :: body.toList, ?_⟩
  rw [withBrandLine, String.toList_append, String.toList_append, List.append_assoc]
  rfl

/-- The brand line leaves the direction as it is exactly when the body has a keyword of expenses of
its own. A body that has one of incomes and, names of apps apart, none of expenses is parsed as an
income exactly when it does not name an app. -/
theorem brandLine_direction_iff [Doubles] (app : PaymentApp) (body : String) (timestamp : Int) :
    ((parse app.packageName (app.withBrandLine body) timestamp).direction =
        (parse app.packageName body timestamp).direction ↔ hasExpenseKeyword body = true) ∧
      (hasIncomeKeyword body = true → ExpenseOnlyInBrands body →
        ((parse app.packageName body timestamp).direction = some directionIncome ↔
          ∀ other : PaymentApp, contains body other.brandName = false)) := by
  obtain ⟨platform, supported⟩ := app.platformOf_packageName
  rw [direction_parse supported, direction_parse supported, directionOf_eq body]
  have branded : directionOf (app.withBrandLine body) = some directionExpense := by
    rw [directionOf_eq,
      PaymentApp.hasExpenseKeyword_of_brandName (app.contains_withBrandLine body), if_pos rfl]
  constructor
  · rw [branded]
    cases hasExpenseKeyword body with
    | true => exact ⟨fun _ => rfl, fun _ => rfl⟩
    | false => cases hasIncomeKeyword body <;> exact ⟨nofun, nofun⟩
  · intro income onlyBrands
    rw [income]
    by_cases expense : hasExpenseKeyword body = true
    · rw [if_pos expense]
      refine ⟨nofun, fun unnamed => ?_⟩
      obtain ⟨keyword, member, found⟩ := List.any_eq_true.mp expense
      obtain ⟨front, back, split⟩ := contains_iff.mp found
      obtain ⟨other, start, stop, named, -⟩ := onlyBrands front keyword back member split
      have names := contains_iff.mpr ⟨start, stop, named⟩
      rw [unnamed other] at names
      cases names
    · rw [if_neg expense, if_pos rfl]
      refine ⟨fun _ other => ?_, fun _ => rfl⟩
      by_contra named
      exact expense (PaymentApp.hasExpenseKeyword_of_brandName (Bool.of_not_eq_false named))

/-- `Double` for the amounts of a run: what few digits spell survives it. -/
@[reducible] def fewDigits : Doubles := ⟨some, fun _ _ => rfl⟩

/-- An income is parsed as an expense under the name of its app. -/
theorem income_under_brandLine :
    hasIncomeKeyword "收款到账 100.00元" = true ∧ hasExpenseKeyword "收款到账 100.00元" = false ∧
      (@parse fewDigits PaymentApp.alipay.packageName "收款到账 100.00元" 1788705000000).direction =
        some directionIncome ∧
      (@parse fewDigits PaymentApp.alipay.packageName
        (PaymentApp.alipay.withBrandLine "收款到账 100.00元") 1788705000000).direction =
        some directionExpense := by
  decide +kernel

end Ledgerly.PaymentParser
