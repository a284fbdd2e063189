/-
This file models the merchant rules of the client, their rows in a backup, and proves when
the rules that come back from an incremental backup file every merchant as the rules it was
made of. The first rule that matches decides, so the order of the rules is what counts, and
an incremental knows no order: the rules that the base has come back in the order of the
base.
-/

import Ledgerly.AutoLedgerService
import Ledgerly.IncrementalLaw
import Mathlib.Data.List.Find

namespace Ledgerly

/-! ### Rules and their rows -/

/-- The needles of a row: texts only, trimmed, none of them empty. -/
def cleanNeedles (needles : List Json) : List String :=
  ((needles.filterMap Json.asStr?).map dartTrim).filter (· ≠ "")

theorem dartTrim_dartTrim (text : String) : dartTrim (dartTrim text) = dartTrim text := by
  unfold dartTrim
  dsimp only
  rw [String.toList_ofList]
  exact congrArg String.ofList (strip_strip (fun _ blank => blank) _)

theorem dartTrim_of_mem_cleanNeedles {needles : List Json} :
    ∀ needle ∈ cleanNeedles needles, needle ≠ "" ∧ dartTrim needle = needle := by
  intro needle member
  obtain ⟨trimmed, nonempty⟩ := List.mem_filter.mp member
  obtain ⟨text, -, rfl⟩ := List.mem_map.mp trimmed
  exact ⟨of_decide_eq_true nonempty, dartTrim_dartTrim text⟩

/-- A rule of `MerchantRuleStore`: it has an id, and what its needles are was seen to when it
was loaded. -/
structure UserRule extends MerchantRule where
  id : String
  stocked : needles ≠ []
  clean : ∀ needle ∈ needles, needle ≠ "" ∧ dartTrim needle = needle

/-- `_merchantRuleToJson`. -/
def merchantRuleToJson (rule : UserRule) : BackupRow :=
  [("id", .str rule.id), ("categoryKey", .str rule.categoryKey),
    ("needles", .arr (rule.needles.map .str))]

/-- `_merchantRuleFromJson`, and `_ruleFromJson` of the store. A row without needles has no
clean ones either. -/
def merchantRuleFromJson (row : BackupRow) : Option UserRule :=
  match row.lookup "id", row.lookup "categoryKey", row.lookup "needles" with
  | some (.str id), some (.str categoryKey), some (.arr needles) =>
    if stocked : cleanNeedles needles ≠ [] then
      some { id, categoryKey, needles := cleanNeedles needles, stocked,
             clean := dartTrim_of_mem_cleanNeedles }
    else none
  | _, _, _ => none

/-- `MerchantRuleStore.add`, of the rules that are stored. -/
def addRule (existing : List UserRule) (rule : UserRule) : List UserRule := existing ++ [rule]

/-- `MerchantRuleStore.remove`. -/
def removeRule (existing : List UserRule) (ruleId : String) : List UserRule :=
  existing.filter fun rule => rule.id ≠ ruleId

/-- `_restoreMerchantRules`: the rules that are saved. -/
def restoreMerchantRules (rows : List BackupRow) : List UserRule :=
  rows.filterMap merchantRuleFromJson

theorem cleanNeedles_of_clean {needles : List String}
    (clean : ∀ needle ∈ needles, needle ≠ "" ∧ dartTrim needle = needle) :
    cleanNeedles (needles.map .str) = needles := by
  have texts : (needles.map Json.str).filterMap Json.asStr? = needles := by
    rw [List.filterMap_map]
    exact List.filterMap_some
  rw [cleanNeedles, texts, List.map_congr_left fun needle member => (clean needle member).2,
    List.map_id', List.filter_eq_self]
  exact fun needle member => decide_eq_true (clean needle member).1

/-- A rule comes back from its row. -/
theorem merchantRuleFromJson_toJson (rule : UserRule) :
    merchantRuleFromJson (merchantRuleToJson rule) = some rule := by
  obtain ⟨⟨categoryKey, needles⟩, id, stocked, clean⟩ := rule
  have same := cleanNeedles_of_clean clean
  show (if stocked : cleanNeedles (needles.map .str) ≠ [] then
    some { id, categoryKey, needles := cleanNeedles (needles.map .str), stocked,
           clean := dartTrim_of_mem_cleanNeedles : UserRule } else none) = _
  rw [dif_pos (by rw [same]; exact stocked)]
  simp only [same]

theorem restoreMerchantRules_toJson (rules : List UserRule) :
    restoreMerchantRules (rules.map merchantRuleToJson) = rules := by
  have same : merchantRuleFromJson ∘ merchantRuleToJson = some := funext merchantRuleFromJson_toJson
  rw [restoreMerchantRules, List.filterMap_map, same, List.filterMap_some]

theorem numeric_merchantRuleToJson (rules : List UserRule) :
    ∀ row ∈ rules.map merchantRuleToJson, Json.Numeric (.obj row) := by
  intro row member
  obtain ⟨rule, -, rfl⟩ := List.mem_map.mp member
  have texts : ∀ needles : List String, Json.NumericItems (needles.map .str) := by
    intro needles
    induction needles with
    | nil => trivial
    | cons needle rest inductionHypothesis => exact ⟨trivial, inductionHypothesis⟩
  exact ⟨trivial, trivial, texts rule.needles, trivial⟩

/-! ### What an incremental brings back -/

/-- The rules that the base knows, in its order. -/
def keptRules (before now : List UserRule) : List UserRule :=
  before.filterMap fun rule => now.find? fun other => other.id = rule.id

/-- The rules that the base does not know. -/
def newRules (before now : List UserRule) : List UserRule :=
  now.filter fun rule => rule.id ∉ before.map UserRule.id

section Rows

variable {before now : List UserRule} (new : KeyedRows (now.map merchantRuleToJson))

include new

/-- The rules that come back: those that the base knows first, in its order. -/
theorem restore_merged (old : KeyedRows (before.map merchantRuleToJson)) :
    restoreMerchantRules (old.byId.keys.filterMap new.byId.lookup ++
      (new.byId.keys.filter fun id => id ∉ old.byId.keys).filterMap new.byId.lookup) =
        keptRules before now ++ newRules before now := by
  have looked : ∀ ids : List String, ids.filterMap new.byId.lookup =
      (ids.filterMap fun id => now.find? fun rule => rule.id = id).map merchantRuleToJson := by
    intro ids
    rw [List.map_filterMap, funext new.lookup_byId_map]
    rfl
  have isNew : ((new.byId.keys.filter fun id => id ∉ old.byId.keys).filterMap fun id =>
      now.find? fun rule => rule.id = id) = newRules before now := by
    rw [new.keys_byId_map, old.keys_byId_map, List.filter_map, List.filterMap_map]
    have each : ∀ rules : List UserRule, (∀ rule ∈ rules, rule ∈ now) →
        rules.filterMap ((fun id => now.find? fun rule => rule.id = id) ∘ UserRule.id) = rules := by
      intro rules within
      refine (List.filterMap_congr fun rule member => ?_).trans List.filterMap_some
      exact new.find?_id (within rule member)
    exact each _ fun rule member => List.mem_of_mem_filter member
  rw [looked, looked, ← List.map_append, restoreMerchantRules_toJson, isNew, old.keys_byId_map,
    List.filterMap_map]
  rfl

end Rows

/-! ### Classification -/

section Classification

variable [DartText]

/-- The rule has a needle that the merchant contains. -/
def UserRule.matches (rule : UserRule) (merchant : String) : Bool :=
  rule.needles.any fun needle =>
    containsText (DartText.toLowerCase merchant) (DartText.toLowerCase needle)

/-- `MerchantClassifier.classify` with the rules of the store. -/
def classifyBy (rules : List UserRule) : Option String → String → String → String :=
  classify (rules.map UserRule.toMerchantRule)

/-- Of the rules that match a merchant and that the base knows, the first one in the order of
the base is of the category of the first rule that matches. -/
def KeepsPriority (before now : List UserRule) : Prop :=
  ∀ merchant, dartTrim merchant ≠ "" → ∀ first kept : UserRule,
    (now.find? fun rule => rule.matches merchant) = some first →
    ((keptRules before now).find? fun rule => rule.matches merchant) = some kept →
    kept.categoryKey = first.categoryKey

theorem classifyBy_some (rules : List UserRule) {merchant : String} (text : dartTrim merchant ≠ "")
    (direction bookId : String) :
    classifyBy rules (some merchant) direction bookId =
      ((rules.find? fun rule => rule.matches merchant).map fun rule =>
        accountId bookId rule.categoryKey).getD
          (if direction = "income" then accountKeyOtherIncome bookId
          else accountKeyOtherExpense bookId) := by
  have found : ((rules.map UserRule.toMerchantRule).find? fun rule => rule.needles.any fun needle =>
      containsText (DartText.toLowerCase merchant) (DartText.toLowerCase needle)) =
      (rules.find? fun rule => rule.matches merchant).map UserRule.toMerchantRule := by
    rw [List.find?_map]
    rfl
  rw [classifyBy, classify]
  dsimp only
  rw [if_neg text, found]
  cases rules.find? fun rule => rule.matches merchant with
  | none => rfl
  | some rule => rfl

/-- No merchant, or a blank one, is filed by no rule. -/
theorem classifyBy_blank (rules others : List UserRule) {merchant : Option String}
    (blank : ∀ text, merchant = some text → dartTrim text = "") (direction bookId : String) :
    classifyBy rules merchant direction bookId = classifyBy others merchant direction bookId := by
  cases merchant with
  | none => rfl
  | some text =>
    rw [classifyBy, classifyBy, classify, classify]
    dsimp only
    rw [if_pos (blank text rfl), if_pos (blank text rfl)]

omit [DartText] in
theorem accountId_injective {bookId one two : String}
    (same : accountId bookId one = accountId bookId two) : one = two :=
  String.append_right_inj _ |>.mp same

section Priority

variable {before now : List UserRule}

/-- A rule that matches and that is not among those the base knows is new. -/
theorem find?_newRules
    (distinct : ∀ rule ∈ now, (now.find? fun other => other.id = rule.id) = some rule)
    {merchant : String}
    (none_kept : ((keptRules before now).find? fun rule => rule.matches merchant) = none) :
    ((newRules before now).find? fun rule => rule.matches merchant) =
      now.find? fun rule => rule.matches merchant := by
  rw [newRules, List.find?_filter]
  refine List.find?_congr fun rule member => ?_
  cases isMatch : rule.matches merchant with
  | false => simp
  | true =>
    have notKept : rule.id ∉ before.map UserRule.id := by
      intro known
      obtain ⟨old, inBefore, same⟩ := List.mem_map.mp known
      have kept : rule ∈ keptRules before now :=
        List.mem_filterMap.mpr ⟨old, inBefore, by rw [same]; exact distinct rule member⟩
      exact List.find?_eq_none.mp none_kept rule kept isMatch
    simp [notKept]

/-- The rules that come back file every merchant as the rules they were made of exactly if the
priority is kept. -/
theorem classifyBy_restored_iff
    (distinct : ∀ rule ∈ now, (now.find? fun other => other.id = rule.id) = some rule) :
    (∀ merchant direction bookId,
      classifyBy (keptRules before now ++ newRules before now) merchant direction bookId =
        classifyBy now merchant direction bookId) ↔ KeepsPriority before now := by
  constructor
  · intro same merchant text first kept isFirst isKept
    have equal := same (some merchant) "" ""
    rw [classifyBy_some _ text, classifyBy_some _ text, List.find?_append, isFirst, isKept] at equal
    exact accountId_injective equal
  · intro keeps merchant direction bookId
    by_cases blank : ∀ text, merchant = some text → dartTrim text = ""
    · exact classifyBy_blank _ _ blank direction bookId
    · push Not at blank
      obtain ⟨text, rfl, sharp⟩ := blank
      rw [classifyBy_some _ sharp, classifyBy_some _ sharp, List.find?_append]
      cases isKept : (keptRules before now).find? fun rule => rule.matches text with
      | none =>
        rw [Option.none_or, find?_newRules distinct isKept]
      | some kept =>
        -- A rule that the base knows is one of the current ones, so one of them matches.
        have member : kept ∈ now := by
          obtain ⟨_, -, found⟩ := List.mem_filterMap.mp (List.mem_of_find?_eq_some isKept)
          exact List.mem_of_find?_eq_some found
        cases isFirst : now.find? fun rule => rule.matches text with
        | none => exact absurd (List.find?_some isKept) (List.find?_eq_none.mp isFirst kept member)
        | some first =>
          rw [Option.some_or, Option.map_some, Option.map_some,
            keeps text sharp first kept isFirst isKept]

end Priority

/-! ### Rules out of an incremental -/

/-- An incremental of a backup with rules, applied to its base, gives back rules that file every
merchant as the rules of the backup exactly if these keep the priority of those that the base
knows. -/
theorem restored_rules_iff [Sha256] {fresh : String} {base current delta result : BackupDocument}
    {before now : List UserRule}
    (inBase : base.Holds "merchantRules" (before.map merchantRuleToJson))
    (inCurrent : current.Holds "merchantRules" (now.map merchantRuleToJson))
    (built : buildIncremental fresh current base = .ok delta)
    (applied : applyIncremental base delta = .ok result) :
    ∃ rows, result.Holds "merchantRules" rows ∧
      ((∀ merchant direction bookId,
        classifyBy (restoreMerchantRules rows) merchant direction bookId =
          classifyBy now merchant direction bookId) ↔ KeepsPriority before now) := by
  obtain ⟨old, new, holds⟩ := merged_of_built (by decide) inBase inCurrent
    (numeric_merchantRuleToJson before) (numeric_merchantRuleToJson now) built applied
  refine ⟨_, holds, ?_⟩
  rw [restore_merged new old]
  exact classifyBy_restored_iff fun rule member => new.find?_id member

end Classification

/-! ### Coffee at a shop -/

/-- A document that has rules only. -/
def ofRules (backupId : String) (rules : List UserRule) : BackupDocument where
  summary := ⟨0, 0, 0, 0, 0, 0, 0, rules.length⟩
  payload := [("merchantRules", .arr ((rules.map merchantRuleToJson).map .obj))]
  backupId := some backupId

/-- A rule for cafés, -/
def coffeeRule : UserRule where
  categoryKey := "acc_food"
  needles := ["coffee"]
  id := "coffee"
  stocked := by decide
  clean := by decide

/-- and one for shops. -/
def shopRule : UserRule where
  categoryKey := "acc_shopping"
  needles := ["shop"]
  id := "shop"
  stocked := by decide
  clean := by decide

theorem holds_ofRules (backupId : String) (rules : List UserRule) :
    (ofRules backupId rules).Holds "merchantRules" (rules.map merchantRuleToJson) :=
  asList_rows _ _

/-- The rule of the shops was added since the backup. -/
theorem shopRule_comes_back :
    ∃ delta result rows,
      @buildIncremental emptySha256 "" (ofRules "may-31" [coffeeRule, shopRule])
        (ofRules "may-1" [coffeeRule]) = .ok delta ∧
      applyIncremental (ofRules "may-1" [coffeeRule]) delta = .ok result ∧
      result.Holds "merchantRules" rows ∧
      ((∀ merchant direction bookId,
        @classifyBy asciiText (restoreMerchantRules rows) merchant direction bookId =
          @classifyBy asciiText [coffeeRule, shopRule] merchant direction bookId) ↔
        @KeepsPriority asciiText [coffeeRule] [coffeeRule, shopRule]) := by
  obtain ⟨rows, holds, classified⟩ := @restored_rules_iff asciiText emptySha256 "" _ _ _ _
    [coffeeRule] [coffeeRule, shopRule] (holds_ofRules "may-1" _) (holds_ofRules "may-31" _) rfl rfl
  exact ⟨_, _, rows, rfl, rfl, holds, classified⟩

/-- The rule of the coffee was removed since the backup and added again, so that a coffee shop
is a shop. The incremental holds nothing, and what comes back files it under food. -/
theorem readded_rule_comes_first :
    ∃ delta result rows,
      @buildIncremental emptySha256 ""
        (ofRules "may-31" (addRule (removeRule [coffeeRule, shopRule] "coffee") coffeeRule))
        (ofRules "may-1" [coffeeRule, shopRule]) = .ok delta ∧
      applyIncremental (ofRules "may-1" [coffeeRule, shopRule]) delta = .ok result ∧
      result.Holds "merchantRules" rows ∧
      @classifyBy asciiText (restoreMerchantRules rows) (some "coffee shop") "expense" "book" =
        "book:acc_food" ∧
      @classifyBy asciiText (addRule (removeRule [coffeeRule, shopRule] "coffee") coffeeRule)
        (some "coffee shop") "expense" "book" = "book:acc_shopping" :=
  ⟨_, _, _, rfl, rfl, rfl, by decide +kernel, by decide +kernel⟩

end Ledgerly
