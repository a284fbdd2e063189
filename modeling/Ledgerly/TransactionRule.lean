/-
This file compares the two places that decide whether a list of entries is a transaction:
the constructors of the domain package on a device and `validate_balanced` on the server.

Both ask for two entries, one currency, no zero amount and the sum zero. They ask in another
order, and the device asks it of integers of any size: the server stores an amount in 64
bits and checks that it can. So the server accepts what a device does where every amount
fits 64 bits, and nothing else.
-/

import Mathlib.Data.List.Dedup
import Ledgerly.SentMutation

namespace Ledgerly.DomainPackage

/-! ### Money and entries -/

/-- `DomainErrorCode`. -/
inductive DomainErrorCode where
  | zeroAmount
  | unbalanced
  | tooFewEntries
  | currencyMismatch
  | invalidTransfer
  | invalidAccount
  deriving DecidableEq

/-- `DomainException`. -/
structure DomainException where
  code : DomainErrorCode
  message : String
  deriving DecidableEq

/-- `CurrencyCode`: its constructor is private, so that a value has passed `parse`. -/
@[ext] structure CurrencyCode where
  value : String
  threeCapitals : IsCurrencyCode value
  deriving DecidableEq


/-- `Money`: a value of this type has passed the check of its constructor. -/
structure Money where
  minorUnits : Int
  currency : CurrencyCode
  nonzero : minorUnits ≠ 0

/-- The constructor of `Money`. -/
def Money.new (minorUnits : Int) (currency : CurrencyCode) : Except DomainException Money :=
  if zero : minorUnits = 0 then .error ⟨.zeroAmount, "Money amount must be non-zero"⟩
  else .ok ⟨minorUnits, currency, zero⟩

/-- `TransactionEntry`. -/
structure TransactionEntry where
  id : String
  transactionId : String
  accountId : String
  amount : Money
  index : Int

/-! ### Transactions -/

/-- `validateBalanced` of `LedgerTransaction`. -/
def checkBalanced (entries : List TransactionEntry) : Except DomainException Unit :=
  if ((entries.map fun entry => entry.amount.currency).dedup).length ≠ 1 then
    .error ⟨.currencyMismatch, "All entries must share one currency in Phase 0"⟩
  else
    let sum := entries.foldl (fun total entry => total + entry.amount.minorUnits) 0
    if sum ≠ 0 then .error ⟨.unbalanced, "Entries sum to " ++ decimalText sum ++ ", expected 0"⟩
    else .ok ()

/-- What the constructor of `LedgerTransaction` checks: its body throws or returns. -/
def checkTransaction (id : String) (entries : List TransactionEntry) :
    Except DomainException Unit :=
  if entries.length < 2 then
    .error ⟨.tooFewEntries, "Transaction requires at least two entries"⟩
  else if entries.any fun entry => entry.transactionId ≠ id then
    .error ⟨.invalidTransfer, "Entry transactionId mismatch"⟩
  else checkBalanced entries

/-- One entry as both sides are given it: an account id, an integer and a currency. -/
structure EntryValue where
  accountId : String
  amountMinor : Int
  currency : CurrencyCode

/-- The entry as the server has it. -/
def EntryValue.draft (value : EntryValue) : EntryDraft where
  accountId := value.accountId
  amountMinor := value.amountMinor
  currency := value.currency.value

/-- The entries of a transaction as the device builds them, an amount at a time. -/
def buildEntries (transactionId : String) (newId : Nat → String) :
    List EntryValue → Nat → Except DomainException (List TransactionEntry)
  | [], _ => .ok []
  | value :: rest, index => do
    let amount ← Money.new value.amountMinor value.currency
    let others ← buildEntries transactionId newId rest (index + 1)
    return ⟨newId index, transactionId, value.accountId, amount, index⟩ :: others

/-- A transaction of the given entries: every amount first, the transaction around them then. -/
def newTransaction (id : String) (newId : Nat → String) (values : List EntryValue) :
    Except DomainException (List TransactionEntry) := do
  let entries ← buildEntries id newId values 0
  checkTransaction id entries
  return entries

/-! ### What a device accepts -/

/-- The rule of the domain package: two entries, one currency, no zero amount, and the sum zero
over the integers. -/
structure Accepts (values : List EntryValue) : Prop where
  atLeastTwo : 2 ≤ values.length
  oneCurrency : ∃ currency, ∀ value ∈ values, value.currency = currency
  nonzero : ∀ value ∈ values, value.amountMinor ≠ 0
  sumZero : (values.map EntryValue.amountMinor).sum = 0

/-- A set made of a list has one element exactly if the list repeats one. -/
theorem dedup_length_eq_one_iff {Element : Type} [DecidableEq Element] (list : List Element) :
    list.dedup.length = 1 ↔ list ≠ [] ∧ ∃ only, ∀ element ∈ list, element = only := by
  rw [List.length_eq_one_iff]
  constructor
  · rintro ⟨only, single⟩
    refine ⟨?_, only, fun element member => ?_⟩
    · rintro rfl
      rw [List.dedup_nil] at single
      exact List.cons_ne_nil _ _ single.symm
    · rw [← List.mem_dedup, single] at member
      exact List.mem_singleton.mp member
  · rintro ⟨nonempty, only, same⟩
    refine ⟨only, ?_⟩
    rw [List.eq_replicate_of_mem same]
    exact List.replicate_dedup (mt List.length_eq_zero_iff.mp nonempty)

theorem foldl_minorUnits (entries : List TransactionEntry) (start : Int) :
    entries.foldl (fun total entry => total + entry.amount.minorUnits) start =
      start + (entries.map fun entry => entry.amount.minorUnits).sum := by
  induction entries generalizing start with
  | nil => rw [List.foldl_nil, List.map_nil, List.sum_nil, add_zero]
  | cons entry rest inductionHypothesis =>
    rw [List.foldl_cons, inductionHypothesis, List.map_cons, List.sum_cons, add_assoc]

theorem checkBalanced_eq_ok_iff (entries : List TransactionEntry) :
    checkBalanced entries = .ok () ↔
      (entries ≠ [] ∧ ∃ currency, ∀ entry ∈ entries, entry.amount.currency = currency) ∧
        (entries.map fun entry => entry.amount.minorUnits).sum = 0 := by
  have currencies := dedup_length_eq_one_iff (entries.map fun entry => entry.amount.currency)
  rw [List.map_eq_nil_iff.ne] at currencies
  simp only [List.forall_mem_map] at currencies
  rw [← currencies]
  unfold checkBalanced
  simp only [foldl_minorUnits, zero_add]
  split_ifs with several unbalanced
  · exact ⟨nofun, fun both => absurd both.1 several⟩
  · exact ⟨nofun, fun both => absurd both.2 unbalanced⟩
  · exact ⟨fun _ => ⟨not_not.mp several, not_not.mp unbalanced⟩, fun _ => rfl⟩

theorem checkTransaction_eq_ok_iff (id : String) (entries : List TransactionEntry) :
    checkTransaction id entries = .ok () ↔
      2 ≤ entries.length ∧ (∀ entry ∈ entries, entry.transactionId = id) ∧
        (∃ currency, ∀ entry ∈ entries, entry.amount.currency = currency) ∧
          (entries.map fun entry => entry.amount.minorUnits).sum = 0 := by
  have foreign : (entries.any fun entry => entry.transactionId ≠ id) = true ↔
      ¬∀ entry ∈ entries, entry.transactionId = id := by
    simp
  unfold checkTransaction
  by_cases short : entries.length < 2
  · rw [if_pos short]
    exact ⟨nofun, fun all => absurd all.1 (not_le.mpr short)⟩
  rw [if_neg short]
  by_cases named : ∀ entry ∈ entries, entry.transactionId = id
  · rw [if_neg (mt foreign.mp (not_not.mpr named)), checkBalanced_eq_ok_iff]
    have nonempty : entries ≠ [] := by
      rintro rfl
      exact short (by decide)
    exact ⟨fun ⟨⟨_, one⟩, zero⟩ => ⟨not_lt.mp short, named, one, zero⟩,
      fun ⟨_, _, one, zero⟩ => ⟨⟨nonempty, one⟩, zero⟩⟩
  · rw [if_pos (foreign.mpr named)]
    exact ⟨nofun, fun all => absurd all.2.1 named⟩

/-- What the entries of a transaction have of the values they are built from. -/
structure BuiltFrom (transactionId : String) (values : List EntryValue)
    (entries : List TransactionEntry) : Prop where
  amounts : entries.map (fun entry => entry.amount.minorUnits) =
    values.map EntryValue.amountMinor
  currencies : entries.map (fun entry => entry.amount.currency) = values.map EntryValue.currency
  named : ∀ entry ∈ entries, entry.transactionId = transactionId

section Build

variable (id : String) (newId : Nat → String)

/-- Amounts that are not zero make entries; a zero throws. -/
theorem buildEntries_spec (values : List EntryValue) (index : Nat) :
    (∀ value ∈ values, value.amountMinor ≠ 0) ∧
        (∃ entries, buildEntries id newId values index = .ok entries ∧
          BuiltFrom id values entries) ∨
      (¬∀ value ∈ values, value.amountMinor ≠ 0) ∧
        ∃ exception, buildEntries id newId values index = .error exception := by
  induction values generalizing index with
  | nil => exact Or.inl ⟨by simp, [], rfl, rfl, rfl, by simp⟩
  | cons value rest inductionHypothesis =>
    by_cases zero : value.amountMinor = 0
    · refine Or.inr ⟨by simp [zero], ?_⟩
      rw [buildEntries, Money.new, dif_pos zero]
      exact ⟨_, rfl⟩
    · rw [buildEntries, Money.new, dif_neg zero, List.forall_mem_cons]
      rcases inductionHypothesis (index + 1) with ⟨nonzero, entries, made, built⟩ | ⟨zeros, thrown⟩
      · refine Or.inl ⟨⟨zero, nonzero⟩, _, by rw [made]; rfl, ?_, ?_, ?_⟩
        · rw [List.map_cons, List.map_cons, built.amounts]
        · rw [List.map_cons, List.map_cons, built.currencies]
        · exact List.forall_mem_cons.mpr ⟨rfl, built.named⟩
      · obtain ⟨exception, thrown⟩ := thrown
        exact Or.inr ⟨fun all => zeros all.2, exception, by rw [thrown]; rfl⟩

/-- A device accepts exactly the lists that keep the rule, whatever the ids. -/
theorem newTransaction_isOk_iff (values : List EntryValue) :
    (∃ entries, newTransaction id newId values = .ok entries) ↔ Accepts values := by
  unfold newTransaction
  rcases buildEntries_spec id newId values 0 with ⟨nonzero, entries, made, built⟩ | ⟨zeros, thrown⟩
  · have length : entries.length = values.length := by
      rw [← List.length_map fun entry : TransactionEntry => entry.amount.minorUnits,
        built.amounts, List.length_map]
    have currency : (∃ currency, ∀ entry ∈ entries, entry.amount.currency = currency) ↔
        ∃ currency, ∀ value ∈ values, value.currency = currency := by
      refine exists_congr fun currency => ?_
      rw [← List.forall_mem_map (f := fun entry : TransactionEntry => entry.amount.currency)
        (P := fun other => other = currency), built.currencies, List.forall_mem_map]
    have checked := checkTransaction_eq_ok_iff id entries
    rw [length, currency, built.amounts] at checked
    rw [made]
    constructor
    · rintro ⟨_, accepted⟩
      cases result : checkTransaction id entries with
      | error exception =>
        simp only [bind, Except.bind, result] at accepted
        cases accepted
      | ok checkedUnit =>
        obtain ⟨two, -, one, zero⟩ := checked.mp result
        exact ⟨two, one, nonzero, zero⟩
    · intro accepts
      have accepted := checked.mpr
        ⟨accepts.atLeastTwo, built.named, accepts.oneCurrency, accepts.sumZero⟩
      refine ⟨entries, ?_⟩
      simp only [bind, Except.bind, accepted, pure, Except.pure]
  · obtain ⟨exception, thrown⟩ := thrown
    rw [thrown]
    constructor
    · rintro ⟨_, ⟨⟩⟩
    · exact fun accepts => absurd accepts.nonzero zeros

/-! ### What the server accepts -/

/-- The server's notion of balance is the rule of the device and 64 bits for every amount. -/
theorem balanced_drafts_iff (values : List EntryValue) :
    Balanced (values.map EntryValue.draft) ↔
      Accepts values ∧ ∀ value ∈ values, FitsI64 value.amountMinor := by
  have amounts : (values.map EntryValue.draft).map EntryDraft.amountMinor =
      values.map EntryValue.amountMinor := by
    rw [List.map_map]
    rfl
  constructor
  · rintro ⟨two, ⟨currency, sound⟩, zero⟩
    rw [List.length_map] at two
    rw [List.forall_mem_map] at sound
    rw [amounts] at zero
    obtain ⟨first, member⟩ := List.exists_mem_of_length_pos (lt_of_lt_of_le Nat.two_pos two)
    refine ⟨⟨two, ⟨first.currency, fun value valueMember => ?_⟩,
      fun value valueMember => (sound value valueMember).nonzero, zero⟩,
      fun value valueMember => (sound value valueMember).inRange⟩
    exact CurrencyCode.ext
      ((sound value valueMember).currencyEq.trans (sound first member).currencyEq.symm)
  · rintro ⟨⟨two, ⟨currency, one⟩, nonzero, zero⟩, fits⟩
    refine ⟨by rwa [List.length_map], ⟨currency.value, ?_⟩, by rwa [amounts]⟩
    refine List.forall_mem_map.mpr fun value member => ⟨?_, value.currency.threeCapitals,
      nonzero value member, fits value member⟩
    rw [EntryValue.draft, one value member]

/-- For every list a Rust vector can hold, the server accepts what a device accepts where every
amount fits 64 bits. -/
theorem validateBalanced_iff_newTransaction (values : List EntryValue)
    (fits : values.length ≤ isizeMax) :
    validateBalanced (values.map EntryValue.draft) = .ok () ↔
      (∃ entries, newTransaction id newId values = .ok entries) ∧
        ∀ value ∈ values, FitsI64 value.amountMinor := by
  rw [validateBalanced_iff (by rwa [List.length_map]), newTransaction_isOk_iff,
    balanced_drafts_iff]

end Build

/-- `CurrencyCode.cny`. -/
def cny : CurrencyCode := ⟨"CNY", isCurrencyCode_cny⟩

/-- An expense of `100` from a bank account. -/
def smallExpense : List EntryValue := [⟨"food", 100, cny⟩, ⟨"bank", -100, cny⟩]

theorem smallExpense_agrees :
    validateBalanced (smallExpense.map EntryValue.draft) = .ok () ↔
      (∃ entries, newTransaction "tx" (fun index => toString index) smallExpense = .ok entries) ∧
        ∀ value ∈ smallExpense, FitsI64 value.amountMinor :=
  validateBalanced_iff_newTransaction _ _ smallExpense (by decide)

/-- An expense of `2^63` from a bank account. -/
def hugeExpense : List EntryValue := [⟨"food", 2 ^ 63, cny⟩, ⟨"bank", -2 ^ 63, cny⟩]

/-- A device accepts an expense of `2^63`; the server does not. -/
theorem hugeExpense_accepted_by_device_only :
    ¬∀ values : List EntryValue, values.length ≤ isizeMax →
      ((∃ entries, newTransaction "tx" (fun index => toString index) values = .ok entries) ↔
        validateBalanced (values.map EntryValue.draft) = .ok ()) := by
  intro agree
  have accepted : ∃ entries,
      newTransaction "tx" (fun index => toString index) hugeExpense = .ok entries := ⟨_, rfl⟩
  have refused : validateBalanced (hugeExpense.map EntryValue.draft) =
      .error .amountOutOfRange := by decide
  rw [(agree hugeExpense (by decide)).mp accepted] at refused
  cases refused

end Ledgerly.DomainPackage
