/-
This file models the `ledger-domain` crate: money, entry drafts and the balance
check every write to the synced ledger goes through.

`validate_balanced` adds amounts in `i128` and the server then stores each one with
`as i64`. Both conversions are modelled with their wrap-around, and the file proves
that neither ever wraps on a list the check accepts: every accepted amount fits an
`i64`, so a sum of fewer than `2^64` of them fits an `i128`, and a Rust vector holds
at most `isize::MAX` elements.
-/

import Mathlib.Algebra.BigOperators.Group.List.Basic
import Mathlib.Algebra.Order.BigOperators.Group.List
import Ledgerly.Text

namespace Ledgerly

/-- `isize::MAX` on a 64-bit target, the bound on the length of a `Vec`. -/
def isizeMax : Nat := 2 ^ 63 - 1

theorem two_le_isizeMax : 2 ≤ isizeMax := by decide

/-- The value an `i128` register holds after a computation with result `value`. -/
def wrapI128 (value : Int) : Int := value.bmod (2 ^ 128)

/-- `as i64` on an `i128`. -/
def asI64 (value : Int) : Int := value.bmod (2 ^ 64)

/-- `i64::MIN ..= i64::MAX`. -/
def FitsI64 (value : Int) : Prop := -2 ^ 63 ≤ value ∧ value ≤ 2 ^ 63 - 1

instance (value : Int) : Decidable (FitsI64 value) := inferInstanceAs (Decidable (_ ∧ _))

theorem asI64_of_fits {value : Int} (fits : FitsI64 value) : asI64 value = value := by
  obtain ⟨lower, upper⟩ := fits
  exact Int.bmod_eq_of_le (by omega) (by omega)

theorem wrapI128_of_fits {value : Int} (lower : -2 ^ 127 ≤ value) (upper : value < 2 ^ 127) :
    wrapI128 value = value :=
  Int.bmod_eq_of_le (by omega) (by omega)

/-- `ledger_domain::DomainError`. -/
inductive DomainError where
  | zeroAmount
  | invalidCurrency
  | amountOutOfRange
  | tooFewEntries
  | unbalanced
  | currencyMismatch
  deriving DecidableEq

/-- The message of an error. -/
def DomainError.text : DomainError → String
  | .zeroAmount => "amount must be non-zero"
  | .invalidCurrency => "invalid currency"
  | .amountOutOfRange => "amount out of BIGINT range"
  | .tooFewEntries => "transaction requires at least two entries"
  | .unbalanced => "entries are unbalanced"
  | .currencyMismatch => "currency mismatch"

/-- The currency test of `Money::new`: three bytes, all ASCII capitals. -/
def IsCurrencyCode (currency : String) : Prop :=
  currency.utf8ByteSize = 3 ∧ currency.toList.all isAsciiUppercase = true

instance (currency : String) : Decidable (IsCurrencyCode currency) :=
  inferInstanceAs (Decidable (_ ∧ _))

theorem isCurrencyCode_cny : IsCurrencyCode "CNY" := by decide

/-- `ledger_domain::Money`: a value of this type has passed the checks of `Money::new`. -/
structure Money where
  amountMinor : Int
  currency : String
  nonzero : amountMinor ≠ 0
  currencyCode : IsCurrencyCode currency
  inRange : FitsI64 amountMinor

/-- `Money::new`. -/
def Money.new (amountMinor : Int) (currency : String) : Except DomainError Money :=
  if zero : amountMinor = 0 then .error .zeroAmount
  else if code : IsCurrencyCode currency then
    if range : FitsI64 amountMinor then .ok ⟨amountMinor, currency, zero, code, range⟩
    else .error .amountOutOfRange
  else .error .invalidCurrency

/-- `ledger_domain::EntryDraft`. -/
structure EntryDraft where
  accountId : String
  amountMinor : Int
  currency : String
  deriving DecidableEq

/-- The loop of `validate_balanced`: the sum so far, carried in an `i128`. -/
def sumEntries (currency : String) : List EntryDraft → Int → Except DomainError Int
  | [], sum => .ok sum
  | entry :: rest, sum =>
    if entry.currency ≠ currency then .error .currencyMismatch
    else match Money.new entry.amountMinor entry.currency with
      | .error error => .error error
      | .ok _ => sumEntries currency rest (wrapI128 (sum + entry.amountMinor))

/-- `validate_balanced`. -/
def validateBalanced : List EntryDraft → Except DomainError Unit
  | first :: second :: rest =>
    match sumEntries first.currency (first :: second :: rest) 0 with
    | .error error => .error error
    | .ok sum => if sum ≠ 0 then .error .unbalanced else .ok ()
  | _ => .error .tooFewEntries

/-! ### What the check accepts -/

/-- An entry that `Money::new` accepts in the given currency. -/
structure EntryDraft.Sound (entry : EntryDraft) (currency : String) : Prop where
  currencyEq : entry.currency = currency
  currencyCode : IsCurrencyCode entry.currency
  nonzero : entry.amountMinor ≠ 0
  inRange : FitsI64 entry.amountMinor

/-- A balanced list of entries: at least two, one currency, no zero amount, sum zero over
the integers. -/
structure Balanced (entries : List EntryDraft) : Prop where
  atLeastTwo : 2 ≤ entries.length
  oneCurrency : ∃ currency, ∀ entry ∈ entries, entry.Sound currency
  sumZero : (entries.map EntryDraft.amountMinor).sum = 0

theorem Money.new_isOk_iff (amountMinor : Int) (currency : String) :
    (∃ money, Money.new amountMinor currency = .ok money) ↔
      amountMinor ≠ 0 ∧ IsCurrencyCode currency ∧ FitsI64 amountMinor := by
  unfold Money.new
  constructor
  · rintro ⟨money, made⟩
    split at made
    · cases made
    · split at made
      · split at made
        · exact ⟨‹_›, ‹_›, ‹_›⟩
        · cases made
      · cases made
  · rintro ⟨nonzero, code, range⟩
    rw [dif_neg nonzero, dif_pos code, dif_pos range]
    exact ⟨_, rfl⟩

theorem sumEntries_cons_of_sound {entry : EntryDraft} {currency : String}
    (sound : entry.Sound currency) (rest : List EntryDraft) (sum : Int) :
    sumEntries currency (entry :: rest) sum =
      sumEntries currency rest (wrapI128 (sum + entry.amountMinor)) := by
  obtain ⟨money, made⟩ := (Money.new_isOk_iff _ _).mpr
    ⟨sound.nonzero, sound.currencyCode, sound.inRange⟩
  rw [sumEntries, if_neg (not_not.mpr sound.currencyEq), made]

theorem sound_of_sumEntries {currency : String} {entries : List EntryDraft} {sum total : Int}
    (summed : sumEntries currency entries sum = .ok total) :
    ∀ entry ∈ entries, entry.Sound currency := by
  induction entries generalizing sum with
  | nil => exact fun _ member => absurd member List.not_mem_nil
  | cons entry rest inductionHypothesis =>
    rw [sumEntries] at summed
    split at summed
    · cases summed
    · rename_i same
      split at summed
      · cases summed
      · rename_i made
        obtain ⟨nonzero, code, range⟩ := (Money.new_isOk_iff _ _).mp ⟨_, made⟩
        intro other member
        rcases List.mem_cons.mp member with rfl | tail
        · exact ⟨not_not.mp same, code, nonzero, range⟩
        · exact inductionHypothesis summed other tail

/-- The loop never reports an imbalance: that is found out after it. -/
theorem sumEntries_ne_unbalanced (currency : String) (entries : List EntryDraft) (sum : Int) :
    sumEntries currency entries sum ≠ .error .unbalanced := by
  induction entries generalizing sum with
  | nil =>
    rw [sumEntries]
    simp
  | cons entry rest inductionHypothesis =>
    rw [sumEntries]
    split
    · simp
    · split
      · rename_i error failed
        rintro ⟨⟩
        unfold Money.new at failed
        split_ifs at failed <;> cases failed
      · exact inductionHypothesis _

/-- On sound entries the loop computes the sum modulo `2^128`. -/
theorem sumEntries_of_sound {currency : String} {entries : List EntryDraft}
    (sound : ∀ entry ∈ entries, entry.Sound currency) (sum : Int) :
    sumEntries currency entries (wrapI128 sum) =
      .ok (wrapI128 (sum + (entries.map EntryDraft.amountMinor).sum)) := by
  induction entries generalizing sum with
  | nil => rw [sumEntries, List.map_nil, List.sum_nil, add_zero]
  | cons entry rest inductionHypothesis =>
    have wrapped : wrapI128 (wrapI128 sum + entry.amountMinor) =
        wrapI128 (sum + entry.amountMinor) := Int.bmod_add_bmod
    rw [sumEntries_cons_of_sound (sound entry List.mem_cons_self), wrapped,
      inductionHypothesis fun other member => sound other (List.mem_cons_of_mem _ member),
      List.map_cons, List.sum_cons, add_assoc]

/-- A sum of amounts in range grows by less than `2^63` an entry. -/
theorem sum_bounds {entries : List EntryDraft}
    (inRange : ∀ entry ∈ entries, FitsI64 entry.amountMinor) :
    -(2 ^ 63 * (entries.length : Int)) ≤ (entries.map EntryDraft.amountMinor).sum ∧
      (entries.map EntryDraft.amountMinor).sum ≤ 2 ^ 63 * (entries.length : Int) := by
  induction entries with
  | nil => simp
  | cons entry rest inductionHypothesis =>
    obtain ⟨lower, upper⟩ := inductionHypothesis fun other member =>
      inRange other (List.mem_cons_of_mem _ member)
    obtain ⟨entryLower, entryUpper⟩ := inRange entry List.mem_cons_self
    rw [List.map_cons, List.sum_cons, List.length_cons]
    push_cast
    constructor <;> omega

/-- No list of a length a Rust vector can have makes the sum of such amounts wrap. -/
theorem wrapI128_sum {entries : List EntryDraft} (fits : entries.length ≤ isizeMax)
    (inRange : ∀ entry ∈ entries, FitsI64 entry.amountMinor) :
    wrapI128 (entries.map EntryDraft.amountMinor).sum =
      (entries.map EntryDraft.amountMinor).sum := by
  obtain ⟨lower, upper⟩ := sum_bounds inRange
  have short : (entries.length : Int) ≤ 2 ^ 63 - 1 := by
    simp only [isizeMax] at fits
    omega
  exact wrapI128_of_fits (by omega) (by omega)

theorem validateBalanced_of_balanced {entries : List EntryDraft} (balanced : Balanced entries) :
    validateBalanced entries = .ok () := by
  obtain ⟨currency, sound⟩ := balanced.oneCurrency
  match entries, balanced.atLeastTwo with
  | first :: second :: rest, _ =>
    have same : first.currency = currency := (sound first List.mem_cons_self).currencyEq
    have total := sumEntries_of_sound sound 0
    rw [zero_add, balanced.sumZero] at total
    have zero : wrapI128 0 = 0 := by decide
    rw [zero] at total
    simp only [validateBalanced, same, total, ne_eq, not_true_eq_false, if_false]

/-- Every entry of an accepted list is sound, whatever its length. -/
theorem sound_of_validateBalanced {entries : List EntryDraft}
    (accepted : validateBalanced entries = .ok ()) :
    ∃ currency, ∀ entry ∈ entries, entry.Sound currency := by
  match entries, accepted with
  | first :: second :: rest, accepted =>
    simp only [validateBalanced] at accepted
    split at accepted
    · cases accepted
    · rename_i summed
      exact ⟨first.currency, sound_of_sumEntries summed⟩

/-- A list of any length a Rust vector can have passes the check exactly if it is balanced:
the `i128` accumulator never wraps. -/
theorem validateBalanced_iff {entries : List EntryDraft} (fits : entries.length ≤ isizeMax) :
    validateBalanced entries = .ok () ↔ Balanced entries := by
  refine ⟨fun accepted => ?_, validateBalanced_of_balanced⟩
  match entries, accepted with
  | first :: second :: rest, accepted =>
    simp only [validateBalanced] at accepted
    split at accepted
    · cases accepted
    · rename_i sum summed
      have sound := sound_of_sumEntries summed
      have total := sumEntries_of_sound sound 0
      have zero : wrapI128 0 = 0 := by decide
      rw [zero, zero_add, summed] at total
      have sumZero : sum = 0 := by
        by_contra nonzero
        rw [if_pos nonzero] at accepted
        cases accepted
      rw [wrapI128_sum fits fun entry member => (sound entry member).inRange] at total
      refine ⟨by simp, ⟨_, sound⟩, ?_⟩
      rw [← Except.ok.inj total, sumZero]

end Ledgerly
