/-
This file models the range of the Reports page, `ReportsRange`, and the summary of the page in
local mode, and settles when that summary is about the range.

In online mode the page asks the server for the interval of `resolve`. In local mode it adds up
whole months: the month selected elsewhere in the app when the range counts as one month, else so
many months back from the anchor of the range. What it adds up is the sum over one window, and it
is right for every ledger exactly if that window is the one of `resolve`.
-/

import Mathlib.Algebra.Group.Prod
import Ledgerly.AutoLedgerService
import Ledgerly.Library.CalendarMonths
import Ledgerly.Library.Windows

namespace Ledgerly.ReportsPage

open CivilDate

/-! ### The range -/

/-- What the client takes from `DateTime` about the time zone of the device, in seconds from the
epoch: the first instant of a date, and the date of an instant. Local time is less than a day off
the time of UTC. -/
class LocalDays where
  midnight : Int → Int
  dateOf : Int → Int
  dateOf_midnight (date : Int) : dateOf (midnight date) = date
  near (date : Int) : (date - 1) * 86400 < midnight date ∧ midnight date < (date + 1) * 86400

/-- `ReportsRangeKind`. -/
inductive ReportsRangeKind where
  | month
  | last3Months
  | last6Months
  | year
  | last7Days
  | last30Days
  | last90Days
  | custom
  deriving DecidableEq

/-- `ReportsRange`. Nothing but the date is read of its `DateTime`s, so they are days from the
epoch here. -/
structure ReportsRange where
  kind : ReportsRangeKind
  anchor : Int
  customStart : Option Int
  customEnd : Option Int

section Zone

variable [LocalDays]

/-- `DateTime(year, month)`: months beyond the year run over. -/
def dateTimeOf (year month : Int) : Int :=
  LocalDays.midnight (firstOfMonth (monthNumber year month))

/-- `_nowMonth`, as a date. -/
def nowMonth (now : Int) : Int := firstOfMonth (monthOf now)

namespace ReportsRange

/-- `resolve`, on the date of the clock. -/
def resolve (range : ReportsRange) (now : Int) : Window :=
  let a := ofDays range.anchor
  match range.kind with
  | .month => ⟨dateTimeOf a.year a.month, dateTimeOf a.year (a.month + 1)⟩
  | .last3Months => ⟨dateTimeOf a.year (a.month - 2), dateTimeOf a.year (a.month + 1)⟩
  | .last6Months => ⟨dateTimeOf a.year (a.month - 5), dateTimeOf a.year (a.month + 1)⟩
  | .year => ⟨dateTimeOf a.year 1, dateTimeOf (a.year + 1) 1⟩
  | .last7Days | .last30Days | .last90Days =>
    let today := LocalDays.midnight now
    let days := if range.kind = .last7Days then 7 else if range.kind = .last30Days then 30 else 90
    -- a `Duration` is not aware of the time zone: a day of it has 24 hours
    ⟨today - (days - 1) * 86400, today + 86400⟩
  | .custom =>
    let s := range.customStart.getD (nowMonth now)
    let e := ofDays (range.customEnd.getD s)
    ⟨LocalDays.midnight s, dateTimeOf e.year (e.month + 1)⟩

/-- `monthCount`. -/
def monthCount (range : ReportsRange) (now : Int) : Nat :=
  match range.kind with
  | .month => 1
  | .last3Months => 3
  | .last6Months => 6
  | .year => 12
  | .last7Days => 1
  | .last30Days => 1
  | .last90Days => 3
  | .custom =>
    let r := range.resolve now
    if ¬r.start < r.stop then 1
    else
      let start := ofDays (LocalDays.dateOf r.start)
      let stop := ofDays (LocalDays.dateOf r.stop)
      (min (max ((stop.year - start.year) * 12 + stop.month - start.month) 1) 60).toNat

/-- `isMultiMonth`. -/
def isMultiMonth (range : ReportsRange) (now : Int) : Bool := range.monthCount now > 1

end ReportsRange

/-- `fromIso` or `toIso` of the page: the text leaves the seconds out. -/
def sentInstant (instant : Int) : Int := instant / 60 * 60

/-- The interval that the page sends to the server. -/
def ReportsRange.sent (range : ReportsRange) (now : Int) : Window :=
  let bounds := range.resolve now
  ⟨sentInstant bounds.start, sentInstant bounds.stop⟩

/-! ### The summary in local mode -/

/-- `MonthlyLedgerSummary`. -/
structure MonthlyLedgerSummary where
  incomeMinor : Int
  expenseMinor : Int
  transactionCount : Nat

/-- The two sums of `summarizeMonth` and of a point of the trend. -/
def countKinds (transactions : List TransactionSummary) : Int × Int :=
  transactions.foldl (fun (income, expense) transaction =>
    match transaction.kind with
    | .income => (income + transaction.amountMinor, expense)
    | .expense => (income, expense + transaction.amountMinor)
    | .transfer | .adjustment => (income, expense)) (0, 0)

/-- `summarizeMonth`. -/
def summarizeMonth (transactions : List TransactionSummary) : MonthlyLedgerSummary :=
  let (income, expense) := countKinds transactions
  ⟨income, expense, transactions.length⟩

/-- `ReportTrendPoint`, with the month as a number. -/
structure ReportTrendPoint where
  month : Int
  incomeMinor : Int
  expenseMinor : Int
  netMinor : Int

/-- `ReportSummary`, without its categories. -/
structure ReportSummary where
  incomeMinor : Int
  expenseMinor : Int
  netMinor : Int
  baseCurrency : String
  plan : String
  deriving DecidableEq

/-- `monthUtcRange`, of the month of a year. -/
def monthUtcRange (year month : Int) : Window := ⟨dateTimeOf year month, dateTimeOf year (month + 1)⟩

/-- `localReportTrendProvider`. It throws if an amount it reads is no number. -/
def localReportTrend (device : Device) (range : ReportsRange) (now : Int) :
    Option (List ReportTrendPoint) :=
  let anchor := ofDays range.anchor
  (List.range (range.monthCount now)).reverse.mapM fun (i : Nat) => do
    let bounds := monthUtcRange anchor.year (anchor.month - i)
    let transactions ← device.watchSummariesSync bounds.holds
    let (income, expense) := countKinds transactions
    return ⟨monthNumber anchor.year (anchor.month - i), income, expense, income - expense⟩

/-- `monthlyLedgerSummaryProvider`, of the selected month. -/
def monthlyLedgerSummary (device : Device) (selectedMonth : Int) : Option MonthlyLedgerSummary := do
  let month := ofDays selectedMonth
  let transactions ← device.watchSummariesSync (monthUtcRange month.year month.month).holds
  return summarizeMonth transactions

/-- `_reportSummaryLocal`, once the providers it watches have come to an end. One that has thrown
counts as empty. -/
def reportSummaryLocal (device : Device) (range : ReportsRange) (selectedMonth now : Int) :
    ReportSummary :=
  if !range.isMultiMonth now then
    let summary := (monthlyLedgerSummary device selectedMonth).getD ⟨0, 0, 0⟩
    ⟨summary.incomeMinor, summary.expenseMinor, summary.incomeMinor - summary.expenseMinor, "CNY",
      "local"⟩
  else
    let aggregates := (localReportTrend device range now).getD []
    let (income, expense) := aggregates.foldl (fun (income, expense) p =>
      (income + p.incomeMinor, expense + p.expenseMinor)) (0, 0)
    ⟨income, expense, income - expense, "CNY", "local"⟩

/-! ### What is added up -/

/-- What a transaction adds to the income and to the expense of a report. -/
def counted (transaction : TransactionSummary) : Int × Int :=
  match transaction.kind with
  | .income => (transaction.amountMinor, 0)
  | .expense => (0, transaction.amountMinor)
  | .transfer | .adjustment => (0, 0)

/-- The income and the expense of exactly the transactions that occurred in a window. There are
none if one of these transactions has an amount that is no number. -/
def totalsIn (device : Device) (window : Window) : Option (Int × Int) :=
  window.sum device.summarizeTransaction counted (fun tx => !tx.deleted) (fun tx => tx.occurredAt)
    device.transactions.values

/-- The window of the months that local mode adds up. -/
def windowAdded (range : ReportsRange) (selectedMonth now : Int) : Window :=
  if range.isMultiMonth now then
    let anchor := ofDays range.anchor
    ⟨dateTimeOf anchor.year (anchor.month + 1 - range.monthCount now),
      dateTimeOf anchor.year (anchor.month + 1)⟩
  else monthUtcRange (ofDays selectedMonth).year (ofDays selectedMonth).month

omit [LocalDays] in
theorem foldl_countKinds (transactions : List TransactionSummary) (before : Int × Int) :
    transactions.foldl (fun (income, expense) transaction =>
      match transaction.kind with
      | .income => (income + transaction.amountMinor, expense)
      | .expense => (income, expense + transaction.amountMinor)
      | .transfer | .adjustment => (income, expense)) before =
        before + (transactions.map counted).sum := by
  induction transactions generalizing before with
  | nil => simp
  | cons transaction rest inductionHypothesis =>
    rw [List.foldl_cons, inductionHypothesis, List.map_cons, List.sum_cons, ← add_assoc]
    congr 1
    obtain ⟨income, expense⟩ := before
    simp only [counted]
    cases transaction.kind <;> simp

omit [LocalDays] in
/-- The two sums of a window of transactions. -/
theorem map_countKinds (device : Device) (window : Window) :
    (device.watchSummariesSync window.holds).map countKinds = totalsIn device window := by
  have sums : countKinds = fun transactions => (transactions.map counted).sum := by
    funext transactions
    rw [countKinds, foldl_countKinds]
    exact zero_add _
  rw [sums]
  rfl

/-! ### Months in order -/

theorem dateTimeOf_lt (year month later : Int) (order : month < later) :
    dateTimeOf year month + 26 * 86400 < dateTimeOf year later := by
  have earlier : monthNumber year month < monthNumber year later := by
    simp only [monthNumber]
    omega
  have apart := firstOfMonth_lt earlier
  have lower := (LocalDays.near (firstOfMonth (monthNumber year month))).2
  have upper := (LocalDays.near (firstOfMonth (monthNumber year later))).1
  rw [dateTimeOf, dateTimeOf]
  omega

theorem midnight_inj {date other : Int} (same : LocalDays.midnight date = LocalDays.midnight other) :
    date = other := by
  rw [← LocalDays.dateOf_midnight date, same, LocalDays.dateOf_midnight]

theorem dateTimeOf_eq_iff {year month year' month' : Int} :
    dateTimeOf year month = dateTimeOf year' month' ↔
      monthNumber year month = monthNumber year' month' :=
  ⟨fun same => firstOfMonth_inj (midnight_inj same), fun same => by rw [dateTimeOf, same]; rfl⟩

theorem windowAdded_nonempty (range : ReportsRange) (selectedMonth now : Int) :
    (windowAdded range selectedMonth now).start < (windowAdded range selectedMonth now).stop := by
  unfold windowAdded
  split
  · rename_i multi
    have several : 1 < range.monthCount now := of_decide_eq_true multi
    have order := dateTimeOf_lt (ofDays range.anchor).year
      ((ofDays range.anchor).month + 1 - range.monthCount now)
      ((ofDays range.anchor).month + 1) (by omega)
    dsimp only
    omega
  · have order := dateTimeOf_lt (ofDays selectedMonth).year (ofDays selectedMonth).month
      ((ofDays selectedMonth).month + 1) (by omega)
    dsimp only [monthUtcRange]
    omega

/-! ### The summary is the sum over one window -/

/-- The points of the trend add up to the window of its months. -/
theorem localReportTrend_total (device : Device) (range : ReportsRange) (now : Int) :
    (localReportTrend device range now).map (fun points =>
        (points.map fun p => (p.incomeMinor, p.expenseMinor)).sum) =
      totalsIn device ⟨dateTimeOf (ofDays range.anchor).year
          ((ofDays range.anchor).month + 1 - range.monthCount now),
        dateTimeOf (ofDays range.anchor).year ((ofDays range.anchor).month + 1)⟩ := by
  have consecutive := Window.sum_consecutive device.summarizeTransaction counted
    (fun tx => !tx.deleted) (fun tx => tx.occurredAt)
    (fun i => dateTimeOf (ofDays range.anchor).year ((ofDays range.anchor).month + 1 - i))
    (fun i => by
      have order := dateTimeOf_lt (ofDays range.anchor).year
        ((ofDays range.anchor).month + 1 - ((i + 1 : Nat) : Int))
        ((ofDays range.anchor).month + 1 - i) (by omega)
      omega)
    (range.monthCount now) device.transactions.values
  have factors : (fun points : List ReportTrendPoint =>
      (points.map fun p => (p.incomeMinor, p.expenseMinor)).sum) =
      List.sum ∘ List.map fun p => (p.incomeMinor, p.expenseMinor) := rfl
  rw [totalsIn]
  simp only [Nat.cast_zero, sub_zero] at consecutive
  rw [← consecutive, factors, ← Option.map_map, localReportTrend, List.map_mapM]
  congr 2
  funext i
  have same : monthUtcRange (ofDays range.anchor).year ((ofDays range.anchor).month - i) =
      ⟨dateTimeOf (ofDays range.anchor).year
          ((ofDays range.anchor).month + 1 - ((i + 1 : Nat) : Int)),
        dateTimeOf (ofDays range.anchor).year ((ofDays range.anchor).month + 1 - i)⟩ := by
    rw [monthUtcRange]
    congr 2 <;> push_cast <;> omega
  have total := map_countKinds device
    (monthUtcRange (ofDays range.anchor).year ((ofDays range.anchor).month - i))
  rw [same, totalsIn] at total
  rw [← total, same]
  dsimp only
  cases device.watchSummariesSync _ <;> rfl

omit [LocalDays] in
theorem foldl_points (points : List ReportTrendPoint) (before : Int × Int) :
    points.foldl (fun (income, expense) p =>
      (income + p.incomeMinor, expense + p.expenseMinor)) before =
        before + (points.map fun p => (p.incomeMinor, p.expenseMinor)).sum := by
  induction points generalizing before with
  | nil => simp
  | cons point rest inductionHypothesis =>
    rw [List.foldl_cons, inductionHypothesis, List.map_cons, List.sum_cons, ← add_assoc]
    rfl

/-- The summary has the income and the expense of the window that is added up, or of nothing if one
of its transactions has an amount that is no number. -/
theorem reportSummaryLocal_eq (device : Device) (range : ReportsRange) (selectedMonth now : Int) :
    ((reportSummaryLocal device range selectedMonth now).incomeMinor,
      (reportSummaryLocal device range selectedMonth now).expenseMinor) =
        (totalsIn device (windowAdded range selectedMonth now)).getD (0, 0) := by
  unfold reportSummaryLocal windowAdded
  by_cases multi : range.isMultiMonth now = true
  · rw [multi, Bool.not_true, if_neg Bool.false_ne_true, if_pos rfl, ← localReportTrend_total]
    cases localReportTrend device range now with
    | none => rfl
    | some points =>
      have sums := foldl_points points (0, 0)
      simp only [Option.getD_some, Option.map_some]
      rw [sums]
      exact zero_add _
  · rw [Bool.not_eq_true] at multi
    rw [multi, Bool.not_false, if_pos rfl, if_neg Bool.false_ne_true, ← map_countKinds,
      monthlyLedgerSummary]
    cases device.watchSummariesSync _ <;> rfl

/-! ### When the summary is right -/

/-- The ledger of one income of one minor unit. -/
def oneIncome (occurredAt : Int) : Device :=
  { Device.initial "device" "book"
      ((∅ : KeyMap String LocalAccount).insert "book:salary" ⟨"Salary", "income", "CNY", none⟩) with
    transactions := (∅ : KeyMap String LocalTransaction).insert "t1"
      ⟨occurredAt, none, 1, false, none, none, [⟨"book:salary", "-1", "CNY"⟩]⟩ }

omit [LocalDays] in
theorem totalsIn_oneIncome (occurredAt : Int) (window : Window) :
    totalsIn (oneIncome occurredAt) window =
      some (if window.holds occurredAt then 1 else 0, 0) := by
  have row : (oneIncome occurredAt).transactions.values =
      [⟨occurredAt, none, 1, false, none, none, [⟨"book:salary", "-1", "CNY"⟩]⟩] := rfl
  have read : (oneIncome occurredAt).summarizeTransaction
      ⟨occurredAt, none, 1, false, none, none, [⟨"book:salary", "-1", "CNY"⟩]⟩ =
        some ⟨occurredAt, none, .income, 1⟩ := rfl
  rw [totalsIn, row, Window.sum, sumOver_cons, sumOver_nil, read]
  cases window.holds occurredAt <;> rfl

/-- In local mode the page shows the income and the expense of the interval of `resolve`, whatever
the ledger, and that is the interval it sends in online mode. -/
def AgreesWithServer (range : ReportsRange) (selectedMonth now : Int) : Prop :=
  (∀ device income expense, totalsIn device (range.resolve now) = some (income, expense) →
    (reportSummaryLocal device range selectedMonth now).incomeMinor = income ∧
      (reportSummaryLocal device range selectedMonth now).expenseMinor = expense) ∧
  range.sent now = range.resolve now

/-- The summary is right for every ledger exactly if the window added up is that of the range. -/
theorem sums_agree_iff (range : ReportsRange) (selectedMonth now : Int) :
    (∀ device income expense, totalsIn device (range.resolve now) = some (income, expense) →
      (reportSummaryLocal device range selectedMonth now).incomeMinor = income ∧
        (reportSummaryLocal device range selectedMonth now).expenseMinor = expense) ↔
      windowAdded range selectedMonth now = range.resolve now := by
  constructor
  · intro agrees
    refine Window.eq_of_holds_eq (windowAdded_nonempty range selectedMonth now) fun instant => ?_
    have added := reportSummaryLocal_eq (oneIncome instant) range selectedMonth now
    rw [totalsIn_oneIncome, Option.getD_some] at added
    have wanted := totalsIn_oneIncome instant (range.resolve now)
    have income := (agrees (oneIncome instant) _ _ wanted).1
    rw [(Prod.mk.inj added).1] at income
    cases inAdded : (windowAdded range selectedMonth now).holds instant <;>
      cases inRange : (range.resolve now).holds instant <;>
      rw [inAdded, inRange] at income <;>
      first | rfl | exact absurd income (by decide)
  · intro same device income expense wanted
    have added := reportSummaryLocal_eq device range selectedMonth now
    rw [same, wanted, Option.getD_some] at added
    exact Prod.mk.inj added

/-! ### When the windows are the same -/

/-- When the months that local mode adds up are those of the range: the months of a range that
are counted back from its anchor always are; the year only with an anchor in December; the range
that counts as one month only if that month is selected. -/
def CountsItsMonths (range : ReportsRange) (selectedMonth now : Int) : Prop :=
  match range.kind with
  | .month => monthOf selectedMonth = monthOf range.anchor
  | .last3Months | .last6Months => True
  | .year => (ofDays range.anchor).month = 12
  | .last7Days => False
  | .last30Days =>
    LocalDays.midnight (firstOfMonth (monthOf selectedMonth)) =
        LocalDays.midnight now - 29 * 86400 ∧
      LocalDays.midnight (firstOfMonth (monthOf selectedMonth + 1)) =
        LocalDays.midnight now + 86400
  | .last90Days =>
    LocalDays.midnight (firstOfMonth (monthOf range.anchor - 2)) =
        LocalDays.midnight now - 89 * 86400 ∧
      LocalDays.midnight (firstOfMonth (monthOf range.anchor + 1)) =
        LocalDays.midnight now + 86400
  | .custom =>
    let s := range.customStart.getD (nowMonth now)
    let e := range.customEnd.getD s
    s = firstOfMonth (monthOf s) ∧
      if monthOf s = monthOf e then monthOf selectedMonth = monthOf s
      else monthOf s < monthOf e ∧ monthOf e < monthOf s + 60 ∧ monthOf range.anchor = monthOf e

/-- The interval falls on whole minutes of UTC. -/
def OnMinutes (range : ReportsRange) (now : Int) : Prop :=
  (range.resolve now).start % 60 = 0 ∧ (range.resolve now).stop % 60 = 0

theorem sent_eq_iff (range : ReportsRange) (now : Int) :
    range.sent now = range.resolve now ↔ OnMinutes range now := by
  simp only [ReportsRange.sent, OnMinutes, sentInstant]
  generalize range.resolve now = bounds
  obtain ⟨start, stop⟩ := bounds
  rw [Window.mk.injEq]
  dsimp only
  omega

omit [LocalDays] in
theorem monthNumber_ofDays (days : Int) :
    monthNumber (ofDays days).year (ofDays days).month = monthOf days := rfl

/-- The window of two months, in the order of the months. -/
theorem window_eq_iff {year month year' month' year'' month'' year3 month3 : Int} :
    (⟨dateTimeOf year month, dateTimeOf year' month'⟩ : Window) =
        ⟨dateTimeOf year'' month'', dateTimeOf year3 month3⟩ ↔
      monthNumber year month = monthNumber year'' month'' ∧
        monthNumber year' month' = monthNumber year3 month3 := by
  rw [Window.mk.injEq, dateTimeOf_eq_iff, dateTimeOf_eq_iff]

section Kinds

variable {range : ReportsRange} {selectedMonth now : Int}

/-- A range that counts as one month adds up the selected one. -/
theorem windowAdded_single (single : range.monthCount now = 1) :
    windowAdded range selectedMonth now =
      monthUtcRange (ofDays selectedMonth).year (ofDays selectedMonth).month := by
  rw [windowAdded, ReportsRange.isMultiMonth, single]
  exact if_neg (by decide)

/-- A range of more months counts them back from its anchor. -/
theorem windowAdded_multi (multi : 1 < range.monthCount now) :
    windowAdded range selectedMonth now =
      ⟨dateTimeOf (ofDays range.anchor).year
          ((ofDays range.anchor).month + 1 - range.monthCount now),
        dateTimeOf (ofDays range.anchor).year ((ofDays range.anchor).month + 1)⟩ := by
  rw [windowAdded, ReportsRange.isMultiMonth, if_pos (decide_eq_true multi)]

theorem month_iff (kind : range.kind = .month) :
    windowAdded range selectedMonth now = range.resolve now ↔
      monthOf selectedMonth = monthOf range.anchor := by
  have single : range.monthCount now = 1 := by rw [ReportsRange.monthCount, kind]
  have resolved : range.resolve now = ⟨dateTimeOf (ofDays range.anchor).year
      (ofDays range.anchor).month, dateTimeOf (ofDays range.anchor).year
        ((ofDays range.anchor).month + 1)⟩ := by
    rw [ReportsRange.resolve, kind]
  rw [windowAdded_single single, resolved, monthUtcRange, window_eq_iff, monthNumber_add,
    monthNumber_add, monthNumber_ofDays, monthNumber_ofDays]
  omega

theorem last3Months_same (kind : range.kind = .last3Months) :
    windowAdded range selectedMonth now = range.resolve now := by
  have count : range.monthCount now = 3 := by rw [ReportsRange.monthCount, kind]
  have resolved : range.resolve now = ⟨dateTimeOf (ofDays range.anchor).year
      ((ofDays range.anchor).month - 2), dateTimeOf (ofDays range.anchor).year
        ((ofDays range.anchor).month + 1)⟩ := by
    rw [ReportsRange.resolve, kind]
  rw [windowAdded_multi (by omega), resolved, count, window_eq_iff, monthNumber_sub,
    monthNumber_add, monthNumber_sub]
  omega

theorem last6Months_same (kind : range.kind = .last6Months) :
    windowAdded range selectedMonth now = range.resolve now := by
  have count : range.monthCount now = 6 := by rw [ReportsRange.monthCount, kind]
  have resolved : range.resolve now = ⟨dateTimeOf (ofDays range.anchor).year
      ((ofDays range.anchor).month - 5), dateTimeOf (ofDays range.anchor).year
        ((ofDays range.anchor).month + 1)⟩ := by
    rw [ReportsRange.resolve, kind]
  rw [windowAdded_multi (by omega), resolved, count, window_eq_iff, monthNumber_sub,
    monthNumber_add, monthNumber_sub]
  omega

theorem year_iff (kind : range.kind = .year) :
    windowAdded range selectedMonth now = range.resolve now ↔
      (ofDays range.anchor).month = 12 := by
  have count : range.monthCount now = 12 := by rw [ReportsRange.monthCount, kind]
  have resolved : range.resolve now = ⟨dateTimeOf (ofDays range.anchor).year 1,
      dateTimeOf ((ofDays range.anchor).year + 1) 1⟩ := by
    rw [ReportsRange.resolve, kind]
  rw [windowAdded_multi (by omega), resolved, count, window_eq_iff]
  simp only [monthNumber]
  omega

/-- No month is as short as seven days. -/
theorem last7Days_differs (kind : range.kind = .last7Days) :
    windowAdded range selectedMonth now ≠ range.resolve now := by
  have single : range.monthCount now = 1 := by rw [ReportsRange.monthCount, kind]
  have resolved : range.resolve now =
      ⟨LocalDays.midnight now - 6 * 86400, LocalDays.midnight now + 86400⟩ := by
    rw [ReportsRange.resolve, kind]
    rfl
  rw [windowAdded_single single, resolved, monthUtcRange]
  intro same
  rw [Window.mk.injEq] at same
  have long := dateTimeOf_lt (ofDays selectedMonth).year (ofDays selectedMonth).month
    ((ofDays selectedMonth).month + 1) (by omega)
  omega

theorem last30Days_iff (kind : range.kind = .last30Days) :
    windowAdded range selectedMonth now = range.resolve now ↔
      LocalDays.midnight (firstOfMonth (monthOf selectedMonth)) =
          LocalDays.midnight now - 29 * 86400 ∧
        LocalDays.midnight (firstOfMonth (monthOf selectedMonth + 1)) =
          LocalDays.midnight now + 86400 := by
  have single : range.monthCount now = 1 := by rw [ReportsRange.monthCount, kind]
  have resolved : range.resolve now =
      ⟨LocalDays.midnight now - 29 * 86400, LocalDays.midnight now + 86400⟩ := by
    rw [ReportsRange.resolve, kind]
    rfl
  rw [windowAdded_single single, resolved, monthUtcRange, Window.mk.injEq, dateTimeOf, dateTimeOf,
    monthNumber_add, monthNumber_ofDays]

theorem last90Days_iff (kind : range.kind = .last90Days) :
    windowAdded range selectedMonth now = range.resolve now ↔
      LocalDays.midnight (firstOfMonth (monthOf range.anchor - 2)) =
          LocalDays.midnight now - 89 * 86400 ∧
        LocalDays.midnight (firstOfMonth (monthOf range.anchor + 1)) =
          LocalDays.midnight now + 86400 := by
  have count : range.monthCount now = 3 := by rw [ReportsRange.monthCount, kind]
  have resolved : range.resolve now =
      ⟨LocalDays.midnight now - 89 * 86400, LocalDays.midnight now + 86400⟩ := by
    rw [ReportsRange.resolve, kind]
    rfl
  have first : monthOf range.anchor + 1 - ((3 : Nat) : Int) = monthOf range.anchor - 2 := by omega
  rw [windowAdded_multi (by omega), resolved, count, Window.mk.injEq, dateTimeOf, dateTimeOf,
    monthNumber_sub, monthNumber_add, monthNumber_ofDays, first]

/-- The window of a custom range, from its first date to the month of its last one. -/
theorem custom_resolve (kind : range.kind = .custom) {s e : Int}
    (isStart : range.customStart.getD (nowMonth now) = s) (isEnd : range.customEnd.getD s = e) :
    range.resolve now =
      ⟨LocalDays.midnight s, LocalDays.midnight (firstOfMonth (monthOf e + 1))⟩ := by
  rw [ReportsRange.resolve, kind]
  dsimp only
  rw [isStart, isEnd, dateTimeOf, monthNumber_add, monthNumber_ofDays]

/-- The months of a custom range, up to sixty. -/
theorem custom_monthCount (kind : range.kind = .custom) {s e : Int}
    (isStart : range.customStart.getD (nowMonth now) = s) (isEnd : range.customEnd.getD s = e) :
    range.monthCount now =
      if LocalDays.midnight s < LocalDays.midnight (firstOfMonth (monthOf e + 1)) then
        (min (max (monthOf e + 1 - monthOf s) 1) 60).toNat
      else 1 := by
  have stopMonth : (ofDays (firstOfMonth (monthOf e + 1))).year * 12 +
      (ofDays (firstOfMonth (monthOf e + 1))).month - 1 = monthOf e + 1 :=
    monthOf_firstOfMonth (monthOf e + 1)
  have startMonth : (ofDays s).year * 12 + (ofDays s).month - 1 = monthOf s := rfl
  have months : ((ofDays (firstOfMonth (monthOf e + 1))).year - (ofDays s).year) * 12 +
      (ofDays (firstOfMonth (monthOf e + 1))).month - (ofDays s).month =
        monthOf e + 1 - monthOf s := by omega
  rw [ReportsRange.monthCount, kind, custom_resolve kind isStart isEnd]
  dsimp only
  rw [LocalDays.dateOf_midnight, LocalDays.dateOf_midnight, months, ite_not]

/-- The first of a month comes before the first of a later one. -/
theorem midnight_first_lt {number other : Int} (earlier : number < other) :
    LocalDays.midnight (firstOfMonth number) < LocalDays.midnight (firstOfMonth other) := by
  have apart := firstOfMonth_lt earlier
  have lower := (LocalDays.near (firstOfMonth number)).2
  have upper := (LocalDays.near (firstOfMonth other)).1
  omega

theorem midnight_first_eq_iff {number date : Int} :
    LocalDays.midnight (firstOfMonth number) = LocalDays.midnight date ↔
      firstOfMonth number = date :=
  ⟨midnight_inj, fun same => by rw [same]⟩

theorem custom_iff (kind : range.kind = .custom) {s e : Int}
    (isStart : range.customStart.getD (nowMonth now) = s) (isEnd : range.customEnd.getD s = e) :
    windowAdded range selectedMonth now = range.resolve now ↔
      s = firstOfMonth (monthOf s) ∧
        if monthOf s = monthOf e then monthOf selectedMonth = monthOf s
        else monthOf s < monthOf e ∧ monthOf e < monthOf s + 60 ∧
          monthOf range.anchor = monthOf e := by
  have count := custom_monthCount kind isStart isEnd
  rw [custom_resolve kind isStart isEnd]
  by_cases single : range.monthCount now = 1
  · rw [windowAdded_single single, monthUtcRange, Window.mk.injEq, dateTimeOf, dateTimeOf,
      midnight_first_eq_iff, midnight_first_eq_iff, monthNumber_add, monthNumber_ofDays]
    constructor
    · rintro ⟨first, last⟩
      have month : monthOf s = monthOf selectedMonth := by rw [← first, monthOf_firstOfMonth]
      have following := firstOfMonth_inj last
      refine ⟨by rw [month, first], ?_⟩
      rw [if_pos (by omega), month]
    · rintro ⟨first, rest⟩
      split at rest
      · rename_i oneMonth
        exact ⟨by rw [rest, ← first], by rw [rest, oneMonth]⟩
      · -- two months and more do not count as one
        have order := midnight_first_lt (show monthOf s < monthOf e + 1 by omega)
        rw [← first] at order
        rw [if_pos order] at count
        omega
  · have order : LocalDays.midnight s < LocalDays.midnight (firstOfMonth (monthOf e + 1)) := by
      by_contra backwards
      rw [if_neg backwards] at count
      exact single count
    rw [if_pos order] at count
    have several : monthOf s < monthOf e := by omega
    rw [windowAdded_multi (by omega), Window.mk.injEq, dateTimeOf, dateTimeOf,
      midnight_first_eq_iff, midnight_first_eq_iff, monthNumber_sub, monthNumber_add,
      monthNumber_ofDays, if_neg (by omega)]
    constructor
    · rintro ⟨first, last⟩
      have month : monthOf s = monthOf range.anchor + 1 - range.monthCount now := by
        rw [← first, monthOf_firstOfMonth]
      have following := firstOfMonth_inj last
      refine ⟨by rw [month, first], several, ?_, ?_⟩ <;> omega
    · rintro ⟨first, -, short, anchored⟩
      have back : monthOf range.anchor + 1 - (range.monthCount now : Int) = monthOf s := by omega
      exact ⟨by rw [back, ← first], by rw [anchored]⟩

/-- The months of local mode are those of the range. -/
theorem windowAdded_eq_iff :
    windowAdded range selectedMonth now = range.resolve now ↔
      CountsItsMonths range selectedMonth now := by
  unfold CountsItsMonths
  cases kind : range.kind with
  | month => exact month_iff kind
  | last3Months => exact iff_of_true (last3Months_same kind) trivial
  | last6Months => exact iff_of_true (last6Months_same kind) trivial
  | year => exact year_iff kind
  | last7Days => exact iff_of_false (last7Days_differs kind) id
  | last30Days => exact last30Days_iff kind
  | last90Days => exact last90Days_iff kind
  | custom => exact custom_iff kind rfl rfl

end Kinds

/-- Local mode and online mode report the same interval, whatever the ledger, exactly if the months
added up are those of the range and the interval falls on whole minutes. -/
theorem agreesWithServer_iff (range : ReportsRange) (selectedMonth now : Int) :
    AgreesWithServer range selectedMonth now ↔
      CountsItsMonths range selectedMonth now ∧ OnMinutes range now := by
  rw [AgreesWithServer, sums_agree_iff, windowAdded_eq_iff, sent_eq_iff]

end Zone

/-- A device that lives by UTC. -/
@[reducible] def utcDays : LocalDays where
  midnight date := date * 86400
  dateOf instant := instant / 86400
  dateOf_midnight date := Int.mul_ediv_cancel date (by decide)
  near date := ⟨by omega, by omega⟩

/-- In June the report of the year leaves out the salary of December, which lies in the interval it
is about. -/
theorem december_not_reported :
    let _ := utcDays
    let range : ReportsRange := ⟨.year, toDays ⟨2026, 6, 1⟩, none, none⟩
    let ledger := oneIncome (toDays ⟨2026, 12, 15⟩ * 86400)
    let now := toDays ⟨2026, 6, 20⟩
    totalsIn ledger (range.resolve now) = some (1, 0) ∧
      (reportSummaryLocal ledger range now now).incomeMinor = 0 ∧
      ¬∀ range selectedMonth now, AgreesWithServer range selectedMonth now := by
  intro days range ledger now
  have inRange : (range.resolve now).holds (toDays ⟨2026, 12, 15⟩ * 86400) = true := by
    decide +kernel
  have notAdded : (windowAdded range now now).holds (toDays ⟨2026, 12, 15⟩ * 86400) = false := by
    decide +kernel
  have wanted : totalsIn ledger (range.resolve now) = some (1, 0) := by
    rw [totalsIn_oneIncome, inRange]
    rfl
  have shown : (reportSummaryLocal ledger range now now).incomeMinor = 0 := by
    have added := reportSummaryLocal_eq ledger range now now
    rw [totalsIn_oneIncome, notAdded] at added
    exact (Prod.mk.inj added).1
  refine ⟨wanted, shown, fun agrees => ?_⟩
  have income := ((agrees range now now).1 ledger 1 0 wanted).1
  rw [shown] at income
  exact absurd income (by decide)

end Ledgerly.ReportsPage
