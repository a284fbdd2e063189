/-
This file is about half-open windows of time and the sums over the rows of a list that fall
into one. Reading a row may fail, and then the sum fails.

Windows that follow one another without a gap add up to the one window from the first start to
the last stop. Two windows that hold the same instants are the same, if one of them holds any.
-/

import Mathlib.Algebra.BigOperators.Group.List.Basic
import Mathlib.Algebra.Order.Ring.Int

/-! ### Sums over selected rows -/

section Sums

variable {Row Item Total : Type*} [AddCommMonoid Total]
variable (read : Row → Option Item) (value : Item → Total)

/-- The sum of what the selected rows are read as. -/
def sumOver (selected : Row → Bool) (rows : List Row) : Option Total :=
  ((rows.filter selected).mapM read).map fun found => (found.map value).sum

theorem sumOver_nil (selected : Row → Bool) : sumOver read value selected [] = some 0 := rfl

theorem sumOver_cons (selected : Row → Bool) (row : Row) (rows : List Row) :
    sumOver read value selected (row :: rows) =
      if selected row then
        (read row).bind fun item => (sumOver read value selected rows).map (value item + ·)
      else sumOver read value selected rows := by
  unfold sumOver
  by_cases here : selected row = true
  · rw [List.filter_cons_of_pos here, if_pos here, List.mapM_cons]
    cases read row with
    | none => rfl
    | some item => cases (rows.filter selected).mapM read <;> simp
  · rw [List.filter_cons_of_neg here, if_neg here]

/-- Nothing is selected. -/
theorem sumOver_none (rows : List Row) : sumOver read value (fun _ => false) rows = some 0 := by
  rw [sumOver, List.filter_eq_nil_iff.mpr fun _ _ => Bool.false_ne_true]
  rfl

/-- What two tests select, of which no row passes both. -/
theorem sumOver_or {first second : Row → Bool}
    (apart : ∀ row, first row = true → second row = false) (rows : List Row) :
    sumOver read value (fun row => first row || second row) rows =
      (sumOver read value first rows).bind fun total =>
        (sumOver read value second rows).map (total + ·) := by
  induction rows with
  | nil => simp [sumOver_nil]
  | cons row rows inductionHypothesis =>
    rw [sumOver_cons, sumOver_cons, sumOver_cons, inductionHypothesis]
    by_cases inFirst : first row = true
    · rw [apart row inFirst, inFirst, Bool.true_or, if_pos rfl, if_pos rfl,
        if_neg Bool.false_ne_true]
      cases read row with
      | none => rfl
      | some item =>
        cases sumOver read value first rows with
        | none => rfl
        | some total => cases sumOver read value second rows <;> simp [add_assoc]
    · rw [Bool.not_eq_true] at inFirst
      rw [inFirst, Bool.false_or, if_neg Bool.false_ne_true]
      by_cases inSecond : second row = true
      · rw [if_pos inSecond, if_pos inSecond]
        cases sumOver read value first rows with
        | none => cases read row <;> rfl
        | some total =>
          cases read row with
          | none => rfl
          | some item =>
            cases sumOver read value second rows <;> simp [add_left_comm]
      · rw [if_neg inSecond, if_neg inSecond]

end Sums

/-- Reading all of a list and then changing what was read. -/
theorem List.map_mapM {Row Item Other : Type*} (read : Row → Option Item) (change : Item → Other)
    (rows : List Row) :
    (rows.mapM read).map (List.map change) = rows.mapM fun row => (read row).map change := by
  induction rows with
  | nil => rfl
  | cons row rows inductionHypothesis =>
    rw [List.mapM_cons, List.mapM_cons, ← inductionHypothesis]
    cases read row with
    | none => rfl
    | some item => cases rows.mapM read <;> rfl

/-! ### Windows -/

/-- The instants from one on up to another one. -/
structure Window where
  start : Int
  stop : Int
  deriving DecidableEq

namespace Window

/-- An instant lies in the window. -/
def holds (window : Window) (instant : Int) : Bool :=
  window.start ≤ instant && instant < window.stop

theorem holds_iff {window : Window} {instant : Int} :
    window.holds instant = true ↔ window.start ≤ instant ∧ instant < window.stop := by
  rw [holds, Bool.and_eq_true, decide_eq_true_iff, decide_eq_true_iff]

/-- A window that holds an instant is known by what it holds. -/
theorem eq_of_holds_eq {window other : Window} (nonempty : window.start < window.stop)
    (same : ∀ instant, window.holds instant = other.holds instant) : window = other := by
  have iff : ∀ instant, (window.start ≤ instant ∧ instant < window.stop) ↔
      (other.start ≤ instant ∧ instant < other.stop) := fun instant => by
    rw [← holds_iff, ← holds_iff, same instant]
  obtain ⟨start, stop⟩ := window
  obtain ⟨start', stop'⟩ := other
  dsimp only at *
  have atStart := (iff start).mp ⟨le_rfl, nonempty⟩
  have atEnd := (iff (stop - 1)).mp ⟨by omega, by omega⟩
  have atStart' := (iff start').mpr ⟨le_rfl, by omega⟩
  have atEnd' := (iff (stop' - 1)).mpr ⟨by omega, by omega⟩
  rw [Window.mk.injEq]
  exact ⟨by omega, by omega⟩

/-- Two windows, the second of which begins where the first one ends. -/
theorem holds_append {first middle last : Int} (lower : first ≤ middle) (upper : middle ≤ last)
    (instant : Int) :
    (⟨first, last⟩ : Window).holds instant =
      ((⟨first, middle⟩ : Window).holds instant || (⟨middle, last⟩ : Window).holds instant) := by
  rw [Bool.eq_iff_iff, Bool.or_eq_true, holds_iff, holds_iff, holds_iff]
  dsimp only
  omega

section Consecutive

variable {Row Item Total : Type*} [AddCommMonoid Total]
variable (read : Row → Option Item) (value : Item → Total) (keep : Row → Bool) (time : Row → Int)

/-- The sum over the rows in a window. -/
def sum (window : Window) (rows : List Row) : Option Total :=
  sumOver read value (fun row => keep row && window.holds (time row)) rows

/-- The sum over a window that is cut in two. -/
theorem sum_append {first middle last : Int} (lower : first ≤ middle) (upper : middle ≤ last)
    (rows : List Row) :
    sum read value keep time ⟨first, last⟩ rows =
      (sum read value keep time ⟨first, middle⟩ rows).bind fun total =>
        (sum read value keep time ⟨middle, last⟩ rows).map (total + ·) := by
  rw [sum, sum, sum, ← sumOver_or]
  · congr 1
    funext row
    rw [holds_append lower upper, Bool.and_or_distrib_left]
  · intro row inFirst
    rw [Bool.and_eq_true, holds_iff] at inFirst
    rw [Bool.and_eq_false_iff]
    right
    rw [Bool.eq_false_iff]
    intro inSecond
    have after := holds_iff.mp inSecond
    dsimp only at after inFirst
    omega

/-- The sums over windows that follow one another, counted back from the last one, add up to the
sum over them all. -/
theorem sum_consecutive (bounds : Nat → Int) (falling : ∀ i, bounds (i + 1) ≤ bounds i)
    (count : Nat) (rows : List Row) :
    ((List.range count).reverse.mapM fun i =>
        sum read value keep time ⟨bounds (i + 1), bounds i⟩ rows).map List.sum =
      sum read value keep time ⟨bounds count, bounds 0⟩ rows := by
  induction count with
  | zero =>
    have nothing : (fun row => keep row && (⟨bounds 0, bounds 0⟩ : Window).holds (time row)) =
        fun _ => false := by
      funext row
      rw [Bool.and_eq_false_iff]
      right
      rw [Bool.eq_false_iff]
      intro inside
      have both := holds_iff.mp inside
      dsimp only at both
      omega
    rw [sum, nothing, sumOver_none]
    rfl
  | succ count inductionHypothesis =>
    have reached : bounds count ≤ bounds 0 := by
      clear inductionHypothesis
      induction count with
      | zero => exact le_rfl
      | succ count earlier => exact (falling count).trans earlier
    rw [sum_append read value keep time (falling count) reached, ← inductionHypothesis,
      List.range_succ, List.reverse_concat, List.mapM_cons]
    cases sum read value keep time ⟨bounds (count + 1), bounds count⟩ rows with
    | none => rfl
    | some total =>
      simp only [Option.bind_eq_bind, Option.bind_some]
      cases (List.range count).reverse.mapM fun i =>
        sum read value keep time ⟨bounds (i + 1), bounds i⟩ rows <;> simp

end Consecutive

end Window
