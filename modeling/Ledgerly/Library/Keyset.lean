/-
This file is about pages that are cut by the key of their last row. A page begins beyond a cursor,
in a descending order of the rows, and leads to the next one by the key of its last row if rows
are left. Following the pages gives every row beyond the first cursor once and in order.
-/

import Mathlib.Data.List.Sort
import Mathlib.Order.Defs.LinearOrder

namespace Keyset

variable {Row Cursor Key Page Item : Type*}

/-! ### Following the pages -/

/-- The pages from a cursor on, if the last one is among so many. -/
def follow (next : Page → Option Cursor) (serve : Option Cursor → Page) :
    Nat → Option Cursor → Option (List Page)
  | 0, _ => none
  | most + 1, cursor =>
    match next (serve cursor) with
    | none => some [serve cursor]
    | some later => (follow next serve most (some later)).map (serve cursor :: ·)

variable [LinearOrder Key] (cursorOf : Row → Cursor) (rank : Cursor → Key)

/-! ### Rows beyond a cursor -/

/-- The rows beyond a cursor, all of them if there is none. -/
def beyond (cursor : Option Cursor) (rows : List Row) : List Row :=
  rows.filter fun row => cursor.all fun cursor => rank (cursorOf row) < rank cursor

/-- No two rows have keys of one rank, and the later row has the lower one. -/
def Descending (rows : List Row) : Prop :=
  rows.Pairwise fun one two => rank (cursorOf two) < rank (cursorOf one)

variable {cursorOf rank}

theorem Descending.beyond {rows : List Row} (descending : Descending cursorOf rank rows)
    (cursor : Option Cursor) : Descending cursorOf rank (beyond cursorOf rank cursor rows) :=
  List.Pairwise.filter _ descending

/-- Beyond a row of a descending list are the rows after it. -/
theorem beyond_append {before after : List Row} {row : Row}
    (descending : Descending cursorOf rank (before ++ row :: after)) :
    beyond cursorOf rank (some (cursorOf row)) (before ++ row :: after) = after := by
  obtain ⟨-, fromRow, across⟩ := List.pairwise_append.mp descending
  obtain ⟨later, -⟩ := List.pairwise_cons.mp fromRow
  have none : Keyset.beyond cursorOf rank (some (cursorOf row)) before = [] := by
    refine List.filter_eq_nil_iff.mpr fun earlier member => ?_
    have above := across earlier member row List.mem_cons_self
    rw [Option.all_some, decide_eq_true_eq]
    exact not_lt_of_gt above
  have all : Keyset.beyond cursorOf rank (some (cursorOf row)) after = after :=
    List.filter_eq_self.mpr fun other member => decide_eq_true (later other member)
  rw [Keyset.beyond] at none all ⊢
  rw [List.filter_append, none, List.nil_append, List.filter_cons_of_neg, all]
  rw [Option.all_some, decide_eq_true_eq]
  exact lt_irrefl _

/-- Beyond a row that is beyond a cursor lie only rows that are. -/
theorem beyond_beyond {rows : List Row} {cursor : Option Cursor} {row : Row}
    (member : row ∈ beyond cursorOf rank cursor rows) :
    beyond cursorOf rank (some (cursorOf row)) (beyond cursorOf rank cursor rows) =
      beyond cursorOf rank (some (cursorOf row)) rows := by
  have passed := (List.mem_filter.mp member).2
  rw [Keyset.beyond, Keyset.beyond, List.filter_filter, Keyset.beyond]
  refine List.filter_congr fun other _ => ?_
  rw [Bool.and_eq_left_iff_imp]
  intro below
  cases cursor with
  | none => rfl
  | some cursor => exact decide_eq_true (lt_trans (of_decide_eq_true below) (of_decide_eq_true passed))

/-! ### Rows in their order -/

variable (cursorOf rank)

/-- The rows in descending order. -/
def descend (rows : List Row) : List Row :=
  rows.insertionSort fun one two => rank (cursorOf two) ≤ rank (cursorOf one)

theorem descend_perm (rows : List Row) : (descend cursorOf rank rows).Perm rows :=
  List.perm_insertionSort _ rows

variable {cursorOf rank}

/-- Rows of ranks of their own are put in descending order. -/
theorem descending_descend {rows : List Row}
    (distinct : (rows.map fun row => rank (cursorOf row)).Nodup) :
    Descending cursorOf rank (descend cursorOf rank rows) := by
  have total : Std.Total fun one two : Row => rank (cursorOf two) ≤ rank (cursorOf one) :=
    ⟨fun one two => le_total _ _⟩
  have transitive : IsTrans Row fun one two => rank (cursorOf two) ≤ rank (cursorOf one) :=
    ⟨fun _ _ _ above below => le_trans below above⟩
  have sorted := List.pairwise_insertionSort
    (fun one two : Row => rank (cursorOf two) ≤ rank (cursorOf one)) rows
  have apart : (descend cursorOf rank rows).Pairwise fun one two =>
      rank (cursorOf one) ≠ rank (cursorOf two) :=
    List.pairwise_map.mp
      (((descend_perm cursorOf rank rows).map fun row => rank (cursorOf row)).nodup_iff.mpr distinct)
  exact (sorted.and apart).imp fun both => lt_of_le_of_ne both.1 both.2.symm

/-- A list in descending order is the only one of its rows. -/
theorem Descending.eq_of_perm {one two : List Row} (first : Descending cursorOf rank one)
    (second : Descending cursorOf rank two) (perm : one.Perm two) : one = two :=
  perm.eq_of_pairwise (fun _ _ _ _ below above => absurd below (lt_asymm above)) first second

/-- It is all the same to leave out rows before they are put in order or afterwards. -/
theorem descend_beyond {rows : List Row}
    (distinct : (rows.map fun row => rank (cursorOf row)).Nodup) (cursor : Option Cursor) :
    descend cursorOf rank (beyond cursorOf rank cursor rows) =
      beyond cursorOf rank cursor (descend cursorOf rank rows) := by
  have sublist : (beyond cursorOf rank cursor rows).Sublist rows := List.filter_sublist
  refine (descending_descend (distinct.sublist (sublist.map _))).eq_of_perm
    ((descending_descend distinct).beyond cursor) ?_
  exact (descend_perm _ _ _).trans ((descend_perm cursorOf rank rows).filter _).symm

/-! ### The pages add up -/

variable (cursorOf rank)

/-- The pages hold so many rows as items, and lead to the last one of them if rows are left. -/
structure Serves (next : Page → Option Cursor) (items : Page → List Item) (view : Row → Item)
    (limit : Nat) (rows : List Row) (serve : Option Cursor → Page) : Prop where
  items_eq : ∀ cursor,
    items (serve cursor) = ((beyond cursorOf rank cursor rows).take limit).map view
  next_eq : ∀ cursor, next (serve cursor) =
    if limit < (beyond cursorOf rank cursor rows).length then
      ((beyond cursorOf rank cursor rows).take limit).getLast?.map cursorOf
    else none

variable {cursorOf rank}

/-- Following the pages from a cursor comes to an end and gives every row beyond the cursor once
and in order. -/
theorem follow_eq {next : Page → Option Cursor} {items : Page → List Item} {view : Row → Item}
    {limit : Nat} {rows : List Row} {serve : Option Cursor → Page}
    (serves : Serves cursorOf rank next items view limit rows serve) (positive : 0 < limit)
    (descending : Descending cursorOf rank rows) (most : Nat) (cursor : Option Cursor)
    (enough : (beyond cursorOf rank cursor rows).length < most) :
    ∃ pages, follow next serve most cursor = some pages ∧
      pages.flatMap items = (beyond cursorOf rank cursor rows).map view := by
  induction most generalizing cursor with
  | zero => exact absurd enough (Nat.not_lt_zero _)
  | succ most inductionHypothesis =>
    have whole := serves.next_eq cursor
    have shown := serves.items_eq cursor
    rw [follow]
    by_cases more : limit < (beyond cursorOf rank cursor rows).length
    · -- the page ends with a row, and the rest is what lies beyond that row
      have nonempty : (beyond cursorOf rank cursor rows).take limit ≠ [] := by
        rw [Ne, List.take_eq_nil_iff, not_or]
        exact ⟨Nat.pos_iff_ne_zero.mp positive, List.length_pos_iff.mp (Nat.lt_trans positive more)⟩
      obtain ⟨before, last, ends⟩ := List.eq_nil_or_concat _ |>.resolve_left nonempty
      have split : beyond cursorOf rank cursor rows =
          before ++ last :: (beyond cursorOf rank cursor rows).drop limit := by
        conv_lhs => rw [← List.take_append_drop limit (beyond cursorOf rank cursor rows), ends]
        rw [List.concat_eq_append, List.append_assoc, List.singleton_append]
      have member : last ∈ beyond cursorOf rank cursor rows := by
        rw [split]
        exact List.mem_append_right _ List.mem_cons_self
      have rest : beyond cursorOf rank (some (cursorOf last)) rows =
          (beyond cursorOf rank cursor rows).drop limit := by
        have inOrder := descending.beyond cursor
        rw [split] at inOrder
        rw [← beyond_beyond member]
        conv_lhs => rw [split]
        exact beyond_append inOrder
      rw [if_pos more, ends, List.concat_eq_append, List.getLast?_concat, Option.map_some] at whole
      obtain ⟨pages, followed, together⟩ := inductionHypothesis (some (cursorOf last)) (by
        rw [rest, List.length_drop]
        omega)
      refine ⟨serve cursor :: pages, ?_, ?_⟩
      · rw [whole]
        dsimp only
        rw [followed, Option.map_some]
      · rw [List.flatMap_cons, together, shown, rest, ← List.map_append, List.take_append_drop]
    · rw [if_neg more] at whole
      refine ⟨[serve cursor], ?_, ?_⟩
      · rw [whole]
      · rw [List.flatMap_singleton, shown, List.take_of_length_le (Nat.le_of_not_lt more)]

end Keyset
