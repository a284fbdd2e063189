/-
This file is about cutting an ordered list of rows into pages without cutting a group.

A page takes rows up to a limit and then goes on only as long as the rows belong to the
group of the last row it took before the limit. A page is therefore an initial part of
the rows, it is the whole list if that fits the limit, and where every row is a group of
its own it is the first `limit` rows.
-/

import Mathlib.Data.List.Infix
import Mathlib.Data.List.TakeWhile

namespace Paging

variable {Row Group : Type*} [DecidableEq Group] (groupOf : Row → Group) (limit : Nat)

/-- The loop that fills a page: the page so far and the group of its last row. -/
def pageLoop (page : List Row) (last : Option Group) : List Row → List Row
  | [] => page
  | row :: rest =>
    if limit ≤ page.length then
      if last = some (groupOf row) then pageLoop (page ++ [row]) last rest else page
    else pageLoop (page ++ [row]) (some (groupOf row)) rest

/-- The first page of the rows. -/
def page (rows : List Row) : List Row := pageLoop groupOf limit [] none rows

/-- Beyond the limit the loop takes the rows of the last group. -/
theorem pageLoop_of_full (taken : List Row) (last : Option Group) (rows : List Row)
    (full : limit ≤ taken.length) :
    pageLoop groupOf limit taken last rows =
      taken ++ rows.takeWhile fun row => last = some (groupOf row) := by
  induction rows generalizing taken with
  | nil => rw [pageLoop, List.takeWhile_nil, List.append_nil]
  | cons row rest inductionHypothesis =>
    rw [pageLoop, if_pos full]
    by_cases inGroup : last = some (groupOf row)
    · have longer : limit ≤ (taken ++ [row]).length := by
        rw [List.length_append]
        omega
      rw [if_pos inGroup, inductionHypothesis _ longer,
        List.takeWhile_cons_of_pos (by simpa using inGroup), List.append_assoc]
      rfl
    · rw [if_neg inGroup, List.takeWhile_cons_of_neg (by simpa using inGroup), List.append_nil]

/-- The loop takes what the limit leaves room for, and then the rest of the last group. -/
theorem pageLoop_eq (taken : List Row) (last : Option Group) (rows : List Row)
    (room : taken.length < limit) :
    pageLoop groupOf limit taken last rows =
      taken ++ rows.take (limit - taken.length) ++
        (rows.drop (limit - taken.length)).takeWhile fun row =>
          (rows.take (limit - taken.length)).getLast?.map groupOf = some (groupOf row) := by
  induction rows generalizing taken last with
  | nil => simp [pageLoop]
  | cons row rest inductionHypothesis =>
    have count : limit - taken.length = (limit - (taken ++ [row]).length) + 1 := by
      rw [List.length_append, List.length_singleton]
      omega
    rw [pageLoop, if_neg (by omega), count, List.take_succ_cons, List.drop_succ_cons]
    by_cases more : (taken ++ [row]).length < limit
    · rw [inductionHypothesis _ _ more, List.append_assoc taken, List.singleton_append]
      cases next : rest.take (limit - (taken ++ [row]).length) with
      | nil =>
        have nothing : rest = [] := by
          rcases List.take_eq_nil_iff.mp next with none | none
          · omega
          · exact none
        simp only [nothing, List.drop_nil, List.takeWhile_nil]
      | cons head tail => rw [List.getLast?_cons_cons]
    · have full : limit ≤ (taken ++ [row]).length := by omega
      have none : limit - (taken ++ [row]).length = 0 := by omega
      rw [pageLoop_of_full _ _ _ _ _ full, none, List.take_zero, List.drop_zero]
      rfl

/-- A page under a positive limit: the rows up to the limit and the rest of their last
group. -/
theorem page_eq (rows : List Row) (positive : 0 < limit) :
    page groupOf limit rows = rows.take limit ++
      (rows.drop limit).takeWhile fun row =>
        (rows.take limit).getLast?.map groupOf = some (groupOf row) :=
  pageLoop_eq groupOf limit [] none rows positive

/-- A list that fits the limit is one page. -/
theorem page_eq_self (rows : List Row) (fits : rows.length ≤ limit) :
    page groupOf limit rows = rows := by
  cases rows with
  | nil => rfl
  | cons row rest =>
    have positive : 0 < limit := lt_of_lt_of_le (Nat.zero_lt_succ _) fits
    rw [page_eq _ _ _ positive, List.take_of_length_le fits, List.drop_of_length_le fits,
      List.takeWhile_nil, List.append_nil]

/-- A page is an initial part of the rows. -/
theorem page_prefix (rows : List Row) : page groupOf limit rows <+: rows := by
  rcases Nat.eq_zero_or_pos limit with zero | positive
  · subst zero
    cases rows with
    | nil => exact List.prefix_rfl
    | cons row rest =>
      rw [page, pageLoop, if_pos (Nat.zero_le _), if_neg (by simp)]
      exact List.nil_prefix
  · rw [page_eq _ _ _ positive]
    have rest := List.takeWhile_prefix (l := rows.drop limit) fun row =>
      (rows.take limit).getLast?.map groupOf = some (groupOf row)
    have both := (List.prefix_append_right_inj (rows.take limit)).mpr rest
    rwa [List.take_append_drop] at both

/-- Rows of groups of their own come in pages of the limit's length. -/
theorem page_eq_take (rows : List Row)
    (distinct : rows.Pairwise fun first second => groupOf first ≠ groupOf second) :
    page groupOf limit rows = rows.take limit := by
  rcases Nat.eq_zero_or_pos limit with zero | positive
  · subst zero
    cases rows with
    | nil => rfl
    | cons row rest => rfl
  · rw [page_eq _ _ _ positive]
    rw [← List.take_append_drop limit rows, List.pairwise_append] at distinct
    cases beyond : rows.drop limit with
    | nil => rw [List.takeWhile_nil, List.append_nil]
    | cons row rest =>
      have other : ¬(rows.take limit).getLast?.map groupOf = some (groupOf row) := by
        intro same
        obtain ⟨last, isLast, equal⟩ := Option.map_eq_some_iff.mp same
        exact distinct.2.2 last (List.mem_of_getLast? isLast) row
          (by rw [beyond]; exact List.mem_cons_self) equal
      rw [List.takeWhile_cons_of_neg (by simpa using other), List.append_nil]

/-- A nonempty list has a nonempty page. -/
theorem page_ne_nil (rows : List Row) (positive : 0 < limit) (some : rows ≠ []) :
    page groupOf limit rows ≠ [] := by
  rw [page_eq _ _ _ positive]
  cases rows with
  | nil => exact absurd rfl some
  | cons row rest =>
    obtain ⟨less, rfl⟩ := Nat.exists_eq_succ_of_ne_zero (Nat.pos_iff_ne_zero.mp positive)
    rw [List.take_succ_cons]
    exact List.cons_ne_nil _ _

/-! ### The group a page ends in -/

/-- The rows beyond the limit that belong to the group of the last row before it. -/
def overhang (rows : List Row) : List Row :=
  (rows.drop limit).takeWhile fun row =>
    (rows.take limit).getLast?.map groupOf = some (groupOf row)

/-- A page ends where a group does. -/
def EndsGroup (page rows : List Row) : Prop :=
  ∀ last ∈ page.getLast?, ∀ next ∈ (rows.drop page.length).head?, groupOf last ≠ groupOf next

/-- A page that is given some rows beyond the limit takes no more of the group than these. -/
theorem page_take (rows : List Row) (extra : Nat) (positive : 0 < limit) :
    page groupOf limit (rows.take (limit + extra)) =
      rows.take limit ++ (overhang groupOf limit rows).take extra := by
  have before : (rows.take (limit + extra)).take limit = rows.take limit := by
    rw [List.take_take, Nat.min_eq_left (Nat.le_add_right limit extra)]
  have beyond : (rows.take (limit + extra)).drop limit = (rows.drop limit).take extra := by
    rw [List.drop_take, Nat.add_sub_cancel_left]
  rw [page_eq _ _ _ positive, before, beyond, overhang, List.take_takeWhile]

/-- The rows of the overhang are of the group of the last row before the limit. -/
theorem groupOf_overhang {rows : List Row} {row : Row} (member : row ∈ overhang groupOf limit rows) :
    (rows.take limit).getLast?.map groupOf = some (groupOf row) := by
  have inGroup := List.mem_takeWhile_imp member
  exact of_decide_eq_true inGroup

/-- The rows before the limit with a part of the overhang end with that group. -/
theorem groupOf_getLast? {rows taken : List Row} (part : taken ⊆ overhang groupOf limit rows)
    {last : Row} (isLast : last ∈ (rows.take limit ++ taken).getLast?) :
    (rows.take limit).getLast?.map groupOf = some (groupOf last) := by
  rw [List.getLast?_append, Option.mem_def, Option.or_eq_some_iff] at isLast
  rcases isLast with inGroup | ⟨_, before⟩
  · exact groupOf_overhang groupOf limit (part (List.mem_of_getLast? inGroup))
  · rw [before, Option.map_some]

/-- The rows up to the limit with so many of the overhang end a group exactly if that is all of
the overhang. -/
theorem endsGroup_iff (rows : List Row) (extra : Nat) :
    EndsGroup groupOf (rows.take limit ++ (overhang groupOf limit rows).take extra) rows ↔
      (overhang groupOf limit rows).length ≤ extra := by
  have part := List.take_subset extra (overhang groupOf limit rows)
  have rest : rows.drop (rows.take limit ++ (overhang groupOf limit rows).take extra).length =
      (overhang groupOf limit rows).drop extra ++ (rows.drop limit).dropWhile fun row =>
        (rows.take limit).getLast?.map groupOf = some (groupOf row) := by
    have split : rows = (rows.take limit ++ (overhang groupOf limit rows).take extra) ++
        ((overhang groupOf limit rows).drop extra ++ (rows.drop limit).dropWhile fun row =>
          (rows.take limit).getLast?.map groupOf = some (groupOf row)) := by
      rw [List.append_assoc, ← List.append_assoc (List.take _ _) (List.drop _ _),
        List.take_append_drop, overhang, List.takeWhile_append_dropWhile, List.take_append_drop]
    exact (congrArg (List.drop _) split).trans List.drop_left
  constructor
  · intro ends
    by_contra longer
    obtain ⟨next, later, beyond⟩ := List.exists_cons_of_ne_nil
      (mt List.drop_eq_nil_iff.mp longer)
    have group := groupOf_overhang groupOf limit (List.drop_subset extra _
      (by rw [beyond]; exact List.mem_cons_self : next ∈ _))
    obtain ⟨last, isLast⟩ : ∃ last,
        last ∈ (rows.take limit ++ (overhang groupOf limit rows).take extra).getLast? := by
      obtain ⟨before, isBefore, _⟩ := Option.map_eq_some_iff.mp group
      rw [List.getLast?_append, isBefore]
      cases (List.take extra (overhang groupOf limit rows)).getLast? with
      | none => exact ⟨before, rfl⟩
      | some last => exact ⟨last, rfl⟩
    refine ends last isLast next (by rw [rest, beyond]; rfl) ?_
    exact Option.some.inj ((groupOf_getLast? groupOf limit part isLast).symm.trans group)
  · intro fits last isLast next isNext same
    have group := groupOf_getLast? groupOf limit part isLast
    rw [rest, List.drop_of_length_le fits, List.nil_append] at isNext
    have other := List.head?_dropWhile_not (fun row =>
      decide ((rows.take limit).getLast?.map groupOf = some (groupOf row))) (rows.drop limit)
    rw [Option.mem_def.mp isNext, group, same] at other
    exact absurd rfl (of_decide_eq_false other)

/-- A page of all rows ends where a group does. -/
theorem endsGroup_page (rows : List Row) (positive : 0 < limit) :
    EndsGroup groupOf (page groupOf limit rows) rows := by
  have ends := (endsGroup_iff groupOf limit rows (overhang groupOf limit rows).length).mpr le_rfl
  rwa [List.take_length, overhang, ← page_eq groupOf limit rows positive] at ends

/-- Some rows beyond the limit are enough for the whole page exactly if the overhang is no
longer than they are. -/
theorem page_take_eq_iff (rows : List Row) (extra : Nat) (positive : 0 < limit) :
    page groupOf limit (rows.take (limit + extra)) = page groupOf limit rows ↔
      (overhang groupOf limit rows).length ≤ extra := by
  rw [page_take _ _ _ _ positive, page_eq _ _ _ positive, ← overhang,
    List.append_right_inj, List.take_eq_self_iff]

end Paging
