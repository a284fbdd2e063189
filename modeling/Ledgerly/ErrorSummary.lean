/-
This file models `truncate_error`, which makes the summary of an error for the status file of a
backup, a restore or a recovery drill.

Rust counts a text in bytes of UTF-8 and cuts it with `String::truncate`, which panics inside a
character. A text of more than five hundred bytes is therefore summarised only if a character ends
with byte five hundred.
-/

import Ledgerly.Library.Cutting
import Ledgerly.Text

namespace Ledgerly

open Cutting

/-! ### Texts in bytes -/

/-- `str::is_char_boundary`. -/
def isCharBoundary (text : String) (index : Nat) : Bool :=
  (cutAt Char.utf8Size index text.toList).isSome

/-- `String::truncate`, with its panic. -/
def truncate? (text : String) (newLen : Nat) : Option String :=
  if newLen ≤ text.utf8ByteSize then
    (cutAt Char.utf8Size newLen text.toList).map fun cut => String.ofList cut.1
  else some text

/-- The bytes of a text are those of its characters. -/
theorem total_utf8Size (text : String) : total Char.utf8Size text.toList = text.utf8ByteSize := by
  have each : ∀ characters : List Char,
      total Char.utf8Size characters = (String.ofList characters).utf8ByteSize := by
    intro characters
    induction characters with
    | nil => rfl
    | cons character rest inductionHypothesis =>
      rw [total_cons, inductionHypothesis, ← List.singleton_append, String.ofList_append,
        String.utf8ByteSize_append, ← String.singleton_eq_ofList, String.utf8ByteSize_singleton]
  rw [each, String.ofList_toList]

/-- A boundary is a place between the bytes of two characters, or an end of the text. -/
theorem isCharBoundary_iff {text : String} {index : Nat} :
    isCharBoundary text index = true ↔
      ∃ front rest, text = front ++ rest ∧ front.utf8ByteSize = index := by
  rw [isCharBoundary, Option.isSome_iff_exists]
  constructor
  · rintro ⟨⟨front, rest⟩, cut⟩
    obtain ⟨whole, sized⟩ := (cutAt_eq_some_iff Char.utf8Size_pos).mp cut
    refine ⟨String.ofList front, String.ofList rest, ?_, ?_⟩
    · rw [← String.ofList_append, whole, String.ofList_toList]
    · rw [← total_utf8Size, String.toList_ofList, sized]
  · rintro ⟨front, rest, rfl, rfl⟩
    refine ⟨(front.toList, rest.toList), (cutAt_eq_some_iff Char.utf8Size_pos).mpr ⟨?_, ?_⟩⟩
    · rw [String.toList_append]
    · exact total_utf8Size front

/-- The boundaries are the valid positions of the text in UTF-8. -/
theorem isCharBoundary_iff_isValid {text : String} {index : Nat} :
    isCharBoundary text index = true ↔ (⟨index⟩ : String.Pos.Raw).IsValid text := by
  rw [isCharBoundary_iff]
  constructor
  · rintro ⟨front, rest, rfl, rfl⟩
    exact String.Pos.Raw.isValid_rawEndPos.append_right rest
  · intro isValid
    have splits := (text.pos ⟨index⟩ isValid).splits
    have offset := congrArg String.Pos.Raw.byteIdx splits.offset_eq_rawEndPos
    exact ⟨_, _, splits.eq_append, offset.symm⟩

/-! ### The summary -/

/-- A line break becomes a space. -/
def unbroken (character : Char) : Char :=
  if character = '\r' ∨ character = '\n' then ' ' else character

/-- `error.replace(['\r', '\n'], " ")`. -/
def withoutBreaks (error : String) : String := String.ofList (error.toList.map unbroken)

/-- `truncate_error`, with its panic. -/
def truncateError (error : String) : Option String :=
  let summary := withoutBreaks error
  if 500 < summary.utf8ByteSize then (truncate? summary 500).map (· ++ "...") else some summary

/-- What the summary of an error is: its text without breaks, or a beginning of it and three
dots. -/
def IsSummary (error summary : String) : Prop :=
  summary = withoutBreaks error ∨
    ∃ front rest, withoutBreaks error = front ++ rest ∧ rest ≠ "" ∧ summary = front ++ "..."

/-- The text is short, or a character ends with its byte five hundred. -/
def CutsBetween (error : String) : Prop :=
  error.utf8ByteSize ≤ 500 ∨ isCharBoundary error 500 = true

theorem utf8Size_unbroken (character : Char) :
    (unbroken character).utf8Size = character.utf8Size := by
  unfold unbroken
  split
  · next isBreak =>
    rcases isBreak with rfl | rfl
    · rfl
    · rfl
  · rfl

/-- A space takes the byte of the break. -/
theorem utf8ByteSize_withoutBreaks (error : String) :
    (withoutBreaks error).utf8ByteSize = error.utf8ByteSize := by
  rw [← total_utf8Size, withoutBreaks, String.toList_ofList, total_map utf8Size_unbroken,
    total_utf8Size]

/-- The boundaries stay where they are. -/
theorem isCharBoundary_withoutBreaks (error : String) (index : Nat) :
    isCharBoundary (withoutBreaks error) index = isCharBoundary error index := by
  rw [isCharBoundary, isCharBoundary, withoutBreaks, String.toList_ofList,
    cutAt_map utf8Size_unbroken, Option.isSome_map]

/-- A text that is cut between characters has a summary, -/
theorem exists_summary {error : String} (cuts : CutsBetween error) :
    ∃ summary, truncateError error = some summary ∧ IsSummary error summary ∧
      summary.utf8ByteSize ≤ 503 := by
  unfold truncateError
  dsimp only
  split
  · next long =>
    have boundary : isCharBoundary error 500 = true := by
      rw [utf8ByteSize_withoutBreaks] at long
      exact cuts.resolve_left (by omega)
    rw [← isCharBoundary_withoutBreaks, isCharBoundary, Option.isSome_iff_exists] at boundary
    obtain ⟨⟨front, rest⟩, cut⟩ := boundary
    obtain ⟨whole, sized⟩ := (cutAt_eq_some_iff Char.utf8Size_pos).mp cut
    have frontBytes : (String.ofList front).utf8ByteSize = 500 := by
      rw [← total_utf8Size, String.toList_ofList, sized]
    have text : withoutBreaks error = String.ofList front ++ String.ofList rest := by
      rw [← String.ofList_append, whole, String.ofList_toList]
    refine ⟨String.ofList front ++ "...", ?_, .inr ⟨_, _, text, ?_, rfl⟩, ?_⟩
    · rw [truncate?, if_pos (Nat.le_of_lt long), cut]
      rfl
    · -- the whole is longer than its beginning
      intro none
      rw [text, none, String.append_empty, frontBytes] at long
      exact absurd long (lt_irrefl 500)
    · rw [String.utf8ByteSize_append, frontBytes]
      decide
  · next short => exact ⟨_, rfl, .inl rfl, by omega⟩

/-- and any other ends in the panic. -/
theorem truncateError_eq_none {error : String} (inside : ¬CutsBetween error) :
    truncateError error = none := by
  rw [CutsBetween, not_or, Nat.not_le, Bool.not_eq_true, isCharBoundary] at inside
  obtain ⟨long, noCut⟩ := inside
  rw [← utf8ByteSize_withoutBreaks] at long
  have noSummary : isCharBoundary (withoutBreaks error) 500 = false := by
    rw [isCharBoundary_withoutBreaks]
    exact noCut
  rw [isCharBoundary, Option.isSome_eq_false_iff, Option.isNone_iff_eq_none] at noSummary
  rw [truncateError, if_pos long, truncate?, if_pos (Nat.le_of_lt long), noSummary]
  rfl

/-- A text of one-byte characters is always cut between them. -/
theorem cutsBetween_of_ascii {error : String}
    (ascii : ∀ character ∈ error.toList, character.utf8Size = 1) : CutsBetween error := by
  by_cases short : error.utf8ByteSize ≤ 500
  · exact .inl short
  · right
    have ones : ∀ {characters : List Char}, (∀ character ∈ characters, character.utf8Size = 1) →
        total Char.utf8Size characters = characters.length := by
      intro characters each
      rw [total, List.map_congr_left each, List.map_const', List.sum_replicate_nat, Nat.mul_one]
    have long : 500 ≤ error.toList.length := by
      rw [← ones ascii, total_utf8Size]
      omega
    rw [isCharBoundary, Option.isSome_iff_exists]
    refine ⟨(error.toList.take 500, error.toList.drop 500),
      (cutAt_eq_some_iff Char.utf8Size_pos).mpr ⟨List.take_append_drop 500 _, ?_⟩⟩
    rw [ones fun character member => ascii character (List.mem_of_mem_take member),
      List.length_take, Nat.min_eq_left long]

end Ledgerly
