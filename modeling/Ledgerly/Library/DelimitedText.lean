/-
This file is about texts of lines, and lines of fields with a delimiter between them: how a text
is cut into lines, how a line is read, and how a field is written so that it is read back. A field
may stand in quotation marks, inside which a doubled mark stands for one.

The theorems on reading hold for whatever follows in the line, so that they chain from field to
field.
-/

import Mathlib.Data.List.TakeWhile
import Mathlib.Data.Option.Basic

namespace DelimitedText

/-! ### Blanks at the ends -/

section Strip

variable {α : Type*} {blank : α → Bool}

/-- A list without the blanks at its ends. -/
def strip (blank : α → Bool) (items : List α) : List α :=
  ((items.dropWhile blank).reverse.dropWhile blank).reverse

/-- Blanks that follow make no difference. -/
theorem strip_append_blanks (items : List α) {blanks : List α}
    (all : ∀ item ∈ blanks, blank item = true) : strip blank (items ++ blanks) = strip blank items := by
  have skipped : ∀ rest : List α, (blanks.reverse ++ rest).dropWhile blank = rest.dropWhile blank :=
    fun rest => List.dropWhile_append_of_pos fun item member => all item (List.mem_reverse.mp member)
  unfold strip
  rw [List.dropWhile_append]
  by_cases nothing : (items.dropWhile blank).isEmpty = true
  · have gone : blanks.dropWhile blank = [] := List.dropWhile_eq_nil_iff.mpr all
    rw [if_pos nothing, gone, List.isEmpty_iff.mp nothing]
  · rw [if_neg nothing, List.reverse_append, skipped]

/-- A list that begins with no blank is what is left of it and some blanks. -/
theorem exists_blanks (items : List α) (sharp : ∀ first ∈ items.head?, blank first = false) :
    ∃ blanks, (∀ item ∈ blanks, blank item = true) ∧ items = strip blank items ++ blanks := by
  have front : items.dropWhile blank = items := by
    cases items with
    | nil => rfl
    | cons first rest =>
      rw [List.dropWhile_cons_of_neg]
      rw [sharp first rfl]
      exact Bool.false_ne_true
  refine ⟨(items.reverse.takeWhile blank).reverse, fun item member => ?_, ?_⟩
  · exact List.mem_takeWhile_imp (List.mem_reverse.mp member)
  · rw [strip, front, ← List.reverse_append, List.takeWhile_append_dropWhile, List.reverse_reverse]

/-- Nothing is stripped where there are no blanks. -/
theorem strip_of_sharp {items : List α} (sharp : ∀ item ∈ items, blank item = false) :
    strip blank items = items := by
  have stays : ∀ {list : List α}, (∀ item ∈ list, blank item = false) →
      list.dropWhile blank = list := by
    intro list none
    cases list with
    | nil => rfl
    | cons first rest =>
      rw [List.dropWhile_cons_of_neg]
      rw [none first List.mem_cons_self]
      exact Bool.false_ne_true
  rw [strip, stays sharp, stays fun item member => sharp item (List.mem_reverse.mp member),
    List.reverse_reverse]

/-- Nothing is left of blanks. -/
theorem strip_eq_nil_iff {items : List α} :
    strip blank items = [] ↔ ∀ item ∈ items, blank item = true := by
  rw [strip, List.reverse_eq_nil_iff, List.dropWhile_eq_nil_iff]
  constructor
  · intro allLeft
    -- what is left begins with no blank
    have none : items.dropWhile blank = [] := by
      cases left : items.dropWhile blank with
      | nil => rfl
      | cons first rest =>
        have sharp := List.head?_dropWhile_not blank items
        rw [left] at sharp allLeft
        have isBlank := allLeft first (List.mem_reverse.mpr List.mem_cons_self)
        rw [List.head?_cons] at sharp
        dsimp only at sharp
        rw [isBlank] at sharp
        cases sharp
    exact List.dropWhile_eq_nil_iff.mp none
  · intro all item member
    exact all item ((List.dropWhile_sublist blank).subset (List.mem_reverse.mp member))

/-- What is left is part of the list. -/
theorem mem_of_mem_strip {items : List α} {item : α} (member : item ∈ strip blank items) :
    item ∈ items := by
  rw [strip, List.mem_reverse] at member
  exact (List.dropWhile_sublist blank).subset
    (List.mem_reverse.mp ((List.dropWhile_sublist blank).subset member))

/-- A list keeps what is no blank. -/
theorem mem_strip_of_not_blank {items : List α} {item : α} (member : item ∈ items)
    (sharp : ¬blank item = true) : item ∈ strip blank items := by
  have stays : ∀ {list : List α}, item ∈ list → item ∈ list.dropWhile blank := by
    intro list inList
    rw [← List.takeWhile_append_dropWhile (p := blank) (l := list)] at inList
    rcases List.mem_append.mp inList with dropped | stayed
    · exact absurd (List.mem_takeWhile_imp dropped) sharp
    · exact stayed
  exact List.mem_reverse.mpr (stays (List.mem_reverse.mpr (stays member)))

end Strip

/-! ### Lines -/

section Lines

variable {α β : Type*} [DecidableEq α] (ret newline : α)

/-- A return with a newline after it is replaced by the newline. -/
def joinReturns : List α → List α
  | [] => []
  | [item] => [item]
  | item :: next :: rest =>
    if item = ret ∧ next = newline then newline :: joinReturns rest
    else item :: joinReturns (next :: rest)

/-- Every end of a line is a newline. -/
def unifyBreaks (text : List α) : List α :=
  (joinReturns ret newline text).map fun item => if item = ret then newline else item

/-- A return or a newline. -/
def isBreak (item : α) : Bool := item = ret || item = newline

variable {ret newline}

theorem unifyBreaks_pair (rest : List α) (apart : ret ≠ newline) :
    unifyBreaks ret newline (ret :: newline :: rest) = newline :: unifyBreaks ret newline rest := by
  rw [unifyBreaks, joinReturns, if_pos ⟨rfl, rfl⟩, List.map_cons, if_neg (Ne.symm apart)]
  rfl

theorem unifyBreaks_cons {item : α} {rest : List α}
    (single : ¬(item = ret ∧ rest.head? = some newline)) :
    unifyBreaks ret newline (item :: rest) =
      (if item = ret then newline else item) :: unifyBreaks ret newline rest := by
  cases rest with
  | nil => rfl
  | cons next rest =>
    rw [unifyBreaks, joinReturns, if_neg fun both => single ⟨both.1, by rw [both.2]; rfl⟩,
      List.map_cons]
    rfl

omit [DecidableEq α] in
/-- The end of a line. -/
theorem splitOn_end {ends : α → Bool} {item : α} (isEnd : ends item = true) (rest line : List α) :
    List.splitOnPPrepend ends (item :: rest) line =
      line.reverse :: List.splitOnPPrepend ends rest [] :=
  List.splitOnPPrepend_cons_pos isEnd

/-- Where empty lines do not count, a text is cut at every return and every newline. -/
theorem filterMap_lines (apart : ret ≠ newline) {read : List α → Option β} (empty : read [] = none)
    (text line : List α) :
    (List.splitOnPPrepend (fun item => item = newline) (unifyBreaks ret newline text)
      line).filterMap read =
        (List.splitOnPPrepend (isBreak ret newline) text line).filterMap read := by
  have breaks : ∀ item, isBreak ret newline item = true ↔ item = ret ∨ item = newline := by
    intro item
    rw [isBreak, Bool.or_eq_true, decide_eq_true_iff, decide_eq_true_iff]
  -- one item that is no return with a newline after it
  have step : ∀ item rest, ¬(item = ret ∧ rest.head? = some newline) →
      (∀ line, (List.splitOnPPrepend (fun item => item = newline) (unifyBreaks ret newline rest)
        line).filterMap read =
          (List.splitOnPPrepend (isBreak ret newline) rest line).filterMap read) →
      ∀ line, (List.splitOnPPrepend (fun item => item = newline)
        (unifyBreaks ret newline (item :: rest)) line).filterMap read =
          (List.splitOnPPrepend (isBreak ret newline) (item :: rest) line).filterMap read := by
    intro item rest single later line
    rw [unifyBreaks_cons single]
    by_cases ends : item = ret ∨ item = newline
    · have unified : (if item = ret then newline else item) = newline := by
        split
        · rfl
        · exact ends.resolve_left ‹_›
      rw [unified, splitOn_end (by simp), splitOn_end ((breaks item).mpr ends), List.filterMap_cons,
        List.filterMap_cons, later]
    · rw [if_neg fun isReturn => ends (Or.inl isReturn),
        List.splitOnPPrepend_cons_neg (p := fun item => decide (item = newline))
          (decide_eq_false fun isNewline => ends (Or.inr isNewline)),
        List.splitOnPPrepend_cons_neg (p := isBreak ret newline)
          (Bool.eq_false_iff.mpr fun isEnd => ends ((breaks item).mp isEnd)), later]
  induction text using joinReturns.induct ret newline generalizing line with
  | case1 => rfl
  | case2 item => exact step item [] (by simp) (fun _ => rfl) line
  | case3 item next rest both inductionHypothesis =>
    obtain ⟨rfl, rfl⟩ := both
    rw [unifyBreaks_pair rest apart, splitOn_end (by simp),
      splitOn_end ((breaks item).mpr (Or.inl rfl)), splitOn_end ((breaks next).mpr (Or.inr rfl)),
      List.filterMap_cons, List.filterMap_cons, List.filterMap_cons, List.reverse_nil, empty,
      inductionHypothesis]
  | case4 item next rest single inductionHypothesis =>
    exact step item (next :: rest) (by simpa using single) inductionHypothesis line

/-- A text is cut first where its first line ends. -/
theorem splitOnP_eq {α : Type*} (ends : α → Bool) (text : List α) :
    text.splitOnP ends =
      text.takeWhile (fun item => !ends item) :: (text.splitOnP ends).tail := by
  induction text with
  | nil => rfl
  | cons item rest inductionHypothesis =>
    rw [List.splitOnP_cons_eq_if_modifyHead]
    by_cases isEnd : ends item = true
    · rw [if_pos isEnd, List.takeWhile_cons_of_neg (by rw [isEnd]; decide), List.tail_cons]
    · rw [if_neg isEnd, List.takeWhile_cons_of_pos (by rw [Bool.eq_false_iff.mpr isEnd]; rfl),
        inductionHypothesis]
      rfl

/-- What stands before the first end of a line belongs to the first line. -/
theorem splitOnP_append {α : Type*} {ends : α → Bool} {start : List α}
    (noEnd : ∀ item ∈ start, ends item = false) (text : List α) :
    (start ++ text).splitOnP ends =
      (start ++ text.takeWhile fun item => !ends item) :: (text.splitOnP ends).tail := by
  induction start with
  | nil => exact splitOnP_eq ends text
  | cons item start inductionHypothesis =>
    rw [List.cons_append, List.splitOnP_cons_eq_if_modifyHead,
      if_neg (by rw [noEnd item List.mem_cons_self]; decide),
      inductionHypothesis fun other member => noEnd other (List.mem_cons_of_mem _ member)]
    rfl

/-- Texts that each end a line are cut one by one. -/
theorem splitOnP_flatMap {α γ : Type*} {ends : α → Bool} {mark : α} (isEnd : ends mark = true)
    (write : γ → List α) (items : List γ) :
    (items.flatMap fun item => write item ++ [mark]).splitOnP ends =
      (items.flatMap fun item => (write item).splitOnP ends) ++ [[]] := by
  induction items with
  | nil => rfl
  | cons item items inductionHypothesis =>
    rw [List.flatMap_cons, List.flatMap_cons, List.append_assoc, List.singleton_append,
      List.splitOnP_append_cons _ _ isEnd, inductionHypothesis, List.append_assoc]

end Lines

/-! ### Lists written one after another -/

/-- Where no item is written shorter than it should be, the whole is right only if each item is. -/
theorem flatMap_eq_flatMap_iff {γ δ : Type*} {write wanted : γ → List δ} {items : List γ}
    (enough : ∀ item ∈ items, (wanted item).length ≤ (write item).length) :
    items.flatMap write = items.flatMap wanted ↔ ∀ item ∈ items, write item = wanted item := by
  have total : ∀ items : List γ, (∀ item ∈ items, (wanted item).length ≤ (write item).length) →
      (items.flatMap wanted).length ≤ (items.flatMap write).length := by
    intro items enough
    induction items with
    | nil => exact le_rfl
    | cons item items inductionHypothesis =>
      rw [List.flatMap_cons, List.flatMap_cons, List.length_append, List.length_append]
      have here := enough item List.mem_cons_self
      have later := inductionHypothesis fun other member =>
        enough other (List.mem_cons_of_mem item member)
      omega
  induction items with
  | nil => exact iff_of_true rfl fun item member => absurd member List.not_mem_nil
  | cons item items inductionHypothesis =>
    have here := enough item List.mem_cons_self
    have others : ∀ other ∈ items, (wanted other).length ≤ (write other).length :=
      fun other member => enough other (List.mem_cons_of_mem item member)
    have later := total items others
    rw [List.flatMap_cons, List.flatMap_cons, List.forall_mem_cons]
    constructor
    · intro same
      have lengths := congrArg List.length same
      rw [List.length_append, List.length_append] at lengths
      obtain ⟨first, rest⟩ := List.append_inj same (by omega)
      exact ⟨first, (inductionHypothesis others).mp rest⟩
    · rintro ⟨first, rest⟩
      rw [first, (inductionHypothesis others).mpr rest]

/-! ### Fields -/

section Fields

variable {α : Type*} [DecidableEq α] (quote delimiter : α)

/-- The fields of a line, from inside or outside quotation marks on and with what has been read of
the field so far. -/
@[grind =]
def scanFields : Bool → List α → List α → List (List α)
  | _, field, [] => [field]
  | true, field, [item] => if item = quote then [field] else [field ++ [item]]
  | true, field, item :: next :: rest =>
    if item = quote then
      if next = quote then scanFields true (field ++ [quote]) rest
      else scanFields false field (next :: rest)
    else scanFields true (field ++ [item]) (next :: rest)
  | false, field, item :: rest =>
    if item = quote then scanFields true field rest
    else if item = delimiter then field :: scanFields false [] rest
    else scanFields false (field ++ [item]) rest

/-- The quotation marks doubled. -/
def doubleQuotes (field : List α) : List α :=
  field.flatMap fun item => if item = quote then [quote, quote] else [item]

/-- A field with special items is put in quotation marks. -/
def escapeField (special : α → Bool) (field : List α) : List α :=
  if field.any special then quote :: (doubleQuotes quote field ++ [quote]) else field

variable {quote delimiter}

theorem doubleQuotes_cons (item : α) (field : List α) :
    doubleQuotes quote (item :: field) =
      (if item = quote then [quote, quote] else [item]) ++ doubleQuotes quote field := rfl

theorem scanFields_ordinary {item : α} (notQuote : item ≠ quote) (field rest : List α) :
    scanFields quote delimiter true field (item :: rest) =
      scanFields quote delimiter true (field ++ [item]) rest := by
  cases rest with
  | nil =>
    show (if item = quote then [field] else [field ++ [item]]) = [field ++ [item]]
    exact if_neg notQuote
  | cons next rest => rw [scanFields, if_neg notQuote]

/-- What stands in quotation marks is read with its marks undoubled. -/
theorem scanFields_doubleQuotes (read field rest : List α) :
    scanFields quote delimiter true read (doubleQuotes quote field ++ rest) =
      scanFields quote delimiter true (read ++ field) rest := by
  induction field generalizing read with
  | nil => rw [List.append_nil]; rfl
  | cons item field inductionHypothesis =>
    rw [doubleQuotes_cons, List.append_assoc]
    by_cases isQuote : item = quote
    · rw [if_pos isQuote, List.cons_append, List.cons_append, List.nil_append, scanFields,
        if_pos rfl, if_pos rfl, inductionHypothesis, isQuote, List.append_assoc,
        List.singleton_append]
    · rw [if_neg isQuote, List.singleton_append, scanFields_ordinary isQuote, inductionHypothesis,
        List.append_assoc, List.singleton_append]

/-- The closing mark. -/
theorem scanFields_close {rest : List α} (closes : rest.head? ≠ some quote) (field : List α) :
    scanFields quote delimiter true field (quote :: rest) =
      scanFields quote delimiter false field rest := by
  cases rest with
  | nil =>
    show (if quote = quote then [field] else [field ++ [quote]]) = [field]
    exact if_pos rfl
  | cons next rest =>
    rw [scanFields, if_pos rfl, if_neg]
    rintro rfl
    exact closes rfl

/-- A field without special items is read as it stands. -/
theorem scanFields_plain {field : List α} (ordinary : ∀ item ∈ field, item ≠ quote ∧ item ≠ delimiter)
    (read rest : List α) :
    scanFields quote delimiter false read (field ++ rest) =
      scanFields quote delimiter false (read ++ field) rest := by
  induction field generalizing read with
  | nil => rw [List.append_nil]; rfl
  | cons item field inductionHypothesis =>
    obtain ⟨notQuote, notDelimiter⟩ := ordinary item List.mem_cons_self
    rw [List.cons_append, scanFields, if_neg notQuote, if_neg notDelimiter,
      inductionHypothesis fun other member => ordinary other (List.mem_cons_of_mem _ member),
      List.append_assoc, List.singleton_append]

theorem scanFields_delimiter (apart : delimiter ≠ quote) (field rest : List α) :
    scanFields quote delimiter false field (delimiter :: rest) =
      field :: scanFields quote delimiter false [] rest := by
  rw [scanFields, if_neg apart, if_pos rfl]

/-- An escaped field is read back. -/
theorem scanFields_escapeField {special : α → Bool} (quoteSpecial : special quote = true)
    (delimiterSpecial : special delimiter = true) (field : List α) {rest : List α}
    (closes : rest.head? ≠ some quote) :
    scanFields quote delimiter false [] (escapeField quote special field ++ rest) =
      scanFields quote delimiter false field rest := by
  unfold escapeField
  by_cases marked : field.any special = true
  · rw [if_pos marked, List.cons_append, scanFields, if_pos rfl, List.append_assoc,
      scanFields_doubleQuotes, List.nil_append, List.singleton_append, scanFields_close closes]
  · rw [if_neg marked, scanFields_plain, List.nil_append]
    intro item member
    refine ⟨?_, ?_⟩
    · rintro rfl
      exact marked (List.any_eq_true.mpr ⟨item, member, quoteSpecial⟩)
    · rintro rfl
      exact marked (List.any_eq_true.mpr ⟨item, member, delimiterSpecial⟩)

/-- A field in quotation marks that is cut off is read up to the cut. -/
theorem scanFields_cut (field : List α) :
    scanFields quote delimiter false [] (quote :: doubleQuotes quote field) = [field] := by
  have whole : scanFields quote delimiter true [] (doubleQuotes quote field ++ []) = _ :=
    scanFields_doubleQuotes [] field []
  rw [List.append_nil, List.nil_append] at whole
  rw [scanFields, if_pos rfl, whole]
  cases field <;> rfl

omit [DecidableEq α] in
theorem takeWhile_inside {ends : α → Bool} {item : α} (inside : ends item = false) (rest : List α) :
    (item :: rest).takeWhile (fun item => !ends item) =
      item :: rest.takeWhile fun item => !ends item :=
  List.takeWhile_cons_of_pos (by rw [inside]; rfl)

/-- The first line of a field with doubled marks. -/
theorem takeWhile_doubleQuotes {ends : α → Bool} (quoteInside : ends quote = false)
    {field : List α} (broken : field.any ends = true) (rest : List α) :
    (doubleQuotes quote field ++ rest).takeWhile (fun item => !ends item) =
      doubleQuotes quote (field.takeWhile fun item => !ends item) := by
  induction field with
  | nil => cases broken
  | cons item field inductionHypothesis =>
    rw [doubleQuotes_cons]
    by_cases isEnd : ends item = true
    · have notQuote : item ≠ quote := by
        rintro rfl
        rw [isEnd] at quoteInside
        cases quoteInside
      rw [if_neg notQuote, List.singleton_append, List.cons_append,
        List.takeWhile_cons_of_neg (by rw [isEnd]; decide),
        List.takeWhile_cons_of_neg (by rw [isEnd]; decide)]
      rfl
    · have inside := Bool.eq_false_iff.mpr isEnd
      have later : field.any ends = true := by
        rw [List.any_cons, Bool.or_eq_true] at broken
        exact broken.resolve_left isEnd
      rw [takeWhile_inside inside, doubleQuotes_cons, ← inductionHypothesis later]
      by_cases isQuote : item = quote
      · rw [if_pos isQuote]
        simp only [List.cons_append, List.nil_append]
        rw [takeWhile_inside quoteInside, takeWhile_inside quoteInside]
      · rw [if_neg isQuote]
        simp only [List.cons_append, List.nil_append]
        rw [takeWhile_inside inside]

/-- The first line of a field that goes over several, with what follows the field out of sight. -/
theorem takeWhile_escapeField {ends special : α → Bool} (quoteInside : ends quote = false)
    (endsSpecial : ∀ item, ends item = true → special item = true) {field : List α}
    (broken : field.any ends = true) (rest : List α) :
    (escapeField quote special field ++ rest).takeWhile (fun item => !ends item) =
      quote :: doubleQuotes quote (field.takeWhile fun item => !ends item) := by
  have marked : field.any special = true := by
    obtain ⟨item, member, isEnd⟩ := List.any_eq_true.mp broken
    exact List.any_eq_true.mpr ⟨item, member, endsSpecial item isEnd⟩
  rw [escapeField, if_pos marked, List.cons_append, List.append_assoc,
    takeWhile_inside quoteInside, takeWhile_doubleQuotes quoteInside broken]

/-- A field on one line is passed whole. -/
theorem escapeField_noEnd {ends special : α → Bool} (quoteInside : ends quote = false)
    {field : List α} (whole : field.any ends = false) :
    ∀ item ∈ escapeField quote special field, ends item = false := by
  have inside : ∀ item ∈ field, ends item = false := fun item member =>
    Bool.eq_false_iff.mpr fun isEnd =>
      Bool.false_ne_true (whole.symm.trans (List.any_eq_true.mpr ⟨item, member, isEnd⟩))
  have doubled : ∀ item ∈ doubleQuotes quote field, ends item = false := by
    intro item member
    obtain ⟨original, originalMember, from'⟩ := List.mem_flatMap.mp member
    split at from'
    · rcases List.mem_cons.mp from' with rfl | again
      · exact quoteInside
      · rw [List.mem_singleton.mp again]
        exact quoteInside
    · rw [List.mem_singleton.mp from']
      exact inside original originalMember
  intro item member
  unfold escapeField at member
  split at member
  · rcases List.mem_cons.mp member with rfl | later
    · exact quoteInside
    · rcases List.mem_append.mp later with inField | closing
      · exact doubled item inField
      · rw [List.mem_singleton.mp closing]
        exact quoteInside
  · exact inside item member

/-- Ordinary items belong to the field. -/
theorem scanFields_rest {items : List α} (ordinary : ∀ item ∈ items, item ≠ quote ∧ item ≠ delimiter)
    (quoted : Bool) (field : List α) :
    scanFields quote delimiter quoted field items = [field ++ items] := by
  induction items generalizing field with
  | nil => cases quoted <;> simp [scanFields]
  | cons item items inductionHypothesis =>
    obtain ⟨notQuote, notDelimiter⟩ := ordinary item List.mem_cons_self
    have rest := inductionHypothesis
      (fun other member => ordinary other (List.mem_cons_of_mem _ member)) (field ++ [item])
    rw [List.append_assoc, List.singleton_append] at rest
    cases quoted with
    | true => rw [scanFields_ordinary notQuote, rest]
    | false => rw [scanFields, if_neg notQuote, if_neg notDelimiter, rest]

variable (quote delimiter) in
/-- Ordinary items at the end of a line belong to its last field. -/
theorem exists_last_field {items : List α} (ordinary : ∀ item ∈ items, item ≠ quote ∧ item ≠ delimiter)
    (quoted : Bool) (field line : List α) :
    ∃ fields last, scanFields quote delimiter quoted field line = fields ++ [last] ∧
      scanFields quote delimiter quoted field (line ++ items) = fields ++ [last ++ items] := by
  have sharp : items.head? ≠ some quote := fun first =>
    (ordinary quote (List.mem_of_mem_head? first)).1 rfl
  induction quoted, field, line using scanFields.induct quote delimiter with
  | case1 quoted field =>
    exact ⟨[], field, by simp [scanFields], scanFields_rest ordinary quoted field⟩
  | case2 field =>
    refine ⟨[], field, ?_, ?_⟩
    · exact if_pos rfl
    · rw [List.singleton_append, scanFields_close sharp, scanFields_rest ordinary]
      rfl
  | case3 field item notQuote =>
    refine ⟨[], field ++ [item], ?_, ?_⟩
    · exact if_neg notQuote
    · rw [List.singleton_append, scanFields_ordinary notQuote, scanFields_rest ordinary]
      rfl
  | case4 field rest inductionHypothesis =>
    obtain ⟨fields, last, short, long⟩ := inductionHypothesis
    refine ⟨fields, last, ?_, ?_⟩
    · rw [scanFields, if_pos rfl, if_pos rfl, short]
    · rw [List.cons_append, List.cons_append, scanFields, if_pos rfl, if_pos rfl, long]
  | case5 field next rest notNext inductionHypothesis =>
    obtain ⟨fields, last, short, long⟩ := inductionHypothesis
    refine ⟨fields, last, ?_, ?_⟩
    · rw [scanFields, if_pos rfl, if_neg notNext, short]
    · rw [List.cons_append, List.cons_append, scanFields, if_pos rfl, if_neg notNext,
        ← List.cons_append, long]
  | case6 field item next rest notQuote inductionHypothesis =>
    obtain ⟨fields, last, short, long⟩ := inductionHypothesis
    refine ⟨fields, last, ?_, ?_⟩
    · rw [scanFields_ordinary notQuote, short]
    · rw [List.cons_append, scanFields_ordinary notQuote, long]
  | case7 field rest inductionHypothesis =>
    obtain ⟨fields, last, short, long⟩ := inductionHypothesis
    refine ⟨fields, last, ?_, ?_⟩
    · rw [scanFields, if_pos rfl, short]
    · rw [List.cons_append, scanFields, if_pos rfl, long]
  | case8 field rest notQuote inductionHypothesis =>
    obtain ⟨fields, last, short, long⟩ := inductionHypothesis
    refine ⟨field :: fields, last, ?_, ?_⟩
    · rw [scanFields, if_neg notQuote, if_pos rfl, short, List.cons_append]
    · rw [List.cons_append, scanFields, if_neg notQuote, if_pos rfl, long,
        List.cons_append]
  | case9 field item rest notQuote notDelimiter inductionHypothesis =>
    obtain ⟨fields, last, short, long⟩ := inductionHypothesis
    refine ⟨fields, last, ?_, ?_⟩
    · rw [scanFields, if_neg notQuote, if_neg notDelimiter, short]
    · rw [List.cons_append, scanFields, if_neg notQuote, if_neg notDelimiter, long]

end Fields

end DelimitedText
