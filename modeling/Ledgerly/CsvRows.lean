/-
This file settles when a row of an export is read back, by itself.

The export is cut into lines before its quotation marks are read, so a text with a line break goes
on in a line of its own. The first line of an income, an expense or an adjustment gives a draft; a
later line gives one if it happens to read as a bill.
-/

import Ledgerly.CsvColumns

namespace Ledgerly.Csv

open DelimitedText

/-- What Dart promises of a text that is in lower case already. -/
class LowersAscii [DartText] : Prop where
  toLowerCase_eq : ∀ text : String, (∀ character ∈ text.toList, character.isLower = true) →
    DartText.toLowerCase text = text

/-! ### The texts of a row -/

namespace TransactionSummary

variable (tx : TransactionSummary)

/-- The category of the row, -/
def categoryText : String := tx.categoryName.getD ""

/-- The account of the row, -/
def accountText : String := tx.accountName.getD ""

/-- and its description. -/
def descriptionText : String := tx.description.getD ""

/-- What follows, in which alone a line may break. -/
def texts : List Char :=
  csvEscape tx.categoryText ++ ',' :: (csvEscape tx.accountText ++ ',' :: csvEscape tx.descriptionText)

/-- The lines of a row after its first. -/
def laterLines : List String :=
  (tx.texts.splitOnP (isBreak '\r' '\n')).tail.filterMap trimLine

/-- The category that is read, off the first line. -/
def categoryRead : String :=
  dartTrim (String.ofList (upToBreak tx.categoryText))

/-- The description that is read, off the first line: none if the row has not come to it there. -/
def descriptionRead : String :=
  if hasBreak tx.categoryText || hasBreak tx.accountText then ""
  else dartTrim (String.ofList (upToBreak tx.descriptionText))

end TransactionSummary

/-- The columns of the texts on the first line. -/
theorem scanFields_texts (tx : TransactionSummary) :
    scanFields '"' ',' false [] (tx.texts.takeWhile fun character => !isBreak '\r' '\n' character) =
      upToBreak tx.categoryText :: if hasBreak tx.categoryText then []
        else upToBreak tx.accountText :: if hasBreak tx.accountText then []
          else [upToBreak tx.descriptionText] := by
  rw [TransactionSummary.texts, scanFields_text, scanFields_text, scanFields_lastText]

/-- A category is read as it is exactly if it has no line break and no blanks at its ends. -/
theorem categoryRead_eq_iff (tx : TransactionSummary) :
    tx.categoryRead = tx.categoryText ↔
      hasBreak tx.categoryText = false ∧ dartTrim tx.categoryText = tx.categoryText := by
  unfold TransactionSummary.categoryRead
  constructor
  · intro same
    have whole : hasBreak tx.categoryText = false := by
      rw [hasBreak, List.any_eq_false]
      intro character member
      rw [← same, dartTrim_ofList, String.toList_ofList] at member
      have inside := List.mem_takeWhile_imp (mem_of_mem_strip member)
      rw [Bool.not_eq_true'] at inside
      rw [inside]
      exact Bool.false_ne_true
    rw [upToBreak_of_whole whole, String.ofList_toList] at same
    exact ⟨whole, same⟩
  · rintro ⟨whole, trimmed⟩
    rw [upToBreak_of_whole whole, String.ofList_toList, trimmed]

/-- Nothing is read of a blank description. -/
theorem descriptionRead_of_blank {tx : TransactionSummary} (blank : dartTrim tx.descriptionText = "") :
    tx.descriptionRead = "" := by
  unfold TransactionSummary.descriptionRead
  split
  · rfl
  · rw [dartTrim_eq_empty_iff, String.toList_ofList]
    exact fun character member => dartTrim_eq_empty_iff.mp blank character
      ((List.takeWhile_sublist _).subset member)

/-- What the description of a draft falls back to. -/
def draftDescription (description category : String) : String :=
  if description ≠ "" then description else category

theorem find?_description (description category : String) :
    ([description, "", category].find? fun value => value ≠ "").getD "" =
      draftDescription description category := by
  unfold draftDescription
  by_cases blank : description = ""
  · rw [if_neg fun filled => filled blank, blank]
    by_cases blankCategory : category = "" <;> simp [blankCategory]
  · simp [blank]

/-- The description of a draft is that of the row, with the category as it is. -/
theorem draftDescription_eq_iff (tx : TransactionSummary) :
    draftDescription tx.descriptionRead tx.categoryText =
        draftDescription (dartTrim tx.descriptionText) tx.categoryText ↔
      tx.descriptionRead = dartTrim tx.descriptionText ∨
        tx.descriptionRead = "" ∧ dartTrim tx.descriptionText = tx.categoryText := by
  unfold draftDescription
  by_cases blank : dartTrim tx.descriptionText = ""
  · have nothing := descriptionRead_of_blank blank
    rw [nothing, blank]
    exact iff_of_true rfl (Or.inl rfl)
  · rw [if_pos blank]
    by_cases unread : tx.descriptionRead = ""
    · rw [if_neg fun filled => filled unread, unread]
      constructor
      · exact fun same => Or.inr ⟨rfl, same.symm⟩
      · rintro (same | ⟨-, same⟩)
        · exact absurd same.symm blank
        · exact same.symm
    · rw [if_pos unread]
      exact ⟨Or.inl, fun either => either.resolve_right fun both => unread both.1⟩

theorem optional_eq_iff {first second : String} :
    ((if first = "" then none else some first) = if second = "" then none else some second) ↔
      first = second := by
  by_cases blank : first = ""
  · by_cases other : second = ""
    · simp [blank, other]
    · simp [blank, other, Ne.symm other]
  · by_cases other : second = ""
    · simp [blank, other]
    · simp [blank, other]

/-- A draft with the content an income or an expense should have. -/
theorem content_eq_iff {tx : TransactionSummary} {read : Int} {description category : String}
    (small : tx.amountMinor < 100000 →
      read = tx.amountMinor ∧ description = tx.descriptionRead ∧ category = tx.categoryRead)
    (large : 100000 ≤ tx.amountMinor → read < tx.amountMinor) :
    (read = tx.amountMinor ∧
        draftDescription description category =
          draftDescription (dartTrim tx.descriptionText) tx.categoryText ∧
        (if category = "" then none else some category) =
          if tx.categoryText = "" then none else some tx.categoryText) ↔
      tx.amountMinor < 100000 ∧
        (hasBreak tx.categoryText = false ∧ dartTrim tx.categoryText = tx.categoryText) ∧
        (tx.descriptionRead = dartTrim tx.descriptionText ∨
          tx.descriptionRead = "" ∧ dartTrim tx.descriptionText = tx.categoryText) := by
  rw [← categoryRead_eq_iff, ← draftDescription_eq_iff, optional_eq_iff]
  constructor
  · rintro ⟨sameAmount, sameDescription, sameCategory⟩
    have isSmall : tx.amountMinor < 100000 := by
      by_contra isLarge
      have less := large (not_lt.mp isLarge)
      omega
    obtain ⟨-, isDescription, isCategory⟩ := small isSmall
    rw [isCategory] at sameCategory
    rw [isCategory, sameCategory, isDescription] at sameDescription
    exact ⟨isSmall, sameCategory, sameDescription⟩
  · rintro ⟨isSmall, sameCategory, sameDescription⟩
    obtain ⟨sameAmount, isDescription, isCategory⟩ := small isSmall
    rw [isCategory, isDescription, sameCategory]
    exact ⟨sameAmount, sameDescription, rfl⟩

/-! ### The columns of an export -/

/-- Where an export has the columns of a bill. -/
def exportHeader : HeaderKey → Option Nat
  | .date => some 0
  | .direction => some 1
  | .amount => some 2
  | .category => some 3
  | .description => some 5
  | .counterparty | .status => none

/-- The kind a draft of a row has. -/
def importedKind : TransactionSummaryKind → Option TransactionSummaryKind
  | .expense => some .expense
  | .income => some .income
  | .transfer => none
  | .adjustment => some .income

theorem csvKindLabel_lower (kind : TransactionSummaryKind) :
    ∀ character ∈ (csvKindLabel kind).toList, character.isLower = true := by
  rw [← List.all_eq_true]
  cases kind <;> decide

theorem csvKindLabel_plain (kind : TransactionSummaryKind) :
    ∀ character ∈ (csvKindLabel kind).toList, isSpecial character = false := by
  intro character member
  have lower := csvKindLabel_lower kind character member
  refine Bool.eq_false_iff.mpr fun special => ?_
  simp only [isSpecial, Bool.or_eq_true, decide_eq_true_iff] at special
  rcases special with ((rfl | rfl) | rfl) | rfl <;> exact absurd lower (by decide)

theorem parseImportKind_label [DartText] [LowersAscii] (kind : TransactionSummaryKind) {amount : Int}
    (positive : 0 < amount) : parseImportKind (csvKindLabel kind) amount = importedKind kind := by
  have lower : DartText.toLowerCase (csvKindLabel kind) = csvKindLabel kind :=
    LowersAscii.toLowerCase_eq _ (csvKindLabel_lower kind)
  have trimmed : dartTrim (csvKindLabel kind) = csvKindLabel kind := by
    cases kind <;> decide
  unfold parseImportKind
  simp only [trimmed, lower, if_neg (not_lt.mpr (le_of_lt positive)), if_pos positive]
  cases kind <;> decide +kernel

/-! ### The first line of a row -/

section Rows

variable [LocalZone]

/-- What a row begins with. -/
def TransactionSummary.figures (tx : TransactionSummary) : List Char :=
  localIso8601String (LocalZone.toLocal tx.occurredAt) ++ ',' ::
    ((csvKindLabel tx.kind).toList ++ ',' :: (formatDisplayMinor tx.amountMinor false ++ [',']))

theorem csvRow_eq (tx : TransactionSummary) : csvRow none tx = tx.figures ++ tx.texts := by
  simp only [csvRow, TransactionSummary.figures, TransactionSummary.texts, List.intercalate,
    List.intersperse, List.flatten_cons, List.flatten_nil, List.append_nil, List.append_assoc,
    List.cons_append, List.nil_append]
  rfl

/-- No line breaks before the texts. -/
theorem figures_noBreak (tx : TransactionSummary) :
    ∀ character ∈ tx.figures, isBreak '\r' '\n' character = false := by
  have ofFigure : ∀ character, isFigure character = true → isBreak '\r' '\n' character = false :=
    fun character figure => isBreak_eq_false (isFigure_spec figure).2.1
  intro character member
  rcases List.mem_append.mp member with date | later
  · exact ofFigure _ (localIso8601String_figures _ character date)
  · rcases List.mem_cons.mp later with rfl | later
    · rfl
    · rcases List.mem_append.mp later with label | later
      · exact isBreak_eq_false (csvKindLabel_plain _ character label)
      · rcases List.mem_cons.mp later with rfl | later
        · rfl
        · rcases List.mem_append.mp later with amount | comma
          · rcases mem_formatDisplayMinor amount with figure | rfl
            · exact ofFigure _ figure
            · rfl
          · rw [List.mem_singleton.mp comma]
            rfl

/-- The first line of a row, before its blanks are trimmed. -/
def firstLine (tx : TransactionSummary) : List Char :=
  tx.figures ++ tx.texts.takeWhile fun character => !isBreak '\r' '\n' character

/-- A row is cut into its first line, and the others. -/
theorem splitOnP_csvRow (tx : TransactionSummary) :
    (csvRow none tx).splitOnP (isBreak '\r' '\n') =
      firstLine tx :: (tx.texts.splitOnP (isBreak '\r' '\n')).tail := by
  rw [csvRow_eq, splitOnP_append (figures_noBreak tx), firstLine]

/-- The first line begins with a figure. -/
theorem firstLine_sharp (tx : TransactionSummary) :
    ∃ first rest, firstLine tx = first :: rest ∧ isFigure first = true := by
  cases date : localIso8601String (LocalZone.toLocal tx.occurredAt) with
  | nil =>
    have hasTime : 'T' ∈ localIso8601String (LocalZone.toLocal tx.occurredAt) := by
      simp [localIso8601String, secondText]
    rw [date] at hasTime
    cases hasTime
  | cons first rest =>
    obtain ⟨others, line⟩ : ∃ others, firstLine tx = first :: others := by
      rw [firstLine, TransactionSummary.figures, date, List.cons_append, List.cons_append]
      exact ⟨_, rfl⟩
    refine ⟨first, others, line, localIso8601String_figures (LocalZone.toLocal tx.occurredAt) _ ?_⟩
    rw [date]
    exact List.mem_cons_self

/-- The lines of a row of the export. -/
def csvLines (tx : TransactionSummary) : List String :=
  ((csvRow none tx).splitOnP (isBreak '\r' '\n')).filterMap trimLine

/-- The lines of a row are its first one and the later ones. -/
theorem csvLines_eq (tx : TransactionSummary) :
    csvLines tx = dartTrim (String.ofList (firstLine tx)) :: tx.laterLines := by
  obtain ⟨first, rest, line, figure⟩ := firstLine_sharp tx
  have nonempty : dartTrim (String.ofList (firstLine tx)) ≠ "" := by
    intro empty
    obtain ⟨blanks, areBlank, split⟩ := exists_blanks_of_sharp (isFigure_spec figure).1
    have nothing := String.ofList_eq_empty_iff.mp ((dartTrim_ofList _).symm.trans empty)
    rw [line] at nothing
    rw [nothing, List.nil_append] at split
    have blank := areBlank first (by rw [← split]; exact List.mem_cons_self)
    rw [(isFigure_spec figure).1] at blank
    cases blank
  rw [csvLines, splitOnP_csvRow, List.filterMap_cons, trimLine, if_neg nonempty]
  rfl

/-- The columns of the first line up to the amount. -/
theorem scanFields_figures (tx : TransactionSummary) (rest : List Char) :
    scanFields '"' ',' false [] (tx.figures ++ rest) =
      localIso8601String (LocalZone.toLocal tx.occurredAt) :: (csvKindLabel tx.kind).toList ::
        scanFields '"' ',' false [] (formatDisplayMinor tx.amountMinor false ++ ',' :: rest) := by
  have label : ∀ character ∈ (csvKindLabel tx.kind).toList, character ≠ '"' ∧ character ≠ ',' :=
    fun character member => ordinary_of_isSpecial (csvKindLabel_plain tx.kind character member)
  rw [TransactionSummary.figures, List.append_assoc, List.cons_append,
    scanFields_plain fun character member =>
      figure_ordinary (localIso8601String_figures _ character member),
    List.nil_append, scanFields_delimiter (by decide), List.append_assoc, List.cons_append,
    scanFields_plain label, List.nil_append, scanFields_delimiter (by decide), List.append_assoc,
    List.singleton_append]

/-- The draft of the first line of a row. Its amount and its texts are those of the row if the amount
is below a thousand yuan; above, its amount is too small. -/
theorem exists_draft [DartText] [LowersAscii] {tx : TransactionSummary}
    (positive : 0 < tx.amountMinor) :
    ∃ again read description category,
      readLine ',' exportHeader (dartTrim (String.ofList (firstLine tx))) =
          (importedKind tx.kind).map (fun kind =>
            { occurredAt := again, kind := kind, amountMinor := read,
              description := draftDescription description category,
              rawCategory := if category = "" then none else some category,
              counterparty := none, selected := true, duplicate := false }) ∧
        LocalZone.toLocal again = LocalZone.toLocal tx.occurredAt ∧
        (tx.amountMinor < 100000 →
          read = tx.amountMinor ∧ description = tx.descriptionRead ∧ category = tx.categoryRead) ∧
        (100000 ≤ tx.amountMinor → read < tx.amountMinor) := by
  obtain ⟨again, reads, sameTime⟩ := LocalZone.ofLocal_toLocal tx.occurredAt
  obtain ⟨column, others, read, scanned, figures, readsAmount, readPositive, small, large⟩ :=
    exists_amountColumn positive (tx.texts.takeWhile fun character => !isBreak '\r' '\n' character)
  obtain ⟨first, rest, line, figure⟩ := firstLine_sharp tx
  have date : dartTrim (String.ofList (localIso8601String (LocalZone.toLocal tx.occurredAt))) =
      String.ofList (localIso8601String (LocalZone.toLocal tx.occurredAt)) := by
    rw [dartTrim_ofList, strip_figures (localIso8601String_figures _)]
  have amount : dartTrim (String.ofList column) = String.ofList column := by
    rw [dartTrim_ofList, strip_figures figures]
  have label : dartTrim (String.ofList (csvKindLabel tx.kind).toList) = csvKindLabel tx.kind := by
    cases tx.kind <;> decide
  have cols : splitCsvLine (dartTrim (String.ofList (firstLine tx))) ',' =
      String.ofList (localIso8601String (LocalZone.toLocal tx.occurredAt)) :: csvKindLabel tx.kind ::
        String.ofList column :: others.map fun field => dartTrim (String.ofList field) := by
    rw [line, splitCsvLine_dartTrim (isFigure_spec figure).1, ← line, firstLine,
      scanFields_figures, scanned, List.map_cons, List.map_cons, List.map_cons, date, amount, label]
  have noStatus : isSkippedImportStatus "" = false := by
    have lower : DartText.toLowerCase "" = "" :=
      LowersAscii.toLowerCase_eq "" (List.all_eq_true.mp rfl)
    have trimmed : dartTrim "" = "" := by decide
    simp only [isSkippedImportStatus, trimmed, lower, if_true]
  have filled : ¬((String.ofList (localIso8601String (LocalZone.toLocal tx.occurredAt)) ::
      csvKindLabel tx.kind :: String.ofList column ::
        others.map fun field => dartTrim (String.ofList field)).all fun col => col = "") = true := by
    have named : csvKindLabel tx.kind ≠ "" := by
      cases tx.kind <;> decide
    intro all
    exact named (of_decide_eq_true (List.all_eq_true.mp all (csvKindLabel tx.kind)
      (List.mem_cons_of_mem _ List.mem_cons_self)))
  have whole : (read.natAbs : Int) = read := by omega
  refine ⟨again, read, (others.map fun field => dartTrim (String.ofList field))[2]?.getD "",
    (others.map fun field => dartTrim (String.ofList field))[0]?.getD "", ?_, sameTime, ?_, large⟩
  · unfold readLine
    simp only [cols, exportHeader, Option.bind_none, Option.bind_some, Option.getD_none,
      List.getElem?_cons_zero, List.getElem?_cons_succ, Option.getD_some, noStatus]
    rw [if_neg filled, if_neg Bool.false_ne_true, readsAmount]
    simp only [Option.bind_eq_bind, Option.bind_some, whole, parseImportKind_label _ readPositive,
      parseImportDate_localIso8601String, reads, find?_description]
    cases importedKind tx.kind <;> rfl
  · intro isSmall
    obtain ⟨same, texts⟩ := small isSmall
    rw [texts, scanFields_texts]
    refine ⟨same, ?_, rfl⟩
    rw [TransactionSummary.descriptionRead]
    cases hasBreak tx.categoryText with
    | true => rfl
    | false => cases hasBreak tx.accountText <;> rfl

/-! ### The drafts of a row -/

/-- What a draft says, with its date as a local time. -/
structure DraftContent where
  time : Int
  kind : TransactionSummaryKind
  amountMinor : Int
  description : String
  rawCategory : Option String
  deriving DecidableEq

/-- What a draft says, with the time that the clock of the device shows. -/
def ImportDraft.content (draft : ImportDraft) : DraftContent :=
  ⟨LocalZone.toLocal draft.occurredAt, draft.kind, draft.amountMinor, draft.description,
    draft.rawCategory⟩

/-- What an income or an expense should be read back as: with its description, or its category where
it has none. -/
def TransactionSummary.wanted (tx : TransactionSummary) : List DraftContent :=
  match tx.kind with
  | .expense | .income =>
    [⟨LocalZone.toLocal tx.occurredAt, tx.kind, tx.amountMinor,
      draftDescription (dartTrim tx.descriptionText) tx.categoryText,
      if tx.categoryText = "" then none else some tx.categoryText⟩]
  | .transfer | .adjustment => []

/-- When a row is read back: it is no adjustment, none of its later lines reads as a bill, and unless
it is a transfer, its amount is below a thousand yuan, its category has no line break and no blanks
at its ends, and its description is read as it is. -/
structure ReadsBack [DartText] (tx : TransactionSummary) : Prop where
  notAdjusted : tx.kind ≠ .adjustment
  later : ∀ line ∈ tx.laterLines, readLine ',' exportHeader line = none
  small : tx.kind ≠ .transfer → tx.amountMinor < 100000
  category : tx.kind ≠ .transfer →
    hasBreak tx.categoryText = false ∧ dartTrim tx.categoryText = tx.categoryText
  description : tx.kind ≠ .transfer →
    tx.descriptionRead = dartTrim tx.descriptionText ∨
      tx.descriptionRead = "" ∧ dartTrim tx.descriptionText = tx.categoryText

section Drafts

variable [DartText]

/-- The drafts of a row. -/
def rowDrafts (tx : TransactionSummary) : List DraftContent :=
  ((csvLines tx).filterMap (readLine ',' exportHeader)).map ImportDraft.content

theorem later_eq_nil_iff (tx : TransactionSummary) :
    (tx.laterLines.filterMap (readLine ',' exportHeader)).map ImportDraft.content = [] ↔
      ∀ line ∈ tx.laterLines, readLine ',' exportHeader line = none := by
  rw [List.map_eq_nil_iff, List.filterMap_eq_nil_iff]

variable [LowersAscii]

/-- The draft of the first line, and those of the later lines. -/
theorem exists_rowDrafts {tx : TransactionSummary} (positive : 0 < tx.amountMinor) :
    ∃ read description category,
      rowDrafts tx = ((importedKind tx.kind).map fun kind =>
          (⟨LocalZone.toLocal tx.occurredAt, kind, read, draftDescription description category,
            if category = "" then none else some category⟩ : DraftContent)).toList ++
        (tx.laterLines.filterMap (readLine ',' exportHeader)).map ImportDraft.content ∧
      (tx.amountMinor < 100000 →
        read = tx.amountMinor ∧ description = tx.descriptionRead ∧ category = tx.categoryRead) ∧
      (100000 ≤ tx.amountMinor → read < tx.amountMinor) := by
  obtain ⟨again, read, description, category, draft, sameTime, small, large⟩ := exists_draft positive
  refine ⟨read, description, category, ?_, small, large⟩
  rw [rowDrafts, csvLines_eq, List.filterMap_cons, draft]
  cases importedKind tx.kind with
  | none => rfl
  | some kind => simp [ImportDraft.content, sameTime]

/-- A row has at least the drafts it should have. -/
theorem length_wanted_le {tx : TransactionSummary} (positive : 0 < tx.amountMinor) :
    tx.wanted.length ≤ (rowDrafts tx).length := by
  obtain ⟨read, description, category, drafts, -, -⟩ := exists_rowDrafts positive
  rw [drafts, TransactionSummary.wanted]
  cases tx.kind <;> simp [importedKind]

/-- A row has exactly the drafts it should have if it is read back. -/
theorem rowDrafts_eq_iff {tx : TransactionSummary} (positive : 0 < tx.amountMinor) :
    rowDrafts tx = tx.wanted ↔ ReadsBack tx := by
  obtain ⟨read, description, category, drafts, small, large⟩ := exists_rowDrafts positive
  have content := content_eq_iff small large
  have later := later_eq_nil_iff tx
  have imported : ∀ kind, tx.kind = kind → importedKind kind = some kind →
      tx.wanted = [⟨LocalZone.toLocal tx.occurredAt, kind, tx.amountMinor,
        draftDescription (dartTrim tx.descriptionText) tx.categoryText,
        if tx.categoryText = "" then none else some tx.categoryText⟩] →
      (rowDrafts tx = tx.wanted ↔ ReadsBack tx) := by
    intro kind isKind isImported wanted
    have notAdjusted : kind ≠ .adjustment := by
      rintro rfl
      cases isImported
    have notTransfer : kind ≠ .transfer := by
      rintro rfl
      cases isImported
    rw [drafts, wanted, isKind, isImported, Option.map_some, Option.toList_some,
      List.singleton_append, List.cons_eq_cons, later, DraftContent.mk.injEq]
    constructor
    · rintro ⟨⟨-, -, same⟩, none⟩
      obtain ⟨isSmall, isCategory, isDescription⟩ := content.mp same
      exact ⟨by rw [isKind]; exact notAdjusted, none, fun _ => isSmall, fun _ => isCategory,
        fun _ => isDescription⟩
    · intro reads
      have moves : tx.kind ≠ .transfer := by
        rw [isKind]
        exact notTransfer
      exact ⟨⟨rfl, rfl, content.mpr
        ⟨reads.small moves, reads.category moves, reads.description moves⟩⟩, reads.later⟩
  cases kind : tx.kind with
  | expense => exact imported .expense kind rfl (by rw [TransactionSummary.wanted, kind])
  | income => exact imported .income kind rfl (by rw [TransactionSummary.wanted, kind])
  | transfer =>
    have wanted : tx.wanted = [] := by rw [TransactionSummary.wanted, kind]
    rw [drafts, wanted, kind, importedKind, Option.map_none, Option.toList_none, List.nil_append,
      later]
    constructor
    · intro none
      exact ⟨by rw [kind]; decide, none, fun moves => absurd kind moves,
        fun moves => absurd kind moves, fun moves => absurd kind moves⟩
    · exact fun reads => reads.later
  | adjustment =>
    have wanted : tx.wanted = [] := by rw [TransactionSummary.wanted, kind]
    rw [drafts, wanted, kind, importedKind]
    exact iff_of_false (by simp) fun reads => reads.notAdjusted kind

end Drafts

end Rows

end Ledgerly.Csv
