/-
This file settles when an export is read back: `CsvBillParser.parse` after `buildLedgerCsv`.

Every income, expense and adjustment gives a draft of its first line, so the drafts stand in the
order of the rows exactly if each row has the drafts it should have.
-/

import Ledgerly.CsvRows

namespace Ledgerly.Csv

open DelimitedText

/-! ### The header -/

section Parser

variable [DartText] [LowersAscii]

/-- The columns of an export are found. -/
theorem detectHeader_export :
    detectHeader "date,kind,amount,category,account,description" = some (',', exportHeader) := by
  have lower : ∀ text ∈ ["date", "kind", "amount", "category", "account", "description"],
      DartText.toLowerCase text = text := by
    have letters : (["date", "kind", "amount", "category", "account", "description"].all fun text =>
        text.toList.all Char.isLower) = true := by decide
    exact fun text member => LowersAscii.toLowerCase_eq text
      (List.all_eq_true.mp (List.all_eq_true.mp letters text member))
  have cells : splitCsvLine "date,kind,amount,category,account,description" ',' =
      ["date", "kind", "amount", "category", "account", "description"] := by decide +kernel
  have keys : ["date", "kind", "amount", "category", "account", "description"].map (fun cell =>
      headerKey (dartTrim (String.ofList (cell.toList.filter fun character =>
        character ≠ '\uFEFF')))) =
          [some .date, some .direction, some .amount, some .category, none, some .description] := by
    have trimmed : ∀ cell ∈ ["date", "kind", "amount", "category", "account", "description"],
        dartTrim (String.ofList (cell.toList.filter fun character => character ≠ '\uFEFF')) =
          cell := by decide +kernel
    rw [List.map_congr_left fun cell member => congrArg headerKey (trimmed cell member)]
    simp only [List.map_cons, List.map_nil, headerKey, lower, List.mem_cons, true_or, or_true]
    decide +kernel
  have map : headerMap ["date", "kind", "amount", "category", "account", "description"] =
      some exportHeader := by
    rw [headerMap]
    simp only [keys]
    rw [if_pos (by decide)]
    congr 1
    funext key
    cases key <;> rfl
  rw [detectHeader, List.findSome?_cons, cells, map]
  rfl

/-! ### The export as a whole -/

variable [LocalZone]

/-- Each row is read by itself. -/
theorem parse_buildLedgerCsv (transactions : List TransactionSummary) :
    parse (buildLedgerCsv none transactions) =
      transactions.flatMap fun tx => (csvLines tx).filterMap (readLine ',' exportHeader) := by
  have header : trimLine csvHeader = some "date,kind,amount,category,account,description" := by
    decide +kernel
  have empty : trimLine [] = none := by decide
  have headerLine : ∀ character ∈ csvHeader, isBreak '\r' '\n' character = false := by
    have whole : csvHeader.any (isBreak '\r' '\n') = false := by decide +kernel
    exact fun character member => Bool.eq_false_iff.mpr (List.any_eq_false.mp whole character member)
  have lines : (List.splitOnP (fun character => character = '\n')
      (unifyBreaks '\r' '\n' (buildLedgerCsv none transactions))).filterMap trimLine =
        "date,kind,amount,category,account,description" ::
          transactions.flatMap csvLines := by
    rw [← List.splitOnPPrepend_nil_right, filterMap_lines (by decide) empty,
      List.splitOnPPrepend_nil_right, buildLedgerCsv,
      List.splitOnP_append_cons_of_forall_mem headerLine '\n' (by decide),
      splitOnP_flatMap (by decide), List.filterMap_cons, header, List.filterMap_append,
      List.filterMap_flatMap]
    simp only [List.filterMap_cons, empty, List.filterMap_nil, List.append_nil]
    rfl
  have found : findHeader ("date,kind,amount,category,account,description" ::
      transactions.flatMap csvLines) = some (transactions.flatMap csvLines, ',', exportHeader) := by
    rw [findHeader, detectHeader_export]
  rw [parse]
  simp only [lines, found]
  rw [List.filterMap_flatMap]

/-- The drafts of an export are those of its incomes and expenses, in their order. -/
def RoundTrips (transactions : List TransactionSummary) : Prop :=
  (parse (buildLedgerCsv none transactions)).map ImportDraft.content =
    transactions.flatMap TransactionSummary.wanted

/-- An export that is read back is read back row by row. -/
theorem roundTrips_iff {transactions : List TransactionSummary}
    (positive : ∀ tx ∈ transactions, 0 < tx.amountMinor) :
    RoundTrips transactions ↔ ∀ tx ∈ transactions, ReadsBack tx := by
  rw [RoundTrips, parse_buildLedgerCsv, List.map_flatMap]
  refine (flatMap_eq_flatMap_iff fun tx member => length_wanted_le (positive tx member)).trans ?_
  exact forall₂_congr fun tx member => rowDrafts_eq_iff (positive tx member)

/-! ### Importing the export again -/

/-- The key a draft is looked for by. -/
def DraftContent.key (content : DraftContent) : PostedRowKey :=
  ⟨content.time / 86400000000, content.kind, content.amountMinor, dartTrim content.description⟩

/-- The key of a transaction of the ledger. -/
def TransactionSummary.key (tx : TransactionSummary) : PostedRowKey :=
  postedRowKey tx.occurredAt tx.amountMinor tx.kind tx.descriptionText

/-- Imported again, an export shows every draft with a description as a duplicate. -/
def Recognised (transactions : List TransactionSummary) : Prop :=
  ∀ draft ∈ markDuplicateImportDrafts (parse (buildLedgerCsv none transactions)) transactions,
    draft.description ≠ "" → draft.duplicate = true

/-- A row without a description is imported with its category for one, and is found only if some
transaction of this day, kind and amount is described so. -/
def FindsCategories (transactions : List TransactionSummary) : Prop :=
  ∀ tx ∈ transactions, tx.kind = .expense ∨ tx.kind = .income →
    dartTrim tx.descriptionText = "" → tx.categoryText ≠ "" →
      ∃ row ∈ transactions,
        postedRowKey tx.occurredAt tx.amountMinor tx.kind tx.categoryText = row.key

omit [LowersAscii] in
theorem recognised_iff (transactions : List TransactionSummary) :
    Recognised transactions ↔
      ∀ content ∈ (parse (buildLedgerCsv none transactions)).map ImportDraft.content,
        content.description ≠ "" → ∃ row ∈ transactions, content.key = row.key := by
  have matches_iff : ∀ draft : ImportDraft,
      (transactions.any fun row => importDraftMatchesExisting draft row) = true ↔
        ∃ row ∈ transactions, draft.content.key = row.key := by
    intro draft
    rw [List.any_eq_true]
    exact exists_congr fun row => and_congr_right fun _ => decide_eq_true_iff
  rw [Recognised, markDuplicateImportDrafts, List.forall_mem_map, List.forall_mem_map]
  exact forall₂_congr fun draft _ => imp_congr_right fun _ => matches_iff draft

omit [DartText] [LowersAscii] in
/-- A description that is trimmed is found under the key of its row. -/
theorem key_of_described {tx : TransactionSummary} {kind : TransactionSummaryKind}
    (isKind : tx.kind = kind) {category : Option String} :
    (⟨LocalZone.toLocal tx.occurredAt, kind, tx.amountMinor, dartTrim tx.descriptionText,
      category⟩ : DraftContent).key = tx.key := by
  have again : dartTrim (dartTrim tx.descriptionText) = dartTrim tx.descriptionText := by
    rw [dartTrim_eq (dartTrim tx.descriptionText), dartTrim_eq, String.toList_ofList]
    exact congrArg String.ofList (strip_strip (fun _ blank => blank) tx.descriptionText.toList)
  rw [DraftContent.key, TransactionSummary.key, postedRowKey, again, isKind]

omit [DartText] [LowersAscii] in
/-- The contents the drafts should have are found exactly if the categories are that stand for
descriptions. -/
theorem wanted_found_iff (transactions : List TransactionSummary) :
    (∀ content ∈ transactions.flatMap TransactionSummary.wanted, content.description ≠ "" →
        ∃ row ∈ transactions, content.key = row.key) ↔ FindsCategories transactions := by
  have ofKind : ∀ tx : TransactionSummary, ∀ content, content ∈ tx.wanted ↔
      (tx.kind = .expense ∨ tx.kind = .income) ∧
        content = ⟨LocalZone.toLocal tx.occurredAt, tx.kind, tx.amountMinor,
          draftDescription (dartTrim tx.descriptionText) tx.categoryText,
          if tx.categoryText = "" then none else some tx.categoryText⟩ := by
    intro tx content
    rw [TransactionSummary.wanted]
    cases tx.kind <;> simp
  constructor
  · intro found tx member isKind blank named
    have content := found _ (List.mem_flatMap.mpr ⟨tx, member, (ofKind tx _).mpr ⟨isKind, rfl⟩⟩)
    rw [draftDescription, if_neg fun filled => filled blank] at content
    exact content named
  · intro found content member described
    obtain ⟨tx, txMember, isWanted⟩ := List.mem_flatMap.mp member
    obtain ⟨isKind, rfl⟩ := (ofKind tx content).mp isWanted
    by_cases blank : dartTrim tx.descriptionText = ""
    · rw [draftDescription, if_neg fun filled => filled blank] at described ⊢
      exact found tx txMember isKind blank described
    · rw [draftDescription, if_pos blank]
      exact ⟨tx, txMember, key_of_described rfl⟩

/-- An export is read back, and recognised when it is imported again, exactly if each of its rows is
read back and the rows without a description are found by their categories. -/
theorem export_reads_back_iff {transactions : List TransactionSummary}
    (positive : ∀ tx ∈ transactions, 0 < tx.amountMinor) :
    RoundTrips transactions ∧ Recognised transactions ↔
      (∀ tx ∈ transactions, ReadsBack tx) ∧ FindsCategories transactions := by
  rw [← roundTrips_iff positive]
  refine and_congr_right fun same => ?_
  rw [recognised_iff, same, wanted_found_iff]

end Parser

/-- A device that lives by UTC. -/
@[reducible] def utcZone : LocalZone where
  toLocal time := time.micros
  ofLocal := DateTime.ofMicros
  near _ := ⟨by omega, by omega⟩
  ofLocal_toLocal time := ⟨time, dif_pos time.inRange, rfl⟩

/-- A lunch of the day after the epoch, at noon. -/
def lunch (amount : Int) : TransactionSummary :=
  ⟨⟨129600000000, by decide⟩, some "Lunch, \"large\" ", .expense, amount, some "Food", some "Cash"⟩

theorem asciiText_lowersAscii : @LowersAscii asciiText := by
  let _ := asciiText
  refine ⟨fun text lower => ?_⟩
  have same : text.toList.map Char.toLower = text.toList := by
    refine (List.map_congr_left fun character member => ?_).trans (List.map_id _)
    have isLower : (decide (97 ≤ character.val) && decide (character.val ≤ 122)) = true :=
      lower character member
    rw [Bool.and_eq_true, decide_eq_true_iff, decide_eq_true_iff] at isLower
    have above : 97 ≤ character.val.toNat := UInt32.le_iff_toNat_le.mp isLower.1
    refine dif_neg ?_
    rintro ⟨-, upper⟩
    have below : character.val.toNat ≤ 90 := UInt32.le_iff_toNat_le.mp upper
    omega
  show String.ofList (text.toList.map Char.toLower) = text
  rw [same, String.ofList_toList]

theorem lunch_reads_back :
    let _ := asciiText
    let _ := utcZone
    RoundTrips [lunch 3200] ∧ Recognised [lunch 3200] := by
  intro text zone
  have lowers := asciiText_lowersAscii
  refine (export_reads_back_iff ?_).mpr ⟨?_, ?_⟩
  · intro tx member
    rw [List.mem_singleton.mp member]
    decide
  · intro tx member
    rw [List.mem_singleton.mp member]
    have oneLine : (lunch 3200).laterLines = [] := by decide +kernel
    refine ⟨by decide, ?_, fun _ => by decide, fun _ => by decide +kernel,
      fun _ => Or.inl (by decide +kernel)⟩
    rw [oneLine]
    exact fun line member => absurd member List.not_mem_nil
  · intro tx member isKind blank
    rw [List.mem_singleton.mp member] at blank
    exact absurd blank (by decide +kernel)

/-- Of 1234.56 the parser reads 1.00. -/
theorem thousand_not_read_back :
    let _ := asciiText
    let _ := utcZone
    (parse (buildLedgerCsv none [lunch 123456])).map ImportDraft.content =
        [⟨129600000000, .expense, 100, "Cash", some "234.56"⟩] ∧
      ¬∀ transactions : List TransactionSummary, (∀ tx ∈ transactions, 0 < tx.amountMinor) →
        RoundTrips transactions ∧ Recognised transactions := by
  intro text zone
  have read : (parse (buildLedgerCsv none [lunch 123456])).map ImportDraft.content =
      [⟨129600000000, .expense, 100, "Cash", some "234.56"⟩] := by
    decide +kernel
  refine ⟨read, fun holds => ?_⟩
  have same := (holds [lunch 123456] fun tx member => by
    rw [List.mem_singleton.mp member]
    decide).1
  rw [RoundTrips, read] at same
  exact absurd same (by decide +kernel)

end Ledgerly.Csv
