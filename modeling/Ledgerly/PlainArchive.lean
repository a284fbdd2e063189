/-
This file proves that a backup comes back from its plain archive as it was written.

The fields of an envelope have distinct names, so that its text is read back as it is, and each
field is found where it was written, or is not there and gets the value that was not written.
The files of an archive have distinct names because the attachments have distinct ids.
-/

import Ledgerly.BackupContainers

namespace Ledgerly

/-! ### Texts and their bytes -/

theorem fromUTF8?_toUTF8 (text : String) :
    String.fromUTF8? ⟨(utf8Encode text).toArray⟩ = some text := dif_pos text.isValidUTF8

/-- A text without a byte order mark at its head comes back from its bytes. -/
theorem utf8Decode_utf8Encode {text : String}
    (plain : text.toList.head? ≠ some (Char.ofNat 0xFEFF)) :
    utf8Decode (utf8Encode text) = some text := by
  rw [utf8Decode, fromUTF8?_toUTF8, Option.map_some, if_neg plain]

theorem base64Decode_base64Encode (bytes : List UInt8) :
    base64Decode (base64Encode bytes) = .ok bytes := by
  rw [base64Decode, base64Encode, String.toList_ofList, Base64.decode_encode]
  rfl

/-- A map comes back from its file. -/
theorem readJsonFile_jsonFile {json : List (String × Json)}
    (wellFormed : (Json.obj json).WellFormed) (unreadable noMap : BackupError) :
    readJsonFile (jsonFile json) unreadable noMap = .ok json := by
  have plain : (Json.jsonEncode (.obj json)).toList.head? ≠ some (Char.ofNat 0xFEFF) := by
    rw [Json.jsonEncode, String.toList_ofList, Json.characters]
    show some '{' ≠ some (Char.ofNat 0xFEFF)
    decide
  rw [readJsonFile, jsonFile, utf8Decode_utf8Encode plain, Option.bind_some,
    Json.jsonDecode_jsonEncode wellFormed]

/-! ### Fields -/

section Fields

variable {json : List (String × Json)} {key : String}

theorem lookup_optionalField_append (key other : String) (value : Option Json)
    (rest : List (String × Json)) :
    (optionalField key value ++ rest).lookup other =
      if other = key then value.or (rest.lookup other) else rest.lookup other := by
  cases value with
  | none => exact (ite_self _).symm
  | some value =>
    show ((key, value) :: rest).lookup other = _
    rw [List.lookup_cons]
    by_cases same : other = key
    · rw [if_pos same, same, beq_self_eq_true]
      rfl
    · rw [if_neg same, beq_false_of_ne same]

theorem lookup_optionalField (key other : String) (value : Option Json) :
    (optionalField key value).lookup other = if other = key then value else none := by
  have appended := lookup_optionalField_append key other value []
  rwa [List.append_nil, List.lookup_nil, Option.or_none] at appended

theorem keys_optionalField (key : String) (value : Option Json) :
    ((optionalField key value).map Prod.fst).Sublist [key] := by
  cases value with
  | none => exact List.nil_sublist _
  | some value => exact List.Sublist.refl _

theorem wellFormedFields_append {one two : List (String × Json)} (first : Json.WellFormedFields one)
    (second : Json.WellFormedFields two) : Json.WellFormedFields (one ++ two) := by
  rw [Json.wellFormedFields_iff] at first second ⊢
  exact List.forall_mem_append.mpr ⟨first, second⟩

theorem wellFormedFields_optionalField (key : String) {value : Option Json}
    (wellFormed : ∀ found ∈ value, found.WellFormed) :
    Json.WellFormedFields (optionalField key value) := by
  cases value with
  | none => trivial
  | some value => exact ⟨wellFormed value rfl, trivial⟩

/-- A list of texts is well formed. -/
theorem wellFormed_texts (texts : List String) : (Json.arr (texts.map .str)).WellFormed := by
  rw [Json.WellFormed, Json.wellFormedItems_iff]
  intro item member
  obtain ⟨text, -, rfl⟩ := List.mem_map.mp member
  trivial

theorem filterMap_asStr? (texts : List String) :
    (texts.map Json.str).filterMap Json.asStr? = texts := by
  rw [List.filterMap_map]
  exact List.filterMap_some

theorem intField_eq [DoubleText] {value : Int} (found : json.lookup key = some (.ofInt value)) :
    intField json key = .ok (some value) := by
  simp only [intField, found, Json.ofInt, decimalInt_decimalText, Option.some_or]

theorem intField_eq_none [DoubleText] (missing : json.lookup key = none) :
    intField json key = .ok none := by
  rw [intField, missing]

theorem stringField_eq {value : Option String} (found : json.lookup key = value.map .str) :
    stringField json key = .ok value := by
  rw [stringField, found]
  cases value <;> rfl

theorem textField_eq {value : String} (found : json.lookup key = some (.str value)) :
    textField json key = some value := by
  rw [textField, found]
  rfl

theorem mapField_eq {fields : List (String × Json)} (found : json.lookup key = some (.obj fields)) :
    mapField json key = some fields := by
  rw [mapField, found]

/-! ### The scope, the index and the summary -/

theorem toFinset_sortedBookIds (bookIds : Finset String) :
    (sortedBookIds bookIds).toFinset = bookIds := by
  rw [sortedBookIds, List.toFinset_eq_of_perm _ _ (List.perm_insertionSort _ _),
    Finset.sort_toFinset]

theorem readBookIds_eq {bookIds : Option (Finset String)}
    (found : json.lookup "bookIds" = bookIdsField bookIds) : readBookIds json = bookIds := by
  rw [readBookIds, listField, found]
  cases bookIds with
  | none => rfl
  | some bookIds =>
    show some ((sortedBookIds bookIds).map Json.str |>.filterMap Json.asStr?).toFinset = _
    rw [filterMap_asStr?, toFinset_sortedBookIds]

theorem readAttachmentIndex_eq {index : List BackupRow}
    (found : json.lookup "attachmentIndex" = attachmentIndexField index) :
    readAttachmentIndex json = index := by
  rw [readAttachmentIndex, listField, found]
  cases index with
  | nil => rfl
  | cons row rest =>
    show ((row :: rest).map Json.obj).filterMap asMap? = _
    rw [List.filterMap_map]
    exact List.filterMap_some

theorem wellFormed_bookIdsField (bookIds : Option (Finset String)) :
    ∀ found ∈ bookIdsField bookIds, found.WellFormed := by
  intro found isThere
  obtain ⟨ids, -, rfl⟩ := Option.map_eq_some_iff.mp isThere
  exact wellFormed_texts _

theorem wellFormed_attachmentIndexField {index : List BackupRow}
    (wellFormed : ∀ row ∈ index, (Json.obj row).WellFormed) :
    ∀ found ∈ attachmentIndexField index, found.WellFormed := by
  intro found isThere
  rw [attachmentIndexField, nonemptyItems] at isThere
  split at isThere
  · cases isThere
  · obtain rfl := Option.some.inj isThere
    rw [Json.WellFormed, Json.wellFormedItems_iff]
    intro item member
    obtain ⟨row, inIndex, rfl⟩ := List.mem_map.mp member
    exact wellFormed row inIndex

end Fields

theorem BackupSummary.fromJson_toJson [DoubleText] (summary : BackupSummary) :
    BackupSummary.fromJson summary.toJson = .ok summary := by
  have count : ∀ {key : String} {value : Int}, summary.toJson.lookup key = some (.ofInt value) →
      intField summary.toJson key = .ok (some value) := intField_eq
  rw [fromJson, @count "books" summary.books rfl, @count "accounts" summary.accounts rfl,
    @count "transactions" summary.transactions rfl,
    @count "transactionEntries" summary.transactionEntries rfl,
    @count "recurringRules" summary.recurringRules rfl, @count "budgets" summary.budgets rfl,
    @count "attachments" summary.attachments rfl, @count "merchantRules" summary.merchantRules rfl]
  rfl

theorem BackupSummary.wellFormed_toJson (summary : BackupSummary) :
    (Json.obj summary.toJson).WellFormed := by
  have keys : summary.toJson.map Prod.fst = deltaEntityKeys := rfl
  refine ⟨keys ▸ by decide, ?_⟩
  rw [Json.wellFormedFields_iff]
  intro field member
  simp only [toJson, List.mem_cons, List.not_mem_nil, or_false] at member
  rcases member with rfl | rfl | rfl | rfl | rfl | rfl | rfl | rfl <;> exact Json.wellFormed_ofInt _

/-! ### Documents -/

/-- A document as it can be: the keys of its maps are distinct and its numbers are numbers, its
attachments have distinct ids, and its version is one of those that are read. -/
structure BackupDocument.Proper (document : BackupDocument) : Prop where
  payload : (Json.obj document.payload).WellFormed
  attachmentIndex : ∀ row ∈ document.attachmentIndex, (Json.obj row).WellFormed
  deleted : (document.deleted.map Prod.fst).Nodup
  attachments : (document.attachmentBinaries.map AttachmentBinary.id).Nodup
  oldest : minReadableBackupSchemaVersion ≤ document.schemaVersion
  newest : document.schemaVersion ≤ backupSchemaVersion

/-- The field of the deleted ids. -/
theorem wellFormed_deleted {deleted : List (String × List String)}
    (distinct : (deleted.map Prod.fst).Nodup) :
    ∀ found ∈ (if deleted.isEmpty then none
      else some (Json.obj (deleted.map fun entry => (entry.1, .arr (entry.2.map .str))))),
      found.WellFormed := by
  intro found isThere
  split at isThere
  · cases isThere
  · obtain rfl := Option.some.inj isThere
    refine ⟨by rwa [List.map_map], ?_⟩
    rw [Json.wellFormedFields_iff]
    intro field member
    obtain ⟨entry, -, rfl⟩ := List.mem_map.mp member
    exact wellFormed_texts _

theorem readDeleted_eq {json : List (String × Json)} {deleted : List (String × List String)}
    (found : json.lookup "deleted" = if deleted.isEmpty then none
      else some (Json.obj (deleted.map fun entry => (entry.1, .arr (entry.2.map .str))))) :
    readDeleted json = deleted := by
  rw [readDeleted, mapField, found]
  cases deleted with
  | nil => rfl
  | cons entry rest =>
    show (((entry :: rest).map fun entry => (entry.1, Json.arr (entry.2.map .str))).filterMap
      fun entry => entry.2.asArray?.map fun items => (entry.1, items.filterMap Json.asStr?)) = _
    rw [List.filterMap_map]
    refine (List.filterMap_congr fun entry _ => ?_).trans List.filterMap_some
    show some (entry.1, (entry.2.map Json.str).filterMap Json.asStr?) = _
    rw [filterMap_asStr?]

namespace BackupDocument

variable {document : BackupDocument}

/-- An envelope is a map whose text is read back. -/
theorem Proper.wellFormed_toEnvelope (proper : document.Proper) (exportedAt deviceId : String) :
    (Json.obj (document.toEnvelope exportedAt deviceId)).WellFormed := by
  have keys : ((document.toEnvelope exportedAt deviceId).map Prod.fst).Sublist
      (["kind", "schemaVersion", "exportedAt", "deviceId"] ++ (["backupId"] ++ (["baseBackupId"] ++
        (["bookIds"] ++ (["summary", "data"] ++ (["deleted"] ++ ["attachmentIndex"])))))) := by
    simp only [toEnvelope, List.map_append]
    exact (List.Sublist.refl _).append ((keys_optionalField _ _).append
      ((keys_optionalField _ _).append ((keys_optionalField _ _).append
        ((List.Sublist.refl _).append ((keys_optionalField _ _).append (keys_optionalField _ _))))))
  refine ⟨List.Nodup.sublist keys (by decide), ?_⟩
  have texts : ∀ text : Option String, ∀ found ∈ text.map Json.str, found.WellFormed := by
    intro text found isThere
    obtain ⟨text, -, rfl⟩ := Option.map_eq_some_iff.mp isThere
    trivial
  exact wellFormedFields_append ⟨trivial, Json.wellFormed_ofInt _, trivial, trivial, trivial⟩
    (wellFormedFields_append (wellFormedFields_optionalField _ (texts _))
      (wellFormedFields_append (wellFormedFields_optionalField _ (texts _))
        (wellFormedFields_append
          (wellFormedFields_optionalField _ (wellFormed_bookIdsField _))
          (wellFormedFields_append
            ⟨document.summary.wellFormed_toJson, proper.payload, trivial⟩
            (wellFormedFields_append
              (wellFormedFields_optionalField _ (wellFormed_deleted proper.deleted))
              (wellFormedFields_optionalField _
                (wellFormed_attachmentIndexField proper.attachmentIndex)))))))

/-- Everything but the binaries is read from an envelope as it was written. -/
theorem Proper.fromEnvelope_toEnvelope [DoubleText] (proper : document.Proper)
    (exportedAt deviceId : String) :
    fromEnvelope (document.toEnvelope exportedAt deviceId) = .ok (document.withBinaries []) := by
  have kind : textField (document.toEnvelope exportedAt deviceId) "kind" =
      some "ledgerly-backup" := rfl
  have version : ((document.toEnvelope exportedAt deviceId).lookup "schemaVersion").bind
      Json.asInt? = some document.schemaVersion := Json.asInt?_ofInt _
  have summary : mapField (document.toEnvelope exportedAt deviceId) "summary" =
      some document.summary.toJson := by
    refine mapField_eq ?_
    simp [toEnvelope, List.lookup_cons, lookup_optionalField_append]
  have data : mapField (document.toEnvelope exportedAt deviceId) "data" =
      some document.payload := by
    refine mapField_eq ?_
    simp [toEnvelope, List.lookup_cons, lookup_optionalField_append]
  have backupId : stringField (document.toEnvelope exportedAt deviceId) "backupId" =
      .ok document.backupId := by
    refine stringField_eq ?_
    simp [toEnvelope, List.lookup_cons, lookup_optionalField_append, lookup_optionalField]
  have baseBackupId : stringField (document.toEnvelope exportedAt deviceId) "baseBackupId" =
      .ok document.baseBackupId := by
    refine stringField_eq ?_
    simp [toEnvelope, List.lookup_cons, lookup_optionalField_append, lookup_optionalField]
  have bookIds : readBookIds (document.toEnvelope exportedAt deviceId) = document.bookIds := by
    refine readBookIds_eq ?_
    simp [toEnvelope, List.lookup_cons, lookup_optionalField_append, lookup_optionalField]
  have index : readAttachmentIndex (document.toEnvelope exportedAt deviceId) =
      document.attachmentIndex := by
    refine readAttachmentIndex_eq ?_
    simp [toEnvelope, List.lookup_cons, lookup_optionalField_append, lookup_optionalField]
  have deleted : readDeleted (document.toEnvelope exportedAt deviceId) = document.deleted := by
    refine readDeleted_eq ?_
    simp [toEnvelope, List.lookup_cons, lookup_optionalField_append, lookup_optionalField]
  have readable : ¬(backupSchemaVersion < document.schemaVersion ∨
      document.schemaVersion < minReadableBackupSchemaVersion) :=
    not_or.mpr ⟨Int.not_lt.mpr proper.newest, Int.not_lt.mpr proper.oldest⟩
  rw [fromEnvelope, if_neg (not_not.mpr kind)]
  simp only [version, summary, data, if_neg readable, BackupSummary.fromJson_toJson, backupId,
    baseBackupId, bookIds, index, deleted]
  rfl

/-! ### The plain archive -/

theorem attachmentOfFile_attachmentFileName (binary : AttachmentBinary) :
    attachmentOfFile (attachmentFileName binary.id, binary.bytes) = some binary := by
  have inside : stripPrefix (attachmentFileName binary.id) "attachments/" =
      some (binary.id ++ ".bin") := by
    rw [attachmentFileName, String.append_assoc, stripPrefix_append]
  have characters : (binary.id ++ ".bin").toList = binary.id.toList ++ ".bin".toList :=
    String.toList_append
  have short : (binary.id.toList ++ ".bin".toList).length - 4 = binary.id.toList.length := by
    rw [List.length_append]
    exact Nat.add_sub_cancel binary.id.toList.length 4
  rw [attachmentOfFile, inside]
  show (if ".bin".toList.isSuffixOf (binary.id ++ ".bin").toList then _ else none) = _
  rw [characters, if_pos (List.isSuffixOf_iff_suffix.mpr (List.suffix_append _ _)), short,
    List.take_left, String.ofList_toList]
  rfl

theorem attachmentFileName_injective {one two : String}
    (same : attachmentFileName one = attachmentFileName two) : one = two := by
  have read : attachmentOfFile (attachmentFileName one, []) =
      attachmentOfFile (attachmentFileName two, []) := by rw [same]
  rw [attachmentOfFile_attachmentFileName ⟨one, []⟩, attachmentOfFile_attachmentFileName ⟨two, []⟩]
    at read
  exact congrArg AttachmentBinary.id (Option.some.inj read)

/-- Outside of the directory there are no attachments. -/
theorem attachmentOfFile_eq_none {name : String} (outside : stripPrefix name "attachments/" = none)
    (bytes : List UInt8) : attachmentOfFile (name, bytes) = none := by
  rw [attachmentOfFile, outside]
  rfl

theorem ne_attachmentFileName {name : String} (outside : stripPrefix name "attachments/" = none)
    (id : String) : name ≠ attachmentFileName id := by
  rintro rfl
  have nothing := attachmentOfFile_eq_none outside []
  rw [attachmentOfFile_attachmentFileName ⟨id, []⟩] at nothing
  cases nothing

variable (document) in
theorem lookup_attachments {name : String} (outside : stripPrefix name "attachments/" = none) :
    (document.attachmentBinaries.map fun binary =>
      (attachmentFileName binary.id, binary.bytes)).lookup name = none := by
  rw [List.lookup_eq_none_iff]
  intro file member
  obtain ⟨binary, -, rfl⟩ := List.mem_map.mp member
  exact bne_iff_ne.mpr (ne_attachmentFileName outside binary.id)

theorem Proper.nodup_archiveFiles (proper : document.Proper) (exportedAt deviceId : String) :
    ((archiveFiles document exportedAt deviceId).map Prod.fst).Nodup := by
  have outside : ∀ name : String, stripPrefix name "attachments/" = none →
      name ∉ document.attachmentBinaries.map fun binary => attachmentFileName binary.id := by
    intro name outside member
    obtain ⟨binary, -, same⟩ := List.mem_map.mp member
    exact ne_attachmentFileName outside binary.id same.symm
  have names : (document.attachmentBinaries.map fun binary => attachmentFileName binary.id).Nodup := by
    have distinct := proper.attachments.map (f := attachmentFileName)
      fun _ _ => attachmentFileName_injective
    rwa [List.map_map] at distinct
  have keys : (archiveFiles document exportedAt deviceId).map Prod.fst =
      "manifest.json" :: "data.json" ::
        document.attachmentBinaries.map fun binary => attachmentFileName binary.id := by
    rw [archiveFiles, List.map_cons, List.map_cons, List.map_map]
    rfl
  rw [keys, List.nodup_cons, List.nodup_cons, List.mem_cons, not_or]
  exact ⟨⟨by decide, outside _ rfl⟩, outside _ rfl, names⟩

/-- The attachments of the files of a document. -/
theorem attachments_archiveFiles (exportedAt deviceId : String) :
    (archiveFiles document exportedAt deviceId).filterMap attachmentOfFile =
      document.attachmentBinaries := by
  rw [archiveFiles, List.filterMap_cons_none (attachmentOfFile_eq_none rfl _),
    List.filterMap_cons_none (attachmentOfFile_eq_none rfl _), List.filterMap_map]
  refine (List.filterMap_congr fun binary _ => ?_).trans List.filterMap_some
  exact attachmentOfFile_attachmentFileName binary

/-- The plain archive of a document gives the document. -/
theorem Proper.plain_round_trip [ZipCodec] [DoubleText] (zip : IdealZip) (proper : document.Proper)
    (exportedAt deviceId : String) :
    ∃ bytes, buildZipBytes document exportedAt deviceId = .ok bytes ∧
      ZipCodec.decodeBytes bytes = some (archiveFiles document exportedAt deviceId) ∧
      decodeZipBytes bytes = .ok document := by
  obtain ⟨bytes, written, read⟩ := zip _ (proper.nodup_archiveFiles exportedAt deviceId)
  refine ⟨bytes, by rw [buildZipBytes, written]; rfl, read, ?_⟩
  have manifest : fileNamed (archiveFiles document exportedAt deviceId) "manifest.json"
      "备份缺少 manifest.json" = .ok (jsonFile (document.toEnvelope exportedAt deviceId)) := rfl
  have data : fileNamed (archiveFiles document exportedAt deviceId) "data.json"
      "备份缺少 data.json" = .ok (jsonFile document.payload) := rfl
  have same : ¬Json.jsonEncode (.obj document.payload) ≠
      Json.jsonEncode (.obj (document.withBinaries []).payload) := not_not.mpr rfl
  simp only [decodeZipBytes, read, manifest, data, bind, Except.bind,
    readJsonFile_jsonFile (proper.wellFormed_toEnvelope exportedAt deviceId),
    proper.fromEnvelope_toEnvelope, readJsonFile_jsonFile proper.payload, if_neg same,
    attachments_archiveFiles]
  rfl

end BackupDocument

end Ledgerly
