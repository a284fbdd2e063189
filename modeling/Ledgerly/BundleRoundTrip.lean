/-
This file proves that what is packed in a bundle comes out of it: for every dump and every backup of
objects whose names pass the checks of paths, with a password or without one, a bundle is made,
stands its checks, and unpacks to the same files.

The payloads of a bundle lie side by side under their numbers, and what is unpacked lies where it
lay before, so that no file is in the way of another one.
-/

import Ledgerly.BundleArchive
import Ledgerly.EncryptedArchive
import Ledgerly.Library.IpText

namespace Ledgerly

/-! ### Paths -/

/-- A backup of objects whose names pass the checks of paths. -/
def NamesPass (objectStoreBackup : Directory) : Prop :=
  ∀ path content, objectStoreBackup.lookup path = some content →
    (∀ name ∈ path, '/' ∉ name.toList ∧ Char.ofNat 0 ∉ name.toList) ∧
      escapes ("object-store/" ++ joined path) = false

theorem joined_cons {name : String} {path : List String} (nonempty : path ≠ []) :
    joined (name :: path) = name ++ "/" ++ joined path := by
  obtain ⟨next, rest, rfl⟩ := List.exists_cons_of_ne_nil nonempty
  rw [← String.toList_inj]
  simp only [joined, List.map_cons, String.toList_append, String.toList_ofList,
    List.intercalate_cons_cons]
  rfl

/-- The components of the name of a packed object. -/
theorem segments_object {path : List String}
    (plain : ∀ name ∈ path, '/' ∉ name.toList ∧ Char.ofNat 0 ∉ name.toList)
    (passes : escapes ("object-store/" ++ joined path) = false) :
    segments ("object-store/" ++ joined path) = "object-store" :: path := by
  by_cases empty : path = []
  · subst empty
    exact absurd passes (by decide)
  · have same : "object-store/" ++ joined path = joined ("object-store" :: path) := by
      rw [joined_cons empty]
      rfl
    rw [same, segments_joined (List.cons_ne_nil _ _)]
    intro name member
    rcases List.mem_cons.mp member with rfl | member
    · decide
    · exact (plain name member).1

theorem nul_notMem_object {path : List String}
    (plain : ∀ name ∈ path, '/' ∉ name.toList ∧ Char.ofNat 0 ∉ name.toList) :
    Char.ofNat 0 ∉ ("object-store/" ++ joined path).toList := by
  have characters : (joined path).toList = ['/'].intercalate (path.map String.toList) :=
    String.toList_ofList
  rw [String.toList_append, List.mem_append, not_or, characters]
  refine ⟨by decide, fun member => ?_⟩
  rcases IpText.mem_intercalate member with isSlash | ⟨piece, isName, inName⟩
  · exact absurd isSlash (by decide)
  · obtain ⟨name, inPath, rfl⟩ := List.mem_map.mp isName
    exact (plain name inPath).2 inName

theorem validatedLogicalPath_object {path : List String}
    (passes : escapes ("object-store/" ++ joined path) = false) :
    validatedLogicalPath ("object-store/" ++ joined path) = .ok ("object-store/" ++ joined path) := by
  have inStore : "object-store/".toList <+: ("object-store/" ++ joined path).toList := by
    rw [String.toList_append]
    exact List.prefix_append _ _
  rw [validatedLogicalPath, validatedRelativePath, passes]
  exact if_neg fun both => both.2 inStore

/-- The name of a payload in its directory. -/
@[irreducible] def payloadName (index : Nat) : String := String.ofList (padded 8 index) ++ ".bin"

theorem toList_payloadName (index : Nat) :
    (payloadName index).toList = padded 8 index ++ ".bin".toList := by
  have digits : (String.ofList (padded 8 index)).toList = padded 8 index := String.toList_ofList
  rw [payloadName, String.toList_append, digits]

theorem slash_notMem_payloadName (index : Nat) : '/' ∉ (payloadName index).toList := by
  rw [toList_payloadName, List.mem_append, not_or]
  refine ⟨fun member => ?_, by decide⟩
  exact absurd (isDigit_of_mem_padded member) (by decide)

theorem payloadPath_eq (index : Nat) : payloadPath index = joined ["payload", payloadName index] := by
  rw [joined_cons (List.cons_ne_nil _ _)]
  have single : joined [payloadName index] = payloadName index := by
    rw [joined, List.map_singleton, List.intercalate_singleton, String.ofList_toList]
  rw [single, payloadPath, payloadName, ← String.append_assoc]
  rfl

theorem segments_payloadPath (index : Nat) :
    segments (payloadPath index) = ["payload", payloadName index] := by
  rw [payloadPath_eq, segments_joined (List.cons_ne_nil _ _)]
  intro name member
  rcases List.mem_cons.mp member with rfl | member
  · decide
  · rw [List.mem_singleton.mp member]
    exact slash_notMem_payloadName index

theorem payloadName_injective : Function.Injective payloadName := by
  intro one two same
  rw [← String.toList_inj, toList_payloadName, toList_payloadName] at same
  have digits := congrArg decimalNat (List.append_cancel_right same)
  rw [decimalNat_padded, decimalNat_padded] at digits
  exact Option.some.inj digits

theorem payloadPath_injective : Function.Injective payloadPath := by
  intro one two same
  have parts := congrArg segments same
  rw [segments_payloadPath, segments_payloadPath] at parts
  exact payloadName_injective (List.cons.inj (List.cons.inj parts).2).1

theorem payloadPath_passes (index : Nat) : escapes (payloadPath index) = false := by
  have characters : (payloadPath index).toList = "payload/".toList ++ (payloadName index).toList := by
    rw [← String.toList_append, payloadPath, payloadName, String.append_assoc]
  have noBackslash : (payloadPath index).toList.contains (Char.ofNat 0x5C) = false := by
    rw [characters, toList_payloadName, List.contains_eq_mem, decide_eq_false_iff_not,
      List.mem_append, List.mem_append]
    rintro (inFront | inDigits | inEnd)
    · exact absurd inFront (by decide)
    · exact absurd (isDigit_of_mem_padded inDigits) (by decide)
    · exact absurd inEnd (by decide)
  have notEmpty : payloadPath index ≠ "" := by
    intro none
    rw [← String.toList_inj, characters] at none
    exact absurd (List.append_eq_nil_iff.mp none).1 (by decide)
  have notAbsolute : (payloadPath index).toList.head? ≠ some '/' := by
    rw [characters]
    exact fun same => absurd (Option.some.inj same) (by decide)
  have dotted : ∀ text : String, text.toList.length < 4 → payloadName index ≠ text := by
    rintro text short rfl
    rw [toList_payloadName, List.length_append] at short
    have ending : ".bin".toList.length = 4 := by decide
    omega
  rw [escapes, noBackslash, segments_payloadPath]
  simp [notEmpty, notAbsolute, dotted "" (by decide), dotted "." (by decide),
    dotted ".." (by decide)]

/-! ### Packing -/

/-- Only payloads with smaller numbers are in a bundle. -/
def PayloadsBelow (bundle : Directory) (count : Nat) : Prop :=
  ∀ path, (bundle.lookup path).isSome → ∃ index < count, path = segments (payloadPath index)

theorem payloadsBelow_empty : PayloadsBelow .empty 0 := by
  intro path present
  rw [FileTree.lookup_empty] at present
  cases present

/-- The next payload has its place. -/
theorem PayloadsBelow.free {bundle : Directory} {count : Nat} (below : PayloadsBelow bundle count) :
    bundle.Free (segments (payloadPath count)) := by
  refine FileTree.free_iff.mpr fun other present different => ?_
  obtain ⟨index, -, rfl⟩ := below other present
  rw [segments_payloadPath, segments_payloadPath] at different ⊢
  exact ⟨fun above => different (above.eq_of_length rfl),
    fun above => different (above.eq_of_length rfl).symm⟩

/-- The next payload takes its place, and the others stay. -/
theorem PayloadsBelow.create {bundle after : Directory} {count : Nat}
    (below : PayloadsBelow bundle count) {payload : List UInt8}
    (created : bundle.create (segments (payloadPath count)) payload = some after) :
    PayloadsBelow after (count + 1) ∧ after.lookup (segments (payloadPath count)) = some payload ∧
      ∀ path content, bundle.lookup path = some content → after.lookup path = some content := by
  have lookups := FileTree.eq_of_create created
  refine ⟨fun path present => ?_, ?_, fun path content found => ?_⟩
  · rw [lookups] at present
    split at present
    · rename_i same
      exact ⟨count, Nat.lt_succ_self count, same⟩
    · obtain ⟨index, small, same⟩ := below path present
      exact ⟨index, Nat.lt_succ_of_lt small, same⟩
  · rw [lookups, if_pos rfl]
  · rw [lookups, if_neg]
    · exact found
    · rintro rfl
      obtain ⟨index, small, same⟩ := below _ (Option.isSome_of_eq_some found)
      rw [segments_payloadPath, segments_payloadPath] at same
      exact absurd (payloadName_injective (List.cons.inj (List.cons.inj same).2).1) (by omega)

/-- No payload is at the path of the manifest. -/
theorem PayloadsBelow.apart {bundle : Directory} {count : Nat} (below : PayloadsBelow bundle count)
    {path : List String} (present : (bundle.lookup path).isSome) :
    ¬path <+: ["manifest.json"] ∧ ¬["manifest.json"] <+: path := by
  obtain ⟨index, -, rfl⟩ := below path present
  have different : ¬"payload" = "manifest.json" := by decide
  rw [segments_payloadPath]
  exact ⟨fun above => different (List.cons_prefix_cons.mp above).1,
    fun above => different (List.cons_prefix_cons.mp above).1.symm⟩

/-- The manifest takes its place, and the payloads stay. -/
theorem PayloadsBelow.addManifest {bundle after : Directory} {count : Nat}
    (below : PayloadsBelow bundle count) {text : List UInt8}
    (created : bundle.create ["manifest.json"] text = some after) {path : List String}
    {content : List UInt8} (found : bundle.lookup path = some content) :
    after.lookup path = some content := by
  rw [FileTree.eq_of_create created, if_neg]
  · exact found
  · rintro rfl
    exact (below.apart (Option.isSome_of_eq_some found)).1 List.prefix_rfl

section Packing

variable [Aes256Gcm] [Sha256] {key : Option (List UInt8)}

/-- The entry of the manifest is about this file, whose payload in the bundle is read back. -/
structure Packed (bundle : Directory) (key : Option (List UInt8)) (input : String × List UInt8)
    (file : BundleFile) : Prop where
  logicalPath : file.logicalPath = input.1
  sizeBytes : file.sizeBytes = input.2.length
  passes : escapes file.payloadPath = false
  reads : ∃ payload, bundle.lookup (segments file.payloadPath) = some payload ∧
    ∀ (reader : PartialReader UInt8) (use : Option (List UInt8)), reader.left = payload →
      use = none ∨ use = key →
      processBundleFileV2 reader use key.isSome file input.1 =
        .ok (if key.isSome ∧ use = none then [] else input.2)

/-- A file stays packed when others are added. -/
theorem Packed.mono {bundle after : Directory} {input : String × List UInt8} {file : BundleFile}
    (packed : Packed bundle key input file)
    (keeps : ∀ path content, bundle.lookup path = some content → after.lookup path = some content) :
    Packed after key input file := by
  obtain ⟨payload, found, reads⟩ := packed.reads
  exact ⟨packed.logicalPath, packed.sizeBytes, packed.passes, payload, keeps _ _ found, reads⟩

/-- The loop of `create_backup_bundle` packs every file. -/
theorem writeInputs_ok (ideal : IdealAes256Gcm) (keyLength : ∀ secret ∈ key, secret.length = 32)
    {random : BundleRandomness} (prefixLength : ∀ index, (random.noncePrefix index).length = 8)
    (reads : ReadSizes) {inputs : List (String × List UInt8)}
    (valid : ∀ input ∈ inputs, validatedLogicalPath input.1 = .ok input.1)
    (fits : ∀ input ∈ inputs, input.2.length ≤ (2 ^ 32 - 1) * bundleChunkSizeBytes)
    (start : Nat) (written : BundleWritten) (below : PayloadsBelow written.bundle start) :
    ∃ after files, (inputs.zipIdx start).foldlM (writeInput key random reads) written =
        .ok { bundle := after, files := written.files ++ files,
              totalSizeBytes :=
                (inputs.map fun input => input.2.length).foldl addSize written.totalSizeBytes } ∧
      List.Forall₂ (Packed after key) inputs files ∧
      files.map BundleFile.payloadPath = (List.range' start inputs.length).map payloadPath ∧
      PayloadsBelow after (start + inputs.length) ∧
      ∀ path content, written.bundle.lookup path = some content →
        after.lookup path = some content := by
  induction inputs generalizing start written with
  | nil =>
    refine ⟨written.bundle, [], ?_, .nil, rfl, below, fun _ _ found => found⟩
    rw [List.append_nil]
    rfl
  | cons input rest inductionHypothesis =>
    obtain ⟨payload, metadata, isWritten, size, readBack⟩ := payload_read_back ideal
      ⟨input.2, reads input.1⟩ key keyLength (prefixLength start) input.1
      (fits input List.mem_cons_self)
    obtain ⟨bundle, created, -⟩ := FileTree.exists_create payload below.free
    obtain ⟨nextBelow, here, grows⟩ := below.create created
    obtain ⟨after, files, packs, packed, paths, afterBelow, keeps⟩ := inductionHypothesis
      (fun input member => valid input (List.mem_cons_of_mem _ member))
      (fun input member => fits input (List.mem_cons_of_mem _ member)) (start + 1)
      { bundle
        files := written.files ++ [metadata.file input.1 (payloadPath start)]
        totalSizeBytes := addSize written.totalSizeBytes metadata.sizeBytes } nextBelow
    refine ⟨after, metadata.file input.1 (payloadPath start) :: files, ?_, .cons ?_ packed, ?_, ?_,
      fun path content found => keeps path content (grows path content found)⟩
    · rw [List.zipIdx_cons, List.foldlM_cons]
      have step : writeInput key random reads written (input, start) =
          .ok { bundle
                files := written.files ++ [metadata.file input.1 (payloadPath start)]
                totalSizeBytes := addSize written.totalSizeBytes metadata.sizeBytes } := by
        simp only [writeInput, valid input List.mem_cons_self, isWritten, created, bind, Except.bind]
      rw [step]
      show List.foldlM _ _ _ = _
      rw [packs, size, List.append_assoc, List.map_cons, List.foldl_cons]
      rfl
    · exact ⟨rfl, size, payloadPath_passes start, payload, keeps _ _ here,
        fun reader use left known => readBack reader use (payloadPath start) left known⟩
    · rw [List.map_cons, paths, List.length_cons, List.range'_succ, List.map_cons]
      rfl
    · rw [List.length_cons]
      have same : start + (rest.length + 1) = start + 1 + rest.length := by omega
      rw [same]
      exact afterBelow

end Packing

/-! ### Unpacking -/

/-- Neither file is in the way of the other one. -/
def Apart (one two : String × List UInt8) : Prop :=
  ¬segments one.1 <+: segments two.1 ∧ ¬segments two.1 <+: segments one.1

section Unpacking

variable [Aes256Gcm] [Sha256] {key use : Option (List UInt8)} {bundle : Directory}

/-- A round accepts a packed file if neither its path nor its payload was seen before, and nothing is
in its way. -/
theorem processFile_ok (known : use = none ∨ use = key) (unpacks : Bool) (reads : ReadSizes)
    {input : String × List UInt8} {file : BundleFile} (packed : Packed bundle key input file)
    (valid : validatedLogicalPath input.1 = .ok input.1) (plain : Char.ofNat 0 ∉ input.1.toList)
    {processed : BundleProcessed} (newLogical : input.1 ∉ processed.logicalPaths)
    (newPayload : file.payloadPath ∉ processed.payloadPaths)
    (free : processed.output.Free (segments input.1)) :
    ∃ output, processFile bundle use key.isSome unpacks reads processed file =
        .ok { logicalPaths := input.1 :: processed.logicalPaths
              payloadPaths := file.payloadPath :: processed.payloadPaths
              totalSizeBytes := addSize processed.totalSizeBytes input.2.length
              output := if unpacks then output else processed.output } ∧
      ∀ path, output.lookup path = if path = segments input.1 then
          some (if key.isSome ∧ use = none then [] else input.2)
        else processed.output.lookup path := by
  obtain ⟨payload, found, readBack⟩ := packed.reads
  obtain ⟨output, created, lookups⟩ := FileTree.exists_create
    (if key.isSome ∧ use = none then [] else input.2) free
  have contents := readBack ⟨payload, reads file.payloadPath⟩ use rfl known
  have creatable : Creatable processed.output input.1 := ⟨free, plain⟩
  refine ⟨output, ?_, lookups⟩
  simp only [processFile, packed.logicalPath, packed.sizeBytes, valid, validatedRelativePath,
    packed.passes, Bool.false_eq_true, if_false, bind, Except.bind, if_neg newLogical,
    if_neg newPayload, found, creatable, not_true_eq_false, and_false, contents, created,
    Option.getD_some]

/-- The loop of `process_bundle_files_v2` accepts packed files, and unpacks them where they belong. -/
theorem processFiles_ok (known : use = none ∨ use = key) {unpacks : Bool}
    (opened : unpacks → use = key) (reads : ReadSizes) {inputs : List (String × List UInt8)}
    {files : List BundleFile} (packed : List.Forall₂ (Packed bundle key) inputs files)
    (valid : ∀ input ∈ inputs, validatedLogicalPath input.1 = .ok input.1)
    (plain : ∀ input ∈ inputs, Char.ofNat 0 ∉ input.1.toList)
    (apart : inputs.Pairwise Apart) (payloads : (files.map BundleFile.payloadPath).Nodup)
    (processed : BundleProcessed)
    (newLogical : ∀ input ∈ inputs, input.1 ∉ processed.logicalPaths)
    (newPayload : ∀ file ∈ files, file.payloadPath ∉ processed.payloadPaths)
    (room : ∀ input ∈ inputs, ∀ path, (processed.output.lookup path).isSome →
      ¬path <+: segments input.1 ∧ ¬segments input.1 <+: path) :
    ∃ after, files.foldlM (processFile bundle use key.isSome unpacks reads) processed = .ok after ∧
      after.totalSizeBytes =
        (inputs.map fun input => input.2.length).foldl addSize processed.totalSizeBytes ∧
      (unpacks → ∀ path content, after.output.lookup path = some content ↔
        (∃ input ∈ inputs, segments input.1 = path ∧ input.2 = content) ∨
          processed.output.lookup path = some content) := by
  induction packed generalizing processed with
  | nil => exact ⟨processed, rfl, rfl, fun _ path content => by simp⟩
  | @cons input file inputs files isPacked packed inductionHypothesis =>
    obtain ⟨apartFirst, apartRest⟩ := List.pairwise_cons.mp apart
    obtain ⟨payloadFirst, payloadRest⟩ := List.nodup_cons.mp payloads
    obtain ⟨output, step, lookups⟩ := processFile_ok known unpacks reads isPacked
      (valid input List.mem_cons_self) (plain input List.mem_cons_self)
      (newLogical input List.mem_cons_self) (newPayload file List.mem_cons_self)
      (FileTree.free_iff.mpr fun path present _ => room input List.mem_cons_self path present)
    rw [List.foldlM_cons, step]
    obtain ⟨after, folds, total, unpacked⟩ := inductionHypothesis
      (fun input member => valid input (List.mem_cons_of_mem _ member))
      (fun input member => plain input (List.mem_cons_of_mem _ member)) apartRest payloadRest
      { logicalPaths := input.1 :: processed.logicalPaths
        payloadPaths := file.payloadPath :: processed.payloadPaths
        totalSizeBytes := addSize processed.totalSizeBytes input.2.length
        output := if unpacks then output else processed.output }
      (by
        intro other member seen
        rcases List.mem_cons.mp seen with same | seen
        · refine (apartFirst other member).1 ?_
          rw [same]
        · exact newLogical other (List.mem_cons_of_mem _ member) seen)
      (by
        intro other member seen
        rcases List.mem_cons.mp seen with same | seen
        · exact payloadFirst (same ▸ List.mem_map_of_mem member)
        · exact newPayload other (List.mem_cons_of_mem _ member) seen)
      (by
        intro other member path present
        dsimp only at present
        split at present
        · rw [lookups] at present
          split at present
          · rename_i same
            rw [same]
            exact apartFirst other member
          · exact room other (List.mem_cons_of_mem _ member) path present
        · exact room other (List.mem_cons_of_mem _ member) path present)
    refine ⟨after, folds, ?_, fun opens path content => ?_⟩
    · rw [total, List.map_cons, List.foldl_cons]
    · have plainText : (if key.isSome ∧ use = none then ([] : List UInt8) else input.2) = input.2 := by
        refine if_neg fun both => ?_
        rw [opened opens] at both
        exact absurd both.1 (by simp [both.2])
      rw [unpacked opens, if_pos opens, lookups, plainText]
      constructor
      · rintro (⟨other, member, rfl, rfl⟩ | here)
        · exact Or.inl ⟨other, List.mem_cons_of_mem _ member, rfl, rfl⟩
        · split at here
          · rename_i same
            exact Or.inl ⟨input, List.mem_cons_self, same.symm, Option.some.inj here⟩
          · exact Or.inr here
      · rintro (⟨other, member, rfl, rfl⟩ | before)
        · rcases List.mem_cons.mp member with rfl | member
          · exact Or.inr (if_pos rfl)
          · exact Or.inl ⟨other, member, rfl, rfl⟩
        · refine Or.inr ?_
          rw [if_neg]
          · exact before
          · rintro rfl
            exact (room input List.mem_cons_self _ (Option.isSome_of_eq_some before)).1
              List.prefix_rfl

end Unpacking

/-! ### The files of a bundle -/

/-- What is packed at a path: the dump, and the objects beneath their directory. -/
def bundledFile (databaseDump : List UInt8) (objectStoreBackup : Directory) (path : List String) :
    Option (List UInt8) :=
  if path = ["database.dump"] then some databaseDump
  else (objectStoreBackup.within "object-store").lookup path

section Inputs

variable {databaseDump : List UInt8} {objectStoreBackup : Directory}

theorem mem_bundleInputs {input : String × List UInt8} :
    input ∈ bundleInputs databaseDump objectStoreBackup ↔
      input = ("database.dump", databaseDump) ∨ ∃ path content,
        objectStoreBackup.lookup path = some content ∧
        input = ("object-store/" ++ joined path, content) := by
  rw [bundleInputs, List.mem_insertionSort, List.mem_cons, List.mem_map]
  refine or_congr_right ⟨?_, ?_⟩
  · rintro ⟨⟨path, content⟩, member, rfl⟩
    exact ⟨path, content, FileTree.mem_entries_iff.mp member, rfl⟩
  · rintro ⟨path, content, found, rfl⟩
    exact ⟨(path, content), FileTree.mem_entries_iff.mpr found, rfl⟩

theorem segments_dump : segments "database.dump" = ["database.dump"] := by decide

/-- The files to pack, by the components of their names. -/
theorem exists_input_iff (names : NamesPass objectStoreBackup) {path : List String}
    {content : List UInt8} :
    (∃ input ∈ bundleInputs databaseDump objectStoreBackup,
        segments input.1 = path ∧ input.2 = content) ↔
      bundledFile databaseDump objectStoreBackup path = some content := by
  unfold bundledFile
  constructor
  · rintro ⟨input, member, rfl, rfl⟩
    rcases mem_bundleInputs.mp member with rfl | ⟨path, content, found, rfl⟩
    · exact if_pos segments_dump
    · obtain ⟨plain, passes⟩ := names path content found
      rw [segments_object plain passes, if_neg]
      · exact FileTree.lookup_within.mpr ⟨path, rfl, found⟩
      · intro same
        exact absurd (List.cons.inj same).1 (by decide)
  · intro found
    split at found
    · rename_i isDump
      exact ⟨_, mem_bundleInputs.mpr (Or.inl rfl), segments_dump.trans isDump.symm,
        Option.some.inj found⟩
    · obtain ⟨rest, rfl, inTree⟩ := FileTree.lookup_within.mp found
      obtain ⟨plain, passes⟩ := names rest content inTree
      exact ⟨_, mem_bundleInputs.mpr (Or.inr ⟨rest, content, inTree, rfl⟩),
        segments_object plain passes, rfl⟩

theorem validatedLogicalPath_input (names : NamesPass objectStoreBackup)
    {input : String × List UInt8} (member : input ∈ bundleInputs databaseDump objectStoreBackup) :
    validatedLogicalPath input.1 = .ok input.1 := by
  rcases mem_bundleInputs.mp member with rfl | ⟨path, content, found, rfl⟩
  · have passes : escapes "database.dump" = false := by decide
    simp [validatedLogicalPath, validatedRelativePath, passes, bind, Except.bind]
  · exact validatedLogicalPath_object (names path content found).2

theorem nul_notMem_input (names : NamesPass objectStoreBackup) {input : String × List UInt8}
    (member : input ∈ bundleInputs databaseDump objectStoreBackup) :
    Char.ofNat 0 ∉ input.1.toList := by
  rcases mem_bundleInputs.mp member with rfl | ⟨path, content, found, rfl⟩
  · exact (by decide : Char.ofNat 0 ∉ "database.dump".toList)
  · exact nul_notMem_object (names path content found).1

/-- No file to pack is in the way of another one. -/
theorem bundleInputs_apart (names : NamesPass objectStoreBackup) :
    (bundleInputs databaseDump objectStoreBackup).Pairwise Apart := by
  have symmetric : ∀ one two, Apart one two → Apart two one := fun one two apart => apart.symm
  refine (List.Perm.pairwise_iff (fun {one two} => symmetric one two)
    (List.perm_insertionSort _ _)).mpr (List.pairwise_cons.mpr ⟨fun other member => ?_, ?_⟩)
  · obtain ⟨⟨path, content⟩, inTree, rfl⟩ := List.mem_map.mp member
    obtain ⟨plain, passes⟩ := names path content (FileTree.mem_entries_iff.mp inTree)
    have different : ¬"database.dump" = "object-store" := by decide
    rw [Apart, segments_object plain passes, segments_dump]
    constructor
    · intro above
      exact different (List.cons_prefix_cons.mp above).1
    · intro above
      exact different (List.cons_prefix_cons.mp above).1.symm
  · refine List.pairwise_map.mpr ?_
    have distinct : objectStoreBackup.entries.Pairwise fun one two => one.1 ≠ two.1 :=
      List.pairwise_map.mp objectStoreBackup.paths_nodup
    refine distinct.imp_of_mem fun {one two} inOne inTwo different => ?_
    have foundOne := FileTree.mem_entries_iff.mp inOne
    have foundTwo := FileTree.mem_entries_iff.mp inTwo
    obtain ⟨plainOne, passesOne⟩ := names one.1 one.2 foundOne
    obtain ⟨plainTwo, passesTwo⟩ := names two.1 two.2 foundTwo
    rw [Apart, segments_object plainOne passesOne, segments_object plainTwo passesTwo]
    constructor
    · intro above
      exact different (objectStoreBackup.apart one.1 two.1 (Option.isSome_of_eq_some foundOne)
        (Option.isSome_of_eq_some foundTwo) (List.cons_prefix_cons.mp above).2)
    · intro above
      exact different (objectStoreBackup.apart two.1 one.1 (Option.isSome_of_eq_some foundTwo)
        (Option.isSome_of_eq_some foundOne) (List.cons_prefix_cons.mp above).2).symm

end Inputs

/-! ### Keys -/

theorem bundleKey_ok [KeyDerivation] (derivation : IdealDerivation) (password : Option String)
    {salt : List UInt8} (drawn : salt.length = 16) :
    ∃ key, bundleKey password (password.map fun _ => createEncryption salt) = .ok key ∧
      key.isSome = password.isSome ∧ ∀ secret ∈ key, secret.length = 32 := by
  cases password with
  | none => exact ⟨none, rfl, rfl, nofun⟩
  | some password =>
    obtain ⟨key, derived, length⟩ := derivation.argon2id 1 19456 2 (utf8Encode password) salt
      (by decide) (by decide) (by decide)
    refine ⟨some key, ?_, rfl, fun secret same => Option.some.inj same ▸ length⟩
    have sound : deriveBundleKey password (createEncryption salt) = .ok key := by
      rw [deriveBundleKey, if_neg (by simp [createEncryption])]
      simp only [createEncryption, standardDecode_base64Encode, drawn]
      rw [if_neg (by decide)]
      simp only [Nat.cast_one, Nat.cast_ofNat, derived]
    show (deriveBundleKey password (createEncryption salt)).map some = _
    rw [sound]
    rfl

/-- The key that a reader has: that of the bundle with its password, and none without it. -/
theorem readKey_ok [KeyDerivation] {password use : Option String} {manifest : BundleManifest}
    {encryption : Option BundleEncryption} {key : Option (List UInt8)}
    (known : manifest.encryption = encryption ∧ manifest.encrypted = encryption.isSome)
    (asked : encryption.isSome = password.isSome)
    (derived : bundleKey password encryption = .ok key) (isSome : key.isSome = password.isSome)
    (uses : use = none ∨ use = password) :
    ∃ readKey, manifest.key use = .ok readKey ∧ (readKey = none ∨ readKey = key) ∧
      (use = password → readKey = key) ∧
      (!manifest.encrypted || readKey.isSome) = decide (use = password) := by
  obtain ⟨same, encrypted⟩ := known
  rw [BundleManifest.key, encrypted, same, asked]
  cases password with
  | none =>
    obtain rfl : key = none := Option.not_isSome_iff_eq_none.mp (by rw [isSome]; simp)
    obtain rfl : use = none := uses.elim id id
    exact ⟨none, rfl, Or.inl rfl, fun _ => rfl, rfl⟩
  | some password =>
    rcases uses with rfl | rfl
    · refine ⟨none, ?_, Or.inl rfl, nofun, rfl⟩
      rw [if_pos (by rfl)]
      cases encryption <;> rfl
    · refine ⟨key, ?_, Or.inr rfl, fun _ => rfl, ?_⟩
      · rw [if_pos (by rfl)]
        exact derived
      · rw [isSome, decide_eq_true rfl]
        rfl

/-! ### Manifests as JSON -/

/-- A number of the manifest, -/
def numberJson (value : Nat) : Json := .ofInt value

/-- and how it is read. -/
def natField (json : List (String × Json)) (key : String) : Option Nat :=
  ((json.lookup key).bind Json.asInt?).map Int.toNat

theorem natField_eq {json : List (String × Json)} {key : String} {value : Option Nat}
    (found : json.lookup key = value.map numberJson) : natField json key = value := by
  rw [natField, found]
  cases value with
  | none => rfl
  | some value => simp [numberJson]

theorem textField_eq_map {json : List (String × Json)} {key : String} {value : Option String}
    (found : json.lookup key = value.map .str) : textField json key = value := by
  rw [textField, found]
  cases value <;> rfl

/-- The entry about a file, as `serde` writes it, -/
def BundleFile.toJson (file : BundleFile) : Json := .obj (
  ("logicalPath", .str file.logicalPath) ::
  ("payloadPath", .str file.payloadPath) ::
  ("sizeBytes", numberJson file.sizeBytes) ::
  ("sha256", .str file.sha256) ::
  ("storedSizeBytes", numberJson file.storedSizeBytes) ::
  ("storedSha256", .str file.storedSha256) ::
  (optionalField "nonceBase64" (file.nonceBase64.map .str) ++
  (optionalField "chunkSizeBytes" (file.chunkSizeBytes.map numberJson) ++
  optionalField "chunkCount" (file.chunkCount.map numberJson))))

/-- and as it is read. -/
def BundleFile.fromJson : Json → Option BundleFile
  | .obj json => do
    return {
      logicalPath := ← textField json "logicalPath"
      payloadPath := ← textField json "payloadPath"
      sizeBytes := ← natField json "sizeBytes"
      sha256 := ← textField json "sha256"
      storedSizeBytes := ← natField json "storedSizeBytes"
      storedSha256 := ← textField json "storedSha256"
      nonceBase64 := textField json "nonceBase64"
      chunkSizeBytes := natField json "chunkSizeBytes"
      chunkCount := natField json "chunkCount" }
  | _ => none

/-- What is said of the key, -/
def BundleEncryption.toJson (encryption : BundleEncryption) : Json := .obj
  [("cipher", .str encryption.cipher), ("kdf", .str encryption.kdf),
    ("saltBase64", .str encryption.saltBase64), ("memoryKib", numberJson encryption.memoryKib),
    ("iterations", numberJson encryption.iterations),
    ("parallelism", numberJson encryption.parallelism)]

/-- and how it is read. -/
def BundleEncryption.fromJson : Json → Option BundleEncryption
  | .obj json => do
    return {
      cipher := ← textField json "cipher"
      kdf := ← textField json "kdf"
      saltBase64 := ← textField json "saltBase64"
      memoryKib := ← natField json "memoryKib"
      iterations := ← natField json "iterations"
      parallelism := ← natField json "parallelism" }
  | _ => none

/-- The fields of a manifest, -/
def BundleManifest.fields (manifest : BundleManifest) : List (String × Json) :=
  ("kind", .str manifest.kind) ::
  ("schemaVersion", numberJson manifest.schemaVersion) ::
  ("createdAt", .str manifest.createdAt) ::
  ("encrypted", .bool manifest.encrypted) ::
  (optionalField "encryption" (manifest.encryption.map BundleEncryption.toJson) ++
  [("fileCount", numberJson manifest.fileCount),
    ("totalSizeBytes", numberJson manifest.totalSizeBytes),
    ("files", .arr (manifest.files.map BundleFile.toJson))])

/-- and the manifest that they give. -/
def BundleManifest.fromFields (json : List (String × Json)) : Option BundleManifest := do
  let .bool encrypted ← json.lookup "encrypted" | none
  let .arr files ← json.lookup "files" | none
  return {
    kind := ← textField json "kind"
    schemaVersion := ← natField json "schemaVersion"
    createdAt := ← textField json "createdAt"
    encrypted
    encryption := (json.lookup "encryption").bind BundleEncryption.fromJson
    fileCount := ← natField json "fileCount"
    totalSizeBytes := ← natField json "totalSizeBytes"
    files := ← files.mapM BundleFile.fromJson }

/-- The manifest that a text gives. -/
def BundleManifest.fromText (bytes : List UInt8) : Option BundleManifest :=
  match readJsonFile bytes "" "" with
  | .ok json => fromFields json
  | .error _ => none

/-- Manifests as JSON. -/
@[reducible] def jsonBundleManifest : BundleManifestText where
  encode manifest := jsonFile manifest.fields
  decode := BundleManifest.fromText

theorem BundleFile.wellFormed_toJson (file : BundleFile) : file.toJson.WellFormed := by
  rw [toJson, Json.WellFormed]
  constructor
  · simp only [List.map_cons, List.map_append]
    refine List.Nodup.sublist ((List.Sublist.refl ["logicalPath", "payloadPath", "sizeBytes",
      "sha256", "storedSizeBytes", "storedSha256"]).append ((keys_optionalField _ _).append
      ((keys_optionalField _ _).append (keys_optionalField _ _)))) (by decide)
  · have number : ∀ value : Option Nat, ∀ found ∈ value.map numberJson, found.WellFormed := by
      intro value found member
      obtain ⟨value, -, rfl⟩ := Option.mem_map.mp member
      exact Json.wellFormed_ofInt _
    refine ⟨trivial, trivial, Json.wellFormed_ofInt _, trivial, Json.wellFormed_ofInt _, trivial, ?_⟩
    refine wellFormedFields_append (wellFormedFields_optionalField _ fun found member => ?_)
      (wellFormedFields_append (wellFormedFields_optionalField _ (number _))
        (wellFormedFields_optionalField _ (number _)))
    obtain ⟨text, -, rfl⟩ := Option.mem_map.mp member
    trivial

theorem BundleFile.fromJson_toJson (file : BundleFile) : fromJson file.toJson = some file := by
  obtain ⟨json, fields⟩ : ∃ json, file.toJson = .obj json := ⟨_, rfl⟩
  have text : ∀ (key : String) (value : Option String), json.lookup key = value.map .str →
      textField json key = value := fun _ _ => textField_eq_map
  have number : ∀ (key : String) (value : Option Nat), json.lookup key = value.map numberJson →
      natField json key = value := fun _ _ => natField_eq
  obtain rfl := (Json.obj.inj fields).symm
  rw [fields, fromJson, text "logicalPath" (some file.logicalPath) rfl,
    text "payloadPath" (some file.payloadPath) rfl, number "sizeBytes" (some file.sizeBytes) rfl,
    text "sha256" (some file.sha256) rfl,
    number "storedSizeBytes" (some file.storedSizeBytes) rfl,
    text "storedSha256" (some file.storedSha256) rfl, text "nonceBase64" file.nonceBase64,
    number "chunkSizeBytes" file.chunkSizeBytes, number "chunkCount" file.chunkCount]
  · rfl
  all_goals simp [List.lookup_cons, lookup_optionalField_append, lookup_optionalField]

theorem BundleEncryption.wellFormed_toJson (encryption : BundleEncryption) :
    encryption.toJson.WellFormed := by
  have keys : ["cipher", "kdf", "saltBase64", "memoryKib", "iterations", "parallelism"].Nodup := by
    decide
  exact ⟨keys, trivial, trivial, trivial, Json.wellFormed_ofInt _, Json.wellFormed_ofInt _,
    Json.wellFormed_ofInt _, trivial⟩

theorem BundleEncryption.fromJson_toJson (encryption : BundleEncryption) :
    fromJson encryption.toJson = some encryption := by
  obtain ⟨json, fields⟩ : ∃ json, encryption.toJson = .obj json := ⟨_, rfl⟩
  have text : ∀ (key value : String), json.lookup key = some (.str value) →
      textField json key = some value := fun _ _ => textField_eq
  have number : ∀ (key : String) (value : Option Nat), json.lookup key = value.map numberJson →
      natField json key = value := fun _ _ => natField_eq
  obtain rfl := (Json.obj.inj fields).symm
  rw [fields, fromJson, text "cipher" encryption.cipher rfl, text "kdf" encryption.kdf rfl,
    text "saltBase64" encryption.saltBase64 rfl,
    number "memoryKib" (some encryption.memoryKib) rfl,
    number "iterations" (some encryption.iterations) rfl,
    number "parallelism" (some encryption.parallelism) rfl]
  rfl

theorem BundleManifest.wellFormed_fields (manifest : BundleManifest) :
    (Json.obj manifest.fields).WellFormed := by
  rw [fields, Json.WellFormed]
  constructor
  · simp only [List.map_cons, List.map_append]
    refine List.Nodup.sublist ((List.Sublist.refl ["kind", "schemaVersion", "createdAt",
      "encrypted"]).append ((keys_optionalField _ _).append
      (List.Sublist.refl ["fileCount", "totalSizeBytes", "files"]))) (by decide)
  · have files : (Json.arr (manifest.files.map BundleFile.toJson)).WellFormed := by
      rw [Json.WellFormed, Json.wellFormedItems_iff]
      intro item member
      obtain ⟨file, -, rfl⟩ := List.mem_map.mp member
      exact file.wellFormed_toJson
    refine ⟨trivial, Json.wellFormed_ofInt _, trivial, trivial, ?_⟩
    refine wellFormedFields_append (wellFormedFields_optionalField _ fun found member => ?_)
      ⟨Json.wellFormed_ofInt _, Json.wellFormed_ofInt _, files, trivial⟩
    obtain ⟨encryption, -, rfl⟩ := Option.mem_map.mp member
    exact encryption.wellFormed_toJson

theorem BundleManifest.fromFields_fields (manifest : BundleManifest) :
    fromFields manifest.fields = some manifest := by
  obtain ⟨json, same⟩ : ∃ json, json = manifest.fields := ⟨_, rfl⟩
  have text : ∀ (key value : String), json.lookup key = some (.str value) →
      textField json key = some value := fun _ _ => textField_eq
  have number : ∀ (key : String) (value : Nat), json.lookup key = some (numberJson value) →
      natField json key = some value := fun _ _ found => natField_eq found
  have files : (manifest.files.map BundleFile.toJson).mapM BundleFile.fromJson =
      some manifest.files := by
    induction manifest.files with
    | nil => rfl
    | cons file rest inductionHypothesis =>
      rw [List.map_cons, List.mapM_cons, inductionHypothesis, file.fromJson_toJson]
      rfl
  have encryption : json.lookup "encryption" =
      manifest.encryption.map BundleEncryption.toJson := by
    subst same
    simp [fields, List.lookup_cons, lookup_optionalField_append]
  have encryptionRead : (json.lookup "encryption").bind BundleEncryption.fromJson =
      manifest.encryption := by
    rw [encryption]
    cases manifest.encryption with
    | none => rfl
    | some encryption => exact encryption.fromJson_toJson
  have encrypted : json.lookup "encrypted" = some (.bool manifest.encrypted) := by
    subst same
    rfl
  have filesFound : json.lookup "files" = some (.arr (manifest.files.map BundleFile.toJson)) := by
    subst same
    simp [fields, List.lookup_cons, lookup_optionalField_append]
  rw [← same, fromFields, encrypted, filesFound]
  simp only [Option.bind_eq_bind, Option.bind_some]
  rw [files, encryptionRead, text "kind" manifest.kind, number "schemaVersion" manifest.schemaVersion,
    text "createdAt" manifest.createdAt, number "fileCount" manifest.fileCount,
    number "totalSizeBytes" manifest.totalSizeBytes]
  · rfl
  all_goals
    subst same
    simp [fields, List.lookup_cons, lookup_optionalField_append]

theorem BundleManifest.fromText_jsonFile (manifest : BundleManifest) :
    fromText (jsonFile manifest.fields) = some manifest := by
  rw [fromText, readJsonFile_jsonFile manifest.wellFormed_fields]
  exact manifest.fromFields_fields

theorem jsonBundleManifest_readBack : @ManifestsReadBack jsonBundleManifest :=
  BundleManifest.fromText_jsonFile

/-! ### The round trip -/

section RoundTrip

variable [Aes256Gcm] [Sha256] [KeyDerivation] [BundleManifestText] [ObjectManifestText]

/-- A bundle whose files are read back: those that were packed, as far as the reader knows the
password. -/
structure ReadsBack (bundle : Directory) (manifest : BundleManifest) (databaseDump : List UInt8)
    (objectStoreBackup : Directory) (password : Option String) : Prop where
  read : readBundleManifest bundle = .ok manifest
  schema : manifest.schemaVersion = 2
  encrypted : manifest.encrypted = password.isSome
  files : ∀ (use : Option String) (unpacks : Bool) (reads : ReadSizes), use = none ∨ use = password →
    (unpacks = true → use = password) →
    ∃ output, processBundleFilesV2 bundle manifest use unpacks reads =
        .ok (output, decide (use = password)) ∧
      (unpacks = true → ∀ path,
        output.lookup path = bundledFile databaseDump objectStoreBackup path)

/-- The manifest that `create_backup_bundle` writes. -/
def packedManifest (createdAt : String) (encryption : Option BundleEncryption)
    (written : BundleWritten) : BundleManifest where
  kind := "ledgerly-server-backup-bundle"
  schemaVersion := 2
  createdAt := createdAt
  encrypted := encryption.isSome
  encryption := encryption
  fileCount := written.files.length
  totalSizeBytes := written.totalSizeBytes
  files := written.files

omit [Aes256Gcm] [Sha256] [KeyDerivation] [ObjectManifestText] in
theorem readBundleManifest_packed (readBack : ManifestsReadBack) {bundle after : Directory}
    {createdAt : String} {encryption : Option BundleEncryption} {written : BundleWritten}
    (created : bundle.create ["manifest.json"]
      (BundleManifestText.encode (packedManifest createdAt encryption written)) = some after) :
    readBundleManifest after = .ok (packedManifest createdAt encryption written) := by
  rw [readBundleManifest, FileTree.eq_of_create created, if_pos rfl]
  dsimp only
  rw [readBack]
  simp [packedManifest]

/-- A bundle is made of the payloads that the loop has written, and of their manifest. -/
theorem createBackupBundle_eq_ok_iff {databaseDump : List UInt8} {objectStoreBackup : Directory}
    {password : Option String} {createdAt : String} {random : BundleRandomness} {reads : ReadSizes}
    {bundle : Directory} {report : BackupBundleReport} :
    createBackupBundle (some databaseDump) objectStoreBackup password createdAt random reads =
        .ok (bundle, report) ↔
      tooShort password = false ∧
      (∃ count, verifyObjectStoreBackup workingCalls (objectStoreBackup.within "object-store") =
        .ok count) ∧
      ∃ key written,
        bundleKey password (password.map fun _ => createEncryption random.salt) = .ok key ∧
        (bundleInputs databaseDump objectStoreBackup).zipIdx.foldlM (writeInput key random reads) {} =
          .ok written ∧
        written.bundle.create ["manifest.json"] (BundleManifestText.encode (packedManifest createdAt
          (password.map fun _ => createEncryption random.salt) written)) = some bundle ∧
        report = ⟨written.files.length, written.totalSizeBytes, password.isSome⟩ := by
  have encrypted : (password.map fun _ => createEncryption random.salt).isSome = password.isSome :=
    Option.isSome_map ..
  rw [createBackupBundle]
  constructor
  · intro made
    split at made
    · cases made
    rename_i long
    obtain ⟨count, verified, made⟩ := Except.bind_eq_ok.mp made
    obtain ⟨key, derived, made⟩ := Except.bind_eq_ok.mp made
    obtain ⟨written, packs, made⟩ := Except.bind_eq_ok.mp made
    dsimp only at made
    split at made
    · cases made
    rename_i created
    obtain ⟨rfl, rfl⟩ := Prod.mk.inj (Except.ok.inj made)
    refine ⟨Bool.eq_false_of_not_eq_true long, ?_, key, written, derived, packs, created, ?_⟩
    · cases found : verifyObjectStoreBackup workingCalls (objectStoreBackup.within "object-store") with
      | error error => rw [found] at verified; cases verified
      | ok count => exact ⟨count, rfl⟩
    · rw [encrypted]
  · rintro ⟨long, ⟨count, verified⟩, key, written, derived, packs, created, rfl⟩
    rw [packedManifest] at created
    rw [long, if_neg Bool.false_ne_true, verified]
    dsimp only [Except.mapError, bind, Except.bind]
    rw [derived]
    dsimp only
    rw [packs]
    dsimp only
    rw [created, encrypted]

omit [ObjectManifestText] in
/-- A bundle of packed files is read with its password, and stands its checks without it. -/
theorem readsBack_of_packed {bundle : Directory} {manifest : BundleManifest}
    {databaseDump : List UInt8} {objectStoreBackup : Directory} {password : Option String}
    {salt : List UInt8} {key : Option (List UInt8)} (names : NamesPass objectStoreBackup)
    (long : tooShort password = false) (read : readBundleManifest bundle = .ok manifest)
    (schema : manifest.schemaVersion = 2)
    (encryption : manifest.encryption = password.map fun _ => createEncryption salt)
    (encrypted : manifest.encrypted = password.isSome)
    (derived : bundleKey password (password.map fun _ => createEncryption salt) = .ok key)
    (isSome : key.isSome = password.isSome)
    (packed : List.Forall₂ (Packed bundle key) (bundleInputs databaseDump objectStoreBackup)
      manifest.files)
    (distinct : (manifest.files.map BundleFile.payloadPath).Nodup)
    (total : manifest.totalSizeBytes =
      ((bundleInputs databaseDump objectStoreBackup).map fun input =>
        input.2.length).foldl addSize 0) :
    ReadsBack bundle manifest databaseDump objectStoreBackup password := by
  refine ⟨read, schema, encrypted, fun use unpacks reads known opens => ?_⟩
  obtain ⟨readKey, keyRead, isKnown, sameKey, checked⟩ :=
    @readKey_ok _ password use manifest _ key ⟨encryption, by rw [encrypted, Option.isSome_map]⟩
      (Option.isSome_map ..) derived isSome known
  have short : ¬(manifest.encrypted = true ∧ tooShort use = true) := by
    rintro ⟨-, isShort⟩
    rcases known with rfl | rfl
    · cases isShort
    · rw [long] at isShort
      cases isShort
  have withKey : manifest.encrypted = key.isSome := encrypted.trans isSome.symm
  have opened : ¬(manifest.encrypted = true ∧ unpacks = true ∧ readKey.isNone = true) := by
    rintro ⟨isEncrypted, unpacked, none⟩
    rw [sameKey (opens unpacked), Option.isNone_iff_eq_none] at none
    rw [withKey, none] at isEncrypted
    cases isEncrypted
  obtain ⟨processed, folds, sameTotal, output⟩ := processFiles_ok isKnown
    (fun unpacked => sameKey (opens unpacked)) reads packed
    (fun _ => validatedLogicalPath_input names) (fun _ => nul_notMem_input names)
    (bundleInputs_apart names) distinct {} (fun _ _ => List.not_mem_nil)
    (fun _ _ => List.not_mem_nil) (by
      intro input _ path present
      rw [FileTree.lookup_empty] at present
      cases present)
  refine ⟨processed.output, ?_, fun unpacked path => Option.ext fun content => ?_⟩
  · rw [← withKey] at folds
    rw [← total] at sameTotal
    rw [processBundleFilesV2, if_neg short, keyRead]
    show (if _ then _ else _) = _
    rw [if_neg opened, folds]
    show (if _ then _ else _) = _
    rw [if_neg (not_not.mpr sameTotal), checked]
  · rw [output unpacked, FileTree.lookup_empty, exists_input_iff names]
    simp

/-- Every dump and every backup of objects whose names pass the checks is packed. -/
theorem createBackupBundle_ok (ideal : IdealAes256Gcm) (derivation : IdealDerivation)
    (readBack : ManifestsReadBack) {databaseDump : List UInt8} {objectStoreBackup : Directory}
    (names : NamesPass objectStoreBackup) {objectCount : Nat}
    (verified : verifyObjectStoreBackup workingCalls (objectStoreBackup.within "object-store") =
      .ok objectCount)
    (dumpFits : databaseDump.length ≤ (2 ^ 32 - 1) * bundleChunkSizeBytes)
    (objectsFit : ∀ path content, objectStoreBackup.lookup path = some content →
      content.length ≤ (2 ^ 32 - 1) * bundleChunkSizeBytes)
    (password : Option String) (long : tooShort password = false) (createdAt : String)
    (random : BundleRandomness) (saltLength : random.salt.length = 16)
    (prefixLength : ∀ index, (random.noncePrefix index).length = 8) (reads : ReadSizes) :
    ∃ bundle manifest, createBackupBundle (some databaseDump) objectStoreBackup password createdAt
        random reads =
          .ok (bundle, ⟨manifest.fileCount, manifest.totalSizeBytes, manifest.encrypted⟩) ∧
      ReadsBack bundle manifest databaseDump objectStoreBackup password := by
  obtain ⟨key, derived, isSome, keyLength⟩ := bundleKey_ok derivation password saltLength
  have fits : ∀ input ∈ bundleInputs databaseDump objectStoreBackup,
      input.2.length ≤ (2 ^ 32 - 1) * bundleChunkSizeBytes := by
    intro input member
    rcases mem_bundleInputs.mp member with rfl | ⟨path, content, found, rfl⟩
    · exact dumpFits
    · exact objectsFit path content found
  obtain ⟨payloads, files, packs, packed, paths, below, -⟩ := writeInputs_ok ideal keyLength
    prefixLength reads (fun _ => validatedLogicalPath_input names) fits 0 {} payloadsBelow_empty
  obtain ⟨bundle, created, -⟩ := FileTree.exists_create
    (BundleManifestText.encode (packedManifest createdAt
      (password.map fun _ => createEncryption random.salt) ⟨payloads, [] ++ files, _⟩))
    (FileTree.free_iff.mpr fun other present _ => below.apart present)
  refine ⟨bundle, _, createBackupBundle_eq_ok_iff.mpr ⟨long, ⟨_, verified⟩, key, _, derived, packs,
    created, ?_⟩, readsBack_of_packed names long (readBundleManifest_packed readBack created) rfl rfl
    (Option.isSome_map ..) derived isSome ?_ ?_ rfl⟩
  · exact congrArg (BackupBundleReport.mk _ _) (Option.isSome_map ..)
  · exact packed.imp fun input file isPacked => isPacked.mono fun _ _ => below.addManifest created
  · show (files.map BundleFile.payloadPath).Nodup
    rw [paths]
    exact List.Nodup.map payloadPath_injective List.nodup_range'

section Reading

variable {bundle : Directory} {manifest : BundleManifest} {databaseDump : List UInt8}
  {objectStoreBackup : Directory} {password : Option String}

omit [ObjectManifestText] in
theorem ReadsBack.verify (back : ReadsBack bundle manifest databaseDump objectStoreBackup password)
    {use : Option String} (known : use = none ∨ use = password) (reads : ReadSizes) :
    verifyBackupBundle bundle use reads = .ok ⟨manifest.fileCount, manifest.totalSizeBytes,
      password.isSome, decide (use = password)⟩ := by
  obtain ⟨output, processed, -⟩ := back.files use false reads known nofun
  rw [verifyBackupBundle, back.read]
  show (if _ then _ else _) = _
  rw [if_pos (by rw [back.schema]), processed, ← back.encrypted]
  rfl

omit [ObjectManifestText] in
theorem ReadsBack.unpack (back : ReadsBack bundle manifest databaseDump objectStoreBackup password)
    (reads : ReadSizes) :
    ∃ unpacked, unpackBackupBundle bundle password reads =
        .ok (unpacked, ⟨manifest.fileCount, manifest.totalSizeBytes, manifest.encrypted⟩) ∧
      ∀ path, unpacked.lookup path = bundledFile databaseDump objectStoreBackup path := by
  obtain ⟨output, processed, files⟩ := back.files password true reads (Or.inr rfl) fun _ => rfl
  refine ⟨output, ?_, files rfl⟩
  rw [unpackBackupBundle, back.read]
  show (if _ then _ else _) = _
  rw [if_neg, if_pos (by rw [back.schema]), processed]
  · rfl
  · rintro ⟨isEncrypted, rfl⟩
    rw [back.encrypted] at isEncrypted
    cases isEncrypted

end Reading

/-- Every dump and every backup of objects whose names pass the checks is packed, with a password
of eight bytes at least or without one. The bundle stands its checks, with the password to the last
byte; and it unpacks to the files that were packed. -/
theorem bundle_round_trip (ideal : IdealAes256Gcm) (derivation : IdealDerivation)
    (readBack : ManifestsReadBack) {databaseDump : List UInt8} {objectStoreBackup : Directory}
    (names : NamesPass objectStoreBackup) {objectCount : Nat}
    (verified : verifyObjectStoreBackup workingCalls (objectStoreBackup.within "object-store") =
      .ok objectCount)
    (dumpFits : databaseDump.length ≤ (2 ^ 32 - 1) * bundleChunkSizeBytes)
    (objectsFit : ∀ path content, objectStoreBackup.lookup path = some content →
      content.length ≤ (2 ^ 32 - 1) * bundleChunkSizeBytes)
    (password : Option String) (long : tooShort password = false) (createdAt : String)
    (random : BundleRandomness) (saltLength : random.salt.length = 16)
    (prefixLength : ∀ index, (random.noncePrefix index).length = 8) (reads : ReadSizes) :
    ∃ bundle report, createBackupBundle (some databaseDump) objectStoreBackup password createdAt
        random reads = .ok (bundle, report) ∧
      (∀ use reads, use = none ∨ use = password → verifyBackupBundle bundle use reads =
        .ok ⟨report.fileCount, report.totalSizeBytes, password.isSome, decide (use = password)⟩) ∧
      ∀ reads, ∃ unpacked, unpackBackupBundle bundle password reads = .ok (unpacked, report) ∧
        ∀ path, unpacked.lookup path = bundledFile databaseDump objectStoreBackup path := by
  obtain ⟨bundle, manifest, made, back⟩ := createBackupBundle_ok ideal derivation readBack names
    verified dumpFits objectsFit password long createdAt random saltLength prefixLength reads
  exact ⟨bundle, _, made, fun use reads known => back.verify known reads, back.unpack⟩

end RoundTrip

/-- A stand-in for the cipher: it only adds a tag, which protects nothing. -/
@[reducible] def onlyTag : Aes256Gcm where
  encrypt _ _ _ plaintext := some (plaintext ++ List.replicate 16 0)
  decrypt _ _ _ ciphertext := some (ciphertext.take (ciphertext.length - 16))

theorem onlyTag_ideal : @IdealAes256Gcm onlyTag := by
  intro key nonce associated plaintext _ _ _
  refine ⟨plaintext ++ List.replicate 16 0, rfl, ?_, ?_⟩
  · rw [List.length_append, List.length_replicate]
  · show some ((plaintext ++ List.replicate 16 0).take _) = _
    rw [List.length_append, List.length_replicate, Nat.add_sub_cancel, List.take_left]

/-- A stand-in for the manifest of a receipt: one byte, and no other text is read. The digest is
that of `emptySha256`. -/
@[reducible] def receiptManifestReader : ObjectManifestText where
  decode bytes :=
    if bytes = [0] then
      some ⟨"ledgerly-object-store-backup", 1, 1, 1, [⟨"books/receipt", 1,
        "e3b0c44298fc1c149afbf4c8996fb92427ae41e4649b934ca495991b7852b855"⟩]⟩
    else none

/-- A backup of objects with one receipt. -/
def receiptBackup : Directory :=
  ((FileTree.empty.create ["manifest.json"] [0]).getD .empty |>.create
    ["objects", "books", "receipt"] [7]).getD .empty

theorem lookup_receiptBackup (path : List String) :
    receiptBackup.lookup path = if path = ["objects", "books", "receipt"] then some [7]
      else if path = ["manifest.json"] then some [0] else none := by
  have free : ((FileTree.empty.create ["manifest.json"] [0]).getD
      (.empty : Directory)).Free ["objects", "books", "receipt"] := by decide
  rw [receiptBackup, FileTree.lookup_create _ free, FileTree.lookup_create_empty]

theorem receiptBackup_names : NamesPass receiptBackup := by
  intro path content found
  rw [lookup_receiptBackup] at found
  split at found
  · rename_i same
    subst same
    decide
  split at found
  · rename_i same
    subst same
    decide
  · cases found

theorem receiptBackup_fits : ∀ path content, receiptBackup.lookup path = some content →
    content.length ≤ (2 ^ 32 - 1) * bundleChunkSizeBytes := by
  intro path content found
  rw [bundleChunkSizeBytes_eq]
  rw [lookup_receiptBackup] at found
  split at found
  · obtain rfl := Option.some.inj found
    decide
  split at found
  · obtain rfl := Option.some.inj found
    decide
  · cases found

set_option maxRecDepth 10000 in
theorem receiptBackup_verified :
    let _ := emptySha256
    let _ := receiptManifestReader
    verifyObjectStoreBackup workingCalls (receiptBackup.within "object-store") = .ok 1 := rfl

/-- A dump of three bytes and a backup with a receipt, packed with a password. -/
theorem first_bundle_comes_back :
    let _ := onlyTag
    let _ := emptySha256
    let _ := paddedKeys
    let _ := jsonBundleManifest
    let _ := receiptManifestReader
    ∃ bundle report, createBackupBundle (some [1, 2, 3]) receiptBackup (some "12345678")
        "2026-05-01T00:00:00Z" ⟨List.replicate 16 7, fun _ => List.replicate 8 7⟩ (fun _ _ => 0) =
          .ok (bundle, report) ∧
      (∀ use reads, use = none ∨ use = some "12345678" → verifyBackupBundle bundle use reads =
        .ok ⟨report.fileCount, report.totalSizeBytes, true, decide (use = some "12345678")⟩) ∧
      ∀ reads, ∃ unpacked, unpackBackupBundle bundle (some "12345678") reads =
          .ok (unpacked, report) ∧
        ∀ path, unpacked.lookup path = bundledFile [1, 2, 3] receiptBackup path := by
  intro _ _ _ _ _
  refine bundle_round_trip onlyTag_ideal paddedKeys_ideal jsonBundleManifest_readBack
    receiptBackup_names receiptBackup_verified ?_ receiptBackup_fits (some "12345678") (by decide)
    "2026-05-01T00:00:00Z" _ (by decide) (fun _ => rfl) _
  rw [bundleChunkSizeBytes_eq]
  decide

end Ledgerly
