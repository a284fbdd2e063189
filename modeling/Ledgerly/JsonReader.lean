/-
This file models `jsonDecode` of Dart and proves that it reads back what `jsonEncode` writes.
The reader has fuel for every step it takes; a text has at least as many characters as half of
the steps that reading it takes, so that the fuel never runs out.
-/

import Ledgerly.JsonText
import Mathlib.Data.List.TakeWhile

namespace Ledgerly

namespace Json

/-! ### The text of a number -/

/-- What follows the digits at the head, if there are digits. -/
def someDigits : List Char → Option (List Char)
  | [] => none
  | first :: rest => if first.isDigit then some (rest.dropWhile Char.isDigit) else none

/-- The digits before the point: one zero, or no zero in front. -/
def wholePart : List Char → Option (List Char)
  | '0' :: rest => some rest
  | text => someDigits text

/-- The point and the digits behind it, if they are there. -/
def fractionPart : List Char → Option (List Char)
  | '.' :: rest => someDigits rest
  | text => some text

/-- The exponent, if it is there. -/
def exponentPart : List Char → Option (List Char)
  | [] => some []
  | letter :: rest =>
    if letter = 'e' ∨ letter = 'E' then
      match rest with
      | '+' :: digits | '-' :: digits => someDigits digits
      | digits => someDigits digits
    else some (letter :: rest)

/-- A number without its sign. -/
def unsigned : List Char → List Char
  | '-' :: rest => rest
  | text => text

/-- The characters that numbers are made of. -/
def numberCharacter (character : Char) : Bool := inNumber character || character = 'E'

/-- The grammar of a number. -/
def isNumber (text : List Char) : Bool :=
  text.all numberCharacter &&
    (((wholePart (unsigned text)).bind fractionPart).bind exponentPart).any List.isEmpty

/-! ### The reader -/

/-- The blanks of JSON, -/
def isSpace (character : Char) : Bool :=
  character = ' ' || character = Char.ofNat 9 || character = Char.ofNat 10 ||
    character = Char.ofNat 13

/-- which may stand between its tokens. -/
def skipSpace (text : List Char) : List Char := text.dropWhile isSpace

/-- The value of a digit of an escape. -/
def hexDigitValue (character : Char) : Option Nat :=
  if character.isDigit then some (character.toNat - 48)
  else if 'a' ≤ character ∧ character ≤ 'f' then some (character.toNat - 87)
  else if 'A' ≤ character ∧ character ≤ 'F' then some (character.toNat - 55)
  else none

/-- The UTF-16 unit of four hexadecimal digits, and what follows them. -/
def readUnit : List Char → Option (Nat × List Char)
  | one :: two :: three :: four :: rest => do
    let one ← hexDigitValue one
    let two ← hexDigitValue two
    let three ← hexDigitValue three
    let four ← hexDigitValue four
    return (((one * 16 + two) * 16 + three) * 16 + four, rest)
  | _ => none

/-- What follows a backslash. Half of a surrogate pair is not a character. -/
def readEscape : List Char → Option (Char × List Char)
  | [] => none
  | 'u' :: digits => do
    let (unit, rest) ← readUnit digits
    if unit < 0xD800 ∨ 0xE000 ≤ unit then return (Char.ofNat unit, rest)
    else
      match rest with
      | first :: 'u' :: digits =>
        let (low, rest) ← readUnit digits
        if first = backslash ∧ unit < 0xDC00 ∧ 0xDC00 ≤ low ∧ low < 0xE000 then
          return (Char.ofNat (0x10000 + (unit - 0xD800) * 0x400 + (low - 0xDC00)), rest)
        else none
      | _ => none
  | letter :: rest =>
    if letter = quote ∨ letter = backslash ∨ letter = '/' then some (letter, rest)
    else (shortEscapes.find? fun escaped => escaped.2 = letter).map fun escaped => (escaped.1, rest)

/-- The content of a string and what follows its closing quotation mark. -/
def readContent : Nat → List Char → Option (List Char × List Char)
  | 0, _ | _, [] => none
  | fuel + 1, first :: rest =>
    if first = quote then some ([], rest)
    else if first.toNat < 0x20 then none
    else do
      let (character, rest) ← if first = backslash then readEscape rest else some (first, rest)
      let (content, rest) ← readContent fuel rest
      return (character :: content, rest)

/-- A value that is a word. -/
def readWord (word : List Char) (value : Json) (text : List Char) : Option (Json × List Char) :=
  if word.isPrefixOf text then some (value, text.drop word.length) else none

/-- A number at the beginning of a text, and what follows. -/
def readNumber (text : List Char) : Option (Json × List Char) :=
  if isNumber (text.takeWhile numberCharacter) then
    some (.num (String.ofList (text.takeWhile numberCharacter)), text.dropWhile numberCharacter)
  else none

/-- The name of a field and what follows its colon. -/
def readName (fuel : Nat) (text : List Char) : Option (String × List Char) :=
  match skipSpace text with
  | [] => none
  | head :: rest =>
    if head = quote then do
      let (name, rest) ← readContent fuel rest
      match skipSpace rest with
      | ':' :: rest => return (String.ofList name, rest)
      | _ => none
    else none

/-- The fields of a map: a later field of a name replaces the value of an earlier one. -/
def mapOf (fields : List (String × Json)) : List (String × Json) :=
  fields.foldl (fun map field => insertField field.1 field.2 map) []

mutual

/-- A value and what follows it. -/
def readValue : Nat → List Char → Option (Json × List Char)
  | 0, _ => none
  | fuel + 1, text =>
    match skipSpace text with
    | [] => none
    | first :: rest =>
      if first = quote then
        (readContent fuel rest).map fun read => (.str (String.ofList read.1), read.2)
      else if first = '[' then (readItems fuel true rest).map fun read => (.arr read.1, read.2)
      else if first = '{' then
        (readFields fuel true rest).map fun read => (.obj (mapOf read.1), read.2)
      else if first = 'n' then readWord ['n', 'u', 'l', 'l'] .null (first :: rest)
      else if first = 't' then readWord ['t', 'r', 'u', 'e'] (.bool true) (first :: rest)
      else if first = 'f' then readWord ['f', 'a', 'l', 's', 'e'] (.bool false) (first :: rest)
      else readNumber (first :: rest)

/-- The items of an array to its end. A comma stands before every item but the first. -/
def readItems : Nat → Bool → List Char → Option (List Json × List Char)
  | 0, _, _ => none
  | fuel + 1, first, text =>
    match skipSpace text with
    | [] => none
    | head :: rest =>
      if head = ']' then some ([], rest)
      else if first ∨ head = ',' then do
        let (item, rest) ← readValue fuel (if first then head :: rest else rest)
        let (items, rest) ← readItems fuel false rest
        return (item :: items, rest)
      else none

/-- The fields of an object to its end. -/
def readFields : Nat → Bool → List Char → Option (List (String × Json) × List Char)
  | 0, _, _ => none
  | fuel + 1, first, text =>
    match skipSpace text with
    | [] => none
    | head :: rest =>
      if head = '}' then some ([], rest)
      else if first ∨ head = ',' then do
        let (name, rest) ← readName fuel (if first then head :: rest else rest)
        let (value, rest) ← readValue fuel rest
        let (fields, rest) ← readFields fuel false rest
        return ((name, value) :: fields, rest)
      else none

end

/-- `jsonDecode`. A number keeps its text. -/
def jsonDecode (text : String) : Option Json :=
  match readValue (2 * text.toList.length) text.toList with
  | some (value, rest) => if skipSpace rest = [] then some value else none
  | none => none

mutual

/-- A value as Dart has it: the numbers have texts of numbers, and the keys of a map are
distinct. -/
def WellFormed : Json → Prop
  | .num literal => isNumber literal.toList
  | .arr items => WellFormedItems items
  | .obj fields => (fields.map Prod.fst).Nodup ∧ WellFormedFields fields
  | _ => True

/-- The items of a list are well formed, -/
def WellFormedItems : List Json → Prop
  | [] => True
  | item :: rest => WellFormed item ∧ WellFormedItems rest

/-- and so are the fields of an object. -/
def WellFormedFields : List (String × Json) → Prop
  | [] => True
  | (_, value) :: rest => WellFormed value ∧ WellFormedFields rest

end

theorem wellFormedItems_iff (items : List Json) :
    WellFormedItems items ↔ ∀ item ∈ items, WellFormed item := by
  induction items with
  | nil => exact iff_of_true trivial nofun
  | cons item rest inductionHypothesis =>
    rw [WellFormedItems, inductionHypothesis, List.forall_mem_cons]

theorem wellFormedFields_iff (fields : List (String × Json)) :
    WellFormedFields fields ↔ ∀ field ∈ fields, WellFormed field.2 := by
  induction fields with
  | nil => exact iff_of_true trivial nofun
  | cons field rest inductionHypothesis =>
    rw [WellFormedFields, inductionHypothesis, List.forall_mem_cons]

/-! ### Strings are read back -/

/-- The control characters, each read back. -/
theorem readEscape_control : ∀ code < 0x20, ∃ tail,
    escape (Char.ofNat code) = backslash :: tail ∧
      ∀ rest, readEscape (tail ++ rest) = some (Char.ofNat code, rest) := by
  intro code control
  interval_cases code <;> exact ⟨_, rfl, fun _ => rfl⟩

theorem readContent_escape (fuel : Nat) (character : Char) (rest : List Char) :
    readContent (fuel + 1) (escape character ++ rest) =
      (readContent fuel rest).map fun read => (character :: read.1, read.2) := by
  have onward : ∀ {text : List Char},
      (readContent fuel text).bind (fun read => some (character :: read.1, read.2)) =
        (readContent fuel text).map fun read => (character :: read.1, read.2) :=
    Option.map_eq_bind.symm
  by_cases control : character.toNat < 0x20
  · obtain ⟨tail, written, read⟩ := readEscape_control character.toNat control
    rw [Char.ofNat_toNat] at written read
    rw [written, List.cons_append, readContent, if_neg (by decide), if_neg (by decide),
      if_pos rfl, read]
    exact onward
  · rw [escape, if_neg control]
    by_cases special : character = quote ∨ character = backslash
    · rw [if_pos special, List.cons_append, readContent, if_neg (by decide), if_neg (by decide),
        if_pos rfl]
      have read : readEscape ([character] ++ rest) = some (character, rest) := by
        obtain rfl | rfl := special
        · rfl
        · rfl
      rw [read]
      exact onward
    · obtain ⟨notQuote, notBackslash⟩ := not_or.mp special
      rw [if_neg special, List.cons_append, readContent, if_neg notQuote, if_neg control,
        if_neg notBackslash]
      exact onward

theorem readContent_written (content rest : List Char) {fuel : Nat}
    (enough : content.length < fuel) :
    readContent fuel (content.flatMap escape ++ quote :: rest) = some (content, rest) := by
  induction content generalizing fuel with
  | nil =>
    obtain ⟨fuel, rfl⟩ := Nat.exists_eq_succ_of_ne_zero (Nat.ne_zero_of_lt enough)
    rfl
  | cons character content inductionHypothesis =>
    obtain ⟨fuel, rfl⟩ := Nat.exists_eq_succ_of_ne_zero (Nat.ne_zero_of_lt enough)
    rw [List.flatMap_cons, List.append_assoc, readContent_escape,
      inductionHypothesis (Nat.lt_of_succ_lt_succ enough)]
    rfl

/-- Every character of a string takes at least one character to write. -/
theorem length_le_flatMap_escape (content : List Char) :
    content.length ≤ (content.flatMap escape).length := by
  induction content with
  | nil => exact le_rfl
  | cons character content inductionHypothesis =>
    have nonempty : 0 < (escape character).length := by
      unfold escape
      split
      · split <;> exact Nat.succ_pos _
      · split <;> exact Nat.succ_pos _
    rw [List.flatMap_cons, List.length_append, List.length_cons]
    omega

theorem length_quoted (text : String) : text.toList.length + 2 ≤ (quoted text).length := by
  have content := length_le_flatMap_escape text.toList
  rw [quoted, List.cons_append, List.length_cons, List.length_append]
  exact Nat.succ_le_succ (Nat.succ_le_succ content)

theorem readContent_quoted (text : String) (rest : List Char) {fuel : Nat}
    (enough : (quoted text).length ≤ fuel + 1) :
    readContent fuel ((quoted text).tail ++ rest) = some (text.toList, rest) := by
  have longer := length_quoted text
  have same : (quoted text).tail ++ rest = text.toList.flatMap escape ++ quote :: rest := by
    rw [quoted, List.cons_append, List.tail_cons, List.append_assoc]
    rfl
  rw [same]
  exact readContent_written _ _ (by omega)

theorem quoted_eq (text : String) : quoted text = quote :: (quoted text).tail := rfl

/-! ### Maps are read back -/

theorem insertField_of_notMem {key : String} (value : Json) {fields : List (String × Json)}
    (absent : key ∉ fields.map Prod.fst) :
    insertField key value fields = fields ++ [(key, value)] := by
  induction fields with
  | nil => rfl
  | cons field rest inductionHypothesis =>
    obtain ⟨different, absent⟩ := not_or.mp (absent ∘ List.mem_cons.mpr)
    rw [insertField, if_neg different, inductionHypothesis absent, List.cons_append]

/-- A map is what its fields make. -/
theorem mapOf_eq {fields : List (String × Json)} (distinct : (fields.map Prod.fst).Nodup) :
    mapOf fields = fields := by
  have onto : ∀ map : List (String × Json), ((map ++ fields).map Prod.fst).Nodup →
      fields.foldl (fun map field => insertField field.1 field.2 map) map = map ++ fields := by
    clear distinct
    induction fields with
    | nil => exact fun map _ => (List.append_nil map).symm
    | cons field rest inductionHypothesis =>
      intro map distinct
      have absent : field.1 ∉ map.map Prod.fst := by
        rw [List.map_append, List.nodup_append] at distinct
        exact fun member => distinct.2.2 _ member _ List.mem_cons_self rfl
      rw [List.foldl_cons, insertField_of_notMem _ absent]
      rw [List.append_cons] at distinct
      exact (inductionHypothesis _ distinct).trans (List.append_cons ..).symm
  exact onto [] distinct

/-! ### Values are read back -/

/-- No number goes on here. -/
def Ends (rest : List Char) : Prop :=
  ∀ character ∈ rest.head?, numberCharacter character = false

theorem ends_items (items : List Json) (rest : List Char) :
    Ends (itemCharacters false items ++ rest) := by
  cases items with
  | nil => rintro _ ⟨⟩; rfl
  | cons => rintro _ ⟨⟩; rfl

theorem ends_fields (fields : List (String × Json)) (rest : List Char) :
    Ends (fieldCharacters false fields ++ rest) := by
  cases fields with
  | nil => rintro _ ⟨⟩; rfl
  | cons => rintro _ ⟨⟩; rfl

theorem skipSpace_cons {first : Char} (rest : List Char) (sharp : isSpace first = false) :
    skipSpace (first :: rest) = first :: rest :=
  List.dropWhile_cons_of_neg (by simp [sharp])

/-- A number is read to its end. -/
theorem readNumber_append {literal rest : List Char} (number : isNumber literal)
    (ends : Ends rest) :
    readNumber (literal ++ rest) = some (.num (String.ofList literal), rest) := by
  have all : ∀ character ∈ literal, numberCharacter character :=
    List.all_eq_true.mp (Bool.and_eq_true_iff.mp number).1
  have after : rest.takeWhile numberCharacter = [] ∧ rest.dropWhile numberCharacter = rest := by
    cases rest with
    | nil => exact ⟨rfl, rfl⟩
    | cons first rest =>
      have stops : ¬numberCharacter first = true := by simp [ends first rfl]
      exact ⟨List.takeWhile_cons_of_neg stops, List.dropWhile_cons_of_neg stops⟩
  rw [readNumber, List.takeWhile_append_of_pos all, after.1, List.append_nil, if_pos number,
    List.dropWhile_append_of_pos all, after.2]

/-- The first character of a number is a character of a number. -/
theorem ne_of_number {first other : Char} {rest : List Char} (number : isNumber (first :: rest))
    (outside : numberCharacter other = false) : first ≠ other := by
  rintro rfl
  have inside := List.all_eq_true.mp (Bool.and_eq_true_iff.mp number).1 first List.mem_cons_self
  exact Bool.noConfusion (inside.symm.trans outside)

theorem isSpace_of_number {first : Char} {rest : List Char} (number : isNumber (first :: rest)) :
    isSpace first = false := by
  unfold isSpace
  simp only [Bool.or_eq_false_iff, decide_eq_false_iff_not]
  exact ⟨⟨⟨ne_of_number number rfl, ne_of_number number rfl⟩, ne_of_number number rfl⟩,
    ne_of_number number rfl⟩

theorem readValue_number {literal rest : List Char} (number : isNumber literal)
    (ends : Ends rest) (fuel : Nat) :
    readValue (fuel + 1) (literal ++ rest) = some (.num (String.ofList literal), rest) := by
  cases literal with
  | nil => exact absurd number (by decide)
  | cons first tail =>
    have differs : ∀ {other : Char}, numberCharacter other = false → first ≠ other :=
      ne_of_number number
    rw [readValue, List.cons_append, skipSpace_cons _ (isSpace_of_number number)]
    show (if first = quote then _ else _) = _
    rw [if_neg (differs rfl), if_neg (differs rfl), if_neg (differs rfl), if_neg (differs rfl),
      if_neg (differs rfl), if_neg (differs rfl)]
    exact readNumber_append number ends

theorem length_characters_pos {value : Json} (wellFormed : value.WellFormed) :
    0 < (characters value).length := by
  cases value with
  | num literal =>
    refine List.length_pos_iff.mpr fun empty => ?_
    rw [characters] at empty
    rw [WellFormed, empty] at wellFormed
    exact absurd wellFormed (by decide)
  | bool value => cases value <;> exact Nat.succ_pos _
  | _ => exact Nat.succ_pos _

/-- A value starts with a character that is neither a space nor the end of an array. -/
theorem exists_head {value : Json} (wellFormed : value.WellFormed) :
    ∃ first rest, characters value = first :: rest ∧ isSpace first = false ∧ first ≠ ']' := by
  cases value with
  | num literal =>
    cases spelled : literal.toList with
    | nil =>
      rw [WellFormed, spelled] at wellFormed
      exact absurd wellFormed (by decide)
    | cons first rest =>
      rw [WellFormed, spelled] at wellFormed
      exact ⟨first, rest, spelled, isSpace_of_number wellFormed, ne_of_number wellFormed rfl⟩
  | bool value => cases value <;> exact ⟨_, _, rfl, rfl, by decide⟩
  | _ => exact ⟨_, _, rfl, rfl, by decide⟩

theorem readName_quoted (name : String) (rest : List Char) {fuel : Nat}
    (enough : (quoted name).length ≤ fuel + 1) :
    readName fuel (quoted name ++ ':' :: rest) = some (name, rest) := by
  rw [quoted_eq, List.cons_append, readName, skipSpace_cons _ rfl]
  show (if quote = quote then _ else none) = _
  rw [if_pos rfl, readContent_quoted name _ enough]
  show some (String.ofList name.toList, rest) = _
  rw [String.ofList_toList]

mutual

/-- What `jsonEncode` writes of a value is read back, whatever follows it. -/
theorem readValue_characters : ∀ (value : Json) (fuel : Nat) (rest : List Char),
    value.WellFormed → Ends rest → 2 * (characters value).length ≤ fuel →
    readValue fuel (characters value ++ rest) = some (value, rest)
  | value, 0, rest, wellFormed, _, enough => by
    have := length_characters_pos wellFormed
    omega
  | .null, fuel + 1, rest, _, _, _ => rfl
  | .bool true, fuel + 1, rest, _, _, _ => rfl
  | .bool false, fuel + 1, rest, _, _, _ => rfl
  | .num literal, fuel + 1, rest, wellFormed, ends, _ => by
    rw [characters, readValue_number wellFormed ends, String.ofList_toList]
  | .str value, fuel + 1, rest, _, _, enough => by
    rw [characters] at enough ⊢
    rw [quoted_eq, List.cons_append, readValue, skipSpace_cons _ rfl]
    show (if quote = quote then _ else _) = _
    rw [if_pos rfl, readContent_quoted value rest (by omega)]
    show some (Json.str (String.ofList value.toList), rest) = _
    rw [String.ofList_toList]
  | .arr items, fuel + 1, rest, wellFormed, _, enough => by
    rw [characters, List.length_cons] at enough
    rw [characters, List.cons_append, readValue, skipSpace_cons _ rfl]
    show (readItems fuel true (itemCharacters true items ++ rest)).map _ = _
    rw [readItems_characters true items fuel rest wellFormed (by omega)]
    rfl
  | .obj fields, fuel + 1, rest, wellFormed, _, enough => by
    rw [characters, List.length_cons] at enough
    rw [characters, List.cons_append, readValue, skipSpace_cons _ rfl]
    show (readFields fuel true (fieldCharacters true fields ++ rest)).map _ = _
    rw [readFields_characters true fields fuel rest wellFormed.2 (by omega), Option.map_some,
      mapOf_eq wellFormed.1]

theorem readItems_characters : ∀ (first : Bool) (items : List Json) (fuel : Nat)
    (rest : List Char), WellFormedItems items →
    2 * (itemCharacters first items).length + 1 ≤ fuel →
    readItems fuel first (itemCharacters first items ++ rest) = some (items, rest)
  | first, items, 0, rest, _, enough => absurd enough (Nat.not_succ_le_zero _)
  | first, [], fuel + 1, rest, _, _ => rfl
  | true, item :: items, fuel + 1, rest, wellFormed, enough => by
    have positive := length_characters_pos wellFormed.1
    rw [itemCharacters, if_pos rfl, List.nil_append, List.length_append] at enough
    rw [itemCharacters, if_pos rfl, List.nil_append, List.append_assoc]
    have read := readValue_characters item fuel (itemCharacters false items ++ rest) wellFormed.1
      (ends_items items rest) (by omega)
    have onward := readItems_characters false items fuel rest wellFormed.2 (by omega)
    obtain ⟨head, tail, text, sharp, notEnd⟩ := exists_head wellFormed.1
    rw [text] at read ⊢
    rw [List.cons_append] at read ⊢
    rw [readItems, skipSpace_cons _ sharp]
    show (if head = ']' then _ else _) = _
    rw [if_neg notEnd, if_pos (Or.inl rfl), if_pos rfl, read]
    show (readItems fuel false (itemCharacters false items ++ rest)).bind _ = _
    rw [onward]
    rfl
  | false, item :: items, fuel + 1, rest, wellFormed, enough => by
    have positive := length_characters_pos wellFormed.1
    rw [itemCharacters, if_neg Bool.false_ne_true, List.length_append, List.length_append] at enough
    rw [itemCharacters, if_neg Bool.false_ne_true, List.append_assoc, List.append_assoc]
    show ((readValue fuel (characters item ++ (itemCharacters false items ++ rest))).bind _) = _
    rw [readValue_characters item fuel _ wellFormed.1 (ends_items items rest) (by omega)]
    show (readItems fuel false (itemCharacters false items ++ rest)).bind _ = _
    rw [readItems_characters false items fuel rest wellFormed.2 (by omega)]
    rfl

theorem readFields_characters : ∀ (first : Bool) (fields : List (String × Json)) (fuel : Nat)
    (rest : List Char), WellFormedFields fields →
    2 * (fieldCharacters first fields).length + 1 ≤ fuel →
    readFields fuel first (fieldCharacters first fields ++ rest) = some (fields, rest)
  | first, fields, 0, rest, _, enough => absurd enough (Nat.not_succ_le_zero _)
  | first, [], fuel + 1, rest, _, _ => rfl
  | first, (name, value) :: fields, fuel + 1, rest, wellFormed, enough => by
    have longer := length_quoted name
    have positive := length_characters_pos wellFormed.1
    have named : readName fuel (quoted name ++ ':' ::
        (characters value ++ (fieldCharacters false fields ++ rest))) =
        some (name, characters value ++ (fieldCharacters false fields ++ rest)) := by
      refine readName_quoted name _ ?_
      rw [fieldCharacters, List.length_append, List.length_append] at enough
      omega
    have read : readValue fuel (characters value ++ (fieldCharacters false fields ++ rest)) =
        some (value, fieldCharacters false fields ++ rest) := by
      refine readValue_characters value fuel _ wellFormed.1 (ends_fields fields rest) ?_
      rw [fieldCharacters, List.length_append, List.length_append, List.length_cons,
        List.length_append] at enough
      omega
    have onward : readFields fuel false (fieldCharacters false fields ++ rest) =
        some (fields, rest) := by
      refine readFields_characters false fields fuel rest wellFormed.2 ?_
      rw [fieldCharacters, List.length_append, List.length_append, List.length_cons,
        List.length_append] at enough
      omega
    have opened : readFields (fuel + 1) first (fieldCharacters first ((name, value) :: fields) ++
        rest) = (readName fuel (quoted name ++ ':' ::
          (characters value ++ (fieldCharacters false fields ++ rest)))).bind fun read =>
            (readValue fuel read.2).bind fun found =>
              (readFields fuel false found.2).bind fun others =>
                some ((read.1, found.1) :: others.1, others.2) := by
      rw [fieldCharacters, List.append_assoc, List.append_assoc, List.cons_append,
        List.append_assoc]
      cases first with
      | true => rfl
      | false => rfl
    rw [opened, named, Option.bind_some, read, Option.bind_some, onward]
    rfl

end

/-- What `jsonEncode` writes is read back. -/
theorem jsonDecode_jsonEncode {value : Json} (wellFormed : value.WellFormed) :
    jsonDecode (jsonEncode value) = some value := by
  have read := readValue_characters value _ [] wellFormed nofun le_rfl
  rw [List.append_nil] at read
  rw [jsonDecode, jsonEncode, String.toList_ofList, read]
  rfl

/-! ### Integers -/

/-- `is int` for a number that was read. -/
def asInt? : Json → Option Int
  | .num literal => decimalInt literal
  | _ => none

/-- An integer. -/
def ofInt (value : Int) : Json := .num (decimalText value)

@[simp]
theorem asInt?_ofInt (value : Int) : (ofInt value).asInt? = some value := decimalInt_decimalText value

/-- No number but zero starts with a zero. -/
theorem head?_toDigits (value : Nat) (positive : 0 < value) :
    (Nat.toDigits 10 value).head? ≠ some '0' := by
  induction value using Nat.strong_induction_on with
  | _ value inductionHypothesis =>
    by_cases small : value < 10
    · rw [Nat.toDigits_of_lt_base small]
      interval_cases value <;> decide
    · rw [Nat.toDigits_of_base_le (by decide) (Nat.not_lt.mp small)]
      have shorter := inductionHypothesis (value / 10) (Nat.div_lt_self positive (by decide))
        (Nat.div_pos (Nat.not_lt.mp small) (by decide))
      cases digits : Nat.toDigits 10 (value / 10) with
      | nil => exact absurd digits Nat.toDigits_ne_nil
      | cons first rest =>
        rw [digits] at shorter
        exact shorter

theorem wholePart_toDigits (value : Nat) : wholePart (Nat.toDigits 10 value) = some [] := by
  rcases Nat.eq_zero_or_pos value with rfl | positive
  · rfl
  · have notZero := head?_toDigits value positive
    have isDigit : ∀ digit ∈ Nat.toDigits 10 value, digit.isDigit = true := fun _ member =>
      Nat.isDigit_of_mem_toDigits (by decide) (by decide) member
    cases digits : Nat.toDigits 10 value with
    | nil => exact absurd digits Nat.toDigits_ne_nil
    | cons first rest =>
      rw [digits] at notZero isDigit
      unfold wholePart
      split
      · rename_i spelled
        exact absurd (congrArg List.head? spelled) notZero
      · rw [someDigits, if_pos (isDigit first List.mem_cons_self),
          List.dropWhile_eq_nil_iff.mpr fun digit member =>
            isDigit digit (List.mem_cons_of_mem first member)]

theorem numberCharacter_toDigits (value : Nat) :
    (Nat.toDigits 10 value).all numberCharacter = true := by
  refine List.all_eq_true.mpr fun digit member => ?_
  have isDigit : digit.isDigit = true :=
    Nat.isDigit_of_mem_toDigits (by decide) (by decide) member
  rw [numberCharacter, inNumber, isDigit]
  rfl

/-- The text of an integer is that of a number. -/
theorem wellFormed_ofInt (value : Int) : (ofInt value).WellFormed := by
  cases value with
  | ofNat value =>
    have plain : unsigned (Nat.toDigits 10 value) = Nat.toDigits 10 value := by
      unfold unsigned
      split
      · rename_i rest spelled
        have isDigit : '-'.isDigit = true :=
          Nat.isDigit_of_mem_toDigits (b := 10) (n := value) (by decide) (by decide)
            (by rw [spelled]; exact List.mem_cons_self)
        exact absurd isDigit (by decide)
      · rfl
    rw [ofInt, WellFormed, decimalText, Nat.toList_repr, isNumber, numberCharacter_toDigits, plain,
      wholePart_toDigits]
    rfl
  | negSucc value =>
    have spelled : (decimalText (.negSucc value)).toList =
        '-' :: Nat.toDigits 10 (value + 1) := by
      rw [decimalText, String.toList_append, Nat.toList_repr]
      rfl
    rw [ofInt, WellFormed, spelled, isNumber, List.all_cons, numberCharacter_toDigits, unsigned,
      wholePart_toDigits]
    rfl

end Json

end Ledgerly
