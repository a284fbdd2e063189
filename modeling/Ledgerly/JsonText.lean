/-
This file models `jsonEncode` of Dart, the text by which the client tells two rows of a
backup apart, and proves that it tells all of them apart: the text of a value starts with a
character that gives its kind away, a string ends at its first bare quotation mark, and a
number ends where no character of a number follows.
-/

import Ledgerly.Json
import Mathlib.Tactic.IntervalCases

namespace Ledgerly

namespace Json

/-! ### The text of a value -/

/-- The mark that strings stand between, -/
def quote : Char := Char.ofNat 0x22

/-- and the one that escapes begin with. -/
def backslash : Char := Char.ofNat 0x5C

/-- `hexDigit` of the stringifier: the digits from ten on are small letters. -/
def hexDigit (digit : Nat) : Char := Char.ofNat (if digit < 10 then 48 + digit else 87 + digit)

/-- The control characters with an escape of one letter, and the letters. -/
def shortEscapes : List (Char × Char) :=
  [(Char.ofNat 8, 'b'), (Char.ofNat 9, 't'), (Char.ofNat 10, 'n'), (Char.ofNat 12, 'f'),
    (Char.ofNat 13, 'r')]

/-- `writeStringContent`, for one character. -/
def escape (character : Char) : List Char :=
  if character.toNat < 0x20 then
    match shortEscapes.lookup character with
    | some letter => [backslash, letter]
    | none =>
      [backslash, 'u', '0', '0', hexDigit (character.toNat / 16), hexDigit (character.toNat % 16)]
  else if character = quote ∨ character = backslash then [backslash, character]
  else [character]

/-- A string with its marks. -/
def quoted (text : String) : List Char := quote :: text.toList.flatMap escape ++ [quote]

mutual

/-- The characters `jsonEncode` writes. -/
def characters : Json → List Char
  | .null => ['n', 'u', 'l', 'l']
  | .bool true => ['t', 'r', 'u', 'e']
  | .bool false => ['f', 'a', 'l', 's', 'e']
  | .num literal => literal.toList
  | .str value => quoted value
  | .arr items => '[' :: itemCharacters true items
  | .obj fields => '{' :: fieldCharacters true fields

/-- The items of a list to its end, -/
def itemCharacters (first : Bool) : List Json → List Char
  | [] => [']']
  | item :: rest =>
    (if first then [] else [',']) ++ (characters item ++ itemCharacters false rest)

/-- and the fields of an object. -/
def fieldCharacters (first : Bool) : List (String × Json) → List Char
  | [] => ['}']
  | (name, value) :: rest =>
    (if first then [] else [',']) ++
      (quoted name ++ ':' :: (characters value ++ fieldCharacters false rest))

end

/-- `jsonEncode`. -/
def jsonEncode (value : Json) : String := String.ofList (characters value)

/-- A character of the text of a finite number. -/
def inNumber (character : Char) : Bool :=
  character.isDigit || character = '-' || character = '+' || character = '.' || character = 'e'

mutual

/-- The number literals of the value are texts of numbers, as `num.toString` gives them. -/
def Numeric : Json → Prop
  | .num literal => literal.toList ≠ [] ∧ ∀ character ∈ literal.toList, inNumber character
  | .arr items => NumericItems items
  | .obj fields => NumericFields fields
  | _ => True

/-- The numbers of the items are numbers of JSON, -/
def NumericItems : List Json → Prop
  | [] => True
  | item :: rest => Numeric item ∧ NumericItems rest

/-- and so are those of the fields. -/
def NumericFields : List (String × Json) → Prop
  | [] => True
  | (_, value) :: rest => Numeric value ∧ NumericFields rest

end

/-! ### Reading the text of a string -/

/-- The value of a digit `hexDigit` writes. -/
def hexValue (digit : Char) : Nat := if digit.toNat < 58 then digit.toNat - 48 else digit.toNat - 87

/-- The character at the head of the content of a string, and what follows it. -/
def readCharacter : List Char → Option (Char × List Char)
  | [] => none
  | first :: rest =>
    if first = backslash then
      match rest with
      | [] => none
      | letter :: rest =>
        if letter = 'u' then
          match rest with
          | _ :: _ :: high :: low :: rest =>
            some (Char.ofNat (hexValue high * 16 + hexValue low), rest)
          | _ => none
        else
          match shortEscapes.find? fun escaped => escaped.2 = letter with
          | some escaped => some (escaped.1, rest)
          | none => some (letter, rest)
    else if first = quote then none
    else some (first, rest)

/-- The control characters, each read back. -/
theorem readCharacter_control : ∀ code < 0x20, ∀ rest,
    readCharacter (escape (Char.ofNat code) ++ rest) = some (Char.ofNat code, rest) := by
  intro code control rest
  interval_cases code <;> rfl

theorem readCharacter_escape (character : Char) (rest : List Char) :
    readCharacter (escape character ++ rest) = some (character, rest) := by
  by_cases control : character.toNat < 0x20
  · have read := readCharacter_control character.toNat control rest
    rwa [Char.ofNat_toNat] at read
  · rw [escape, if_neg control]
    by_cases special : character = quote ∨ character = backslash
    · rw [if_pos special]
      obtain rfl | rfl := special
      · rfl
      · rfl
    · rw [if_neg special]
      show (if character = backslash then _ else if character = quote then none
        else some (character, rest)) = _
      rw [if_neg fun equal => special (Or.inr equal), if_neg fun equal => special (Or.inl equal)]

/-- The content of a string, read to its end. -/
theorem quoted_injective {one two : String} {restOne restTwo : List Char}
    (same : quoted one ++ restOne = quoted two ++ restTwo) : one = two ∧ restOne = restTwo := by
  have contents : ∀ one two : List Char,
      one.flatMap escape ++ quote :: restOne = two.flatMap escape ++ quote :: restTwo →
        one = two ∧ restOne = restTwo := by
    intro one
    induction one with
    | nil =>
      intro two same
      cases two with
      | nil => exact ⟨rfl, List.tail_eq_of_cons_eq same⟩
      | cons second two =>
        have read := readCharacter_escape second (two.flatMap escape ++ quote :: restTwo)
        rw [← List.append_assoc, ← List.flatMap_cons, ← same] at read
        cases read
    | cons first one inductionHypothesis =>
      intro two same
      have read := readCharacter_escape first (one.flatMap escape ++ quote :: restOne)
      rw [← List.append_assoc, ← List.flatMap_cons, same] at read
      cases two with
      | nil => cases read
      | cons second two =>
        rw [List.flatMap_cons, List.append_assoc, readCharacter_escape] at read
        obtain ⟨rfl, rest⟩ := Prod.mk.inj (Option.some.inj read)
        obtain ⟨rfl, equal⟩ := inductionHypothesis two rest.symm
        exact ⟨rfl, equal⟩
  simp only [quoted, List.cons_append, List.append_assoc, List.nil_append, List.cons.injEq,
    true_and] at same
  obtain ⟨characters, rest⟩ := contents one.toList two.toList same
  exact ⟨String.toList_inj.mp characters, rest⟩

/-! ### Different values have different texts -/

/-- The kinds of values. -/
inductive Kind where
  | null | bool | num | str | arr | obj
  deriving DecidableEq

/-- What a value is. -/
def kind : Json → Kind
  | .null => .null
  | .bool _ => .bool
  | .num _ => .num
  | .str _ => .str
  | .arr _ => .arr
  | .obj _ => .obj

/-- The kind of the values whose text starts with a character, if there are any. -/
def openedBy (character : Char) : Option Kind :=
  if inNumber character then some .num
  else if character = 'n' then some .null
  else if character = 't' ∨ character = 'f' then some .bool
  else if character = quote then some .str
  else if character = '[' then some .arr
  else if character = '{' then some .obj
  else none

/-- The text of a value starts with a character of its kind. -/
theorem characters_head (value : Json) (numeric : value.Numeric) :
    ∃ first rest, characters value = first :: rest ∧ openedBy first = some value.kind := by
  cases value with
  | null => exact ⟨_, _, rfl, rfl⟩
  | bool value =>
    cases value with
    | true => exact ⟨_, _, rfl, rfl⟩
    | false => exact ⟨_, _, rfl, rfl⟩
  | num literal =>
    obtain ⟨nonempty, all⟩ := numeric
    obtain ⟨first, rest, equal⟩ := List.exists_cons_of_ne_nil nonempty
    refine ⟨first, rest, equal, ?_⟩
    rw [openedBy, if_pos (all first (equal ▸ List.mem_cons_self))]
    rfl
  | str value => exact ⟨_, _, rfl, rfl⟩
  | arr items => exact ⟨_, _, rfl, rfl⟩
  | obj fields => exact ⟨_, _, rfl, rfl⟩

/-- Values whose texts start alike are of one kind. -/
theorem kind_eq_of_characters {one two : Json} {restOne restTwo : List Char}
    (numericOne : one.Numeric) (numericTwo : two.Numeric)
    (same : characters one ++ restOne = characters two ++ restTwo) : one.kind = two.kind := by
  obtain ⟨first, tail, textOne, opensOne⟩ := characters_head one numericOne
  obtain ⟨second, _, textTwo, opensTwo⟩ := characters_head two numericTwo
  rw [textOne, textTwo, List.cons_append, List.cons_append] at same
  rw [List.head_eq_of_cons_eq same, opensTwo] at opensOne
  exact (Option.some.inj opensOne).symm

/-- No number goes on here. -/
def Delimited (rest : List Char) : Prop := ∀ character ∈ rest.head?, inNumber character = false

theorem delimited_items (items : List Json) (rest : List Char) :
    Delimited (itemCharacters false items ++ rest) := by
  cases items with
  | nil => rintro _ ⟨⟩; rfl
  | cons => rintro _ ⟨⟩; rfl

theorem delimited_fields (fields : List (String × Json)) (rest : List Char) :
    Delimited (fieldCharacters false fields ++ rest) := by
  cases fields with
  | nil => rintro _ ⟨⟩; rfl
  | cons => rintro _ ⟨⟩; rfl

/-- A number, read to its end. -/
theorem number_injective {one two restOne restTwo : List Char}
    (allOne : ∀ character ∈ one, inNumber character)
    (allTwo : ∀ character ∈ two, inNumber character) (endOne : Delimited restOne)
    (endTwo : Delimited restTwo) (same : one ++ restOne = two ++ restTwo) :
    one = two ∧ restOne = restTwo := by
  have ends : ∀ {rest : List Char}, Delimited rest → rest.takeWhile inNumber = [] := by
    intro rest delimited
    cases rest with
    | nil => rfl
    | cons first rest => exact List.takeWhile_cons_of_neg (by simp [delimited first rfl])
  have read := congrArg (List.takeWhile inNumber) same
  rw [List.takeWhile_append_of_pos allOne, List.takeWhile_append_of_pos allTwo, ends endOne,
    ends endTwo, List.append_nil, List.append_nil] at read
  subst read
  exact ⟨rfl, List.append_cancel_left same⟩

/-- The end of an array is not the start of an item. -/
theorem items_ne (first : Bool) (item : Json) (items : List Json) (restOne restTwo : List Char)
    (numeric : item.Numeric) :
    itemCharacters first [] ++ restOne ≠ itemCharacters first (item :: items) ++ restTwo := by
  intro same
  cases first with
  | false => cases same
  | true =>
    obtain ⟨head, tail, text, opens⟩ := characters_head item numeric
    simp only [itemCharacters, text] at same
    obtain rfl : ']' = head := List.head_eq_of_cons_eq same
    cases opens

mutual

/-- A text followed by something that does not go on a number is the text of one value. -/
theorem characters_injective : ∀ (one two : Json) (restOne restTwo : List Char), one.Numeric →
    two.Numeric → Delimited restOne → Delimited restTwo →
    characters one ++ restOne = characters two ++ restTwo → one = two ∧ restOne = restTwo
  | one, two, restOne, restTwo, numericOne, numericTwo, endOne, endTwo, same => by
    have kinds := kind_eq_of_characters numericOne numericTwo same
    match one, two, kinds with
    | .null, .null, _ => exact ⟨rfl, List.append_cancel_left same⟩
    | .bool true, .bool true, _ => exact ⟨rfl, List.append_cancel_left same⟩
    | .bool false, .bool false, _ => exact ⟨rfl, List.append_cancel_left same⟩
    | .num one, .num two, _ =>
      obtain ⟨literals, rest⟩ :=
        number_injective numericOne.2 numericTwo.2 endOne endTwo same
      exact ⟨congrArg Json.num (String.toList_inj.mp literals), rest⟩
    | .str one, .str two, _ =>
      obtain ⟨rfl, rest⟩ := quoted_injective same
      exact ⟨rfl, rest⟩
    | .arr one, .arr two, _ =>
      obtain ⟨rfl, rest⟩ := itemCharacters_injective true one two restOne restTwo numericOne
        numericTwo (List.tail_eq_of_cons_eq same)
      exact ⟨rfl, rest⟩
    | .obj one, .obj two, _ =>
      obtain ⟨rfl, rest⟩ := fieldCharacters_injective true one two restOne restTwo numericOne
        numericTwo (List.tail_eq_of_cons_eq same)
      exact ⟨rfl, rest⟩

theorem itemCharacters_injective : ∀ (first : Bool) (one two : List Json)
    (restOne restTwo : List Char), NumericItems one → NumericItems two →
    itemCharacters first one ++ restOne = itemCharacters first two ++ restTwo →
    one = two ∧ restOne = restTwo
  | _, [], [], _, _, _, _, same => ⟨rfl, List.tail_eq_of_cons_eq same⟩
  | first, item :: one, other :: two, restOne, restTwo, numericOne, numericTwo, same => by
    simp only [itemCharacters, List.append_assoc] at same
    obtain ⟨rfl, after⟩ := characters_injective item other _ _ numericOne.1 numericTwo.1
      (delimited_items one restOne) (delimited_items two restTwo) (List.append_cancel_left same)
    obtain ⟨rfl, rest⟩ := itemCharacters_injective false one two restOne restTwo numericOne.2
      numericTwo.2 after
    exact ⟨rfl, rest⟩
  | first, [], other :: two, restOne, restTwo, _, numericTwo, same =>
    absurd same (items_ne first other two restOne restTwo numericTwo.1)
  | first, item :: one, [], restOne, restTwo, numericOne, _, same =>
    absurd same.symm (items_ne first item one restTwo restOne numericOne.1)

theorem fieldCharacters_injective : ∀ (first : Bool) (one two : List (String × Json))
    (restOne restTwo : List Char), NumericFields one → NumericFields two →
    fieldCharacters first one ++ restOne = fieldCharacters first two ++ restTwo →
    one = two ∧ restOne = restTwo
  | _, [], [], _, _, _, _, same => ⟨rfl, List.tail_eq_of_cons_eq same⟩
  | first, (name, value) :: one, (other, second) :: two, restOne, restTwo, numericOne,
      numericTwo, same => by
    simp only [fieldCharacters, List.append_assoc, List.cons_append] at same
    obtain ⟨rfl, afterName⟩ := quoted_injective (List.append_cancel_left same)
    obtain ⟨rfl, after⟩ := characters_injective value second _ _ numericOne.1 numericTwo.1
      (delimited_fields one restOne) (delimited_fields two restTwo)
      (List.tail_eq_of_cons_eq afterName)
    obtain ⟨rfl, rest⟩ := fieldCharacters_injective false one two restOne restTwo numericOne.2
      numericTwo.2 after
    exact ⟨rfl, rest⟩
  | first, [], other :: two, restOne, restTwo, numericOne, numericTwo, same => by
    cases first with
    | true => cases same
    | false => cases same
  | first, item :: one, [], restOne, restTwo, numericOne, numericTwo, same => by
    cases first with
    | true => cases same
    | false => cases same

end

/-- Values of one text are equal. -/
theorem jsonEncode_injective {one two : Json} (numericOne : one.Numeric)
    (numericTwo : two.Numeric) (same : jsonEncode one = jsonEncode two) : one = two := by
  have texts := congrArg (· ++ []) (String.ofList_injective same)
  exact (characters_injective one two [] [] numericOne numericTwo nofun nofun texts).1

end Json

end Ledgerly
