/-
This file compares the addresses that `ApiEndpoint` reads in a host with those that are there. An
IPv4 part with a sign is read where there is none, and a bare `0x` is not read where there is a
zero; every other IPv4 address is read right, and every IPv6 address.
-/

import Ledgerly.ApiEndpoint

namespace Ledgerly.ApiEndpoint

open DelimitedText (strip strip_of_sharp mem_strip_of_not_blank)
open IpText Numerals

/-! ### Numerals -/

/-- No sign and no blank. -/
def Plain (text : List Char) : Prop :=
  ∀ character ∈ text, character ≠ '+' ∧ character ≠ '-' ∧ isSpace character = false

/-- What may stand in a numeral that is read. -/
def InNumeral (character : Char) : Prop :=
  isSpace character = true ∨ character = '+' ∨ character = '-' ∨ digitValue character < 36

theorem Plain.of_subset {text part : List Char} (plain : Plain text)
    (subset : ∀ character ∈ part, character ∈ text) : Plain part :=
  fun character member => plain character (subset character member)

/-- A digit is no sign and no blank. -/
theorem plain_of_digits {text : List Char} (all : ∀ digit ∈ text, digitValue digit < 36) :
    Plain text := by
  intro character member
  have range := code_of_digit (all character member)
  have agree : ∀ code ∈ List.range' 48 75, isSpace (Char.ofNat code) = false := by decide
  have sharp := agree character.toNat (List.mem_range'_1.mpr range)
  rw [Char.ofNat_toNat] at sharp
  refine ⟨?_, ?_, sharp⟩
  · rintro rfl
    exact absurd range.1 (by decide)
  · rintro rfl
    exact absurd range.1 (by decide)

theorem intTryParse_plain {text : List Char} (plain : Plain text) (radix : Option Nat) :
    intTryParse radix text = unsigned radix text := by
  have same : strip isSpace text = text :=
    strip_of_sharp fun character member => (plain character member).2.2
  unfold intTryParse
  rw [same]
  split
  · exact absurd rfl (plain '-' List.mem_cons_self).2.1
  · exact absurd rfl (plain '+' List.mem_cons_self).1
  · rfl

/-- Digits of a base are read in the base. -/
theorem intTryParse_digits {base value : Nat} {text : List Char} (few : base ≤ 36)
    (read : readDigits base text = some value) (small : value < 2 ^ 63) :
    intTryParse (some base) text = some (value : Int) := by
  have all := (readDigits_eq_some_iff.mp read).1.2
  rw [intTryParse_plain (plain_of_digits fun digit member => lt_of_lt_of_le (all digit member) few)]
  show (readDigits base text).bind (int64 false) = _
  rw [read, Option.bind_some, int64, if_pos small]

theorem baseOf_decimal {text : List Char} (all : ∀ digit ∈ text, digitValue digit < 10) :
    baseOf none text = (10, text) := by
  unfold baseOf
  split
  · next radix digits impossible => cases impossible
  · exact absurd (all 'x' (by simp)) (by decide)
  · exact absurd (all 'X' (by simp)) (by decide)
  · rfl

theorem intTryParse_decimal {value : Nat} {text : List Char}
    (read : readDigits 10 text = some value) (small : value < 2 ^ 63) :
    intTryParse none text = some (value : Int) := by
  have all := (readDigits_eq_some_iff.mp read).1.2
  rw [intTryParse_plain (plain_of_digits fun digit member =>
    Nat.lt_trans (all digit member) (by decide)), unsigned, baseOf_decimal all]
  show (readDigits 10 text).bind (int64 false) = _
  rw [read, Option.bind_some, int64, if_pos small]

/-- An integer that is not negative is what the digits spell. -/
theorem readDigits_of_unsigned {radix : Option Nat} {text : List Char} {parsed : Int}
    (read : unsigned radix text = some parsed) (positive : 0 ≤ parsed) :
    readDigits (baseOf radix text).1 (baseOf radix text).2 = some parsed.toNat := by
  obtain ⟨value, isValue, fits⟩ :
      ∃ value, readDigits (baseOf radix text).1 (baseOf radix text).2 = some value ∧
        int64 (radix.isNone && (baseOf radix text).1 = 16) value = some parsed :=
    Option.bind_eq_some_iff.mp read
  rw [isValue]
  unfold int64 at fits
  split at fits
  · rw [← Option.some.inj fits, Int.toNat_natCast]
  · split at fits
    · next wraps =>
      rw [← Option.some.inj fits] at positive
      omega
    · cases fits

/-- The digits are the text, but for what makes it hexadecimal. -/
theorem digits_of_baseOf {radix : Option Nat} (few : ∀ base ∈ radix, base ≤ 36) {text : List Char}
    {value : Nat} (read : readDigits (baseOf radix text).1 (baseOf radix text).2 = some value) :
    ∀ character ∈ text, digitValue character < 36 := by
  obtain ⟨⟨-, all⟩, -⟩ := readDigits_eq_some_iff.mp read
  intro character member
  unfold baseOf at all
  split at all
  · exact lt_of_lt_of_le (all character member) (few _ rfl)
  · rcases List.mem_cons.mp member with rfl | member
    · decide
    · rcases List.mem_cons.mp member with rfl | member
      · decide
      · exact Nat.lt_trans (all character member) (show 16 < 36 by decide)
  · rcases List.mem_cons.mp member with rfl | member
    · decide
    · rcases List.mem_cons.mp member with rfl | member
      · decide
      · exact Nat.lt_trans (all character member) (show 16 < 36 by decide)
  · exact Nat.lt_trans (all character member) (show 10 < 36 by decide)

/-- A text that is read has nothing else in it than digits, a sign and blanks. -/
theorem inNumeral_of_intTryParse {radix : Option Nat} (few : ∀ base ∈ radix, base ≤ 36)
    {text : List Char} {parsed : Int} (read : intTryParse radix text = some parsed) :
    ∀ character ∈ text, InNumeral character := by
  have unsignedDigits : ∀ {rest : List Char}, unsigned radix rest = some parsed →
      ∀ character ∈ rest, digitValue character < 36 := by
    intro rest isRead
    obtain ⟨value, isValue, -⟩ :
        ∃ value, readDigits (baseOf radix rest).1 (baseOf radix rest).2 = some value ∧ _ :=
      Option.bind_eq_some_iff.mp isRead
    exact digits_of_baseOf few isValue
  have inside : ∀ character ∈ strip isSpace text, InNumeral character := by
    intro character member
    unfold intTryParse at read
    split at read
    · next rest minus =>
      rw [minus] at member
      rcases List.mem_cons.mp member with rfl | inRest
      · exact .inr (.inr (.inl rfl))
      · obtain ⟨value, isValue, -⟩ :
            ∃ value, readDigits (baseOf radix rest).1 (baseOf radix rest).2 = some value ∧ _ :=
          Option.bind_eq_some_iff.mp read
        exact .inr (.inr (.inr (digits_of_baseOf few isValue character inRest)))
    · next rest plus =>
      rw [plus] at member
      rcases List.mem_cons.mp member with rfl | inRest
      · exact .inr (.inl rfl)
      · exact .inr (.inr (.inr (unsignedDigits read character inRest)))
    · exact .inr (.inr (.inr (unsignedDigits read character member)))
  intro character member
  by_cases isBlank : isSpace character = true
  · exact .inl isBlank
  · exact inside character (mem_strip_of_not_blank member isBlank)

/-! ### IPv4 -/

theorem isPrefixOf_iff_take {part : List Char} :
    2 < part.length ∧ ['0', 'x'].isPrefixOf (part.map Char.toLower) = true ↔
      (part.take 2).map Char.toLower = ['0', 'x'] ∧ part.drop 2 ≠ [] := by
  match part with
  | [] => decide
  | [first] =>
    constructor
    · rintro ⟨long, -⟩
      exact absurd long (show ¬2 < 1 by decide)
    · rintro ⟨isHex, -⟩
      exact absurd (congrArg List.length isHex) (show ¬1 = 2 by decide)
  | first :: second :: rest =>
    simp only [List.isPrefixOf, List.map_cons, List.length_cons, List.take_succ_cons, List.take_zero,
      List.map_nil, List.drop_succ_cons, List.drop_zero, List.cons.injEq, Bool.and_eq_true,
      beq_iff_eq, and_true, ← List.length_pos_iff]
    constructor
    · rintro ⟨long, isZero, isX⟩
      exact ⟨⟨isZero.symm, isX.symm⟩, by omega⟩
    · rintro ⟨⟨isZero, isX⟩, long⟩
      exact ⟨by omega, isZero.symm, isX.symm⟩

theorem isPrefixOf_iff_head {part : List Char} :
    1 < part.length ∧ ['0'].isPrefixOf part = true ↔ 2 ≤ part.length ∧ part.head? = some '0' := by
  cases part with
  | nil => decide
  | cons first rest =>
    simp only [List.isPrefixOf, Bool.and_true, beq_iff_eq, List.head?_cons, Option.some.injEq]
    exact and_congr Iff.rfl eq_comm

/-- What `parsePart` reads, but for the last step. -/
theorem parsePart_cases (part : List Char) :
    ((part.take 2).map Char.toLower = ['0', 'x'] ∧ part.drop 2 ≠ [] ∧
        partNumber part = readDigits 16 (part.drop 2) ∧
        parsePart part = (intTryParse (some 16) (part.drop 2)).bind
          fun parsed => if parsed < 0 then none else some parsed.toNat) ∨
      (part.map Char.toLower = ['0', 'x'] ∧ parsePart part = none) ∨
      (part.head? = some '0' ∧ partNumber part = readDigits 8 (part.drop 1) ∧
        parsePart part = (intTryParse (some 8) (part.drop 1)).bind
          fun parsed => if parsed < 0 then none else some parsed.toNat) ∨
      (baseOf none part = (10, part) ∧ partNumber part = readDigits 10 part ∧
        parsePart part = (intTryParse none part).bind
          fun parsed => if parsed < 0 then none else some parsed.toNat) := by
  unfold parsePart partNumber
  simp only [isPrefixOf_iff_take, isPrefixOf_iff_head]
  by_cases isHex : (part.take 2).map Char.toLower = ['0', 'x']
  · by_cases bare : part.drop 2 = []
    · right
      left
      have short : part.take 2 = part := List.take_of_length_le (List.drop_eq_nil_iff.mp bare)
      rw [short] at isHex
      refine ⟨isHex, ?_⟩
      rw [if_neg fun both => both.2 bare]
      obtain ⟨zero, rest, rfl, isZero, isRest⟩ := List.map_eq_cons_iff.mp isHex
      obtain ⟨x, last, rfl, isX, isLast⟩ := List.map_eq_cons_iff.mp isRest
      obtain rfl := List.map_eq_nil_iff.mp isLast
      obtain rfl := (toLower_eq_iff (by decide) (by decide)).mp isZero
      have notOctal : digitValue x = 33 := by
        rw [← digitValue_toLower, isX]
        decide
      have plain : Plain [x] := plain_of_digits fun digit member => by
        rw [List.mem_singleton.mp member, notOctal]
        decide
      have unread : readDigits 8 [x] = none := by
        refine readDigits_eq_none List.mem_cons_self ?_
        rw [notOctal]
        decide
      rw [if_pos ⟨le_refl 2, rfl⟩]
      show (intTryParse (some 8) [x]).bind _ = none
      rw [intTryParse_plain plain]
      show ((readDigits 8 [x]).bind _).bind _ = none
      rw [unread]
      rfl
    · left
      rw [if_pos isHex, if_neg bare, if_pos ⟨isHex, bare⟩]
      exact ⟨isHex, bare, rfl, rfl⟩
  · right
    right
    have notLong : ¬((part.take 2).map Char.toLower = ['0', 'x'] ∧ part.drop 2 ≠ []) :=
      fun both => isHex both.1
    rw [if_neg isHex, if_neg notLong]
    by_cases isOctal : 2 ≤ part.length ∧ part.head? = some '0'
    · left
      rw [if_pos isOctal, if_pos isOctal]
      exact ⟨isOctal.2, rfl, rfl⟩
    · right
      rw [if_neg isOctal, if_neg isOctal]
      refine ⟨?_, rfl, rfl⟩
      unfold baseOf
      split
      · next impossible => cases impossible
      · exact absurd ⟨Nat.le_add_left 2 _, rfl⟩ isOctal
      · exact absurd ⟨Nat.le_add_left 2 _, rfl⟩ isOctal
      · rfl

theorem inNumeral_of_parsePart {part : List Char} {number : Nat}
    (read : parsePart part = some number) : ∀ character ∈ part, InNumeral character := by
  have inRead : ∀ {radix : Option Nat}, (∀ base ∈ radix, base ≤ 36) → ∀ {text : List Char},
      ((intTryParse radix text).bind fun parsed => if parsed < 0 then none else some parsed.toNat) =
        some number → ∀ character ∈ text, InNumeral character := by
    intro radix few text isRead
    obtain ⟨parsed, isParsed, -⟩ := Option.bind_eq_some_iff.mp isRead
    exact inNumeral_of_intTryParse few isParsed
  intro character member
  rcases parsePart_cases part with ⟨isHex, -, -, parsed⟩ | ⟨-, parsed⟩ | ⟨isOctal, -, parsed⟩ |
      ⟨-, -, parsed⟩
  · rw [← List.take_append_drop 2 part] at member
    rcases List.mem_append.mp member with inStart | inDigits
    · have small := List.mem_map_of_mem (f := Char.toLower) inStart
      rw [isHex] at small
      refine .inr (.inr (.inr ?_))
      rw [← digitValue_toLower]
      rcases List.mem_cons.mp small with isZero | isX
      · rw [isZero]
        decide
      · rw [List.mem_singleton.mp isX]
        decide
    · exact inRead (by decide) (parsed.symm.trans read) character inDigits
  · rw [parsed] at read
    cases read
  · cases part with
    | nil => cases isOctal
    | cons first rest =>
      rcases List.mem_cons.mp member with rfl | inRest
      · rw [Option.some.inj isOctal]
        exact .inr (.inr (.inr (by decide)))
      · exact inRead (by decide) (parsed.symm.trans read) character inRest
  · exact inRead (by decide) (parsed.symm.trans read) character member

/-- A part that is read is read right. -/
theorem partNumber_of_parsePart {part : List Char} (plain : Plain part) {number : Nat}
    (read : parsePart part = some number) : partNumber part = some number := by
  have digitsOf : ∀ {radix : Option Nat} {text : List Char}, Plain text →
      ((intTryParse radix text).bind fun parsed => if parsed < 0 then none else some parsed.toNat) =
        some number → readDigits (baseOf radix text).1 (baseOf radix text).2 = some number := by
    intro radix text isPlain isRead
    obtain ⟨parsed, isParsed, kept⟩ := Option.bind_eq_some_iff.mp isRead
    rw [intTryParse_plain isPlain] at isParsed
    split at kept
    · cases kept
    · next positive =>
      rw [← kept]
      exact readDigits_of_unsigned isParsed (Int.not_lt.mp positive)
  rcases parsePart_cases part with ⟨-, -, number, parsed⟩ | ⟨-, parsed⟩ | ⟨-, number, parsed⟩ |
      ⟨base, number, parsed⟩
  · rw [parsed] at read
    rw [number]
    exact digitsOf (plain.of_subset fun _ => List.mem_of_mem_drop) read
  · rw [parsed] at read
    cases read
  · rw [parsed] at read
    rw [number]
    exact digitsOf (plain.of_subset fun _ => List.mem_of_mem_drop) read
  · rw [parsed] at read
    have same := digitsOf plain read
    rw [base] at same
    rw [number]
    exact same

/-- Every part is read but a bare `0x` and one that does not fit. -/
theorem parsePart_of_partNumber {part : List Char} {number : Nat}
    (isNumber : partNumber part = some number) (small : number < 2 ^ 63)
    (notBare : part.map Char.toLower ≠ ['0', 'x']) : parsePart part = some number := by
  have kept : (if (number : Int) < 0 then none else some (number : Int).toNat) = some number := by
    rw [if_neg (Int.not_lt.mpr (Int.natCast_nonneg number)), Int.toNat_natCast]
  rcases parsePart_cases part with ⟨-, -, same, parsed⟩ | ⟨bare, -⟩ | ⟨-, same, parsed⟩ |
      ⟨-, same, parsed⟩
  · rw [same] at isNumber
    rw [parsed, intTryParse_digits (by decide) isNumber small]
    exact kept
  · exact absurd bare notBare
  · rw [same] at isNumber
    rw [parsed, intTryParse_digits (by decide) isNumber small]
    exact kept
  · rw [same] at isNumber
    rw [parsed, intTryParse_decimal isNumber small]
    exact kept

/-- Up to 31 bits the Web shifts as native code does. -/
theorem oneShifted_eq {isWeb : Bool} {count : Nat} (few : isWeb = true → count < 32) :
    oneShifted isWeb count = 1 <<< count := by
  cases isWeb with
  | false => rfl
  | true =>
    rw [oneShifted, if_pos rfl, Nat.shiftLeft_eq, Nat.one_mul]
    exact Nat.mod_eq_of_lt (Nat.pow_lt_pow_right (by decide) (few rfl))

/-- On the Web the limit of a single number is zero, so that it is never an address. -/
theorem addressOf_single (number : Nat) : addressOf true [number] = none := by
  have limit : oneShifted true (8 * (5 - 1)) = 0 := by decide
  unfold addressOf
  rw [if_neg (by simp), List.length_singleton, limit, if_pos (Nat.zero_le _)]

theorem addressOf_two (isWeb : Bool) (a b : Nat) : addressOf isWeb [a, b] = ofParts [a, b] := by
  have folded : ∀ f : Nat → Nat → Nat, (List.range 1).foldl f b = f b 0 := fun _ => rfl
  have limit : oneShifted isWeb (8 * (5 - 2)) = 256 ^ 3 := by
    rw [oneShifted_eq fun _ => by decide]
    decide
  have shifted : a <<< (8 * (3 - 0)) = a * 256 ^ 3 := Nat.shiftLeft_eq a _
  show (if (decide (255 < a) || false) = true then none
    else if oneShifted isWeb (8 * (5 - 2)) ≤ b then none
    else some ((List.range 1).foldl
      (fun address index => address + [a, b].getD index 0 <<< (8 * (3 - index))) b)) =
    if a < 256 ∧ b < 256 ^ 3 then some (a * 256 ^ 3 + b) else none
  rw [folded, List.getD_cons_zero, limit, shifted, Nat.add_comm b]
  simp only [Bool.or_false, decide_eq_true_eq]
  -- the kernel would count the unit down
  generalize 256 ^ 3 = unit
  split_ifs <;> first | rfl | omega

/-- The numbers of one to four parts make the same address, but for one part on the Web. -/
theorem addressOf_eq {isWeb : Bool} {numbers : List Nat} (some : numbers ≠ [])
    (four : numbers.length ≤ 4) (parts : isWeb = true → 2 ≤ numbers.length) :
    addressOf isWeb numbers = ofParts numbers := by
  -- both sides are conditions on the numbers and a sum of their multiples
  match numbers, some, four, parts with
  | [a], _, _, parts =>
    have native : isWeb = false := by
      cases isWeb with
      | false => rfl
      | true => exact absurd (parts rfl) (by simp)
    subst native
    simp [addressOf, oneShifted, ofParts, Nat.shiftLeft_eq]
    grind
  | [a, b], _, _, _ => exact addressOf_two isWeb a b
  | [a, b, c], _, _, _ =>
    simp [addressOf, oneShifted_eq, ofParts, List.range_succ, Nat.shiftLeft_eq]
    grind
  | [a, b, c, d], _, _, _ =>
    simp [addressOf, oneShifted_eq, ofParts, List.range_succ, Nat.shiftLeft_eq]
    grind

/-- The numbers of an address are small. -/
theorem small_of_ofParts {numbers : List Nat} {value : Nat} (made : ofParts numbers = some value) :
    numbers ≠ [] ∧ numbers.length ≤ 4 ∧ ∀ number ∈ numbers, number < 2 ^ 63 := by
  match numbers, made with
  | [a], made => grind [ofParts]
  | [a, b], made => grind [ofParts]
  | [a, b, c], made => grind [ofParts]
  | [a, b, c, d], made => grind [ofParts]

theorem mem_of_mem_piece {separator : Char} {text piece : List Char}
    (isPiece : piece ∈ text.splitOn separator) : ∀ character ∈ piece, character ∈ text := by
  intro character inPiece
  have whole : [separator].intercalate (text.splitOn separator) = text :=
    List.intercalate_splitOn separator
  rw [← whole]
  exact mem_intercalate_of_mem isPiece inPiece

/-- The partners in two lists that agree are members of them. -/
theorem forall₂_mem {α β : Type*} {agree : α → β → Prop} {items : List α} {others : List β}
    (all : List.Forall₂ agree items others) :
    List.Forall₂ (fun item other => item ∈ items ∧ other ∈ others ∧ agree item other) items others :=
  List.forall₂_iff_zip.mpr ⟨all.length_eq, fun pair =>
    ⟨(List.of_mem_zip pair).1, (List.of_mem_zip pair).2, List.forall₂_zip all pair⟩⟩

/-- A host without signs that is read as an IPv4 address is that address. -/
theorem ipv4_of_parseIpv4Literal {isWeb : Bool} {host : List Char} (plain : Plain host)
    {value : Nat} (read : parseIpv4Literal isWeb host = some value) : ipv4 host = some value := by
  rw [parseIpv4Literal] at read
  split at read
  · cases read
  next isAddress =>
  rw [not_or, not_or] at isAddress
  obtain ⟨nonempty, four, noEmpty⟩ := isAddress
  obtain ⟨numbers, parts, made⟩ := Option.bind_eq_some_iff.mp read
  have same : withoutDot host = host := by
    refine if_neg fun dot => noEmpty ?_
    obtain ⟨before, rfl⟩ := List.getLast?_eq_some_iff.mp dot
    rw [List.splitOn_append_cons_self]
    exact List.mem_append_right _ List.mem_cons_self
  have numbersOf : (host.splitOn '.').mapM partNumber = some numbers := by
    refine List.mapM_eq_some_iff.mpr ((forall₂_mem (List.mapM_eq_some_iff.mp parts)).imp ?_)
    intro part number ⟨isPart, _, isRead⟩
    exact partNumber_of_parsePart (plain.of_subset (mem_of_mem_piece isPart)) isRead
  have count := List.length_of_mapM_eq_some parts
  have some : numbers ≠ [] := by
    rintro rfl
    exact nonempty (List.length_eq_zero_iff.mp count.symm)
  have many : isWeb = true → 2 ≤ numbers.length := by
    rintro rfl
    by_contra few
    obtain ⟨number, rfl⟩ := List.length_eq_one_iff.mp
      (show numbers.length = 1 from Nat.le_antisymm (by omega) (List.length_pos_of_ne_nil some))
    rw [addressOf_single] at made
    cases made
  rw [addressOf_eq some (by omega) many] at made
  rw [ipv4, same, numbersOf]
  exact made

/-- A host that is read as an IPv4 address has dots and numerals in it. -/
theorem characters_of_parseIpv4Literal {isWeb : Bool} {host : List Char} {value : Nat}
    (read : parseIpv4Literal isWeb host = some value) :
    ∀ character ∈ host, character = '.' ∨ InNumeral character := by
  rw [parseIpv4Literal] at read
  split at read
  · cases read
  obtain ⟨numbers, parts, -⟩ := Option.bind_eq_some_iff.mp read
  intro character member
  by_cases isDot : character = '.'
  · exact .inl isDot
  · obtain ⟨part, isPart, inPart⟩ := exists_piece member isDot
    obtain ⟨number, isRead⟩ := (exists_partner (List.mapM_eq_some_iff.mp parts)).1 part isPart
    exact .inr (inNumeral_of_parsePart isRead character inPart)

/-- An IPv4 address without a bare `0x`, and on the Web of more than one part, is read, in small
letters and without the dot at its end. -/
theorem parseIpv4Literal_of_ipv4 {isWeb : Bool} {host : List Char} {value : Nat}
    (read : ipv4 host = some value)
    (notBare : ∀ part ∈ (withoutDot host).splitOn '.', part.map Char.toLower ≠ ['0', 'x'])
    (many : isWeb = true → 2 ≤ ((withoutDot host).splitOn '.').length) :
    parseIpv4Literal isWeb (withoutDot (host.map Char.toLower)) = some value := by
  obtain ⟨numbers, parts, made⟩ := Option.bind_eq_some_iff.mp read
  obtain ⟨nonempty, four, small⟩ := small_of_ofParts made
  have count := List.length_of_mapM_eq_some parts
  rw [withoutDot_map_toLower, parseIpv4Literal, splitOn_map_toLower (by decide) (by decide)]
  generalize (withoutDot host).splitOn '.' = pieces at parts count notBare many
  have all := List.mapM_eq_some_iff.mp parts
  have noEmpty : [] ∉ pieces.map (·.map Char.toLower) := by
    intro member
    obtain ⟨piece, isPiece, isEmpty⟩ := List.mem_map.mp member
    obtain ⟨number, isNumber⟩ := (exists_partner all).1 piece isPiece
    exact (partNumber_characters isNumber).1 (List.map_eq_nil_iff.mp isEmpty)
  have numbersOf : (pieces.map (·.map Char.toLower)).mapM parsePart = some numbers := by
    rw [List.mapM_eq_some_iff, List.forall₂_map_left_iff]
    refine (forall₂_mem all).imp fun piece number ⟨isPiece, isIn, isNumber⟩ => ?_
    refine parsePart_of_partNumber ?_ (small number isIn) ?_
    · rw [partNumber_map_toLower]
      exact isNumber
    · rw [List.map_map]
      intro bare
      refine notBare piece isPiece (Eq.trans ?_ bare)
      exact List.map_congr_left fun character _ => (toLower_toLower character).symm
  rw [if_neg, numbersOf, Option.bind_some, addressOf_eq nonempty four fun web => by
    rw [count]
    exact many web]
  · exact made
  · rw [not_or, not_or, List.length_map, List.map_eq_nil_iff]
    refine ⟨?_, by omega, noEmpty⟩
    rintro rfl
    exact nonempty (List.length_eq_zero_iff.mp count)

/-! ### IPv6 -/

theorem splitDouble_cons {first : Char} (other : first ≠ ':') (rest : List Char) :
    splitDouble (first :: rest) = (splitDouble rest).modifyHead (first :: ·) := by
  rw [splitDouble]
  rintro _ rfl
  exact absurd rfl other

theorem splitDouble_colon {rest : List Char} (single : rest.head? ≠ some ':') :
    splitDouble (':' :: rest) = (splitDouble rest).modifyHead (':' :: ·) := by
  rw [splitDouble]
  rintro tail _ rfl
  exact absurd rfl single

theorem splitDouble_append {front : List Char} (none : ':' ∉ front) (rest : List Char) :
    splitDouble (front ++ rest) = (splitDouble rest).modifyHead (front ++ ·) := by
  induction front with
  | nil =>
    show splitDouble rest = (splitDouble rest).modifyHead id
    rw [List.modifyHead_id]
    rfl
  | cons first others inductionHypothesis =>
    have noColon : first ≠ ':' := fun isColon => none (by rw [isColon]; exact List.mem_cons_self)
    rw [List.cons_append, splitDouble_cons noColon,
      inductionHypothesis fun member => none (List.mem_cons_of_mem _ member),
      List.modifyHead_modifyHead]
    rfl

/-- Groups with single colons between them are not split. -/
theorem splitDouble_byColons {texts : List (List Char)} {words : List Nat}
    (all : List.Forall₂ Group texts words) (rest : List Char) :
    splitDouble (byColons texts ++ rest) = (splitDouble rest).modifyHead (byColons texts ++ ·) := by
  have noColon : ∀ {text : List Char} {word : Nat}, Group text word → ':' ∉ text := by
    intro text word group member
    exact absurd (group.digits.2 ':' member) (by decide)
  induction all with
  | nil => exact @splitDouble_append [] List.not_mem_nil rest
  | @cons text word texts words isGroup others inductionHypothesis =>
    cases others with
    | nil =>
      rw [byColons, List.intercalate_singleton]
      exact splitDouble_append (noColon isGroup) rest
    | @cons next nextWord texts words isNext others =>
      have single : (byColons (next :: texts) ++ rest).head? ≠ some ':' := by
        obtain ⟨first, last, rfl⟩ := List.exists_cons_of_ne_nil isNext.digits.1
        rw [byColons, List.intercalate_cons_cons_left, List.cons_append, List.head?_cons]
        intro isColon
        exact noColon isNext (by rw [Option.some.inj isColon]; exact List.mem_cons_self)
      rw [byColons_cons_cons, List.append_assoc, splitDouble_append (noColon isGroup),
        List.cons_append, splitDouble_colon single, inductionHypothesis,
        List.modifyHead_modifyHead, List.modifyHead_modifyHead]
      refine congrArg (fun change => (splitDouble rest).modifyHead change) (funext fun head => ?_)
      show text ++ ':' :: (byColons (next :: texts) ++ head) = _
      rw [List.append_assoc, List.cons_append]

/-- The words of groups are the groups. -/
theorem wordsOf_byColons {texts : List (List Char)} {words : List Nat}
    (all : List.Forall₂ Group texts words) : wordsOf (byColons texts) = texts := by
  have noColon : ∀ text ∈ texts, ':' ∉ text := by
    intro text isText member
    obtain ⟨word, group⟩ := (exists_partner all).1 text isText
    exact absurd (group.digits.2 ':' member) (by decide)
  cases all with
  | nil => rfl
  | @cons first word rest words isFirst others =>
    have nonempty : byColons (first :: rest) ≠ [] := by
      obtain ⟨digit, digits, rfl⟩ := List.exists_cons_of_ne_nil isFirst.digits.1
      rw [byColons, List.intercalate_cons_cons_left]
      exact List.cons_ne_nil _ _
    rw [wordsOf, if_neg nonempty]
    exact List.splitOn_intercalate ':' noColon (List.cons_ne_nil _ _)

theorem parseWord_of_group {text : List Char} {word : Nat} (group : Group text word) :
    parseWord text = some word := by
  have small := group.lt
  rw [parseWord, intTryParse_digits (by decide) group.2 (Nat.lt_trans small (by decide)),
    Option.bind_some, if_neg (by omega), Int.toNat_natCast]

theorem parseWords_of_groups {texts : List (List Char)} {words : List Nat}
    (all : List.Forall₂ Group texts words) : texts.mapM parseWord = some words :=
  List.mapM_eq_some_iff.mpr (all.imp fun _ _ group => parseWord_of_group group)

theorem parseHalves_whole {half : List Char} (eight : (wordsOf half).length = 8) :
    parseHalves [half] = ((wordsOf half).mapM parseWord).filter (·.length = 8) := by
  rw [parseHalves, if_neg]
  · show ((wordsOf half ++ [] ++ []).mapM parseWord).filter _ = _
    rw [List.append_nil, List.append_nil]
  · show ¬(2 < 1 ∨ (8 : Int) - (wordsOf half).length - (0 : Nat) < 0 ∨
      1 = 1 ∧ (8 : Int) - (wordsOf half).length - (0 : Nat) ≠ 0)
    omega

theorem parseHalves_gap {left right : List Char}
    (fewer : (wordsOf left).length + (wordsOf right).length < 8) :
    parseHalves [left, right] =
      ((wordsOf left ++
          List.replicate (8 - (wordsOf left).length - (wordsOf right).length) ['0'] ++
          wordsOf right).mapM parseWord).filter (·.length = 8) := by
  have missing : ((8 : Int) - (wordsOf left).length - (wordsOf right).length).toNat =
      8 - (wordsOf left).length - (wordsOf right).length := by omega
  rw [parseHalves, if_neg]
  · show ((wordsOf left ++
      List.replicate ((8 : Int) - (wordsOf left).length - (wordsOf right).length).toNat ['0'] ++
      wordsOf right).mapM parseWord).filter _ = _
    rw [missing]
  · show ¬(2 < 2 ∨ (8 : Int) - (wordsOf left).length - (wordsOf right).length < 0 ∨
      2 = 1 ∧ (8 : Int) - (wordsOf left).length - (wordsOf right).length ≠ 0)
    omega

/-- An address without dots is read. -/
theorem parseHalves_of_spelled {text : List Char} {words : List Nat}
    (address : Spelled (List.Forall₂ Group) text words) :
    parseHalves (splitDouble text) = some words := by
  have kept : ∀ {texts : List (List Char)} {words : List Nat}, List.Forall₂ Group texts words →
      words.length = 8 → (texts.mapM parseWord).filter (·.length = 8) = some words := by
    intro texts words all eight
    rw [parseWords_of_groups all, Option.filter_some, if_pos (decide_eq_true eight)]
  cases address with
  | @whole texts words all eight =>
    have split : splitDouble (byColons texts) = [byColons texts] := by
      have step := splitDouble_byColons all []
      rw [List.append_nil] at step
      rw [step, splitDouble, List.modifyHead_cons, List.append_nil]
    have count := all.length_eq
    rw [split, parseHalves_whole, wordsOf_byColons all]
    · exact kept all eight
    · rw [wordsOf_byColons all, count, eight]
  | @gap front back first second isFront isBack fewer =>
    have split : splitDouble (byColons front ++ ':' :: ':' :: byColons back) =
        [byColons front, byColons back] := by
      have backSplit := splitDouble_byColons isBack []
      rw [List.append_nil] at backSplit
      rw [splitDouble_byColons isFront, splitDouble, backSplit, splitDouble, List.modifyHead_cons,
        List.modifyHead_cons, List.append_nil, List.append_nil]
    have frontCount := isFront.length_eq
    have backCount := isBack.length_eq
    have zero : Group ['0'] 0 := ⟨by decide, by decide⟩
    have zeros : ∀ count, List.Forall₂ Group (List.replicate count ['0'])
        (List.replicate count 0) := by
      intro count
      induction count with
      | zero => exact .nil
      | succ count inductionHypothesis => exact .cons zero inductionHypothesis
    rw [split, parseHalves_gap, wordsOf_byColons isFront, wordsOf_byColons isBack, frontCount,
      backCount]
    · refine kept (List.rel_append (List.rel_append isFront (zeros _)) isBack) ?_
      rw [List.length_append, List.length_append, List.length_replicate]
      omega
    · rw [wordsOf_byColons isFront, wordsOf_byColons isBack, frontCount, backCount]
      exact fewer

theorem parseOctets_of_octets {first second third last : List Char} {a b c d : Nat}
    (isFirst : Octet first a) (isSecond : Octet second b) (isThird : Octet third c)
    (isLast : Octet last d) : parseOctets (dotted first second third last) = some [a, b, c, d] := by
  have noDot : ∀ {text : List Char} {value : Nat}, Octet text value → '.' ∉ text := by
    intro text value octet member
    exact absurd (octet.digits.2 '.' member) (by decide)
  have pieces : (dotted first second third last).splitOn '.' = [first, second, third, last] := by
    rw [dotted, List.append_assoc, List.append_assoc, List.cons_append, List.cons_append,
      List.splitOn_append_cons_self_of_not_mem (noDot isFirst),
      List.splitOn_append_cons_self_of_not_mem (noDot isSecond),
      List.splitOn_append_cons_self_of_not_mem (noDot isThird),
      List.splitOn_eq_singleton (noDot isLast)]
  have read : ∀ {text : List Char} {value : Nat}, Octet text value →
      parseOctet text = some value := by
    intro text value octet
    have small := octet.2
    rw [parseOctet, intTryParse_decimal octet.1 (Nat.lt_trans small (by decide)), Option.bind_some,
      if_neg (by omega), Int.toNat_natCast]
  have all : [first, second, third, last].mapM parseOctet = some [a, b, c, d] :=
    List.mapM_eq_some_iff.mpr (.cons (read isFirst) (.cons (read isSecond)
      (.cons (read isThird) (.cons (read isLast) .nil))))
  rw [parseOctets, pieces, all]
  rfl

/-- Two bytes beside each other. -/
theorem shiftLeft_or {high low : Nat} (small : low < 256) : high <<< 8 ||| low = high * 256 + low := by
  rw [← Nat.shiftLeft_add_eq_or_of_lt (show low < 2 ^ 8 from small), Nat.shiftLeft_eq]

theorem group_toDigits {word : Nat} (small : word < 65536) : Group (Nat.toDigits 16 word) word :=
  ⟨(Nat.length_toDigits_le_iff (by decide) (by decide)).mpr small,
    readDigits_toDigits (by decide) (by decide) word⟩

/-- The text after the last colon. -/
theorem takeWhile_reverse {front tail : List Char} (none : ':' ∉ tail) :
    ((front ++ ':' :: tail).reverse.takeWhile (· ≠ ':')).reverse = tail ∧
      ((front ++ ':' :: tail).reverse.dropWhile (· ≠ ':')).reverse = front ++ [':'] := by
  have all : ∀ character ∈ tail.reverse, decide (character ≠ ':') = true := by
    intro character member
    refine decide_eq_true fun isColon => none ?_
    rw [← isColon]
    exact List.mem_reverse.mp member
  have whole : (front ++ ':' :: tail).reverse = tail.reverse ++ ':' :: front.reverse := by simp
  rw [whole]
  constructor
  · rw [List.takeWhile_append_of_pos all, List.takeWhile_cons_of_neg (by decide), List.append_nil,
      List.reverse_reverse]
  · rw [List.dropWhile_append_of_pos all, List.dropWhile_cons_of_neg (by decide),
      List.reverse_cons, List.reverse_reverse]

/-- Every IPv6 address is read. -/
theorem parseIpv6Words_of_ipv6 {text : List Char} {words : List Nat} (address : Ipv6 text words) :
    parseIpv6Words text = some words := by
  rw [parseIpv6Words, if_pos address.colon_mem]
  rcases address.split with groups | ⟨front, first, second, third, last, a, b, c, d, rfl,
      ⟨isFirst, isSecond, isThird, isLast⟩, written⟩
  · have noDot : '.' ∉ text := by
      intro member
      rcases groups.characters '.' member with isColon | isDigit
      · exact absurd isColon (by decide)
      · exact absurd isDigit (by decide)
    have same : withoutDottedTail text = some text := by
      refine if_neg fun member => noDot ?_
      exact List.mem_reverse.mp ((List.takeWhile_sublist _).subset (List.mem_reverse.mp member))
    rw [same, Option.bind_some]
    exact parseHalves_of_spelled groups
  · have noColon : ':' ∉ dotted first second third last := by
      intro member
      rcases ((Tail.dots .nil isFirst isSecond isThird isLast).piece _ List.mem_cons_self).2 ':'
        member with isDot | isDigit
      · exact absurd isDot (by decide)
      · exact absurd isDigit (by decide)
    have firstSmall := isFirst.2
    have secondSmall := isSecond.2
    have thirdSmall := isThird.2
    have lastSmall := isLast.2
    have same : withoutDottedTail (front ++ ':' :: dotted first second third last) =
        some (front ++ ':' :: Nat.toDigits 16 (a * 256 + b) ++
          ':' :: Nat.toDigits 16 (c * 256 + d)) := by
      unfold withoutDottedTail
      rw [(takeWhile_reverse noColon).1, (takeWhile_reverse noColon).2, if_pos (by simp [dotted]),
        parseOctets_of_octets isFirst isSecond isThird isLast, Option.map_some]
      show some (front ++ [':'] ++ Nat.toDigits 16 (a <<< 8 ||| b) ++
        ':' :: Nat.toDigits 16 (c <<< 8 ||| d)) = _
      rw [shiftLeft_or secondSmall, shiftLeft_or lastSmall, List.append_assoc front]
      rfl
    rw [same, Option.bind_some]
    exact parseHalves_of_spelled
      (written _ _ (group_toDigits (by omega)) (group_toDigits (by omega)))

theorem splitDouble_ne_nil (text : List Char) : splitDouble text ≠ [] := by
  fun_induction splitDouble text with
  | case1 rest inductionHypothesis => exact List.cons_ne_nil _ _
  | case2 first rest notDouble inductionHypothesis =>
    obtain ⟨head, tail, cut⟩ := List.exists_cons_of_ne_nil inductionHypothesis
    rw [cut]
    exact List.cons_ne_nil _ _
  | case3 => exact List.cons_ne_nil _ _

/-- A character that is no colon is in a piece of a host cut at its double colons. -/
theorem exists_half {text : List Char} {character : Char} (member : character ∈ text)
    (other : character ≠ ':') : ∃ half ∈ splitDouble text, character ∈ half := by
  fun_induction splitDouble text with
  | case1 rest inductionHypothesis =>
    rcases List.mem_cons.mp member with isColon | member
    · exact absurd isColon other
    · rcases List.mem_cons.mp member with isColon | inRest
      · exact absurd isColon other
      · obtain ⟨half, isHalf, inHalf⟩ := inductionHypothesis inRest
        exact ⟨half, List.mem_cons_of_mem _ isHalf, inHalf⟩
  | case2 first rest notDouble inductionHypothesis =>
    obtain ⟨head, tail, cut⟩ := List.exists_cons_of_ne_nil (splitDouble_ne_nil rest)
    rw [cut] at inductionHypothesis ⊢
    rcases List.mem_cons.mp member with rfl | inRest
    · exact ⟨_, List.mem_cons_self, List.mem_cons_self⟩
    · obtain ⟨half, isHalf, inHalf⟩ := inductionHypothesis inRest
      rcases List.mem_cons.mp isHalf with rfl | inTail
      · exact ⟨_, List.mem_cons_self, List.mem_cons_of_mem _ inHalf⟩
      · exact ⟨half, List.mem_cons_of_mem _ inTail, inHalf⟩
  | case3 => cases member

/-- A half that is read has colons and numerals in it. -/
theorem characters_of_parseHalves {halves : List (List Char)} {words : List Nat}
    (read : parseHalves halves = some words) :
    ∀ half ∈ halves, ∀ character ∈ half, character ≠ ':' → InNumeral character := by
  have numeral : ∀ {word : List Char} {value : Nat}, parseWord word = some value →
      ∀ character ∈ word, InNumeral character := by
    intro word value isRead
    obtain ⟨parsed, isParsed, -⟩ := Option.bind_eq_some_iff.mp isRead
    exact inNumeral_of_intTryParse (by decide) isParsed
  have inWord : ∀ {half : List Char} {character : Char}, character ∈ half → character ≠ ':' →
      ∃ word ∈ wordsOf half, character ∈ word := by
    intro half character member other
    rw [wordsOf, if_neg (List.ne_nil_of_mem member)]
    exact exists_piece member other
  rw [parseHalves, Option.ite_none_left_eq_some] at read
  obtain ⟨isAddress, kept⟩ := read
  obtain ⟨made, -⟩ := Option.filter_eq_some_iff.mp kept
  have all := (exists_partner (List.mapM_eq_some_iff.mp made)).1
  intro half isHalf character inHalf other
  obtain ⟨word, isWord, inside⟩ := inWord inHalf other
  match halves, isAddress with
  | [first], _ =>
    rw [List.mem_singleton.mp isHalf] at isWord
    obtain ⟨value, isRead⟩ := all word (List.mem_append_left _ (List.mem_append_left _ isWord))
    exact numeral isRead character inside
  | [first, second], _ =>
    rcases List.mem_cons.mp isHalf with rfl | isSecond
    · obtain ⟨value, isRead⟩ := all word (List.mem_append_left _ (List.mem_append_left _ isWord))
      exact numeral isRead character inside
    · rw [List.mem_singleton.mp isSecond] at isWord
      obtain ⟨value, isRead⟩ := all word (List.mem_append_right _ isWord)
      exact numeral isRead character inside
  | first :: second :: third :: rest, many =>
    exact absurd (.inl (by simp)) many

/-- A host that is read as an IPv6 address has colons, dots and numerals in it. -/
theorem characters_of_parseIpv6Words {host : List Char} {words : List Nat}
    (read : parseIpv6Words host = some words) :
    ∀ character ∈ host, character = ':' ∨ character = '.' ∨ InNumeral character := by
  rw [parseIpv6Words] at read
  split at read
  swap
  · cases read
  obtain ⟨normalized, isNormalized, halves⟩ := Option.bind_eq_some_iff.mp read
  have normal : ∀ character ∈ normalized, character = ':' ∨ InNumeral character := by
    intro character member
    by_cases isColon : character = ':'
    · exact .inl isColon
    · obtain ⟨half, isHalf, inHalf⟩ := exists_half member isColon
      exact .inr (characters_of_parseHalves halves half isHalf character inHalf isColon)
  intro character member
  unfold withoutDottedTail at isNormalized
  dsimp only at isNormalized
  split at isNormalized
  · obtain ⟨octets, isOctets, rfl⟩ := Option.map_eq_some_iff.mp isNormalized
    have whole : host = (host.reverse.dropWhile (· ≠ ':')).reverse ++
        (host.reverse.takeWhile (· ≠ ':')).reverse := by
      rw [← List.reverse_append, List.takeWhile_append_dropWhile, List.reverse_reverse]
    rw [whole] at member
    rcases List.mem_append.mp member with inFront | inTail
    · rcases normal character (List.mem_append_left _ (List.mem_append_left _ inFront)) with
        isColon | inNumeral
      · exact .inl isColon
      · exact .inr (.inr inNumeral)
    · by_cases isDot : character = '.'
      · exact .inr (.inl isDot)
      · obtain ⟨piece, isPiece, inPiece⟩ := exists_piece inTail isDot
        obtain ⟨made, -⟩ := Option.filter_eq_some_iff.mp isOctets
        obtain ⟨value, isRead⟩ := (exists_partner (List.mapM_eq_some_iff.mp made)).1 piece isPiece
        obtain ⟨parsed, isParsed, -⟩ := Option.bind_eq_some_iff.mp isRead
        exact .inr (.inr (inNumeral_of_intTryParse (by decide) isParsed character inPiece))
  · rw [← Option.some.inj isNormalized] at normal
    rcases normal character member with isColon | inNumeral
    · exact .inl isColon
    · exact .inr (.inr inNumeral)

end Ledgerly.ApiEndpoint
