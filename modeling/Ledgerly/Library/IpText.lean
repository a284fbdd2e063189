/-
This file is about IP addresses as texts: what a URL parser reads as an IPv4 address (one to four
parts, each decimal, octal or hexadecimal), which texts are an IPv6 address (groups of hexadecimal
digits, one gap for zeros, perhaps the last two groups with dots), and which addresses are private
or stay on the machine.

An IPv6 text spells eight words. `Spelled` leaves open how the last of them are written, so that a
text with dots at its end is compared with one without by a theorem.
-/

import Ledgerly.Library.Numerals
import Ledgerly.Library.Partial
import Mathlib.Data.List.Forall2
import Mathlib.Data.Nat.Digits.Defs

namespace IpText

open Numerals

/-! ### IPv4 -/

/-- A part of an IPv4 address: hexadecimal after `0x`, where nothing stands for zero, octal after a
`0`, else decimal. -/
def partNumber (part : List Char) : Option Nat :=
  if (part.take 2).map Char.toLower = ['0', 'x'] then
    if part.drop 2 = [] then some 0 else readDigits 16 (part.drop 2)
  else if 2 ≤ part.length ∧ part.head? = some '0' then readDigits 8 (part.drop 1)
  else readDigits 10 part

/-- The address with these parts: the last stands for all bytes that the others leave. -/
def ofParts : List Nat → Option Nat
  | [last] => if last < 256 ^ 4 then some last else none
  | [first, last] =>
    if first < 256 ∧ last < 256 ^ 3 then some (first * 256 ^ 3 + last) else none
  | [first, second, last] =>
    if first < 256 ∧ second < 256 ∧ last < 256 ^ 2 then
      some (first * 256 ^ 3 + second * 256 ^ 2 + last)
    else none
  | [first, second, third, last] =>
    if first < 256 ∧ second < 256 ∧ third < 256 ∧ last < 256 then
      some (first * 256 ^ 3 + second * 256 ^ 2 + third * 256 + last)
    else none
  | _ => none

/-- A text without the dot that may end a name. -/
def withoutDot (host : List Char) : List Char :=
  if host.getLast? = some '.' then host.dropLast else host

/-- The IPv4 address a URL parser reads in a host. -/
def ipv4 (host : List Char) : Option Nat :=
  (((withoutDot host).splitOn '.').mapM partNumber).bind ofParts

/-! ### IPv6 -/

/-- A group of an IPv6 address: one to four hexadecimal digits. -/
def Group (text : List Char) (word : Nat) : Prop :=
  text.length ≤ 4 ∧ readDigits 16 text = some word

/-- A byte of an address with dots. -/
def Octet (text : List Char) (value : Nat) : Prop :=
  readDigits 10 text = some value ∧ value < 256

/-- Four bytes with dots between them. -/
def dotted (first second third last : List Char) : List Char :=
  first ++ '.' :: second ++ '.' :: third ++ '.' :: last

/-- Groups, of which the last two may be written with dots. -/
inductive Tail : List (List Char) → List Nat → Prop
  | groups {texts words} (all : List.Forall₂ Group texts words) : Tail texts words
  | dots {texts words first second third last a b c d} (all : List.Forall₂ Group texts words)
      (isFirst : Octet first a) (isSecond : Octet second b) (isThird : Octet third c)
      (isLast : Octet last d) :
      Tail (texts ++ [dotted first second third last]) (words ++ [a * 256 + b, c * 256 + d])

/-- Texts with colons between them. -/
def byColons (texts : List (List Char)) : List Char := [':'].intercalate texts

/-- A text for eight words, all written out or with a gap for zeros, where `tail` says how the words
at the end are written. -/
inductive Spelled (tail : List (List Char) → List Nat → Prop) : List Char → List Nat → Prop
  | whole {texts words} (all : tail texts words) (eight : words.length = 8) :
      Spelled tail (byColons texts) words
  | gap {front back first second} (isFront : List.Forall₂ Group front first)
      (isBack : tail back second) (fewer : first.length + second.length < 8) :
      Spelled tail (byColons front ++ ':' :: ':' :: byColons back)
        (first ++ List.replicate (8 - first.length - second.length) 0 ++ second)

/-- A text of an IPv6 address, which is these eight words. -/
def Ipv6 : List Char → List Nat → Prop := Spelled Tail

/-! ### Blocks of addresses -/

/-- Whether an address of `width` bits begins with the first `length` bits of `base`. -/
def InBlock (width length base value : Nat) : Prop :=
  value >>> (width - length) = base >>> (width - length)

instance (width length base value : Nat) : Decidable (InBlock width length base value) :=
  inferInstanceAs (Decidable (_ = _))

/-- The IPv4 address of four bytes. -/
def ofBytes (first second third last : Nat) : Nat :=
  first * 256 ^ 3 + second * 256 ^ 2 + third * 256 + last

/-- The IPv6 address of its words. -/
def ofWords (words : List Nat) : Nat := words.foldl (fun value word => value * 65536 + word) 0

/-- The unspecified address and the loopback block. -/
def LocalIpv4 (value : Nat) : Prop := value = 0 ∨ InBlock 32 8 (ofBytes 127 0 0 0) value

/-- The unspecified address, the loopback address, and the IPv4 addresses of that kind, mapped
(`::ffff:a.b.c.d`) or compatible (`::a.b.c.d`). -/
def LocalIpv6 (value : Nat) : Prop :=
  value = 0 ∨ value = 1 ∨
    ((value / 2 ^ 32 = 0 ∨ value / 2 ^ 32 = 0xffff) ∧ LocalIpv4 (value % 2 ^ 32))

/-- The private blocks and the link-local one. -/
def PrivateIpv4 (value : Nat) : Prop :=
  InBlock 32 8 (ofBytes 10 0 0 0) value ∨ InBlock 32 12 (ofBytes 172 16 0 0) value ∨
    InBlock 32 16 (ofBytes 192 168 0 0) value ∨ InBlock 32 16 (ofBytes 169 254 0 0) value

/-- `fc00::/7` and `fe80::/10`. -/
def PrivateIpv6 (value : Nat) : Prop :=
  InBlock 128 7 (ofWords [0xfc00, 0, 0, 0, 0, 0, 0, 0]) value ∨
    InBlock 128 10 (ofWords [0xfe80, 0, 0, 0, 0, 0, 0, 0]) value

/-! ### Pieces between colons -/

theorem byColons_cons_cons (first second : List Char) (rest : List (List Char)) :
    byColons (first :: second :: rest) = first ++ ':' :: byColons (second :: rest) := by
  rw [byColons, List.intercalate_cons_cons, List.append_assoc]
  rfl

/-- A piece at the end comes after the others and a colon. -/
theorem byColons_concat {texts : List (List Char)} (some : texts ≠ []) (last : List Char) :
    byColons (texts ++ [last]) = byColons texts ++ ':' :: last := by
  induction texts with
  | nil => exact absurd rfl some
  | cons first rest inductionHypothesis =>
    cases rest with
    | nil =>
      rw [List.cons_append, List.nil_append, byColons_cons_cons, byColons, List.intercalate_singleton,
        byColons, List.intercalate_singleton]
    | cons second rest =>
      have step := inductionHypothesis (List.cons_ne_nil second rest)
      rw [List.cons_append] at step
      rw [List.cons_append, List.cons_append, byColons_cons_cons, step, byColons_cons_cons,
        List.append_assoc, List.cons_append]

theorem byColons_append_pair {texts : List (List Char)} (some : texts ≠ []) (high low : List Char) :
    byColons (texts ++ [high, low]) = byColons texts ++ ':' :: high ++ ':' :: low := by
  rw [List.append_cons, byColons_concat (List.append_ne_nil_of_left_ne_nil some _),
    byColons_concat some]

/-- A character of the whole is the separator or is one of a piece. -/
theorem mem_intercalate {separator character : Char} {pieces : List (List Char)}
    (member : character ∈ [separator].intercalate pieces) :
    character = separator ∨ ∃ piece ∈ pieces, character ∈ piece := by
  induction pieces with
  | nil => cases member
  | cons first rest inductionHypothesis =>
    cases rest with
    | nil =>
      rw [List.intercalate_singleton] at member
      exact .inr ⟨first, List.mem_cons_self, member⟩
    | cons second rest =>
      rw [List.intercalate_cons_cons, List.mem_append, List.mem_append, List.mem_singleton]
        at member
      rcases member with (inFirst | isSeparator) | inRest
      · exact .inr ⟨first, List.mem_cons_self, inFirst⟩
      · exact .inl isSeparator
      · rcases inductionHypothesis inRest with isSeparator | ⟨piece, isPiece, inPiece⟩
        · exact .inl isSeparator
        · exact .inr ⟨piece, List.mem_cons_of_mem _ isPiece, inPiece⟩

/-- A character of a piece is one of the whole. -/
theorem mem_intercalate_of_mem {separator character : Char} {pieces : List (List Char)}
    {piece : List Char} (isPiece : piece ∈ pieces) (inPiece : character ∈ piece) :
    character ∈ [separator].intercalate pieces := by
  induction pieces with
  | nil => cases isPiece
  | cons first rest inductionHypothesis =>
    cases rest with
    | nil =>
      rw [List.intercalate_singleton, ← List.mem_singleton.mp isPiece]
      exact inPiece
    | cons second rest =>
      rw [List.intercalate_cons_cons]
      rcases List.mem_cons.mp isPiece with rfl | inRest
      · exact List.mem_append_left _ (List.mem_append_left _ inPiece)
      · exact List.mem_append_right _ (inductionHypothesis inRest)

theorem byColons_map_toLower (texts : List (List Char)) :
    (byColons texts).map Char.toLower = byColons (texts.map (·.map Char.toLower)) := by
  induction texts with
  | nil => rfl
  | cons first rest inductionHypothesis =>
    cases rest with
    | nil =>
      rw [byColons, List.intercalate_singleton, List.map_cons, List.map_nil, byColons,
        List.intercalate_singleton]
    | cons second rest =>
      rw [byColons_cons_cons, List.map_append, List.map_cons, inductionHypothesis]
      exact (byColons_cons_cons (first.map Char.toLower) (second.map Char.toLower) _).symm

/-! ### The words of a text -/

theorem Group.lt {text : List Char} {word : Nat} (group : Group text word) : word < 65536 :=
  calc word < 16 ^ text.length := readDigits_lt group.2
    _ ≤ 16 ^ 4 := Nat.pow_le_pow_right (by decide) group.1

theorem Group.digits {text : List Char} {word : Nat} (group : Group text word) :
    text ≠ [] ∧ ∀ digit ∈ text, digitValue digit < 16 :=
  (readDigits_eq_some_iff.mp group.2).1

theorem Octet.digits {text : List Char} {value : Nat} (octet : Octet text value) :
    text ≠ [] ∧ ∀ digit ∈ text, digitValue digit < 10 :=
  (readDigits_eq_some_iff.mp octet.1).1

/-- In two lists that agree, each item has its partner. -/
theorem exists_partner {α β : Type*} {agree : α → β → Prop} {items : List α} {others : List β}
    (all : List.Forall₂ agree items others) :
    (∀ item ∈ items, ∃ other, agree item other) ∧ ∀ other ∈ others, ∃ item, agree item other := by
  induction all with
  | nil => exact ⟨fun _ member => (nomatch member), fun _ member => (nomatch member)⟩
  | @cons item other items others agrees rest inductionHypothesis =>
    constructor
    · intro first member
      rcases List.mem_cons.mp member with rfl | inRest
      · exact ⟨other, agrees⟩
      · exact inductionHypothesis.1 first inRest
    · intro first member
      rcases List.mem_cons.mp member with rfl | inRest
      · exact ⟨item, agrees⟩
      · exact inductionHypothesis.2 first inRest

theorem lt_of_groups {texts : List (List Char)} {words : List Nat}
    (all : List.Forall₂ Group texts words) : ∀ word ∈ words, word < 65536 := by
  intro word member
  obtain ⟨text, isGroup⟩ := (exists_partner all).2 word member
  exact isGroup.lt

/-- The words that are written are words. -/
theorem Tail.lt {texts : List (List Char)} {words : List Nat} (tail : Tail texts words) :
    ∀ word ∈ words, word < 65536 := by
  cases tail with
  | groups all => exact lt_of_groups all
  | dots all isFirst isSecond isThird isLast =>
    have a := isFirst.2
    have b := isSecond.2
    have c := isThird.2
    have d := isLast.2
    intro word member
    rcases List.mem_append.mp member with inFront | atEnd
    · exact lt_of_groups all word inFront
    · rcases List.mem_cons.mp atEnd with rfl | atEnd
      · omega
      · rw [List.mem_singleton.mp atEnd]
        omega

theorem Tail.eq_nil {texts : List (List Char)} {words : List Nat} (tail : Tail texts words)
    (none : texts = []) : words = [] := by
  cases tail with
  | groups all =>
    subst none
    cases all
    rfl
  | dots all => exact absurd none (List.append_ne_nil_of_right_ne_nil _ (List.cons_ne_nil _ _))

/-- An IPv6 address has eight words. -/
theorem Ipv6.words {text : List Char} {words : List Nat} (address : Ipv6 text words) :
    words.length = 8 ∧ ∀ word ∈ words, word < 65536 := by
  cases address with
  | whole all eight => exact ⟨eight, all.lt⟩
  | @gap front back first second isFront isBack fewer =>
    constructor
    · rw [List.length_append, List.length_append, List.length_replicate]
      omega
    · intro word member
      rcases List.mem_append.mp member with inFront | inBack
      · rcases List.mem_append.mp inFront with inFront | inGap
        · exact lt_of_groups isFront word inFront
        · rw [List.eq_of_mem_replicate inGap]
          decide
      · exact isBack.lt word inBack

/-! ### The characters of a text -/

/-- A piece ends with a digit, and has digits and dots in it. -/
theorem Tail.piece {texts : List (List Char)} {words : List Nat} (tail : Tail texts words) :
    ∀ text ∈ texts, (∃ before digit, text = before ++ [digit] ∧ digitValue digit < 16) ∧
      ∀ character ∈ text, character = '.' ∨ digitValue character < 16 := by
  have ends : ∀ {text : List Char}, text ≠ [] → (∀ digit ∈ text, digitValue digit < 16) →
      ∃ before digit, text = before ++ [digit] ∧ digitValue digit < 16 := by
    intro text some all
    refine ⟨text.dropLast, text.getLast some, (List.dropLast_append_getLast some).symm, ?_⟩
    exact all _ (List.getLast_mem some)
  have group : ∀ {texts : List (List Char)} {words : List Nat}, List.Forall₂ Group texts words →
      ∀ text ∈ texts, (∃ before digit, text = before ++ [digit] ∧ digitValue digit < 16) ∧
        ∀ character ∈ text, character = '.' ∨ digitValue character < 16 := by
    intro texts words all text member
    obtain ⟨word, isGroup⟩ := (exists_partner all).1 text member
    exact ⟨ends isGroup.digits.1 isGroup.digits.2,
      fun character inText => .inr (isGroup.digits.2 character inText)⟩
  cases tail with
  | groups all => exact group all
  | @dots texts words first second third last a b c d all isFirst isSecond isThird isLast =>
    intro text member
    rcases List.mem_append.mp member with inFront | atEnd
    · exact group all text inFront
    · rw [List.mem_singleton.mp atEnd, dotted]
      have small : ∀ {text : List Char} {value : Nat}, Octet text value →
          ∀ digit ∈ text, digitValue digit < 16 :=
        fun octet digit inText => Nat.lt_trans (octet.digits.2 digit inText) (by decide)
      constructor
      · obtain ⟨before, digit, whole, isDigit⟩ := ends isLast.digits.1 (small isLast)
        refine ⟨first ++ '.' :: second ++ '.' :: third ++ '.' :: before, digit, ?_, isDigit⟩
        simp only [whole, List.append_assoc, List.cons_append]
      · intro character inText
        simp only [List.mem_append, List.mem_cons] at inText
        rcases inText with ((inFirst | isDot | inSecond) | isDot | inThird) | isDot | inLast
        · exact .inr (small isFirst character inFirst)
        · exact .inl isDot
        · exact .inr (small isSecond character inSecond)
        · exact .inl isDot
        · exact .inr (small isThird character inThird)
        · exact .inl isDot
        · exact .inr (small isLast character inLast)

theorem mem_byColons_tail {texts : List (List Char)} {words : List Nat} (tail : Tail texts words)
    {character : Char} (member : character ∈ byColons texts) :
    character = ':' ∨ character = '.' ∨ digitValue character < 16 := by
  rcases mem_intercalate member with isColon | ⟨text, isText, inText⟩
  · exact .inl isColon
  · exact .inr ((tail.piece text isText).2 character inText)

/-- An IPv6 address is written with colons, dots and hexadecimal digits. -/
theorem Ipv6.characters {text : List Char} {words : List Nat} (address : Ipv6 text words) :
    ∀ character ∈ text, character = ':' ∨ character = '.' ∨ digitValue character < 16 := by
  intro character member
  cases address with
  | whole all eight => exact mem_byColons_tail all member
  | gap isFront isBack fewer =>
    simp only [List.mem_append, List.mem_cons] at member
    rcases member with inFront | isColon | isColon | inBack
    · exact mem_byColons_tail (.groups isFront) inFront
    · exact .inl isColon
    · exact .inl isColon
    · exact mem_byColons_tail isBack inBack

/-- and does not end with a dot. -/
theorem Ipv6.withoutDot_eq {text : List Char} {words : List Nat} (address : Ipv6 text words) :
    withoutDot text = text := by
  have digitEnd : ∀ {texts : List (List Char)} {words : List Nat}, Tail texts words →
      texts ≠ [] → ∀ front : List Char, (front ++ byColons texts).getLast? ≠ some '.' := by
    intro texts words tail some front isDot
    obtain ⟨texts, last, rfl⟩ := (List.eq_nil_or_concat' texts).resolve_left some
    obtain ⟨before, digit, rfl, isDigit⟩ := (tail.piece last (by simp)).1
    have ends : (front ++ byColons (texts ++ [before ++ [digit]])).getLast? = Option.some digit := by
      by_cases none : texts = []
      · rw [none, List.nil_append, byColons, List.intercalate_singleton, ← List.append_assoc,
          List.getLast?_concat]
      · rw [byColons_concat none, ← List.cons_append, ← List.append_assoc, ← List.append_assoc,
          List.getLast?_concat]
    rw [ends, Option.some.injEq] at isDot
    rw [isDot] at isDigit
    exact absurd isDigit (by decide)
  rw [withoutDot, if_neg]
  cases address with
  | @whole texts _ all eight =>
    have some : texts ≠ [] := by
      intro none
      rw [all.eq_nil none] at eight
      cases eight
    exact digitEnd all some []
  | @gap front back first second isFront isBack fewer =>
    by_cases none : back = []
    · rw [none]
      have colons : byColons front ++ ':' :: ':' :: byColons [] =
          (byColons front ++ [':']) ++ [':'] := by
        rw [List.append_assoc]
        rfl
      rw [colons, List.getLast?_concat]
      decide
    · have whole : byColons front ++ ':' :: ':' :: byColons back =
          (byColons front ++ [':', ':']) ++ byColons back := by
        rw [List.append_assoc]
        rfl
      rw [whole]
      exact digitEnd isBack none _

/-- A text with dots at its end is one without them but for the two words at its end. -/
theorem Ipv6.split {text : List Char} {words : List Nat} (address : Ipv6 text words) :
    Spelled (List.Forall₂ Group) text words ∨
      ∃ front first second third last a b c d, text = front ++ ':' :: dotted first second third last ∧
        (Octet first a ∧ Octet second b ∧ Octet third c ∧ Octet last d) ∧
        ∀ high low, Group high (a * 256 + b) → Group low (c * 256 + d) →
          Spelled (List.Forall₂ Group) (front ++ ':' :: high ++ ':' :: low) words := by
  cases address with
  | whole all eight =>
    cases all with
    | groups all => exact .inl (.whole all eight)
    | @dots texts words first second third last a b c d all isFirst isSecond isThird isLast =>
      right
      have some : texts ≠ [] := by
        rintro rfl
        cases all
        cases eight
      refine ⟨byColons texts, first, second, third, last, a, b, c, d, byColons_concat some _,
        ⟨isFirst, isSecond, isThird, isLast⟩, fun high low isHigh isLow => ?_⟩
      rw [← byColons_append_pair some]
      exact .whole (List.rel_append all (.cons isHigh (.cons isLow .nil))) eight
  | @gap front back first second isFront isBack fewer =>
    cases isBack with
    | groups isBack => exact .inl (.gap isFront isBack fewer)
    | @dots texts words one two three four a b c d all isFirst isSecond isThird isLast =>
      right
      have ends : ∀ high low, Group high (a * 256 + b) → Group low (c * 256 + d) →
          Spelled (List.Forall₂ Group)
            (byColons front ++ ':' :: ':' :: byColons (texts ++ [high, low]))
            (first ++ List.replicate
              (8 - first.length - (words ++ [a * 256 + b, c * 256 + d]).length) 0 ++
              (words ++ [a * 256 + b, c * 256 + d])) :=
        fun high low isHigh isLow =>
          .gap isFront (List.rel_append all (.cons isHigh (.cons isLow .nil))) fewer
      by_cases none : texts = []
      · subst none
        refine ⟨byColons front ++ [':'], one, two, three, four, a, b, c, d, ?_,
          ⟨isFirst, isSecond, isThird, isLast⟩, fun high low isHigh isLow => ?_⟩
        · rw [List.nil_append, byColons, byColons, List.intercalate_singleton, List.append_assoc]
          rfl
        · have made := ends high low isHigh isLow
          rw [List.nil_append, byColons_cons_cons, byColons, byColons,
            List.intercalate_singleton] at made
          rw [byColons, List.append_assoc, List.append_assoc]
          exact made
      · refine ⟨byColons front ++ ':' :: ':' :: byColons texts, one, two, three, four, a, b, c, d, ?_,
          ⟨isFirst, isSecond, isThird, isLast⟩, fun high low isHigh isLow => ?_⟩
        · rw [byColons_concat none, List.append_assoc]
          rfl
        · have made := ends high low isHigh isLow
          rw [byColons_append_pair none] at made
          simpa only [List.append_assoc, List.cons_append] using made

/-- An address without dots is written with colons and hexadecimal digits. -/
theorem Spelled.characters {text : List Char} {words : List Nat}
    (address : Spelled (List.Forall₂ Group) text words) :
    ∀ character ∈ text, character = ':' ∨ digitValue character < 16 := by
  have pieces : ∀ {texts : List (List Char)} {words : List Nat}, List.Forall₂ Group texts words →
      ∀ character ∈ byColons texts, character = ':' ∨ digitValue character < 16 := by
    intro texts words all character member
    rcases mem_intercalate member with isColon | ⟨piece, isPiece, inPiece⟩
    · exact .inl isColon
    · obtain ⟨word, isGroup⟩ := (exists_partner all).1 piece isPiece
      exact .inr (isGroup.digits.2 character inPiece)
  intro character member
  cases address with
  | whole all eight => exact pieces all character member
  | gap isFront isBack fewer =>
    simp only [List.mem_append, List.mem_cons] at member
    rcases member with inFront | isColon | isColon | inBack
    · exact pieces isFront character inFront
    · exact .inl isColon
    · exact .inl isColon
    · exact pieces isBack character inBack

theorem Spelled.colon_mem {text : List Char} {words : List Nat}
    (address : Spelled (List.Forall₂ Group) text words) : ':' ∈ text := by
  cases address with
  | whole all eight =>
    rw [← all.length_eq] at eight
    match all, eight with
    | .cons _ (.cons _ _), _ =>
      rw [byColons_cons_cons]
      exact List.mem_append_right _ List.mem_cons_self
  | gap isFront isBack fewer => exact List.mem_append_right _ List.mem_cons_self

theorem Ipv6.colon_mem {text : List Char} {words : List Nat} (address : Ipv6 text words) :
    ':' ∈ text := by
  rcases address.split with groups | ⟨front, first, second, third, last, a, b, c, d, rfl, -⟩
  · exact groups.colon_mem
  · exact List.mem_append_right _ List.mem_cons_self

/-! ### The case of the letters -/

theorem Group.toLower {text : List Char} {word : Nat} (group : Group text word) :
    Group (text.map Char.toLower) word := by
  refine ⟨?_, ?_⟩
  · rw [List.length_map]
    exact group.1
  · rw [readDigits_map_toLower]
    exact group.2

theorem Octet.toLower {text : List Char} {value : Nat} (octet : Octet text value) :
    Octet (text.map Char.toLower) value := by
  refine ⟨?_, octet.2⟩
  rw [readDigits_map_toLower]
  exact octet.1

theorem forall₂_toLower {texts : List (List Char)} {words : List Nat}
    (all : List.Forall₂ Group texts words) :
    List.Forall₂ Group (texts.map (·.map Char.toLower)) words :=
  List.forall₂_map_left_iff.mpr (all.imp fun _ _ group => group.toLower)

/-- An address may be written with small or capital letters. -/
theorem Ipv6.toLower {text : List Char} {words : List Nat} (address : Ipv6 text words) :
    Ipv6 (text.map Char.toLower) words := by
  have tails : ∀ {texts : List (List Char)} {words : List Nat}, Tail texts words →
      Tail (texts.map (·.map Char.toLower)) words := by
    intro texts words tail
    cases tail with
    | groups all => exact .groups (forall₂_toLower all)
    | @dots texts words first second third last a b c d all isFirst isSecond isThird isLast =>
      have made := Tail.dots (forall₂_toLower all) isFirst.toLower isSecond.toLower
        isThird.toLower isLast.toLower
      have same : (dotted first second third last).map Char.toLower =
          dotted (first.map Char.toLower) (second.map Char.toLower) (third.map Char.toLower)
            (last.map Char.toLower) := by
        simp only [dotted, List.map_append, List.map_cons]
        rfl
      rw [← same] at made
      rw [List.map_append]
      exact made
  cases address with
  | whole all eight =>
    rw [byColons_map_toLower]
    exact .whole (tails all) eight
  | gap isFront isBack fewer =>
    rw [List.map_append, List.map_cons, List.map_cons, byColons_map_toLower, byColons_map_toLower]
    exact .gap (forall₂_toLower isFront) (tails isBack) fewer

theorem partNumber_map_toLower (part : List Char) :
    partNumber (part.map Char.toLower) = partNumber part := by
  have start : ((part.map Char.toLower).take 2).map Char.toLower =
      (part.take 2).map Char.toLower := by
    rw [← List.map_take, List.map_map]
    exact List.map_congr_left fun character _ => toLower_toLower character
  have zero : (part.map Char.toLower).head? = some '0' ↔ part.head? = some '0' := by
    cases part with
    | nil => exact Iff.rfl
    | cons first rest =>
      rw [List.map_cons, List.head?_cons, List.head?_cons, Option.some.injEq, Option.some.injEq]
      exact toLower_eq_iff (by decide) (by decide)
  unfold partNumber
  simp only [start, zero, List.length_map, ← List.map_drop, List.map_eq_nil_iff,
    readDigits_map_toLower]

theorem splitOn_map_toLower {separator : Char} (plain : separator.isLower = false)
    (small : separator.toLower = separator) (text : List Char) :
    (text.map Char.toLower).splitOn separator =
      (text.splitOn separator).map (·.map Char.toLower) := by
  induction text with
  | nil => rfl
  | cons first rest inductionHypothesis =>
    rw [List.map_cons, List.splitOn_cons_eq_if_modifyHead, List.splitOn_cons_eq_if_modifyHead,
      inductionHypothesis]
    simp only [beq_iff_eq, toLower_eq_iff plain small]
    split
    · rfl
    · cases rest.splitOn separator <;> rfl

theorem withoutDot_map_toLower (host : List Char) :
    withoutDot (host.map Char.toLower) = (withoutDot host).map Char.toLower := by
  have dot : (host.map Char.toLower).getLast? = some '.' ↔ host.getLast? = some '.' := by
    rw [List.getLast?_map]
    cases host.getLast? with
    | none => exact Iff.rfl
    | some last =>
      rw [Option.map_some, Option.some.injEq, Option.some.injEq]
      exact toLower_eq_iff (by decide) (by decide)
  unfold withoutDot
  simp only [dot]
  split
  · exact List.map_dropLast.symm
  · rfl

/-! ### The characters of an IPv4 address -/

theorem partNumber_characters {part : List Char} {number : Nat}
    (read : partNumber part = some number) :
    part ≠ [] ∧ ∀ character ∈ part, character.toLower = 'x' ∨ digitValue character < 16 := by
  unfold partNumber at read
  split at read
  · next isHex =>
    have whole : part = part.take 2 ++ part.drop 2 := (List.take_append_drop 2 part).symm
    refine ⟨?_, fun character member => ?_⟩
    · rintro rfl
      cases isHex
    · rw [whole] at member
      rcases List.mem_append.mp member with inStart | inDigits
      · have small := List.mem_map_of_mem (f := Char.toLower) inStart
        rw [isHex] at small
        rcases List.mem_cons.mp small with isZero | isX
        · right
          rw [← digitValue_toLower, isZero]
          decide
        · exact .inl (List.mem_singleton.mp isX)
      · right
        split at read
        · next none =>
          rw [none] at inDigits
          cases inDigits
        · exact (readDigits_eq_some_iff.mp read).1.2 character inDigits
  · split at read
    · next isOctal =>
      cases part with
      | nil => cases isOctal.2
      | cons first rest =>
        refine ⟨List.cons_ne_nil _ _, fun character member => .inr ?_⟩
        rcases List.mem_cons.mp member with rfl | inRest
        · rw [Option.some.inj isOctal.2]
          decide
        · exact Nat.lt_trans ((readDigits_eq_some_iff.mp read).1.2 character inRest) (by decide)
    · obtain ⟨some, all⟩ := (readDigits_eq_some_iff.mp read).1
      exact ⟨some, fun character member => .inr (Nat.lt_trans (all character member) (by decide))⟩

/-- A character that does not separate is in a piece. -/
theorem exists_piece {separator character : Char} {text : List Char} (member : character ∈ text)
    (other : character ≠ separator) : ∃ piece ∈ text.splitOn separator, character ∈ piece := by
  have whole : [separator].intercalate (text.splitOn separator) = text :=
    List.intercalate_splitOn separator
  rw [← whole] at member
  exact (mem_intercalate member).resolve_left other

/-- An IPv4 address is written with dots, hexadecimal digits and `x`. -/
theorem ipv4_characters {host : List Char} {value : Nat} (read : ipv4 host = some value) :
    ∀ character ∈ host,
      character = '.' ∨ character.toLower = 'x' ∨ digitValue character < 16 := by
  obtain ⟨numbers, parts, -⟩ := Option.bind_eq_some_iff.mp read
  have all : ∀ part ∈ (withoutDot host).splitOn '.', ∃ number, partNumber part = some number := by
    intro part member
    exact (exists_partner (List.mapM_eq_some_iff.mp parts)).1 part member
  intro character member
  by_cases isDot : character = '.'
  · exact .inl isDot
  · right
    have inside : character ∈ withoutDot host := by
      unfold withoutDot
      split
      · next last =>
        obtain ⟨before, rfl⟩ := List.getLast?_eq_some_iff.mp last
        rw [List.dropLast_concat]
        rcases List.mem_append.mp member with inBefore | atEnd
        · exact inBefore
        · exact absurd (List.mem_singleton.mp atEnd) isDot
      · exact member
    obtain ⟨part, isPart, inPart⟩ := exists_piece inside isDot
    obtain ⟨number, isNumber⟩ := all part isPart
    exact (partNumber_characters isNumber).2 character inPart

/-! ### Blocks by the words of an address -/

theorem exists_eight_words {words : List Nat} (eight : words.length = 8) :
    ∃ a b c d e f g h, words = [a, b, c, d, e, f, g, h] := by
  rcases words with _ | ⟨a, _ | ⟨b, _ | ⟨c, _ | ⟨d, _ | ⟨e, _ | ⟨f, _ | ⟨g, _ | ⟨h, rest⟩⟩⟩⟩⟩⟩⟩⟩ <;>
    simp only [List.length_cons, List.length_nil] at eight <;> try omega
  obtain rfl := List.length_eq_zero_iff.mp (show rest.length = 0 by omega)
  exact ⟨a, b, c, d, e, f, g, h, rfl⟩

theorem ofWords_eight (a b c d e f g h : Nat) :
    ofWords [a, b, c, d, e, f, g, h] =
      a * 2 ^ 112 + (b * 2 ^ 96 + (c * 2 ^ 80 + (d * 2 ^ 64 + (e * 2 ^ 48 + (f * 2 ^ 32 +
        (g * 2 ^ 16 + h)))))) := by
  simp only [ofWords, List.foldl_cons, List.foldl_nil]
  omega

section Words

variable {a b c d e f g h : Nat}
  (bounded : ∀ word ∈ [a, b, c, d, e, f, g, h], word < 65536)
include bounded

theorem localIpv6_iff :
    LocalIpv6 (ofWords [a, b, c, d, e, f, g, h]) ↔
      (a = 0 ∧ b = 0 ∧ c = 0 ∧ d = 0 ∧ e = 0 ∧ f = 0 ∧ g = 0 ∧ (h = 0 ∨ h = 1)) ∨
        (a = 0 ∧ b = 0 ∧ c = 0 ∧ d = 0 ∧ e = 0 ∧ (f = 0 ∨ f = 0xffff)) ∧
          LocalIpv4 (g * 65536 + h) := by
  simp only [List.forall_mem_cons, List.not_mem_nil] at bounded
  have tail : ofWords [a, b, c, d, e, f, g, h] % 2 ^ 32 = g * 65536 + h := by
    rw [ofWords_eight]
    omega
  have front : (ofWords [a, b, c, d, e, f, g, h] / 2 ^ 32 = 0 ∨
      ofWords [a, b, c, d, e, f, g, h] / 2 ^ 32 = 0xffff) ↔
        a = 0 ∧ b = 0 ∧ c = 0 ∧ d = 0 ∧ e = 0 ∧ (f = 0 ∨ f = 0xffff) := by
    rw [ofWords_eight]
    omega
  have few : (ofWords [a, b, c, d, e, f, g, h] = 0 ∨ ofWords [a, b, c, d, e, f, g, h] = 1) ↔
      a = 0 ∧ b = 0 ∧ c = 0 ∧ d = 0 ∧ e = 0 ∧ f = 0 ∧ g = 0 ∧ (h = 0 ∨ h = 1) := by
    rw [ofWords_eight]
    omega
  rw [LocalIpv6, ← or_assoc, few, front, tail]

/-- The unique local block is told by seven bits of the first word, the link-local one by ten. -/
theorem privateIpv6_iff :
    PrivateIpv6 (ofWords [a, b, c, d, e, f, g, h]) ↔ a >>> 9 = 0x7e ∨ a >>> 6 = 0x3fa := by
  simp only [List.forall_mem_cons, List.not_mem_nil] at bounded
  simp only [PrivateIpv6, InBlock, ofWords_eight, Nat.shiftRight_eq_div_pow]
  omega

end Words

end IpText
