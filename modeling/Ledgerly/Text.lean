/-
This file models the operations on strings that the server takes from the Rust
standard library: `trim`, `strip_prefix`, `starts_with`, the ASCII tests and
`parse::<i128>`. They are defined on the characters of a string, so that they
evaluate on concrete inputs.

The number format is the one place where text carries ledger meaning. An amount
travels as decimal text, written by the client from an arbitrary-size integer and
read back by the server with `parse::<i128>`; `decimalInt_decimalText` says that
nothing is lost on the way.
-/

import Mathlib.Algebra.Order.Ring.Int
import Mathlib.Data.List.Basic
import Mathlib.Data.Option.Basic

namespace Ledgerly

/-- The characters with the Unicode `White_Space` property, which `str::trim` removes. -/
def isWhitespace (character : Char) : Bool :=
  let code := character.toNat
  (9 ≤ code && code ≤ 13) || code = 0x20 || code = 0x85 || code = 0xA0 || code = 0x1680 ||
    (0x2000 ≤ code && code ≤ 0x200A) || code = 0x2028 || code = 0x2029 || code = 0x202F ||
    code = 0x205F || code = 0x3000

/-- `str::trim`. -/
def trim (text : String) : String :=
  String.ofList ((text.toList.dropWhile isWhitespace).reverse.dropWhile isWhitespace).reverse

/-- What is left of a list between blanks, stripped by a weaker test, stays as it is. -/
theorem strip_strip {α : Type*} {weak strong : α → Bool}
    (weaker : ∀ item, weak item = true → strong item = true) (items : List α) :
    let inner := ((items.dropWhile strong).reverse.dropWhile strong).reverse
    ((inner.dropWhile weak).reverse.dropWhile weak).reverse = inner := by
  have stays : ∀ {list : List α}, (∀ first ∈ list.head?, strong first = false) →
      list.dropWhile weak = list := by
    intro list sharp
    cases list with
    | nil => rfl
    | cons first rest =>
      have notBlank : ¬weak first = true := fun blank =>
        Bool.false_ne_true ((sharp first rfl).symm.trans (weaker first blank))
      rw [List.dropWhile_cons_of_neg notBlank]
  have ends : ∀ list : List α, ∀ first ∈ (list.dropWhile strong).head?, strong first = false := by
    intro list first isFirst
    have := List.head?_dropWhile_not strong list
    rw [Option.mem_def.mp isFirst] at this
    exact Bool.eq_false_of_not_eq_true (by simpa using this)
  intro inner
  have front : inner.dropWhile weak = inner := by
    refine stays fun first isFirst => ?_
    -- The first item of the inner part is that of the list without its leading blanks.
    obtain ⟨blanks, isSplit⟩ := List.dropWhile_suffix (p := strong)
      (l := (items.dropWhile strong).reverse)
    have whole : items.dropWhile strong = inner ++ blanks.reverse := by
      rw [← List.reverse_reverse (items.dropWhile strong), ← isSplit, List.reverse_append]
    refine ends items first ?_
    rw [whole]
    exact List.mem_head?_append_of_mem_head? isFirst
  rw [front]
  refine (congrArg List.reverse (stays ?_)).trans (List.reverse_reverse inner)
  rw [List.reverse_reverse]
  exact ends _

theorem trim_trim (text : String) : trim (trim text) = trim text := by
  unfold trim
  rw [String.toList_ofList]
  exact congrArg String.ofList (strip_strip (fun _ blank => blank) text.toList)

/-- `str::starts_with`. -/
def startsWith (text start : String) : Bool := start.toList.isPrefixOf text.toList

/-- `str::strip_prefix`. -/
def stripPrefix (text start : String) : Option String :=
  if startsWith text start then some (String.ofList (text.toList.drop start.length)) else none

/-- What follows a prefix is what stripping it leaves. -/
theorem stripPrefix_append (start rest : String) : stripPrefix (start ++ rest) start = some rest := by
  have isPrefix : startsWith (start ++ rest) start = true := by
    rw [startsWith, List.isPrefixOf_iff_prefix, String.toList_append]
    exact List.prefix_append _ _
  rw [stripPrefix, if_pos isPrefix, String.toList_append, ← String.length_toList,
    List.drop_left, String.ofList_toList]

theorem append_of_stripPrefix {text start rest : String}
    (stripped : stripPrefix text start = some rest) : text = start ++ rest := by
  unfold stripPrefix at stripped
  split at stripped
  · rename_i isPrefix
    obtain ⟨tail, split⟩ := List.isPrefixOf_iff_prefix.mp isPrefix
    rw [← split, ← String.length_toList, List.drop_left] at stripped
    rw [← Option.some.inj stripped, ← String.toList_inj, String.toList_append,
      String.toList_ofList, split]
  · cases stripped

/-- `char::is_ascii_uppercase`. -/
def isAsciiUppercase (character : Char) : Bool := 'A' ≤ character && character ≤ 'Z'

/-- `char::is_ascii_hexdigit`. -/
def isAsciiHexdigit (character : Char) : Bool :=
  ('0' ≤ character && character ≤ '9') || ('a' ≤ character && character ≤ 'f') ||
    ('A' ≤ character && character ≤ 'F')

/-! ### Decimal integers -/

/-- The number a nonempty run of ASCII digits spells. -/
def decimalNat (digits : List Char) : Option Nat :=
  if digits ≠ [] ∧ digits.all Char.isDigit then some (Nat.ofDigitChars 10 digits 0) else none

/-- The integer a decimal text spells: an optional sign and at least one digit. It has no bound here;
who reads it into a type of the machine bounds it. -/
def decimalInt (text : String) : Option Int :=
  match text.toList with
  | '-' :: digits => (decimalNat digits).map fun value => -(value : Int)
  | '+' :: digits => (decimalNat digits).map fun value => (value : Int)
  | digits => (decimalNat digits).map fun value => (value : Int)

/-- `str::parse::<i128>`, with the errors dropped as the server drops them. -/
def parseI128 (text : String) : Option Int :=
  (decimalInt text).filter fun value => -2 ^ 127 ≤ value ∧ value < 2 ^ 127

/-- The decimal text of an integer, as `BigInt.toString` and `i64::to_string` write it. -/
def decimalText : Int → String
  | .ofNat value => value.repr
  | .negSucc value => "-" ++ (value + 1).repr

theorem decimalNat_toDigits (value : Nat) : decimalNat (Nat.toDigits 10 value) = some value := by
  have digits : (Nat.toDigits 10 value).all Char.isDigit = true :=
    List.all_eq_true.mpr fun _ member =>
      Nat.isDigit_of_mem_toDigits (by decide) (by decide) member
  rw [decimalNat, if_pos ⟨Nat.toDigits_ne_nil, digits⟩,
    Nat.ofDigitChars_toDigits (by decide) (by decide)]

/-- So many digits are a number with so many digits. -/
theorem ofDigitChars_lt {digits : List Char} (all : ∀ digit ∈ digits, digit.isDigit = true)
    (before : Nat) :
    Nat.ofDigitChars 10 digits before < 10 ^ digits.length * (before + 1) := by
  induction digits generalizing before with
  | nil => simp
  | cons digit digits inductionHypothesis =>
    have isDigit := all digit List.mem_cons_self
    rw [Char.isDigit, Bool.and_eq_true, decide_eq_true_iff, decide_eq_true_iff] at isDigit
    have small : digit.toNat ≤ 57 := UInt32.le_iff_toNat_le.mp isDigit.2
    have zero : '0'.toNat = 48 := rfl
    have later := inductionHypothesis (fun other member => all other (List.mem_cons_of_mem _ member))
      (10 * before + (digit.toNat - '0'.toNat))
    rw [Nat.ofDigitChars_cons, List.length_cons, pow_succ, mul_assoc]
    refine later.trans_le (Nat.mul_le_mul_left _ ?_)
    omega

/-- No digit is a sign, so an unsigned text is read whole. -/
theorem decimalInt_of_isDigit (text : String) (digit : Char) (rest : List Char)
    (spelled : text.toList = digit :: rest) (isDigit : digit.isDigit = true) :
    decimalInt text = (decimalNat (digit :: rest)).map fun value => (value : Int) := by
  have notMinus : digit ≠ '-' := by
    rintro rfl
    exact absurd isDigit (by decide)
  have notPlus : digit ≠ '+' := by
    rintro rfl
    exact absurd isDigit (by decide)
  unfold decimalInt
  rw [spelled]
  split
  · rename_i equal
    exact absurd (List.cons.inj equal).1 notMinus
  · rename_i equal
    exact absurd (List.cons.inj equal).1 notPlus
  · rfl

/-- What the client writes is what the server reads. -/
theorem decimalInt_decimalText (value : Int) : decimalInt (decimalText value) = some value := by
  cases value with
  | ofNat value =>
    cases digits : Nat.toDigits 10 value with
    | nil => exact absurd digits Nat.toDigits_ne_nil
    | cons digit rest =>
      have isDigit : digit.isDigit = true :=
        Nat.isDigit_of_mem_toDigits (b := 10) (n := value) (by decide) (by decide)
          (by rw [digits]; exact List.mem_cons_self)
      have spelled : (decimalText (.ofNat value)).toList = digit :: rest := by
        rw [decimalText, Nat.toList_repr, digits]
      rw [decimalInt_of_isDigit _ digit rest spelled isDigit, ← digits, decimalNat_toDigits]
      rfl
  | negSucc value =>
    have spelled : (decimalText (.negSucc value)).toList =
        '-' :: Nat.toDigits 10 (value + 1) := by
      rw [decimalText, String.toList_append, Nat.toList_repr]
      rfl
    unfold decimalInt
    rw [spelled]
    simp only [decimalNat_toDigits]
    rfl

/-- Within its range `parse::<i128>` reads the integer the text spells. -/
theorem parseI128_eq_some {text : String} {value : Int} (parsed : parseI128 text = some value) :
    decimalInt text = some value := (Option.filter_eq_some_iff.mp parsed).1

theorem decimalText_injective {first second : Int} (same : decimalText first = decimalText second) :
    first = second := by
  have read := congrArg decimalInt same
  rw [decimalInt_decimalText, decimalInt_decimalText] at read
  exact Option.some.inj read

theorem parseI128_decimalText (value : Int) (lower : -2 ^ 127 ≤ value) (upper : value < 2 ^ 127) :
    parseI128 (decimalText value) = some value := by
  rw [parseI128, decimalInt_decimalText, Option.filter_eq_some_iff]
  exact ⟨rfl, by simp only [lower, upper, and_self, decide_true]⟩

example : parseI128 "+0042" = some 42 := by decide

end Ledgerly
