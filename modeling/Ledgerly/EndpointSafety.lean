/-
This file says which addresses a release build talks to. No host that `ApiEndpoint` accepts is a
name or an address of the machine itself, and where HTTPS is required clear text goes only from a
native client to a literal address of a private network, but for four slips: a part that is a bare
`0x` is zero to a URL parser and nothing to the check, a zone hides an IPv6 address, a sign before a
part of an IPv4 address is read over, and on the Web an address of a single number is not told,
because there the limit `1 << 32` is zero.
-/

import Ledgerly.HostParsing

namespace Ledgerly.ApiEndpoint

open IpText Numerals

/-! ### What is asked of a host -/

/-- `localhost` or a name under it, perhaps with a dot at the end. -/
def LocalName (host : List Char) : Prop :=
  ∃ front dot, host.map Char.toLower = front ++ localhost ++ dot ∧
    (front = [] ∨ front.getLast? = some '.') ∧ (dot = [] ∨ dot = ['.'])

/-- A host that is the text of an IPv6 address, perhaps with a zone. -/
def ReadsIpv6 (host : List Char) (words : List Nat) : Prop :=
  ∃ address zone, host = address ++ zone ∧ Ipv6 address words ∧
    (zone = [] ∨ zone.head? = some '%')

/-- The transport of an address is safe: it is not the machine itself, and where HTTPS is required,
clear text goes from a native client to a literal address of a private network. -/
structure SafeTransport (requireHttps isWeb : Bool) (uri : Uri) : Prop where
  notLocalName : ¬LocalName uri.host
  notLocalIpv4 : ∀ value, ipv4 uri.host = some value → ¬LocalIpv4 value
  notLocalIpv6 : ∀ words, ReadsIpv6 uri.host words → ¬LocalIpv6 (ofWords words)
  clearToPrivate : requireHttps = true → uri.scheme = http → isWeb = false ∧
    ((∃ value, ipv4 uri.host = some value ∧ PrivateIpv4 value) ∨
      ∃ words, ReadsIpv6 uri.host words ∧ PrivateIpv6 (ofWords words))

/-- An address with none of the four spellings: a local IPv4 address with a part that is a bare
`0x`, on the Web one of a single part, a local IPv6 address with a zone, and for clear text a host
with a sign. -/
structure PlainAddress (requireHttps isWeb : Bool) (uri : Uri) : Prop where
  noBareHex : ∀ value, ipv4 uri.host = some value → LocalIpv4 value →
    ∀ part ∈ (withoutDot uri.host).splitOn '.', part.map Char.toLower ≠ ['0', 'x']
  manyParts : isWeb = true → ∀ value, ipv4 uri.host = some value → LocalIpv4 value →
    2 ≤ ((withoutDot uri.host).splitOn '.').length
  noZone : ∀ address zone words, uri.host = address ++ '%' :: zone → Ipv6 address words →
    ¬LocalIpv6 (ofWords words)
  noSign : requireHttps = true → uri.scheme = http → Plain uri.host

/-! ### Characters -/

theorem plain_character {character : Char} (isDigit : digitValue character < 36) :
    character ≠ '+' ∧ character ≠ '-' ∧ isSpace character = false :=
  @plain_of_digits [character] (fun digit member => by
    rw [List.mem_singleton.mp member]
    exact isDigit) character List.mem_cons_self

theorem plain_of_ipv4 {host : List Char} {value : Nat} (read : ipv4 host = some value) :
    Plain host := by
  intro character member
  rcases ipv4_characters read character member with rfl | isX | isDigit
  · decide
  · refine plain_character ?_
    rw [← digitValue_toLower, isX]
    decide
  · exact plain_character (Nat.lt_trans isDigit (by decide))

theorem plain_of_ipv6 {text : List Char} {words : List Nat} (address : Ipv6 text words) :
    Plain text := by
  intro character member
  rcases address.characters character member with rfl | rfl | isDigit
  · decide
  · decide
  · exact plain_character (Nat.lt_trans isDigit (by decide))

/-- An IPv6 address is not read as an IPv4 one. -/
theorem parseIpv4Literal_eq_none {host : List Char} (colon : ':' ∈ host) (isWeb : Bool) :
    parseIpv4Literal isWeb host = none := by
  cases read : parseIpv4Literal isWeb host with
  | none => rfl
  | some value =>
    rcases characters_of_parseIpv4Literal read ':' colon with isDot | inNumeral
    · exact absurd isDot (by decide)
    · rcases inNumeral with isBlank | isPlus | isMinus | isDigit
      · exact absurd isBlank (by decide)
      · exact absurd isPlus (by decide)
      · exact absurd isMinus (by decide)
      · exact absurd isDigit (by decide)

/-- No bracket and no zone is read. -/
theorem not_mem_of_parseIpv6Words {host : List Char} {words : List Nat}
    (read : parseIpv6Words host = some words) : '[' ∉ host ∧ '%' ∉ host := by
  have outside : ∀ {character : Char}, ¬(character = ':' ∨ character = '.' ∨
      isSpace character = true ∨ character = '+' ∨ character = '-' ∨ digitValue character < 36) →
      character ∉ host := fun isOutside member =>
    isOutside (characters_of_parseIpv6Words read _ member)
  exact ⟨outside (by decide), outside (by decide)⟩

/-! ### The private and the local addresses -/

theorem localIpv4_iff {value : Nat} :
    (value == 0 || value >>> 24 == 127) = true ↔ LocalIpv4 value := by
  rw [Bool.or_eq_true, beq_iff_eq, beq_iff_eq]
  exact Iff.rfl

/-- Eight words are told to be local exactly if they are. -/
theorem isLocalOnlyWords_iff {words : List Nat} (eight : words.length = 8)
    (bounded : ∀ word ∈ words, word < 65536) :
    isLocalOnlyWords words = true ↔ LocalIpv6 (ofWords words) := by
  obtain ⟨a, b, c, d, e, f, g, h, rfl⟩ := exists_eight_words eight
  have small : h < 65536 := bounded h (by simp)
  have embedded : g <<< 16 ||| h = g * 65536 + h := by
    rw [← Nat.shiftLeft_add_eq_or_of_lt (show h < 2 ^ 16 from small), Nat.shiftLeft_eq]
  rw [localIpv6_iff bounded, ← localIpv4_iff, ← embedded]
  simp only [isLocalOnlyWords, List.all_cons, List.all_nil, List.take_succ_cons, List.take_zero,
    List.getD_cons_succ, List.getD_cons_zero, Bool.if_true_left, Bool.and_true, Bool.or_eq_true,
    Bool.if_false_left, Bool.decide_eq_true, Bool.not_not, Bool.and_eq_true, beq_iff_eq,
    decide_eq_true_eq]
  tauto

/-- A host that is taken for private is one, but for signs. -/
theorem private_of_isPrivateNetworkHost [DartUri] {isWeb : Bool} {text : String} {uri : Uri}
    (parsed : DartUri.tryParse text = some uri)
    (isPrivate : isPrivateNetworkHost isWeb uri.host = true) (plain : Plain uri.host) :
    (∃ value, ipv4 uri.host = some value ∧ PrivateIpv4 value) ∨
      ∃ words, ReadsIpv6 uri.host words ∧ PrivateIpv6 (ofWords words) := by
  unfold isPrivateNetworkHost at isPrivate
  split at isPrivate
  · next address read =>
    left
    refine ⟨address, ipv4_of_parseIpv4Literal plain read, ?_⟩
    simp only [Bool.or_eq_true, beq_iff_eq] at isPrivate
    rcases isPrivate with ((ten | sixteen) | privateClass) | linkLocal
    · exact .inl ten
    · exact .inr (.inl sixteen)
    · exact .inr (.inr (.inl privateClass))
    · exact .inr (.inr (.inr linkLocal))
  · split at isPrivate
    · cases isPrivate
    · next words read =>
      right
      obtain ⟨noBracket, noZone⟩ := not_mem_of_parseIpv6Words read
      have colon : ':' ∈ uri.host := by
        by_contra without
        rw [parseIpv6Words, if_neg without] at read
        cases read
      rcases DartUri.tryParse_ipv6 text uri parsed colon plain with bracket |
          ⟨address, zone, spelled, whole, isAddress, none | isZone⟩
      · exact absurd (List.mem_of_head? bracket) noBracket
      · rw [none, List.append_nil] at whole
        rw [← whole] at isAddress
        have same := parseIpv6Words_of_ipv6 isAddress
        rw [read, Option.some.injEq] at same
        rw [← same] at isAddress
        refine ⟨words, ⟨uri.host, [], (List.append_nil _).symm, isAddress, .inl rfl⟩, ?_⟩
        obtain ⟨eight, bounded⟩ := isAddress.words
        rw [Bool.or_eq_true, beq_iff_eq, beq_iff_eq] at isPrivate
        obtain ⟨a, b, c, d, e, f, g, h, rfl⟩ := exists_eight_words eight
        exact (privateIpv6_iff bounded).mpr isPrivate
      · rw [whole] at noZone
        exact absurd (List.mem_append_right _ (List.mem_of_head? isZone)) noZone

/-- The host is told by its small letters and without the dot at its end. -/
theorem isLocalOnlyHost_eq (isWeb : Bool) (host : List Char) :
    isLocalOnlyHost isWeb host =
      if withoutDot (host.map Char.toLower) = localhost ∨
        ('.' :: localhost).isSuffixOf (withoutDot (host.map Char.toLower)) then true
      else (parseIpv4Literal isWeb (withoutDot (host.map Char.toLower))).elim
        ((parseIpv6Words (withoutDot (host.map Char.toLower))).elim false isLocalOnlyWords)
        fun ipv4 => ipv4 == 0 || ipv4 >>> 24 == 127 := by
  generalize stripped : withoutDot (host.map Char.toLower) = plain
  unfold withoutDot at stripped
  unfold isLocalOnlyHost
  dsimp only
  rw [stripped]
  cases parseIpv4Literal isWeb plain <;> rfl

/-- A local name is told. -/
theorem isLocalOnlyHost_of_localName {host : List Char} (isLocal : LocalName host) (isWeb : Bool) :
    isLocalOnlyHost isWeb host = true := by
  obtain ⟨front, dot, lower, atStart, isDot⟩ := isLocal
  have same : withoutDot (host.map Char.toLower) = front ++ localhost := by
    rw [lower]
    rcases isDot with rfl | rfl
    · rw [List.append_nil]
      refine if_neg ?_
      rw [show localhost = ['l', 'o', 'c', 'a', 'l', 'h', 'o', 's'] ++ ['t'] from rfl,
        ← List.append_assoc, List.getLast?_concat]
      decide
    · rw [withoutDot, List.getLast?_concat, if_pos rfl, List.dropLast_concat]
  rw [isLocalOnlyHost_eq, same, if_pos]
  rcases atStart with rfl | ends
  · exact .inl rfl
  · right
    obtain ⟨before, rfl⟩ := List.getLast?_eq_some_iff.mp ends
    rw [List.isSuffixOf_iff_suffix, List.append_assoc]
    exact List.suffix_append before _

/-- So is a local IPv4 address without a bare `0x`, and on the Web of more than one part, -/
theorem isLocalOnlyHost_of_ipv4 {isWeb : Bool} {host : List Char} {value : Nat}
    (read : ipv4 host = some value) (isLocal : LocalIpv4 value)
    (notBare : ∀ part ∈ (withoutDot host).splitOn '.', part.map Char.toLower ≠ ['0', 'x'])
    (many : isWeb = true → 2 ≤ ((withoutDot host).splitOn '.').length) :
    isLocalOnlyHost isWeb host = true := by
  rw [isLocalOnlyHost_eq, parseIpv4Literal_of_ipv4 read notBare many]
  split
  · rfl
  · exact localIpv4_iff.mpr isLocal

/-- and a local IPv6 address. -/
theorem isLocalOnlyHost_of_ipv6 {host : List Char} {words : List Nat} (address : Ipv6 host words)
    (isLocal : LocalIpv6 (ofWords words)) (isWeb : Bool) : isLocalOnlyHost isWeb host = true := by
  have lower := address.toLower
  have read := parseIpv6Words_of_ipv6 lower
  rw [isLocalOnlyHost_eq, lower.withoutDot_eq, parseIpv4Literal_eq_none lower.colon_mem, read]
  split
  · rfl
  · exact (isLocalOnlyWords_iff address.words.1 address.words.2).mpr isLocal

/-! ### What is accepted -/

/-- What a release build lets pass. -/
theorem validateTransport_ok {candidate : Uri} {isWeb requireHttps : Bool}
    (passed : validateTransport candidate true isWeb requireHttps = .ok ()) :
    isLocalOnlyHost isWeb candidate.host = false ∧
      (requireHttps = true → candidate.scheme = http →
        isWeb = false ∧ isPrivateNetworkHost isWeb candidate.host = true) := by
  unfold validateTransport at passed
  dsimp only at passed
  split at passed
  · cases passed
  · next notRefused =>
    rw [Bool.true_and, Bool.or_eq_true, not_or, Bool.not_eq_true, Bool.not_eq_true] at notRefused
    refine ⟨notRefused.2, fun required isHttp => ?_⟩
    have notHttps : candidate.scheme ≠ https := by
      rw [isHttp]
      decide
    have refused := notRefused.1
    rw [required, decide_eq_true notHttps, decide_eq_true isHttp] at refused
    simpa using refused

/-- What is accepted of a text in a release build, and the address that the text is parsed to. -/
def Accepts [DartUri] (text : String) (isWeb requireHttps : Bool) (candidate uri : Uri) : Prop :=
  (DartUri.tryParse (completed (dartTrim text)) = some candidate ∧
      resolve text true isWeb requireHttps = .ok uri) ∨
    (DartUri.tryParse (dartTrim text) = some candidate ∧
      validateResourceUrl text true isWeb requireHttps = .ok uri)

section Accepted

variable [DartUri] {text : String} {isWeb requireHttps : Bool} {candidate uri : Uri}

/-- What is accepted has passed, and has the scheme and the host of the text. -/
theorem passed_of_accepts (accepted : Accepts text isWeb requireHttps candidate uri) :
    (∃ value, DartUri.tryParse value = some candidate) ∧
      validateTransport candidate true isWeb requireHttps = .ok () ∧
        uri.scheme = candidate.scheme ∧ uri.host = candidate.host := by
  rcases accepted with ⟨parsed, resolved⟩ | ⟨parsed, validated⟩
  · unfold resolve at resolved
    dsimp only at resolved
    rw [parsed] at resolved
    dsimp only at resolved
    split at resolved
    · cases resolved
    split at resolved
    · cases resolved
    split at resolved
    · cases resolved
    obtain ⟨done, passed, later⟩ := Except.bind_eq_ok.mp resolved
    split at later
    · cases later
    obtain ⟨origin, isOrigin, found⟩ := Except.bind_eq_ok.mp later
    obtain ⟨again, isAgain, sameScheme, sameHost⟩ :=
      DartUri.tryParse_origin _ _ _ parsed isOrigin
    rw [isAgain, Option.elim_some] at found
    obtain rfl := Except.ok.inj found
    exact ⟨⟨_, parsed⟩, passed, sameScheme, sameHost⟩
  · unfold validateResourceUrl at validated
    rw [parsed] at validated
    dsimp only at validated
    split at validated
    · cases validated
    · cases passed : validateTransport candidate true isWeb requireHttps with
      | error error =>
        rw [passed] at validated
        cases validated
      | ok done =>
        rw [passed] at validated
        obtain rfl := Except.ok.inj validated
        exact ⟨⟨_, parsed⟩, rfl, rfl, rfl⟩

omit [DartUri] in
/-- Only the scheme and the host matter. -/
theorem safeTransport_congr (sameScheme : uri.scheme = candidate.scheme)
    (sameHost : uri.host = candidate.host) :
    SafeTransport requireHttps isWeb uri ↔ SafeTransport requireHttps isWeb candidate := by
  constructor
  · rintro ⟨notName, notIpv4, notIpv6, clear⟩
    rw [sameHost] at notName notIpv4 notIpv6 clear
    rw [sameScheme] at clear
    exact ⟨notName, notIpv4, notIpv6, clear⟩
  · rintro ⟨notName, notIpv4, notIpv6, clear⟩
    rw [← sameHost] at notName notIpv4 notIpv6 clear
    rw [← sameScheme] at clear
    exact ⟨notName, notIpv4, notIpv6, clear⟩

/-- Release builds are safe exactly but for the four spellings. -/
theorem release_safe_iff (accepted : Accepts text isWeb requireHttps candidate uri) :
    SafeTransport requireHttps isWeb uri ↔ PlainAddress requireHttps isWeb candidate := by
  obtain ⟨⟨value, parsed⟩, passed, sameScheme, sameHost⟩ := passed_of_accepts accepted
  obtain ⟨notLocal, clear⟩ := validateTransport_ok passed
  rw [safeTransport_congr sameScheme sameHost]
  constructor
  · intro safe
    refine ⟨fun value read isLocal => absurd isLocal (safe.notLocalIpv4 value read),
      fun _ value read isLocal => absurd isLocal (safe.notLocalIpv4 value read),
      fun address zone words whole isAddress =>
        safe.notLocalIpv6 words ⟨address, _, whole, isAddress, .inr rfl⟩,
      fun required isHttp => ?_⟩
    rcases (safe.clearToPrivate required isHttp).2 with ⟨value, read, -⟩ |
        ⟨words, ⟨address, zone, whole, isAddress, none | isZone⟩, -⟩
    · exact plain_of_ipv4 read
    · rw [whole, none, List.append_nil]
      exact plain_of_ipv6 isAddress
    · -- a host with a zone is not taken for private
      have isPrivate := (clear required isHttp).2
      have zoned : '%' ∈ candidate.host := by
        rw [whole]
        exact List.mem_append_right _ (List.mem_of_head? isZone)
      have colon : ':' ∈ candidate.host := by
        rw [whole]
        exact List.mem_append_left _ isAddress.colon_mem
      unfold isPrivateNetworkHost at isPrivate
      rw [parseIpv4Literal_eq_none colon] at isPrivate
      dsimp only at isPrivate
      split at isPrivate
      · cases isPrivate
      · next words read => exact absurd zoned (not_mem_of_parseIpv6Words read).2
  · intro plain
    refine ⟨fun isName => ?_, fun value read isLocal => ?_, ?_, fun required isHttp => ?_⟩
    · rw [isLocalOnlyHost_of_localName isName] at notLocal
      cases notLocal
    · rw [isLocalOnlyHost_of_ipv4 read isLocal (plain.noBareHex value read isLocal)
        fun web => plain.manyParts web value read isLocal] at notLocal
      cases notLocal
    · rintro words ⟨address, zone, whole, isAddress, none | isZone⟩ isLocal
      · rw [whole, none, List.append_nil, isLocalOnlyHost_of_ipv6 isAddress isLocal] at notLocal
        cases notLocal
      · obtain ⟨rest, rfl⟩ := List.head?_eq_some_iff.mp isZone
        exact plain.noZone address rest words whole isAddress isLocal
    · obtain ⟨notWeb, isPrivate⟩ := clear required isHttp
      have noSign := plain.noSign required isHttp
      exact ⟨notWeb, private_of_isPrivateNetworkHost parsed isPrivate noSign⟩

end Accepted

/-! ### The spellings -/

/-- `https://0x`, which a browser takes to `0.0.0.0`. -/
def bareHex : Uri := ⟨https, true, "", ['0', 'x'], none, "", false, false⟩

/-- `https://2130706433`, which a browser takes to `127.0.0.1`. -/
def singleNumber : Uri :=
  ⟨https, true, "", ['2', '1', '3', '0', '7', '0', '6', '4', '3', '3'], none, "", false, false⟩

/-- `http://+10.0.0.1`, which is a name. -/
def signedName : Uri :=
  ⟨http, true, "", ['+', '1', '0', '.', '0', '.', '0', '.', '1'], none, "", false, false⟩

/-- `Uri.tryParse` on the three texts. -/
@[reducible] def threeAddresses : DartUri where
  tryParse text :=
    if text = "https://0x" then some bareHex
    else if text = "https://2130706433" then some singleNumber
    else if text = "http://+10.0.0.1" then some signedName
    else none
  tryParse_ipv6 text uri parsed colon := by
    split at parsed
    · obtain rfl := Option.some.inj parsed
      exact absurd colon (by decide)
    split at parsed
    · obtain rfl := Option.some.inj parsed
      exact absurd colon (by decide)
    split at parsed
    · obtain rfl := Option.some.inj parsed
      exact absurd colon (by decide)
    · cases parsed
  tryParse_origin text uri origin parsed isOrigin := by
    split at parsed
    · obtain rfl := Option.some.inj parsed
      obtain rfl := Except.ok.inj isOrigin
      exact ⟨bareHex, by decide, rfl, rfl⟩
    split at parsed
    · obtain rfl := Option.some.inj parsed
      obtain rfl := Except.ok.inj isOrigin
      exact ⟨singleNumber, by decide, rfl, rfl⟩
    split at parsed
    · obtain rfl := Option.some.inj parsed
      obtain rfl := Except.ok.inj isOrigin
      exact ⟨signedName, by decide, rfl, rfl⟩
    · cases parsed

/-- A release build for the Web accepts the first two, a native one refuses the second and accepts
the third for clear text. -/
theorem accepts_three_spellings :
    let _ := threeAddresses
    (resolve "https://0x" true true true = .ok bareHex ∧ ¬SafeTransport true true bareHex) ∧
      (resolve "https://2130706433" true true true = .ok singleNumber ∧
        ¬SafeTransport true true singleNumber ∧
        resolve "https://2130706433" true false true = .error (.format releaseMessage)) ∧
      resolve "http://+10.0.0.1" true false true = .ok signedName ∧
        ¬SafeTransport true false signedName := by
  let _ := threeAddresses
  refine ⟨⟨by decide +kernel, fun safe => ?_⟩,
    ⟨by decide +kernel, fun safe => ?_, by decide +kernel⟩, by decide +kernel, fun safe => ?_⟩
  · exact safe.notLocalIpv4 0 (by decide) (.inl rfl)
  · exact safe.notLocalIpv4 2130706433 (by decide) (.inr (by decide))
  · rcases (safe.clearToPrivate rfl rfl).2 with ⟨value, read, -⟩ | ⟨words, ⟨address, zone, whole,
      isAddress, -⟩, -⟩
    · exact absurd rfl (plain_of_ipv4 read '+' List.mem_cons_self).1
    · have colon : ':' ∈ signedName.host := by
        rw [whole]
        exact List.mem_append_left _ isAddress.colon_mem
      exact absurd colon (by decide)

theorem bareHex_safe_iff : SafeTransport true true bareHex ↔ PlainAddress true true bareHex :=
  @release_safe_iff threeAddresses "https://0x" true true bareHex bareHex
    (.inl ⟨by decide +kernel, by decide +kernel⟩)

end Ledgerly.ApiEndpoint
