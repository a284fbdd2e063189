/-
This file models `ApiEndpoint`, which checks the address of the server and the addresses of its
resources before anything is sent there: a release build takes no address of the machine itself,
and clear text only where it stays in a private network.

What Dart's `Uri` makes of a text is a class. Of its hosts, which are ASCII in small letters, two
facts of RFC 3986 are used: a host with a colon is an IPv6 address, perhaps with a zone, and an
origin is parsed to the same scheme and host again.
-/

import Ledgerly.LedgerAppService
import Ledgerly.Library.DelimitedText
import Ledgerly.Library.IpText
import Ledgerly.Library.Matching

namespace Ledgerly.ApiEndpoint

open DelimitedText (strip)
open Matching Numerals

/-! ### `Uri` -/

/-- What is thrown: a `FormatException`, or the `StateError` of an origin without a host. -/
inductive EndpointError where
  | format (message : String)
  | state
  deriving DecidableEq

/-- `Uri`, as far as the checks read it. The port is the one the text gives, if it is not that of
the scheme; an IPv6 host stands without its brackets. -/
structure Uri where
  scheme : List Char
  hasAuthority : Bool
  userInfo : String
  host : List Char
  port : Option Nat
  path : String
  hasQuery : Bool
  hasFragment : Bool
  deriving DecidableEq

/-- The scheme of clear text, -/
def http : List Char := ['h', 't', 't', 'p']

/-- and the one of TLS. -/
def https : List Char := ['h', 't', 't', 'p', 's']

/-- `Uri.hasScheme`: a relative address has none. -/
def Uri.hasScheme (uri : Uri) : Bool := uri.scheme ≠ []

/-- `Uri.origin`. -/
def Uri.origin (uri : Uri) : Except EndpointError String :=
  if (uri.scheme = http ∨ uri.scheme = https) ∧ uri.host ≠ [] then
    let host := if ':' ∈ uri.host ∧ uri.host.head? ≠ some '[' then '[' :: uri.host ++ [']']
      else uri.host
    .ok (String.ofList (uri.scheme ++ ':' :: '/' :: '/' :: host) ++
      (uri.port.elim "" fun port => ":" ++ toString port))
  else .error .state

/-- `int.tryParse` passes over these at the ends. -/
def isSpace (character : Char) : Bool := isWhitespace character || character.toNat = 0xFEFF

/-- `Uri.tryParse`. It reads the groups of an IPv6 address with `int.parse`, so nothing is said of a
host with signs; a host that keeps its bracket is of a future version. -/
class DartUri where
  tryParse : String → Option Uri
  tryParse_ipv6 : ∀ text uri, tryParse text = some uri → ':' ∈ uri.host →
    (∀ character ∈ uri.host, character ≠ '+' ∧ character ≠ '-' ∧ isSpace character = false) →
    uri.host.head? = some '[' ∨ ∃ address zone words, uri.host = address ++ zone ∧
      IpText.Ipv6 address words ∧ (zone = [] ∨ zone.head? = some '%')
  tryParse_origin : ∀ text uri origin, tryParse text = some uri → uri.origin = .ok origin →
    ∃ again, tryParse origin = some again ∧ again.scheme = uri.scheme ∧ again.host = uri.host

/-! ### `int.tryParse` -/

/-- The base of a numeral, and its digits: without a radix, `0x` makes it hexadecimal. -/
def baseOf : Option Nat → List Char → Nat × List Char
  | some radix, digits => (radix, digits)
  | none, '0' :: 'x' :: digits => (16, digits)
  | none, '0' :: 'X' :: digits => (16, digits)
  | none, digits => (10, digits)

/-- An integer of 64 bits. Hexadecimal digits that fill them without a radix are a negative one. -/
def int64 (wraps : Bool) (value : Nat) : Option Int :=
  if value < 2 ^ 63 then some value
  else if wraps ∧ value < 2 ^ 64 then some (value - 2 ^ 64)
  else none

/-- `int.tryParse` after the sign. -/
def unsigned (radix : Option Nat) (text : List Char) : Option Int :=
  let (base, digits) := baseOf radix text
  (readDigits base digits).bind (int64 (radix.isNone && base = 16))

/-- `int.tryParse`. -/
def intTryParse (radix : Option Nat) (source : List Char) : Option Int :=
  match strip isSpace source with
  | '-' :: text =>
    let (base, digits) := baseOf radix text
    (readDigits base digits).bind fun value => if value ≤ 2 ^ 63 then some (-value) else none
  | '+' :: text => unsigned radix text
  | text => unsigned radix text

/-! ### Addresses -/

/-- The number of a part in `_parseIpv4Literal`. -/
def parsePart (part : List Char) : Option Nat :=
  let parsed :=
    if 2 < part.length ∧ ['0', 'x'].isPrefixOf (part.map Char.toLower) then
      intTryParse (some 16) (part.drop 2)
    else if 1 < part.length ∧ ['0'].isPrefixOf part then intTryParse (some 8) (part.drop 1)
    else intTryParse none part
  parsed.bind fun parsed => if parsed < 0 then none else some parsed.toNat

/-- `1 << count`. On the Web an integer is shifted as one of 32 bits. -/
def oneShifted (isWeb : Bool) (count : Nat) : Nat :=
  if isWeb then (1 <<< count) % 2 ^ 32 else 1 <<< count

/-- The address of the numbers in `_parseIpv4Literal`. The numbers that are shifted are bytes, which
stay within 32 bits, but the limit of a single number does not. -/
def addressOf (isWeb : Bool) (numbers : List Nat) : Option Nat :=
  let last := numbers.getLastD 0
  if (numbers.take (numbers.length - 1)).any (255 < ·) then none
  else if oneShifted isWeb (8 * (5 - numbers.length)) ≤ last then none
  else some ((List.range (numbers.length - 1)).foldl
    (fun address index => address + numbers.getD index 0 <<< (8 * (3 - index))) last)

/-- `_parseIpv4Literal`, on the Web or as native code. -/
def parseIpv4Literal (isWeb : Bool) (host : List Char) : Option Nat :=
  let parts := host.splitOn '.'
  if parts = [] ∨ 4 < parts.length ∨ [] ∈ parts then none
  else (parts.mapM parsePart).bind (addressOf isWeb)

/-- A byte of a part with dots in `_parseIpv6Words`. -/
def parseOctet (part : List Char) : Option Nat :=
  (intTryParse none part).bind fun octet =>
    if octet < 0 ∨ 255 < octet then none else some octet.toNat

/-- The bytes of a part with dots in `_parseIpv6Words`. -/
def parseOctets (dottedTail : List Char) : Option (List Nat) :=
  ((dottedTail.splitOn '.').mapM parseOctet).filter (·.length = 4)

/-- The host of `_parseIpv6Words` with a part with dots at its end, if there is one, written as two
words. -/
def withoutDottedTail (host : List Char) : Option (List Char) :=
  let front := (host.reverse.dropWhile (· ≠ ':')).reverse
  let dottedTail := (host.reverse.takeWhile (· ≠ ':')).reverse
  if '.' ∈ dottedTail then
    (parseOctets dottedTail).map fun octets =>
      let high := octets.getD 0 0 <<< 8 ||| octets.getD 1 0
      let low := octets.getD 2 0 <<< 8 ||| octets.getD 3 0
      front ++ Nat.toDigits 16 high ++ ':' :: Nat.toDigits 16 low
  else some host

/-- `split('::')`. -/
def splitDouble : List Char → List (List Char)
  | ':' :: ':' :: rest => [] :: splitDouble rest
  | first :: rest => (splitDouble rest).modifyHead (first :: ·)
  | [] => [[]]

/-- `words` of `_parseIpv6Words`. -/
def wordsOf (half : List Char) : List (List Char) := if half = [] then [] else half.splitOn ':'

/-- The value of a word in `_parseIpv6Words`. -/
def parseWord (word : List Char) : Option Nat :=
  (intTryParse (some 16) word).bind fun parsed =>
    if parsed < 0 ∨ 0xffff < parsed then none else some parsed.toNat

/-- The words of the two halves of a host in `_parseIpv6Words`. -/
def parseHalves (halves : List (List Char)) : Option (List Nat) :=
  let left := wordsOf (halves.headD [])
  let right := if halves.length = 2 then wordsOf (halves.getLastD []) else []
  let missing : Int := 8 - left.length - right.length
  if 2 < halves.length ∨ missing < 0 ∨ (halves.length = 1 ∧ missing ≠ 0) then none
  else
    let filled := if halves.length = 2 then List.replicate missing.toNat ['0'] else []
    ((left ++ filled ++ right).mapM parseWord).filter (·.length = 8)

/-- `_parseIpv6Words`. -/
def parseIpv6Words (host : List Char) : Option (List Nat) :=
  if ':' ∈ host then
    (withoutDottedTail host).bind fun normalized => parseHalves (splitDouble normalized)
  else none

/-- `_isPrivateNetworkHost`. -/
def isPrivateNetworkHost (isWeb : Bool) (host : List Char) : Bool :=
  match parseIpv4Literal isWeb host with
  | some address =>
    address >>> 24 == 10 || address >>> 20 == 0xac1 || address >>> 16 == 0xc0a8 ||
      address >>> 16 == 0xa9fe
  | none =>
    match parseIpv6Words host with
    | none => false
    | some ipv6 => ipv6.headD 0 >>> 9 == 0x7e || ipv6.headD 0 >>> 6 == 0x3fa

/-- The words of an IPv6 address in `_isLocalOnlyHost`. -/
def isLocalOnlyWords (ipv6 : List Nat) : Bool :=
  let isUnspecified := ipv6.all (· == 0)
  let loopback := (ipv6.take 7).all (· == 0) && ipv6.getD 7 0 == 1
  if isUnspecified || loopback then true
  else
    let mappedIpv4 := (ipv6.take 5).all (· == 0) &&
      (ipv6.getD 5 0 == 0 || ipv6.getD 5 0 == 0xffff)
    if !mappedIpv4 then false
    else
      let embedded := ipv6.getD 6 0 <<< 16 ||| ipv6.getD 7 0
      embedded == 0 || embedded >>> 24 == 127

/-- The name that every machine has for itself. -/
def localhost : List Char := ['l', 'o', 'c', 'a', 'l', 'h', 'o', 's', 't']

/-- `_isLocalOnlyHost`. -/
def isLocalOnlyHost (isWeb : Bool) (value : List Char) : Bool :=
  let host := value.map Char.toLower
  let host := if host.getLast? = some '.' then host.dropLast else host
  if host = localhost ∨ ('.' :: localhost).isSuffixOf host then true
  else
    match parseIpv4Literal isWeb host with
    | some ipv4 => ipv4 == 0 || ipv4 >>> 24 == 127
    | none => (parseIpv6Words host).elim false isLocalOnlyWords

/-! ### The checks -/

/-- `\d{1,3}`. -/
def oneToThreeDigits : Pattern Char :=
  seq (one Char.isDigit) (seq (optional (one Char.isDigit)) (optional (one Char.isDigit)))

/-- `\.\d{1,3}`. -/
def dotDigits : Pattern Char := seq (one (· == '.')) oneToThreeDigits

/-- `\d{1,3}(?:\.\d{1,3}){3}(?::\d+)?/?`. -/
def ipv4OriginPattern : Pattern Char :=
  seq oneToThreeDigits (seq dotDigits (seq dotDigits (seq dotDigits
    (seq (optional (seq (one (· == ':')) (seq (one Char.isDigit) (greedy Char.isDigit))))
      (optional (one (· == '/')))))))

/-- `_looksLikeIpv4Origin`: the pattern matches the whole text. -/
def looksLikeIpv4Origin (value : String) : Bool :=
  (ipv4OriginPattern.ways value.toList).any fun way => way.2 = []

/-- The text that `resolve` parses: four numbers with dots are an address without its scheme. -/
def completed (value : String) : String :=
  if looksLikeIpv4Origin value then "http://" ++ value else value

/-- The message of the error for an address that a release build refuses. -/
def releaseMessage : String :=
  "Release builds require HTTPS, except for private network IP addresses on native clients or " ++
    "when LEDGERLY_API_REQUIRE_HTTPS is false."

/-- `_validateTransport`. What `isWeb` says is where the code runs: the callers pass `kIsWeb`. -/
def validateTransport (candidate : Uri) (isRelease isWeb requireHttps : Bool) :
    Except EndpointError Unit :=
  let isLoopback := isLocalOnlyHost isWeb candidate.host
  let allowsPrivateHttp :=
    !isWeb && decide (candidate.scheme = http) && isPrivateNetworkHost isWeb candidate.host
  let allowsConfiguredHttp := !isWeb && !requireHttps && decide (candidate.scheme = http)
  if isRelease &&
      ((decide (candidate.scheme ≠ https) && !allowsPrivateHttp && !allowsConfiguredHttp) ||
        isLoopback) then
    .error (.format releaseMessage)
  else .ok ()

/-- Whether a scheme is one of the two in any letters. -/
def isHttpScheme (scheme : List Char) : Bool :=
  scheme.map Char.toLower = http ∨ scheme.map Char.toLower = https

variable [DartUri]

/-- `ApiEndpoint.resolve`; what it makes is the address of the endpoint. -/
def resolve (configured : String) (isRelease isWeb requireHttps : Bool) :
    Except EndpointError Uri :=
  let value := dartTrim configured
  if value = "" then .error (.format "The API endpoint must not be empty.")
  else
    match DartUri.tryParse (completed value) with
    | none => .error (.format "The API endpoint must be an HTTP(S) URL.")
    | some candidate =>
      if !candidate.hasScheme || !candidate.hasAuthority || !isHttpScheme candidate.scheme then
        .error (.format "The API endpoint must be an HTTP(S) URL.")
      else if candidate.userInfo ≠ "" || candidate.hasQuery || candidate.hasFragment ||
          (candidate.path ≠ "" && candidate.path ≠ "/") then
        .error (.format ("The API endpoint must be an origin without credentials, path, query, " ++
          "or fragment."))
      else do
        validateTransport candidate isRelease isWeb requireHttps
        if isRelease && isWeb && candidate.port.any (· ≠ 443) then
          .error (.format
            "Release Web builds require the default HTTPS port for cookie isolation.")
        else do
          let origin ← candidate.origin
          (DartUri.tryParse origin).elim (.error (.format origin)) .ok

/-- `ApiEndpoint.validateResourceUrl`. -/
def validateResourceUrl (value : String) (isRelease isWeb requireHttps : Bool) :
    Except EndpointError Uri :=
  match DartUri.tryParse (dartTrim value) with
  | none => .error (.format "The resource URL must be an HTTP(S) URL.")
  | some candidate =>
    if !candidate.hasScheme || !candidate.hasAuthority || !isHttpScheme candidate.scheme ||
        candidate.userInfo ≠ "" || candidate.hasFragment then
      .error (.format "The resource URL must be an HTTP(S) URL.")
    else (validateTransport candidate isRelease isWeb requireHttps).map fun _ => candidate

end Ledgerly.ApiEndpoint
