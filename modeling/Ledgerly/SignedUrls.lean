/-
This file models the signed URLs of the object store of the server, with objects kept in a
directory, and proves that one opens one door only: a signature is accepted for the method,
the key and the expiry that it was issued for, and only until then, and the file that is
written or read lies beneath the directory.

The signed text puts the key between two line breaks. Neither a method nor a decimal number has
one, so that the first and the last line break of the text are those two, whatever the key has.
-/

import Ledgerly.BackupFiles
import Ledgerly.MemoryStore
import Ledgerly.Library.Partial
import Mathlib.Logic.Function.Basic

namespace Ledgerly

/-! ### Signatures -/

/-- HMAC with SHA-256 under a secret, in hexadecimal digits, of the bytes of a text. -/
class HmacSha256 where
  mac : String → String → String

/-- What a URL is signed for. The method is a token, which has no line break. -/
structure SignedRequest where
  method : String
  objectKey : String
  expires : Nat
  token : '\n' ∉ method.toList

/-- What the configuration says of the object store. -/
structure ObjectStoreConfig where
  objectStoreHmacSecret : String
  objectStoreHmacPreviousSecret : Option String
  objectStoreDir : String

/-- The text that is signed. -/
def signedMessage (method objectKey : String) (expires : Nat) : String :=
  method ++ "\n" ++ objectKey ++ "\n" ++ toString expires

/-- `sign_with_secret`. -/
def signWithSecret [HmacSha256] (secret method objectKey : String) (expires : Nat) : String :=
  HmacSha256.mac secret (signedMessage method objectKey expires)

/-- `verify`, at a time in seconds since the epoch. -/
def verifySignature [HmacSha256] (config : ObjectStoreConfig) (now : Nat)
    (method objectKey : String) (expires : Nat) (sig : String) : Bool :=
  if expires < now then false
  else
    let verifySecret := fun secret => signWithSecret secret method objectKey expires = sig
    verifySecret config.objectStoreHmacSecret ||
      config.objectStoreHmacPreviousSecret.any fun secret => verifySecret secret

/-! ### Paths -/

/-- A name beneath a directory: not empty, and none that stands for a directory. -/
def PlainName (name : String) : Prop :=
  name ≠ "" ∧ name ≠ "." ∧ name ≠ ".." ∧ '/' ∉ name.toList

instance (name : String) : Decidable (PlainName name) := inferInstanceAs (Decidable (_ ∧ _))

/-- What the server takes from `object_store::path`: a part of a path is encoded so that it is
one plain name. -/
class ObjectPath where
  part : String → String
  part_plain : ∀ segment, segment ≠ "" → PlainName (part segment)

/-- `validated_key`. -/
def validatedKey (objectKey : String) : Option String :=
  let key := String.ofList (objectKey.toList.dropWhile (· = '/'))
  if escapes key then none else some key

/-- `ObjectPath::from`, as a text: empty segments go. -/
def objectPath [ObjectPath] (key : String) : String :=
  joined (((segments key).filter (· ≠ "")).map ObjectPath.part)

/-- `Path::join`. -/
def joinPath (root path : String) : String :=
  if path.toList.head? = some '/' then path
  else if root = "" ∨ root.toList.getLast? = some '/' then root ++ path
  else root ++ "/" ++ path

/-- The components of a path: empty ones do not count. -/
def pathComponents (path : String) : List String := (segments path).filter (· ≠ "")

/-- The path leads from the directory downwards only, by one step at least. -/
def Beneath (root path : String) : Prop :=
  ∃ names : List String, names ≠ [] ∧ (∀ name ∈ names, PlainName name) ∧
    pathComponents path = pathComponents root ++ names

/-! ### Requests -/

/-- `SignedQuery`. -/
structure SignedQuery where
  expires : Nat
  sig : String
  method : Option String

/-- The error for a signature that is wrong or too old, -/
def badSignature : ApiError := ⟨403, "BAD_SIGNATURE", "invalid or expired signature"⟩

/-- and for a key that is no path. -/
def invalidKey : ApiError := ⟨400, "INVALID_KEY", "bad object key"⟩

/-- The files of the disk. -/
abbrev Disk := String → Option (List UInt8)

section Requests

variable [HmacSha256] [ObjectPath]

/-- The checks that `put_object` and `get_object` begin with, and the path of the file. -/
def signedPath (config : ObjectStoreConfig) (now : Nat) (expected key : String)
    (query : SignedQuery) : Except ApiError String :=
  if query.method.getD expected ≠ expected ∨
      verifySignature config now expected key query.expires query.sig = false then
    .error badSignature
  else
    match validatedKey key with
    | none => .error invalidKey
    | some valid => .ok (joinPath config.objectStoreDir (objectPath valid))

/-- `put_object`, on a disk that does what it is told. -/
def putObject (config : ObjectStoreConfig) (now : Nat) (key : String) (query : SignedQuery)
    (body : List UInt8) (disk : Disk) : Except ApiError Disk :=
  (signedPath config now "PUT" key query).map fun path => Function.update disk path (some body)

/-- `get_object`. -/
def getObject (config : ObjectStoreConfig) (now : Nat) (key : String) (query : SignedQuery)
    (disk : Disk) : Except ApiError (List UInt8) := do
  let path ← signedPath config now "GET" key query
  match disk path with
  | some bytes => .ok bytes
  | none => .error ⟨404, "NOT_FOUND", "object missing"⟩

end Requests

/-! ### What is signed -/

theorem toList_toString (value : Nat) : (toString value).toList = Nat.toDigits 10 value := by
  show (Nat.repr value).toList = _
  rw [Nat.repr, String.toList_ofList]

theorem lineBreak_notMem_toString (value : Nat) : '\n' ∉ (toString value).toList := by
  intro member
  rw [toList_toString] at member
  exact absurd (Nat.isDigit_of_mem_toDigits (by decide) (by decide) member) (by decide)

/-- The lines of a signed text: the method, those of the key, and the expiry. -/
theorem splitOn_signedMessage (request : SignedRequest) :
    (signedMessage request.method request.objectKey request.expires).toList.splitOn '\n' =
      request.method.toList :: (request.objectKey.toList.splitOn '\n' ++
        [(toString request.expires).toList]) := by
  have characters : (signedMessage request.method request.objectKey request.expires).toList =
      request.method.toList ++ '\n' ::
        (request.objectKey.toList ++ '\n' :: (toString request.expires).toList) := by
    simp only [signedMessage, String.toList_append, List.append_assoc]
    rfl
  rw [characters, List.splitOn_append_cons_self_of_not_mem request.token,
    List.splitOn_append_cons_self,
    List.splitOn_eq_singleton (lineBreak_notMem_toString request.expires)]

/-- Requests with one signed text are the same, whatever their keys have. -/
theorem signedMessage_injective {one two : SignedRequest}
    (same : signedMessage one.method one.objectKey one.expires =
      signedMessage two.method two.objectKey two.expires) : one = two := by
  have lines := splitOn_signedMessage one
  rw [same, splitOn_signedMessage, List.cons.injEq] at lines
  obtain ⟨method, rest⟩ := lines
  obtain ⟨key, expires⟩ := List.append_inj' rest rfl
  have digits := List.singleton_inj.mp expires
  rw [toList_toString, toList_toString] at digits
  have number := congrArg decimalNat digits
  rw [decimalNat_toDigits, decimalNat_toDigits, Option.some.injEq] at number
  have keyText := congrArg (['\n'].intercalate) key
  rw [List.intercalate_splitOn, List.intercalate_splitOn] at keyText
  obtain ⟨_, _, _, _⟩ := one
  obtain ⟨_, _, _, _⟩ := two
  obtain rfl := String.toList_inj.mp method
  obtain rfl := String.toList_inj.mp keyText
  obtain rfl := number
  rfl

/-! ### Paths beneath the directory -/

theorem segments_append (root path : String) :
    segments (root ++ "/" ++ path) = segments root ++ segments path := by
  have characters : (root ++ "/" ++ path).toList = root.toList ++ '/' :: path.toList := by
    simp only [String.toList_append, List.append_assoc]
    rfl
  rw [segments, characters, List.splitOn_append_cons_self, List.map_append]
  rfl

/-- What is joined to a path comes after its components. -/
theorem pathComponents_joinPath {root path : String} (relative : path.toList.head? ≠ some '/') :
    pathComponents (joinPath root path) = pathComponents root ++ pathComponents path := by
  have apart : pathComponents (root ++ "/" ++ path) = pathComponents root ++ pathComponents path := by
    rw [pathComponents, segments_append, List.filter_append]
    rfl
  rw [joinPath, if_neg relative]
  split
  · rename_i ends
    rcases ends with rfl | slash
    · rw [String.empty_append]
      rfl
    · -- A path that ends with a slash has an empty component there.
      obtain ⟨start, split⟩ := List.getLast?_eq_some_iff.mp slash
      obtain ⟨front, rfl⟩ : ∃ front, root = front ++ "/" :=
        ⟨String.ofList start, by
          rw [← String.toList_inj, split, String.toList_append, String.toList_ofList]
          rfl⟩
      have trailing : pathComponents (front ++ "/") = pathComponents front := by
        have empty : segments (front ++ "/") = segments front ++ segments "" := by
          have padded := segments_append front ""
          rwa [String.append_empty] at padded
        rw [pathComponents, empty, List.filter_append]
        exact List.append_nil _
      rw [trailing, pathComponents, segments_append, List.filter_append]
      rfl
  · exact apart

theorem slash_notMem_segments {path segment : String} (member : segment ∈ segments path) :
    '/' ∉ segment.toList := by
  have parts : ∀ (text part : List Char), part ∈ text.splitOn '/' → '/' ∉ part := by
    intro text
    induction text with
    | nil =>
      intro part inParts
      rw [List.splitOn_nil, List.mem_singleton] at inParts
      exact inParts ▸ List.not_mem_nil
    | cons first rest inductionHypothesis =>
      intro part inParts
      rw [List.splitOn_cons_eq_if_modifyHead] at inParts
      split at inParts
      · rcases List.mem_cons.mp inParts with rfl | later
        · exact List.not_mem_nil
        · exact inductionHypothesis part later
      · rename_i notSlash
        obtain ⟨head, tail, split⟩ := List.exists_cons_of_ne_nil (List.splitOn_ne_nil '/' rest)
        rw [split] at inParts
        have inHead := inductionHypothesis head (split ▸ List.mem_cons_self)
        rcases List.mem_cons.mp inParts with rfl | later
        · simpa [inHead] using Ne.symm (by simpa using notSlash)
        · exact inductionHypothesis part (split ▸ List.mem_cons_of_mem _ later)
  obtain ⟨part, inParts, rfl⟩ := List.mem_map.mp member
  rw [String.toList_ofList]
  exact parts path.toList part inParts

/-- A path of plain names is joined beneath. -/
theorem beneath_joinPath {path : String} (names : ∀ name ∈ segments path, PlainName name)
    (root : String) : Beneath root (joinPath root path) := by
  have relative : path.toList.head? ≠ some '/' := by
    intro slash
    obtain ⟨rest, isPath⟩ := List.head?_eq_some_iff.mp slash
    have leading : "" ∈ segments path := by
      rw [segments, isPath, List.splitOn_cons_eq_if_modifyHead, if_pos (beq_self_eq_true _)]
      exact List.mem_cons_self
    exact (names "" leading).1 rfl
  refine ⟨segments path, ?_, names, ?_⟩
  · exact fun empty => List.splitOn_ne_nil '/' path.toList (List.map_eq_nil_iff.mp empty)
  · rw [pathComponents_joinPath relative]
    congr 1
    exact List.filter_eq_self.mpr fun name member => decide_eq_true (names name member).1

/-- The segments of a valid key. -/
theorem plainName_of_validatedKey {objectKey key : String}
    (valid : validatedKey objectKey = some key) : ∀ name ∈ segments key, PlainName name := by
  unfold validatedKey at valid
  dsimp only at valid
  split at valid
  · cases valid
  · rename_i stays
    obtain rfl := Option.some.inj valid
    intro name member
    have plain : ¬(name = "" ∨ name = "." ∨ name = "..") := by
      intro special
      refine stays ?_
      rw [escapes, Bool.or_eq_true, List.any_eq_true]
      exact Or.inr ⟨name, member, by simpa [or_assoc] using special⟩
    push Not at plain
    exact ⟨plain.1, plain.2.1, plain.2.2, slash_notMem_segments member⟩

/-- An object lies beneath the directory of the objects. -/
theorem beneath_objectPath [ObjectPath] {objectKey key : String}
    (valid : validatedKey objectKey = some key) (root : String) :
    Beneath root (joinPath root (objectPath key)) := by
  have plain := plainName_of_validatedKey valid
  have whole : (segments key).filter (· ≠ "") = segments key :=
    List.filter_eq_self.mpr fun name member => decide_eq_true (plain name member).1
  have parts : ∀ name ∈ (segments key).map ObjectPath.part, PlainName name := by
    intro name member
    obtain ⟨segment, inKey, rfl⟩ := List.mem_map.mp member
    exact ObjectPath.part_plain segment (plain segment inKey).1
  have read : segments (objectPath key) = (segments key).map ObjectPath.part := by
    rw [objectPath, whole]
    refine segments_joined (fun empty => ?_) fun name member => (parts name member).2.2.2
    exact List.splitOn_ne_nil '/' key.toList (List.map_eq_nil_iff.mp (List.map_eq_nil_iff.mp empty))
  exact beneath_joinPath (by rwa [read]) root

/-! ### One door -/

section Door

variable [HmacSha256] [ObjectPath]

/-- What is signed under a secret that the server has now. -/
def ObjectStoreConfig.Has (config : ObjectStoreConfig) (secret : String) : Prop :=
  secret = config.objectStoreHmacSecret ∨ config.objectStoreHmacPreviousSecret = some secret

/-- An ideal code: whoever has the code of a text under a secret of the server has it from the
server, which signed a request with this text. -/
def Unforgeable (config : ObjectStoreConfig) (issued : String → SignedRequest → Prop)
    (sig : String) : Prop :=
  ∀ secret message, config.Has secret → HmacSha256.mac secret message = sig →
    ∃ request, issued secret request ∧
      message = signedMessage request.method request.objectKey request.expires

/-- The signature was issued, under the current or the previous secret, for this method, this
key and this expiry, which has not passed. -/
def ObjectStoreConfig.Opens (config : ObjectStoreConfig) (issued : String → SignedRequest → Prop)
    (now : Nat) (method objectKey : String) (expires : Nat) : Prop :=
  now ≤ expires ∧ ∃ secret request, config.Has secret ∧ issued secret request ∧
    request.method = method ∧ request.objectKey = objectKey ∧ request.expires = expires

variable {config : ObjectStoreConfig} {now : Nat} {key : String} {query : SignedQuery}
  {issued : String → SignedRequest → Prop}

omit [ObjectPath] in
theorem opens_of_verifySignature {method : String} (token : '\n' ∉ method.toList)
    (ideal : Unforgeable config issued query.sig)
    (verified : verifySignature config now method key query.expires query.sig = true) :
    config.Opens issued now method key query.expires := by
  unfold verifySignature at verified
  split at verified
  · cases verified
  · rename_i inTime
    obtain ⟨secret, has, same⟩ : ∃ secret, config.Has secret ∧
        signWithSecret secret method key query.expires = query.sig := by
      rcases (Bool.or_eq_true _ _).mp verified with current | previous
      · exact ⟨_, Or.inl rfl, of_decide_eq_true current⟩
      · cases isPrevious : config.objectStoreHmacPreviousSecret with
        | none =>
          rw [isPrevious] at previous
          cases previous
        | some secret =>
          rw [isPrevious] at previous
          exact ⟨secret, Or.inr isPrevious, of_decide_eq_true previous⟩
    obtain ⟨request, wasIssued, text⟩ := ideal secret _ has same
    have itself : (⟨method, key, query.expires, token⟩ : SignedRequest) = request :=
      signedMessage_injective text
    exact ⟨Nat.not_lt.mp inTime, secret, request, has, wasIssued, by rw [← itself],
      by rw [← itself], by rw [← itself]⟩

/-- What the checks let through. -/
theorem opens_of_signedPath {expected : String} (token : '\n' ∉ expected.toList)
    (ideal : Unforgeable config issued query.sig)
    (accepted : signedPath config now expected key query ≠ .error badSignature) :
    config.Opens issued now expected key query.expires := by
  refine opens_of_verifySignature token ideal ?_
  by_contra refused
  refine accepted ?_
  rw [signedPath, if_pos (Or.inr (Bool.eq_false_of_not_eq_true refused))]

theorem beneath_of_signedPath {expected path : String}
    (made : signedPath config now expected key query = .ok path) :
    Beneath config.objectStoreDir path := by
  unfold signedPath at made
  split at made
  · cases made
  · split at made
    · cases made
    · rename_i valid
      obtain rfl := Except.ok.inj made
      exact beneath_objectPath valid _

/-- A signed URL opens one door: what is not refused was signed for this method, this key and
this expiry, which has not passed, and what is written or read lies beneath the directory of the
objects. No two requests have one signed text. -/
theorem signed_url_opens_one_door (config : ObjectStoreConfig) (now : Nat) (key : String)
    (query : SignedQuery) (issued : String → SignedRequest → Prop) (body : List UInt8)
    (disk : Disk) (ideal : Unforgeable config issued query.sig) :
    (putObject config now key query body disk ≠ .error badSignature →
      config.Opens issued now "PUT" key query.expires) ∧
    (getObject config now key query disk ≠ .error badSignature →
      config.Opens issued now "GET" key query.expires) ∧
    (∀ written, putObject config now key query body disk = .ok written →
      ∃ path, Beneath config.objectStoreDir path ∧ written = Function.update disk path (some body)) ∧
    (∀ bytes, getObject config now key query disk = .ok bytes →
      ∃ path, Beneath config.objectStoreDir path ∧ disk path = some bytes) ∧
    ∀ one two : SignedRequest, signedMessage one.method one.objectKey one.expires =
      signedMessage two.method two.objectKey two.expires → one = two := by
  refine ⟨fun accepted => ?_, fun accepted => ?_, fun written put => ?_, fun bytes got => ?_,
    fun one two => signedMessage_injective⟩
  · refine opens_of_signedPath (by decide) ideal fun refused => accepted ?_
    rw [putObject, refused]
    rfl
  · refine opens_of_signedPath (by decide) ideal fun refused => accepted ?_
    rw [getObject, refused]
    rfl
  · cases made : signedPath config now "PUT" key query with
    | error error =>
      rw [putObject, made] at put
      cases put
    | ok path =>
      rw [putObject, made] at put
      exact ⟨path, beneath_of_signedPath made, (Except.ok.inj put).symm⟩
  · obtain ⟨path, made, read⟩ := Except.bind_eq_ok.mp got
    refine ⟨path, beneath_of_signedPath made, ?_⟩
    split at read
    · rename_i found
      rw [found, Except.ok.inj read]
    · cases read

end Door

/-! ### A receipt -/

/-- The code of one text under one secret. -/
@[reducible] def receiptMac : HmacSha256 where
  mac secret message :=
    if secret = "test-hmac" ∧ message = "GET\nbooks/book/receipt\n1700000600" then
      "faa5ecd8c557ce0613b9b68f628fbae0bc29918fc590e2c21cb874345e5c3445"
    else ""

theorem plainName_ite (segment : String) :
    PlainName (if PlainName segment then segment else "%2E") := by
  by_cases plain : PlainName segment
  · rwa [if_pos plain]
  · rw [if_neg plain]
    decide

/-- Names of letters stay as they are. -/
@[reducible] def letterPath : ObjectPath where
  part segment := if PlainName segment then segment else "%2E"
  part_plain segment _ := plainName_ite segment

/-- An object store, -/
def receiptStore : ObjectStoreConfig := ⟨"test-hmac", none, "/var/lib/objects"⟩

/-- a request about an object in it, -/
def receiptRequest : SignedRequest := ⟨"GET", "books/book/receipt", 1700000600, by decide⟩

/-- and the query of the URL that is issued for it. -/
def receiptQuery : SignedQuery :=
  ⟨1700000600, "faa5ecd8c557ce0613b9b68f628fbae0bc29918fc590e2c21cb874345e5c3445", some "GET"⟩

theorem receipt_unforgeable :
    @Unforgeable receiptMac receiptStore (fun secret request =>
      secret = "test-hmac" ∧ request = receiptRequest) receiptQuery.sig := by
  intro secret message _ same
  by_cases signed : secret = "test-hmac" ∧ message = "GET\nbooks/book/receipt\n1700000600"
  · exact ⟨receiptRequest, ⟨signed.1, rfl⟩, signed.2⟩
  · exact absurd ((if_neg signed).symm.trans same) (by decide)

/-- A receipt is signed for reading, and read. -/
theorem receipt_opens :
    let _ := receiptMac
    let _ := letterPath
    getObject receiptStore 1700000000 "books/book/receipt" receiptQuery
        (fun path => if path = "/var/lib/objects/books/book/receipt" then some [7] else none) =
      .ok [7] ∧
    receiptStore.Opens (fun secret request => secret = "test-hmac" ∧ request = receiptRequest)
      1700000000 "GET" "books/book/receipt" 1700000600 := by
  intro _ _
  have read : @getObject receiptMac letterPath receiptStore 1700000000 "books/book/receipt"
      receiptQuery
      (fun path => if path = "/var/lib/objects/books/book/receipt" then some [7] else none) =
        .ok [7] := by
    decide +kernel
  exact ⟨read, (@signed_url_opens_one_door receiptMac letterPath receiptStore 1700000000
    "books/book/receipt" receiptQuery _ []
    (fun path => if path = "/var/lib/objects/books/book/receipt" then some [7] else none)
    receipt_unforgeable).2.1 (by rw [read]; nofun)⟩

end Ledgerly
