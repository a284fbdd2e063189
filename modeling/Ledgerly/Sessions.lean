/-
This file models the sessions of the server: login, refresh, logout and the check of an access
token, on PostgreSQL and on the memory backend.

Many requests run at the same time. A request takes one step at a time, and a step is one
statement on PostgreSQL (the transaction of a rotation is taken as one, at its guarded update)
and one section under the lock of the store in memory. Any request can fail between two steps.

A login is modelled from where the password is verified. `ensure_demo_book`, `user_plan`, the
subscription and the audit log touch no session and are left out, except that they can fail.
-/

import Mathlib.Logic.Function.Basic
import Ledgerly.MemoryStore
import Ledgerly.Library.Trace

namespace Ledgerly

/-! ### Tokens -/

/-- What an access token says. -/
structure Claims where
  sub : String
  sessionId : String
  deviceId : String
  tokenVersion : Int
  exp : Nat
  deriving DecidableEq

/-- What the handlers take from outside, for requests with the names `Name`: `jsonwebtoken` with
the keys of the configuration, the random ids and tokens that the requests draw, and the hash of
refresh tokens. A token decodes, under whatever key, to the claims it was encoded from; the
draws are unique and the hash has no collisions. -/
structure AuthSetting (Name Key : Type) where
  encode : Key → Claims → Option String
  decode : Key → Nat → String → Option Claims
  decode_encode : ∀ {key other claims access now decoded}, encode key claims = some access →
    decode other now access = some decoded → decoded = claims
  jwtEncodingKey : Key
  jwtDecodingKey : Key
  jwtPreviousDecodingKey : Option Key
  newSessionId : Name → String
  newSessionId_injective : Function.Injective newSessionId
  randomToken : Name → String
  randomToken_injective : Function.Injective randomToken
  hashToken : String → String
  hashToken_injective : Function.Injective hashToken

/-- The answer to a login or a refresh. -/
structure TokenResponse where
  accessToken : String
  refreshToken : String
  tokenType : String
  expiresIn : Nat
  deriving DecidableEq

/-- `AuthUser` -/
structure AuthUser where
  userId : String
  sessionId : String
  deviceId : String
  deriving DecidableEq

/-- The error for a refresh token that is not known, -/
def invalidRefresh : ApiError := ⟨401, "INVALID_REFRESH", "refresh invalid"⟩

/-- for one that was used before, -/
def refreshReuse : ApiError := ⟨401, "REFRESH_REUSE", "refresh reuse detected"⟩

/-- for a session that has ended, -/
def sessionRevoked : ApiError := ⟨401, "SESSION_REVOKED", "device session is revoked or missing"⟩

/-- for an access token that is not in order, -/
def invalidToken : ApiError := ⟨401, "UNAUTHORIZED", "invalid token"⟩

/-- and for one that cannot be made. -/
def tokenEncodingFailed : ApiError :=
  ⟨500, "TOKEN_ENCODING_FAILED", "failed to issue access token"⟩

/-- `db_err` -/
def dbErr : ApiError := ⟨500, "DB_ERROR", "database operation failed"⟩

/-- `valid_refresh_token` -/
def validRefreshToken (token : String) : Bool :=
  token.utf8ByteSize == 64 && token.toList.all fun char =>
    char.isDigit || ('a' ≤ char && char ≤ 'f') || ('A' ≤ char && char ≤ 'F')

/-! ### Requests -/

/-- `authorized` stands for every other request that carries an access token. -/
inductive AuthRequest where
  | login (userId deviceId : String)
  | refresh (refreshToken : String)
  | logout (accessToken : String)
  | authorized (accessToken : String)

/-- What a request is answered if it succeeds. -/
inductive AuthAnswer where
  | tokens (response : TokenResponse)
  | noContent
  | passed (auth : AuthUser)

/-- Where a request stands, named by what comes next. -/
inductive AuthPhase where
  /-- It has not arrived. -/
  | idle
  /-- `issue_tokens` is next. -/
  | issuing (userId deviceId : String)
  /-- The first step of `rotate_refresh_token` is next. -/
  | rotating (refreshToken : String)
  /-- The session of the refresh token is older than 30 days; its update is next. -/
  | expiring (oldSessionId : String)
  /-- The transaction of `rotate_refresh_token` is next. -/
  | claiming (refreshToken oldSessionId userId deviceId : String)
  /-- The check of the access token is next. -/
  | authorizing (accessToken : String) (leaves : Bool)
  /-- The update of `logout` is next. -/
  | leaving (auth : AuthUser)
  /-- All is written; what is left can only fail. -/
  | answering (answer : AuthAnswer)
  | finished (answer : Except ApiError AuthAnswer)

/-- Where a request goes when it arrives. -/
def AuthRequest.first : AuthRequest → AuthPhase
  | .login userId deviceId => .issuing userId deviceId
  | .refresh refreshToken =>
    if validRefreshToken refreshToken then .rotating refreshToken
    else .finished (.error invalidRefresh)
  | .logout accessToken => .authorizing accessToken true
  | .authorized accessToken => .authorizing accessToken false

/-- What can be told about sessions from the outside. -/
inductive SessionEvent where
  /-- The session is in the store, with these tokens for it. -/
  | issued (sessionId refreshToken accessToken : String)
  /-- The refresh token is exchanged, and with it the session it was issued for. -/
  | exchanged (refreshToken sessionId : String)
  /-- `logout` has revoked the session. -/
  | loggedOut (sessionId : String)
  /-- The session is revoked because it is old, or because its token is used again. -/
  | expired (sessionId : String)
  /-- `ensure_session_active` has accepted the access token. -/
  | accepted (accessToken sessionId : String)
  deriving DecidableEq

/-- What a step of a request leaves: the store, where the request stands, and what there is to
tell. -/
structure AuthMove (Store : Type) where
  store : Store
  phase : AuthPhase
  events : List SessionEvent

/-- A step that writes nothing. -/
def AuthMove.quiet {Store : Type} (store : Store) (phase : AuthPhase) : AuthMove Store :=
  ⟨store, phase, []⟩

/-- A request that is refused. -/
def AuthMove.refuse {Store : Type} (store : Store) (error : ApiError) : AuthMove Store :=
  AuthMove.quiet store (.finished (.error error))

section Handlers

variable {Name Key : Type} (setting : AuthSetting Name Key) (name : Name) (now : Nat)

/-- The claims of a token, under the key or the previous one. -/
def decodeAccessToken (token : String) : Except ApiError Claims :=
  match setting.decode setting.jwtDecodingKey now token with
  | some claims => .ok claims
  | none =>
    match setting.jwtPreviousDecodingKey.bind fun key => setting.decode key now token with
    | some claims => .ok claims
    | none => .error invalidToken

/-- The tokens of a session, good for fifteen minutes. -/
def buildTokenResponse (userId deviceId sessionId refresh : String) :
    Except ApiError TokenResponse :=
  match setting.encode setting.jwtEncodingKey ⟨userId, sessionId, deviceId, 1, now + 900⟩ with
  | some access => .ok ⟨access, refresh, "Bearer", 900⟩
  | none => .error tokenEncodingFailed

/-- What `from_request_parts` does with the answer of `ensure_session_active`. -/
def AuthMove.authorized {Store : Type} (store : Store) (accessToken : String) (leaves : Bool)
    (claims : Claims) (active : Except ApiError Unit) : AuthMove Store :=
  let auth : AuthUser := ⟨claims.sub, claims.sessionId, claims.deviceId⟩
  match active with
  | .error error => AuthMove.refuse store error
  | .ok () =>
    ⟨store, if leaves then .leaving auth else .finished (.ok (.passed auth)),
      [.accepted accessToken claims.sessionId]⟩

/-! ### PostgreSQL -/

/-- `device_sessions` -/
structure DeviceSessionRow where
  id : String
  userId : String
  deviceId : String
  refreshTokenHash : String
  createdAt : Nat
  revokedAt : Option Nat
  deriving DecidableEq

/-- The table, by its primary key. -/
structure DeviceSessions where
  rows : KeyMap String DeviceSessionRow
  keyed : ∀ id row, rows.lookup id = some row → row.id = id

/-- A table without sessions. -/
def DeviceSessions.empty : DeviceSessions where
  rows := ∅
  keyed := by
    intro id row found
    rw [AList.lookup_empty] at found
    cases found

/-- The table after a row is written under its id. -/
def DeviceSessions.write (table : DeviceSessions) (row : DeviceSessionRow) : DeviceSessions where
  rows := table.rows.insert row.id row
  keyed := by
    intro id other found
    rcases KeyMap.lookup_insert_eq_some found with ⟨same, rfl⟩ | ⟨-, before⟩
    · exact same.symm
    · exact table.keyed id other before

/-- `interval '30 days'`, in seconds. -/
def thirtyDays : Nat := 30 * 24 * 60 * 60

/-- `created_at >= now() - interval '30 days'` -/
def DeviceSessionRow.fresh (row : DeviceSessionRow) : Bool := decide (now ≤ row.createdAt + thirtyDays)

/-- The insert, refused by the primary key and by the unique index on the hash. -/
def DeviceSessions.insertRow (table : DeviceSessions) (row : DeviceSessionRow) :
    Option DeviceSessions :=
  if (table.rows.lookup row.id).isSome ||
      table.rows.values.any fun other => other.refreshTokenHash == row.refreshTokenHash then none
  else some (table.write row)

/-- An update that sets `revoked_at` where the row of a session meets a condition. -/
def DeviceSessions.revokeWhere (table : DeviceSessions) (id : String)
    (condition : DeviceSessionRow → Bool) : Option DeviceSessions :=
  match table.rows.lookup id with
  | some row =>
    if condition row then some (table.write { row with revokedAt := some now }) else none
  | none => none

/-- The row that `issue_tokens` and the transaction of a rotation insert. -/
def newSessionRow (userId deviceId : String) : DeviceSessionRow :=
  ⟨setting.newSessionId name, userId, deviceId, setting.hashToken (setting.randomToken name), now,
    none⟩

/-- The session of a token must be there, be the user's and the device's, and not be revoked. -/
def ensureSessionActivePg (table : DeviceSessions) (claims : Claims) : Except ApiError Unit :=
  match table.rows.lookup claims.sessionId with
  | some row =>
    if row.userId == claims.sub && row.deviceId == claims.deviceId && row.revokedAt.isNone then
      .ok ()
    else .error sessionRevoked
  | none => .error sessionRevoked

/-- The session is revoked if it is the user's on this device. -/
def logoutPg (table : DeviceSessions) (auth : AuthUser) : AuthMove DeviceSessions :=
  let revoked := table.revokeWhere now auth.sessionId fun row =>
    row.userId == auth.userId && row.deviceId == auth.deviceId
  match revoked with
  | some table => ⟨table, .answering .noContent, [.loggedOut auth.sessionId]⟩
  | none => AuthMove.quiet table (.answering .noContent)

/-- A new session with its tokens. -/
def issueTokensPg (table : DeviceSessions) (userId deviceId : String) :
    AuthMove DeviceSessions :=
  let sessionId := setting.newSessionId name
  let refresh := setting.randomToken name
  match buildTokenResponse setting now userId deviceId sessionId refresh with
  | .error error => AuthMove.refuse table error
  | .ok tokens =>
    match table.insertRow (newSessionRow setting name now userId deviceId) with
    | none => AuthMove.refuse table dbErr
    | some table =>
      ⟨table, .answering (.tokens tokens), [.issued sessionId refresh tokens.accessToken]⟩

/-- `rotate_refresh_token`: the select and what is read off its row. -/
def rotateSelectPg (table : DeviceSessions) (refreshToken : String) : AuthMove DeviceSessions :=
  match table.rows.values.find? fun row => row.refreshTokenHash == setting.hashToken refreshToken with
  | none => AuthMove.refuse table invalidRefresh
  | some row =>
    if row.revokedAt.isSome then AuthMove.refuse table refreshReuse
    else if row.fresh now then
      AuthMove.quiet table (.claiming refreshToken row.id row.userId row.deviceId)
    else AuthMove.quiet table (.expiring row.id)

/-- `rotate_refresh_token`: the update of a session that is not fresh. -/
def rotateExpirePg (table : DeviceSessions) (oldSessionId : String) : AuthMove DeviceSessions :=
  match table.revokeWhere now oldSessionId fun row => row.revokedAt.isNone with
  | some table => ⟨table, .finished (.error invalidRefresh), [.expired oldSessionId]⟩
  | none => AuthMove.refuse table invalidRefresh

/-- `rotate_refresh_token`: the new tokens and the transaction. -/
def rotateClaimPg (table : DeviceSessions) (refreshToken oldSessionId userId deviceId : String) :
    AuthMove DeviceSessions :=
  let sessionId := setting.newSessionId name
  let refresh := setting.randomToken name
  match buildTokenResponse setting now userId deviceId sessionId refresh with
  | .error error => AuthMove.refuse table error
  | .ok tokens =>
    let claimed := table.revokeWhere now oldSessionId fun row =>
      row.revokedAt.isNone && row.fresh now
    match claimed with
    | none => AuthMove.refuse table refreshReuse
    | some claimed =>
      match claimed.insertRow (newSessionRow setting name now userId deviceId) with
      | none => AuthMove.refuse table dbErr
      | some claimed =>
        ⟨claimed, .answering (.tokens tokens),
          [.exchanged refreshToken oldSessionId, .issued sessionId refresh tokens.accessToken]⟩

/-- One step of a request on PostgreSQL. -/
def advancePg (table : DeviceSessions) : AuthPhase → AuthMove DeviceSessions
  | .idle => AuthMove.quiet table .idle
  | .issuing userId deviceId => issueTokensPg setting name now table userId deviceId
  | .rotating refreshToken => rotateSelectPg setting now table refreshToken
  | .expiring oldSessionId => rotateExpirePg now table oldSessionId
  | .claiming refreshToken oldSessionId userId deviceId =>
    rotateClaimPg setting name now table refreshToken oldSessionId userId deviceId
  | .authorizing accessToken leaves =>
    match decodeAccessToken setting now accessToken with
    | .error error => AuthMove.refuse table error
    | .ok claims =>
      AuthMove.authorized table accessToken leaves claims (ensureSessionActivePg table claims)
  | .leaving auth => logoutPg now table auth
  | .answering answer => AuthMove.quiet table (.finished (.ok answer))
  | .finished answer => AuthMove.quiet table (.finished answer)

/-! ### The memory backend -/

/-- A session of the memory backend. -/
structure SessionRecord where
  id : String
  userId : String
  deviceId : String
  refreshHash : String
  revoked : Bool
  deriving DecidableEq

/-- The sessions of `MemoryStore`. -/
structure MemorySessions where
  sessions : KeyMap String SessionRecord
  refreshToSession : KeyMap String String

/-- Nobody has logged in. -/
def MemorySessions.empty : MemorySessions := ⟨∅, ∅⟩

/-- `session.revoked = true` for a session of the map. -/
def MemorySessions.revoke (store : MemorySessions) (id : String) (session : SessionRecord) :
    MemorySessions :=
  { store with sessions := store.sessions.insert id { session with revoked := true } }

/-- The same on the memory backend. -/
def ensureSessionActiveMem (store : MemorySessions) (claims : Claims) : Except ApiError Unit :=
  match store.sessions.lookup claims.sessionId with
  | some session =>
    if !session.revoked && session.userId == claims.sub && session.deviceId == claims.deviceId then
      .ok ()
    else .error sessionRevoked
  | none => .error sessionRevoked

/-- The session is revoked. -/
def logoutMem (store : MemorySessions) (auth : AuthUser) : AuthMove MemorySessions :=
  match store.sessions.lookup auth.sessionId with
  | some session =>
    ⟨store.revoke auth.sessionId session, .answering .noContent, [.loggedOut auth.sessionId]⟩
  | none => AuthMove.quiet store (.answering .noContent)

/-- A new session with its tokens. -/
def issueTokensMem (store : MemorySessions) (userId deviceId : String) :
    AuthMove MemorySessions :=
  let sessionId := setting.newSessionId name
  let refresh := setting.randomToken name
  let refreshHash := setting.hashToken refresh
  match buildTokenResponse setting now userId deviceId sessionId refresh with
  | .error error => AuthMove.refuse store error
  | .ok tokens =>
    ⟨{ sessions := store.sessions.insert sessionId
         ⟨sessionId, userId, deviceId, refreshHash, false⟩
       refreshToSession := store.refreshToSession.insert refreshHash sessionId },
      .answering (.tokens tokens), [.issued sessionId refresh tokens.accessToken]⟩

/-- `rotate_refresh_token`: the section under the lock. The new tokens are issued after it. -/
def rotateRefreshTokenMem (store : MemorySessions) (refreshToken : String) :
    AuthMove MemorySessions :=
  let hash := setting.hashToken refreshToken
  match store.refreshToSession.lookup hash with
  | none => AuthMove.refuse store invalidRefresh
  | some sessionId =>
    let store := { store with refreshToSession := store.refreshToSession.erase hash }
    match store.sessions.lookup sessionId with
    | none => AuthMove.refuse store invalidRefresh
    | some session =>
      if session.revoked || session.refreshHash != hash then
        ⟨store.revoke sessionId session, .finished (.error refreshReuse), [.expired sessionId]⟩
      else
        ⟨store.revoke sessionId session, .issuing session.userId session.deviceId,
          [.exchanged refreshToken sessionId]⟩

/-- One step of a request in memory. The phases of the transaction do not occur there. -/
def advanceMem (store : MemorySessions) : AuthPhase → AuthMove MemorySessions
  | .issuing userId deviceId => issueTokensMem setting name now store userId deviceId
  | .rotating refreshToken => rotateRefreshTokenMem setting store refreshToken
  | .authorizing accessToken leaves =>
    match decodeAccessToken setting now accessToken with
    | .error error => AuthMove.refuse store error
    | .ok claims =>
      AuthMove.authorized store accessToken leaves claims (ensureSessionActiveMem store claims)
  | .leaving auth => logoutMem store auth
  | .answering answer => AuthMove.quiet store (.finished (.ok answer))
  | phase => AuthMove.quiet store phase

end Handlers

/-! ### Requests side by side -/

/-- The server and the requests to it. -/
structure AuthWorld (Name Store : Type) where
  store : Store
  phase : Name → AuthPhase
  now : Nat

/-- Nothing has arrived. -/
def AuthWorld.start {Store : Type} (Name : Type) (store : Store) : AuthWorld Name Store :=
  ⟨store, fun _ => .idle, 0⟩

/-- A request comes, goes on or fails, or time passes. -/
inductive AuthAction (Name : Type) where
  | arrive (name : Name) (request : AuthRequest)
  | advance (name : Name)
  /-- What the request waits for fails. -/
  | fail (name : Name) (error : ApiError)
  | tick (seconds : Nat)

section World

variable {Name Store : Type} [DecidableEq Name]
  (advance : Name → Nat → Store → AuthPhase → AuthMove Store)

/-- The step of a request at the state of the server. -/
def AuthWorld.move (world : AuthWorld Name Store) (name : Name) : AuthMove Store :=
  advance name world.now world.store (world.phase name)

/-- What an action does. -/
def AuthWorld.step (world : AuthWorld Name Store) : AuthAction Name → AuthWorld Name Store
  | .arrive name request =>
    match world.phase name with
    | .idle => { world with phase := Function.update world.phase name request.first }
    | _ => world
  | .advance name =>
    { world with
      store := (world.move advance name).store
      phase := Function.update world.phase name (world.move advance name).phase }
  | .fail name error =>
    match world.phase name with
    | .idle => world
    | .finished _ => world
    | _ => { world with phase := Function.update world.phase name (.finished (.error error)) }
  | .tick seconds => { world with now := world.now + seconds }

/-- What a step of the world tells. -/
def AuthWorld.emits (world : AuthWorld Name Store) : AuthAction Name → List SessionEvent
  | .advance name => (world.move advance name).events
  | _ => []

/-- All that a run tells. -/
def sessionTrace (store : Store) (actions : List (AuthAction Name)) : List SessionEvent :=
  Machine.trace (AuthWorld.step advance) (AuthWorld.emits advance) (AuthWorld.start Name store)
    actions

end World

end Ledgerly
