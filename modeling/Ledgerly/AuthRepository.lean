/-
This file models the session of the client: `AuthRepository`, with calls of `login` and `logout`
and requests whose 401 answers refresh the session.

Calls run at the same time. A call runs from one `await` to the next without interruption, and
then waits for a reply: from the server, or from the session store. What the store writes or
deletes, it does at a moment of its own, after it is asked to and before it replies. The request
that `logout` sends is one of the requests; the call itself waits until that has ended.

Left out are `restore`, which runs once before the first login, and the listeners.
-/

import Mathlib.Logic.Function.Basic
import Ledgerly.Json

namespace Ledgerly

/-! ### Answers of the server -/

/-- The session that the app shows. -/
structure AuthSession where
  bookId : String
  plan : String
  deriving DecidableEq

/-- What `_acceptTokens` reads from an answer; with a cookie session there is no refresh token. -/
structure AcceptedTokens where
  accessToken : String
  session : AuthSession
  refreshToken : Option String
  deriving DecidableEq

/-- A text that is there and not empty. -/
def nonEmptyText (field : Option Json) : Option String :=
  (field.bind Json.asStr?).filter fun text => text != ""

/-- The checks of `_acceptTokens`. `none` stands for a `FormatException`. -/
def readTokens (usesCookieSession : Bool) (body : Option Json) : Option AcceptedTokens :=
  let field (key : String) := body.bind fun object => object.get? key
  match nonEmptyText (field "accessToken"), nonEmptyText (field "bookId") with
  | some accessToken, some bookId =>
    let session : AuthSession := ⟨bookId, (nonEmptyText (field "plan")).getD "free"⟩
    if usesCookieSession then
      if (field "refreshToken").isSome then none else some ⟨accessToken, session, none⟩
    else
      match nonEmptyText (field "refreshToken") with
      | some refreshToken => some ⟨accessToken, session, some refreshToken⟩
      | none => none
  | _, _ => none

/-! ### The state of the client -/

/-- The names of the calls. A refresh has the name of the request that starts it. -/
inductive AuthCall (Name : Type) where
  | login (name : Name)
  | logout (name : Name)
  | request (name : Name)
  | refresh (name : Name)
  deriving DecidableEq

/-- What `_authorize` and `_refreshAndRetry` keep with a request. -/
structure RequestExtra where
  sessionEpoch : Nat
  accessToken : Option String
  retried : Bool
  deriving DecidableEq

/-- Where a call stands, named by what it waits for. -/
inductive CallPhase (Name : Type) where
  | idle
  /-- `getOrCreateDeviceId` -/
  | askingDevice
  /-- the answer to `/v1/auth/login` -/
  | signingIn
  /-- the end of the request to `/v1/auth/logout` -/
  | signingOut
  /-- the answer to the request -/
  | requested (extra : RequestExtra)
  /-- the refresh that the request started or joined -/
  | awaiting (extra : RequestExtra) (refresh : Name)
  /-- `readRefreshToken` -/
  | reading (expectedEpoch : Nat)
  /-- the answer to `/v1/auth/refresh` -/
  | rotating (expectedEpoch : Nat)
  /-- `writeRefreshToken`; `landed` once the store has written -/
  | storing (tokens : AcceptedTokens) (landed : Bool)
  /-- `markAuthenticated`; `written` if the store has written the refresh token -/
  | marking (tokens : AcceptedTokens) (written : Bool)
  /-- `clearAuthentication`; `landed` once the store has deleted -/
  | clearing (landed : Bool)
  | finished (ok : Bool)
  deriving DecidableEq

/-- The fields of `AuthRepository`. -/
structure AuthRepository (Name : Type) where
  accessToken : Option String
  currentSession : Option AuthSession
  refreshing : Option Name
  sessionEpoch : Nat

/-- What the session store holds: the refresh token of a native client, the signed-out marker of
the web client. -/
structure StoredSession where
  refreshToken : Option String
  webSignedOut : Bool
  deriving DecidableEq

/-- The repository, the store and the calls that are running. -/
structure AuthClient (Name : Type) where
  repository : AuthRepository Name
  stored : StoredSession
  phase : AuthCall Name → CallPhase Name

/-- Signed out, with nothing called yet. -/
def AuthClient.start (Name : Type) (stored : StoredSession) : AuthClient Name :=
  ⟨⟨none, none, none, 0⟩, stored, fun _ => .idle⟩

/-- What a call gets to hear. -/
inductive AuthReply where
  /-- A future of the store has completed; a request has an answer that is not an error. -/
  | ok
  | failed
  | unauthorized
  | body (body : Option Json)

/-- A step of the client: a call is made, an answer comes, or the store acts. -/
inductive ClientAction (Name : Type) where
  | call (call : AuthCall Name)
  | reply (call : AuthCall Name) (reply : AuthReply)
  /-- The store does what the call has asked for. -/
  | land (call : AuthCall Name)

/-- The call that a step belongs to. -/
def ClientAction.of {Name : Type} : ClientAction Name → AuthCall Name
  | .call acting => acting
  | .reply acting _ => acting
  | .land acting => acting

/-! ### What a call does next -/

/-- What happens between two awaits of a call. -/
inductive AuthTurn (Name : Type) where
  | begin (next : CallPhase Name)
  | go (next : CallPhase Name)
  /-- `_acceptTokens` has read the tokens. -/
  | accept (tokens : AcceptedTokens)
  /-- The store writes the refresh token. -/
  | write (tokens : AcceptedTokens)
  /-- The end of `_acceptTokens`. -/
  | remember (tokens : AcceptedTokens)
  /-- The beginning of `_clearLocalAuthentication`. -/
  | clear
  /-- The store forgets the session. -/
  | erase
  | refreshOnce (extra : RequestExtra)
  | finish (ok : Bool)

section Turns

variable {Name : Type} (usesCookieSession : Bool) (repository : AuthRepository Name)

/-- What a request carries: the epoch it was sent in, the token and whether it is a retry. -/
def authorize (retried : Bool) : RequestExtra :=
  ⟨repository.sessionEpoch, repository.accessToken, retried⟩

/-- `_acceptTokens` while it waits for the store; what is done if it throws is given. -/
def acceptTurn (thrown : AuthTurn Name) : CallPhase Name → AuthReply → AuthTurn Name
  | .storing tokens true, .ok => .go (.marking tokens true)
  | .storing tokens false, .ok => .go (.storing tokens false)
  | .storing _ _, _ => thrown
  | .marking tokens _, .ok => .remember tokens
  | .marking _ _, _ => thrown
  | phase, _ => .go phase

/-- `_clearLocalAuthentication` while it waits for the store. -/
def clearTurn (ok : Bool) : CallPhase Name → AuthReply → AuthTurn Name
  | .clearing true, .ok => .finish ok
  | .clearing false, .ok => .go (.clearing false)
  | .clearing _, _ => .finish false
  | phase, _ => .go phase

/-- `login` -/
def loginTurn : CallPhase Name → AuthReply → AuthTurn Name
  | .askingDevice, .ok => .go .signingIn
  | .askingDevice, _ => .finish false
  | .signingIn, .body body =>
    match readTokens usesCookieSession body with
    | some tokens => .accept tokens
    | none => .finish false
  | .signingIn, _ => .finish false
  | phase, reply => acceptTurn (.finish false) phase reply

/-- `logout`: whatever the request has come to, the session is cleared. -/
def logoutTurn : CallPhase Name → AuthReply → AuthTurn Name
  | .signingOut, _ => .clear
  | phase, reply => clearTurn true phase reply

/-- `_refreshAndRetry` after the refresh. -/
def retryTurn (extra : RequestExtra) : AuthTurn Name :=
  if extra.sessionEpoch ≠ repository.sessionEpoch then .finish false
  else if repository.accessToken.isNone then .finish false
  else .go (.requested (authorize repository true))

/-- A request with `_refreshAndRetry` on it, given what has become of a refresh. -/
def requestTurn (outcome : Name → CallPhase Name) : CallPhase Name → AuthReply → AuthTurn Name
  | .requested extra, .unauthorized =>
    if extra.retried then .finish false
    else if extra.sessionEpoch ≠ repository.sessionEpoch ∨ repository.currentSession.isNone then
      .finish false
    else if extra.accessToken = repository.accessToken then .refreshOnce extra
    else retryTurn repository extra
  | .requested _, .failed => .finish false
  | .requested _, _ => .finish true
  | .awaiting extra refresh, _ =>
    match outcome refresh with
    | .finished true => retryTurn repository extra
    | .finished false => .finish false
    | _ => .go (.awaiting extra refresh)
  | phase, _ => .go phase

/-- `_runRefresh` and `_performRefresh`: whatever is thrown, the session is cleared. -/
def refreshTurn (stored : StoredSession) : CallPhase Name → AuthReply → AuthTurn Name
  | .reading expectedEpoch, .ok =>
    match stored.refreshToken with
    | some token => if token = "" then .clear else .go (.rotating expectedEpoch)
    | none => .clear
  | .reading _, _ => .clear
  | .rotating expectedEpoch, .body body =>
    if expectedEpoch ≠ repository.sessionEpoch then .clear
    else
      match readTokens usesCookieSession body with
      | some tokens => .accept tokens
      | none => .clear
  | .rotating _, _ => .clear
  | .clearing landed, reply => clearTurn false (.clearing landed) reply
  | phase, reply => acceptTurn .clear phase reply

end Turns

/-! ### One step of the client -/

namespace AuthClient

variable {Name : Type} [DecidableEq Name] (usesCookieSession : Bool) (client : AuthClient Name)

/-- How a call starts. A refresh is not called from outside. -/
def callTurn : AuthCall Name → AuthTurn Name
  | .login _ => .begin .askingDevice
  | .logout _ =>
    if client.repository.currentSession.isSome then .begin .signingOut else .clear
  | .request _ => .begin (.requested (authorize client.repository false))
  | .refresh _ => .go .idle

/-- What the store does for a call. -/
def landTurn : CallPhase Name → AuthTurn Name
  | .storing tokens false => .write tokens
  | .clearing false => .erase
  | phase => .go phase

/-- What the call does at this step. -/
def turn : ClientAction Name → AuthTurn Name
  | .call acting =>
    match client.phase acting with
    | .idle => client.callTurn acting
    | phase => .go phase
  | .reply (.login name) reply =>
    loginTurn usesCookieSession (client.phase (.login name)) reply
  | .reply (.logout name) reply => logoutTurn (client.phase (.logout name)) reply
  | .reply (.request name) reply =>
    requestTurn client.repository (fun refresh => client.phase (.refresh refresh))
      (client.phase (.request name)) reply
  | .reply (.refresh name) reply =>
    refreshTurn usesCookieSession client.repository client.stored (client.phase (.refresh name))
      reply
  | .land (.login name) => landTurn (client.phase (.login name))
  | .land (.logout name) => landTurn (client.phase (.logout name))
  | .land (.request name) => .go (client.phase (.request name))
  | .land (.refresh name) => landTurn (client.phase (.refresh name))

/-- The call goes on in another phase. -/
def moveTo (call : AuthCall Name) (next : CallPhase Name) : AuthClient Name :=
  { client with phase := Function.update client.phase call next }

/-- The end of a call; `_runRefresh` frees the place of the refresh. -/
def finish (call : AuthCall Name) (ok : Bool) : AuthClient Name :=
  match call with
  | .refresh _ =>
    moveTo { client with repository := { client.repository with refreshing := none } } call
      (.finished ok)
  | _ => client.moveTo call (.finished ok)

/-- The end of `_acceptTokens`; a login starts a session. -/
def remember (call : AuthCall Name) (tokens : AcceptedTokens) : AuthClient Name :=
  let epoch := match call with
    | .login _ => client.repository.sessionEpoch + 1
    | _ => client.repository.sessionEpoch
  { client with
    repository := { client.repository with
      sessionEpoch := epoch
      accessToken := some tokens.accessToken
      currentSession := some tokens.session }
    stored := { client.stored with
      webSignedOut := !usesCookieSession && client.stored.webSignedOut } }

/-- `_clearLocalAuthentication` up to its await. -/
def forget : AuthClient Name :=
  { client with
    repository := { client.repository with
      sessionEpoch := client.repository.sessionEpoch + 1
      accessToken := none
      currentSession := none } }

/-- `writeRefreshToken` -/
def write (tokens : AcceptedTokens) : AuthClient Name :=
  { client with stored := { client.stored with refreshToken := tokens.refreshToken } }

/-- `clearAuthentication` -/
def erase : AuthClient Name :=
  { client with
    stored :=
      if usesCookieSession then { client.stored with webSignedOut := true }
      else { client.stored with refreshToken := none } }

/-- `_refreshOnce` and the first section of `_runRefresh`. -/
def refreshOnce (name : Name) (extra : RequestExtra) : AuthClient Name :=
  match client.repository.refreshing with
  | some active => client.moveTo (.request name) (.awaiting extra active)
  | none =>
    let epoch := client.repository.sessionEpoch
    let started := client.moveTo (.refresh name)
      (if usesCookieSession then .rotating epoch else .reading epoch)
    moveTo { started with repository := { started.repository with refreshing := some name } }
      (.request name) (.awaiting extra name)

/-- A turn is carried out on the repository and the store. -/
def perform (call : AuthCall Name) : AuthTurn Name → AuthClient Name
  | .begin next => client.moveTo call next
  | .go next => client.moveTo call next
  | .accept tokens =>
    client.moveTo call (if usesCookieSession then .marking tokens false else .storing tokens false)
  | .write tokens => (client.write tokens).moveTo call (.storing tokens true)
  | .remember tokens => (client.remember usesCookieSession call tokens).finish call true
  | .clear => client.forget.moveTo call (.clearing false)
  | .erase => (client.erase usesCookieSession).moveTo call (.clearing true)
  | .refreshOnce extra =>
    match call with
    | .request name => client.refreshOnce usesCookieSession name extra
    | _ => client
  | .finish ok => client.finish call ok

/-- A step of the client. -/
def step (action : ClientAction Name) : AuthClient Name :=
  client.perform usesCookieSession action.of (client.turn usesCookieSession action)

end AuthClient

end Ledgerly
