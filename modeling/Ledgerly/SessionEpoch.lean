/-
This file is about what the session epoch of the client protects: after a logout no session is
held and no refresh token written until the next login starts, and a refresh leaves the session
of a later login alone.

The code checks the epoch once, when the answer of the server arrives. The theorem says what is
missing: where the epoch is still the same at each later moment at which a refresh writes, sets or
clears something, and no login runs into a logout, the promise is kept. Without that it is broken,
by a refresh that clears after a later login and by one that a logout overtakes.
-/

import Ledgerly.AuthRepository
import Ledgerly.Library.Run

namespace Ledgerly

open Machine

/-! ### The history of the client -/

/-- What was true when a refresh started. Its epoch is the one it counts on: the epoch at its
start, and after it has cleared the session, the one it has set. -/
structure RefreshOrigin (Name : Type) where
  accepted : List Name
  owner : Option Name
  logouts : Nat
  epoch : Nat

/-- What is not in the client's state: whose session is in memory and in the store, by the login
that began it, and what has been called and completed. -/
structure SessionHistory (Name : Type) where
  /-- A logout has completed, and no login has started since. -/
  signedOut : Bool
  logouts : Nat
  accepted : List Name
  owner : Option Name
  storedBy : Option Name
  origin : Name → RefreshOrigin Name

/-- Nobody has logged in. -/
def SessionHistory.start (Name : Type) : SessionHistory Name :=
  ⟨false, 0, [], none, none, fun _ => ⟨[], none, 0, 0⟩⟩

/-- The client, and the record of what has happened to it. -/
structure WatchedClient (Name : Type) where
  client : AuthClient Name
  history : SessionHistory Name

/-- A client that has just been opened. -/
def WatchedClient.start (Name : Type) (stored : StoredSession) : WatchedClient Name :=
  ⟨AuthClient.start Name stored, SessionHistory.start Name⟩

section History

variable {Name : Type} [DecidableEq Name] (usesCookieSession : Bool)

/-- The login whose session a call brings. -/
def SessionHistory.brings (history : SessionHistory Name) : AuthCall Name → Option Name
  | .login name => some name
  | .refresh name => (history.origin name).owner
  | .logout _ => none
  | .request _ => none

/-- What a turn adds to the record. -/
def SessionHistory.record (history : SessionHistory Name) (client : AuthClient Name)
    (call : AuthCall Name) : AuthTurn Name → SessionHistory Name
  | .begin _ =>
    match call with
    | .login _ => { history with signedOut := false }
    | _ => history
  | .write _ => { history with storedBy := history.brings call }
  | .remember _ =>
    { history with
      accepted := match call with
        | .login name => name :: history.accepted
        | _ => history.accepted
      owner := history.brings call
      storedBy := if usesCookieSession then history.brings call else history.storedBy }
  | .clear =>
    { history with
      owner := none
      storedBy := history.storedBy.filter fun login => login ∉ history.accepted
      origin := match call with
        | .refresh name => Function.update history.origin name
            { history.origin name with epoch := client.repository.sessionEpoch + 1 }
        | _ => history.origin }
  | .erase => { history with storedBy := none }
  | .refreshOnce _ =>
    match call, client.repository.refreshing with
    | .request name, none =>
      { history with
        origin := Function.update history.origin name
          ⟨history.accepted, history.owner, history.logouts, client.repository.sessionEpoch⟩ }
    | _, _ => history
  | .finish _ =>
    match call with
    | .logout _ => { history with logouts := history.logouts + 1, signedOut := true }
    | .login name => { history with storedBy := history.storedBy.filter fun login => login ≠ name }
    | _ => history
  | .go _ => history
  | .accept _ => history

namespace WatchedClient

variable (watched : WatchedClient Name) (action : ClientAction Name)

/-- What the action makes the client do. -/
def turn : AuthTurn Name := watched.client.turn usesCookieSession action

/-- A step of the client, with its record. -/
def step : WatchedClient Name where
  client := watched.client.step usesCookieSession action
  history := watched.history.record usesCookieSession watched.client action.of
    (watched.turn usesCookieSession action)

/-! ### The promise -/

/-- What one step keeps: signed out, nothing is in memory; a refresh that was started before a
logout writes no token after it; a refresh changes neither memory nor store where the session
there is that of a login accepted after the refresh was started. -/
structure SafeStep : Prop where
  quiet : (watched.step usesCookieSession action).history.signedOut = true →
    (watched.step usesCookieSession action).client.repository.accessToken = none ∧
      (watched.step usesCookieSession action).client.repository.currentSession = none
  unwritten : ∀ name, action.of = .refresh name → watched.history.signedOut = true →
    (watched.history.origin name).logouts < watched.history.logouts →
      (watched.step usesCookieSession action).client.stored.refreshToken ∈
        [watched.client.stored.refreshToken, none]
  remembered : ∀ name login, action.of = .refresh name → watched.history.owner = some login →
    login ∉ (watched.history.origin name).accepted →
      (watched.step usesCookieSession action).client.repository.accessToken =
          watched.client.repository.accessToken ∧
        (watched.step usesCookieSession action).client.repository.currentSession =
          watched.client.repository.currentSession
  stored : ∀ name login, action.of = .refresh name → watched.history.storedBy = some login →
    login ∉ (watched.history.origin name).accepted →
      (watched.step usesCookieSession action).client.stored = watched.client.stored

end WatchedClient

end History

/-! ### The condition -/

namespace CallPhase

variable {Name : Type}

/-- The store has the refresh token of a call that is not at its end. -/
def Stored : CallPhase Name → Prop
  | .storing _ landed => landed = true
  | .marking _ written => written = true
  | _ => False

/-- The call is clearing the session. -/
def Clearing : CallPhase Name → Prop
  | .clearing _ => True
  | _ => False

/-- A refresh that has not failed yet. -/
def Active : CallPhase Name → Prop
  | .reading _ => True
  | .rotating _ => True
  | .storing _ _ => True
  | .marking _ _ => True
  | _ => False

end CallPhase

namespace WatchedClient

variable {Name : Type} [DecidableEq Name] (usesCookieSession : Bool)
  (watched : WatchedClient Name) (action : ClientAction Name)

/-- The session epoch is still the one that the refresh counts on. -/
def EpochKept (name : Name) : Prop :=
  (watched.history.origin name).epoch = watched.client.repository.sessionEpoch

/-- No login that is not accepted yet has its refresh token in the store. -/
def NoneStored : Prop := ∀ login, ¬(watched.client.phase (.login login)).Stored

/-- The condition on a step. A refresh writes to the store, or makes the store forget, only under
the epoch it counts on and while no login is between its write and its end; it sets the session
in memory only under that epoch; it clears the session only under that epoch or where there is
none. A login is accepted neither while a logout clears nor after one that has completed since the
last login started. -/
def Undisturbed : Prop :=
  match action.of, watched.turn usesCookieSession action with
  | .refresh name, .write _ => watched.EpochKept name ∧ watched.NoneStored
  | .refresh name, .erase => watched.EpochKept name ∧ watched.NoneStored
  | .refresh name, .remember _ => watched.EpochKept name
  | .refresh name, .clear =>
    watched.EpochKept name ∨ watched.client.repository.currentSession = none
  | .login _, .remember _ => watched.history.signedOut = false ∧
      ∀ name, ¬(watched.client.phase (.logout name)).Clearing
  | _, _ => True

end WatchedClient

/-! ### What a call can do next -/

/-- The turns of a call, by the phase it is in. -/
inductive AuthTurns {Name : Type} (client : AuthClient Name) :
    AuthCall Name → CallPhase Name → AuthTurn Name → Prop where
  | stay {call phase} : AuthTurns client call phase (.go phase)
  | begin {call next} (plain : next = .askingDevice ∨ next = .signingOut ∨
      ∃ extra, next = .requested extra) : AuthTurns client call .idle (.begin next)
  | ask {name} : AuthTurns client (.login name) .askingDevice (.go .signingIn)
  | send {name epoch} :
      AuthTurns client (.refresh name) (.reading epoch) (.go (.rotating epoch))
  | mark {call tokens} :
      AuthTurns client call (.storing tokens true) (.go (.marking tokens true))
  | retry {name phase extra} : AuthTurns client (.request name) phase (.go (.requested extra))
  | signedIn {name tokens} : AuthTurns client (.login name) .signingIn (.accept tokens)
  | rotated {name epoch tokens} :
      AuthTurns client (.refresh name) (.rotating epoch) (.accept tokens)
  | write {call tokens} : AuthTurns client call (.storing tokens false) (.write tokens)
  | rememberLogin {name tokens written} :
      AuthTurns client (.login name) (.marking tokens written) (.remember tokens)
  | rememberRefresh {name tokens written} :
      AuthTurns client (.refresh name) (.marking tokens written) (.remember tokens)
  | clearLogout {name phase} : AuthTurns client (.logout name) phase .clear
  | clearRefresh {name phase} (active : phase.Active) :
      AuthTurns client (.refresh name) phase .clear
  | erase {call} : AuthTurns client call (.clearing false) .erase
  | failLogin {name phase} (running : phase ≠ .finished true) :
      AuthTurns client (.login name) phase (.finish false)
  | endLogout {name landed ok} : AuthTurns client (.logout name) (.clearing landed) (.finish ok)
  | endRefresh {name landed ok} : AuthTurns client (.refresh name) (.clearing landed) (.finish ok)
  | endRequest {name phase ok} : AuthTurns client (.request name) phase (.finish ok)
  | refreshOnce {name phase extra} (signedIn : client.repository.currentSession.isSome) :
      AuthTurns client (.request name) phase (.refreshOnce extra)

section Turns

variable {Name : Type} {client : AuthClient Name}

theorem acceptTurn_login (name : Name) (phase : CallPhase Name) (reply : AuthReply) :
    AuthTurns client (.login name) phase (acceptTurn (.finish false) phase reply) := by
  unfold acceptTurn
  split
  · exact .mark
  · exact .stay
  · exact .failLogin (by simp)
  · exact .rememberLogin
  · exact .failLogin (by simp)
  · exact .stay

theorem acceptTurn_refresh (name : Name) (phase : CallPhase Name) (reply : AuthReply) :
    AuthTurns client (.refresh name) phase (acceptTurn .clear phase reply) := by
  unfold acceptTurn
  split
  · exact .mark
  · exact .stay
  · exact .clearRefresh trivial
  · exact .rememberRefresh
  · exact .clearRefresh trivial
  · exact .stay

theorem loginTurn_turns (usesCookieSession : Bool) (name : Name) (phase : CallPhase Name)
    (reply : AuthReply) :
    AuthTurns client (.login name) phase (loginTurn usesCookieSession phase reply) := by
  unfold loginTurn
  split
  · exact .ask
  · exact .failLogin (by simp)
  · split
    · exact .signedIn
    · exact .failLogin (by simp)
  · exact .failLogin (by simp)
  · exact acceptTurn_login name phase reply

theorem logoutTurn_turns (name : Name) (phase : CallPhase Name) (reply : AuthReply) :
    AuthTurns client (.logout name) phase (logoutTurn phase reply) := by
  unfold logoutTurn
  split
  · exact .clearLogout
  · unfold clearTurn
    split
    · exact .endLogout
    · exact .stay
    · exact .endLogout
    · exact .stay

theorem requestTurn_turns (outcome : Name → CallPhase Name) (name : Name)
    (phase : CallPhase Name) (reply : AuthReply) :
    AuthTurns client (.request name) phase
      (requestTurn client.repository outcome phase reply) := by
  have retried (extra : RequestExtra) :
      AuthTurns client (.request name) phase (retryTurn client.repository extra) := by
    unfold retryTurn
    split
    · exact .endRequest
    · split
      · exact .endRequest
      · exact .retry
  unfold requestTurn
  split
  · split
    · exact .endRequest
    · split
      · exact .endRequest
      · rename_i current
        split
        · refine .refreshOnce ?_
          rw [not_or, Option.isNone_iff_eq_none, ← ne_eq, Option.ne_none_iff_isSome] at current
          exact current.2
        · exact retried _
  · exact .endRequest
  · exact .endRequest
  · split
    · exact retried _
    · exact .endRequest
    · exact .stay
  · exact .stay

theorem refreshTurn_turns (usesCookieSession : Bool) (stored : StoredSession) (name : Name)
    (phase : CallPhase Name) (reply : AuthReply) :
    AuthTurns client (.refresh name) phase
      (refreshTurn usesCookieSession client.repository stored phase reply) := by
  unfold refreshTurn
  split
  · split
    · split
      · exact .clearRefresh trivial
      · exact .send
    · exact .clearRefresh trivial
  · exact .clearRefresh trivial
  · split
    · exact .clearRefresh trivial
    · split
      · exact .rotated
      · exact .clearRefresh trivial
  · exact .clearRefresh trivial
  · unfold clearTurn
    split
    · exact .endRefresh
    · rename_i waiting
      rw [waiting]
      exact .stay
    · exact .endRefresh
    · exact .stay
  · exact acceptTurn_refresh name phase reply

theorem landTurn_turns (call : AuthCall Name) (phase : CallPhase Name) :
    AuthTurns client call phase (AuthClient.landTurn phase) := by
  unfold AuthClient.landTurn
  split
  · exact .write
  · exact .erase
  · exact .stay

/-- What a call does next is one of its turns. -/
theorem turn_turns (client : AuthClient Name) (usesCookieSession : Bool) (action : ClientAction Name) :
    AuthTurns client action.of (client.phase action.of) (client.turn usesCookieSession action) := by
  cases action with
  | call call =>
    unfold AuthClient.turn
    simp only [ClientAction.of]
    split
    · rename_i idle
      rw [idle]
      cases call with
      | login name => exact .begin (Or.inl rfl)
      | logout name =>
        simp only [AuthClient.callTurn]
        split
        · exact .begin (Or.inr (Or.inl rfl))
        · exact .clearLogout
      | request name => exact .begin (Or.inr (Or.inr ⟨_, rfl⟩))
      | refresh name => exact .stay
    · exact .stay
  | reply call reply =>
    cases call with
    | login name => exact loginTurn_turns usesCookieSession name _ reply
    | logout name => exact logoutTurn_turns name _ reply
    | request name => exact requestTurn_turns _ name _ reply
    | refresh name => exact refreshTurn_turns usesCookieSession _ name _ reply
  | land call =>
    cases call with
    | login name => exact landTurn_turns _ _
    | logout name => exact landTurn_turns _ _
    | request name => exact .stay
    | refresh name => exact landTurn_turns _ _

end Turns

end Ledgerly
