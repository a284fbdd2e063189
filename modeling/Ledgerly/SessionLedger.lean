/-
This file says what both backends are to the clients of the server: a ledger of sessions. What
a store knows of a session is its entry in the ledger: the hash of its refresh token, and whether
it is revoked.

The steps of the ledger follow the lifecycle of a ticket that is issued, used, and ended by being
spent or revoked, with the session as the ticket. A backend whose every step is a step of the
ledger tells, over a whole run, the life of its sessions.
-/

import Ledgerly.Library.Lifecycle
import Ledgerly.Sessions

namespace Ledgerly

open Machine Lifecycle

/-! ### The ledger of sessions -/

/-- What the two backends keep of a session. -/
structure SessionEntry where
  refreshHash : String
  revoked : Bool

/-- Whether a session is in use. -/
def SessionEntry.stage (entry : SessionEntry) : Stage := if entry.revoked then .dead else .live

/-- What a store knows of its sessions. -/
abbrev SessionLedger := String → Option SessionEntry

namespace SessionLedger

variable (ledger : SessionLedger)

/-- How far a session has come. -/
def stage (id : String) : Stage :=
  match ledger id with
  | some entry => entry.stage
  | none => .unborn

/-- The ledger after the entry of a session is written. -/
def put (id : String) (entry : SessionEntry) : SessionLedger :=
  Function.update ledger id (some entry)

/-- The ledger after the entry of a session is marked revoked. -/
def revoke (id : String) (entry : SessionEntry) : SessionLedger :=
  ledger.put id { entry with revoked := true }

variable {ledger}

@[simp] theorem put_self (id : String) (entry : SessionEntry) :
    ledger.put id entry id = some entry := Function.update_self _ _ _

theorem put_other {id other : String} (different : other ≠ id) (entry : SessionEntry) :
    ledger.put id entry other = ledger other := Function.update_of_ne different _ _

theorem stage_of_some {id : String} {entry : SessionEntry} (found : ledger id = some entry) :
    ledger.stage id = entry.stage := by
  rw [stage, found]

theorem stage_put (id : String) (entry : SessionEntry) :
    (ledger.put id entry).stage = Function.update ledger.stage id entry.stage := by
  funext other
  by_cases same : other = id
  · subst same
    rw [Function.update_self, stage_of_some (put_self _ _)]
  · rw [Function.update_of_ne same, stage, stage, put_other same]

/-- No session is forgotten, and none gets another refresh token. -/
def Keeps (before after : SessionLedger) : Prop :=
  ∀ id entry, before id = some entry →
    ∃ later, after id = some later ∧ later.refreshHash = entry.refreshHash

theorem Keeps.refl : Keeps ledger ledger := fun _ entry found => ⟨entry, found, rfl⟩

theorem Keeps.trans {middle last : SessionLedger} (first : Keeps ledger middle)
    (second : Keeps middle last) : Keeps ledger last := by
  intro id entry found
  obtain ⟨next, atNext, hashNext⟩ := first id entry found
  obtain ⟨later, atLater, hashLater⟩ := second id next atNext
  exact ⟨later, atLater, hashLater.trans hashNext⟩

theorem keeps_put {id : String} {entry : SessionEntry}
    (fits : ∀ old, ledger id = some old → entry.refreshHash = old.refreshHash) :
    Keeps ledger (ledger.put id entry) := by
  intro other old found
  by_cases same : other = id
  · subst same
    exact ⟨entry, put_self _ _, fits old found⟩
  · exact ⟨old, (put_other same entry).trans found, rfl⟩

theorem keeps_revoke {id : String} {entry : SessionEntry} (found : ledger id = some entry) :
    Keeps ledger (ledger.revoke id entry) := by
  refine keeps_put fun old again => ?_
  rw [← Option.some.inj (found.symm.trans again)]

end SessionLedger

/-! ### The steps of the ledger -/

/-- The request can write no session any more. -/
def AuthPhase.Done : AuthPhase → Prop
  | .answering _ => True
  | .finished _ => True
  | _ => False

section Steps

variable {Name Key : Type} (setting : AuthSetting Name Key)

/-- A request that goes on to claim a session has found it by the hash of its token. -/
def AuthPhase.Finds (ledger : SessionLedger) : AuthPhase → Prop
  | .claiming refreshToken oldSessionId _ _ =>
    ∃ entry, ledger oldSessionId = some entry ∧
      entry.refreshHash = setting.hashToken refreshToken
  | _ => True

/-- The access token was built for the session. -/
def BuiltFor (sessionId accessToken : String) : Prop :=
  ∃ claims : Claims, claims.sessionId = sessionId ∧
    setting.encode setting.jwtEncodingKey claims = some accessToken

/-- The access token decodes to claims of the session. -/
def ReadAs (sessionId accessToken : String) : Prop :=
  ∃ (key : Key) (now : Nat) (claims : Claims), claims.sessionId = sessionId ∧
    setting.decode key now accessToken = some claims

variable (name : Name)

/-- The entry of the session that a request issues. -/
def newEntry : SessionEntry := ⟨setting.hashToken (setting.randomToken name), false⟩

/-- What one step of a request does to the ledger. -/
inductive SessionStep (ledger : SessionLedger) :
    AuthPhase → SessionLedger → AuthPhase → List SessionEvent → Prop where
  | quiet {phase next : AuthPhase} (done : phase.Done → next.Done)
      (finds : phase.Finds setting ledger → next.Finds setting ledger) :
      SessionStep ledger phase ledger next []
  | revoke {phase next : AuthPhase} {id : String} {entry : SessionEntry} {event : SessionEvent}
      (found : ledger id = some entry) (tells : event = .loggedOut id ∨ event = .expired id)
      (done : next.Done) : SessionStep ledger phase (ledger.revoke id entry) next [event]
  | issue {userId deviceId access : String} {answer : AuthAnswer}
      (built : BuiltFor setting (setting.newSessionId name) access) :
      SessionStep ledger (.issuing userId deviceId)
        (ledger.put (setting.newSessionId name) (newEntry setting name)) (.answering answer)
        [.issued (setting.newSessionId name) (setting.randomToken name) access]
  | exchange {refreshToken id userId deviceId : String} {entry : SessionEntry}
      (found : ledger id = some entry) (live : entry.revoked = false)
      (hash : entry.refreshHash = setting.hashToken refreshToken) :
      SessionStep ledger (.rotating refreshToken) (ledger.revoke id entry)
        (.issuing userId deviceId) [.exchanged refreshToken id]
  | rotate {refreshToken id userId deviceId access : String} {entry : SessionEntry}
      {answer : AuthAnswer} (found : ledger id = some entry) (live : entry.revoked = false)
      (built : BuiltFor setting (setting.newSessionId name) access) :
      SessionStep ledger (.claiming refreshToken id userId deviceId)
        ((ledger.revoke id entry).put (setting.newSessionId name) (newEntry setting name))
        (.answering answer)
        [.exchanged refreshToken id,
          .issued (setting.newSessionId name) (setting.randomToken name) access]
  | accept {accessToken id : String} {entry : SessionEntry} {leaves : Bool} {next : AuthPhase}
      (read : ReadAs setting id accessToken) (found : ledger id = some entry)
      (live : entry.revoked = false) (finds : next.Finds setting ledger) :
      SessionStep ledger (.authorizing accessToken leaves) ledger next [.accepted accessToken id]

/-- Every session belongs to the one request that drew its id and its token, and that request is
done; a request that claims a session has found it. -/
structure SessionsPlaced (ledger : SessionLedger) (phase : Name → AuthPhase) : Prop where
  drawn : ∀ id entry, ledger id = some entry → ∃ name, id = setting.newSessionId name ∧
    entry.refreshHash = setting.hashToken (setting.randomToken name) ∧ (phase name).Done
  finds : ∀ name, (phase name).Finds setting ledger

variable {setting} {name} {ledger after : SessionLedger} {phase : Name → AuthPhase}
  {next : AuthPhase} {events : List SessionEvent}

theorem AuthPhase.Finds.keep {phase : AuthPhase} (finds : phase.Finds setting ledger)
    (keeps : SessionLedger.Keeps ledger after) : phase.Finds setting after := by
  cases phase with
  | claiming refreshToken oldSessionId _ _ =>
    obtain ⟨entry, found, hash⟩ := finds
    obtain ⟨later, still, same⟩ := keeps oldSessionId entry found
    exact ⟨later, still, same.trans hash⟩
  | _ => trivial

/-- The session of a request that is not done is not there yet. -/
theorem SessionsPlaced.missing (placed : SessionsPlaced setting ledger phase)
    (running : ¬(phase name).Done) : ledger (setting.newSessionId name) = none := by
  rcases there : ledger (setting.newSessionId name) with _ | entry
  · rfl
  · obtain ⟨owner, sameId, -, done⟩ := placed.drawn _ entry there
    rw [← setting.newSessionId_injective sameId] at done
    exact absurd done running

theorem SessionsPlaced.keeps_new (placed : SessionsPlaced setting ledger phase)
    (running : ¬(phase name).Done) :
    SessionLedger.Keeps ledger (ledger.put (setting.newSessionId name) (newEntry setting name)) := by
  refine SessionLedger.keeps_put fun old found => ?_
  rw [placed.missing running] at found
  cases found

/-! ### What a step keeps -/

/-- After one entry is revoked, every entry has the hash it had. -/
theorem SessionLedger.before_revoke {id other : String} {entry later : SessionEntry}
    (found : ledger id = some entry) (there : ledger.revoke id entry other = some later) :
    ∃ old, ledger other = some old ∧ later.refreshHash = old.refreshHash := by
  by_cases same : other = id
  · subst same
    rw [SessionLedger.revoke, SessionLedger.put_self] at there
    exact ⟨entry, found, by rw [← Option.some.inj there]⟩
  · rw [SessionLedger.revoke, SessionLedger.put_other same] at there
    exact ⟨later, there, rfl⟩

theorem SessionStep.done (step : SessionStep setting name ledger (phase name) after next events)
    (done : (phase name).Done) : next.Done := by
  generalize phase name = start at step done
  cases step with
  | quiet keepsDone _ => exact keepsDone done
  | revoke _ _ nextDone => exact nextDone
  | issue _ => exact trivial
  | exchange _ _ _ => exact done.elim
  | rotate _ _ _ => exact trivial
  | accept _ _ _ _ => exact done.elim

theorem SessionStep.keeps (placed : SessionsPlaced setting ledger phase)
    (step : SessionStep setting name ledger (phase name) after next events) :
    SessionLedger.Keeps ledger after := by
  have new (running : ¬(phase name).Done) := placed.keeps_new running
  generalize phase name = start at step new
  cases step with
  | quiet _ _ => exact SessionLedger.Keeps.refl
  | revoke found _ _ => exact SessionLedger.keeps_revoke found
  | issue _ => exact new id
  | exchange found _ _ => exact SessionLedger.keeps_revoke found
  | @rotate refreshToken oldId _ _ _ entry _ found _ _ =>
    refine (SessionLedger.keeps_revoke found).trans (SessionLedger.keeps_put fun old there => ?_)
    obtain ⟨before, was, hash⟩ := SessionLedger.before_revoke found there
    obtain ⟨later, same, keptHash⟩ := new id _ before was
    rw [SessionLedger.put_self] at same
    rw [hash, ← keptHash, ← Option.some.inj same]
  | accept _ _ _ _ => exact SessionLedger.Keeps.refl

theorem SessionStep.finds (placed : SessionsPlaced setting ledger phase)
    (step : SessionStep setting name ledger (phase name) after next events) :
    next.Finds setting after := by
  have before := placed.finds name
  generalize phase name = start at step before
  have ofDone {phase : AuthPhase} (done : phase.Done) : phase.Finds setting after := by
    cases phase with
    | claiming _ _ _ _ => exact done.elim
    | _ => trivial
  cases step with
  | quiet _ finds => exact finds before
  | revoke _ _ nextDone => exact ofDone nextDone
  | issue _ => exact trivial
  | exchange _ _ _ => exact trivial
  | rotate _ _ _ => exact trivial
  | accept _ _ _ finds => exact finds

/-- An entry after the step was there before, or is that of the session the request issues. -/
theorem SessionStep.before {start : AuthPhase} {id : String} {entry : SessionEntry}
    (step : SessionStep setting name ledger start after next events)
    (there : after id = some entry) :
    (∃ old, ledger id = some old ∧ entry.refreshHash = old.refreshHash) ∨
      (id = setting.newSessionId name ∧ entry = newEntry setting name ∧ next.Done) := by
  cases step with
  | quiet _ _ => exact Or.inl ⟨entry, there, rfl⟩
  | revoke found _ _ => exact Or.inl (SessionLedger.before_revoke found there)
  | exchange found _ _ => exact Or.inl (SessionLedger.before_revoke found there)
  | accept _ _ _ _ => exact Or.inl ⟨entry, there, rfl⟩
  | issue _ =>
    by_cases same : id = setting.newSessionId name
    · rw [same, SessionLedger.put_self] at there
      exact Or.inr ⟨same, (Option.some.inj there).symm, trivial⟩
    · rw [SessionLedger.put_other same] at there
      exact Or.inl ⟨entry, there, rfl⟩
  | rotate found _ _ =>
    by_cases same : id = setting.newSessionId name
    · rw [same, SessionLedger.put_self] at there
      exact Or.inr ⟨same, (Option.some.inj there).symm, trivial⟩
    · rw [SessionLedger.put_other same] at there
      exact Or.inl (SessionLedger.before_revoke found there)

/-! ### What a step tells -/

variable (setting) in
/-- What an event says about the draws and the access tokens is true. -/
def SessionEvent.Sound : SessionEvent → Prop
  | .issued sessionId refreshToken accessToken =>
    ∃ name, sessionId = setting.newSessionId name ∧ refreshToken = setting.randomToken name ∧
      BuiltFor setting sessionId accessToken
  | .exchanged refreshToken sessionId =>
    ∃ name, sessionId = setting.newSessionId name ∧ refreshToken = setting.randomToken name
  | .accepted accessToken sessionId => ReadAs setting sessionId accessToken
  | .loggedOut _ => True
  | .expired _ => True

/-- The token of a session is known by its hash. -/
theorem SessionsPlaced.exchanged_sound (placed : SessionsPlaced setting ledger phase)
    {id refreshToken : String} {entry : SessionEntry} (found : ledger id = some entry)
    (hash : entry.refreshHash = setting.hashToken refreshToken) :
    (SessionEvent.exchanged refreshToken id).Sound setting := by
  obtain ⟨owner, ownId, ownHash, -⟩ := placed.drawn id entry found
  exact ⟨owner, ownId, setting.hashToken_injective (hash.symm.trans ownHash)⟩

theorem SessionStep.sound (placed : SessionsPlaced setting ledger phase)
    (step : SessionStep setting name ledger (phase name) after next events) :
    ∀ event ∈ events, event.Sound setting := by
  have finds := placed.finds name
  generalize phase name = start at step finds
  intro event member
  cases step with
  | quiet _ _ => cases member
  | revoke _ tells _ =>
    rw [List.mem_singleton.mp member]
    rcases tells with rfl | rfl
    · exact trivial
    · exact trivial
  | issue built =>
    rw [List.mem_singleton.mp member]
    exact ⟨name, rfl, rfl, built⟩
  | exchange found _ hash =>
    rw [List.mem_singleton.mp member]
    exact placed.exchanged_sound found hash
  | rotate found _ built =>
    obtain ⟨entry, again, hash⟩ := finds
    rcases List.mem_cons.mp member with rfl | inRest
    · exact placed.exchanged_sound again hash
    · rw [List.mem_singleton.mp inRest]
      exact ⟨name, rfl, rfl, built⟩
  | accept read _ _ _ =>
    rw [List.mem_singleton.mp member]
    exact read

/-- An event in the life of its session. -/
def SessionEvent.lifecycle : SessionEvent → Lifecycle.Event String
  | .issued sessionId _ _ => .issue sessionId
  | .exchanged _ sessionId => .spend sessionId
  | .loggedOut sessionId => .revoke sessionId
  | .expired sessionId => .revoke sessionId
  | .accepted _ sessionId => .use sessionId

theorem SessionLedger.stage_revoke {id : String} {entry : SessionEntry} :
    (ledger.revoke id entry).stage = Function.update ledger.stage id .dead :=
  SessionLedger.stage_put _ _

theorem SessionLedger.stage_live {id : String} {entry : SessionEntry}
    (found : ledger id = some entry) (live : entry.revoked = false) : ledger.stage id = .live := by
  rw [SessionLedger.stage_of_some found, SessionEntry.stage, live]
  rfl

/-- A step takes the life of the sessions along. -/
theorem SessionStep.follows (placed : SessionsPlaced setting ledger phase)
    (step : SessionStep setting name ledger (phase name) after next events) :
    Guarded advance Allowed ledger.stage (events.map SessionEvent.lifecycle) ∧
      run advance ledger.stage (events.map SessionEvent.lifecycle) = after.stage := by
  have missing (running : ¬(phase name).Done) : ledger.stage (setting.newSessionId name) = .unborn := by
    rw [SessionLedger.stage, placed.missing running]
  generalize phase name = start at step missing
  cases step with
  | quiet _ _ => exact ⟨trivial, rfl⟩
  | @revoke _ _ id entry _ found tells _ =>
    have born : ledger.stage id ≠ .unborn := by
      rw [SessionLedger.stage_of_some found, SessionEntry.stage]
      split <;> decide
    rcases tells with rfl | rfl
    · exact ⟨⟨born, trivial⟩, SessionLedger.stage_revoke.symm⟩
    · exact ⟨⟨born, trivial⟩, SessionLedger.stage_revoke.symm⟩
  | issue _ =>
    refine ⟨⟨missing not_false, trivial⟩, ?_⟩
    rw [SessionLedger.stage_put]
    rfl
  | exchange found live _ =>
    exact ⟨⟨SessionLedger.stage_live found live, trivial⟩, SessionLedger.stage_revoke.symm⟩
  | @rotate _ id _ _ _ entry _ found live _ =>
    have alive := SessionLedger.stage_live found live
    have unborn := missing not_false
    have different : setting.newSessionId name ≠ id := by
      intro same
      rw [same, alive] at unborn
      cases unborn
    refine ⟨⟨alive, ?_, trivial⟩, ?_⟩
    · exact (Function.update_of_ne different _ _).trans unborn
    · rw [SessionLedger.stage_put, SessionLedger.stage_revoke]
      rfl
  | accept _ found live _ => exact ⟨⟨SessionLedger.stage_live found live, trivial⟩, rfl⟩

/-! ### Every request at every step -/

variable [DecidableEq Name]

theorem SessionStep.placed (placed : SessionsPlaced setting ledger phase)
    (step : SessionStep setting name ledger (phase name) after next events) :
    SessionsPlaced setting after (Function.update phase name next) where
  drawn := by
    intro id entry there
    rcases step.before there with ⟨old, was, hash⟩ | ⟨sameId, rfl, done⟩
    · obtain ⟨owner, ownId, ownHash, ownerDone⟩ := placed.drawn id old was
      refine ⟨owner, ownId, hash.trans ownHash, ?_⟩
      by_cases same : owner = name
      · subst same
        rw [Function.update_self]
        exact step.done ownerDone
      · rw [Function.update_of_ne same]
        exact ownerDone
    · exact ⟨name, sameId, rfl, by rwa [Function.update_self]⟩
  finds := by
    intro other
    by_cases same : other = name
    · rw [same, Function.update_self]
      exact step.finds placed
    · rw [Function.update_of_ne same]
      exact (placed.finds other).keep (step.keeps placed)

end Steps

/-! ### A backend whose steps are steps of the ledger -/

section Backend

variable {Name Key Store : Type} [DecidableEq Name] {setting : AuthSetting Name Key}
  {advanceOf : Name → Nat → Store → AuthPhase → AuthMove Store} {view : Store → SessionLedger}

variable (setting advanceOf view) in
/-- Every step of a request on the store is a step of the ledger. -/
def MovesLedger : Prop :=
  ∀ name now store phase,
    SessionStep setting name (view store) phase (view (advanceOf name now store phase).store)
      (advanceOf name now store phase).phase (advanceOf name now store phase).events

variable (setting view) in
/-- The sessions of a backend, as the ledger shows them, belong to the requests that drew them. -/
def WorldPlaced (world : AuthWorld Name Store) : Prop :=
  SessionsPlaced setting (view world.store) world.phase

theorem SessionsPlaced.rephase {ledger : SessionLedger} {phase : Name → AuthPhase} {name : Name}
    {next : AuthPhase} (placed : SessionsPlaced setting ledger phase)
    (done : (phase name).Done → next.Done) (finds : next.Finds setting ledger) :
    SessionsPlaced setting ledger (Function.update phase name next) :=
  SessionStep.placed placed (SessionStep.quiet done fun _ => finds)

omit [DecidableEq Name] in
theorem AuthRequest.first_finds (request : AuthRequest) (ledger : SessionLedger) :
    request.first.Finds setting ledger := by
  cases request with
  | refresh token =>
    rw [AuthRequest.first]
    split
    · trivial
    · trivial
  | _ => trivial

theorem worldPlaced_step (moves : MovesLedger setting advanceOf view) (world : AuthWorld Name Store)
    (action : AuthAction Name) (placed : WorldPlaced setting view world) :
    WorldPlaced setting view (world.step advanceOf action) := by
  cases action with
  | arrive name request =>
    rw [AuthWorld.step]
    split
    · rename_i idle
      refine SessionsPlaced.rephase placed (fun done => ?_) (request.first_finds _)
      rw [idle] at done
      exact done.elim
    · exact placed
  | advance name => exact SessionStep.placed placed (moves name _ _ _)
  | fail name error =>
    rw [AuthWorld.step]
    split
    · exact placed
    · exact placed
    · exact SessionsPlaced.rephase placed (fun _ => trivial) trivial
  | tick seconds => exact placed

omit [DecidableEq Name] in
theorem worldPlaced_start {store : Store} (empty : ∀ id, view store id = none) :
    WorldPlaced setting view (AuthWorld.start Name store) where
  drawn := by
    intro id entry there
    cases (empty id).symm.trans there
  finds := fun _ => trivial

/-- What a run of the backend tells is sound. -/
theorem sessionTrace_sound (moves : MovesLedger setting advanceOf view) {store : Store}
    (empty : ∀ id, view store id = none) (actions : List (AuthAction Name)) :
    ∀ event ∈ sessionTrace advanceOf store actions, event.Sound setting := by
  refine forall_mem_trace (worldPlaced_step moves) (fun world action placed => ?_)
    (worldPlaced_start empty) actions
  cases action with
  | advance name => exact SessionStep.sound placed (moves name _ _ _)
  | _ => exact fun event member => absurd member List.not_mem_nil

/-- What a run of the backend tells follows the life of the sessions. -/
theorem sessionTrace_guarded (moves : MovesLedger setting advanceOf view) {store : Store}
    (empty : ∀ id, view store id = none) (actions : List (AuthAction Name)) :
    Guarded advance Allowed (view store).stage
      ((sessionTrace advanceOf store actions).map SessionEvent.lifecycle) := by
  rw [guarded_map]
  refine guarded_trace (fun world => (view world.store).stage) (worldPlaced_step moves)
    (fun world action placed => ?_) (worldPlaced_start empty) actions
  cases action with
  | advance name =>
    obtain ⟨allowed, reached⟩ := SessionStep.follows placed (moves name world.now _ _)
    refine ⟨(guarded_map _ _ _).mp allowed, ?_⟩
    rw [run, List.foldl_map] at reached
    exact reached
  | arrive name request =>
    refine ⟨trivial, ?_⟩
    rw [AuthWorld.step]
    split <;> rfl
  | fail name error =>
    refine ⟨trivial, ?_⟩
    rw [AuthWorld.step]
    split <;> rfl
  | tick seconds => exact ⟨trivial, rfl⟩

end Backend

end Ledgerly
