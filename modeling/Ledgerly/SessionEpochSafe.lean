/-
This file proves the promise of the session epoch for undisturbed runs, and that it is broken
without the condition. The invariant ties what the history knows to the state of the client: a
refresh whose epoch is still kept has the session it was started under in memory, and one that
has cleared that session leaves nothing in the store that a login relies on.
-/

import Ledgerly.SessionEpoch

namespace Ledgerly

open Machine

/-! ### The invariant -/

/-- The invariant: the record tells whose session is in memory and whose token is in the store, and
names only logins that were accepted. -/
structure EpochInvariant {Name : Type} (watched : WatchedClient Name) : Prop where
  session : watched.history.owner = none ↔ watched.client.repository.currentSession = none
  token : watched.history.owner = none ↔ watched.client.repository.accessToken = none
  ownerAccepted : ∀ login, watched.history.owner = some login →
    login ∈ watched.history.accepted
  acceptedDone : ∀ login ∈ watched.history.accepted,
    watched.client.phase (.login login) = .finished true
  stored : ∀ login, watched.history.storedBy = some login →
    login ∈ watched.history.accepted ∨ (watched.client.phase (.login login)).Stored
  early : ∀ name,
    (watched.history.origin name).epoch ≤ watched.client.repository.sessionEpoch
  active : ∀ name, (watched.client.phase (.refresh name)).Active → watched.EpochKept name →
    watched.history.owner = (watched.history.origin name).owner ∧
      watched.history.owner ≠ none ∧
        watched.history.accepted = (watched.history.origin name).accepted
  cleared : ∀ name, watched.client.phase (.refresh name) = .clearing false →
    watched.EpochKept name → watched.history.owner = none ∧
      ∀ login, watched.history.storedBy = some login → login ∉ watched.history.accepted
  signedOut : (watched.history.signedOut = true ∨
    ∃ name, (watched.client.phase (.logout name)).Clearing) → watched.history.owner = none

section Invariant

variable {Name : Type} [DecidableEq Name] {client later : AuthClient Name}
  {history : SessionHistory Name} {call : AuthCall Name} {next : CallPhase Name}

omit [DecidableEq Name] in
theorem epochInvariant_start (stored : StoredSession) :
    EpochInvariant (WatchedClient.start Name stored) where
  session := ⟨fun _ => rfl, fun _ => rfl⟩
  token := ⟨fun _ => rfl, fun _ => rfl⟩
  ownerAccepted := fun login owned => by cases owned
  acceptedDone := fun login member => absurd member List.not_mem_nil
  stored := fun login owned => by cases owned
  early := fun name => Nat.le_refl _
  active := fun name active => active.elim
  cleared := fun name clearing => by cases clearing
  signedOut := fun _ => rfl

/-! ### A call that moves on -/

/-- What the phase of a call must not do when nothing else changes. -/
structure CalmMove (storedBy : Option Name) (call : AuthCall Name) (before next : CallPhase Name) :
    Prop where
  active : ∀ name, call = .refresh name → next.Active → before.Active
  cleared : ∀ name, call = .refresh name → next = .clearing false → before = .clearing false
  done : ∀ name, call = .login name → before = .finished true → next = .finished true
  stored : ∀ name, call = .login name → storedBy = some name → before.Stored → next.Stored
  clearing : ∀ name, call = .logout name → next.Clearing → before.Clearing

omit [DecidableEq Name] in
theorem calmMove_stay (storedBy : Option Name) (call : AuthCall Name) (phase : CallPhase Name) :
    CalmMove storedBy call phase phase :=
  ⟨fun _ _ h => h, fun _ _ h => h, fun _ _ h => h, fun _ _ _ h => h, fun _ _ h => h⟩

omit [DecidableEq Name] in
theorem calmMove_login {storedBy : Option Name} {name : Name} {before next : CallPhase Name}
    (done : before = .finished true → next = .finished true)
    (stored : storedBy = some name → before.Stored → next.Stored) :
    CalmMove storedBy (.login name) before next where
  active := fun _ equal => by cases equal
  cleared := fun _ equal => by cases equal
  done := fun _ _ => done
  stored := fun other equal => by
    cases equal
    exact stored
  clearing := fun _ equal => by cases equal

omit [DecidableEq Name] in
theorem calmMove_logout {storedBy : Option Name} {name : Name} {before next : CallPhase Name}
    (clearing : next.Clearing → before.Clearing) :
    CalmMove storedBy (.logout name) before next where
  active := fun _ equal => by cases equal
  cleared := fun _ equal => by cases equal
  done := fun _ equal => by cases equal
  stored := fun _ equal => by cases equal
  clearing := fun _ _ => clearing

omit [DecidableEq Name] in
theorem calmMove_request {storedBy : Option Name} {name : Name} {before next : CallPhase Name} :
    CalmMove storedBy (.request name) before next where
  active := fun _ equal => by cases equal
  cleared := fun _ equal => by cases equal
  done := fun _ equal => by cases equal
  stored := fun _ equal => by cases equal
  clearing := fun _ equal => by cases equal

omit [DecidableEq Name] in
theorem calmMove_refresh {storedBy : Option Name} {name : Name} {before next : CallPhase Name}
    (active : next.Active → before.Active)
    (cleared : next = .clearing false → before = .clearing false) :
    CalmMove storedBy (.refresh name) before next where
  active := fun _ _ => active
  cleared := fun _ _ => cleared
  done := fun _ equal => by cases equal
  stored := fun _ equal => by cases equal
  clearing := fun _ equal => by cases equal

omit [DecidableEq Name] in
theorem calmMove_begin (storedBy : Option Name) (call : AuthCall Name) {next : CallPhase Name}
    (plain : next = .askingDevice ∨ next = .signingOut ∨ ∃ extra, next = .requested extra) :
    CalmMove storedBy call .idle next where
  active := by
    rcases plain with rfl | rfl | ⟨extra, rfl⟩ <;> exact fun _ _ active => active
  cleared := by
    rcases plain with rfl | rfl | ⟨extra, rfl⟩ <;> exact fun _ _ clearing => (by cases clearing)
  done := fun _ _ done => (by cases done)
  stored := fun _ _ _ stored => stored.elim
  clearing := by
    rcases plain with rfl | rfl | ⟨extra, rfl⟩ <;> exact fun _ _ clearing => clearing

omit [DecidableEq Name] in
theorem calmMove_mark (storedBy : Option Name) (call : AuthCall Name) (tokens : AcceptedTokens) :
    CalmMove storedBy call (.storing tokens true) (.marking tokens true) where
  active := fun _ _ _ => trivial
  cleared := fun _ _ clearing => (by cases clearing)
  done := fun _ _ done => (by cases done)
  stored := fun _ _ _ _ => rfl
  clearing := fun _ _ clearing => clearing

omit [DecidableEq Name] in
theorem calmMove_erase (call : AuthCall Name) :
    CalmMove none call (.clearing false) (.clearing true) where
  active := fun _ _ active => active
  cleared := fun _ _ clearing => (by cases clearing)
  done := fun _ _ done => (by cases done)
  stored := fun _ _ owned => (by cases owned)
  clearing := fun _ _ _ => trivial

/-- The epoch is the same, and memory holds a session exactly if it did. -/
structure SameMemory (before later : AuthClient Name) : Prop where
  session : later.repository.currentSession = none ↔ before.repository.currentSession = none
  token : later.repository.accessToken = none ↔ before.repository.accessToken = none
  epoch : later.repository.sessionEpoch = before.repository.sessionEpoch

omit [DecidableEq Name] in
theorem sameMemory_of_eq (equal : later.repository.currentSession = client.repository.currentSession)
    (token : later.repository.accessToken = client.repository.accessToken)
    (epoch : later.repository.sessionEpoch = client.repository.sessionEpoch) :
    SameMemory client later :=
  ⟨by rw [equal], by rw [token], epoch⟩

theorem EpochInvariant.calm (invariant : EpochInvariant ⟨client, history⟩)
    (later : AuthClient Name) (signedOut : Bool) (storedBy : Option Name) (logouts : Nat)
    (same : SameMemory client later) (moved : later.phase = Function.update client.phase call next)
    (move : CalmMove storedBy call (client.phase call) next)
    (less : ∀ login, storedBy = some login → history.storedBy = some login)
    (quiet : signedOut = true → history.owner = none) :
    EpochInvariant ⟨later, { history with
      signedOut := signedOut, storedBy := storedBy, logouts := logouts }⟩ := by
  -- What the new phases show, the old ones showed.
  have phaseOf (other : AuthCall Name) (holds : CallPhase Name → CallPhase Name → Prop)
      (keeps : ∀ phase, holds phase phase)
      (moves : other = call → holds (client.phase call) next) :
      holds (client.phase other) (later.phase other) := by
    rw [moved]
    by_cases equal : other = call
    · rw [equal, Function.update_self]
      exact moves equal
    · rw [Function.update_of_ne equal]
      exact keeps _
  have keptBefore {name : Name} (kept : WatchedClient.EpochKept ⟨later, { history with
      signedOut := signedOut, storedBy := storedBy, logouts := logouts }⟩ name) :
      WatchedClient.EpochKept ⟨client, history⟩ name :=
    kept.trans same.epoch
  refine ⟨?_, ?_, invariant.ownerAccepted, ?_, ?_, ?_, ?_, ?_, ?_⟩
  · exact invariant.session.trans same.session.symm
  · exact invariant.token.trans same.token.symm
  · intro login member
    exact phaseOf (.login login) (fun before after => before = .finished true →
      after = .finished true) (fun _ finished => finished)
      (fun equal => move.done login equal.symm) (invariant.acceptedDone login member)
  · intro login owned
    refine (invariant.stored login (less login owned)).imp_right ?_
    exact phaseOf (.login login) (fun before after => before.Stored → after.Stored)
      (fun _ stored => stored) (fun equal => move.stored login equal.symm owned)
  · intro name
    show (history.origin name).epoch ≤ later.repository.sessionEpoch
    rw [same.epoch]
    exact invariant.early name
  · intro name active kept
    refine invariant.active name ?_ (keptBefore kept)
    exact phaseOf (.refresh name) (fun before after => after.Active → before.Active)
      (fun _ active => active) (fun equal => move.active name equal.symm) active
  · intro name cleared kept
    have before := phaseOf (.refresh name) (fun before after => after = .clearing false →
      before = .clearing false) (fun _ clearing => clearing)
      (fun equal => move.cleared name equal.symm) cleared
    obtain ⟨unowned, fresh⟩ := invariant.cleared name before (keptBefore kept)
    exact ⟨unowned, fun login owned => fresh login (less login owned)⟩
  · rintro (now | ⟨name, clearing⟩)
    · exact quiet now
    · refine invariant.signedOut (Or.inr ⟨name, ?_⟩)
      exact phaseOf (.logout name) (fun before after => after.Clearing → before.Clearing)
        (fun _ clearing => clearing) (fun equal => move.clearing name equal.symm) clearing

/-- Only the phase of a call moves. -/
theorem EpochInvariant.moveTo (invariant : EpochInvariant ⟨client, history⟩)
    (move : CalmMove history.storedBy call (client.phase call) next) :
    EpochInvariant ⟨client.moveTo call next, history⟩ :=
  invariant.calm (client.moveTo call next) history.signedOut
    history.storedBy history.logouts (sameMemory_of_eq rfl rfl rfl) rfl move
    (fun _ owned => owned) fun quiet => invariant.signedOut (Or.inl quiet)

omit [DecidableEq Name] in
/-- The store has the token of a login's session. -/
theorem EpochInvariant.storeFor (invariant : EpochInvariant ⟨client, history⟩) {login : Name}
    (known : login ∈ history.accepted ∨ (client.phase (.login login)).Stored)
    (fresh : ∀ name, client.phase (.refresh name) = .clearing false →
      history.owner = none → login ∉ history.accepted) :
    EpochInvariant ⟨client, { history with storedBy := some login }⟩ where
  session := invariant.session
  token := invariant.token
  ownerAccepted := invariant.ownerAccepted
  acceptedDone := invariant.acceptedDone
  stored := by
    intro other owned
    cases owned
    exact known
  early := invariant.early
  active := invariant.active
  cleared := by
    intro name cleared kept
    obtain ⟨unowned, -⟩ := invariant.cleared name cleared kept
    refine ⟨unowned, fun other owned => ?_⟩
    cases owned
    exact fresh name cleared unowned
  signedOut := invariant.signedOut

/-! ### Tokens that are written and set -/

theorem EpochInvariant.writeLogin (invariant : EpochInvariant ⟨client, history⟩) {name : Name}
    {tokens : AcceptedTokens} (waits : client.phase (.login name) = .storing tokens false) :
    EpochInvariant ⟨(client.write tokens).moveTo (.login name) (.storing tokens true),
      { history with storedBy := some name }⟩ := by
  have unaccepted : name ∉ history.accepted := by
    intro member
    have done := invariant.acceptedDone name member
    rw [show client.phase (.login name) = _ from waits] at done
    cases done
  have moved : EpochInvariant ⟨(client.write tokens).moveTo (.login name) (.storing tokens true),
      { history with storedBy := none }⟩ := by
    refine invariant.calm _ history.signedOut none history.logouts (sameMemory_of_eq rfl rfl rfl) rfl
      ?_ (fun login owned => by cases owned) fun quiet => invariant.signedOut (Or.inl quiet)
    rw [waits]
    exact calmMove_login (fun done => by cases done) fun owned => by cases owned
  refine EpochInvariant.storeFor moved (Or.inr ?_) fun _ _ _ => unaccepted
  show (Function.update client.phase (.login name) (.storing tokens true) (.login name)).Stored
  rw [Function.update_self]
  rfl

omit [DecidableEq Name] in
/-- What a refresh knows of the session when its epoch is kept. -/
theorem EpochInvariant.owned (invariant : EpochInvariant ⟨client, history⟩) {name : Name}
    (active : (client.phase (.refresh name)).Active)
    (kept : WatchedClient.EpochKept ⟨client, history⟩ name) :
    ∃ login, (history.origin name).owner = some login ∧ history.owner = some login ∧
      login ∈ history.accepted ∧ history.accepted = (history.origin name).accepted := by
  obtain ⟨same, present, accepted⟩ := invariant.active name active kept
  obtain ⟨login, owner⟩ := Option.ne_none_iff_exists'.mp present
  exact ⟨login, same.symm.trans owner, owner, invariant.ownerAccepted login owner, accepted⟩

/-- A call of a refresh that goes on, with the token of its session in the store. -/
theorem EpochInvariant.refreshed (invariant : EpochInvariant ⟨client, history⟩) {name : Name}
    (later : AuthClient Name) (active : (client.phase (.refresh name)).Active)
    (kept : WatchedClient.EpochKept ⟨client, history⟩ name) (same : SameMemory client later)
    (moved : later.phase = Function.update client.phase (.refresh name) next)
    (calm : next ≠ .clearing false) {storedBy : Option Name}
    (fits : storedBy = history.storedBy ∨ storedBy = (history.origin name).owner) :
    EpochInvariant ⟨later, { history with storedBy := storedBy }⟩ := by
  have move (storedBy : Option Name) :
      CalmMove storedBy (.refresh name) (client.phase (.refresh name)) next :=
    calmMove_refresh (fun _ => active) fun clearing => absurd clearing calm
  rcases fits with rfl | rfl
  · exact invariant.calm later history.signedOut history.storedBy history.logouts same moved (move _)
      (fun _ owned => owned) fun quiet => invariant.signedOut (Or.inl quiet)
  · obtain ⟨login, origin, owner, member, -⟩ := invariant.owned active kept
    have none := invariant.calm later history.signedOut none history.logouts same moved (move none)
      (fun _ owned => by cases owned) fun quiet => invariant.signedOut (Or.inl quiet)
    rw [origin]
    refine EpochInvariant.storeFor none (Or.inl member) fun _ _ unowned => ?_
    cases owner.symm.trans unowned

/-- A refresh ends with the session it was started under. -/
theorem EpochInvariant.rememberRefresh {usesCookieSession : Bool}
    (invariant : EpochInvariant ⟨client, history⟩) {name : Name} {tokens : AcceptedTokens}
    (active : (client.phase (.refresh name)).Active)
    (kept : WatchedClient.EpochKept ⟨client, history⟩ name) :
    EpochInvariant ⟨(client.remember usesCookieSession (.refresh name) tokens).finish
        (.refresh name) true,
      history.record usesCookieSession client (.refresh name) (.remember tokens)⟩ := by
  obtain ⟨login, origin, owner, -, -⟩ := invariant.owned active kept
  have inMemory : SameMemory client ((client.remember usesCookieSession (.refresh name)
      tokens).finish (.refresh name) true) := by
    refine ⟨⟨fun none => (by cases none), fun none => ?_⟩,
      ⟨fun none => (by cases none), fun none => ?_⟩, rfl⟩
    · cases owner.symm.trans (invariant.session.mpr none)
    · cases owner.symm.trans (invariant.token.mpr none)
  have same : history.record usesCookieSession client (.refresh name) (.remember tokens) =
      { history with
        storedBy := if usesCookieSession then (history.origin name).owner else history.storedBy } := by
    simp only [SessionHistory.record, SessionHistory.brings]
    rw [origin, owner]
  rw [same]
  refine invariant.refreshed _ active kept inMemory rfl (fun clearing => by cases clearing) ?_
  cases usesCookieSession with
  | true => exact Or.inr rfl
  | false => exact Or.inl rfl

/-! ### Sessions that begin and end -/

omit [DecidableEq Name] in
/-- No refresh keeps its epoch when the epoch advances. -/
theorem EpochInvariant.not_kept (invariant : EpochInvariant ⟨client, history⟩) {name : Name}
    (kept : (history.origin name).epoch = client.repository.sessionEpoch + 1) : False := by
  have early : (history.origin name).epoch ≤ client.repository.sessionEpoch := invariant.early name
  omega

variable {usesCookieSession : Bool}

theorem EpochInvariant.acceptLogin (invariant : EpochInvariant ⟨client, history⟩) {name : Name}
    {tokens : AcceptedTokens} (signedIn : history.signedOut = false)
    (noLogout : ∀ other, ¬(client.phase (.logout other)).Clearing) :
    EpochInvariant ⟨(client.remember usesCookieSession (.login name) tokens).moveTo (.login name)
        (.finished true), { history with
          accepted := name :: history.accepted
          owner := some name
          storedBy := if usesCookieSession then some name else history.storedBy }⟩ where
  session := ⟨fun none => (by cases none), fun none => (by cases none)⟩
  token := ⟨fun none => (by cases none), fun none => (by cases none)⟩
  ownerAccepted := by
    intro login owned
    cases owned
    exact List.mem_cons_self
  acceptedDone := by
    intro login member
    by_cases same : login = name
    · rw [same]
      exact Function.update_self _ _ _
    · rcases List.mem_cons.mp member with equal | before
      · exact absurd equal same
      · refine (Function.update_of_ne ?_ _ _).trans (invariant.acceptedDone login before)
        exact fun equal => same (by cases equal; rfl)
  stored := by
    intro login owned
    by_cases same : login = name
    · rw [same]
      exact Or.inl List.mem_cons_self
    · have before : history.storedBy = some login := by
        cases usesCookieSession with
        | true =>
          cases owned
          exact absurd rfl same
        | false => exact owned
      refine (invariant.stored login before).imp (List.mem_cons_of_mem _) fun stored => ?_
      show (Function.update client.phase (.login name) _ (.login login)).Stored
      rw [Function.update_of_ne fun equal => same (by cases equal; rfl)]
      exact stored
  early := fun other => Nat.le_succ_of_le (invariant.early other)
  active := fun other _ kept => (invariant.not_kept kept).elim
  cleared := fun other _ kept => (invariant.not_kept kept).elim
  signedOut := by
    rintro (quiet | ⟨other, clearing⟩)
    · exact absurd (signedIn.symm.trans quiet) Bool.false_ne_true
    · exact absurd clearing (noLogout other)

/-- The stored tokens of accepted logins keep no session once memory is cleared. -/
theorem filter_unaccepted {storedBy : Option Name} {accepted : List Name} {login : Name}
    (owned : (storedBy.filter fun login => login ∉ accepted) = some login) :
    storedBy = some login ∧ login ∉ accepted := by
  rw [Option.filter_eq_some_iff] at owned
  exact ⟨owned.1, of_decide_eq_true owned.2⟩

/-- The session is cleared; only the call that clears it can count on the new epoch. -/
theorem EpochInvariant.clear (invariant : EpochInvariant ⟨client, history⟩)
    (notLogin : ∀ name, AuthCall.login name ≠ call)
    (origin : Name → RefreshOrigin Name)
    (early : ∀ name, (origin name).epoch ≤ client.repository.sessionEpoch + 1)
    (own : ∀ name, (origin name).epoch = client.repository.sessionEpoch + 1 →
      call = .refresh name) :
    EpochInvariant ⟨client.forget.moveTo call (.clearing false), { history with
      owner := none
      storedBy := history.storedBy.filter fun login => login ∉ history.accepted
      origin := origin }⟩ where
  session := ⟨fun _ => rfl, fun _ => rfl⟩
  token := ⟨fun _ => rfl, fun _ => rfl⟩
  ownerAccepted := fun login owned => by cases owned
  acceptedDone := fun login member =>
    (Function.update_of_ne (notLogin login) _ _).trans (invariant.acceptedDone login member)
  stored := by
    intro login owned
    refine (invariant.stored login (filter_unaccepted owned).1).imp_right fun stored => ?_
    show (Function.update client.phase call _ (.login login)).Stored
    rwa [Function.update_of_ne (notLogin login)]
  early := early
  active := by
    intro name active kept
    have phase : (client.forget.moveTo call (.clearing false)).phase (.refresh name) =
        .clearing false := by
      rw [own name kept]
      exact Function.update_self _ _ _
    rw [phase] at active
    exact active.elim
  cleared := fun name _ _ => ⟨rfl, fun login owned => (filter_unaccepted owned).2⟩
  signedOut := fun _ => rfl

theorem EpochInvariant.clearLogout (invariant : EpochInvariant ⟨client, history⟩) (name : Name) :
    EpochInvariant ⟨client.forget.moveTo (.logout name) (.clearing false),
      history.record usesCookieSession client (.logout name) .clear⟩ :=
  invariant.clear (fun _ equal => by cases equal) history.origin
    (fun other => Nat.le_succ_of_le (invariant.early other))
    fun other kept => (invariant.not_kept kept).elim

theorem EpochInvariant.clearRefresh (invariant : EpochInvariant ⟨client, history⟩) (name : Name) :
    EpochInvariant ⟨client.forget.moveTo (.refresh name) (.clearing false),
      history.record usesCookieSession client (.refresh name) .clear⟩ := by
  refine invariant.clear (fun _ equal => by cases equal) (Function.update history.origin name
    { history.origin name with epoch := client.repository.sessionEpoch + 1 })
    (fun other => ?_) fun other kept => ?_
  · by_cases same : other = name
    · rw [same, Function.update_self]
    · rw [Function.update_of_ne same]
      exact Nat.le_succ_of_le (invariant.early other)
  · by_cases same : other = name
    · rw [same]
    · rw [Function.update_of_ne same] at kept
      exact (invariant.not_kept kept).elim

/-- A refresh starts under the session that is in memory. -/
theorem EpochInvariant.begin (invariant : EpochInvariant ⟨client, history⟩) {name : Name}
    (signedIn : client.repository.currentSession.isSome) (same : SameMemory client later)
    (moved : later.phase = Function.update client.phase (.refresh name) next)
    (begins : next ≠ .clearing false) :
    EpochInvariant ⟨later, { history with
      origin := Function.update history.origin name
        ⟨history.accepted, history.owner, history.logouts, client.repository.sessionEpoch⟩ }⟩ := by
  have owned : history.owner ≠ none := by
    intro unowned
    rw [invariant.session.mp unowned] at signedIn
    cases signedIn
  have phaseOf (call : AuthCall Name) (different : call ≠ .refresh name) :
      later.phase call = client.phase call := by
    rw [moved, Function.update_of_ne different]
  -- What is said of the other refreshes is about their own origin and phase.
  have ofOther {other : Name} (different : other ≠ name)
      (kept : (Function.update history.origin name
        ⟨history.accepted, history.owner, history.logouts, client.repository.sessionEpoch⟩
          other).epoch = later.repository.sessionEpoch) :
      later.phase (.refresh other) = client.phase (.refresh other) ∧
        WatchedClient.EpochKept ⟨client, history⟩ other := by
    rw [Function.update_of_ne different] at kept
    exact ⟨phaseOf _ fun equal => different (by cases equal; rfl), kept.trans same.epoch⟩
  refine ⟨invariant.session.trans same.session.symm, invariant.token.trans same.token.symm,
    invariant.ownerAccepted, ?_, ?_, ?_, ?_, ?_, ?_⟩
  · intro login member
    exact (phaseOf (.login login) fun equal => by cases equal).trans
      (invariant.acceptedDone login member)
  · intro login stored
    refine (invariant.stored login stored).imp_right fun inStore => ?_
    show (later.phase (.login login)).Stored
    rwa [phaseOf (.login login) fun equal => by cases equal]
  · intro other
    show (Function.update history.origin name _ other).epoch ≤ later.repository.sessionEpoch
    rw [same.epoch]
    by_cases own : other = name
    · rw [own, Function.update_self]
    · rw [Function.update_of_ne own]
      exact invariant.early other
  · intro other active kept
    by_cases own : other = name
    · subst own
      simp only [Function.update_self]
      exact ⟨trivial, owned, trivial⟩
    · obtain ⟨phase, keptBefore⟩ := ofOther own kept
      simp only [Function.update_of_ne own]
      rw [phase] at active
      exact invariant.active other active keptBefore
  · intro other cleared kept
    by_cases own : other = name
    · subst own
      have atNext : later.phase (.refresh other) = next := by rw [moved, Function.update_self]
      exact absurd (atNext.symm.trans cleared) begins
    · obtain ⟨phase, keptBefore⟩ := ofOther own kept
      exact invariant.cleared other (phase.symm.trans cleared) keptBefore
  · intro quiet
    refine invariant.signedOut (quiet.imp_right ?_)
    rintro ⟨other, clearing⟩
    refine ⟨other, ?_⟩
    rwa [phaseOf (.logout other) fun equal => by cases equal] at clearing

theorem EpochInvariant.refreshOnce (invariant : EpochInvariant ⟨client, history⟩) (name : Name)
    (extra : RequestExtra) (signedIn : client.repository.currentSession.isSome) :
    EpochInvariant ⟨client.refreshOnce usesCookieSession name extra,
      history.record usesCookieSession client (.request name) (.refreshOnce extra)⟩ := by
  rw [AuthClient.refreshOnce]
  rcases free : client.repository.refreshing with _ | active
  · simp only [SessionHistory.record, free]
    refine EpochInvariant.moveTo ?_ calmMove_request
    refine invariant.begin signedIn (sameMemory_of_eq rfl rfl rfl) rfl ?_
    split <;> exact fun equal => by cases equal
  · simp only [SessionHistory.record, free]
    exact invariant.moveTo calmMove_request

/-! ### One step -/

/-- What an undisturbed step keeps. -/
theorem EpochInvariant.step {watched : WatchedClient Name} (invariant : EpochInvariant watched)
    (action : ClientAction Name) (undisturbed : watched.Undisturbed usesCookieSession action) :
    EpochInvariant (watched.step usesCookieSession action) := by
  obtain ⟨client, history⟩ := watched
  have turns := turn_turns client usesCookieSession action
  unfold WatchedClient.Undisturbed at undisturbed
  unfold WatchedClient.step WatchedClient.turn AuthClient.step
  simp only [WatchedClient.turn] at undisturbed
  generalize client.turn usesCookieSession action = turn at turns undisturbed
  generalize action.of = call at turns undisturbed
  generalize before : client.phase call = phase at turns
  have quietBefore (quiet : history.signedOut = true) : history.owner = none :=
    invariant.signedOut (Or.inl quiet)
  cases turns with
  | stay =>
    refine invariant.moveTo ?_
    rw [before]
    exact calmMove_stay _ _ _
  | begin plain =>
    have move (storedBy : Option Name) := calmMove_begin storedBy call plain
    rw [← before] at move
    cases call with
    | login name =>
      exact invariant.calm (client.moveTo _ _) false history.storedBy
        history.logouts (sameMemory_of_eq rfl rfl rfl) rfl (move _) (fun _ owned => owned)
        fun quiet => by cases quiet
    | logout name => exact invariant.moveTo (move _)
    | request name => exact invariant.moveTo (move _)
    | refresh name => exact invariant.moveTo (move _)
  | ask =>
    refine invariant.moveTo (calmMove_login ?_ ?_)
    · rw [before]
      exact fun done => by cases done
    · rw [before]
      exact fun _ stored => stored.elim
  | send =>
    refine invariant.moveTo (calmMove_refresh ?_ fun clearing => by cases clearing)
    rw [before]
    exact fun _ => trivial
  | mark =>
    refine invariant.moveTo ?_
    rw [before]
    exact calmMove_mark _ _ _
  | retry => exact invariant.moveTo calmMove_request
  | signedIn =>
    refine invariant.moveTo (calmMove_login ?_ ?_)
    · rw [before]
      exact fun done => by cases done
    · rw [before]
      exact fun _ stored => stored.elim
  | rotated =>
    refine invariant.moveTo (calmMove_refresh ?_ ?_)
    · rw [before]
      exact fun _ => trivial
    · split <;> exact fun clearing => by cases clearing
  | @write _ tokens =>
    have unstored (move : CalmMove none call (client.phase call) (.storing tokens true)) :
        EpochInvariant ⟨(client.write tokens).moveTo call (.storing tokens true),
          { history with storedBy := none }⟩ :=
      invariant.calm _ history.signedOut none history.logouts (sameMemory_of_eq rfl rfl rfl) rfl move
        (fun _ owned => by cases owned) quietBefore
    cases call with
    | login name => exact invariant.writeLogin before
    | logout name => exact unstored (calmMove_logout fun clearing => clearing.elim)
    | request name => exact unstored calmMove_request
    | refresh name =>
      have active : (client.phase (.refresh name)).Active := by rw [before]; trivial
      exact invariant.refreshed ((client.write tokens).moveTo _ _) active undisturbed.1
        (sameMemory_of_eq rfl rfl rfl) rfl (fun clearing => by cases clearing) (Or.inr rfl)
  | rememberLogin => exact invariant.acceptLogin undisturbed.1 undisturbed.2
  | @rememberRefresh name tokens written =>
    have active : (client.phase (.refresh name)).Active := by rw [before]; trivial
    exact invariant.rememberRefresh active undisturbed
  | clearLogout => exact invariant.clearLogout _
  | clearRefresh active => exact invariant.clearRefresh _
  | erase =>
    refine invariant.calm (AuthClient.moveTo _ _ _) history.signedOut none
      history.logouts (sameMemory_of_eq rfl rfl rfl) rfl ?_ (fun _ owned => by cases owned)
      quietBefore
    rw [before]
    exact calmMove_erase call
  | @failLogin name phase running =>
    have others {login : Name}
        (owned : (history.storedBy.filter fun login => login ≠ name) = some login) :
        history.storedBy = some login ∧ login ≠ name := by
      rw [Option.filter_eq_some_iff] at owned
      exact ⟨owned.1, of_decide_eq_true owned.2⟩
    refine invariant.calm (client.moveTo _ _) history.signedOut
      (history.storedBy.filter fun login => login ≠ name) history.logouts
      (sameMemory_of_eq rfl rfl rfl) rfl (calmMove_login ?_ ?_) (fun _ owned => (others owned).1)
      quietBefore
    · rw [before]
      exact fun done => absurd done running
    · exact fun owned => absurd rfl (others owned).2
  | @endLogout name landed ok =>
    refine invariant.calm (client.moveTo _ _) true history.storedBy
      (history.logouts + 1) (sameMemory_of_eq rfl rfl rfl) rfl
      (calmMove_logout fun clearing => clearing.elim) (fun _ owned => owned) fun _ => ?_
    refine invariant.signedOut (Or.inr ⟨name, ?_⟩)
    show (client.phase (.logout name)).Clearing
    rw [before]
    trivial
  | @endRefresh name landed ok =>
    exact invariant.calm (client.finish (.refresh name) ok)
      history.signedOut history.storedBy history.logouts (sameMemory_of_eq rfl rfl rfl) rfl
      (calmMove_refresh (fun active => active.elim) fun clearing => by cases clearing)
      (fun _ owned => owned) quietBefore
  | endRequest => exact invariant.moveTo calmMove_request
  | refreshOnce signedIn => exact invariant.refreshOnce _ _ signedIn

/-! ### A cookie session writes no refresh token -/

/-- The call writes a refresh token, or has written one. -/
def CallPhase.Writes : CallPhase Name → Prop
  | .storing _ _ => True
  | .marking _ written => written = true
  | _ => False

omit [DecidableEq Name] in
theorem CallPhase.Stored.writes {phase : CallPhase Name} (stored : phase.Stored) :
    phase.Writes := by
  cases phase with
  | storing _ _ => trivial
  | marking _ _ => exact stored
  | _ => exact stored.elim

/-- With a cookie session no call writes a refresh token. -/
def CookieOnly (client : AuthClient Name) : Prop := ∀ call, ¬(client.phase call).Writes

theorem CookieOnly.update (cookie : CookieOnly client) (later : AuthClient Name)
    (moved : later.phase = Function.update client.phase call next) (plain : ¬next.Writes) :
    CookieOnly later := by
  intro other
  rw [moved]
  by_cases same : other = call
  · rw [same, Function.update_self]
    exact plain
  · rw [Function.update_of_ne same]
    exact cookie other

theorem CookieOnly.step (cookie : CookieOnly client) (action : ClientAction Name) :
    CookieOnly (client.step true action) := by
  have turns := turn_turns client true action
  unfold AuthClient.step
  have plain := cookie action.of
  generalize client.turn true action = turn at turns
  generalize action.of = call at turns plain
  generalize client.phase call = phase at turns plain
  cases turns with
  | stay => exact cookie.update _ rfl plain
  | begin next =>
    refine cookie.update _ rfl ?_
    rcases next with rfl | rfl | ⟨extra, rfl⟩ <;> exact not_false
  | ask => exact cookie.update _ rfl not_false
  | send => exact cookie.update _ rfl not_false
  | mark => exact absurd trivial plain
  | retry => exact cookie.update _ rfl not_false
  | signedIn => exact cookie.update _ rfl Bool.false_ne_true
  | rotated => exact cookie.update _ rfl Bool.false_ne_true
  | write => exact absurd trivial plain
  | rememberLogin => exact cookie.update _ rfl not_false
  | rememberRefresh => exact cookie.update _ rfl not_false
  | clearLogout => exact cookie.update _ rfl not_false
  | clearRefresh _ => exact cookie.update _ rfl not_false
  | erase => exact cookie.update _ rfl not_false
  | failLogin _ => exact cookie.update _ rfl not_false
  | endLogout => exact cookie.update _ rfl not_false
  | endRefresh => exact cookie.update _ rfl not_false
  | endRequest => exact cookie.update _ rfl not_false
  | @refreshOnce name _ extra _ =>
    simp only [AuthClient.perform, AuthClient.refreshOnce]
    split
    · exact cookie.update _ rfl not_false
    · refine CookieOnly.update ?_ (AuthClient.moveTo _ _ _) rfl not_false
      exact cookie.update (client.moveTo (.refresh name) _) rfl not_false

/-! ### The promise of one step -/

variable {watched : WatchedClient Name} {action : ClientAction Name} {name : Name}

omit [DecidableEq Name] in
/-- The session of a refresh that keeps its epoch is not that of a later login. -/
theorem EpochInvariant.not_later (invariant : EpochInvariant watched) {login : Name}
    (active : (watched.client.phase (.refresh name)).Active) (kept : watched.EpochKept name)
    (member : login ∈ watched.history.accepted) :
    login ∈ (watched.history.origin name).accepted := by
  obtain ⟨-, -, -, -, same⟩ := invariant.owned active kept
  rwa [same] at member

omit [DecidableEq Name] in
theorem EpochInvariant.not_signedOut (invariant : EpochInvariant watched)
    (active : (watched.client.phase (.refresh name)).Active) (kept : watched.EpochKept name) :
    watched.history.signedOut ≠ true := by
  intro quiet
  obtain ⟨login, -, owner, -⟩ := invariant.owned active kept
  cases owner.symm.trans (invariant.signedOut (Or.inl quiet))

omit [DecidableEq Name] in
/-- Without a login on its way, what is stored belongs to an accepted login. -/
theorem EpochInvariant.stored_accepted (invariant : EpochInvariant watched)
    (none : watched.NoneStored) {login : Name} (owned : watched.history.storedBy = some login) :
    login ∈ watched.history.accepted :=
  (invariant.stored login owned).resolve_right (none login)

/-- A refresh that keeps its epoch can change memory: the session there is not a later one. -/
theorem EpochInvariant.memory_of_refresh (invariant : EpochInvariant watched)
    (undisturbed : watched.Undisturbed usesCookieSession action) (acts : action.of = .refresh name) :
    ((watched.step usesCookieSession action).client.repository.accessToken =
          watched.client.repository.accessToken ∧
        (watched.step usesCookieSession action).client.repository.currentSession =
          watched.client.repository.currentSession) ∨
      ∀ login, watched.history.owner = some login →
        login ∈ (watched.history.origin name).accepted := by
  have turns := turn_turns watched.client usesCookieSession action
  simp only [WatchedClient.Undisturbed, WatchedClient.turn] at undisturbed
  simp only [WatchedClient.step, AuthClient.step]
  rw [acts] at turns undisturbed ⊢
  generalize watched.client.turn usesCookieSession action = turn at turns undisturbed
  generalize before : watched.client.phase (.refresh name) = phase at turns
  have owned (active : phase.Active) (kept : watched.EpochKept name) (login : Name)
      (owner : watched.history.owner = some login) :
      login ∈ (watched.history.origin name).accepted :=
    invariant.not_later (before ▸ active) kept (invariant.ownerAccepted login owner)
  cases turns with
  | rememberRefresh => exact Or.inr (owned trivial undisturbed)
  | clearRefresh active =>
    rcases undisturbed with kept | none
    · exact Or.inr (owned active kept)
    · refine Or.inr fun login owner => ?_
      cases owner.symm.trans (invariant.session.mpr none)
  | stay => exact Or.inl ⟨rfl, rfl⟩
  | begin _ => exact Or.inl ⟨rfl, rfl⟩
  | send => exact Or.inl ⟨rfl, rfl⟩
  | mark => exact Or.inl ⟨rfl, rfl⟩
  | rotated => exact Or.inl ⟨rfl, rfl⟩
  | write => exact Or.inl ⟨rfl, rfl⟩
  | erase => exact Or.inl ⟨rfl, rfl⟩
  | endRefresh => exact Or.inl ⟨rfl, rfl⟩

/-- A refresh that keeps its epoch can change the store: the session there is not a later one. -/
theorem EpochInvariant.stored_of_refresh (invariant : EpochInvariant watched)
    (cookie : usesCookieSession = true → CookieOnly watched.client)
    (undisturbed : watched.Undisturbed usesCookieSession action) (acts : action.of = .refresh name) :
    (watched.step usesCookieSession action).client.stored = watched.client.stored ∨
      ∀ login, watched.history.storedBy = some login →
        login ∈ (watched.history.origin name).accepted := by
  have turns := turn_turns watched.client usesCookieSession action
  simp only [WatchedClient.Undisturbed, WatchedClient.turn] at undisturbed
  simp only [WatchedClient.step, AuthClient.step]
  rw [acts] at turns undisturbed ⊢
  generalize watched.client.turn usesCookieSession action = turn at turns undisturbed
  generalize before : watched.client.phase (.refresh name) = phase at turns
  have owned (active : phase.Active) (kept : watched.EpochKept name) (none : watched.NoneStored)
      (login : Name) (owner : watched.history.storedBy = some login) :
      login ∈ (watched.history.origin name).accepted :=
    invariant.not_later (before ▸ active) kept (invariant.stored_accepted none owner)
  cases turns with
  | write => exact Or.inr (owned trivial undisturbed.1 undisturbed.2)
  | erase =>
    -- What the store forgets is not the token of an accepted login any more.
    refine Or.inr fun login owner => ?_
    obtain ⟨-, fresh⟩ := invariant.cleared name before undisturbed.1
    exact absurd (invariant.stored_accepted undisturbed.2 owner) (fresh login owner)
  | rememberRefresh =>
    cases usesCookieSession with
    | false => exact Or.inl rfl
    | true =>
      refine Or.inr (owned trivial undisturbed fun login stored => ?_)
      exact cookie rfl _ stored.writes
  | clearRefresh _ => exact Or.inl rfl
  | stay => exact Or.inl rfl
  | begin _ => exact Or.inl rfl
  | send => exact Or.inl rfl
  | mark => exact Or.inl rfl
  | rotated => exact Or.inl rfl
  | endRefresh => exact Or.inl rfl

/-- A refresh writes no refresh token while the client is signed out. -/
theorem EpochInvariant.token_of_refresh (invariant : EpochInvariant watched)
    (undisturbed : watched.Undisturbed usesCookieSession action) (acts : action.of = .refresh name)
    (quiet : watched.history.signedOut = true) :
    (watched.step usesCookieSession action).client.stored.refreshToken ∈
      [watched.client.stored.refreshToken, none] := by
  have turns := turn_turns watched.client usesCookieSession action
  simp only [WatchedClient.Undisturbed, WatchedClient.turn] at undisturbed
  simp only [WatchedClient.step, AuthClient.step]
  rw [acts] at turns undisturbed ⊢
  generalize watched.client.turn usesCookieSession action = turn at turns undisturbed
  generalize before : watched.client.phase (.refresh name) = phase at turns
  cases turns with
  | write =>
    have active : (watched.client.phase (.refresh name)).Active := by rw [before]; trivial
    exact absurd quiet (invariant.not_signedOut active undisturbed.1)
  | erase =>
    cases usesCookieSession with
    | true => exact List.mem_cons_self
    | false => exact List.mem_cons_of_mem _ List.mem_cons_self
  | rememberRefresh => exact List.mem_cons_self
  | clearRefresh _ => exact List.mem_cons_self
  | stay => exact List.mem_cons_self
  | begin _ => exact List.mem_cons_self
  | send => exact List.mem_cons_self
  | mark => exact List.mem_cons_self
  | rotated => exact List.mem_cons_self
  | endRefresh => exact List.mem_cons_self

theorem EpochInvariant.safeStep (invariant : EpochInvariant watched)
    (cookie : usesCookieSession = true → CookieOnly watched.client)
    (undisturbed : watched.Undisturbed usesCookieSession action) :
    watched.SafeStep usesCookieSession action where
  quiet := by
    intro signedOut
    have after := invariant.step action undisturbed
    have unowned := after.signedOut (Or.inl signedOut)
    exact ⟨after.token.mp unowned, after.session.mp unowned⟩
  unwritten := fun name acts quiet _ => invariant.token_of_refresh undisturbed acts quiet
  remembered := by
    intro name login acts owner later
    refine (invariant.memory_of_refresh undisturbed acts).resolve_right fun earlier => ?_
    exact later (earlier login owner)
  stored := by
    intro name login acts owner later
    refine (invariant.stored_of_refresh cookie undisturbed acts).resolve_right fun earlier => ?_
    exact later (earlier login owner)

omit [DecidableEq Name] in
theorem cookieOnly_start (stored : StoredSession) : CookieOnly (AuthClient.start Name stored) :=
  fun _ => not_false

variable (usesCookieSession) in
/-- Where every step is undisturbed, signed out is signed out, and no refresh touches the session
of a later login. -/
theorem session_epoch_safe (stored : StoredSession) {actions : List (ClientAction Name)}
    (undisturbed : Guarded (WatchedClient.step usesCookieSession)
      (WatchedClient.Undisturbed usesCookieSession) (WatchedClient.start Name stored) actions) :
    Guarded (WatchedClient.step usesCookieSession) (WatchedClient.SafeStep usesCookieSession)
      (WatchedClient.start Name stored) actions := by
  have kept (watched : WatchedClient Name) (action : ClientAction Name)
      (holds : EpochInvariant watched ∧ (usesCookieSession = true → CookieOnly watched.client))
      (guard : watched.Undisturbed usesCookieSession action) :
      (EpochInvariant (watched.step usesCookieSession action) ∧
          (usesCookieSession = true →
            CookieOnly (watched.step usesCookieSession action).client)) ∧
        watched.SafeStep usesCookieSession action := by
    obtain ⟨invariant, cookie⟩ := holds
    refine ⟨⟨invariant.step action guard, ?_⟩, invariant.safeStep cookie guard⟩
    rintro rfl
    exact (cookie rfl).step action
  exact guarded_imp kept ⟨epochInvariant_start stored, fun _ => cookieOnly_start stored⟩ undisturbed

end Invariant

/-! ### Runs -/

/-- An answer with tokens. -/
def tokenBody (accessToken refreshToken : String) : Option Json :=
  some (.obj [("accessToken", .str accessToken), ("refreshToken", .str refreshToken),
    ("bookId", .str "book"), ("plan", .str "free")])

/-- A login from its call to its end. -/
def loginActions (name : Nat) (accessToken refreshToken : String) : List (ClientAction Nat) :=
  [.call (.login name), .reply (.login name) .ok,
    .reply (.login name) (.body (tokenBody accessToken refreshToken)), .land (.login name),
    .reply (.login name) .ok, .reply (.login name) .ok]

/-- A logout from its call to its end. -/
def logoutActions (name : Nat) : List (ClientAction Nat) :=
  [.call (.logout name), .reply (.logout name) .ok, .land (.logout name), .reply (.logout name) .ok]

/-- A request is answered with 401, and its refresh has read the stored token. -/
def refreshActions : List (ClientAction Nat) :=
  [.call (.request 0), .reply (.request 0) .unauthorized, .reply (.refresh 0) .ok]

/-- The answer to the refresh. -/
def refreshAnswer : ClientAction Nat :=
  .reply (.refresh 0) (.body (tokenBody "access-new" "refresh-new"))

/-- A refresh is answered after a logout, and ends after the next login. -/
def lateRun : List (ClientAction Nat) :=
  loginActions 0 "access-one" "refresh-one" ++ refreshActions ++ logoutActions 0 ++
    [refreshAnswer, .land (.refresh 0)] ++ loginActions 1 "access-two" "refresh-two" ++
    [.reply (.refresh 0) .ok]

/-- The refresh finds another epoch, clears where nothing is left, and leaves the later session
alone. -/
theorem session_epoch_safe_refreshed :
    Guarded (WatchedClient.step false) (WatchedClient.SafeStep false)
      (WatchedClient.start Nat ⟨none, false⟩) lateRun := by
  refine session_epoch_safe false ⟨none, false⟩ ?_
  simp only [lateRun, loginActions, refreshActions, logoutActions, refreshAnswer, List.cons_append,
    List.nil_append, guarded_cons, guarded_nil, and_true]
  refine ⟨trivial, trivial, trivial, trivial, trivial, ⟨rfl, fun _ => not_false⟩, ?_⟩
  -- The logout clears and completes before the answer comes.
  refine ⟨trivial, trivial, trivial, trivial, trivial, trivial, trivial, Or.inr rfl, ?_⟩
  refine ⟨⟨rfl, fun login => ?_⟩, trivial, trivial, trivial, trivial, trivial,
    ⟨rfl, fun name => ?_⟩, trivial⟩
  · cases login with
    | zero => exact not_false
    | succ login => exact not_false
  · cases name with
    | zero => exact not_false
    | succ name => exact not_false

/-- The refresh is answered after a logout and another login. -/
def overtakenRun : List (ClientAction Nat) :=
  loginActions 0 "access-one" "refresh-one" ++ refreshActions ++ logoutActions 0 ++
    loginActions 1 "access-two" "refresh-two" ++ [refreshAnswer]

/-- The refresh is answered, and a logout completes before the store writes. -/
def interruptedRun : List (ClientAction Nat) :=
  loginActions 0 "access-one" "refresh-one" ++ refreshActions ++ [refreshAnswer] ++
    logoutActions 0 ++ [.land (.refresh 0)]

/-- A refresh clears the session of a later login, and another one writes its token and signs in
after a logout. -/
theorem session_epoch_unsafe :
    ¬Guarded (WatchedClient.step false) (WatchedClient.SafeStep false)
        (WatchedClient.start Nat ⟨none, false⟩) overtakenRun ∧
      ¬Guarded (WatchedClient.step false) (WatchedClient.SafeStep false)
        (WatchedClient.start Nat ⟨none, false⟩) interruptedRun := by
  constructor
  · intro guarded
    have safe := ((guarded_append _ _ _).mp guarded).2.1
    have kept := safe.remembered 0 1 rfl (by decide +kernel) (by decide +kernel)
    exact absurd kept.2 (by decide +kernel)
  · intro guarded
    have safe := ((guarded_append _ _ _).mp guarded).2.1
    have kept := safe.unwritten 0 rfl (by decide +kernel) (by decide +kernel)
    exact absurd kept (by decide +kernel)

end Ledgerly
