/-
This file proves that sessions are safe on both backends: a refresh token is exchanged once, and
no token of a session is accepted after the session has been revoked by logout. Both backends
move the ledger of sessions, each in its own steps, so that what the ledger promises of a run is
true of theirs.
-/

import Mathlib.Data.Fin.VecNotation
import Mathlib.Data.Fintype.Basic
import Ledgerly.SessionLedger

namespace Ledgerly

open Machine Lifecycle

/-! ### What clients are promised -/

/-- In the order of what is told, a refresh token is exchanged once, and after a logout no token
that was issued for the session is accepted. -/
structure SessionSafe (told : List SessionEvent) : Prop where
  exchangedOnce : ∀ before refreshToken sessionId after,
    told = before ++ .exchanged refreshToken sessionId :: after →
      ∀ other, .exchanged refreshToken other ∉ after
  loggedOutLast : ∀ before sessionId after, told = before ++ .loggedOut sessionId :: after →
    ∀ refreshToken accessToken, .issued sessionId refreshToken accessToken ∈ told →
      (∀ other, .accepted accessToken other ∉ after) ∧
        ∀ other, .exchanged refreshToken other ∉ after

section Promise

variable {Name Key : Type} {setting : AuthSetting Name Key} {told : List SessionEvent}
  {stages : String → Stage}

/-- After an event that ends a session, no event asks for it. -/
theorem not_asks_later {before after : List SessionEvent} {last later : SessionEvent}
    {sessionId : String}
    (guarded : Guarded Lifecycle.advance Allowed stages
      ((before ++ last :: after).map SessionEvent.lifecycle))
    (ends : last.lifecycle.Ends sessionId) (member : later ∈ after) :
    ¬later.lifecycle.Asks sessionId := by
  rw [List.map_append, List.map_cons] at guarded
  exact not_asks_after guarded ends _ (List.mem_map_of_mem member)

/-- A sound account of the life of the sessions keeps the promise. -/
theorem sessionSafe_of_guarded (sound : ∀ event ∈ told, event.Sound setting)
    (guarded : Guarded Lifecycle.advance Allowed stages (told.map SessionEvent.lifecycle)) :
    SessionSafe told where
  exchangedOnce := by
    rintro before refreshToken sessionId after rfl other member
    obtain ⟨first, firstId, firstToken⟩ := sound (.exchanged refreshToken sessionId) (by simp)
    obtain ⟨second, secondId, secondToken⟩ :=
      sound (.exchanged refreshToken other) (by simp [member])
    have sameName : first = second :=
      setting.randomToken_injective (firstToken.symm.trans secondToken)
    have sameSession : other = sessionId := by rw [secondId, firstId, sameName]
    refine not_asks_later guarded Event.Ends.spend member ?_
    rw [sameSession]
    exact Event.Asks.spend
  loggedOutLast := by
    rintro before sessionId after rfl refreshToken accessToken issued
    obtain ⟨owner, ownId, ownToken, claims, ownClaims, encoded⟩ := sound _ issued
    constructor
    · intro other member
      obtain ⟨key, now, read, readId, decoded⟩ :=
        sound (.accepted accessToken other) (by simp [member])
      have sameSession : other = sessionId := by
        rw [← readId, setting.decode_encode encoded decoded, ownClaims]
      refine not_asks_later guarded Event.Ends.revoke member ?_
      rw [sameSession]
      exact Event.Asks.use
    · intro other member
      obtain ⟨second, secondId, secondToken⟩ :=
        sound (.exchanged refreshToken other) (by simp [member])
      have sameName : owner = second :=
        setting.randomToken_injective (ownToken.symm.trans secondToken)
      have sameSession : other = sessionId := by rw [secondId, ownId, sameName]
      refine not_asks_later guarded Event.Ends.revoke member ?_
      rw [sameSession]
      exact Event.Asks.spend

end Promise

section Backends

variable {Name Key : Type} {setting : AuthSetting Name Key} {name : Name} {now : Nat}

/-! ### Steps that both backends take -/

theorem buildTokenResponse_built {userId deviceId sessionId refresh : String}
    {tokens : TokenResponse}
    (built : buildTokenResponse setting now userId deviceId sessionId refresh = .ok tokens) :
    BuiltFor setting sessionId tokens.accessToken := by
  rw [buildTokenResponse] at built
  split at built
  · rename_i access encoded
    cases built
    exact ⟨_, rfl, encoded⟩
  · cases built

theorem decodeAccessToken_read {token : String} {claims : Claims}
    (decoded : decodeAccessToken setting now token = .ok claims) :
    ReadAs setting claims.sessionId token := by
  rw [decodeAccessToken] at decoded
  split at decoded
  · rename_i read
    cases decoded
    exact ⟨_, _, _, rfl, read⟩
  · split at decoded
    · rename_i read
      cases decoded
      obtain ⟨key, -, readBy⟩ := Option.bind_eq_some_iff.mp read
      exact ⟨key, _, _, rfl, readBy⟩
    · cases decoded

/-- A request that is not about to claim a session has nothing to find. -/
theorem sessionStep_refuse {ledger : SessionLedger} {phase : AuthPhase} {error : ApiError} :
    SessionStep setting name ledger phase ledger (.finished (.error error)) [] :=
  SessionStep.quiet (fun _ => trivial) fun _ => trivial

/-- The check of an access token, on a backend that lets pass only what is live. -/
theorem sessionStep_authorized {Store : Type} {view : Store → SessionLedger} {store : Store}
    {accessToken : String} {leaves : Bool} {claims : Claims} {active : Except ApiError Unit}
    (read : ReadAs setting claims.sessionId accessToken)
    (live : active = .ok () →
      ∃ entry, view store claims.sessionId = some entry ∧ entry.revoked = false) :
    SessionStep setting name (view store) (.authorizing accessToken leaves)
      (view (AuthMove.authorized store accessToken leaves claims active).store)
      (AuthMove.authorized store accessToken leaves claims active).phase
      (AuthMove.authorized store accessToken leaves claims active).events := by
  cases active with
  | error error => exact sessionStep_refuse
  | ok passed =>
    obtain ⟨entry, found, alive⟩ := live rfl
    refine SessionStep.accept read found alive ?_
    cases leaves with
    | true => exact trivial
    | false => exact trivial

/-! ### The memory backend -/

/-- The sessions of the memory backend. -/
def MemorySessions.ledger (store : MemorySessions) : SessionLedger := fun id =>
  (store.sessions.lookup id).map fun session => ⟨session.refreshHash, session.revoked⟩

theorem MemorySessions.ledger_of_some {store : MemorySessions} {id : String}
    {session : SessionRecord} (found : store.sessions.lookup id = some session) :
    store.ledger id = some ⟨session.refreshHash, session.revoked⟩ := by
  rw [MemorySessions.ledger, found, Option.map_some]

theorem MemorySessions.ledger_insert (sessions : KeyMap String SessionRecord)
    (byToken other : KeyMap String String) (id : String) (session : SessionRecord) :
    (MemorySessions.mk (sessions.insert id session) byToken).ledger =
      (MemorySessions.mk sessions other).ledger.put id ⟨session.refreshHash, session.revoked⟩ := by
  funext asked
  by_cases same : asked = id
  · subst same
    rw [SessionLedger.put_self, MemorySessions.ledger_of_some (AList.lookup_insert _)]
  · rw [SessionLedger.put_other same, MemorySessions.ledger, MemorySessions.ledger,
      AList.lookup_insert_ne same]

theorem MemorySessions.ledger_revoke (store : MemorySessions) (id : String)
    (session : SessionRecord) :
    (store.revoke id session).ledger =
      store.ledger.revoke id ⟨session.refreshHash, session.revoked⟩ :=
  MemorySessions.ledger_insert store.sessions _ _ id _

theorem ensureSessionActiveMem_live {store : MemorySessions} {claims : Claims}
    (active : ensureSessionActiveMem store claims = .ok ()) :
    ∃ entry, store.ledger claims.sessionId = some entry ∧ entry.revoked = false := by
  rw [ensureSessionActiveMem] at active
  split at active
  · rename_i session found
    split at active
    · rename_i passes
      refine ⟨_, MemorySessions.ledger_of_some found, ?_⟩
      simp only [Bool.and_eq_true, Bool.not_eq_true'] at passes
      exact passes.1.1
    · cases active
  · cases active

theorem logoutMem_step (store : MemorySessions) (auth : AuthUser) :
    SessionStep setting name store.ledger (.leaving auth) (logoutMem store auth).store.ledger
      (logoutMem store auth).phase (logoutMem store auth).events := by
  rw [logoutMem]
  split
  · rename_i session found
    simp only
    rw [MemorySessions.ledger_revoke]
    exact SessionStep.revoke (MemorySessions.ledger_of_some found) (Or.inl rfl) trivial
  · exact SessionStep.quiet (fun _ => trivial) fun _ => trivial

theorem issueTokensMem_step (store : MemorySessions) (userId deviceId : String) :
    SessionStep setting name store.ledger (.issuing userId deviceId)
      (issueTokensMem setting name now store userId deviceId).store.ledger
      (issueTokensMem setting name now store userId deviceId).phase
      (issueTokensMem setting name now store userId deviceId).events := by
  simp only [issueTokensMem]
  split
  · exact sessionStep_refuse
  · rename_i tokens built
    rw [MemorySessions.ledger_insert _ _ store.refreshToSession]
    exact SessionStep.issue (buildTokenResponse_built built)

theorem rotateRefreshTokenMem_step (store : MemorySessions) (refreshToken : String) :
    SessionStep setting name store.ledger (.rotating refreshToken)
      (rotateRefreshTokenMem setting store refreshToken).store.ledger
      (rotateRefreshTokenMem setting store refreshToken).phase
      (rotateRefreshTokenMem setting store refreshToken).events := by
  simp only [rotateRefreshTokenMem]
  split
  · exact sessionStep_refuse
  · rename_i sessionId _
    split
    · exact sessionStep_refuse
    · rename_i session found
      have before : store.ledger sessionId = some ⟨session.refreshHash, session.revoked⟩ :=
        MemorySessions.ledger_of_some found
      split
      · simp only
        rw [MemorySessions.ledger_revoke]
        exact SessionStep.revoke before (Or.inr rfl) trivial
      · rename_i passes
        simp only [Bool.or_eq_true, not_or, bne_iff_ne, ne_eq, not_not, Bool.not_eq_true]
          at passes
        simp only
        rw [MemorySessions.ledger_revoke]
        exact SessionStep.exchange before passes.1 passes.2

theorem advanceMem_moves : MovesLedger setting (advanceMem setting) MemorySessions.ledger := by
  intro name now store phase
  cases phase with
  | issuing userId deviceId => exact issueTokensMem_step store userId deviceId
  | rotating refreshToken => exact rotateRefreshTokenMem_step store refreshToken
  | authorizing accessToken leaves =>
    simp only [advanceMem]
    split
    · exact sessionStep_refuse
    · rename_i claims decoded
      exact sessionStep_authorized (decodeAccessToken_read decoded) ensureSessionActiveMem_live
  | leaving auth => exact logoutMem_step store auth
  | answering answer => exact SessionStep.quiet (fun _ => trivial) fun _ => trivial
  | idle => exact SessionStep.quiet id id
  | expiring oldSessionId => exact SessionStep.quiet id id
  | claiming refreshToken oldSessionId userId deviceId => exact SessionStep.quiet id id
  | finished answer => exact SessionStep.quiet id id

/-! ### PostgreSQL -/

/-- The sessions of the table. -/
def DeviceSessions.ledger (table : DeviceSessions) : SessionLedger := fun id =>
  (table.rows.lookup id).map fun row => ⟨row.refreshTokenHash, row.revokedAt.isSome⟩

namespace DeviceSessions

variable {table after : DeviceSessions} {id : String} {row : DeviceSessionRow}

theorem ledger_of_some (found : table.rows.lookup id = some row) :
    table.ledger id = some ⟨row.refreshTokenHash, row.revokedAt.isSome⟩ := by
  rw [ledger, found, Option.map_some]

theorem ledger_write (table : DeviceSessions) (row : DeviceSessionRow) :
    (table.write row).ledger =
      table.ledger.put row.id ⟨row.refreshTokenHash, row.revokedAt.isSome⟩ := by
  funext asked
  by_cases same : asked = row.id
  · subst same
    rw [SessionLedger.put_self, ledger_of_some (AList.lookup_insert _)]
  · rw [SessionLedger.put_other same, ledger, ledger, write, AList.lookup_insert_ne same]

/-- An update that matches a row revokes its session. -/
theorem revokeWhere_eq_some {condition : DeviceSessionRow → Bool}
    (updated : table.revokeWhere now id condition = some after) :
    ∃ row, table.rows.lookup id = some row ∧ condition row = true ∧
      after.ledger = table.ledger.revoke id ⟨row.refreshTokenHash, row.revokedAt.isSome⟩ := by
  rw [revokeWhere] at updated
  split at updated
  · rename_i row found
    split at updated
    · rename_i meets
      cases updated
      refine ⟨row, found, meets, ?_⟩
      rw [ledger_write, table.keyed id row found]
      rfl
    · cases updated
  · cases updated

theorem insertRow_eq_some (inserted : table.insertRow row = some after) :
    after.ledger = table.ledger.put row.id ⟨row.refreshTokenHash, row.revokedAt.isSome⟩ := by
  rw [insertRow] at inserted
  split at inserted
  · cases inserted
  · cases inserted
    exact ledger_write _ _

end DeviceSessions

theorem ensureSessionActivePg_live {table : DeviceSessions} {claims : Claims}
    (active : ensureSessionActivePg table claims = .ok ()) :
    ∃ entry, table.ledger claims.sessionId = some entry ∧ entry.revoked = false := by
  rw [ensureSessionActivePg] at active
  split at active
  · rename_i row found
    split at active
    · rename_i passes
      refine ⟨_, DeviceSessions.ledger_of_some found, ?_⟩
      simp only [Bool.and_eq_true, Option.isNone_iff_eq_none] at passes
      rw [passes.2]
      rfl
    · cases active
  · cases active

theorem logoutPg_step (table : DeviceSessions) (auth : AuthUser) :
    SessionStep setting name table.ledger (.leaving auth) (logoutPg now table auth).store.ledger
      (logoutPg now table auth).phase (logoutPg now table auth).events := by
  simp only [logoutPg]
  split
  · rename_i after updated
    obtain ⟨row, found, -, ledgerAfter⟩ := DeviceSessions.revokeWhere_eq_some updated
    simp only
    rw [ledgerAfter]
    exact SessionStep.revoke (DeviceSessions.ledger_of_some found) (Or.inl rfl) trivial
  · exact SessionStep.quiet (fun _ => trivial) fun _ => trivial

theorem issueTokensPg_step (table : DeviceSessions) (userId deviceId : String) :
    SessionStep setting name table.ledger (.issuing userId deviceId)
      (issueTokensPg setting name now table userId deviceId).store.ledger
      (issueTokensPg setting name now table userId deviceId).phase
      (issueTokensPg setting name now table userId deviceId).events := by
  simp only [issueTokensPg]
  split
  · exact sessionStep_refuse
  · rename_i tokens built
    split
    · exact sessionStep_refuse
    · rename_i after inserted
      simp only
      rw [DeviceSessions.insertRow_eq_some inserted]
      exact SessionStep.issue (buildTokenResponse_built built)

/-- The row that is selected is one of the table, and has the hash asked for. -/
theorem rotateSelectPg_step (table : DeviceSessions) (refreshToken : String) :
    SessionStep setting name table.ledger (.rotating refreshToken)
      (rotateSelectPg setting now table refreshToken).store.ledger
      (rotateSelectPg setting now table refreshToken).phase
      (rotateSelectPg setting now table refreshToken).events := by
  rw [rotateSelectPg]
  split
  · exact sessionStep_refuse
  · rename_i row selected
    have hash := List.find?_some selected
    obtain ⟨id, found⟩ := KeyMap.mem_values_iff.mp (List.mem_of_find?_eq_some selected)
    have sameId : row.id = id := table.keyed id row found
    split
    · exact sessionStep_refuse
    · split
      · refine SessionStep.quiet (fun done => done.elim) fun _ => ?_
        refine ⟨_, (congrArg table.ledger sameId).trans (DeviceSessions.ledger_of_some found), ?_⟩
        exact eq_of_beq hash
      · exact SessionStep.quiet (fun done => done.elim) fun _ => trivial

theorem rotateExpirePg_step (table : DeviceSessions) (oldSessionId : String) :
    SessionStep setting name table.ledger (.expiring oldSessionId)
      (rotateExpirePg now table oldSessionId).store.ledger
      (rotateExpirePg now table oldSessionId).phase
      (rotateExpirePg now table oldSessionId).events := by
  rw [rotateExpirePg]
  split
  · rename_i after updated
    obtain ⟨row, found, -, ledgerAfter⟩ := DeviceSessions.revokeWhere_eq_some updated
    simp only
    rw [ledgerAfter]
    exact SessionStep.revoke (DeviceSessions.ledger_of_some found) (Or.inr rfl) trivial
  · exact sessionStep_refuse

theorem rotateClaimPg_step (table : DeviceSessions)
    (refreshToken oldSessionId userId deviceId : String) :
    SessionStep setting name table.ledger (.claiming refreshToken oldSessionId userId deviceId)
      (rotateClaimPg setting name now table refreshToken oldSessionId userId deviceId).store.ledger
      (rotateClaimPg setting name now table refreshToken oldSessionId userId deviceId).phase
      (rotateClaimPg setting name now table refreshToken oldSessionId userId deviceId).events := by
  simp only [rotateClaimPg]
  split
  · exact sessionStep_refuse
  · rename_i tokens built
    split
    · exact sessionStep_refuse
    · rename_i claimed updated
      obtain ⟨row, found, meets, ledgerClaimed⟩ := DeviceSessions.revokeWhere_eq_some updated
      split
      · exact sessionStep_refuse
      · rename_i after inserted
        have live : row.revokedAt.isSome = false := by
          rw [Bool.and_eq_true, Option.isNone_iff_eq_none] at meets
          rw [meets.1, Option.isSome_none]
        simp only
        rw [DeviceSessions.insertRow_eq_some inserted, ledgerClaimed]
        exact SessionStep.rotate (DeviceSessions.ledger_of_some found) live
          (buildTokenResponse_built built)

theorem advancePg_moves : MovesLedger setting (advancePg setting) DeviceSessions.ledger := by
  intro name now table phase
  cases phase with
  | issuing userId deviceId => exact issueTokensPg_step table userId deviceId
  | rotating refreshToken => exact rotateSelectPg_step table refreshToken
  | expiring oldSessionId => exact rotateExpirePg_step table oldSessionId
  | claiming refreshToken oldSessionId userId deviceId =>
    exact rotateClaimPg_step table refreshToken oldSessionId userId deviceId
  | authorizing accessToken leaves =>
    simp only [advancePg]
    split
    · exact sessionStep_refuse
    · rename_i claims decoded
      exact sessionStep_authorized (decodeAccessToken_read decoded) ensureSessionActivePg_live
  | leaving auth => exact logoutPg_step table auth
  | answering answer => exact SessionStep.quiet (fun _ => trivial) fun _ => trivial
  | idle => exact SessionStep.quiet id id
  | finished answer => exact SessionStep.quiet id id

/-! ### Whole runs -/

variable [DecidableEq Name]

theorem sessionSafe_of_moves {Store : Type} {store : Store} {view : Store → SessionLedger}
    {advanceOf : Name → Nat → Store → AuthPhase → AuthMove Store}
    (moves : MovesLedger setting advanceOf view) (empty : ∀ id, view store id = none)
    (actions : List (AuthAction Name)) : SessionSafe (sessionTrace advanceOf store actions) :=
  sessionSafe_of_guarded (sessionTrace_sound moves empty actions)
    (sessionTrace_guarded moves empty actions)

variable (setting) in
/-- Whatever requests arrive and in whatever order they take their steps, every refresh token is
exchanged at most once, and a session that logout has revoked is never accepted again. -/
theorem sessions_safe (actions : List (AuthAction Name)) :
    SessionSafe (sessionTrace (advanceMem setting) MemorySessions.empty actions) ∧
      SessionSafe (sessionTrace (advancePg setting) DeviceSessions.empty actions) := by
  constructor
  · exact sessionSafe_of_moves advanceMem_moves (fun id => rfl) actions
  · exact sessionSafe_of_moves advancePg_moves (fun id => rfl) actions

/-- Requests with ids and tokens of their own, an access token that shows its session, and no
hashing. -/
def plainSetting : AuthSetting (Fin 4) Unit where
  encode := fun _ claims =>
    if claims = ⟨"user", claims.sessionId, "phone", 1, 900⟩ then some claims.sessionId else none
  decode := fun _ _ access => some ⟨"user", access, "phone", 1, 900⟩
  decode_encode := by
    intro key other claims access now decoded encoded read
    split at encoded
    · rename_i plain
      cases encoded
      rw [plain]
      exact (Option.some.inj read).symm
    · cases encoded
  jwtEncodingKey := ()
  jwtDecodingKey := ()
  jwtPreviousDecodingKey := none
  newSessionId := ![ "first", "second", "third", "fourth"]
  newSessionId_injective := by decide
  randomToken := fun name => String.ofList (List.replicate 64 (![ 'a', 'b', 'c', 'd'] name))
  randomToken_injective := by decide
  hashToken := id
  hashToken_injective := Function.injective_id

-- Two refreshes have both selected the session before either claims it; one gets it.
open AuthAction in
example :
    sessionTrace (advancePg plainSetting) DeviceSessions.empty
        [arrive 0 (.login "user" "phone"), advance 0,
          arrive 1 (.refresh (plainSetting.randomToken 0)), advance 1,
          arrive 2 (.refresh (plainSetting.randomToken 0)), advance 2, advance 2, advance 1,
          arrive 3 (.logout "third"), advance 3, advance 3] =
      [.issued "first" (plainSetting.randomToken 0) "first",
        .exchanged (plainSetting.randomToken 0) "first",
        .issued "third" (plainSetting.randomToken 2) "third", .accepted "third" "third",
        .loggedOut "third"] := by
  decide +kernel

end Backends

end Ledgerly
