import EnterpriseAuth.Guarantees.Logout

/-!
# The life of a session row

A row is either active or carries the instant and the reason of its end.  From one step to the next
its identity, its beginning and its absolute expiry stay, its activity only moves forward, its
refresh token moves only by a refresh of the session, and once it has ended nothing changes any more.
-/

namespace EnterpriseAuth

open Effects Program SessionService

variable {T : Type}

/-! ## Rows -/

section
variable [LinearOrder T]

structure Session.WellFormed (session : Session T) (now : T) : Prop where
  active_iff : session.isActive = true ↔ session.logoutAt = none
  reason_iff : session.logoutAt = none ↔ session.logoutReason = none
  begun : session.loginAt ≤ session.lastActivityAt
  past : session.lastActivityAt ≤ now

/-- How a row may differ one step later; `refreshed` says that its refresh token was exchanged. -/
structure Session.Succeeds (refreshed : Prop) (before after : Session T) : Prop where
  sessionUuid : after.sessionUuid = before.sessionUuid
  userId : after.userId = before.userId
  loginAt : after.loginAt = before.loginAt
  expiresAt : after.expiresAt = before.expiresAt
  refreshTokenId : after.refreshTokenId ≠ before.refreshTokenId → refreshed
  activity : before.lastActivityAt ≤ after.lastActivityAt
  frozen : before.isActive = false → after = before

theorem Session.Succeeds.refl (refreshed : Prop) (row : Session T) : row.Succeeds refreshed row :=
  ⟨rfl, rfl, rfl, rfl, fun different => absurd rfl different, le_rfl, fun _ => rfl⟩

theorem Session.Succeeds.trans {refreshed : Prop} {first second third : Session T}
    (left : first.Succeeds refreshed second) (right : second.Succeeds refreshed third) :
    first.Succeeds refreshed third where
  sessionUuid := right.sessionUuid.trans left.sessionUuid
  userId := right.userId.trans left.userId
  loginAt := right.loginAt.trans left.loginAt
  expiresAt := right.expiresAt.trans left.expiresAt
  refreshTokenId different := by
    by_cases same : second.refreshTokenId = first.refreshTokenId
    · exact right.refreshTokenId fun equal => different (equal.trans same)
    · exact left.refreshTokenId same
  activity := left.activity.trans right.activity
  frozen inactive := by
    have same := left.frozen inactive
    subst same
    exact right.frozen inactive

theorem Session.Succeeds.ended {row : Session T} (active : row.isActive = true) (now : T)
    (reason : String) (refreshed : Prop) : row.Succeeds refreshed (ended now reason row) :=
  ⟨rfl, rfl, rfl, rfl, fun different => absurd rfl different, le_rfl,
    fun inactive => by rw [active] at inactive; cases inactive⟩

namespace Session.WellFormed

variable {row : Session T} {now : T}

theorem later (wellFormed : row.WellFormed now) {instant : T} (order : now ≤ instant) :
    row.WellFormed instant :=
  { wellFormed with past := wellFormed.past.trans order }

theorem of_begins (begins : row.Begins now) : row.WellFormed now where
  active_iff := by simp [begins.active, begins.logoutAt]
  reason_iff := by simp [begins.logoutAt, begins.logoutReason]
  begun := by rw [begins.loginAt, begins.lastActivityAt]
  past := begins.lastActivityAt.le

theorem touched (wellFormed : row.WellFormed now) : (touched now row).WellFormed now :=
  ⟨wellFormed.active_iff, wellFormed.reason_iff, wellFormed.begun.trans wellFormed.past, le_rfl⟩

theorem rebound (wellFormed : row.WellFormed now) (jti : Uuid) :
    (rebound now jti row).WellFormed now :=
  ⟨wellFormed.active_iff, wellFormed.reason_iff, wellFormed.begun.trans wellFormed.past, le_rfl⟩

theorem ended (wellFormed : row.WellFormed now) (reason : String) :
    (ended now reason row).WellFormed now where
  active_iff := by simp [SessionService.ended]
  reason_iff := by simp [SessionService.ended]
  begun := wellFormed.begun
  past := wellFormed.past

theorem succeeds_touched (wellFormed : row.WellFormed now) (active : row.isActive = true)
    (refreshed : Prop) : row.Succeeds refreshed (SessionService.touched now row) :=
  ⟨rfl, rfl, rfl, rfl, fun different => absurd rfl different, wellFormed.past,
    fun inactive => by rw [active] at inactive; cases inactive⟩

theorem succeeds_rebound (wellFormed : row.WellFormed now) (active : row.isActive = true)
    (jti : Uuid) {refreshed : Prop} (exchanged : refreshed) :
    row.Succeeds refreshed (SessionService.rebound now jti row) :=
  ⟨rfl, rfl, rfl, rfl, fun _ => exchanged, wellFormed.past,
    fun inactive => by rw [active] at inactive; cases inactive⟩

end Session.WellFormed

/-! ## Tables -/

/-- The rows of a table are well formed, and those of the base table have gone on in it.  The tokens
of the sessions in `refreshed` were exchanged. -/
structure Lives (now : T) (refreshed : Uuid → Prop) (base table : Table (Session.sessionUuid (T := T))) :
    Prop where
  wellFormed : ∀ sid row, table.find sid = some row → row.WellFormed now
  succeeds : ∀ sid row, base.find sid = some row →
    ∃ row', table.find sid = some row' ∧ row.Succeeds (refreshed sid) row'

namespace Lives

variable {now : T} {refreshed : Uuid → Prop} {base table : Table (Session.sessionUuid (T := T))}

theorem refl (wellFormed : ∀ sid row, base.find sid = some row → row.WellFormed now) :
    Lives now refreshed base base :=
  ⟨wellFormed, fun _ row found => ⟨row, found, .refl _ row⟩⟩

/-- One row changes. -/
theorem modify (lives : Lives now refreshed base table) {row : Session T}
    (found : table.find row.sessionUuid = some row) (change : Session T → Session T)
    (keeps : ∀ row, (change row).sessionUuid = row.sessionUuid)
    (wellFormed : (change row).WellFormed now)
    (succeeds : row.Succeeds (refreshed row.sessionUuid) (change row)) :
    Lives now refreshed base (table.modify row.sessionUuid change keeps) := by
  constructor
  · intro sid stored foundStored
    rw [Table.find_modify] at foundStored
    split at foundStored
    next here =>
      subst here
      rw [found] at foundStored
      cases foundStored
      exact wellFormed
    next => exact lives.wellFormed sid stored foundStored
  · intro sid first foundFirst
    obtain ⟨second, foundSecond, soFar⟩ := lives.succeeds sid first foundFirst
    rw [Table.find_modify]
    split
    next here =>
      subst here
      obtain rfl : row = second := Option.some.inj (found.symm.trans foundSecond)
      exact ⟨change row, by rw [foundSecond]; rfl, soFar.trans succeeds⟩
    next => exact ⟨second, foundSecond, soFar⟩

theorem insert (lives : Lives now refreshed base table)
    {extended : Table (Session.sessionUuid (T := T))} {added : Session T}
    (inserted : table.insert added = some extended) (begins : added.Begins now) :
    Lives now refreshed base extended := by
  constructor
  · intro sid stored found
    rw [Table.find_insert inserted] at found
    split at found
    · cases found
      exact .of_begins begins
    · exact lives.wellFormed sid stored found
  · intro sid first foundFirst
    obtain ⟨second, foundSecond, soFar⟩ := lives.succeeds sid first foundFirst
    exact ⟨second, Table.find_insert_of_found inserted foundSecond, soFar⟩

end Lives

/-! ## One request -/

/-- Both the committed and the working rows have gone on from those of the base table. -/
structure Server.Lives (server : Server T) (refreshed : Uuid → Prop)
    (base : Table (Session.sessionUuid (T := T))) : Prop where
  working : EnterpriseAuth.Lives server.clock refreshed base server.working.sessions
  committed : EnterpriseAuth.Lives server.clock refreshed base server.committed.sessions

end

section
variable [CommRing T] [LinearOrder T] {env : Environment T} {refreshed : Uuid → Prop}
  {base : Table (Session.sessionUuid (T := T))}

theorem Effect.lives {permits : Permits T} {before after : Server T}
    (lives : before.Lives refreshed base) (effect : Effect env permits before after) :
    after.Lives refreshed base := by
  cases effect with
  | aside aside =>
    constructor
    · rw [show after.working.sessions = before.working.sessions from aside.working, aside.clock]
      exact lives.working
    · rw [aside.committed, aside.clock]
      exact lives.committed
  | commit => exact ⟨lives.working, lives.working⟩
  | @touch row found active =>
    have wellFormed := lives.working.wellFormed _ row found
    exact ⟨lives.working.modify found (touched before.clock) (fun _ => rfl) wellFormed.touched
      (wellFormed.succeeds_touched active _), lives.committed⟩
  | @finish row reason found active =>
    have wellFormed := lives.working.wellFormed _ row found
    exact ⟨lives.working.modify found (ended before.clock reason) (fun _ => rfl)
      (wellFormed.ended reason) (.ended active _ reason _), lives.committed⟩
  | retire => exact ⟨lives.working, lives.committed⟩
  | blacklist => exact ⟨lives.working, lives.committed⟩
  | create _ _ begins inserted => exact ⟨lives.working.insert inserted begins, lives.committed⟩

theorem Follows.lives {permits : Permits T} {before after : Server T}
    (follows : Follows env permits before after) (lives : before.Lives refreshed base) :
    after.Lives refreshed base :=
  follows.invariant (fun server => server.Lives refreshed base) lives fun _ _ => Effect.lives

variable [FloorRing T]

theorem Server.Lives.rotated {start : Server T} (lives : start.Lives refreshed base)
    (claims : Claims) : (start.rotated claims).Lives refreshed base := by
  constructor
  · rw [rotated_clock, rotated_working]
    exact lives.working
  · rw [rotated_clock, rotated_committed]
    exact lives.committed

omit [FloorRing T] in
/-- The row of a replayed token ends once, if it was still active. -/
theorem Server.Lives.afterReplay {start : Server T} (lives : start.Lives refreshed base)
    (claims : Claims) : (start.afterReplay env claims).Lives refreshed base := by
  obtain same | ⟨row, -, held, same⟩ := afterReplay_cases env start claims
  · rw [same]
    exact lives
  · have revoked : Follows env ⟨fun _ => False, fun _ => True, fun _ => False⟩ start
        (start.revoke env row "refresh_replay") :=
      follows_revoke "refresh_replay" held.1 held.2 trivial
    rw [same]
    exact (revoked.tail (.commit _)).lives lives

/-- The refresh token of a session moves only in a refresh that is answered. -/
theorem RefreshOutcome.lives {start final : Server T} {request : HttpRequest}
    {result : Except AppError (Reply T)} (outcome : RefreshOutcome env start request result final)
    (lives : start.Lives refreshed base)
    (exchanged : ∀ claims sid csrf pair, request.refreshToken = some (.signed claims) →
      claims.sid = some sid → result = .ok (.refreshed csrf pair) → refreshed sid) :
    final.Lives refreshed base := by
  cases outcome with
  | refused => exact lives
  | replayed => exact lives.afterReplay _
  | unbound => exact lives.rotated _
  | sessionless =>
    obtain ⟨working, committed⟩ := lives.rotated _
    exact ⟨working, committed⟩
  | @rebound claims sid row presented _ _ session found active _ csrf =>
    cases Table.find_key found
    have wellFormed := lives.working.wellFormed _ row found
    have moved := lives.working.modify found
      (SessionService.rebound start.clock (start.draws + 1)) (fun _ => rfl)
      (wellFormed.rebound _)
      (wellFormed.succeeds_rebound active _ (exchanged claims _ csrf _ presented session rfl))
    rw [← rotated_working start claims] at moved
    exact ⟨(rotated_clock start claims).symm ▸ moved, (lives.rotated claims).committed⟩

/-! ## Runs -/

variable (env) in
/-- The event is a refresh of the session that was answered with a new pair. -/
def World.Refreshes (world : World T) (event : Event T) (sid : Uuid) : Prop :=
  ∃ arrival claims csrf pair, event = .request arrival ∧ arrival.route = .refresh ∧
    arrival.http.refreshToken = some (.signed claims) ∧ claims.sid = some sid ∧
    (world.exchange env arrival).reply = .ok (.refreshed csrf pair)

/-- All stored sessions are well formed. -/
def World.SessionsWellFormed (world : World T) : Prop :=
  ∀ sid row, world.db.sessions.find sid = some row → row.WellFormed world.clock

variable {world : World T} {arrival : Arrival}

theorem Served.lives {result : Except AppError (Reply T)} {after : Server T}
    (served : Served env world arrival result after) (wellFormed : world.SessionsWellFormed)
    (exchanged : ∀ claims sid csrf pair, arrival.route = .refresh →
      arrival.http.refreshToken = some (.signed claims) → claims.sid = some sid →
      result = .ok (.refreshed csrf pair) → refreshed sid) :
    Lives after.clock refreshed world.db.sessions after.committed.sessions := by
  have start {limited : Server T} (aside : Aside .reads world.server limited) :
      limited.Lives refreshed world.db.sessions := by
    have lives : EnterpriseAuth.Lives _ refreshed _ _ := .refl wellFormed
    constructor
    · rw [show limited.working = world.db from aside.working, aside.clock]
      exact lives
    · rw [aside.committed, aside.clock]
      exact lives
  cases served with
  | refused aside _ => exact (start aside).committed
  | failed passes _ follows => exact (follows.lives (start passes.aside)).committed
  | answered passes _ follows _ => exact (follows.lives (start passes.aside)).working
  | refreshFailed passes isRefresh outcome =>
    exact (outcome.lives (start passes.aside) fun claims sid csrf pair => exchanged claims sid csrf pair
      isRefresh).committed
  | refreshAnswered passes isRefresh outcome =>
    exact (outcome.lives (start passes.aside) fun claims sid csrf pair => exchanged claims sid csrf pair
      isRefresh).working

theorem World.Step.lives {event : Event T} {after : World T}
    (step : World.Step env world event after) (wellFormed : world.SessionsWellFormed) :
    Lives after.clock (world.Refreshes env event) world.db.sessions after.db.sessions := by
  cases step with
  | tick later => exact .refl fun sid row found => (wellFormed sid row found).later later
  | @request arrival owned =>
    refine (served env world arrival).lives wellFormed ?_
    intro claims sid csrf pair isRefresh presented session answered
    exact ⟨arrival, claims, csrf, pair, rfl, isRefresh, presented, session, answered⟩
  | setUserActive => exact .refl wellFormed

theorem sessionsWellFormed_of_reachable (reachable : (service env).Reachable world) :
    world.SessionsWellFormed := by
  refine System.Reachable.invariant World.SessionsWellFormed reachable ?_ ?_
  · intro first starts sid row found
    rw [starts.noSessions] at found
    cases found
  · exact fun before event after _ wellFormed step => (World.Step.lives step wellFormed).wellFormed

/-- Every stored session is active exactly while it has no end, and every step takes it to a row
with the same identity, the same beginning and, once ended, the same contents altogether. -/
theorem session_lifecycle (reachable : (service env).Reachable world) :
    world.SessionsWellFormed ∧
      ∀ event after, World.Step env world event after →
        ∀ sid row, world.db.sessions.find sid = some row →
          ∃ row', after.db.sessions.find sid = some row' ∧
            row.Succeeds (world.Refreshes env event sid) row' :=
  have wellFormed := sessionsWellFormed_of_reachable reachable
  ⟨wellFormed, fun _ _ step => (World.Step.lives step wellFormed).succeeds⟩

/-- Alice's session, and what her logout makes of it. -/
theorem session_lifecycle_of_alice :
    aliceRegistered.SessionsWellFormed ∧
      ∀ row, aliceRegistered.db.sessions.find 2 = some row →
        ∃ row', (aliceRegistered.afterRequest demo (logoutWith aliceRefresh)).db.sessions.find 2 =
          some row' ∧
          row.Succeeds (aliceRegistered.Refreshes demo (.request (logoutWith aliceRefresh)) 2) row' := by
  obtain ⟨wellFormed, succeeds⟩ := session_lifecycle reachable_aliceRegistered
  exact ⟨wellFormed, succeeds _ _ (.request (by decide +kernel)) 2⟩

end

end EnterpriseAuth
