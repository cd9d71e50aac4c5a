import EnterpriseAuth.Requests.Admission
import EnterpriseAuth.Requests.Keys
import EnterpriseAuth.Requests.Validation

/-!
# The activity of a session

`_touch` writes the instant of a request to the row of its session and sets a marker in Redis, which
stands for the write until it lapses.  No other function sets a marker.  The row belongs to the
transaction of the request, and the marker does not.
-/

namespace EnterpriseAuth

open Effects Program SessionService

-- an instance is found along the whole syntax of a handler
set_option synthInstance.maxSize 1000

variable {T : Type} {env : Environment T}

/-! ## Markers -/

/-- The command sets no touch marker. -/
def Command.Unmarks : Command T → Prop
  | .redis (.delete _) => True
  | .redis command => ∀ sid, command.key ≠ .sessionTouch sid
  | _ => True

theorem unmarks_of_key {command : RedisCommand} (other : ∀ sid, command.key ≠ .sessionTouch sid) :
    (Command.redis (T := T) command).Unmarks := by
  cases command with
  | delete => trivial
  | present | get | set | incr | expire => exact other

instance : Liberal (T := T) Command.Unmarks where
  admits command other _ := by
    cases command with
    | redis sent => exact absurd rfl (other sent)
    | now | draw | view | write | commit | addTask => trivial

instance (key : Key) : Admits (T := T) Command.Unmarks (.redis (.delete key)) := ⟨trivial⟩

theorem opens_unmarks {key : Key} (other : ∀ sid, key ≠ .sessionTouch sid) :
    Opens (T := T) Command.Unmarks key where
  opens command isKey := by
    apply unmarks_of_key
    rwa [isKey]

instance (jti : Uuid) : Opens (T := T) Command.Unmarks (.revokedJti jti) := opens_unmarks (by simp)
instance (sid : Uuid) : Opens (T := T) Command.Unmarks (.sessionRevoked sid) := opens_unmarks (by simp)
instance (sid : Uuid) : Opens (T := T) Command.Unmarks (.sessionActive sid) := opens_unmarks (by simp)
instance (key : String) : Opens (T := T) Command.Unmarks (.rateLimit key) := opens_unmarks (by simp)
instance (subject : String) : Opens (T := T) Command.Unmarks (.lockout subject) :=
  opens_unmarks (by simp)
instance (subject : String) : Opens (T := T) Command.Unmarks (.failcount subject) :=
  opens_unmarks (by simp)
instance (userId : Uuid) (otp : String) : Opens (T := T) Command.Unmarks (.otpUsed userId otp) :=
  opens_unmarks (by simp)
instance (state : String) : Opens (T := T) Command.Unmarks (.oauthState state) :=
  opens_unmarks (by simp)

/-- Every touch marker of the second server is one of the first. -/
def Server.MarkersFrom (before after : Server T) : Prop :=
  ∀ sid entry, after.redis (.sessionTouch sid) = some entry →
    before.redis (.sessionTouch sid) = some entry

theorem Server.MarkersFrom.trans {first second third : Server T} (left : first.MarkersFrom second)
    (right : second.MarkersFrom third) : first.MarkersFrom third := by
  intro sid entry stored
  exact left sid entry (right sid entry stored)

section
variable [CommRing T] [LinearOrder T]

theorem Command.Unmarks.step {command : Command T} (unmarks : command.Unmarks) (server : Server T) :
    server.MarkersFrom (handle command server).2 := by
  intro sid entry stored
  cases command with
  | redis command =>
    have untouched (other : command.writes ≠ some (.sessionTouch sid)) :
        server.redis (.sessionTouch sid) = some entry := by
      rw [← RedisCommand.execute_other other server.clock server.redis]
      exact stored
    cases command with
    | delete key =>
      by_cases same : key = .sessionTouch sid
      · subst same
        simp [handle, RedisCommand.execute, ExpiringStore.remove] at stored
      · apply untouched
        simpa [RedisCommand.writes] using same
    | present | get =>
      apply untouched
      simp [RedisCommand.writes]
    | set key | incr key | expire key =>
      apply untouched
      simpa [RedisCommand.writes, RedisCommand.key] using unmarks sid
  | write change =>
    simp only [handle] at stored
    split at stored <;> exact stored
  | now | draw | view | commit | addTask => exact stored

theorem markers_of_calls {α : Type} (program : App T α) [calls : Calls Command.Unmarks program]
    (server : Server T) : server.MarkersFrom (program.run handle server).2 := by
  have keeps : Keeps handle (server.MarkersFrom ·) program := by
    apply calls.every.keeps
    intro command state unmarks from'
    exact from'.trans (unmarks.step state)
  exact keeps.final fun _ _ => id

/-! ### Routes that set none -/

section
open OAuthService
variable (registry : String → Option Provider) (request : HttpRequest)

omit [CommRing T] [LinearOrder T] in
variable (env) in
theorem unmarks_startAuthorization (provider : String) (mode : OAuthMode)
    (linkUserId : Option Uuid) :
    Calls Command.Unmarks (startAuthorization env registry provider mode linkUserId) := by
  unfold startAuthorization
  infer_instance

theorem unmarks_oauthCallback [FloorRing T] (provider code state : String) :
    Calls Command.Unmarks (oauthCallback env registry request provider code state) := by
  have popped : Calls Command.Unmarks (popState state provider : App T OAuthState) := by
    unfold popState
    refine Calls.sequence fun found => ?_
    split <;> infer_instance
  unfold oauthCallback handleCallback
  infer_instance

variable (env) in
/-- Behind the access token, only authentication sets a marker. -/
theorem unmarks_serveWithContext (context : AuthContext T) (route : ProtectedRoute) :
    Calls Command.Unmarks (serveWithContext env registry request context route) := by
  cases route with
  | oauthLink provider =>
    have starts := unmarks_startAuthorization env registry
    simp only [serveWithContext, oauthLink]
    infer_instance
  | _ => exact Calls.serveWithContext env registry request context _ (by simp)

variable (env) in
/-- No other route does. -/
theorem unmarks_dispatch [FloorRing T] {arrival : Arrival}
    (other : ∀ route, arrival.route ≠ .withAccess route) :
    Calls Command.Unmarks (dispatch env arrival) := by
  unfold dispatch
  cases routed : arrival.route with
  | withAccess route => exact absurd routed (other route)
  | refresh => exact Calls.refresh env arrival.http
  | logout => infer_instance
  | login route =>
    have served : Calls Command.Unmarks (serveLogin env arrival.registry arrival.http route) := by
      cases route with
      | oauthCallback => exact unmarks_oauthCallback arrival.registry arrival.http _ _ _
      | _ => exact Calls.serveLogin env arrival.registry arrival.http _ (by simp)
    infer_instance
  | openTo route =>
    have served : Calls Command.Unmarks (serveOpen env arrival.registry arrival.http route) := by
      cases route with
      | oauthAuthorize provider =>
        have starts := unmarks_startAuthorization env arrival.registry
        simp only [serveOpen, oauthAuthorize]
        infer_instance
      | _ => exact Calls.serveOpen env arrival.registry arrival.http _ (by simp)
    infer_instance

end

/-! ## Rows -/

/-- Every active row is as recent as a row of the base table under its key, or of this instant. -/
def ActiveFrom (now : T) (base table : Table (Session.sessionUuid (T := T))) : Prop :=
  ∀ sid row, table.find sid = some row → row.isActive = true →
    row.lastActivityAt = now ∨ ∃ old, base.find sid = some old ∧ old.isActive = true ∧
      old.lastActivityAt = row.lastActivityAt

namespace ActiveFrom

variable {now : T} {base table : Table (Session.sessionUuid (T := T))}

omit [CommRing T] [LinearOrder T] in
theorem refl (now : T) (base : Table (Session.sessionUuid (T := T))) : ActiveFrom now base base :=
  fun _ row found active => .inr ⟨row, found, active, rfl⟩

omit [CommRing T] [LinearOrder T] in
theorem modify (activeFrom : ActiveFrom now base table) (sid : Uuid) (change : Session T → Session T)
    (keeps : ∀ row, (change row).sessionUuid = row.sessionUuid)
    (changes : ∀ row : Session T, (change row).isActive = true → row.isActive = true ∧
      ((change row).lastActivityAt = now ∨ (change row).lastActivityAt = row.lastActivityAt)) :
    ActiveFrom now base (table.modify sid change keeps) := by
  intro other row found active
  rw [Table.find_modify] at found
  split at found
  · obtain ⟨old, stored, rfl⟩ := Option.map_eq_some_iff.mp found
    obtain ⟨wasActive, recent | same⟩ := changes old active
    · exact .inl recent
    · rw [same]
      exact activeFrom other old stored wasActive
  · exact activeFrom other row found active

omit [CommRing T] [LinearOrder T] in
theorem insert (activeFrom : ActiveFrom now base table) {added : Session T}
    {extended : Table (Session.sessionUuid (T := T))} (inserted : table.insert added = some extended)
    (recent : added.lastActivityAt = now) : ActiveFrom now base extended := by
  intro sid row found active
  rw [Table.find_insert inserted] at found
  split at found
  · cases found
    exact .inl recent
  · exact activeFrom sid row found active

omit [CommRing T] [LinearOrder T] in
theorem touch (activeFrom : ActiveFrom now base table) (sid : Uuid) :
    ActiveFrom now base (table.modify sid (touched now) fun _ => rfl) :=
  activeFrom.modify sid _ _ fun _ active => ⟨active, .inl rfl⟩

omit [CommRing T] [LinearOrder T] in
theorem rebind (activeFrom : ActiveFrom now base table) (sid jti : Uuid) :
    ActiveFrom now base (table.modify sid (rebound now jti) fun _ => rfl) :=
  activeFrom.modify sid _ _ fun _ active => ⟨active, .inl rfl⟩

omit [CommRing T] [LinearOrder T] in
theorem finish (activeFrom : ActiveFrom now base table) (sid : Uuid) (instant : T)
    (reason : String) :
    ActiveFrom now base (table.modify sid (ended instant reason) fun _ => rfl) := by
  apply activeFrom.modify
  intro row active
  simp [ended] at active

end ActiveFrom

/-- What a request does to the rows, committed or not, leaves the active ones as recent. -/
theorem Follows.activeFrom {permits : Permits T} {before after : Server T}
    (follows : Follows env permits before after) (same : before.committed = before.working) :
    ActiveFrom before.clock before.working.sessions after.working.sessions ∧
      ActiveFrom before.clock before.working.sessions after.committed.sessions := by
  have kept : after.clock = before.clock ∧
      ActiveFrom before.clock before.working.sessions after.working.sessions ∧
      ActiveFrom before.clock before.working.sessions after.committed.sessions := by
    refine follows.invariant (fun server => server.clock = before.clock ∧
      ActiveFrom before.clock before.working.sessions server.working.sessions ∧
      ActiveFrom before.clock before.working.sessions server.committed.sessions)
      ⟨rfl, .refl _ _, by rw [same]; exact .refl _ _⟩ ?_
    rintro first second ⟨clock, working, committed⟩ effect
    cases effect with
    | aside aside =>
      rw [show second.working.sessions = first.working.sessions from aside.working, aside.committed]
      exact ⟨aside.clock.trans clock, working, committed⟩
    | commit => exact ⟨clock, working, working⟩
    | touch =>
      refine ⟨clock, ?_, committed⟩
      rw [clock]
      exact working.touch _
    | finish reason => exact ⟨clock, working.finish _ _ reason, committed⟩
    | retire => exact ⟨clock, working, committed⟩
    | blacklist => exact ⟨clock, working, committed⟩
    | create _ _ begins inserted =>
      exact ⟨clock, working.insert inserted (begins.lastActivityAt.trans clock), committed⟩
  exact kept.2

variable [FloorRing T]

theorem RefreshOutcome.activeFrom {start final : Server T} {request : HttpRequest}
    {result : Except AppError (Reply T)} (outcome : RefreshOutcome env start request result final)
    (same : start.committed = start.working) :
    ActiveFrom start.clock start.working.sessions final.working.sessions ∧
      ActiveFrom start.clock start.working.sessions final.committed.sessions := by
  have begins : ActiveFrom start.clock start.working.sessions start.working.sessions := .refl _ _
  have rotated (claims : Claims) :
      ActiveFrom start.clock start.working.sessions (start.rotated claims).working.sessions ∧
        ActiveFrom start.clock start.working.sessions (start.rotated claims).committed.sessions := by
    rw [rotated_working, rotated_committed, same]
    exact ⟨begins, begins⟩
  cases outcome with
  | refused =>
    rw [same]
    exact ⟨begins, begins⟩
  | replayed =>
    obtain left | ⟨row, -, -, left⟩ := afterReplay_cases env start _
    · rw [left, same]
      exact ⟨begins, begins⟩
    · rw [left]
      exact ⟨begins.finish _ _ _, begins.finish _ _ _⟩
  | unbound => exact rotated _
  -- the new activity is written, but not yet committed
  | @rebound claims sid =>
    refine ⟨?_, ?_⟩
    · exact (rotated claims).1.rebind sid _
    · rw [followed_committed]
      exact same ▸ begins
  | sessionless => exact rotated _

/-- A request leaves the active sessions as recent as they were, or makes them so. -/
theorem Served.activeFrom {world : World T} {arrival : Arrival} {result : Except AppError (Reply T)}
    {after : Server T} (served : Served env world arrival result after) :
    ActiveFrom world.clock world.db.sessions after.committed.sessions := by
  have start {limited : Server T} (passes : world.Passes env arrival limited) :
      limited.committed = limited.working ∧ limited.working = world.db ∧
        limited.clock = world.clock :=
    ⟨passes.aside.committed.trans passes.aside.working.symm, passes.aside.working,
      passes.aside.clock⟩
  cases served with
  | refused aside _ =>
    rw [aside.committed]
    exact .refl _ _
  | failed passes _ follows =>
    obtain ⟨same, working, clock⟩ := start passes
    exact working ▸ clock ▸ (follows.activeFrom same).2
  | answered passes _ follows _ =>
    obtain ⟨same, working, clock⟩ := start passes
    exact working ▸ clock ▸ (follows.activeFrom same).1
  | refreshFailed passes _ outcome =>
    obtain ⟨same, working, clock⟩ := start passes
    exact working ▸ clock ▸ (outcome.activeFrom same).2
  | refreshAnswered passes _ outcome =>
    obtain ⟨same, working, clock⟩ := start passes
    exact working ▸ clock ▸ (outcome.activeFrom same).1

/-! ## Authentication -/

/-- The transaction has the activity of this instant in the row. -/
def Server.Recent (server : Server T) (sid : Uuid) (now : T) : Prop :=
  server.clock = now ∧
    ∀ row, server.working.sessions.find sid = some row → row.lastActivityAt = now

omit [LinearOrder T] [FloorRing T] in
theorem recent_revocation (sid : Uuid) (now : T) (reason : String) :
    RevocationKeeps env reason (fun _ => True) (Server.Recent · sid now) := by
  rintro server row ⟨clock, recent⟩ - -
  refine ⟨clock, fun stored found => ?_⟩
  have modified := found.symm.trans (Table.find_modify server.working.sessions row.sessionUuid sid
    (ended server.clock reason) fun _ => rfl)
  split at modified
  · obtain ⟨old, earlier, rfl⟩ := Option.map_eq_some_iff.mp modified.symm
    exact recent old earlier
  · exact recent stored modified.symm

omit [FloorRing T] in
theorem Follows.recent {permits : Permits T} {before after : Server T} {sid : Uuid} {now : T}
    (recent : before.Recent sid now) (follows : Follows env permits before after) :
    after.Recent sid now := by
  apply follows.invariant (Server.Recent · sid now) recent
  rintro first second ⟨clock, recent⟩ effect
  -- an update of a row under any key
  have modified {key : Uuid} {change : Session T → Session T} {keeps}
      (changes : ∀ row : Session T, row.lastActivityAt = now → (change row).lastActivityAt = now) :
      (first.changeSession key change keeps).Recent sid now := by
    refine ⟨clock, fun row found => ?_⟩
    rw [find_changeSession] at found
    split at found
    · obtain ⟨old, earlier, rfl⟩ := Option.map_eq_some_iff.mp found
      exact changes old (recent old earlier)
    · exact recent row found
  cases effect with
  | aside aside =>
    refine ⟨aside.clock.trans clock, ?_⟩
    rwa [show second.working.sessions = first.working.sessions from aside.working]
  | touch => exact modified fun _ _ => clock
  | finish => exact modified fun _ => id
  | create _ _ begins inserted =>
    refine ⟨clock, fun row found => ?_⟩
    have extended := found.symm.trans (Table.find_insert inserted sid)
    split at extended
    · cases extended
      exact begins.lastActivityAt.trans clock
    · exact recent row extended.symm
  | commit | retire | blacklist => exact ⟨clock, recent⟩

omit [FloorRing T] in
variable (env) in
theorem recent_serveWithContext (registry : String → Option Provider) (request : HttpRequest)
    {context : AuthContext T} (route : ProtectedRoute) {server : Server T} {sid : Uuid} {now : T}
    (recent : server.Recent sid now) (live : context.Live server) :
    ((serveWithContext env registry request context route).run handle server).2.Recent sid now := by
  have triple : Triple handle (fun server => server.Recent sid now ∧ context.Live server)
      (serveWithContext env registry request context route) (fun _ server => server.Recent sid now)
      fun _ server => server.Recent sid now :=
    triple_serveWithContext registry request (fun _ => id) (recent_revocation sid now) context
      (fun _ _ => trivial) route fun _ _ recent follows => Follows.recent recent follows
  have outcome := triple.outcome server ⟨recent, live⟩
  split at outcome
  next ran => rwa [ran]
  next ran => rwa [ran]

variable (env) in
/-- What a request to a route behind the access token passes before the session is validated. -/
def screening (request : HttpRequest) (route : ProtectedRoute) : App T Unit := do
  rateLimitMiddleware env request
  if route.csrfFirst then verifyCsrf request

variable (env) in
/-- What it passes before the body of the route. -/
def authentication (request : HttpRequest) (route : ProtectedRoute) : App T (AuthContext T) := do
  screening env request route
  getAuthContext env request

variable (env) in
/-- How authentication ends, and what it makes of the activity of the session. -/
inductive Authenticated (server : Server T) (request : HttpRequest) :
    Except AppError (AuthContext T) → Server T → Prop
  | refused {error : AppError} {final : Server T} (markers : server.MarkersFrom final) :
    Authenticated server request (.error error) final
  | sessionless {claims : Claims} {user : User T} {final : Server T}
    (presented : request.accessToken = some (.signed claims)) (unbound : claims.sid = none)
    (markers : server.MarkersFrom final) :
    Authenticated server request (.ok { user, session := none }) final
  | throttled {claims : Claims} {user : User T} {row : Session T} {final : Server T}
    (presented : request.accessToken = some (.signed claims))
    (session : claims.sid = some row.sessionUuid) (markers : server.MarkersFrom final)
    (marked : (server.redis.lookup server.clock (.sessionTouch row.sessionUuid)).isSome) :
    Authenticated server request (.ok { user, session := some row }) final
  | touched {claims : Claims} {user : User T} {row : Session T} {final : Server T}
    (presented : request.accessToken = some (.signed claims))
    (session : claims.sid = some row.sessionUuid)
    (unmarked : server.redis.lookup server.clock (.sessionTouch row.sessionUuid) = none)
    (markers : ∀ sid entry, final.redis (.sessionTouch sid) = some entry →
      server.redis (.sessionTouch sid) = some entry ∨ sid = row.sessionUuid ∧
        entry.deadline = some (server.clock + (env.settings.sessionActivityThrottleSeconds : ℕ)))
    (recent : final.Recent row.sessionUuid server.clock)
    (live : AuthContext.Live ⟨user, some row⟩ final) :
    Authenticated server request (.ok { user, session := some row }) final

omit [LinearOrder T] [FloorRing T] in
theorem touch_markers (server : Server T) (row : Session T) {sid : Uuid} {entry : Entry RedisValue T}
    (stored : (server.touch env row).redis (.sessionTouch sid) = some entry) :
    server.redis (.sessionTouch sid) = some entry ∨ sid = row.sessionUuid ∧
      entry.deadline = some (server.clock + (env.settings.sessionActivityThrottleSeconds : ℕ)) := by
  simp only [Server.touch, Server.setActive, Server.changeSession, Server.withSessions,
    ExpiringStore.put] at stored
  by_cases same : sid = row.sessionUuid
  · subst same
    simp at stored
    exact .inr ⟨rfl, by rw [← stored]⟩
  · left
    simpa [same] using stored

omit [LinearOrder T] [FloorRing T] in
theorem expire_markers (server : Server T) (row : Session T) (reason : String) :
    server.MarkersFrom (server.expire env row reason) := by
  intro sid entry stored
  simp only [Server.expire, Server.clearCache, Server.changeSession, Server.withSessions,
    ExpiringStore.put, ExpiringStore.remove] at stored
  by_cases same : sid = row.sessionUuid
  · subst same
    simp at stored
  · simpa [same] using stored

omit [FloorRing T] in
variable (env) in
theorem authenticated (server : Server T) (request : HttpRequest) (route : ProtectedRoute) :
    Authenticated env server request ((authentication env request route).run handle server).1
      ((authentication env request route).run handle server).2 := by
  have : ∀ key, Opens (T := T) (Command.Spares fun key => ∃ sid, key = .sessionTouch sid)
      (.rateLimit key) := fun key => opens_spares (by simp)
  -- what precedes authentication leaves the throttle markers alone
  have quiet : Calls (Command.Spares fun key => ∃ sid, key = .sessionTouch sid)
      (screening env request route) := by
    unfold screening
    infer_instance
  have reads : Within .reads (screening env request route) := by
    unfold screening
    infer_instance
  simp only [authentication, run_bind]
  cases screened : (screening env request route).run handle server with
  | mk result limited =>
    have spared (sid : Uuid) :
        limited.redis (.sessionTouch sid) = server.redis (.sessionTouch sid) := by
      have isMarker : ∃ other, Key.sessionTouch sid = .sessionTouch other := ⟨sid, rfl⟩
      have same := Calls.spared (fun key => ∃ sid, key = .sessionTouch sid)
        (screening env request route) isMarker server
      rwa [screened] at same
    have aside : Aside .reads server limited := Within.of_exact .reads screened
    have passed : server.MarkersFrom limited := by
      intro sid entry stored
      rwa [← spared]
    have lookup (sid : Uuid) : limited.redis.lookup limited.clock (.sessionTouch sid) =
        server.redis.lookup server.clock (.sessionTouch sid) := by
      rw [aside.clock, ExpiringStore.lookup_congr (spared sid)]
    cases result with
    | error error => exact .refused passed
    | ok =>
      have outcome := run_getAuthContext env limited request
      cases ran : (getAuthContext env request).run handle limited with
      | mk result final =>
        rw [ran] at outcome
        simp only [ran]
        cases outcome with
        | refused => exact .refused passed
        | sessionless presented unbound => exact .sessionless presented unbound passed
        | rejected presented live session found active outcome =>
          cases outcome with
          | refused => exact .refused passed
          | expired => exact .refused (passed.trans (expire_markers _ _ _))
        | @validated claims sid user row final presented live session found active outcome =>
          cases outcome with
          | throttled stored owner isActive recent marked =>
            cases Table.find_key stored
            rw [lookup] at marked
            exact .throttled presented session passed marked
          -- the one write of the marker, which comes with the write of last_activity_at
          | @touched row stored owner isActive recent unmarked =>
            cases Table.find_key stored
            rw [lookup, Bool.not_eq_true, Option.isSome_eq_false_iff, Option.isNone_iff_eq_none]
              at unmarked
            refine .touched presented session unmarked (fun sid entry isEntry => ?_) ?_ ?_
            · rw [← aside.clock]
              obtain old | new := touch_markers limited row isEntry
              · exact .inl (passed sid entry old)
              · exact .inr new
            · have touchedRow := find_changeSession limited row.sessionUuid row.sessionUuid
                (touched limited.clock) fun _ => rfl
              rw [if_pos rfl, stored] at touchedRow
              refine ⟨aside.clock, fun other isOther => ?_⟩
              cases isOther.symm.trans touchedRow
              exact aside.clock
            · intro session isSession
              cases isSession
              refine ⟨Server.Active.touch ⟨stored, isActive⟩, owner.trans ?_⟩
              exact (Table.find_key found).symm

end

end EnterpriseAuth
