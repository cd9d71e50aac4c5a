import EnterpriseAuth.Guarantees.Logout
import EnterpriseAuth.Requests.RevocationWindows

/-!
# The revocation flag of Redis

A flag says that its session has ended.  Ending a session on request sets the flag before the row is
committed, so a failure in between leaves the flag of a session that PostgreSQL still lists as
active.  Everything else keeps flags and rows together, wherever it fails: an expiry commits before
it sets the flag, and no other program sets one.
-/

namespace EnterpriseAuth

open Effects Program SessionService

set_option synthInstance.maxSize 1000

variable {T : Type} {env : Environment T} [CommRing T] [LinearOrder T]

/-! ## Routes that revoke nothing -/

/-- The routes that may revoke sessions: the logouts, and refresh when its token is replayed. -/
def Route.revokes : Route → Bool
  | .refresh | .logout => true
  | .withAccess route => route.endsSessions
  | .login _ | .openTo _ => false

section
variable (registry : String → Option Provider) (request : HttpRequest)

theorem stays_serveProtected {route : ProtectedRoute} (keeps : route.endsSessions = false) :
    Stays Logged.Settled (serveProtected env registry request route)
      fun _ => Logged.Settled := by
  have served : Stays Logged.Settled
      (getAuthContext env request >>= fun context =>
        serveWithContext env registry request context route) fun _ => Logged.Settled := by
    refine Triple.bind (stays_getAuthContext request) fun context => ?_
    have : Conducts .calm (serveWithContext env registry request context route) :=
      conducts_serveWithContext env registry request context (by simp [keeps]) (fun _ => trivial)
        fun _ => trivial
    exact (calm _).weaken (fun _ => And.left) (fun _ _ => id) fun _ _ => id
  exact Triple.ite (fun _ => Triple.bind (calm (verifyCsrf request)) fun _ => served) fun _ => served

/-! ## Routes that revoke -/

theorem survives_serveWithContext (context : AuthContext T) {route : ProtectedRoute}
    (ends : route.endsSessions = true) :
    Survives (fun logged => logged.Settled ∧ ∀ row, context.session = some row →
        logged.state.working.Holds row)
      (serveWithContext env registry request context route) fun _ => Logged.Tracked := by
  cases route with
  | logoutCurrent =>
    simp only [serveWithContext, logoutCurrent, getCurrentSession]
    cases current : context.session with
    | none => exact Triple.throw fun _ holds => .inl holds.1
    | some row =>
      simp only [Program.pure_bind]
      refine Triple.bind ((survives_revoke_held "logout").weaken (fun _ holds => ?_) (fun _ _ => id)
        fun _ _ => id) fun _ => Triple.pure fun _ => id
      exact ⟨holds.1, holds.2 row rfl⟩
  | logoutAll =>
    refine Triple.bind ((calm (getCurrentSession context)).survives.weaken (fun _ => And.left)
      (fun _ _ => id) fun _ _ => id) fun _ => ?_
    exact Triple.bind (survives_revokeAll context.user "logout_all") fun _ => Triple.pure fun _ => id
  | revokeSession sessionId =>
    refine Triple.bind ((survives_revokeByUuid context.user sessionId "revoked_by_user").weaken
      (fun _ => And.left) (fun _ _ => id) fun _ _ => id) fun _ => Triple.pure fun _ => id
  | _ => cases ends

theorem survives_serveProtected {route : ProtectedRoute} (ends : route.endsSessions = true) :
    Survives Logged.Settled (serveProtected env registry request route)
      fun _ => Logged.Tracked := by
  have served : Survives Logged.Settled
      (getAuthContext env request >>= fun context =>
        serveWithContext env registry request context route) fun _ => Logged.Tracked :=
    Triple.bind (stays_getAuthContext request).survives fun context =>
      survives_serveWithContext registry request context ends
  exact Triple.ite (fun _ => Triple.bind (calm (verifyCsrf request)).survives fun _ => served)
    fun _ => served

variable [FloorRing T]

omit [FloorRing T] in
/-- A replay is revoked and committed before the request is refused. -/
theorem survives_handleRefreshReplay (token : Token) :
    Survives Logged.Settled (handleRefreshReplay env token) fun _ => Logged.Settled := by
  simp only [handleRefreshReplay]
  refine Triple.bind (calm _).survives fun payload => ?_
  cases payload.bind (·.sid) with
  | none => exact Triple.pure fun _ => id
  | some sid =>
    refine Triple.bind (survives_revokeBySid sid "refresh_replay") fun revoked => ?_
    refine Triple.ite (fun _ => ?_) fun untouched => Triple.pure fun _ holds => holds.2 ?_
    · exact survives_commit.weaken (fun _ => And.left) (fun _ _ => id) fun _ _ => id
    · simpa using untouched

theorem survives_refresh :
    Survives Logged.Settled (refresh env request) fun _ => Logged.Tracked := by
  simp only [refresh]
  cases request.refreshToken with
  | none => exact Triple.throw fun _ => .inl
  | some token =>
    have rotated : Survives Logged.Settled
        (tryCatch (TokenService.rotate env token) fun error =>
          if error.kind = .tokenReplay then do
            handleRefreshReplay env token
            throw (.auth error.message)
          else throw error) fun _ => Logged.Settled := by
      refine Triple.tryCatch (calm (TokenService.rotate env token)) fun error => ?_
      refine Triple.ite (fun _ => ?_) fun _ => Triple.throw fun _ => .inl
      exact Triple.bind (survives_handleRefreshReplay token) fun _ => Triple.throw fun _ => .inl
    refine Triple.bind rotated fun result => ?_
    obtain ⟨userId, sid, pair, refreshJti⟩ := result
    have tracked (program : App T (Reply T)) [Conducts .calm program] :
        Survives Logged.Settled program fun _ => Logged.Tracked :=
      (calm program).survives.weaken (fun _ => id) (fun _ _ settled => settled.tracked) fun _ _ => id
    cases sid with
    | none => exact tracked _
    | some sid => exact tracked _

theorem survives_logoutToken (token : Token) :
    Survives Logged.Settled (logoutToken env token) fun _ => Logged.Tracked := by
  simp only [logoutToken]
  refine Triple.bind (calm (TokenService.verifyRefresh token)).survives fun payload =>
    Triple.bind (calm (TokenService.revoke payload)).survives fun _ => ?_
  cases payload.sid with
  | none => exact Triple.pure fun _ settled => settled.tracked
  | some sid =>
    refine Triple.bind stays_view.survives fun db => ?_
    cases found : db.sessions.find sid with
    | none => exact Triple.pure fun _ rests => rests.1.tracked
    | some row =>
      refine Triple.ite (fun active => ?_) fun _ => Triple.pure fun _ rests => rests.1.tracked
      refine (survives_revoke_held "logout").weaken ?_ (fun _ _ => id) fun _ _ => id
      rintro faulty ⟨settled, same⟩
      cases Table.find_key found
      exact ⟨settled, same ▸ ⟨found, active⟩⟩

theorem survives_logout :
    Survives Logged.Settled (logout env request) fun _ => Logged.Tracked := by
  simp only [logout]
  refine Triple.bind (calm (verifyCsrf request)).survives fun _ => ?_
  cases request.refreshToken with
  | none => exact Triple.pure fun _ settled => settled.tracked
  | some token =>
    refine Triple.bind (Triple.tryCatch (survives_logoutToken token) fun error => ?_) fun _ =>
      Triple.pure fun _ => id
    -- an error that is swallowed was raised before a window was open
    refine Triple.ite (fun swallowed => Triple.pure ?_) fun _ => Triple.throw fun _ => id
    rintro faulty (settled | ⟨other, -⟩)
    · exact settled.tracked
    · simp [swallowed] at other

/-! ## Requests -/

theorem stays_dispatch {arrival : Arrival} (keeps : arrival.route.revokes = false) :
    Stays Logged.Settled (dispatch env arrival) fun _ => Logged.Settled := by
  obtain ⟨http, route, providers⟩ := arrival
  cases route with
  | login route => exact calm (Reply.login <$> serveLogin env providers http route)
  | refresh | logout => cases keeps
  | openTo route => exact calm (Reply.page <$> serveOpen env providers http route)
  | withAccess route =>
    exact Triple.bind (stays_serveProtected providers http keeps) fun _ => Triple.pure fun _ => id

theorem survives_dispatch {arrival : Arrival} (revokes : arrival.route.revokes = true) :
    Survives Logged.Settled (dispatch env arrival) fun _ => Logged.Tracked := by
  obtain ⟨http, route, providers⟩ := arrival
  cases route with
  | login | openTo => cases revokes
  | refresh => exact survives_refresh http
  | logout => exact Triple.bind (survives_logout http) fun _ => Triple.pure fun _ => id
  | withAccess route =>
    exact Triple.bind (survives_serveProtected providers http revokes) fun _ => Triple.pure fun _ => id

/-- A request that revokes nothing may fail anywhere. -/
theorem stays_serve {arrival : Arrival} (keeps : arrival.route.revokes = false) :
    Stays Logged.Settled (serve env arrival) fun _ => Logged.Settled := by
  refine Triple.bind (calm (rateLimitMiddleware env arrival.http)) fun _ => ?_
  refine Triple.bind (stays_dispatch keeps) fun reply => ?_
  exact Triple.bind (calm commitAfterResponse) fun _ => Triple.pure fun _ => id

/-- Flags and rows agree in the end, or an operation failed in the window of a revocation. -/
def SettledOrStruck (faulty : Faulty (LoggedServer T)) : Prop :=
  faulty.state.Settled ∨ ∃ struck ∈ faulty.struck, exposed struck.log = true

theorem survives_serve {arrival : Arrival} (revokes : arrival.route.revokes = true) :
    Triple loggedFailing (fun faulty => faulty.state.Settled) (serve env arrival)
      (fun _ => SettledOrStruck) fun _ => SettledOrStruck := by
  have aborted (error : AppError) (faulty : Faulty (LoggedServer T))
      (aborted : Aborted error faulty) : SettledOrStruck faulty :=
    aborted.imp id And.right
  have commits : Triple loggedFailing (fun faulty => faulty.state.Tracked)
      (commitAfterResponse : App T Unit) (fun _ => SettledOrStruck) fun _ => SettledOrStruck := by
    have closes : Triple loggedFailing (fun faulty => faulty.state.Tracked) (commit : App T Unit)
        (fun _ => SettledOrStruck) fun _ => SettledOrStruck :=
      survives_commit.weaken (fun _ => id) (fun _ _ => .inl) aborted
    exact closes.tryCatch fun error => Triple.ite (fun _ => Triple.pure fun _ => id) fun _ =>
      Triple.throw fun _ => id
  refine Triple.bind ((calm (rateLimitMiddleware env arrival.http)).survives.weaken (fun _ => id)
    (fun _ _ => id) aborted) fun _ => ?_
  refine Triple.bind ((survives_dispatch revokes).weaken (fun _ => id) (fun _ _ => id) aborted)
    fun reply => ?_
  exact Triple.bind commits fun _ => Triple.pure fun _ => id

end

/-! ## Runs -/

section
variable [FloorRing T] {world : World T}

variable (env) in
/-- The run of a request together with the operations that take effect in it. -/
def World.loggedRun (world : World T) (arrival : Arrival) (plan : List Fate) :
    Except AppError (Reply T) × Faulty (LoggedServer T) :=
  (serve env arrival).run loggedFailing { state := { state := world.server }, plan }

variable (env) in
/-- No operation of a request that may revoke sessions fails while a flag is set behind a statement
that is not committed.  Elsewhere anything may fail. -/
def World.SparesRevocations (world : World T) : FailingEvent T → Prop
  | .request arrival plan => arrival.route.revokes = true →
      ∀ struck ∈ (world.loggedRun env arrival plan).2.struck, exposed struck.log = false
  | .tick _ | .setUserActive _ _ => True

variable (env) in
theorem afterFailing_logged (world : World T) (arrival : Arrival) (plan : List Fate) :
    (world.failingExchange env arrival plan).after =
      (world.loggedRun env arrival plan).2.state.state := by
  have plain := run_plain handle faultModel (serve env arrival)
    { state := { state := world.server }, plan }
  simp only [World.failingExchange, World.failingRun, failing, World.loggedRun]
  exact congrArg (fun ran => ran.2.state) plain

theorem agree_failingRun (agree : world.server.FlagsAgree) {arrival : Arrival} {plan : List Fate}
    (spares : world.SparesRevocations env (.request arrival plan)) :
    (world.afterFailing env arrival plan).server.FlagsAgree := by
  have start : ({ state := world.server } : LoggedServer T).Settled := ⟨agree, agree, .inl rfl⟩
  have settled : (world.loggedRun env arrival plan).2.state.Settled := by
    -- a route that revokes nothing keeps rows and flags in step under any fault
    cases revokes : arrival.route.revokes with
    | false =>
      have stays : Stays Logged.Settled (serve env arrival) fun _ => Logged.Settled :=
        stays_serve revokes
      have outcome := stays.outcome ⟨_, plan, []⟩ start
      simp only [World.loggedRun]
      split at outcome
      next ran => rw [ran]; exact outcome
      next ran => rw [ran]; exact outcome
    | true =>
      have survives : Triple loggedFailing (fun faulty => faulty.state.Settled) (serve env arrival)
          (fun _ => SettledOrStruck) fun _ => SettledOrStruck := survives_serve revokes
      have outcome := survives.outcome ⟨_, plan, []⟩ start
      have spared := spares revokes
      simp only [World.loggedRun] at spared ⊢
      split at outcome
      next ran =>
        rw [ran] at spared ⊢
        obtain settled | ⟨struck, member, window⟩ := outcome
        · exact settled
        · simp [spared struck member] at window
      next ran =>
        rw [ran] at spared ⊢
        obtain settled | ⟨struck, member, window⟩ := outcome
        · exact settled
        · simp [spared struck member] at window
  have same := afterFailing_logged env world arrival plan
  have agreeAfter := settled.agree
  rw [← same] at agreeAfter
  exact agreeAfter

theorem flagsAgree_of_reachable
    (reachable : ((failingService env).guarded (World.SparesRevocations env)).Reachable world) :
    world.server.FlagsAgree := by
  refine System.Reachable.invariant (fun world => world.server.FlagsAgree) reachable ?_ ?_
  · intro first starts sid flagged
    simp [Server.Flagged, World.server, starts.noRedis] at flagged
  · rintro before event after - agree ⟨spares, step⟩
    cases step with
    | tick later =>
      intro sid flagged
      obtain ⟨value, live⟩ := Option.isSome_iff_exists.mp flagged
      exact agree sid (Option.isSome_iff_exists.mpr ⟨value, ExpiringStore.lookup_earlier later live⟩)
    | request => exact agree_failingRun agree spares
    | setUserActive => exact agree

/-- In a run in which nothing fails between the flag of a revocation and its commit, every flag
stands for a session that has ended in the committed database.  Requests that revoke nothing may
fail anywhere. -/
theorem revocation_flags_agree
    (reachable : ((failingService env).guarded (World.SparesRevocations env)).Reachable world)
    {sid : Uuid} (flagged : (world.redis.lookup world.clock (.sessionRevoked sid)).isSome) :
    ∃ row, world.db.sessions.find sid = some row ∧ row.isActive = false :=
  flagsAgree_of_reachable reachable sid flagged

/-- Runs in which nothing fails spare all revocations. -/
theorem guarded_of_reachable (reachable : (service env).Reachable world) :
    ((failingService env).guarded (World.SparesRevocations env)).Reachable world := by
  refine guarded_of_faultless (fun world event faultless => ?_) reachable
  cases event with
  | tick | setUserActive => trivial
  | request arrival plan =>
    cases faultless
    simp [World.SparesRevocations, World.loggedRun, run_faulty_nil]

end

/-- Alice logs out while the rate limit cannot be counted. -/
theorem revocation_flag_of_alice_agrees :
    ∃ row, (aliceRegistered.afterFailing demo (logoutWith aliceRefresh) [.raises]).db.sessions.find 2 =
      some row ∧ row.isActive = false := by
  have registered : ((failingService demo).guarded (World.SparesRevocations demo)).Reachable
      aliceRegistered := guarded_of_reachable reachable_aliceRegistered
  have spares : aliceRegistered.SparesRevocations demo (.request (logoutWith aliceRefresh) [.raises]) :=
    fun _ => by decide +kernel
  have step : ((failingService demo).guarded (World.SparesRevocations demo)).step aliceRegistered
      (.request (logoutWith aliceRefresh) [.raises])
      (aliceRegistered.afterFailing demo (logoutWith aliceRefresh) [.raises]) :=
    ⟨spares, .request (by decide +kernel)⟩
  exact revocation_flags_agree (registered.step step) (by decide +kernel)

/-- The commit of Alice's logout fails. -/
def failedCommit : List Fate := List.replicate 9 .works ++ [.raises]

/-- Her session is refused from then on, and the database lists it as active. -/
theorem failed_commit_leaves_flag :
    ¬ ∀ (world : World ℚ) (sid : Uuid), (failingService demo).Reachable world →
      (world.redis.lookup world.clock (.sessionRevoked sid)).isSome →
      ∃ row, world.db.sessions.find sid = some row ∧ row.isActive = false := by
  intro agree
  have registered : (failingService demo).Reachable aliceRegistered :=
    reachable_failing reachable_aliceRegistered
  have step : (failingService demo).step aliceRegistered
      (.request (logoutWith aliceRefresh) failedCommit)
      (aliceRegistered.afterFailing demo (logoutWith aliceRefresh) failedCommit) :=
    .request (by decide +kernel)
  obtain ⟨row, found, inactive⟩ := agree _ 2 (registered.step step) (by decide +kernel)
  have active : ((aliceRegistered.afterFailing demo (logoutWith aliceRefresh)
      failedCommit).db.sessions.find 2).any (·.isActive) := by
    decide +kernel
  rw [found, Option.any_some, inactive] at active
  cases active

end EnterpriseAuth
