import EnterpriseAuth.Requests.Activity
import EnterpriseAuth.Guarantees.Continuity
import EnterpriseAuth.Guarantees.Scenario

/-!
# Activity is tracked up to the throttle

While the marker of a session lives, its row is not touched.  That is in order as long as the touch
that has set the marker is committed.  A request that fails after its authentication leaves the marker
and loses the touch, so the activity is tracked in the runs in which no such request finds its session
unmarked, and not in others.
-/

namespace EnterpriseAuth

open Effects Program SessionService

variable {T : Type} {env : Environment T} [CommRing T] [LinearOrder T]

variable (env) in
/-- `SESSION_ACTIVITY_THROTTLE_SECONDS` -/
def throttle : T := (env.settings.sessionActivityThrottleSeconds : ℕ)

variable [FloorRing T]

/-! ## Requests behind the access token -/

variable (env) in
/-- The request is authenticated for the session, whatever its route makes of it. -/
def World.Authenticates (world : World T) (arrival : Arrival) (sid : Uuid) : Prop :=
  ∃ route user row, arrival.route = .withAccess route ∧
    ((authentication env arrival.http route).run handle world.server).1 =
      .ok { user, session := some row } ∧ row.sessionUuid = sid

/-- The exchange is a successful request that was authenticated for the session. -/
inductive Exchange.SucceedsOn (exchange : Exchange T) (sid : Uuid) : Prop
  | intro {route : ProtectedRoute} {claims : Claims} {reply : Reply T}
    (routed : exchange.arrival.route = .withAccess route)
    (presented : exchange.arrival.http.accessToken = some (.signed claims))
    (session : claims.sid = some sid) (answered : exchange.reply = .ok reply)

/-- A request to a route behind the access token is authenticated, and then served and committed. -/
theorem run_serve_withAccess {arrival : Arrival} {route : ProtectedRoute}
    (routed : arrival.route = .withAccess route) (server : Server T) :
    (serve env arrival).run handle server =
      match (authentication env arrival.http route).run handle server with
      | (.error error, final) => (.error error, final)
      | (.ok context, middle) =>
        match (serveWithContext env arrival.registry arrival.http context route).run handle middle with
        | (.error error, final) => (.error error, final)
        | (.ok page, final) => (.ok (.page page), final.commit) := by
  -- the CSRF check, where the route has it first, is moved out of the branches
  have checks : serveProtected env arrival.registry arrival.http route =
      (if route.csrfFirst then verifyCsrf arrival.http else pure ()) >>= fun _ =>
        getAuthContext env arrival.http >>= fun context =>
          serveWithContext env arrival.registry arrival.http context route := by
    unfold serveProtected
    split <;> rfl
  simp only [serve, run_bind, run_getDb, dispatch, routed, checks, authentication, screening,
    Program.run_map]
  cases (rateLimitMiddleware env arrival.http).run handle server with
  | mk result limited =>
    cases result with
    | error => rfl
    | ok =>
      simp only
      cases ((if route.csrfFirst = true then verifyCsrf arrival.http else pure ()) :
          App T PUnit).run handle limited with
      | mk result checked =>
        cases result with
        | error => rfl
        | ok =>
          simp only
          cases (getAuthContext env arrival.http).run handle checked with
          | mk result middle =>
            cases result with
            | error => rfl
            | ok context =>
              simp only
              cases (serveWithContext env arrival.registry arrival.http context route).run handle
                middle with
              | mk result final => cases result <;> rfl

variable {world : World T} {arrival : Arrival}

/-- A success commits the touch that its authentication has made. -/
theorem committed_touch {route : ProtectedRoute} (routed : arrival.route = .withAccess route)
    {context : AuthContext T} {middle : Server T}
    (ran : (authentication env arrival.http route).run handle world.server = (.ok context, middle))
    {sid : Uuid} (recent : middle.Recent sid world.clock) (live : context.Live middle) {reply : Reply T}
    (answered : (world.exchange env arrival).reply = .ok reply) {row : Session T}
    (found : (world.exchange env arrival).after.committed.sessions.find sid = some row) :
    row.lastActivityAt = world.clock := by
  have kept := recent_serveWithContext env arrival.registry arrival.http route recent live
  simp only [World.exchange, run_serve_withAccess routed, ran] at answered found
  cases final : (serveWithContext env arrival.registry arrival.http context route).run handle
    middle with
  | mk result final' =>
    rw [final] at kept answered found
    cases result with
    | error => cases answered
    | ok page => exact kept.2 row found

/-- A marker that is there after a request was there before, or a touch has set it; then a success
has committed the touch. -/
theorem exchange_markers {sid : Uuid} {entry : Entry RedisValue T}
    (stored : (world.exchange env arrival).after.redis (.sessionTouch sid) = some entry) :
    world.redis (.sessionTouch sid) = some entry ∨
      world.Authenticates env arrival sid ∧
        world.redis.lookup world.clock (.sessionTouch sid) = none ∧
        entry.deadline = some (world.clock + throttle env) ∧
        ∀ reply, (world.exchange env arrival).reply = .ok reply → ∀ row,
          (world.exchange env arrival).after.committed.sessions.find sid = some row →
          row.lastActivityAt = world.clock := by
  -- only authentication writes markers
  by_cases protected' : ∃ route, arrival.route = .withAccess route
  · obtain ⟨route, routed⟩ := protected'
    have outcome := authenticated env world.server arrival.http route
    cases ran : (authentication env arrival.http route).run handle world.server with
    | mk result middle =>
      rw [ran] at outcome
      have before (context : AuthContext T) (isContext : result = .ok context) :
          middle.redis (.sessionTouch sid) = some entry := by
        have calls := unmarks_serveWithContext env arrival.registry arrival.http context route
        apply markers_of_calls
          (serveWithContext env arrival.registry arrival.http context route) middle
        simp only [World.exchange, run_serve_withAccess routed, ran, isContext] at stored
        cases final : (serveWithContext env arrival.registry arrival.http context route).run handle
          middle with
        | mk result final => cases result <;> simpa [final, Server.commit] using stored
      cases outcome with
      | refused markers =>
        simp only [World.exchange, run_serve_withAccess routed, ran] at stored
        exact .inl (markers sid entry stored)
      | sessionless _ _ markers => exact .inl (markers sid entry (before _ rfl))
      | throttled _ _ markers => exact .inl (markers sid entry (before _ rfl))
      | @touched claims user row _ presented session unmarked markers recent live =>
        obtain old | ⟨rfl, deadline⟩ := markers sid entry (before _ rfl)
        · exact .inl old
        · refine .inr ⟨⟨route, user, row, routed, by rw [ran], rfl⟩, unmarked, deadline, ?_⟩
          intro reply answered stored found
          exact committed_touch routed ran recent live answered found
  · left
    have other (route : ProtectedRoute) : arrival.route ≠ .withAccess route := by
      intro routed
      exact protected' ⟨route, routed⟩
    have dispatched := unmarks_dispatch env other
    have calls : Calls Command.Unmarks (serve env arrival) := by
      unfold serve getDb
      infer_instance
    exact markers_of_calls (serve env arrival) world.server sid entry stored

/-- A success finds the session marked or commits a touch. -/
theorem exchange_success {sid : Uuid} (succeeds : (world.exchange env arrival).SucceedsOn sid) :
    (world.redis.lookup world.clock (.sessionTouch sid)).isSome ∨
      ∀ row, (world.exchange env arrival).after.committed.sessions.find sid = some row →
        row.lastActivityAt = world.clock := by
  cases succeeds with
  | @intro route claims reply routed presented session answered =>
    have routed : arrival.route = .withAccess route := routed
    have outcome := authenticated env world.server arrival.http route
    cases ran : (authentication env arrival.http route).run handle world.server with
    | mk result middle =>
      rw [ran] at outcome
      cases outcome with
      | refused => simp [World.exchange, run_serve_withAccess routed, ran] at answered
      | sessionless presented' unbound =>
        cases presented.symm.trans presented'
        cases session.symm.trans unbound
      | throttled presented' session' markers marked =>
        cases presented.symm.trans presented'
        cases session.symm.trans session'
        exact .inl marked
      | touched presented' session' unmarked markers recent live =>
        cases presented.symm.trans presented'
        cases session.symm.trans session'
        right
        intro row found
        exact committed_touch routed ran recent live answered found

/-! ## Runs -/

variable (env) in
/-- A request that is authenticated for a session without a marker succeeds. -/
def World.Undisturbed (world : World T) : Event T → Prop
  | .request arrival => ∀ sid, world.Authenticates env arrival sid →
      world.redis.lookup world.clock (.sessionTouch sid) = none →
      ∃ reply, (world.exchange env arrival).reply = .ok reply
  | _ => True

variable (env) in
/-- What the rows of the active sessions tell about their activity. -/
structure World.TracksActivity (world : World T) : Prop where
  /-- the row is at most the throttle older than the latest success -/
  fresh : ∀ sid row exchange, world.db.sessions.find sid = some row → row.isActive = true →
    exchange ∈ world.history → exchange.SucceedsOn sid →
    exchange.before.clock ≤ row.lastActivityAt + throttle env
  /-- a session with a success so recently is not idle -/
  awake : ∀ sid row exchange, world.db.sessions.find sid = some row → row.isActive = true →
    exchange ∈ world.history → exchange.SucceedsOn sid →
    world.clock + throttle env ≤ exchange.before.clock + (idleTimeoutSeconds env : T) →
    ¬ row.lastActivityAt + (idleTimeoutSeconds env : T) < world.clock

variable (env) in
/-- Markers and successes are covered by the rows of the active sessions. -/
structure World.Covered (world : World T) : Prop where
  markers : ∀ sid entry, world.redis (.sessionTouch sid) = some entry → ∃ deadline,
    entry.deadline = some deadline ∧ deadline ≤ world.clock + throttle env ∧
      ∀ row, world.db.sessions.find sid = some row → row.isActive = true →
        deadline ≤ row.lastActivityAt + throttle env
  past : ∀ exchange ∈ world.history, exchange.before.clock ≤ world.clock
  successes : ∀ exchange ∈ world.history, ∀ sid, exchange.SucceedsOn sid → ∀ row,
    world.db.sessions.find sid = some row → row.isActive = true →
      exchange.before.clock ≤ row.lastActivityAt + throttle env

section
variable [IsStrictOrderedRing T]

omit [FloorRing T] in
variable (env) in
theorem le_add_throttle (instant : T) : instant ≤ instant + throttle env := by
  have positive : (0 : T) ≤ throttle env := Nat.cast_nonneg _
  exact le_add_of_nonneg_right positive

theorem World.Covered.request (covered : world.Covered env)
    (undisturbed : world.Undisturbed env (.request arrival)) :
    (world.afterRequest env arrival).Covered env := by
  have activeFrom := (served env world arrival).activeFrom
  have clock : (world.afterRequest env arrival).clock = world.clock := (served env world arrival).clock
  constructor
  · intro sid entry stored
    rw [clock]
    obtain old | ⟨authenticates, unmarked, deadline, commits⟩ := exchange_markers stored
    · obtain ⟨deadline, isDeadline, bounded, covers⟩ := covered.markers sid entry old
      refine ⟨deadline, isDeadline, bounded, fun row found active => ?_⟩
      obtain recent | ⟨earlier, stored, wasActive, same⟩ := activeFrom sid row found active
      · rwa [recent]
      · rw [← same]
        exact covers earlier stored wasActive
    · -- the touch that has set the marker is committed
      obtain ⟨reply, answered⟩ := undisturbed sid authenticates unmarked
      refine ⟨_, deadline, le_rfl, fun row found _ => ?_⟩
      rw [commits reply answered row found]
  · intro exchange member
    rw [clock]
    cases member with
    | head => exact le_rfl
    | tail _ old => exact covered.past exchange old
  · intro exchange member sid succeeds row found active
    obtain recent | ⟨earlier, stored, wasActive, same⟩ := activeFrom sid row found active
    · rw [recent]
      cases member with
      | head => exact le_add_throttle env _
      | tail _ old => exact (covered.past exchange old).trans (le_add_throttle env _)
    · cases member with
      | tail _ old =>
        rw [← same]
        exact covered.successes exchange old sid succeeds earlier stored wasActive
      | head =>
        obtain marked | touched := exchange_success succeeds
        · obtain ⟨value, isMarked⟩ := Option.isSome_iff_exists.mp marked
          obtain ⟨entry, isEntry, -, alive⟩ := ExpiringStore.lookup_entry isMarked
          obtain ⟨deadline, isDeadline, -, covers⟩ := covered.markers sid entry isEntry
          rw [← same]
          exact (alive deadline isDeadline).le.trans (covers earlier stored wasActive)
        · rw [touched row found]
          exact le_add_throttle env _

theorem World.Covered.step {next : World T} {event : Event T} (covered : world.Covered env)
    (step : ((service env).guarded (World.Undisturbed env)).step world event next) :
    next.Covered env := by
  obtain ⟨undisturbed, step⟩ := step
  cases step with
  | request => exact covered.request undisturbed
  | setUserActive => exact ⟨covered.markers, covered.past, covered.successes⟩
  | tick later =>
    refine ⟨fun sid entry stored => ?_, fun exchange member => ?_, covered.successes⟩
    · obtain ⟨deadline, isDeadline, bounded, covers⟩ := covered.markers sid entry stored
      refine ⟨deadline, isDeadline, bounded.trans ?_, covers⟩
      gcongr
    · exact (covered.past exchange member).trans later

/-- Where no request fails between a touch and its commit, the rows track all activity. -/
theorem activity_tracked
    (reachable : ((service env).guarded (World.Undisturbed env)).Reachable world) :
    world.TracksActivity env := by
  have covered : world.Covered env := by
    apply reachable.invariant (World.Covered env)
    · intro first starts
      refine ⟨fun sid entry stored => ?_, fun exchange member => ?_, fun exchange member => ?_⟩
      · rw [starts.noRedis] at stored
        cases stored
      · simp [starts.noHistory] at member
      · simp [starts.noHistory] at member
    · intro before event after _ covered step
      exact covered.step step
  constructor
  · intro sid row exchange found active member succeeds
    exact covered.successes exchange member sid succeeds row found active
  · intro sid row exchange found active member succeeds within idle
    have fresh := covered.successes exchange member sid succeeds row found active
    linarith

end

/-! ## A failing request -/

/-- Alice is active again after a hundred seconds. -/
def aliceReturns : World ℚ := World.new.play demo [.request registerAlice, .tick 100]

theorem activity_tracked_of_alice :
    (aliceReturns.afterRequest demo (withAccess aliceAccess .me)).TracksActivity demo := by
  have start : ((service demo).guarded (World.Undisturbed demo)).Reachable World.new :=
    .start World.new_starts
  have registered : ((service demo).guarded (World.Undisturbed demo)).step World.new
      (.request registerAlice) (World.new.afterRequest demo registerAlice) := by
    refine ⟨?_, .request (by decide +kernel)⟩
    rintro sid ⟨route, user, row, routed, -⟩
    cases routed
  have waited : ((service demo).guarded (World.Undisturbed demo)).step
      (World.new.afterRequest demo registerAlice) (.tick 100) aliceReturns :=
    ⟨trivial, .tick (by decide +kernel)⟩
  have returned : ((service demo).guarded (World.Undisturbed demo)).step aliceReturns
      (.request (withAccess aliceAccess .me))
      (aliceReturns.afterRequest demo (withAccess aliceAccess .me)) :=
    ⟨fun _ _ _ => exists_ok (by decide +kernel), .request (by decide +kernel)⟩
  exact activity_tracked (((start.step registered).step waited).step returned)

/-- Her first request asks for a session that does not exist, and leaves the marker. -/
def aliceShadowed : World ℚ :=
  aliceReturns.play demo [.request (withAccess aliceAccess (.getSession 77)), .tick 105]

/-- The row of the session is 105 seconds older than its latest success, and the throttle is 10. -/
theorem failure_hides_activity :
    ¬ ∀ world, (service demo).Reachable world → world.TracksActivity demo := by
  intro tracks
  have leads : (service demo).Leads aliceReturns
      (aliceShadowed.afterRequest demo (withAccess aliceAccess .me)) :=
    (leads_play (by decide +kernel)).tail (.request (by decide +kernel))
  have reachable : (service demo).Reachable
      (aliceShadowed.afterRequest demo (withAccess aliceAccess .me)) :=
    (reachable_play World.new_starts (by decide +kernel)).leads leads
  have stored : ((aliceShadowed.afterRequest demo (withAccess aliceAccess .me)).db.sessions.find
      2).any fun row => row.isActive && row.lastActivityAt = 0 := by decide +kernel
  obtain ⟨row, found, facts⟩ := (Option.any_eq_true _ _).mp stored
  simp only [Bool.and_eq_true, decide_eq_true_eq] at facts
  obtain ⟨reply, answered⟩ := exists_ok
    (show (aliceShadowed.exchange demo (withAccess aliceAccess .me)).reply.isOk by decide +kernel)
  have late := (tracks _ reachable).fresh 2 row _ found facts.1 List.mem_cons_self
    (.intro rfl rfl rfl answered)
  rw [facts.2] at late
  exact absurd late (by decide +kernel)

end EnterpriseAuth
