import EnterpriseAuth.Guarantees.Issuance
import EnterpriseAuth.Guarantees.Scenario
import EnterpriseAuth.Requests.Admission

/-!
# Revocation

Once the row of a session is committed inactive, no token of the session is good for anything, in
every run from there on; and the replay of a rotated refresh token makes the row so.
-/

namespace EnterpriseAuth

open Effects Program SessionService

variable {T : Type} {env : Environment T} [CommRing T] [LinearOrder T] [FloorRing T]

/-! ## Rejected requests -/

omit [CommRing T] [LinearOrder T] [FloorRing T] in
/-- The request was answered with an error, and so without tokens. -/
def Exchange.Rejected (exchange : Exchange T) : Prop :=
  (∃ error, exchange.reply = .error error) ∧ exchange.issued = []

omit [CommRing T] [LinearOrder T] [FloorRing T] in
theorem Exchange.rejected_of_not_ok {exchange : Exchange T}
    (unanswered : ∀ reply, exchange.reply ≠ .ok reply) : exchange.Rejected := by
  unfold Exchange.Rejected Exchange.issued
  cases replied : exchange.reply with
  | ok reply => exact absurd replied (unanswered reply)
  | error error => exact ⟨⟨error, rfl⟩, rfl⟩

variable (env) in
/-- Whatever the request and whichever token of the session it presents, the request is rejected.
Logout, which answers any token, hands out none and leaves the session rows alone. -/
structure World.Refuses (world : World T) (sid : Uuid) : Prop where
  rejected : ∀ arrival claims, arrival.ReliesOn claims → claims.sid = some sid →
    (world.exchange env arrival).Rejected
  logout : ∀ arrival claims, arrival.route = .logout →
    arrival.http.refreshToken = some (.signed claims) → claims.sid = some sid →
    (world.exchange env arrival).issued = [] ∧
      (world.exchange env arrival).after.committed.sessions = world.db.sessions

variable (env) in
/-- No access token of the session is accepted. -/
def World.RefusesAccess (world : World T) (sid : Uuid) : Prop :=
  ∀ arrival route claims, arrival.route = .withAccess route →
    arrival.http.accessToken = some (.signed claims) → claims.sid = some sid →
    (world.exchange env arrival).Rejected

variable {world : World T} {arrival : Arrival}

theorem exchange_passes {limited : Server T} (passes : world.Passes env arrival limited) :
    ((world.exchange env arrival).reply, (world.exchange env arrival).after) =
      (getDb (dispatch env arrival)).run handle limited := by
  simp only [World.exchange, serve, run_bind]
  rw [show (rateLimitMiddleware env arrival.http).run handle world.server = _ from passes]

/-! ## Inactive sessions -/

theorem logout_issues_nothing (routed : arrival.route = .logout) :
    (world.exchange env arrival).issued = [] := by
  have served := served env world arrival
  unfold Exchange.issued
  generalize (world.exchange env arrival).reply = result at served
  generalize (world.exchange env arrival).after = after at served
  cases served with
  | @answered limited final reply passes other follows backed =>
    cases reply with
    | login =>
      obtain ⟨route, login, -⟩ := backed
      rw [routed] at login
      cases login
    | refreshed => exact backed.elim
    | page => rfl
  | refreshAnswered _ isRefresh => rw [routed] at isRefresh; cases isRefresh
  | _ => rfl

theorem logout_keeps_sessions {claims : Claims} {sid : Uuid} {row : Session T}
    (routed : arrival.route = .logout)
    (presented : arrival.http.refreshToken = some (.signed claims)) (session : claims.sid = some sid)
    (found : world.db.sessions.find sid = some row) (inactive : row.isActive = false) :
    (world.exchange env arrival).after.committed = world.db := by
  have unchanged {limited final : Server T} {result : Except AppError (Reply T)}
      (passes : world.Passes env arrival limited)
      (ran : (dispatch env arrival).run handle limited = (result, final)) :
      final.working = world.db ∧ final.committed = world.db := by
    have same := logout_inactive env limited presented session
      (by rw [show limited.working = world.db from passes.aside.working]; exact found) inactive
    have left : ((logout env arrival.http).run handle limited).2 = final := by
      simp only [dispatch, routed, run_map] at ran
      cases inner : (logout env arrival.http).run handle limited with
      | mk result last =>
        rw [inner] at ran
        cases result <;> exact (Prod.mk.inj ran).2
    rw [left] at same
    exact ⟨same.working.trans passes.aside.working, same.committed.trans passes.aside.committed⟩
  have exchanged := exchanged env world arrival
  generalize (world.exchange env arrival).reply = result at exchanged
  generalize (world.exchange env arrival).after = after at exchanged ⊢
  cases exchanged with
  | refused ran => exact (Within.of_exact .reads ran).committed
  | failed passes ran => exact (unchanged passes ran).2
  | answered passes ran => exact (unchanged passes ran).1

theorem refuses_of_inactive {sid : Uuid} {row : Session T}
    (found : world.db.sessions.find sid = some row) (inactive : row.isActive = false) :
    world.Refuses env sid where
  rejected arrival claims relies session := by
    refine Exchange.rejected_of_not_ok fun reply answered => ?_
    obtain ⟨stored, foundActive, active⟩ := relies.active session answered
    rw [found] at foundActive
    cases foundActive
    rw [inactive] at active
    cases active
  logout arrival claims routed presented session :=
    ⟨logout_issues_nothing routed,
      by rw [logout_keeps_sessions routed presented session found inactive]⟩

/-- An inactive row is refused in every later world. -/
theorem leads_refuses {sid : Uuid} {row : Session T} {later : World T}
    (found : world.db.sessions.find sid = some row) (inactive : row.isActive = false)
    (leads : (service env).Leads world later) : later.Refuses env sid := by
  obtain ⟨laterRow, foundLater, continues⟩ := leads_continue leads sid row found
  exact refuses_of_inactive foundLater (continues.staysInactive inactive)

theorem refusesAccess_of_lapsed {sid : Uuid} {row : Session T}
    (found : world.db.sessions.find sid = some row) (lapsed : row.Lapsed env world.clock) :
    world.RefusesAccess env sid := by
  intro arrival route claims routed presented session
  refine Exchange.rejected_of_not_ok fun reply answered => ?_
  obtain ⟨shown, presented', admits⟩ := admits_of_ok answered routed
  rw [presented] at presented'
  cases presented'
  obtain ⟨stored, foundLive, -, -, fresh⟩ := admits.session sid session
  have same : some stored = some row := foundLive.symm.trans found
  cases same
  exact fresh lapsed

/-- Revocation is permanent, and so is the absolute expiry of a session for its access tokens. -/
theorem revocation_is_permanent {sid : Uuid} {row : Session T}
    (found : world.db.sessions.find sid = some row) {later : World T}
    (leads : (service env).Leads world later) :
    (row.isActive = false → later.Refuses env sid) ∧
      (row.expiresAt ≤ later.clock → later.RefusesAccess env sid) := by
  refine ⟨fun inactive => leads_refuses found inactive leads, fun expired => ?_⟩
  obtain ⟨laterRow, foundLater, continues⟩ := leads_continue leads sid row found
  refine refusesAccess_of_lapsed foundLater (.inl ?_)
  rw [continues.expiresAt]
  exact expired

/-- Alice logs out after a minute, and waits a week. -/
def aliceLoggedOut : World ℚ :=
  World.new.play demo
    [.request registerAlice, .tick 60, .request (withAccess aliceAccess .logoutCurrent)]

theorem revocation_is_permanent_for_alice :
    aliceLoggedOut.Refuses demo 2 ∧
      (aliceLoggedOut.play demo [.tick 604800]).RefusesAccess demo 2 := by
  have stored : (aliceLoggedOut.db.sessions.find 2).any
      (fun row => !row.isActive && row.expiresAt ≤ 604800) := by decide +kernel
  obtain ⟨row, found, facts⟩ := (Option.any_eq_true _ _).mp stored
  simp only [Bool.and_eq_true, Bool.not_eq_true', decide_eq_true_eq] at facts
  have waits : (service demo).Leads aliceLoggedOut (aliceLoggedOut.play demo [.tick 604800]) :=
    leads_play (by decide +kernel)
  exact ⟨(revocation_is_permanent found (.refl aliceLoggedOut)).1 facts.1,
    (revocation_is_permanent found waits).2 facts.2⟩

/-! ## Replay -/

/-- The replay of a refresh token revokes its session, durably and alone. -/
theorem replay_revokes_session (reachable : (service env).Reachable world) {claims : Claims}
    {sid : Uuid} (owned : claims ∈ world.issued)
    (isRefresh : claims.type = .refresh) (session : claims.sid = some sid)
    (unexpired : world.clock < (claims.exp : T)) (listed : world.server.Blacklisted claims.jti)
    (routed : arrival.route = .refresh)
    (presented : arrival.http.refreshToken = some (.signed claims))
    (passes : world.LetsPass env arrival) :
    (∃ error, (world.exchange env arrival).reply = .error error ∧ error.kind.statusCode = 401) ∧
      (∃ row, (world.afterRequest env arrival).db.sessions.find sid = some row ∧
        row.isActive = false) ∧
      (∀ other, other ≠ sid → (world.afterRequest env arrival).db.sessions.find other =
        world.db.sessions.find other) ∧
      ∀ later, (service env).Leads (world.afterRequest env arrival) later →
        later.Refuses env sid := by
  obtain ⟨row, named, found, -⟩ := (wellIssued_of_reachable reachable).bound claims owned
    (by rw [isRefresh]; exact nofun)
  rw [session] at named
  cases named
  obtain ⟨limited, passes⟩ : ∃ limited, world.Passes env arrival limited :=
    ⟨_, World.passes_iff.mpr ⟨passes, rfl⟩⟩
  obtain ⟨same, working, clock, -⟩ := passes.start
  have live : claims.LiveRefresh limited.clock := ⟨isRefresh, clock ▸ unexpired⟩
  -- the rate limiter has listed nothing, so the route still sees the listing
  have replayed : limited.Blacklisted claims.jti := (passes.aside.blacklisted _).mpr listed
  have exchanged := exchange_passes passes
  rw [run_getDb] at exchanged
  cases ran : (dispatch env arrival).run handle limited with
  | mk result final =>
    rw [ran] at exchanged
    have outcome := refreshOutcome_of_dispatch env routed ran
    obtain ⟨rfl, rfl⟩ := outcome.of_replay env presented live replayed
    obtain ⟨replied, left⟩ := Prod.mk.inj exchanged
    have stored : limited.working.sessions.find row.sessionUuid = some row := by
      rw [working]
      exact found
    obtain ⟨revoked, others⟩ := find_afterReplay env same session stored
    rw [← left] at revoked others
    refine ⟨⟨_, replied, rfl⟩, revoked, fun other different => ?_, fun later leads => ?_⟩
    · rw [← show limited.working = world.db from working]
      exact others other different
    · obtain ⟨ended, foundEnded, inactive⟩ := revoked
      exact leads_refuses foundEnded inactive leads

/-- Alice's first refresh token has been rotated once. -/
def aliceRotated : World ℚ :=
  World.new.play demo [.request registerAlice, .tick 60, .request (refreshWith aliceRefresh)]

theorem replay_revokes_session_of_alice :
    (aliceRotated.afterRequest demo (refreshWith aliceRefresh)).Refuses demo 2 := by
  have reachable : (service demo).Reachable aliceRotated :=
    reachable_play World.new_starts (by decide +kernel)
  have listed : aliceRotated.server.Blacklisted aliceRefresh.jti := by decide +kernel
  have passes : aliceRotated.LetsPass demo (refreshWith aliceRefresh) := by
    unfold World.LetsPass
    decide +kernel
  obtain ⟨-, -, -, refused⟩ := replay_revokes_session reachable (by decide +kernel) rfl rfl
    (by decide +kernel) listed rfl rfl passes
  exact refused _ (.refl _)

end EnterpriseAuth
