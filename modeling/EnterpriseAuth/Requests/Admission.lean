import EnterpriseAuth.Requests.Served

/-!
# Tokens that a request is granted on

A route behind an access token answers only if the token and its session are admitted, and the
refresh route only if its token is redeemed.  Both are conditions on the server as the request
finds it.
-/

namespace EnterpriseAuth

open Effects Program SessionService

variable {T : Type} {env : Environment T} [CommRing T] [LinearOrder T]

/-! ## Access tokens -/

variable (env) in
/-- The session of an access token lets its user through. -/
def Server.LiveSession (server : Server T) (sid userId : Uuid) : Prop :=
  ∃ row, server.working.sessions.find sid = some row ∧ row.userId = userId ∧
    row.isActive = true ∧ ¬ row.Lapsed env server.clock

variable (env) in
structure Server.Admits (server : Server T) (claims : Claims) : Prop where
  isAccess : claims.type = .access
  unexpired : server.clock < (claims.exp : T)
  user : ∃ user, server.working.users.find claims.sub = some user ∧ user.isActive = true
  session : ∀ sid, claims.sid = some sid → server.LiveSession env sid claims.sub

theorem triple_validateAndTouch_live (server : Server T) (sid userId : Uuid) :
    Triple handle (· = server) (validateAndTouch env sid userId)
      (fun _ _ => server.LiveSession env sid userId) (fun _ _ => True) := by
  simp only [validateAndTouch, throw_bind]
  refine Triple.bind (Triple.read (run_present · _)) fun revoked =>
    Triple.ite (fun _ => Triple.throw fun _ _ => trivial) fun _ =>
      Triple.bind (Triple.read run_view) fun db => ?_
  split
  next => exact Triple.throw fun _ _ => trivial
  next row found =>
    refine Triple.ite (fun _ => Triple.throw fun _ _ => trivial) fun valid =>
      Triple.bind (Triple.read run_now) fun now => ?_
    refine Triple.ite (fun _ => Triple.skip fun _ => Triple.throw fun _ _ => trivial) fun unexpired =>
      Triple.ite (fun _ => Triple.skip fun _ => Triple.throw fun _ _ => trivial) fun recent => ?_
    refine Triple.known ?_
    rintro _ ⟨⟨⟨rfl, -⟩, rfl⟩, rfl⟩
    simp only [ne_eq, not_or, not_not, Bool.not_eq_true', Bool.not_eq_false] at valid
    exact ⟨row, found, valid.1, valid.2, not_or.mpr ⟨unexpired, recent⟩⟩

/-- The request shows an access token that the server admits. -/
def Server.AdmitsRequest (env : Environment T) (server : Server T) (request : HttpRequest) : Prop :=
  ∃ claims, request.accessToken = some (.signed claims) ∧ server.Admits env claims

theorem triple_getAuthContext_admits (server : Server T) (request : HttpRequest) :
    Triple handle (· = server) (getAuthContext env request)
      (fun _ _ => server.AdmitsRequest env request) (fun _ _ => True) := by
  simp only [getAuthContext, throw_bind]
  split
  next => exact Triple.throw fun _ _ => trivial
  next token presented =>
    refine Triple.start (fun _ _ _ => trivial) fun claims _ ran => ?_
    obtain ⟨rfl, rfl, isAccess, unexpired⟩ := verifyAccess_ok ran
    refine Triple.bind (Triple.read run_view) fun db => ?_
    split
    next => exact Triple.throw fun _ _ => trivial
    next user found =>
      refine Triple.ite (fun _ => Triple.throw fun _ _ => trivial) fun active => ?_
      simp only [Bool.not_eq_true', Bool.not_eq_false] at active
      have owner : user.id = claims.sub := Table.find_key found
      split
      -- a token without a session passes here
      next noSession =>
        refine Triple.pure ?_
        rintro _ ⟨rfl, rfl⟩
        exact ⟨claims, presented, isAccess, unexpired, ⟨user, found, active⟩,
          fun sid session => by rw [noSession] at session; cases session⟩
      next sid session =>
        constructor
        rintro _ ⟨rfl, rfl⟩
        refine Triple.outcome (Triple.bind (triple_validateAndTouch_live _ sid user.id)
          fun _ => Triple.pure ?_) _ rfl
        intro _ live
        refine ⟨claims, presented, isAccess, unexpired, ⟨user, found, active⟩, fun other same => ?_⟩
        rw [session] at same
        cases same
        exact owner ▸ live

theorem Server.AdmitsRequest.aside {before after : Server T} {request : HttpRequest}
    (admits : after.AdmitsRequest env request) (aside : Aside .reads before after) :
    before.AdmitsRequest env request := by
  obtain ⟨claims, presented, isAccess, unexpired, user, session⟩ := admits
  have clock := aside.clock
  have working : after.working = before.working := aside.working
  unfold Server.LiveSession at session
  rw [clock, working] at session
  exact ⟨claims, presented, isAccess, clock ▸ unexpired, working ▸ user, session⟩

theorem triple_serveProtected_admits (server : Server T) (registry : String → Option Provider)
    (request : HttpRequest) (route : ProtectedRoute) :
    Triple handle (· = server) (serveProtected env registry request route)
      (fun _ _ => server.AdmitsRequest env request) (fun _ _ => True) := by
  have granted (limited : Server T) (aside : Aside .reads server limited) :
      Triple handle (· = limited)
        (getAuthContext env request >>= fun context =>
          serveWithContext env registry request context route)
        (fun _ _ => server.AdmitsRequest env request) (fun _ _ => True) := by
    refine Triple.start (fun _ _ _ => trivial) fun context next ran => Triple.known ?_
    exact fun _ _ => ((triple_getAuthContext_admits limited request).returned rfl ran).aside aside
  simp only [serveProtected]
  refine Triple.ite (fun _ => ?_) fun _ => granted server (.refl server)
  refine Triple.start (fun _ _ _ => trivial) fun _ checked ran => ?_
  exact granted checked (Within.of_exact .reads ran)

/-! ## Refresh tokens -/

/-- The refresh token is accepted and its session, if it names one, takes the next pair. -/
structure Server.Redeems (server : Server T) (claims : Claims) : Prop where
  live : claims.LiveRefresh server.clock
  unlisted : ¬ server.Blacklisted claims.jti
  session : ∀ sid, claims.sid = some sid → ∃ row, server.working.sessions.find sid = some row ∧
    row.isActive = true ∧ row.userId = claims.sub

theorem Server.Redeems.aside {before after : Server T} {claims : Claims}
    (redeems : after.Redeems claims) (aside : Aside .reads before after) :
    before.Redeems claims where
  live := aside.clock ▸ redeems.live
  unlisted := by rw [← aside.blacklisted]; exact redeems.unlisted
  session := by
    rw [← show after.working = before.working from aside.working]
    exact redeems.session

variable [FloorRing T]

theorem RefreshOutcome.redeems {start final : Server T} {request : HttpRequest} {reply : Reply T}
    (outcome : RefreshOutcome env start request (.ok reply) final) :
    ∃ claims, request.refreshToken = some (.signed claims) ∧ start.Redeems claims := by
  cases outcome with
  | @rebound claims sid row presented live unlisted session found active owner csrf =>
    refine ⟨claims, presented, live, unlisted, fun other same => ?_⟩
    rw [session] at same
    cases same
    exact ⟨row, found, active, owner⟩
  | @sessionless claims presented live unlisted session csrf =>
    refine ⟨claims, presented, live, unlisted, fun other same => ?_⟩
    rw [session] at same
    cases same

/-- A token that is redeemed buys the next pair. -/
theorem RefreshOutcome.of_redeems {start final : Server T} {request : HttpRequest}
    {result : Except AppError (Reply T)} (outcome : RefreshOutcome env start request result final)
    {claims : Claims} (presented : request.refreshToken = some (.signed claims))
    (redeems : start.Redeems claims) :
    (∃ reply, result = .ok reply) ∧
      ∀ sid, claims.sid = some sid → final = start.followed env claims sid := by
  cases outcome with
  | refused message invalid => exact absurd redeems.live (invalid claims presented)
  | replayed presented' _ listed =>
    rw [presented] at presented'
    cases presented'
    exact absurd listed redeems.unlisted
  | unbound presented' _ _ session invalid =>
    rw [presented] at presented'
    cases presented'
    obtain ⟨row, found, active, owner⟩ := redeems.session _ session
    exact absurd ⟨active, owner⟩ (invalid row found)
  | sessionless presented' _ _ none =>
    rw [presented] at presented'
    cases presented'
    exact ⟨⟨_, rfl⟩, fun sid session => by rw [none] at session; cases session⟩
  | rebound presented' _ _ session =>
    rw [presented] at presented'
    cases presented'
    refine ⟨⟨_, rfl⟩, fun sid same => ?_⟩
    rw [session] at same
    cases same
    rfl

/-- The refresh route succeeds on the tokens that are redeemed and on no others. -/
theorem refresh_ok_iff {server : Server T} {request : HttpRequest} :
    (∃ reply, ((getDb (refresh env request)).run handle server).1 = .ok reply) ↔
      ∃ claims, request.refreshToken = some (.signed claims) ∧ server.Redeems claims := by
  have outcome := run_refresh env server request
  simp only [run_getDb]
  cases ran : (refresh env request).run handle server with
  | mk result final =>
    rw [ran] at outcome
    constructor
    · rintro ⟨reply, answered⟩
      cases result with
      | error => cases answered
      | ok => exact outcome.redeems
    · rintro ⟨claims, presented, redeems⟩
      obtain ⟨⟨reply, answered⟩, -⟩ := outcome.of_redeems presented redeems
      cases answered
      exact ⟨reply, rfl⟩

/-! ## Requests that a token decides -/

/-- The token decides whether the request is granted.  Logout is not among these requests: it
answers whatever token it is shown. -/
inductive Arrival.ReliesOn (arrival : Arrival) (claims : Claims) : Prop
  | access (route : ProtectedRoute) (routed : arrival.route = .withAccess route)
    (presented : arrival.http.accessToken = some (.signed claims))
  | refresh (routed : arrival.route = .refresh)
    (presented : arrival.http.refreshToken = some (.signed claims))

variable {world : World T} {arrival : Arrival} {reply : Reply T}

/-- The server after a request that was answered. -/
theorem exchange_answered (answered : (world.exchange env arrival).reply = .ok reply) :
    ∃ limited final, world.Passes env arrival limited ∧
      (dispatch env arrival).run handle limited = (.ok reply, final) ∧
      (world.exchange env arrival).after = final.commit := by
  have exchanged := exchanged env world arrival
  rw [answered] at exchanged
  generalize (world.exchange env arrival).after = after at exchanged
  cases exchanged with
  | answered passes ran => exact ⟨_, _, passes, ran, rfl⟩

/-- A route behind an access token answers only to a token that is admitted. -/
theorem admits_of_ok (answered : (world.exchange env arrival).reply = .ok reply)
    {route : ProtectedRoute} (routed : arrival.route = .withAccess route) :
    world.server.AdmitsRequest env arrival.http := by
  obtain ⟨limited, final, passes, ran, -⟩ := exchange_answered answered
  simp only [dispatch, routed] at ran
  have triple : Triple handle (· = limited)
      (Reply.page <$> serveProtected env arrival.registry arrival.http route)
      (fun _ _ => limited.AdmitsRequest env arrival.http) (fun _ _ => True) :=
    Triple.bind (triple_serveProtected_admits limited _ _ _) fun _ => Triple.pure fun _ => id
  exact (triple.returned rfl ran).aside passes.aside

theorem redeems_of_ok (answered : (world.exchange env arrival).reply = .ok reply)
    (routed : arrival.route = .refresh) :
    ∃ claims, arrival.http.refreshToken = some (.signed claims) ∧ world.server.Redeems claims := by
  obtain ⟨limited, final, passes, ran, -⟩ := exchange_answered answered
  obtain ⟨claims, presented, redeems⟩ := (refreshOutcome_of_dispatch env routed ran).redeems
  exact ⟨claims, presented, redeems.aside passes.aside⟩

/-- A request is granted on a token only while the session of the token is active. -/
theorem Arrival.ReliesOn.active {claims : Claims} {sid : Uuid} (relies : arrival.ReliesOn claims)
    (session : claims.sid = some sid)
    (answered : (world.exchange env arrival).reply = .ok reply) :
    ∃ row, world.db.sessions.find sid = some row ∧ row.isActive = true := by
  cases relies with
  | access route routed presented =>
    obtain ⟨shown, presented', admits⟩ := admits_of_ok answered routed
    rw [presented] at presented'
    cases presented'
    obtain ⟨row, found, -, active, -⟩ := admits.session sid session
    exact ⟨row, found, active⟩
  | refresh routed presented =>
    obtain ⟨shown, presented', redeems⟩ := redeems_of_ok answered routed
    rw [presented] at presented'
    cases presented'
    obtain ⟨row, found, active, -⟩ := redeems.session sid session
    exact ⟨row, found, active⟩

end EnterpriseAuth
