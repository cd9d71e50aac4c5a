import EnterpriseAuth.Requests.Routes

/-!
# Refresh and logout

What `verify_refresh`, `rotate`, `rebind_refresh` and the two routes built on them do, case by
case.  `RefreshOutcome` lists every way in which `POST /auth/refresh` can end.
-/

namespace EnterpriseAuth

open Effects Program SessionService

set_option synthInstance.maxSize 1000

variable {T : Type} (env : Environment T) [CommRing T] [LinearOrder T]

/-! ## Checking a refresh token -/

/-- The token is one that `verify_refresh` accepts, apart from the blacklist. -/
structure Claims.LiveRefresh (claims : Claims) (now : T) : Prop where
  isRefresh : claims.type = .refresh
  unexpired : now < (claims.exp : T)

def Server.Blacklisted (server : Server T) (jti : Uuid) : Prop :=
  (server.redis.lookup server.clock (.revokedJti jti)).isSome

instance (server : Server T) (jti : Uuid) : Decidable (server.Blacklisted jti) :=
  inferInstanceAs (Decidable (_ = true))

/-- The three answers of `verify_refresh`. -/
inductive RefreshCheck (server : Server T) : Token → Except AppError Claims → Prop
  | accepted {claims : Claims} (live : claims.LiveRefresh server.clock)
    (unlisted : ¬ server.Blacklisted claims.jti) : RefreshCheck server (.signed claims) (.ok claims)
  | replayed {claims : Claims} (live : claims.LiveRefresh server.clock)
    (listed : server.Blacklisted claims.jti) :
    RefreshCheck server (.signed claims) (.error .tokenReplay)
  | rejected {token : Token}
    (invalid : ∀ claims, token = .signed claims → ¬ claims.LiveRefresh server.clock) :
    RefreshCheck server token (.error (.auth "Invalid or expired refresh token."))

theorem run_verifyRefresh (server : Server T) (token : Token) :
    ∃ result, (TokenService.verifyRefresh token).run handle server = (result, server) ∧
      RefreshCheck server token result := by
  simp only [TokenService.verifyRefresh, run_bind, run_tryCatch]
  cases token with
  | unsigned text =>
    refine ⟨_, rfl, .rejected ?_⟩
    intro claims signed
    cases signed
  | signed claims =>
    rw [run_decodeToken_signed]
    by_cases expired : (claims.exp : T) ≤ server.clock
    · rw [if_pos expired]
      refine ⟨_, rfl, .rejected ?_⟩
      intro claims signed live
      cases signed
      exact absurd live.unexpired (not_lt.mpr expired)
    · rw [if_neg expired]
      by_cases type : claims.type = .refresh
      · rw [if_neg (not_not.mpr type)]
        have live : claims.LiveRefresh server.clock := ⟨type, not_le.mp expired⟩
        simp only [TokenService.isRevoked, run_present, run_ite, run_bind, run_throw, run_pure]
        by_cases listed : server.Blacklisted claims.jti
        · exact ⟨_, if_pos listed, .replayed live listed⟩
        · exact ⟨_, if_neg listed, .accepted live listed⟩
      · rw [if_pos type]
        refine ⟨_, rfl, .rejected ?_⟩
        intro claims signed live
        cases signed
        exact type live.isRefresh

/-! ## Rotation -/

section
variable [FloorRing T]

/-- `revoke` on the server: an entry for the whole seconds that are left, if there are any. -/
def Server.revokeToken (server : Server T) (claims : Claims) : Server T :=
  let ttl := pyInt ((claims.exp : T) - server.clock)
  if ttl > 0 then server.blacklist claims.jti (server.clock + (ttl.toNat : T)) else server

theorem run_revokeToken (server : Server T) (claims : Claims) :
    (TokenService.revoke claims).run handle server = (.ok (), server.revokeToken claims) := by
  simp only [TokenService.revoke, run_bind, run_now, run_ite, run_pure, Server.revokeToken]
  split
  next positive =>
    rw [run_setKey_of_pos _ _ _ (by omega)]
    rfl
  next => rfl

/-- The pair that `issue_pair` mints on the server. -/
def Server.mintPair (server : Server T) (userId : Uuid) (rememberMe : Bool) (sid : Option Uuid) :
    TokenPair where
  access :=
    { sub := userId, type := .access, jti := server.draws, iat := pyInt server.clock
      exp := pyInt (server.clock + ((env.settings.accessTokenExpireMinutes * 60 : ℕ) : T))
      sid, rememberMe := false }
  refresh :=
    { sub := userId, type := .refresh, jti := server.draws + 1, iat := pyInt server.clock
      exp := pyInt (server.clock + ((TokenService.refreshTtlDays env rememberMe * 86400 : ℕ) : T))
      sid, rememberMe }

def Server.drawn (server : Server T) (count : ℕ) : Server T :=
  { server with draws := server.draws + count }

theorem run_issuePair (server : Server T) (userId : Uuid) (rememberMe : Bool) (sid : Option Uuid) :
    (TokenService.issuePair env userId rememberMe sid).run handle server =
      (.ok (server.mintPair env userId rememberMe sid, server.draws + 1), server.drawn 2) := by
  simp only [TokenService.issuePair, createToken, run_bind, run_uuid4, run_now, run_pure]
  rfl

/-- The server once an accepted refresh token has been rotated. -/
def Server.rotated (server : Server T) (claims : Claims) : Server T :=
  (server.revokeToken claims).drawn 2

/-- Where `rotate` returns, the pair it mints belongs to the user and session of the old token. -/
def Server.nextPair (server : Server T) (claims : Claims) : TokenPair :=
  server.mintPair env claims.sub claims.rememberMe claims.sid

theorem revokeToken_clock (server : Server T) (claims : Claims) :
    (server.revokeToken claims).clock = server.clock := by
  unfold Server.revokeToken; dsimp only; split <;> rfl

theorem revokeToken_draws (server : Server T) (claims : Claims) :
    (server.revokeToken claims).draws = server.draws := by
  unfold Server.revokeToken; dsimp only; split <;> rfl

theorem revokeToken_working (server : Server T) (claims : Claims) :
    (server.revokeToken claims).working = server.working := by
  unfold Server.revokeToken; dsimp only; split <;> rfl

theorem revokeToken_committed (server : Server T) (claims : Claims) :
    (server.revokeToken claims).committed = server.committed := by
  unfold Server.revokeToken; dsimp only; split <;> rfl

@[simp] theorem rotated_clock (server : Server T) (claims : Claims) :
    (server.rotated claims).clock = server.clock := revokeToken_clock server claims

@[simp] theorem rotated_working (server : Server T) (claims : Claims) :
    (server.rotated claims).working = server.working := revokeToken_working server claims

@[simp] theorem rotated_committed (server : Server T) (claims : Claims) :
    (server.rotated claims).committed = server.committed := revokeToken_committed server claims

theorem run_rotate_accepted {server : Server T} {claims : Claims}
    (verified : (TokenService.verifyRefresh (.signed claims)).run handle server =
      (.ok claims, server)) :
    (TokenService.rotate env (.signed claims)).run handle server =
      (.ok (claims.sub, claims.sid, server.nextPair env claims, server.draws + 1),
        server.rotated claims) := by
  simp only [TokenService.rotate, run_bind, verified, run_revokeToken, run_issuePair, run_pure]
  simp only [Server.nextPair, Server.mintPair, Server.rotated, revokeToken_clock,
    revokeToken_draws]

theorem run_rotate_error {server : Server T} {token : Token} {error : AppError}
    (verified : (TokenService.verifyRefresh token).run handle server = (.error error, server)) :
    (TokenService.rotate env token).run handle server = (.error error, server) := by
  simp only [TokenService.rotate, run_bind, verified]

end

/-! ## Replay -/

/-- `_handle_refresh_replay` on the server: the session of the token is revoked and committed. -/
def Server.afterReplay (server : Server T) (claims : Claims) : Server T :=
  match claims.sid.bind server.working.sessions.find with
  | none => server
  | some row =>
    if row.isActive then
      let revoked := server.revoke env row "refresh_replay"
      { revoked with committed := revoked.working }
    else server

omit [LinearOrder T] in
/-- A replay leaves the server as it is, or ends the active session of the token. -/
theorem afterReplay_cases (server : Server T) (claims : Claims) :
    server.afterReplay env claims = server ∨
      ∃ row, claims.sid = some row.sessionUuid ∧ server.working.Holds row ∧
        server.afterReplay env claims = { server.revoke env row "refresh_replay" with
          committed := (server.revoke env row "refresh_replay").working } := by
  unfold Server.afterReplay
  split
  next => exact .inl rfl
  next row stored =>
    obtain ⟨sid, session, found⟩ := Option.bind_eq_some_iff.mp stored
    obtain rfl : row.sessionUuid = sid := Table.find_key found
    split
    next active => exact .inr ⟨row, session, ⟨found, active⟩, rfl⟩
    next => exact .inl rfl

theorem run_handleRefreshReplay {server : Server T} {claims : Claims}
    (live : claims.LiveRefresh server.clock) :
    (handleRefreshReplay env (.signed claims)).run handle server =
      (.ok (), server.afterReplay env claims) := by
  simp only [handleRefreshReplay, run_bind, run_tryCatch, run_map, run_decodeToken_signed,
    if_neg (not_le.mpr live.unexpired), if_neg (not_not.mpr live.isRefresh), Server.afterReplay,
    Option.bind_some]
  cases claims.sid with
  | none => rfl
  | some sid =>
    simp only [Option.bind_some, SessionService.revokeBySid, run_bind, run_view]
    cases found : server.working.sessions.find sid with
    | none => rfl
    | some row =>
      cases Table.find_key found
      simp only [run_ite, run_bind, run_revoke env server _ found, run_pure]
      cases row.isActive <;> rfl

/-! ## The refresh route -/

section
variable [FloorRing T]

/-- The server once the session of a rotated token points at the next refresh token. -/
def Server.followed (start : Server T) (claims : Claims) (sid : Uuid) : Server T :=
  (((start.rotated claims).changeSession sid (rebound start.clock (start.draws + 1))
    fun _ => rfl).setActive env sid).drawn 1

theorem find_followed (start : Server T) (claims : Claims) (sid other : Uuid) :
    (start.followed env claims sid).working.sessions.find other =
      if other = sid then
        (start.working.sessions.find other).map (rebound start.clock (start.draws + 1))
      else start.working.sessions.find other := by
  refine (find_changeSession (start.rotated claims) sid other
    (rebound start.clock (start.draws + 1)) fun _ => rfl).trans ?_
  rw [rotated_working]

theorem followed_committed (start : Server T) (claims : Claims) (sid : Uuid) :
    (start.followed env claims sid).committed = start.committed :=
  revokeToken_committed start claims

theorem followed_clock (start : Server T) (claims : Claims) (sid : Uuid) :
    (start.followed env claims sid).clock = start.clock :=
  revokeToken_clock start claims

theorem followed_draws (start : Server T) (claims : Claims) (sid : Uuid) :
    (start.followed env claims sid).draws = start.draws + 3 :=
  congrArg (· + 3) (revokeToken_draws start claims)

/-- Every way in which `POST /auth/refresh` ends, before the transaction is closed. -/
inductive RefreshOutcome (start : Server T) (request : HttpRequest) :
    Except AppError (Reply T) → Server T → Prop
  | refused (message : String)
    (invalid : ∀ claims, request.refreshToken = some (.signed claims) →
      ¬ claims.LiveRefresh start.clock) :
    RefreshOutcome start request (.error (.auth message)) start
  | replayed {claims : Claims} (presented : request.refreshToken = some (.signed claims))
    (live : claims.LiveRefresh start.clock) (listed : start.Blacklisted claims.jti) :
    RefreshOutcome start request (.error (.auth AppError.tokenReplay.message))
      (start.afterReplay env claims)
  | unbound {claims : Claims} {sid : Uuid}
    (presented : request.refreshToken = some (.signed claims))
    (live : claims.LiveRefresh start.clock) (unlisted : ¬ start.Blacklisted claims.jti)
    (session : claims.sid = some sid)
    (invalid : ∀ row, start.working.sessions.find sid = some row →
      ¬ (row.isActive = true ∧ row.userId = claims.sub)) :
    RefreshOutcome start request (.error (.auth "Session is no longer valid."))
      (start.rotated claims)
  | rebound {claims : Claims} {sid : Uuid} {row : Session T}
    (presented : request.refreshToken = some (.signed claims))
    (live : claims.LiveRefresh start.clock) (unlisted : ¬ start.Blacklisted claims.jti)
    (session : claims.sid = some sid) (found : start.working.sessions.find sid = some row)
    (active : row.isActive = true) (owner : row.userId = claims.sub) (csrf : String) :
    RefreshOutcome start request (.ok (.refreshed csrf (start.nextPair env claims)))
      (start.followed env claims sid)
  | sessionless {claims : Claims} (presented : request.refreshToken = some (.signed claims))
    (live : claims.LiveRefresh start.clock) (unlisted : ¬ start.Blacklisted claims.jti)
    (session : claims.sid = none) (csrf : String) :
    RefreshOutcome start request (.ok (.refreshed csrf (start.nextPair env claims)))
      ((start.rotated claims).drawn 1)

omit [FloorRing T] in
theorem run_rebindRefresh (server : Server T) (userId sid jti : Uuid) :
    (rebindRefresh env userId sid jti).run handle server =
      match server.working.sessions.find sid with
      | none => (.error (.auth "Session is no longer valid."), server)
      | some row =>
        if !row.isActive ∨ row.userId ≠ userId then
          (.error (.auth "Session is no longer valid."), server)
        else (.ok (), (server.changeSession sid (rebound server.clock jti)
          fun _ => rfl).setActive env sid) := by
  simp only [rebindRefresh, throw_bind, run_bind, run_view]
  cases found : server.working.sessions.find sid with
  | none => rfl
  | some row =>
    cases Table.find_key found
    simp only [run_ite, run_throw, run_bind, run_now,
      run_updateSession server (rebound server.clock jti) (fun _ => rfl) found, run_setActive]

theorem run_refresh (start : Server T) (request : HttpRequest) :
    RefreshOutcome env start request ((refresh env request).run handle start).1
      ((refresh env request).run handle start).2 := by
  unfold refresh
  cases presented : request.refreshToken with
  | none => exact .refused _ fun claims signed => by rw [presented] at signed; cases signed
  | some token =>
    obtain ⟨result, verified, check⟩ := run_verifyRefresh start token
    cases check with
    | rejected invalid =>
      simp only [run_bind, run_tryCatch, run_rotate_error env verified]
      refine .refused _ fun claims signed => invalid claims ?_
      rw [presented] at signed
      exact Option.some.inj signed
    | replayed live listed =>
      simp only [run_bind, run_tryCatch, run_rotate_error env verified]
      simp only [AppError.tokenReplay, if_true, run_bind, run_handleRefreshReplay env live,
        run_throw]
      exact .replayed presented live listed
    | @accepted claims live unlisted =>
      simp only [run_bind, run_tryCatch, run_rotate_accepted env verified]
      cases session : claims.sid with
      | none =>
        simp only [run_bind, run_pure, run_uuid4]
        exact .sessionless presented live unlisted session _
      | some sid =>
        simp only [run_bind, run_rebindRefresh, rotated_working, rotated_clock]
        cases found : start.working.sessions.find sid with
        | none =>
          refine .unbound presented live unlisted session fun row stored => ?_
          rw [found] at stored
          cases stored
        | some row =>
          -- rebind_refresh looks at the flag and the owner of the row, not at its deadlines
          by_cases valid : row.isActive = true ∧ row.userId = claims.sub
          · have passes : ¬ ((!row.isActive) = true ∨ row.userId ≠ claims.sub) := by
              simp [valid.1, valid.2]
            simp only [if_neg passes, run_uuid4, run_pure]
            exact .rebound presented live unlisted session found valid.1 valid.2 _
          · have fails : (!row.isActive) = true ∨ row.userId ≠ claims.sub := by
              by_contra passes
              simp only [not_or, Bool.not_eq_true', Bool.not_eq_false, ne_eq, not_not] at passes
              exact valid passes
            simp only [if_pos fails]
            refine .unbound presented live unlisted session fun other stored => ?_
            rw [found] at stored
            cases stored
            exact valid

/-- A live token that is on the blacklist is a replay, and nothing else happens. -/
theorem RefreshOutcome.of_replay {start final : Server T} {request : HttpRequest}
    {result : Except AppError (Reply T)} (outcome : RefreshOutcome env start request result final)
    {claims : Claims} (presented : request.refreshToken = some (.signed claims))
    (live : claims.LiveRefresh start.clock) (listed : start.Blacklisted claims.jti) :
    result = .error (.auth AppError.tokenReplay.message) ∧ final = start.afterReplay env claims := by
  cases outcome with
  | refused _ invalid => exact absurd live (invalid claims presented)
  | replayed presented' =>
    rw [presented] at presented'
    cases presented'
    exact ⟨rfl, rfl⟩
  | unbound presented' _ unlisted =>
    rw [presented] at presented'
    cases presented'
    exact absurd listed unlisted
  | rebound presented' _ unlisted =>
    rw [presented] at presented'
    cases presented'
    exact absurd listed unlisted
  | sessionless presented' _ unlisted =>
    rw [presented] at presented'
    cases presented'
    exact absurd listed unlisted

omit [LinearOrder T] [FloorRing T] in
/-- What a replay leaves: the session is committed inactive, and the other rows are as they were. -/
theorem find_afterReplay {start : Server T} (same : start.committed = start.working)
    {claims : Claims} {sid : Uuid} {row : Session T} (session : claims.sid = some sid)
    (found : start.working.sessions.find sid = some row) :
    (∃ row, (start.afterReplay env claims).committed.sessions.find sid = some row ∧
      row.isActive = false) ∧
    ∀ other, other ≠ sid → (start.afterReplay env claims).committed.sessions.find other =
      start.working.sessions.find other := by
  cases Table.find_key found
  simp only [Server.afterReplay, session, Option.bind_some, found]
  split
  next =>
    have changed (other : Uuid) := find_changeSession start row.sessionUuid other
      (ended start.clock "refresh_replay") fun _ => rfl
    refine ⟨⟨ended start.clock "refresh_replay" row, ?_, rfl⟩, fun other different => ?_⟩
    · exact (changed row.sessionUuid).trans (by rw [if_pos rfl, found]; rfl)
    · exact (changed other).trans (if_neg different)
  next inactive =>
    rw [same]
    exact ⟨⟨row, found, by simpa using inactive⟩, fun _ _ => rfl⟩

/-! ## The logout route -/

/-- A request may blacklist the live token that it presents and end the session of the token. -/
def Permits.presented (start : Server T) (request : HttpRequest) : Permits T where
  creates _ := False
  writes row := ∃ claims, request.refreshToken = some (.signed claims) ∧
    claims.type = .refresh ∧ claims.sid = some row.sessionUuid
  blacklists jti := ∃ claims, request.refreshToken = some (.signed claims) ∧ claims.jti = jti ∧
    claims.LiveRefresh start.clock ∧ ¬ start.Blacklisted jti

variable {env}

theorem follows_revokeToken {permits : Permits T} {server : Server T} {claims : Claims}
    (permitted : permits.blacklists claims.jti) :
    Follows env permits server (server.revokeToken claims) := by
  unfold Server.revokeToken
  dsimp only
  split
  · exact .single (.blacklist permitted)
  · exact .refl server

theorem follows_logoutToken (start : Server T) {request : HttpRequest} {token : Token}
    (presented : request.refreshToken = some token) :
    Follows env (.presented start request) start ((logoutToken env token).run handle start).2 := by
  obtain ⟨result, verified, check⟩ := run_verifyRefresh start token
  simp only [logoutToken, run_bind, verified]
  cases check with
  | rejected => exact .refl start
  | replayed => exact .refl start
  | @accepted claims live unlisted =>
    simp only [run_revokeToken]
    have revoked : Follows env (.presented start request) start (start.revokeToken claims) :=
      follows_revokeToken ⟨claims, presented, rfl, live, unlisted⟩
    cases session : claims.sid with
    | none => exact revoked
    | some sid =>
      simp only [run_bind, run_view]
      cases found : (start.revokeToken claims).working.sessions.find sid with
      | none => exact revoked
      | some row =>
        cases Table.find_key found
        simp only [run_ite, run_revoke env _ _ found, run_pure]
        cases active : row.isActive with
        | false => exact revoked
        | true =>
          exact revoked.trans (follows_revoke _ found active ⟨claims, presented, live.isRefresh, session⟩)

/-- Neither the committed nor the working database has changed. -/
structure Server.SameData (before after : Server T) : Prop where
  working : after.working = before.working
  committed : after.committed = before.committed

variable (env) in
/-- Logout on a token of an inactive session writes nothing to the database. -/
theorem logoutToken_inactive (start : Server T) {claims : Claims} {sid : Uuid} {row : Session T}
    (session : claims.sid = some sid) (found : start.working.sessions.find sid = some row)
    (inactive : row.isActive = false) :
    start.SameData ((logoutToken env (.signed claims)).run handle start).2 := by
  obtain ⟨result, verified, check⟩ := run_verifyRefresh start (.signed claims)
  simp only [logoutToken, run_bind, verified]
  cases check with
  | replayed => exact ⟨rfl, rfl⟩
  | rejected => exact ⟨rfl, rfl⟩
  | accepted =>
    have working := revokeToken_working start claims
    simp only [run_revokeToken, session, run_bind, run_view, working, found, inactive,
      Bool.false_eq_true, if_false, run_pure]
    exact ⟨working, revokeToken_committed start claims⟩

variable (env) in
theorem logout_inactive (start : Server T) {request : HttpRequest} {claims : Claims} {sid : Uuid}
    {row : Session T} (presented : request.refreshToken = some (.signed claims))
    (session : claims.sid = some sid) (found : start.working.sessions.find sid = some row)
    (inactive : row.isActive = false) :
    start.SameData ((logout env request).run handle start).2 := by
  have checked := Within.aside .reads (verifyCsrf request) start
  simp only [logout, presented, run_bind, run_tryCatch]
  cases ran : (verifyCsrf request).run handle start with
  | mk result middle =>
    rw [ran] at checked
    have same : start.SameData middle := ⟨checked.working, checked.committed⟩
    cases result with
    | error => exact same
    | ok =>
      have inner := logoutToken_inactive env middle session
        (by rw [same.working]; exact found) inactive
      cases ran : (logoutToken env (.signed claims)).run handle middle with
      | mk result final =>
        rw [ran] at inner
        have both : start.SameData final :=
          ⟨inner.working.trans same.working, inner.committed.trans same.committed⟩
        cases result with
        | ok =>
          simp only [ran]
          exact both
        | error error =>
          simp only [ran]
          cases caught : error.kind.isAuthError <;> simpa [caught] using both

omit [CommRing T] [FloorRing T] in
theorem Aside.blacklisted {frame : Frame T} {before after : Server T}
    (aside : Aside frame before after) (jti : Uuid) :
    after.Blacklisted jti ↔ before.Blacklisted jti := by
  unfold Server.Blacklisted ExpiringStore.lookup
  rw [aside.clock, aside.blacklist jti]

omit [FloorRing T] in
theorem Permits.presented_mono {frame : Frame T} {before after : Server T} {request : HttpRequest}
    (aside : Aside frame before after) :
    (Permits.presented after request).Below (.presented before request) := by
  refine ⟨fun _ => id, fun _ => id, ?_⟩
  rintro jti ⟨claims, presented, same, live, unlisted⟩
  rw [aside.clock] at live
  rw [aside.blacklisted] at unlisted
  exact ⟨claims, presented, same, live, unlisted⟩

variable (env) in
theorem follows_logout (start : Server T) (request : HttpRequest) :
    Follows env (.presented start request) start ((logout env request).run handle start).2 := by
  have checked := Within.aside .sessions (verifyCsrf request) start
  unfold logout
  rw [run_bind]
  split
  next value middle ran =>
    rw [ran] at checked
    refine (Follows.single (.aside checked)).trans ?_
    cases presented : request.refreshToken with
    | none => exact .refl middle
    | some token =>
      have inner : Follows env (.presented start request) middle
          ((logoutToken env token).run handle middle).2 :=
        (follows_logoutToken middle presented).mono (Permits.presented_mono checked)
      simp only [run_bind, run_tryCatch]
      cases ran : (logoutToken env token).run handle middle with
      | mk result final =>
        rw [ran] at inner
        cases result with
        | ok => exact inner
        | error error => cases caught : error.kind.isAuthError <;> simpa [caught, run_ite] using inner
  next error middle ran =>
    rw [ran] at checked
    exact .single (.aside checked)

end

end EnterpriseAuth
