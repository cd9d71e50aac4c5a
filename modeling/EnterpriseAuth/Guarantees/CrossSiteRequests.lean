import EnterpriseAuth.Guarantees.Logout
import EnterpriseAuth.Guarantees.Rotation
import EnterpriseAuth.Requests.Validation

/-!
# Requests without the CSRF token

A request that another site makes a browser send carries the cookies and not the header.  All but one
of the routes that go by the auth cookies refuse it before they write: what remains is the expiry of a
session that has lapsed.  `POST /auth/refresh` does not look at the header.
-/

namespace EnterpriseAuth

open Effects Program SessionService

variable {T : Type} {env : Environment T}

/-! ## The requests -/

/-- The `POST` and `DELETE` routes behind the access token. -/
def ProtectedRoute.mutates : ProtectedRoute → Bool
  | .resendVerification | .changeEmail .. | .twoFactorSetup _ | .twoFactorVerify _
  | .recoveryCodes .. | .regenerateRecoveryCodes .. | .twoFactorDisable .. | .logoutCurrent
  | .logoutAll | .revokeSession _ => true
  | .me | .oauthLinks | .oauthLink _ | .twoFactorStatus | .twoFactorQrcode | .listSessions ..
  | .getSession _ | .readMe | .lastLogin | .listUsers .. => false

/-- The `POST` and `DELETE` routes that authenticate by the auth cookies.  The other ones go by a
password, by a token in the body, or by nothing. -/
def Route.cookieMutation : Route → Bool
  | .refresh | .logout => true
  | .withAccess route => route.mutates
  | .login _ | .openTo _ => false

/-- The CSRF header is missing or differs from the cookie. -/
def HttpRequest.LacksCsrf (request : HttpRequest) : Prop :=
  request.headers.get "x-csrf-token" = none ∨
    request.headers.get "x-csrf-token" ≠ request.csrfCookie

def Token.session : Token → Option Uuid
  | .signed claims => claims.sid
  | .unsigned _ => none

/-- The session of the token that the route goes by. -/
def Arrival.presentingSession (arrival : Arrival) : Option Uuid :=
  match arrival.route with
  | .withAccess _ => arrival.http.accessToken.bind Token.session
  | .refresh | .logout => arrival.http.refreshToken.bind Token.session
  | .login _ | .openTo _ => none

/-! ## What may change -/

variable (env) in
/-- The row is as before, or the activity was recorded in it, or that it has lapsed. -/
inductive Session.Aged [CommRing T] [LinearOrder T] (now : T) (row : Session T) : Session T → Prop
  | same : Session.Aged now row row
  | touched : Session.Aged now row (touched now row)
  | expired {reason : String} (lapsed : row.Lapsed env now)
    (expiry : reason ∈ expiryReasons) :
    Session.Aged now row (ended now reason row)

variable (env) in
/-- No row and no entry of the blacklist has changed, but for the age of the presenting session. -/
structure Server.LeavesAlone [CommRing T] [LinearOrder T] (presenting : Option Uuid)
    (before after : Server T) : Prop where
  users : after.committed.users = before.committed.users
  twoFactorAuth : after.committed.twoFactorAuth = before.committed.twoFactorAuth
  backupCodes : after.committed.backupCodes = before.committed.backupCodes
  emailTokens : after.committed.emailTokens = before.committed.emailTokens
  oauthAccounts : after.committed.oauthAccounts = before.committed.oauthAccounts
  sessions : ∀ sid, after.committed.sessions.find sid = before.committed.sessions.find sid ∨
    presenting = some sid ∧ ∃ row row', before.committed.sessions.find sid = some row ∧
      after.committed.sessions.find sid = some row' ∧ row.Aged env before.clock row'
  blacklist : ∀ jti, after.Blacklisted jti ↔ before.Blacklisted jti

/-- Nothing has been committed and nothing blacklisted. -/
structure Server.Unsaved (before after : Server T) : Prop where
  committed : after.committed = before.committed
  clock : after.clock = before.clock
  blacklist : ∀ jti, after.redis (.revokedJti jti) = before.redis (.revokedJti jti)

theorem Aside.unsaved {frame : Frame T} {before after : Server T} (aside : Aside frame before after) :
    before.Unsaved after :=
  ⟨aside.committed, aside.clock, aside.blacklist⟩

theorem Server.Unsaved.symm {before after : Server T} (unsaved : before.Unsaved after) :
    after.Unsaved before :=
  ⟨unsaved.committed.symm, unsaved.clock.symm, fun jti => (unsaved.blacklist jti).symm⟩

theorem Server.Unsaved.trans {first second third : Server T} (left : first.Unsaved second)
    (right : second.Unsaved third) : first.Unsaved third where
  committed := right.committed.trans left.committed
  clock := right.clock.trans left.clock
  blacklist jti := (right.blacklist jti).trans (left.blacklist jti)

variable [CommRing T] [LinearOrder T]

theorem Server.Unsaved.leavesAlone {presenting : Option Uuid} {before after : Server T}
    (unsaved : before.Unsaved after) : before.LeavesAlone env presenting after where
  users := by rw [unsaved.committed]
  twoFactorAuth := by rw [unsaved.committed]
  backupCodes := by rw [unsaved.committed]
  emailTokens := by rw [unsaved.committed]
  oauthAccounts := by rw [unsaved.committed]
  sessions sid := .inl (by rw [unsaved.committed])
  blacklist jti := by
    unfold Server.Blacklisted
    rw [unsaved.clock, ExpiringStore.lookup_congr (unsaved.blacklist jti)]

theorem Server.LeavesAlone.of_unsaved {presenting : Option Uuid} {before middle after : Server T}
    (leaves : middle.LeavesAlone env presenting after) (unsaved : before.Unsaved middle) :
    before.LeavesAlone env presenting after := by
  obtain ⟨users, twoFactorAuth, backupCodes, emailTokens, oauthAccounts, sessions, blacklist⟩ := leaves
  have first : before.LeavesAlone env presenting middle := unsaved.leavesAlone
  rw [unsaved.committed] at users twoFactorAuth backupCodes emailTokens oauthAccounts sessions
  rw [unsaved.clock] at sessions
  exact ⟨users, twoFactorAuth, backupCodes, emailTokens, oauthAccounts, sessions,
    fun jti => (blacklist jti).trans (first.blacklist jti)⟩

/-- Where the server was before it saved anything does not matter. -/
theorem Server.Unsaved.leavesAlone_iff {presenting : Option Uuid} {before middle after : Server T}
    (unsaved : before.Unsaved middle) :
    middle.LeavesAlone env presenting after ↔ before.LeavesAlone env presenting after :=
  ⟨fun leaves => leaves.of_unsaved unsaved, fun leaves => leaves.of_unsaved unsaved.symm⟩

/-! ## The check -/

theorem run_verifyCsrf_lacking {request : HttpRequest} (lacks : request.LacksCsrf)
    (server : Server T) :
    ∃ error, (verifyCsrf request).run handle server = (.error error, server) := by
  unfold verifyCsrf
  split
  next cookie header given sent =>
    by_cases ascii : (!(isAscii cookie && isAscii header)) = true
    · exact ⟨_, by rw [if_pos ascii]; rfl⟩
    · rw [if_neg ascii]
      by_cases differ : cookie ≠ header
      · exact ⟨_, by rw [if_pos differ]; rfl⟩
      · have isCookie : request.csrfCookie = some cookie := (Option.filter_eq_some_iff.mp given).1
        have isHeader : request.headers.get "x-csrf-token" = some header :=
          (Option.filter_eq_some_iff.mp sent).1
        rw [HttpRequest.LacksCsrf, isCookie, isHeader, not_not.mp differ] at lacks
        simp at lacks
  next => exact ⟨_, rfl⟩

/-- A route that checks the token first does nothing else. -/
theorem run_verifyCsrf_first {α : Type} {request : HttpRequest} (lacks : request.LacksCsrf)
    (rest : Unit → App T α) (server : Server T) :
    ∃ error, (verifyCsrf request >>= rest).run handle server = (.error error, server) := by
  obtain ⟨error, ran⟩ := run_verifyCsrf_lacking lacks server
  exact ⟨error, by rw [run_bind, ran]⟩

/-! ## The routes that check it -/

theorem leavesAlone_expire {server : Server T} {row : Session T} {sid : Uuid} {reason : String}
    (settled : server.committed = server.working) (found : server.working.sessions.find sid = some row)
    (lapsed : row.Lapsed env server.clock) (expiry : reason ∈ expiryReasons) :
    server.LeavesAlone env (some sid) (server.expire env row reason) := by
  obtain rfl : row.sessionUuid = sid := Table.find_key found
  let changed := server.changeSession row.sessionUuid (ended server.clock reason) fun _ => rfl
  have aside : Aside .reads { changed with committed := changed.working }
      (server.expire env row reason) := aside_clearCache env _ .reads row.sessionUuid
  have sessions (other : Uuid) := find_changeSession server row.sessionUuid other
    (ended server.clock reason) fun _ => rfl
  have blacklist (jti : Uuid) : (server.expire env row reason).Blacklisted jti ↔
      server.Blacklisted jti := aside.blacklisted jti
  refine ⟨?_, ?_, ?_, ?_, ?_, fun other => ?_, blacklist⟩
  iterate 5 rw [aside.committed, settled]; rfl
  rw [aside.committed, settled]
  change changed.working.sessions.find other = _ ∨ _
  by_cases here : other = row.sessionUuid
  · subst here
    refine .inr ⟨rfl, row, _, found, ?_, .expired lapsed expiry⟩
    refine (sessions row.sessionUuid).trans ?_
    rw [if_pos rfl, found, Option.map_some]
  · exact .inl ((sessions other).trans (if_neg here))

theorem ValidationOutcome.rejected {server final : Server T} {sid userId : Uuid} {error : AppError}
    (outcome : ValidationOutcome env server sid userId (.error error) final)
    (settled : server.committed = server.working) : server.LeavesAlone env (some sid) final := by
  cases outcome with
  | refused => exact Server.Unsaved.leavesAlone ⟨rfl, rfl, fun _ => rfl⟩
  | expired found owner active lapsed expiry =>
    exact leavesAlone_expire settled found lapsed expiry

theorem ValidationOutcome.unsaved {server final : Server T} {sid userId : Uuid} {row : Session T}
    (outcome : ValidationOutcome env server sid userId (.ok row) final) : server.Unsaved final := by
  cases outcome with
  | throttled => exact ⟨rfl, rfl, fun _ => rfl⟩
  | touched =>
    refine ⟨rfl, rfl, fun jti => ?_⟩
    simp [Server.touch, Server.setActive, Server.changeSession, Server.withSessions, ExpiringStore.put]

/-- The routes behind the rate limit of the second factor check the CSRF token next. -/
theorem run_twofaRateLimit_lacking {α : Type} {request : HttpRequest} (lacks : request.LacksCsrf)
    (user : User T) (rest : Unit → App T α) (server : Server T) :
    ∃ error final, (twofaRateLimit env request user >>= fun _ =>
      verifyCsrf request >>= rest).run handle server = (.error error, final) ∧
      server.Unsaved final := by
  rw [run_bind]
  cases limited : (twofaRateLimit env request user).run handle server with
  | mk result next =>
    have aside : Aside .reads server next := Within.of_exact .reads limited
    cases result with
    | error error => exact ⟨error, next, rfl, aside.unsaved⟩
    | ok =>
      obtain ⟨error, refused⟩ := run_verifyCsrf_first lacks rest next
      exact ⟨error, next, refused, aside.unsaved⟩

variable (env) in
theorem run_serveWithContext_lacking (registry : String → Option Provider) {request : HttpRequest}
    (lacks : request.LacksCsrf) (context : AuthContext T) {route : ProtectedRoute}
    (mutates : route.mutates = true) (later : route.csrfFirst = false) (server : Server T) :
    ∃ error final, (serveWithContext env registry request context route).run handle server =
      (.error error, final) ∧ server.Unsaved final := by
  cases route with
  | twoFactorSetup | twoFactorVerify | recoveryCodes | regenerateRecoveryCodes | twoFactorDisable =>
    exact run_twofaRateLimit_lacking lacks context.user _ server
  | resendVerification | changeEmail | logoutCurrent | logoutAll | revokeSession => cases later
  | _ => cases mutates

variable (env) in
/-- A route behind the access token fails, and at most the session of the token has lapsed. -/
theorem run_serveProtected_lacking (registry : String → Option Provider) {request : HttpRequest}
    (lacks : request.LacksCsrf) {route : ProtectedRoute} (mutates : route.mutates = true)
    {server : Server T} (settled : server.committed = server.working) :
    ∃ error final, (serveProtected env registry request route).run handle server =
      (.error error, final) ∧
      server.LeavesAlone env (request.accessToken.bind Token.session) final := by
  unfold serveProtected
  cases first : route.csrfFirst with
  | true =>
    obtain ⟨error, ran⟩ := run_verifyCsrf_first lacks
      (fun _ => getAuthContext env request >>= fun context =>
        serveWithContext env registry request context route) server
    exact ⟨error, server, ran, Server.Unsaved.leavesAlone ⟨rfl, rfl, fun _ => rfl⟩⟩
  | false =>
    have outcome := run_getAuthContext env server request
    simp only [Bool.false_eq_true, if_false, run_bind]
    cases ran : (getAuthContext env request).run handle server with
    | mk result next =>
      rw [ran] at outcome
      cases outcome with
      | refused error =>
        exact ⟨error, next, rfl, Server.Unsaved.leavesAlone ⟨rfl, rfl, fun _ => rfl⟩⟩
      | rejected presented live session found active outcome =>
        refine ⟨_, _, rfl, ?_⟩
        rw [presented, Option.bind_some, Token.session, session]
        exact outcome.rejected settled
      | @sessionless claims user presented unbound =>
        obtain ⟨error, final, served, unsaved⟩ := run_serveWithContext_lacking env registry
          lacks { user, session := none } mutates first next
        exact ⟨error, final, served, unsaved.leavesAlone⟩
      | @validated claims sid user row _ presented live session found active outcome =>
        obtain ⟨error, final, served, unsaved⟩ := run_serveWithContext_lacking env registry
          lacks { user, session := some row } mutates first next
        exact ⟨error, final, served, (outcome.unsaved.trans unsaved).leavesAlone⟩

/-! ## The refresh route -/

/-- A refresh with the token writes: it is rotated with a second or more left, or its session is
active. -/
def Server.Spends (server : Server T) (claims : Claims) : Prop :=
  claims.LiveRefresh server.clock ∧
    (¬ server.Blacklisted claims.jti ∧ server.clock + 1 ≤ (claims.exp : T) ∨
      ∃ row, claims.sid = some row.sessionUuid ∧ server.working.Holds row)

/-- None of the changes that a lapsing session shows end it for another reason, or move it to another
refresh token. -/
theorem Session.Aged.keeps {now : T} {row row' : Session T} (aged : row.Aged env now row') :
    row'.refreshTokenId = row.refreshTokenId ∧
      (row'.isActive = row.isActive ∨ ∃ reason ∈ expiryReasons, row'.logoutReason = some reason) := by
  cases aged with
  | same => exact ⟨rfl, .inl rfl⟩
  | touched => exact ⟨rfl, .inl rfl⟩
  | @expired reason lapsed expiry => exact ⟨rfl, .inr ⟨reason, expiry, rfl⟩⟩

/-- The row that a server has left alone, if it has. -/
theorem Server.LeavesAlone.aged {presenting : Option Uuid} {before after : Server T}
    (leaves : before.LeavesAlone env presenting after) {sid : Uuid} {row later : Session T}
    (found : before.committed.sessions.find sid = some row)
    (foundLater : after.committed.sessions.find sid = some later) :
    row.Aged env before.clock later := by
  rcases leaves.sessions sid with kept | ⟨-, stored, stored', foundRow, foundRow', aged⟩
  · obtain rfl : row = later := Option.some.inj (found.symm.trans (kept.symm.trans foundLater))
    exact .same
  · obtain rfl : row = stored := Option.some.inj (found.symm.trans foundRow)
    obtain rfl : later = stored' := Option.some.inj (foundLater.symm.trans foundRow')
    exact aged

/-- A replay ends the session for a reason of its own. -/
theorem not_leavesAlone_afterReplay {start : Server T} {claims : Claims} {row : Session T}
    {presenting : Option Uuid} (settled : start.committed = start.working)
    (session : claims.sid = some row.sessionUuid) (held : start.working.Holds row) :
    ¬ start.LeavesAlone env presenting (start.afterReplay env claims) := by
  intro leaves
  obtain ⟨found, active⟩ := held
  have changed := find_revoke env start row "refresh_replay" row.sessionUuid
  rw [if_pos rfl, found, Option.map_some] at changed
  have foundLater : (start.afterReplay env claims).committed.sessions.find row.sessionUuid =
      some (ended start.clock "refresh_replay" row) := by
    simp only [Server.afterReplay, session, Option.bind_some, found, active, if_true]
    exact changed
  rw [← settled] at found
  obtain ⟨-, same | ⟨reason, expiry, ended⟩⟩ := (leaves.aged found foundLater).keeps
  · rw [active] at same
    cases same
  · obtain rfl : "refresh_replay" = reason := Option.some.inj ended
    simp [expiryReasons] at expiry

omit [LinearOrder T] in
theorem afterReplay_of_inactive {start : Server T} {claims : Claims}
    (inactive : ∀ row, claims.sid = some row.sessionUuid → ¬ start.working.Holds row) :
    start.afterReplay env claims = start := by
  obtain same | ⟨row, session, held, -⟩ := afterReplay_cases env start claims
  · exact same
  · exact absurd held (inactive row session)

section
variable [FloorRing T]

theorem one_le_of_pyInt_pos {value : T} (positive : 0 < pyInt value) : 1 ≤ value := by
  unfold pyInt at positive
  by_cases nonneg : 0 ≤ value
  · rw [if_pos nonneg] at positive
    exact Int.floor_pos.mp positive
  · rw [if_neg nonneg] at positive
    exact absurd (Int.ceil_pos.mp positive).le nonneg

theorem revokeToken_of_expiring {server : Server T} {claims : Claims}
    (expiring : ¬ 0 < pyInt ((claims.exp : T) - server.clock)) :
    server.revokeToken claims = server :=
  if_neg expiring

theorem blacklisted_revokeToken [IsStrictOrderedRing T] {server : Server T} {claims : Claims}
    (positive : 0 < pyInt ((claims.exp : T) - server.clock)) :
    (server.revokeToken claims).Blacklisted claims.jti := by
  have later : server.clock < claims.coveredUntil server.clock :=
    lt_add_of_pos_right _ (Int.cast_pos.mpr positive)
  have listed := revokeToken_listed positive server.clock later
  unfold Server.Blacklisted
  rwa [revokeToken_clock]

/-- The token of a stored session is spent on what it changes. -/
theorem RefreshOutcome.leavesAlone_iff [IsStrictOrderedRing T] {start final : Server T}
    {request : HttpRequest} {error : AppError}
    (outcome : RefreshOutcome env start request (.error error) final) (presenting : Option Uuid)
    (settled : start.committed = start.working)
    (bound : ∀ claims, request.refreshToken = some (.signed claims) →
      claims.LiveRefresh start.clock → claims.BoundIn start.working.sessions) :
    start.LeavesAlone env presenting final ↔
      ∀ claims, request.refreshToken = some (.signed claims) → ¬ start.Spends claims := by
  have here : start.LeavesAlone env presenting start :=
    Server.Unsaved.leavesAlone ⟨rfl, rfl, fun _ => rfl⟩
  cases outcome with
  | refused message invalid =>
    exact iff_of_true here fun claims presented spends => invalid claims presented spends.1
  | @replayed claims presented live listed =>
    -- a replay ends the session of the token if that is still active
    by_cases active : ∃ row, claims.sid = some row.sessionUuid ∧ start.working.Holds row
    · have ends := active
      obtain ⟨row, session, held⟩ := ends
      exact iff_of_false (not_leavesAlone_afterReplay settled session held) fun unspent =>
        unspent claims presented ⟨live, .inr active⟩
    · rw [afterReplay_of_inactive (by simpa using active)]
      refine iff_of_true here fun other presented' spends => ?_
      obtain rfl : claims = other := Token.signed.inj (Option.some.inj (presented.symm.trans presented'))
      rcases spends.2 with unlisted | held
      · exact unlisted.1 listed
      · exact active held
  | @unbound claims sid presented live unlisted session invalid =>
    -- the token was retired before its session was found over, unless it ends too soon to be listed
    by_cases positive : 0 < pyInt ((claims.exp : T) - start.clock)
    · have whole : start.clock + 1 ≤ (claims.exp : T) :=
        le_sub_iff_add_le'.mp (one_le_of_pyInt_pos positive)
      refine iff_of_false (fun leaves => ?_) fun unspent =>
        unspent claims presented ⟨live, .inl ⟨unlisted, whole⟩⟩
      exact unlisted ((leaves.blacklist claims.jti).mp (blacklisted_revokeToken positive))
    · refine iff_of_true ?_ fun other presented' spends => ?_
      · rw [Server.rotated, revokeToken_of_expiring positive]
        exact Server.Unsaved.leavesAlone ⟨rfl, rfl, fun _ => rfl⟩
      · obtain rfl : claims = other :=
          Token.signed.inj (Option.some.inj (presented.symm.trans presented'))
        rcases spends.2 with ⟨-, whole⟩ | ⟨row, named, found, active⟩
        · exact positive (pyInt_pos (le_sub_iff_add_le'.mpr whole))
        · obtain ⟨stored, named', foundStored, owner⟩ := bound claims presented live
          rw [Option.some.inj (named.symm.trans named'), foundStored] at found
          obtain rfl : stored = row := Option.some.inj found
          obtain rfl : sid = stored.sessionUuid := Option.some.inj (session.symm.trans named)
          exact invalid stored foundStored ⟨active, owner⟩

/-- A refresh that is answered moves the session on to another token. -/
theorem RefreshOutcome.spends {start final : Server T} {request : HttpRequest} {reply : Reply T}
    (outcome : RefreshOutcome env start request (.ok reply) final) (presenting : Option Uuid)
    (settled : start.committed = start.working)
    (bound : ∀ claims, request.refreshToken = some (.signed claims) →
      claims.LiveRefresh start.clock → claims.BoundIn start.working.sessions)
    (numbered : ∀ sid row, start.working.sessions.find sid = some row → row.Numbered start.draws) :
    ¬ start.LeavesAlone env presenting final.commit ∧
      ∃ claims, request.refreshToken = some (.signed claims) ∧ start.Spends claims := by
  cases outcome with
  | @rebound claims sid row presented live unlisted session found active owner csrf =>
    obtain rfl : row.sessionUuid = sid := Table.find_key found
    refine ⟨fun leaves => ?_, claims, presented, live, .inr ⟨row, session, found, active⟩⟩
    have moved := find_followed env start claims row.sessionUuid row.sessionUuid
    rw [if_pos rfl, found, Option.map_some] at moved
    have before := found
    rw [← settled] at before
    have kept : start.draws + 1 = row.refreshTokenId := (leaves.aged before moved).keeps.1
    have known := (numbered row.sessionUuid row found).2
    exact (known.trans (Nat.lt_succ_self start.draws)).ne' kept
  | sessionless presented live unlisted session =>
    obtain ⟨row, named, -⟩ := bound _ presented live
    rw [session] at named
    cases named

end

/-! ## Any request -/

variable (env) in
/-- A refresh that the global limit lets pass and that spends its token. -/
def World.SpendsRefresh [FloorRing T] (world : World T) (arrival : Arrival) : Prop :=
  arrival.route = .refresh ∧ world.LetsPass env arrival ∧
    ∃ claims, arrival.http.refreshToken = some (.signed claims) ∧ world.server.Spends claims

variable {world : World T} {arrival : Arrival}

theorem World.Passes.spends {limited : Server T} (passes : world.Passes env arrival limited)
    (claims : Claims) : limited.Spends claims ↔ world.server.Spends claims := by
  unfold Server.Spends
  rw [passes.aside.clock, passes.aside.blacklisted, passes.aside.working]

section
variable [FloorRing T]

variable (env) in
/-- Without the CSRF token a route that goes by the cookies fails, unless it is the refresh. -/
theorem run_dispatch_lacking (cookie : arrival.route.cookieMutation = true)
    (lacks : arrival.http.LacksCsrf) (other : arrival.route ≠ .refresh) {server : Server T}
    (settled : server.committed = server.working) :
    ∃ error final, (dispatch env arrival).run handle server = (.error error, final) ∧
      server.LeavesAlone env arrival.presentingSession final := by
  obtain ⟨http, route, registry⟩ := arrival
  cases route with
  | login | openTo => cases cookie
  | refresh => exact absurd rfl other
  | logout =>
    obtain ⟨error, ran⟩ := run_verifyCsrf_lacking (T := T) lacks server
    refine ⟨error, server, ?_, Server.Unsaved.leavesAlone ⟨rfl, rfl, fun _ => rfl⟩⟩
    simp only [dispatch, logout, run_map, run_bind, ran]
  | withAccess route =>
    obtain ⟨error, final, ran, leaves⟩ :=
      run_serveProtected_lacking env registry lacks cookie settled
    refine ⟨error, final, ?_, leaves⟩
    simp only [dispatch, run_map, ran]

omit [FloorRing T] in
/-- A refresh token that a client can present is bound to a stored session. -/
theorem World.WellIssued.presented (wellIssued : world.WellIssued)
    (owned : ∀ token ∈ arrival.presented, world.holds token) {limited : Server T}
    (passes : world.Passes env arrival limited) {claims : Claims}
    (presented : arrival.http.refreshToken = some (.signed claims))
    (live : claims.LiveRefresh limited.clock) : claims.BoundIn limited.working.sessions := by
  have issued : claims ∈ world.issued := owned _ (Arrival.mem_presented_refresh presented)
  rw [passes.aside.working]
  exact wellIssued.bound claims issued (by simp [live.isRefresh])

/-- A request that goes by the auth cookies and lacks the CSRF token leaves everything alone exactly
when it is no refresh that spends its token. -/
theorem cookie_mutations_protected_iff [IsStrictOrderedRing T]
    (reachable : (service env).Reachable world)
    (owned : ∀ token ∈ arrival.presented, world.holds token)
    (cookie : arrival.route.cookieMutation = true) (lacks : arrival.http.LacksCsrf) :
    world.server.LeavesAlone env arrival.presentingSession (world.exchange env arrival).after ↔
      ¬ world.SpendsRefresh env arrival := by
  have wellIssued := wellIssued_of_reachable reachable
  cases limited : (rateLimitMiddleware env arrival.http).run handle world.server with
  | mk result server =>
    have aside : Aside .reads world.server server := Within.of_exact .reads limited
    cases result with
    | error error =>
      -- the global limit refuses the request
      have refused : (world.exchange env arrival).after = server := by
        simp only [World.exchange, serve, run_bind, limited]
      rw [refused]
      refine iff_of_true aside.unsaved.leavesAlone fun spends => ?_
      have passed := spends.2.1
      rw [World.LetsPass, limited] at passed
      cases passed
    | ok =>
      have passes : world.Passes env arrival server := limited
      have letsPass := (World.passes_iff.mp passes).1
      have exchanged := exchange_passes passes
      obtain ⟨settled, working, -, draws⟩ := passes.start
      rw [← aside.unsaved.leavesAlone_iff]
      by_cases refreshing : arrival.route = .refresh
      · have bound (claims : Claims) (presented : arrival.http.refreshToken = some (.signed claims)) :=
          wellIssued.presented owned passes presented
        have numbered (sid : Uuid) (row : Session T)
            (found : server.working.sessions.find sid = some row) : row.Numbered server.draws := by
          rw [working] at found
          obtain ⟨sessionUuid, refreshTokenId⟩ := numbered_of_reachable reachable sid row found
          exact ⟨sessionUuid.trans_le draws, refreshTokenId.trans_le draws⟩
        have spent : world.SpendsRefresh env arrival ↔
            ∃ claims, arrival.http.refreshToken = some (.signed claims) ∧ server.Spends claims := by
          simp [World.SpendsRefresh, refreshing, letsPass, passes.spends]
        rw [run_getDb] at exchanged
        cases ran : (dispatch env arrival).run handle server with
        | mk result final =>
          rw [ran] at exchanged
          have outcome := refreshOutcome_of_dispatch env refreshing ran
          rw [spent]
          cases result with
          | error error =>
            rw [(Prod.mk.inj exchanged).2, outcome.leavesAlone_iff _ settled bound]
            simp
          | ok reply =>
            rw [(Prod.mk.inj exchanged).2]
            obtain ⟨changed, spends⟩ :=
              outcome.spends arrival.presentingSession settled bound numbered
            exact iff_of_false changed (not_not.mpr spends)
      · obtain ⟨error, final, ran, leaves⟩ :=
          run_dispatch_lacking env cookie lacks refreshing settled
        rw [run_getDb, ran] at exchanged
        rw [(Prod.mk.inj exchanged).2]
        exact iff_of_true leaves fun spends => refreshing spends.1

/-! ## A refresh that another site asks for -/

/-- Alice's browser signs her out of all devices, or so another site asks. -/
def forgedLogoutAll : Arrival where
  http := { accessToken := some (.signed aliceAccess), csrfCookie := some "token" }
  route := .withAccess .logoutAll

theorem forged_logout_all_refused :
    aliceRegistered.server.LeavesAlone demo forgedLogoutAll.presentingSession
      (aliceRegistered.exchange demo forgedLogoutAll).after := by
  refine (cookie_mutations_protected_iff reachable_aliceRegistered (by decide +kernel) rfl
    (.inl rfl)).mpr fun spends => ?_
  cases spends.1

/-- Another site can make Alice's browser move on to another refresh token. -/
theorem forged_refresh_served :
    ¬ ∀ (world : World ℚ) (arrival : Arrival), (service demo).Reachable world →
      (∀ token ∈ arrival.presented, world.holds token) → arrival.route.cookieMutation = true →
      arrival.http.LacksCsrf →
      world.server.LeavesAlone demo arrival.presentingSession (world.exchange demo arrival).after := by
  intro protects
  have leaves := protects aliceRegistered (refreshWith aliceRefresh) reachable_aliceRegistered
    (by decide +kernel) rfl (.inl rfl)
  have listed : (aliceRegistered.exchange demo (refreshWith aliceRefresh)).after.Blacklisted 4 := by
    decide +kernel
  exact absurd ((leaves.blacklist 4).mp listed) (by decide +kernel)

end

end EnterpriseAuth
