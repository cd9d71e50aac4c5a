import EnterpriseAuth.Guarantees.Revocation

/-!
# Logout

`POST /auth/logout` ends the session of the refresh token that it is shown, unless the token has been
rotated before: the replay that `verify_refresh` reports is then swallowed with the other errors.
-/

namespace EnterpriseAuth

open Effects Program SessionService

variable {T : Type} {env : Environment T} [CommRing T] [LinearOrder T] [FloorRing T]

/-! ## The handler -/

/-- Logout on a token that is accepted revokes the active session of the token. -/
theorem logoutToken_accepted (start : Server T) {claims : Claims} {row : Session T}
    (live : claims.LiveRefresh start.clock) (unlisted : ¬ start.Blacklisted claims.jti)
    (session : claims.sid = some row.sessionUuid)
    (found : start.working.sessions.find row.sessionUuid = some row) (active : row.isActive = true) :
    (logoutToken env (.signed claims)).run handle start =
      (.ok (), (start.revokeToken claims).revoke env row "logout") := by
  have found' : (start.revokeToken claims).working.sessions.find row.sessionUuid = some row := by
    rw [revokeToken_working]
    exact found
  obtain ⟨result, verified, check⟩ := run_verifyRefresh start (.signed claims)
  simp only [logoutToken, run_bind, verified]
  cases check with
  | rejected invalid => exact absurd live (invalid claims rfl)
  | replayed _ listed => exact absurd listed unlisted
  | accepted =>
    simp only [run_revokeToken, session, run_bind, run_view, found', active, if_true,
      run_revoke env _ _ found']

/-- Logout on a rotated token does nothing. -/
theorem logoutToken_replayed (start : Server T) {claims : Claims}
    (live : claims.LiveRefresh start.clock) (listed : start.Blacklisted claims.jti) :
    (logoutToken env (.signed claims)).run handle start = (.error .tokenReplay, start) := by
  obtain ⟨result, verified, check⟩ := run_verifyRefresh start (.signed claims)
  simp only [logoutToken, run_bind, verified]
  cases check with
  | rejected invalid => exact absurd live (invalid claims rfl)
  | replayed => rfl
  | accepted _ unlisted => exact absurd listed unlisted

/-- A logout that answers has run `logoutToken` to its end, however that ended. -/
theorem logout_ok {start final : Server T} {request : HttpRequest} {claims : Claims} {page : Page T}
    (presented : request.refreshToken = some (.signed claims))
    (ran : (logout env request).run handle start = (.ok page, final)) :
    ∃ checked, Aside .reads start checked ∧
      final = ((logoutToken env (.signed claims)).run handle checked).2 := by
  simp only [logout, presented, run_bind, run_tryCatch] at ran
  cases verified : (verifyCsrf request).run handle start with
  | mk result checked =>
    refine ⟨checked, Within.of_exact .reads verified, ?_⟩
    rw [verified] at ran
    cases result with
    | error => cases ran
    | ok =>
      cases inner : (logoutToken env (.signed claims)).run handle checked with
      | mk result after =>
        simp only [inner] at ran
        cases result with
        | ok => cases ran; rfl
        | error error =>
          cases caught : error.kind.isAuthError with
          | true => simp only [caught, if_true] at ran; cases ran; rfl
          | false => simp only [caught] at ran; cases ran

variable {world : World T} {arrival : Arrival} {reply : Reply T}

/-! ## When logout ends the session -/

/-- The session is over: its row is inactive, and its tokens are good for nothing from now on. -/
def World.SessionOver (env : Environment T) (world : World T) (sid : Uuid) : Prop :=
  (∃ row, world.db.sessions.find sid = some row ∧ row.isActive = false) ∧
    ∀ later, (service env).Leads world later → later.Refuses env sid

theorem sessionOver_of_inactive {sid : Uuid} {row : Session T}
    (found : world.db.sessions.find sid = some row) (inactive : row.isActive = false) :
    world.SessionOver env sid :=
  ⟨⟨row, found, inactive⟩, fun _ leads => leads_refuses found inactive leads⟩

/-- A logout that is answered ends the session exactly when its refresh token has not been rotated
or the session is over already. -/
theorem logout_ends_session_iff (reachable : (service env).Reachable world) {claims : Claims}
    {sid : Uuid} (owned : claims ∈ world.issued) (isRefresh : claims.type = .refresh)
    (session : claims.sid = some sid) (unexpired : world.clock < (claims.exp : T))
    (routed : arrival.route = .logout)
    (presented : arrival.http.refreshToken = some (.signed claims))
    (answered : (world.exchange env arrival).reply = .ok reply) :
    (world.afterRequest env arrival).SessionOver env sid ↔
      ¬ world.server.Blacklisted claims.jti ∨
        ∃ row, world.db.sessions.find sid = some row ∧ row.isActive = false := by
  obtain ⟨row, named, found, -⟩ := (wellIssued_of_reachable reachable).bound claims owned
    (by rw [isRefresh]; exact nofun)
  rw [session] at named
  cases named
  obtain ⟨limited, final, passes, ran, after⟩ := exchange_answered answered
  obtain ⟨-, working, clock, -⟩ := passes.start
  simp only [dispatch, routed, run_map] at ran
  cases inner : (logout env arrival.http).run handle limited with
  | mk result left =>
    rw [inner] at ran
    cases result with
    | error => cases ran
    | ok page =>
      cases ran
      obtain ⟨checked, aside, same⟩ := logout_ok presented inner
      have sameWorking : checked.working = world.db := aside.working.trans working
      have sameClock : checked.clock = world.clock := aside.clock.trans clock
      have listedIff : checked.Blacklisted claims.jti ↔ world.server.Blacklisted claims.jti :=
        (aside.blacklisted _).trans (passes.aside.blacklisted _)
      have live : claims.LiveRefresh checked.clock := ⟨isRefresh, sameClock ▸ unexpired⟩
      have stored : checked.working.sessions.find row.sessionUuid = some row := by
        rw [sameWorking]
        exact found
      have left : (world.afterRequest env arrival).db = final.working := by
        change (world.exchange env arrival).after.committed = _
        rw [after]
        rfl
      -- a listed identifier is a replay, whose error the route swallows
      by_cases listed : world.server.Blacklisted claims.jti
      · rw [logoutToken_replayed checked live (listedIff.mpr listed)] at same
        have unchanged : (world.afterRequest env arrival).db = world.db := by
          rw [left, same, sameWorking]
        constructor
        · rintro ⟨inactive, -⟩
          rw [unchanged] at inactive
          exact .inr inactive
        · rintro (unlisted | ⟨other, sameRow, inactive⟩)
          · exact absurd listed unlisted
          · exact sessionOver_of_inactive (unchanged ▸ sameRow) inactive
      · refine ⟨fun _ => .inl listed, fun _ => ?_⟩
        cases active : row.isActive with
        | true =>
          rw [logoutToken_accepted checked live (mt listedIff.mp listed) session stored active]
            at same
          have revoked : (world.afterRequest env arrival).db.sessions.find row.sessionUuid =
              some (ended (checked.revokeToken claims).clock "logout" row) := by
            rw [left, same, find_revoke, if_pos rfl, revokeToken_working, stored]
            rfl
          exact sessionOver_of_inactive revoked rfl
        | false =>
          have data := logoutToken_inactive env checked session stored active
          have kept : (world.afterRequest env arrival).db.sessions.find row.sessionUuid = some row := by
            rw [left, same, data.working]
            exact stored
          exact sessionOver_of_inactive kept active

def logoutWith (refresh : Claims) : Arrival where
  http :=
    { refreshToken := some (.signed refresh), csrfCookie := some "token"
      headers := [("x-csrf-token", "token")] }
  route := .logout

/-- Alice has registered and holds her first pair. -/
def aliceRegistered : World ℚ := World.new.play demo [.request registerAlice]

theorem reachable_aliceRegistered : (service demo).Reachable aliceRegistered :=
  reachable_play World.new_starts (by decide +kernel)

/-- Alice and Bob register at the same instant. -/
def bothRegistered : World ℚ := aliceRegistered.next demo (.request registerBob)

theorem reachable_bothRegistered : (service demo).Reachable bothRegistered :=
  reachable_aliceRegistered.step (World.step_next (by decide +kernel))

theorem logout_ends_session_of_alice :
    (aliceRegistered.afterRequest demo (logoutWith aliceRefresh)).SessionOver demo 2 := by
  obtain ⟨reply, answered⟩ := exists_ok
    (show (aliceRegistered.exchange demo (logoutWith aliceRefresh)).reply.isOk by decide +kernel)
  exact (logout_ends_session_iff reachable_aliceRegistered (by decide +kernel) rfl rfl
    (by decide +kernel) rfl rfl answered).mpr (.inl (by decide +kernel))

/-- Somebody has rotated Alice's token: her logout answers 200 and leaves the session active. -/
theorem logout_swallows_replay :
    ¬ ∀ (world : World ℚ) (arrival : Arrival) (claims : Claims) (sid : Uuid) (reply : Reply ℚ),
      (service demo).Reachable world → claims ∈ world.issued → claims.type = .refresh →
      claims.sid = some sid → world.clock < (claims.exp : ℚ) → arrival.route = .logout →
      arrival.http.refreshToken = some (.signed claims) →
      (world.exchange demo arrival).reply = .ok reply →
      (world.afterRequest demo arrival).SessionOver demo sid := by
  intro ends
  have reachable : (service demo).Reachable aliceRotated :=
    reachable_play World.new_starts (by decide +kernel)
  obtain ⟨reply, answered⟩ := exists_ok
    (show (aliceRotated.exchange demo (logoutWith aliceRefresh)).reply.isOk by decide +kernel)
  obtain ⟨⟨row, found, inactive⟩, -⟩ := ends aliceRotated (logoutWith aliceRefresh) aliceRefresh 2
    reply reachable (by decide +kernel) rfl rfl (by decide +kernel) rfl rfl answered
  have active : ((aliceRotated.afterRequest demo (logoutWith aliceRefresh)).db.sessions.find 2).any
      (·.isActive) := by decide +kernel
  rw [found, Option.any_some, inactive] at active
  cases active

end EnterpriseAuth
