import EnterpriseAuth.Guarantees.Origin
import EnterpriseAuth.Guarantees.Scenario

/-!
# Disabled accounts

`authenticate`, `_load_user_for_otp` and `get_auth_context` check `is_active`.  The exchange of a
refresh token and the OAuth callback do not, so a disabled user gets no tokens exactly as long as
these two are not asked on the user's behalf.
-/

namespace EnterpriseAuth

open Effects

variable {T : Type} (env : Environment T) [CommRing T] [LinearOrder T] [FloorRing T]

/-- While a user is disabled, no request issues an access or refresh token for the user or creates
a session of the user. -/
def DisabledHolds (runs : System (World T) (Event T)) : Prop :=
  ∀ world arrival next userId user, runs.Reachable world →
    runs.step world (.request arrival) next → world.db.users.find userId = some user →
    user.isActive = false →
    (∀ claims ∈ (world.exchange env arrival).issued, claims.type ≠ .preAuth →
      claims.sub ≠ userId) ∧
    ∀ sid row, next.db.sessions.find sid = some row → world.db.sessions.find sid = none →
      row.userId ≠ userId

/-- The request neither exchanges a refresh token of a disabled user nor logs a disabled user in by
OAuth. -/
def SparesDisabled (world : World T) : Event T → Prop
  | .request arrival => world.LetsPass env arrival →
      (∀ userId user, world.Exchanges arrival userId → world.db.users.find userId = some user →
        user.isActive = true) ∧
      ∀ provider code state user, arrival.route = .login (.oauthCallback provider code state) →
        OAuthLogin env (world.limited env arrival) arrival.registry provider code state user →
        user.isActive = true
  | _ => True

variable {env}

omit [FloorRing T] in
/-- Whom a request lets in is active, unless it is a new user. -/
theorem World.LetsIn.active {world : World T} {arrival : Arrival} {userId : Uuid}
    (letsIn : world.LetsIn env arrival userId) (tables : world.db.WellNumbered world.draws)
    (spares : SparesDisabled env world (.request arrival)) {user : User T}
    (found : world.db.users.find userId = some user) : user.isActive = true := by
  obtain ⟨limited, route, passes, routed, gate⟩ := letsIn
  obtain ⟨letsPass, rfl⟩ := World.passes_iff.mp passes
  obtain ⟨-, working, -, draws⟩ := passes.start
  rw [← working] at found
  have known : userId < (world.limited env arrival).draws :=
    (passes.tables tables).users userId user found
  have ofStored {stored : User T}
      (stands : (world.limited env arrival).working.users.find userId = some stored)
      (active : stored.isActive = true) : user.isActive = true := by
    rw [found] at stands
    cases stands
    exact active
  cases route with
  | register => exact absurd known (not_lt.mpr gate)
  | login payload =>
    obtain ⟨-, ⟨stored, stands, active⟩, -⟩ := gate
    exact ofStored stands active
  | loginOtp payload =>
    obtain ⟨stored, _, _, rfl, authorized, -⟩ := gate
    exact ofStored authorized.found.1 authorized.found.2
  | loginRecoveryCode payload =>
    obtain ⟨stored, _, _, rfl, authorized, -⟩ := gate
    exact ofStored authorized.found.1 authorized.found.2
  | oauthCallback provider code state =>
    -- the callback does not read the flag of an existing user
    rcases gate with fresh | ⟨stored, rfl, login⟩
    · exact absurd known (not_lt.mpr fresh)
    · exact ofStored login.found ((spares letsPass).2 provider code state stored routed login)

/-- Disabled accounts get no tokens in the runs that neither refresh for them nor log them in by
OAuth. -/
theorem disabled_accounts_get_no_tokens :
    DisabledHolds env ((service env).guarded (SparesDisabled env)) := by
  intro world arrival next userId user reachable step found disabled
  obtain ⟨spares, step⟩ := step
  have tables := (wellIssued_of_reachable reachable.of_guarded).tables
  cases step
  constructor
  · rintro claims issued notPreAuth rfl
    rcases letsIn_of_newToken issued notPreAuth with letsIn | ⟨letsPass, exchanges⟩
    · exact absurd (letsIn.active tables spares found) (by simp [disabled])
    · exact absurd ((spares letsPass).1 _ user exchanges found) (by simp [disabled])
  · rintro sid row stored new rfl
    have letsIn := letsIn_of_newSession stored new
    exact absurd (letsIn.active tables spares found) (by simp [disabled])

/-! ## Alice is disabled -/

/-- Alice registers and is disabled right after. -/
def registerAndDisable : List (Event ℚ) := [.request registerAlice, .setUserActive 1 false]

def aliceDisabled : World ℚ := World.new.play demo registerAndDisable

/-- Alice logs in with the password that she has registered with. -/
def loginRegistered : Arrival where
  http := {}
  route := .login (.login { email := "alice@example.org", password := "Str0ng!pass" })

/-- A login by other means than OAuth spares disabled users. -/
theorem sparesDisabled_login {world : World ℚ} {arrival : Arrival} {route : LoginRoute}
    (routed : arrival.route = .login route)
    (other : ∀ provider code state, route ≠ .oauthCallback provider code state) :
    SparesDisabled demo world (.request arrival) := by
  intro _
  constructor
  · rintro userId user ⟨isRefresh, -⟩
    rw [routed] at isRefresh
    cases isRefresh
  · intro provider code state user callback
    rw [routed] at callback
    exact absurd (Route.login.inj callback) (other provider code state)

/-- Alice's password is right, and she is given nothing. -/
theorem disabled_alice_gets_no_tokens :
    ∀ claims ∈ (aliceDisabled.exchange demo loginRegistered).issued, claims.type ≠ .preAuth →
      claims.sub ≠ 1 := by
  have meets : World.new.Meets demo (SparesDisabled demo) registerAndDisable :=
    ⟨sparesDisabled_login rfl (by simp), trivial, trivial⟩
  have reachable : ((service demo).guarded (SparesDisabled demo)).Reachable aliceDisabled :=
    reachable_guarded_play World.new_starts (by decide +kernel) meets
  have stored : (aliceDisabled.db.users.find 1).any (!·.isActive) := by decide +kernel
  obtain ⟨user, found, disabled⟩ := (Option.any_eq_true _ _).mp stored
  have possible : aliceDisabled.Possible (.request loginRegistered) := by decide +kernel
  exact (disabled_accounts_get_no_tokens aliceDisabled loginRegistered _ 1 user reachable
    ⟨sparesDisabled_login rfl (by simp), World.step_next possible⟩ found (by simpa using disabled)).1

/-- A disabled user exchanges a refresh token for a new pair. -/
theorem disabled_account_refreshes : ¬ DisabledHolds demo (service demo) := by
  intro holds
  have stored : (aliceDisabled.db.users.find 1).any (!·.isActive) := by decide +kernel
  obtain ⟨user, found, disabled⟩ := (Option.any_eq_true _ _).mp stored
  have reachable : (service demo).Reachable aliceDisabled :=
    reachable_play World.new_starts (by decide +kernel)
  have possible : aliceDisabled.Possible (.request (refreshWith aliceRefresh)) := by decide +kernel
  obtain ⟨tokens, -⟩ := holds aliceDisabled _ _ 1 user reachable (World.step_next possible) found
    (by simpa using disabled)
  have issued : ∃ claims ∈ (aliceDisabled.exchange demo (refreshWith aliceRefresh)).issued,
      claims.type ≠ .preAuth ∧ claims.sub = 1 := by decide +kernel
  obtain ⟨claims, member, notPreAuth, subject⟩ := issued
  exact tokens claims member notPreAuth subject

end EnterpriseAuth
