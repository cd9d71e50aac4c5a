import EnterpriseAuth.Guarantees.Origin
import EnterpriseAuth.Guarantees.Scenario

/-!
# The second factor

A session of a user whose second factor is enabled takes two requests: one that checks the password
and issues a pre-auth token, and one that presents the token and proves the second factor.  The
OAuth callback has no such gate.
-/

namespace EnterpriseAuth

open Effects Program

variable {T : Type} (env : Environment T) [CommRing T] [LinearOrder T]

/-! ## Pre-auth tokens -/

/-- The password of the user was checked in the exchange. -/
def Exchange.CheckedPassword (exchange : Exchange T) (userId : Uuid) : Prop :=
  ∃ payload limited, exchange.arrival.route = .login (.login payload) ∧
    (rateLimitMiddleware env exchange.arrival.http).run handle exchange.before =
      (.ok (), limited) ∧
    PasswordChecked env limited exchange.arrival.http payload userId

/-- Every pre-auth token was issued by an exchange that checked the password of its subject. -/
def World.ChecksPasswords (world : World T) : Prop :=
  ∀ exchange ∈ world.history, ∀ claims ∈ exchange.issued, claims.type = .preAuth →
    exchange.CheckedPassword env claims.sub

variable [FloorRing T] {env}

theorem exchange_checkedPassword {world : World T} {arrival : Arrival} {claims : Claims}
    (issued : claims ∈ (world.exchange env arrival).issued) (preAuth : claims.type = .preAuth) :
    (world.exchange env arrival).CheckedPassword env claims.sub := by
  have served := served env world arrival
  have pairIsNot {pair : TokenPair} {since upTo : ℕ} {userId : Uuid} {sid : Option Uuid}
      (minted : pair.Minted since upTo userId sid) (member : claims ∈ pair.tokens) :
      (world.exchange env arrival).CheckedPassword env claims.sub :=
    absurd preAuth (minted.notPreAuth member)
  unfold Exchange.issued at issued
  generalize (world.exchange env arrival).reply = result at served issued
  generalize (world.exchange env arrival).after = after at served
  cases served with
  | refused => cases issued
  | failed => cases issued
  | refreshFailed => cases issued
  | @answered limited final reply passes other follows backed =>
    cases reply with
    | refreshed => exact backed.elim
    | page => cases issued
    | login reply =>
      obtain ⟨route, routed, sound⟩ := backed
      cases reply with
      | message => cases issued
      -- only the password login answers a challenge
      | challenge token =>
        cases List.mem_singleton.mp issued
        obtain ⟨-, -, -, challenges⟩ := sound
        cases route with
        | login payload => exact ⟨payload, limited, routed, passes, challenges⟩
        | _ => exact challenges.elim
      | auth user csrf pair =>
        obtain ⟨row, gate, bound⟩ := sound
        exact pairIsNot bound.minted issued
  | @refreshAnswered limited final reply passes isRefresh outcome =>
    cases outcome with
    | @rebound shown => exact pairIsNot (minted_mintPair env limited _ _ _) issued
    | @sessionless shown => exact pairIsNot (minted_mintPair env limited _ _ _) issued

theorem checksPasswords_of_reachable {world : World T} (reachable : (service env).Reachable world) :
    world.ChecksPasswords env := by
  refine System.Reachable.invariant (World.ChecksPasswords env) reachable ?_ ?_
  · intro first starts exchange member
    rw [starts.noHistory] at member
    cases member
  · intro before event after _ checks step
    cases step with
    | tick => exact checks
    | setUserActive => exact checks
    | @request arrival owned =>
      intro exchange member claims issued preAuth
      rcases List.mem_cons.mp member with rfl | earlier
      · exact exchange_checkedPassword issued preAuth
      · exact checks exchange earlier claims issued preAuth

/-! ## The gate -/

variable (env)

/-- The request proves the second factor of the user by an OTP or by a recovery code. -/
def LoginRoute.Proves (limited : Server T) (request : HttpRequest) : LoginRoute → Uuid → Prop
  | .loginOtp payload, userId => OtpProven env limited request payload userId
  | .loginRecoveryCode payload, userId => RecoveryCodeUsed env limited request payload userId
  | _, _ => False

/-- The request presents a pre-auth token that the user was issued for the password, and proves the
second factor. -/
def World.SecondStep (world : World T) (arrival : Arrival) (userId : Uuid) : Prop :=
  ∃ limited route claims, world.Passes env arrival limited ∧ arrival.route = .login route ∧
    route.preAuthToken = some (.signed claims) ∧ claims.type = .preAuth ∧ claims.sub = userId ∧
    (∃ exchange ∈ world.history, claims ∈ exchange.issued ∧ exchange.CheckedPassword env userId) ∧
    route.Proves env limited arrival.http userId

/-- Every session row that is created for a user while the second factor is enabled takes the
second step. -/
def SecondFactorHolds (runs : System (World T) (Event T)) : Prop :=
  ∀ world arrival next sid row, runs.Reachable world → runs.step world (.request arrival) next →
    next.db.sessions.find sid = some row → world.db.sessions.find sid = none →
    world.db.TwoFactorEnabled row.userId → world.SecondStep env arrival row.userId

/-- The request does not log a user in by OAuth whose second factor is enabled. -/
def SparesSecondFactors (world : World T) : Event T → Prop
  | .request arrival => world.LetsPass env arrival → ∀ provider code state user,
      arrival.route = .login (.oauthCallback provider code state) →
      OAuthLogin env (world.limited env arrival) arrival.registry provider code state user →
      ¬ world.db.TwoFactorEnabled user.id
  | _ => True

variable {env}

/-- Two-factor authentication gates every session in the runs in which no OAuth callback logs in a
user who has enabled it. -/
theorem second_factor_gates_sessions :
    SecondFactorHolds env ((service env).guarded (SparesSecondFactors env)) := by
  intro world arrival next sid row reachable step stored new enabled
  obtain ⟨spares, step⟩ := step
  have checks := checksPasswords_of_reachable reachable.of_guarded
  have tables := (wellIssued_of_reachable reachable.of_guarded).tables
  cases step with
  | request owned =>
    obtain ⟨limited, route, passes, routed, gate⟩ := letsIn_of_newSession stored new
    obtain ⟨letsPass, rfl⟩ := World.passes_iff.mp passes
    obtain ⟨-, working, -, draws⟩ := passes.start
    obtain ⟨record, recorded, -⟩ := id enabled
    have known : row.userId < (world.limited env arrival).draws :=
      (tables.twoFactorAuth _ record recorded).trans_le draws
    -- the second step: the token was issued for the password, and the factor has been proven
    have secondStep {token : Token} {user : User T} (presents : route.preAuthToken = some token)
        (authorized : PreAuthorized (world.limited env arrival) token user)
        (owner : user.id = row.userId)
        (proves : route.Proves env (world.limited env arrival) arrival.http row.userId) :
        world.SecondStep env arrival row.userId := by
      obtain ⟨claims, rfl, preAuth, found, active⟩ := authorized
      have subject : claims.sub = row.userId := (Table.find_key found).symm.trans owner
      have held : claims ∈ world.issued := by
        refine owned (.signed claims) ?_
        simp [Arrival.presented, routed, Route.preAuthToken, presents]
      obtain ⟨exchange, member, issued⟩ := List.mem_flatMap.mp held
      exact ⟨_, route, claims, passes, routed, presents, preAuth, subject,
        ⟨exchange, member, issued, subject ▸ checks exchange member claims issued preAuth⟩, proves⟩
    cases route with
    | register => exact absurd known (not_lt.mpr gate)
    | login payload =>
      obtain ⟨-, -, disabled⟩ := gate
      rw [working] at disabled
      exact absurd enabled disabled
    | loginOtp payload =>
      obtain ⟨user, -, -, owner, authorized, -⟩ := id gate
      exact secondStep rfl authorized owner gate
    | loginRecoveryCode payload =>
      obtain ⟨user, -, -, owner, authorized, -⟩ := id gate
      exact secondStep rfl authorized owner gate
    | oauthCallback provider code state =>
      rcases gate with fresh | ⟨user, owner, login⟩
      · exact absurd known (not_lt.mpr fresh)
      · exact absurd enabled (owner ▸ spares letsPass provider code state user routed login)

/-! ## Alice's second step -/

theorem sparesSecondFactors_request {world : World ℚ} {arrival : Arrival}
    (other : ∀ provider code state, arrival.route ≠ .login (.oauthCallback provider code state)) :
    SparesSecondFactors demo world (.request arrival) :=
  fun _ provider code state _ callback => absurd callback (other provider code state)

/-- Alice enables the second factor, and logs in with her password. -/
def enrollAndLogin : List (Event ℚ) :=
  [.request registerAlice, .request (withAccess aliceAccess (.twoFactorSetup "Str0ng!pass")),
    .request (withAccess aliceAccess (.twoFactorVerify "100000")), .tick 30,
    .request { http := {}, route := .login (.login
      { email := "alice@example.org", password := "Str0ng!pass" }) }]

def aliceChallenged : World ℚ := World.new.play demo enrollAndLogin

/-- Alice answers with the next code, which starts session 11. -/
def aliceAnswers : Arrival where
  http := {}
  route := .login (.loginOtp
    { preAuthToken := .signed { sub := 1, type := .preAuth, jti := 10, iat := 30, exp := 330 }
      otp := "100001" })

theorem alice_takes_second_step : aliceChallenged.SecondStep demo aliceAnswers 1 := by
  have meets : World.new.Meets demo (SparesSecondFactors demo) enrollAndLogin := by
    refine ⟨?_, ?_, ?_, trivial, ?_, trivial⟩
    all_goals exact sparesSecondFactors_request (by simp [registerAlice, withAccess])
  have reachable : ((service demo).guarded (SparesSecondFactors demo)).Reachable aliceChallenged :=
    reachable_guarded_play World.new_starts (by decide +kernel) meets
  have possible : aliceChallenged.Possible (.request aliceAnswers) := by decide +kernel
  have spares : SparesSecondFactors demo aliceChallenged (.request aliceAnswers) :=
    sparesSecondFactors_request (by simp [aliceAnswers])
  have created : ((aliceChallenged.next demo (.request aliceAnswers)).db.sessions.find 11).any
      (·.userId = 1) := by decide +kernel
  obtain ⟨row, stored, owner⟩ := (Option.any_eq_true _ _).mp created
  have new : (aliceChallenged.db.sessions.find 11).isNone := by decide +kernel
  have enabled : (aliceChallenged.db.twoFactorAuth.find 1).any (·.enabled) := by decide +kernel
  obtain ⟨record, recorded, on⟩ := (Option.any_eq_true _ _).mp enabled
  have isAlice : row.userId = 1 := of_decide_eq_true owner
  have step := second_factor_gates_sessions aliceChallenged aliceAnswers _ 11 row reachable
    ⟨spares, World.step_next possible⟩ stored (Option.isNone_iff_eq_none.mp new)
    ⟨record, by rw [isAlice]; exact recorded, on⟩
  rwa [isAlice] at step

/-! ## A login by OAuth -/

/-- A provider that answers for Alice's verified address. -/
def aliceProvider : String → Option Provider := fun _ => some {
  usesPkce := true
  exchangeCode := fun _ _ => .ok "provider-token"
  fetchUserInfo := fun _ => .ok
    { provider := "google", accountId := "42", email := some "alice@example.org", name := "Alice"
      emailVerified := true } }

/-- Alice verifies her address, enables the second factor and starts an OAuth login. -/
def aliceAuthorizes : World ℚ :=
  World.new.play demo
    [.request registerAlice,
      .request { http := {}, route := .openTo (.verifyEmail "url-safe-token-6") },
      .request (withAccess aliceAccess (.twoFactorSetup "Str0ng!pass")),
      .request (withAccess aliceAccess (.twoFactorVerify "100000")),
      .request { http := {}, route := .openTo (.oauthAuthorize "google"), registry := aliceProvider }]

def aliceCallback : Arrival where
  http := {}
  route := .login (.oauthCallback "google" "code" "url-safe-token-9")
  registry := aliceProvider

/-- The callback starts session 11 for Alice without her second factor. -/
theorem oauth_login_skips_second_factor : ¬ SecondFactorHolds demo (service demo) := by
  intro holds
  have reachable : (service demo).Reachable aliceAuthorizes :=
    reachable_play World.new_starts (by decide +kernel)
  have possible : aliceAuthorizes.Possible (.request aliceCallback) := by decide +kernel
  have created : ((aliceAuthorizes.next demo (.request aliceCallback)).db.sessions.find 11).any
      (·.userId = 1) := by decide +kernel
  obtain ⟨row, stored, owner⟩ := (Option.any_eq_true _ _).mp created
  have new : (aliceAuthorizes.db.sessions.find 11).isNone := by decide +kernel
  have enabled : (aliceAuthorizes.db.twoFactorAuth.find 1).any (·.enabled) := by decide +kernel
  obtain ⟨record, recorded, on⟩ := (Option.any_eq_true _ _).mp enabled
  have second := holds aliceAuthorizes aliceCallback _ 11 row reachable (World.step_next possible)
    stored (Option.isNone_iff_eq_none.mp new)
    ⟨record, by rw [of_decide_eq_true owner]; exact recorded, on⟩
  obtain ⟨limited, route, claims, -, routed, -, -, -, -, proves⟩ := second
  cases routed
  exact proves

end EnterpriseAuth
