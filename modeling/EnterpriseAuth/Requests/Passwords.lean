import EnterpriseAuth.Requests.Framed
import EnterpriseAuth.Requests.MailedTokens
import EnterpriseAuth.Requests.SecondFactors

/-!
# Stored passwords

What a request does to the stored hashes.  A registration and a reset set the password of a user, a
login may hash the password anew that it has checked, and a callback enrolls a user with a random
password.  Nothing else writes a hash.
-/

namespace EnterpriseAuth

open Effects Program

-- an instance is found along the whole syntax of a handler
set_option synthInstance.maxSize 1000

variable {T : Type} {env : Environment T}

/-! ## The stored hashes -/

def Database.passwordHash (db : Database T) (userId : Uuid) : Option String :=
  (db.users.find userId).map (·.hashedPassword)

def Frame.passwords : Frame T where
  holds before after := after.passwordHash = before.passwordHash
  refl _ := rfl
  trans first second := second.trans first

variable {before after : Database T}

theorem passwordHash_of_users (same : after.users = before.users) :
    after.passwordHash = before.passwordHash := by
  funext userId
  simp only [Database.passwordHash, same]

theorem passwordHash_insertUser {user : User T} (changed : Database.insertUser user before = .ok after) :
    before.passwordHash user.id = none ∧
      after.passwordHash = Function.update before.passwordHash user.id (some user.hashedPassword) := by
  obtain ⟨-, -, users, inserted, rfl⟩ := Database.insertUser_ok changed
  constructor
  · simp [Database.passwordHash, (Table.insert_eq_some inserted).1]
  · funext userId
    simp only [Database.passwordHash, Table.find_insert inserted, Function.update_apply]
    split <;> rfl

/-- An update that does not look at the hash that it replaces. -/
theorem passwordHash_modify {userId : Uuid} {change : User T → User T} {keeps} {hash : String}
    (known : (before.users.find userId).isSome) (same : ∀ user, (change user).hashedPassword = hash) :
    ({ before with users := before.users.modify userId change keeps } : Database T).passwordHash =
      Function.update before.passwordHash userId (some hash) := by
  obtain ⟨user, found⟩ := Option.isSome_iff_exists.mp known
  funext other
  simp only [Database.passwordHash, Table.find_modify, Function.update_apply]
  split
  next isUser => simp [isUser, found, same]
  next => rfl

/-- An update that leaves the hash alone. -/
theorem passwordHash_modifyOther {userId : Uuid} {change : User T → User T} {keeps}
    (same : ∀ user, (change user).hashedPassword = user.hashedPassword) :
    ({ before with users := before.users.modify userId change keeps } : Database T).passwordHash =
      before.passwordHash := by
  funext other
  simp only [Database.passwordHash, Table.find_modify]
  split
  · simp [Option.map_map, Function.comp_def, same]
  · rfl

instance : Modest (T := T) (Command.Bounded Frame.passwords) := by
  apply Frame.modest
  intro change statement spares before after changed
  exact passwordHash_of_users (spares.users before after changed)

theorem passwords_updateUser {id : Uuid} {change : User T → User T} {keeps}
    (same : ∀ user, (change user).hashedPassword = user.hashedPassword) :
    Frame.passwords.Bounds (Database.updateUser id change keeps) := by
  intro before after changed
  obtain ⟨-, -, -, -, rfl⟩ := Database.updateUser_ok changed
  exact passwordHash_modifyOther same

instance (isVerified : Bool) :
    Updates (T := T) (Command.Bounded Frame.passwords) fun user => { user with isVerified } :=
  ⟨fun _ _ => passwords_updateUser fun _ => rfl⟩

instance (email : String) (isVerified : Bool) :
    Updates (T := T) (Command.Bounded Frame.passwords) fun user => { user with email, isVerified } :=
  ⟨fun _ _ => passwords_updateUser fun _ => rfl⟩

section
variable [CommRing T] [LinearOrder T] {server final : Server T}

/-- A program that writes no hash. -/
theorem passwords_of_run {α : Type} {program : App T α} {result : Except AppError α}
    [Calls (Command.Bounded Frame.passwords) program]
    (ran : program.run handle server = (result, final)) :
    final.working.passwordHash = server.working.passwordHash :=
  Frame.passwords.of_run ran

/-! ## Checking a password -/

/-- `authenticate` has found the one user of the address and checked the password against the stored
hash.  It leaves the database as it was, or hashes the password anew. -/
theorem authenticate_password {email password ip : String} {user : User T}
    (ran : (AuthService.authenticate env email password ip).run handle server = (.ok user, final)) :
    ∃ stored, server.working.usersByEmail env email = [stored] ∧ stored.id = user.id ∧
      env.verifyPassword password stored.hashedPassword = true ∧
      (final.working = server.working ∨ ∃ salt,
        final.working.passwordHash = Function.update server.working.passwordHash stored.id
          (some (env.hashPassword salt password))) := by
  simp only [AuthService.authenticate, throw_bind] at ran
  obtain ⟨_, unlocked, checks, rest⟩ := run_bind_ok ran
  have same : unlocked.working = server.working := (Within.of_exact .reads checks).working
  obtain ⟨owner, looked, looks, rest⟩ := run_bind_ok rest
  rw [run_getByEmail, same, Prod.mk.injEq] at looks
  obtain ⟨found, rfl⟩ := looks
  simp only [run_bind, run_uuid4] at rest
  split at rest
  next stored verified =>
    have owns := usersByEmail_of_some env found
    simp only [run_ite, run_throw] at rest
    split at rest
    · cases rest
    · obtain ⟨_, cleared, clears, rest⟩ := run_bind_ok rest
      have kept : cleared.working = server.working :=
        (Within.of_exact .reads clears).working.trans same
      rw [run_ite] at rest
      split at rest
      · -- the parameters of the stored hash are out of date
        obtain ⟨salt, salted, salts, rest⟩ := run_bind_ok rest
        rw [run_uuid4] at salts
        cases salts
        obtain ⟨_, written, writes, rest⟩ := run_bind_ok rest
        cases rest
        rw [run_write] at writes
        split at writes
        next working changed =>
          cases writes
          refine ⟨stored, owns, rfl, verified, .inr ⟨cleared.draws, ?_⟩⟩
          obtain ⟨row, foundRow, -, -, rfl⟩ := Database.updateUser_ok changed
          rw [← kept]
          exact passwordHash_modify (by simp [foundRow]) fun _ => rfl
        next => cases writes
      · cases rest
        exact ⟨_, owns, rfl, verified, .inl kept⟩
  next =>
    obtain ⟨_, recorded, records, rest⟩ := run_bind_ok rest
    cases rest

end

/-! ## What a request does to the passwords -/

/-- The route lets the client choose a password. -/
def Route.setsPassword : Route → Bool
  | .login (.register _) | .openTo (.resetPassword ..) => true
  | _ => false

/-- The answered request has set the password of the user: of the one who has registered, or of the
one to whom the reset token was issued. -/
inductive Arrival.Sets (env : Environment T) (db : Database T) (arrival : Arrival) :
    Reply T → Uuid → String → Prop
  | register {payload : RegisterRequest} {read : UserRead T} {csrf : String} {pair : TokenPair}
    (routed : arrival.route = .login (.register payload)) :
    Sets env db arrival (.login (.auth read csrf pair)) read.id payload.password
  | reset {raw newPassword : String} {reply : Reply T} {token : EmailToken T}
    (routed : arrival.route = .openTo (.resetPassword raw newPassword))
    (stored : db.emailTokens.find (env.sha256Hex raw) = some token) :
    Sets env db arrival reply token.userId newPassword

variable {db : Database T} {arrival : Arrival} {reply : Reply T}

theorem Arrival.Sets.route {userId : Uuid} {password : String}
    (sets : arrival.Sets env db reply userId password) : arrival.route.setsPassword = true := by
  cases sets with
  | register routed => rw [routed]; rfl
  | reset routed => rw [routed]; rfl

theorem Arrival.Sets.unique {userId other : Uuid} {password another : String}
    (first : arrival.Sets env db reply userId password)
    (second : arrival.Sets env db reply other another) : other = userId ∧ another = password := by
  cases first with
  | register routed =>
    cases second with
    | register again => rw [routed] at again; cases again; exact ⟨rfl, rfl⟩
    | reset again => rw [routed] at again; cases again
  | reset routed stored =>
    cases second with
    | register again => rw [routed] at again; cases again
    | reset again storedAgain =>
      rw [routed] at again
      cases again
      rw [stored] at storedAgain
      cases storedAgain
      exact ⟨rfl, rfl⟩

/-- The ways in which an answered request leaves the stored hashes. -/
inductive PasswordOutcome (env : Environment T) (before : Database T) (arrival : Arrival)
    (reply : Reply T) (after : Uuid → Option String) : Prop
  | kept (plain : arrival.route.setsPassword = false) (same : after = before.passwordHash)
  | rehashed {stored : User T} {password : String} {salt : ℕ}
    (plain : arrival.route.setsPassword = false)
    (found : before.users.find stored.id = some stored)
    (verified : env.verifyPassword password stored.hashedPassword = true)
    (changed : after = Function.update before.passwordHash stored.id
      (some (env.hashPassword salt password)))
  | enrolled {userId : Uuid} {salt draw : ℕ} {provider code state : String}
    (routed : arrival.route = .login (.oauthCallback provider code state))
    (fresh : before.passwordHash userId = none)
    (changed : after = Function.update before.passwordHash userId
      (some (env.hashPassword salt (env.tokenUrlsafe draw))))
  | set {userId : Uuid} {password : String} {salt : ℕ}
    (sets : arrival.Sets env before reply userId password)
    (changed : after = Function.update before.passwordHash userId
      (some (env.hashPassword salt password)))

section
variable [CommRing T] [LinearOrder T] {server final : Server T} {request : HttpRequest}
  {registry : String → Option Provider}

/-- A request that leaves the hashes alone. -/
theorem PasswordOutcome.of_run {α : Type} {program : App T α} {result : Except AppError α}
    [Calls (Command.Bounded Frame.passwords) program]
    (plain : arrival.route.setsPassword = false)
    (ran : program.run handle server = (result, final)) :
    PasswordOutcome env server.working arrival reply final.working.passwordHash :=
  .kept plain (passwords_of_run ran)

theorem passwords_serveOpen {route : OpenRoute} (routed : arrival.route = .openTo route) {page : Page T}
    (ran : (serveOpen env registry request route).run handle server = (.ok page, final)) :
    PasswordOutcome env server.working arrival (.page page) final.working.passwordHash := by
  cases route with
  | resetPassword raw newPassword =>
    obtain ⟨token, redeems⟩ := serveOpen_redeems rfl ran
    obtain ⟨salt, working⟩ := redeems.working
    have changed : final.working.passwordHash = Function.update server.working.passwordHash
        token.userId (some (env.hashPassword salt newPassword)) := by
      rw [working]
      exact passwordHash_modify redeems.user fun _ => rfl
    exact .set (.reset routed redeems.found) changed
  | verifyEmail | forgotPassword | confirmEmailChange | oauthAuthorize =>
    have plain : arrival.route.setsPassword = false := by rw [routed]; rfl
    simp only [serveOpen, verifyEmail, forgotPassword, confirmEmailChange, oauthAuthorize] at ran
    exact .of_run plain ran

/-- A registration stores the hash of its password for a user who is new. -/
theorem register_password {email password fullName : String} {user : User T}
    (ran : (AuthService.register env email password fullName).run handle server =
      (.ok user, final)) :
    ∃ salt, final.working.passwordHash = Function.update server.working.passwordHash user.id
      (some (env.hashPassword salt password)) := by
  simp only [AuthService.register, throw_bind] at ran
  obtain ⟨_, checked, strong, rest⟩ := run_bind_ok ran
  cases validatePasswordStrength_ok strong
  simp only [run_bind, run_view, run_ite, run_throw, run_uuid4, run_addUser] at rest
  split at rest
  · cases rest
  · split at rest
    next working inserted =>
      cases rest
      exact ⟨server.draws, (passwordHash_insertUser inserted).2⟩
    next => cases rest

/-- A login ends with the user's own data. -/
theorem finalizeLogin_read [FloorRing T] {user : User T} {rememberMe : Bool} {answer : LoginReply T}
    (ran : (finalizeLogin env request user rememberMe).run handle server = (.ok answer, final)) :
    ∃ read csrf pair, answer = .auth read csrf pair ∧ read.id = user.id := by
  have answers (csrf : String) (pair : TokenPair) {start : Server T}
      (ran : (userRead env user >>= fun read => pure (.auth read csrf pair) : App T _).run handle start =
        (.ok answer, final)) :
      ∃ read csrf pair, answer = .auth read csrf pair ∧ read.id = user.id := by
    obtain ⟨read, middle, reads, rest⟩ := run_bind_ok ran
    cases rest
    exact ⟨read, csrf, pair, rfl, userRead_id env reads⟩
  obtain ⟨sessionUuid, drawn, -, rest⟩ := run_bind_ok ran
  obtain ⟨⟨pair, refreshJti⟩, issued, -, rest⟩ := run_bind_ok rest
  obtain ⟨⟨record, isNewDevice⟩, created, -, rest⟩ := run_bind_ok rest
  dsimp only at rest
  rw [run_ite] at rest
  split at rest
  · obtain ⟨_, alerted, -, rest⟩ := run_bind_ok rest
    obtain ⟨csrfDraw, last, -, rest⟩ := run_bind_ok rest
    exact answers _ _ rest
  · obtain ⟨csrfDraw, last, -, rest⟩ := run_bind_ok rest
    exact answers _ _ rest

/-- The callback enrolls a user with a random password, or writes no hash. -/
theorem handleCallback_password {provider code state : String} {result : User T × OAuthMode}
    (routed : arrival.route = .login (.oauthCallback provider code state))
    (ran : (OAuthService.handleCallback env registry provider code state).run handle server =
      (.ok result, final)) :
    PasswordOutcome env server.working arrival reply final.working.passwordHash := by
  obtain ⟨payload, info, input, outcome⟩ :=
    (triple_handleCallback env server registry provider code state).returned rfl ran
  have plain : arrival.route.setsPassword = false := by rw [routed]; rfl
  cases outcome with
  | linked => exact .kept plain rfl
  | joined unlinked claimant inserted =>
    obtain ⟨-, -, accounts, -, rfl⟩ := Database.insertOAuthAccount_ok inserted
    exact .kept plain rfl
  | @created email middle working unlinked mode address given unowned insertedUser insertedAccount =>
    obtain ⟨-, -, accounts, -, rfl⟩ := Database.insertOAuthAccount_ok insertedAccount
    obtain ⟨fresh, changed⟩ := passwordHash_insertUser insertedUser
    exact .enrolled routed fresh changed

omit [CommRing T] [LinearOrder T] in
/-- What happens to no hash before and after does not matter. -/
theorem PasswordOutcome.between {start middle : Database T} {hashes : Uuid → Option String}
    (outcome : PasswordOutcome env middle arrival reply final.working.passwordHash)
    (plain : arrival.route.setsPassword = false)
    (first : middle.users = start.users) (second : hashes = final.working.passwordHash) :
    PasswordOutcome env start arrival reply hashes := by
  have same := passwordHash_of_users first
  subst second
  cases outcome with
  | kept plain kept => exact .kept plain (kept.trans same)
  | rehashed plain found verified changed =>
    exact .rehashed plain (first ▸ found) verified (same ▸ changed)
  | enrolled routed fresh changed => exact .enrolled routed (same ▸ fresh) (same ▸ changed)
  | set sets => rw [sets.route] at plain; cases plain

variable [FloorRing T]

theorem passwords_serveLogin {route : LoginRoute} (routed : arrival.route = .login route)
    {answer : LoginReply T}
    (ran : (serveLogin env registry request route).run handle server = (.ok answer, final)) :
    PasswordOutcome env server.working arrival (.login answer) final.working.passwordHash := by
  cases route with
  | loginOtp | loginRecoveryCode =>
    have plain : arrival.route.setsPassword = false := by rw [routed]; rfl
    simp only [serveLogin, loginOtp, loginRecoveryCode] at ran
    exact .of_run plain ran
  | register payload =>
    simp only [serveLogin, register] at ran
    obtain ⟨_, limited, limits, rest⟩ := run_bind_ok ran
    obtain ⟨email, checked, accepted, rest⟩ := run_bind_ok rest
    obtain ⟨_, fits, schema, rest⟩ := run_bind_ok rest
    obtain ⟨user, registered, registers, rest⟩ := run_bind_ok rest
    obtain ⟨_, loggedIn, logsIn, rest⟩ := run_bind_ok rest
    obtain ⟨_, last, signedUp, done⟩ := run_bind_ok rest
    cases done
    obtain ⟨read, csrf, pair, rfl, isUser⟩ := finalizeLogin_read logsIn
    obtain ⟨salt, stored⟩ := register_password registers
    have changed : final.working.passwordHash = Function.update server.working.passwordHash read.id
        (some (env.hashPassword salt payload.password)) := by
      rw [isUser, passwords_of_run signedUp, passwords_of_run logsIn, stored, passwords_of_run schema,
        passwords_of_run accepted, passwords_of_run limits]
    exact .set (.register routed) changed
  -- a login stores the shown password anew when its hash is outdated, and nothing else
  | login payload =>
    have plain : arrival.route.setsPassword = false := by rw [routed]; rfl
    simp only [serveLogin, login] at ran
    obtain ⟨_, limited, limits, rest⟩ := run_bind_ok ran
    obtain ⟨email, checked, accepted, rest⟩ := run_bind_ok rest
    obtain ⟨_, fits, schema, rest⟩ := run_bind_ok rest
    obtain ⟨user, authenticated, authenticates, rest⟩ := run_bind_ok rest
    obtain ⟨stored, owns, -, verified, written⟩ := authenticate_password authenticates
    have users : fits.working.users = server.working.users := by
      have first : limited.working = server.working := (Within.of_exact .reads limits).working
      have second : checked.working = limited.working := (Within.of_exact .reads accepted).working
      have third : fits.working = checked.working := (Within.of_exact .reads schema).working
      rw [third, second, first]
    have outcome : PasswordOutcome env fits.working arrival (.login answer)
        authenticated.working.passwordHash := by
      rcases written with same | ⟨salt, changed⟩
      · exact .kept plain (by rw [same])
      · have member : stored ∈ fits.working.usersByEmail env email := by
          rw [owns]
          exact List.mem_singleton_self stored
        exact .rehashed plain (Table.find_of_mem (List.mem_filter.mp member).1) verified changed
    exact outcome.between plain users (passwords_of_run rest)
  | oauthCallback provider code state =>
    have plain : arrival.route.setsPassword = false := by rw [routed]; rfl
    simp only [serveLogin, oauthCallback] at ran
    obtain ⟨⟨user, mode⟩, resolved, resolves, rest⟩ := run_bind_ok ran
    exact (handleCallback_password routed resolves).between plain rfl (passwords_of_run rest)

theorem passwords_dispatch
    (ran : (dispatch env arrival).run handle server = (.ok reply, final)) :
    PasswordOutcome env server.working arrival reply final.working.passwordHash := by
  cases routed : arrival.route with
  | login route =>
    simp only [dispatch, routed] at ran
    obtain ⟨answer, served, rfl⟩ := run_map_ok ran
    exact passwords_serveLogin routed served
  | openTo route =>
    simp only [dispatch, routed] at ran
    obtain ⟨page, served, rfl⟩ := run_map_ok ran
    exact passwords_serveOpen routed served
  | refresh | logout | withAccess =>
    have plain : arrival.route.setsPassword = false := by rw [routed]; rfl
    simp only [dispatch, routed] at ran
    exact .of_run plain ran

end

/-! ## Whose password a request shows -/

/-- The password that the route checks, if it checks one. -/
def ProtectedRoute.password : ProtectedRoute → Option String
  | .changeEmail _ password | .twoFactorSetup password | .recoveryCodes password _
  | .regenerateRecoveryCodes password _ | .twoFactorDisable password _ => some password
  | _ => none

def Route.password : Route → Option String
  | .login (.login payload) => some payload.password
  | .withAccess route => route.password
  | _ => none

/-- The user whose password the request shows: the owner of the address, or of the access token. -/
inductive Arrival.VouchesFor (env : Environment T) (db : Database T) (arrival : Arrival) : User T → Prop
  | address {payload : LoginRequest} {email : String} {user : User T}
    (routed : arrival.route = .login (.login payload))
    (accepted : env.validEmail payload.email = some email)
    (owner : db.usersByEmail env email = [user]) : VouchesFor env db arrival user
  | token {route : ProtectedRoute} {user : User T} (routed : arrival.route = .withAccess route)
    (shown : arrival.http.ActsFor user.id) (found : db.users.find user.id = some user) :
    VouchesFor env db arrival user

theorem Arrival.VouchesFor.stored {user : User T} (vouches : arrival.VouchesFor env db user) :
    db.users.find user.id = some user := by
  cases vouches with
  | address routed accepted owner =>
    exact Table.find_of_mem (List.mem_filter.mp (owner ▸ List.mem_singleton_self user)).1
  | token routed shown found => exact found

section
variable [CommRing T] [LinearOrder T] {server final : Server T} {request : HttpRequest}
  {registry : String → Option Provider}

theorem checkEmail_ok {email accepted : String}
    (ran : (checkEmail env email).run handle server = (.ok accepted, final)) :
    env.validEmail email = some accepted ∧ final = server := by
  unfold checkEmail at ran
  split at ran
  next => cases ran
  next address => cases ran; exact ⟨address, rfl⟩

/-- A route that is answered has checked the password of the context's user. -/
theorem serveWithContext_password {route : ProtectedRoute} {context : AuthContext T} {page : Page T}
    {password : String} (shows : route.password = some password)
    (ran : (serveWithContext env registry request context route).run handle server =
      (.ok page, final)) :
    env.verifyPassword password context.user.hashedPassword = true := by
  have recovers {otp : String} {replace : Bool}
      (ran : (recoveryCodesRoute env request context password otp replace).run handle server =
        (.ok page, final)) : env.verifyPassword password context.user.hashedPassword = true := by
    obtain ⟨_, limited, -, rest⟩ := run_bind_ok ran
    obtain ⟨_, checked, -, rest⟩ := run_bind_ok rest
    obtain ⟨_, fits, -, rest⟩ := run_bind_ok rest
    obtain ⟨_, proven, proves, -⟩ := run_bind_ok rest
    exact (requirePassword_ok proves).1
  cases route with
  | changeEmail newEmail given =>
    cases shows
    simp only [serveWithContext, changeEmail] at ran
    obtain ⟨email, checked, -, rest⟩ := run_bind_ok ran
    obtain ⟨_, fits, -, rest⟩ := run_bind_ok rest
    obtain ⟨_, requested, requests, -⟩ := run_bind_ok rest
    simp only [EmailAccountService.requestEmailChange, throw_bind, run_ite, run_throw] at requests
    split at requests
    · cases requests
    next verified => simpa using verified
  | twoFactorSetup given =>
    cases shows
    simp only [serveWithContext, twoFactorSetup] at ran
    obtain ⟨_, limited, -, rest⟩ := run_bind_ok ran
    obtain ⟨_, checked, -, rest⟩ := run_bind_ok rest
    obtain ⟨_, fits, -, rest⟩ := run_bind_ok rest
    obtain ⟨secret, started, starts, -⟩ := run_bind_ok rest
    obtain ⟨_, proven, proves, -⟩ := run_bind_ok starts
    exact (requirePassword_ok proves).1
  | twoFactorDisable given otp =>
    cases shows
    simp only [serveWithContext, twoFactorDisable] at ran
    obtain ⟨_, limited, -, rest⟩ := run_bind_ok ran
    obtain ⟨_, checked, -, rest⟩ := run_bind_ok rest
    obtain ⟨_, fits, -, rest⟩ := run_bind_ok rest
    obtain ⟨_, disabled, disables, -⟩ := run_bind_ok rest
    obtain ⟨_, proven, proves, -⟩ := run_bind_ok disables
    exact (requirePassword_ok proves).1
  | recoveryCodes given otp => cases shows; exact recovers ran
  | regenerateRecoveryCodes given otp => cases shows; exact recovers ran
  | _ => cases shows

theorem serveProtected_password {route : ProtectedRoute} {page : Page T} {password : String}
    (shows : route.password = some password)
    (ran : (serveProtected env registry request route).run handle server = (.ok page, final)) :
    ∃ user : User T, request.ActsFor user.id ∧ server.working.users.find user.id = some user ∧
      env.verifyPassword password user.hashedPassword = true := by
  have served {start : Server T} (same : start.working = server.working)
      (ran : (getAuthContext env request >>= fun context =>
        serveWithContext env registry request context route).run handle start = (.ok page, final)) :
      ∃ user : User T, request.ActsFor user.id ∧ server.working.users.find user.id = some user ∧
        env.verifyPassword password user.hashedPassword = true := by
    obtain ⟨context, entered, enters, rest⟩ := run_bind_ok ran
    have follows : Follows env (.owned request) start start := .refl start
    obtain ⟨-, -, claims, presented, owner⟩ :=
      (triple_getAuthContext start request).returned follows enters
    exact ⟨context.user, ⟨claims, presented, owner.symm⟩, same ▸ getAuthContext_user enters,
      serveWithContext_password shows rest⟩
  rw [serveProtected, run_ite] at ran
  split at ran
  · obtain ⟨_, checked, checks, rest⟩ := run_bind_ok ran
    exact served (Within.of_exact .reads checks).working rest
  · exact served rfl ran

/-- A request that shows a password is answered only where it is verified against the stored hash. -/
theorem password_verified [FloorRing T] {password : String}
    (shows : arrival.route.password = some password)
    (ran : (dispatch env arrival).run handle server = (.ok reply, final)) :
    ∃ user, arrival.VouchesFor env server.working user ∧
      env.verifyPassword password user.hashedPassword = true := by
  cases routed : arrival.route with
  | login route =>
    rw [routed] at shows
    cases route with
    | login payload =>
      cases shows
      simp only [dispatch, routed, serveLogin, login] at ran
      obtain ⟨answer, served, -⟩ := run_map_ok ran
      obtain ⟨_, limited, limits, rest⟩ := run_bind_ok served
      have same : limited.working = server.working := (Within.of_exact .reads limits).working
      obtain ⟨email, checked, accepts, rest⟩ := run_bind_ok rest
      obtain ⟨_, fits, schema, rest⟩ := run_bind_ok rest
      obtain ⟨user, authenticated, authenticates, -⟩ := run_bind_ok rest
      obtain ⟨accepted, rfl⟩ := checkEmail_ok accepts
      cases checkSchema_ok schema
      obtain ⟨stored, owner, -, verified, -⟩ := authenticate_password authenticates
      rw [same] at owner
      exact ⟨stored, .address routed accepted owner, verified⟩
    | register | loginOtp | loginRecoveryCode | oauthCallback => cases shows
  | withAccess route =>
    rw [routed] at shows
    simp only [dispatch, routed] at ran
    obtain ⟨page, served, -⟩ := run_map_ok ran
    obtain ⟨user, acts, found, verified⟩ := serveProtected_password shows served
    exact ⟨user, .token routed acts found, verified⟩
  | refresh | logout | openTo => rw [routed] at shows; cases shows

end

end EnterpriseAuth
