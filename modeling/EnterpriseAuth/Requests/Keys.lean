import EnterpriseAuth.Requests.Calls
import EnterpriseAuth.Requests.Conduct

/-!
# The keys that a handler opens

A handler may use the database as it likes and opens the keys of some prefixes only.  The
instances name the prefixes; each prefix that is not named is left alone.  The states of
authorizations are named by none of them: only `start_authorization` and the callback open those.
-/

namespace EnterpriseAuth

open Effects Program

-- an instance is found along the whole syntax of a handler
set_option synthInstance.maxSize 1000

variable {T : Type} {allowed : Command T → Prop}

/-- All commands but those of Redis are allowed, with all that the repositories send. -/
class Liberal (allowed : Command T → Prop) : Prop where
  admits : ∀ command : Command T, (∀ sent, command ≠ .redis sent) →
    (∀ change, command = .write change → Database.Statement change) → allowed command

/-- All commands but those of Redis are allowed, as long as they write no users. -/
class Modest (allowed : Command T → Prop) : Prop where
  admits : ∀ command : Command T, (∀ sent, command ≠ .redis sent) →
    (∀ change, command = .write change → Database.Statement change ∧ Database.SparesUsers change) →
    allowed command

/-- A user as the services create one: enabled, and with the default role at most. -/
structure User.Unprivileged (user : User T) : Prop where
  roles : user.roles = [] ∨ user.roles = ["user"]
  isSuperuser : user.isSuperuser = false
  isActive : user.isActive = true

class Enrols (allowed : Command T → Prop) : Prop where
  enrols : ∀ user : User T, user.Unprivileged → allowed (.write (Database.insertUser user))

/-- Any user may be changed so. -/
class Updates (allowed : Command T → Prop) (change : User T → User T) : Prop where
  updates : ∀ id keeps, allowed (.write (Database.updateUser id change keeps))

section
variable [liberal : Liberal allowed]

instance : Modest allowed :=
  ⟨fun command other statement => liberal.admits command other fun change same =>
    (statement change same).1⟩

theorem liberal_statement {change : Database T → Except AppError (Database T)}
    (statement : Database.Statement change) : allowed (.write change) := by
  refine liberal.admits _ (by simp) fun other same => ?_
  rwa [← Command.write.inj same]

instance : Enrols allowed := ⟨fun user _ => liberal_statement (.insertUser user)⟩

instance (change : User T → User T) : Updates allowed change :=
  ⟨fun id keeps => liberal_statement (.updateUser id change keeps)⟩

end

instance (id : Uuid) (change : User T → User T) (keeps) [updating : Updates allowed change] :
    Admits allowed (.write (Database.updateUser id change keeps)) :=
  ⟨updating.updates id keeps⟩

section
variable [modest : Modest allowed]

instance : Admits allowed .now := ⟨modest.admits _ (by simp) (by simp)⟩
instance : Admits allowed .draw := ⟨modest.admits _ (by simp) (by simp)⟩
instance : Admits allowed .view := ⟨modest.admits _ (by simp) (by simp)⟩
instance : Admits allowed .commit := ⟨modest.admits _ (by simp) (by simp)⟩
instance (mail : Mail) : Admits allowed (.addTask mail) := ⟨modest.admits _ (by simp) (by simp)⟩
instance (change : Database T → Except AppError (Database T)) [statement : Database.Statement change]
    [spares : Database.SparesUsers change] : Admits allowed (.write change) := by
  refine ⟨modest.admits _ (by simp) fun other same => ?_⟩
  rw [← Command.write.inj same]
  exact ⟨statement, spares⟩

-- the proofs that the key stays are those of the functions that write the rows
section
open SessionService

instance (sid : Uuid) (now : T) :
    Database.Statement (Database.updateSession sid (touched now) fun _ => rfl) :=
  .updateSession _ _ _

instance (sid : Uuid) (now : T) :
    Database.SparesUsers (Database.updateSession sid (touched now) fun _ => rfl) :=
  .updateSession _ _ _

instance (sid : Uuid) (now : T) (jti : Uuid) :
    Database.Statement (Database.updateSession sid (rebound now jti) fun _ => rfl) :=
  .updateSession _ _ _

instance (sid : Uuid) (now : T) (jti : Uuid) :
    Database.SparesUsers (Database.updateSession sid (rebound now jti) fun _ => rfl) :=
  .updateSession _ _ _

instance (sid : Uuid) (now : T) (reason : String) :
    Database.Statement (Database.updateSession sid (ended now reason) fun _ => rfl) :=
  .updateSession _ _ _

instance (sid : Uuid) (now : T) (reason : String) :
    Database.SparesUsers (Database.updateSession sid (ended now reason) fun _ => rfl) :=
  .updateSession _ _ _

end

end

/-! ## Keys of one kind -/

/-- The command of Redis, if it is one, is about another kind of key. -/
def Command.Spares (kind : Key → Prop) : Command T → Prop
  | .redis command => ¬ kind command.key
  | _ => True

theorem RedisCommand.writes_key {command : RedisCommand} {key : Key}
    (written : command.writes = some key) : command.key = key := by
  cases command with
  | present | get => cases written
  | set | delete | incr | expire => exact Option.some.inj written

instance (kind : Key → Prop) : Liberal (T := T) (Command.Spares kind) where
  admits command other _ := by
    cases command with
    | redis sent => exact absurd rfl (other sent)
    | now | draw | view | write | commit | addTask => trivial

theorem opens_spares {kind : Key → Prop} {key : Key} (other : ¬ kind key) :
    Opens (T := T) (Command.Spares kind) key where
  opens command isKey := by
    subst isKey
    exact other

/-- The keys that a program leaves alone are as they were. -/
theorem Calls.spared [CommRing T] [LinearOrder T] (kind : Key → Prop) {α : Type} (program : App T α)
    [calls : Calls (Command.Spares kind) program] {key : Key} (isKind : kind key) (server : Server T) :
    (program.run handle server).2.redis key = server.redis key := by
  have keeps : Keeps handle (fun state : Server T => state.redis key = server.redis key) program := by
    refine calls.every.keeps fun command state spares same => ?_
    cases command with
    | redis command =>
      refine (RedisCommand.execute_other (fun written => ?_) _ _).trans same
      exact spares (RedisCommand.writes_key written ▸ isKind)
    | write change =>
      simp only [handle]
      split <;> exact same
    | now | draw | view | commit | addTask => exact same
  exact keeps.final rfl

namespace Calls

variable (env : Environment T) [Modest allowed]

/-! ## Reading the database -/

instance verifyCsrf (request : HttpRequest) : Calls allowed (verifyCsrf request : App T Unit) := by
  unfold EnterpriseAuth.verifyCsrf
  split <;> infer_instance

instance getCurrentSession (context : AuthContext T) :
    Calls allowed (getCurrentSession context) := by
  unfold EnterpriseAuth.getCurrentSession
  split <;> infer_instance

instance requirePermission (context : AuthContext T) (code : String) :
    Calls allowed (requirePermission context code) := by
  unfold EnterpriseAuth.requirePermission; infer_instance

instance readUsers (users : List (User T)) : Calls allowed (readUsers env users) := by
  induction users with
  | nil => unfold EnterpriseAuth.readUsers; infer_instance
  | cons user users inductionHypothesis => unfold EnterpriseAuth.readUsers; infer_instance

instance getByEmail (email : String) : Calls allowed (getByEmail env email) := by
  unfold EnterpriseAuth.getByEmail
  refine sequence fun db => ?_
  split <;> infer_instance

instance addUser [enrolling : Enrols allowed] (email hashedPassword fullName : String)
    (isVerified : Bool) :
    Calls allowed (addUser email hashedPassword fullName isVerified : App T (User T)) := by
  unfold EnterpriseAuth.addUser
  refine sequence fun db => sequence fun id => sequence fun createdAt => ?_
  have plain (user : User T) (isPlain : user.Unprivileged) :
      Calls allowed (EnterpriseAuth.write (Database.insertUser user)) :=
    of_call (enrolling.enrols user isPlain)
  exact ⟨(plain _ ⟨db.defaultRoles_cases, rfl, rfl⟩).every.sequence fun _ => trivial⟩

instance registerUser [Enrols allowed] (email password fullName : String) :
    Calls allowed (AuthService.register env email password fullName) := by
  simp only [AuthService.register, throw_bind]; infer_instance

instance getOwned (user : User T) (sessionUuid : Uuid) :
    Calls allowed (SessionService.getOwned user sessionUuid) := by
  unfold SessionService.getOwned
  refine sequence fun db => ?_
  split <;> infer_instance

instance previousLogin [LinearOrder T] (user : User T) (current : Session T) :
    Calls allowed (SessionService.previousLogin user current) := by
  unfold SessionService.previousLogin; infer_instance

instance loadUserForOtp [CommRing T] (userId : Uuid) :
    Calls allowed (loadUserForOtp userId : App T (User T)) := by
  unfold EnterpriseAuth.loadUserForOtp
  refine sequence fun db => ?_
  split <;> infer_instance

/-! ## Second factors -/

section
open TwoFactorService
variable (user : User T)

instance requirePassword (password : String) : Calls allowed (requirePassword env user password) := by
  unfold TwoFactorService.requirePassword; infer_instance

instance decrypt (ciphertext : String) : Calls allowed (decrypt env ciphertext) := by
  unfold TwoFactorService.decrypt
  split <;> infer_instance

instance startSetup (password : String) : Calls allowed (startSetup env user password) := by
  simp only [TwoFactorService.startSetup, throw_bind]
  refine sequence fun _ => sequence fun db => ?_
  cases db.twoFactorAuth.find user.id <;> infer_instance

instance getPendingSecret : Calls allowed (getPendingSecret env user) := by
  unfold TwoFactorService.getPendingSecret
  refine sequence fun db => ?_
  split <;> infer_instance

instance confirmSetup (otp : String) : Calls allowed (confirmSetup env user otp) := by
  simp only [TwoFactorService.confirmSetup, throw_bind]
  refine sequence fun db => ?_
  split <;> infer_instance

instance enabledRecord : Calls allowed (enabledRecord user) := by
  unfold TwoFactorService.enabledRecord
  refine sequence fun db => ?_
  split <;> infer_instance

instance storeCodes (codes : List String) : Calls allowed (storeCodes env user codes) := by
  induction codes with
  | nil => unfold TwoFactorService.storeCodes; infer_instance
  | cons code codes inductionHypothesis => unfold TwoFactorService.storeCodes; infer_instance

instance drawLetters (count : ℕ) : Calls allowed (drawLetters env count) := by
  induction count with
  | zero => unfold TwoFactorService.drawLetters; infer_instance
  | succ count inductionHypothesis => unfold TwoFactorService.drawLetters; infer_instance

instance generateCodes (count : ℕ) : Calls allowed (generateCodes env count) := by
  induction count with
  | zero => unfold TwoFactorService.generateCodes; infer_instance
  | succ count inductionHypothesis =>
    unfold TwoFactorService.generateCodes TwoFactorService.generateCode; infer_instance

instance generateRecoveryCodes (replace : Bool) :
    Calls allowed (generateRecoveryCodes env user replace) := by
  simp only [TwoFactorService.generateRecoveryCodes, throw_bind]; infer_instance

instance consumeFirst (normalized : String) (codes : List (BackupCode T)) :
    Calls allowed (consumeFirst env normalized codes) := by
  induction codes with
  | nil => unfold TwoFactorService.consumeFirst; infer_instance
  | cons code codes inductionHypothesis => unfold TwoFactorService.consumeFirst; infer_instance

instance isEnabled : Calls allowed (isEnabled user) := by
  unfold TwoFactorService.isEnabled; infer_instance

instance status : Calls allowed (status user) := by
  unfold TwoFactorService.status; infer_instance

end

/-! ## Email flows -/

section
open EmailAccountService
variable [CommRing T] (user : User T)

instance issue (purpose : Purpose) (ttlSeconds : ℕ) (newEmail : Option String) :
    Calls allowed (issue env user purpose ttlSeconds newEmail) := by
  unfold EmailAccountService.issue; infer_instance

instance sendSignupEmails : Calls allowed (sendSignupEmails env user) := by
  unfold EmailAccountService.sendSignupEmails; infer_instance

instance resendVerification : Calls allowed (EmailAccountService.resendVerification env user) := by
  unfold EmailAccountService.resendVerification; infer_instance

instance requestPasswordReset (email : String) : Calls allowed (requestPasswordReset env email) := by
  unfold EmailAccountService.requestPasswordReset
  refine sequence fun found => ?_
  cases found <;> infer_instance

instance requestEmailChange (newEmail password : String) :
    Calls allowed (requestEmailChange env user newEmail password) := by
  simp only [EmailAccountService.requestEmailChange, throw_bind]; infer_instance

variable [LinearOrder T]

instance consume (raw : String) (purpose : Purpose) : Calls allowed (consume env raw purpose) := by
  simp only [EmailAccountService.consume, throw_bind]
  refine sequence fun db => ?_
  split <;> infer_instance

instance verifyEmail [∀ isVerified, Updates allowed fun user => { user with isVerified }]
    (raw : String) : Calls allowed (EmailAccountService.verifyEmail env raw) := by
  unfold EmailAccountService.verifyEmail
  refine sequence fun _ => sequence fun db => ?_
  split <;> infer_instance

instance resetPassword [∀ hashedPassword, Updates allowed fun user => { user with hashedPassword }]
    (raw newPassword : String) :
    Calls allowed (EmailAccountService.resetPassword env raw newPassword) := by
  unfold EmailAccountService.resetPassword
  refine sequence fun _ => sequence fun _ => sequence fun db => ?_
  split <;> infer_instance

instance confirmEmailChange
    [∀ email isVerified, Updates allowed fun user => { user with email, isVerified }]
    (raw : String) :
    Calls allowed (EmailAccountService.confirmEmailChange env raw) := by
  simp only [EmailAccountService.confirmEmailChange, throw_bind]
  refine sequence fun _ => sequence fun db => ?_
  split <;> infer_instance

end

/-! ## Profiles of a provider -/

section
open OAuthService

instance providerOr404 (registry : String → Option Provider) (name : String) :
    Calls allowed (providerOr404 registry name : App T Provider) := by
  unfold OAuthService.providerOr404
  split <;> infer_instance

instance liftExcept {α : Type} (result : Except AppError α) :
    Calls allowed (liftExcept result : App T α) := by
  cases result <;> (unfold EnterpriseAuth.liftExcept; infer_instance)

instance resolveUser [Enrols allowed] (info : OAuthUserInfo) (mode : OAuthMode)
    (linkUserId : Option Uuid) :
    Calls allowed (resolveUser env info mode linkUserId) := by
  simp only [OAuthService.resolveUser]
  split
  · refine sequence fun db => ?_
    split <;> infer_instance
  · split
    · infer_instance
    · refine sequence fun existing => ?_
      split <;> infer_instance

instance resolveProfile [Enrols allowed] (provider : String) (payload : OAuthState)
    (info : OAuthUserInfo) :
    Calls allowed (resolveProfile env provider payload info) := by
  simp only [OAuthService.resolveProfile, throw_bind]
  refine sequence fun db => ?_
  split
  · split
    · infer_instance
    · split <;> infer_instance
  · infer_instance

end

/-! ## Counters and used codes -/

section
variable (request : HttpRequest) [∀ key, Opens allowed (.rateLimit key)]

instance twofaRateLimit (user : User T) : Calls allowed (twofaRateLimit env request user) := by
  unfold EnterpriseAuth.twofaRateLimit; infer_instance

variable [∀ subject, Opens allowed (.lockout subject)] [∀ subject, Opens allowed (.failcount subject)]

instance lockoutKey (identifier : String) (ip : Option String) :
    Opens allowed (RateLimiter.lockoutKey env identifier ip) := by
  unfold RateLimiter.lockoutKey; infer_instance

instance failcountKey (identifier : String) (ip : Option String) :
    Opens allowed (RateLimiter.failcountKey env identifier ip) := by
  unfold RateLimiter.failcountKey; infer_instance

instance authenticate [∀ hashedPassword, Updates allowed fun user => { user with hashedPassword }]
    (email password ip : String) :
    Calls allowed (AuthService.authenticate env email password ip) := by
  simp only [AuthService.authenticate, throw_bind]
  refine sequence fun _ => sequence fun user => sequence fun salt => ?_
  split <;> infer_instance

instance consumeRecoveryCode (user : User T) (code : String) :
    Calls allowed (TwoFactorService.consumeRecoveryCode env user code) := by
  unfold TwoFactorService.consumeRecoveryCode; infer_instance

variable [∀ userId otp, Opens allowed (.otpUsed userId otp)]

instance verifyTotp (user : User T) (otp : String) :
    Calls allowed (TwoFactorService.verifyTotp env user otp) := by
  simp only [TwoFactorService.verifyTotp, throw_bind]; infer_instance

instance disable (user : User T) (password otp : String) :
    Calls allowed (TwoFactorService.disable env user password otp) := by
  unfold TwoFactorService.disable; infer_instance

end

/-! ## Tokens and sessions -/

section
variable [CommRing T] [LinearOrder T]

instance decodeToken (token : Token) (expected : TokenType) :
    Calls allowed (decodeToken token expected : App T Claims) := by
  unfold EnterpriseAuth.decodeToken
  cases token <;> infer_instance

instance verifyPreAuth (token : Token) :
    Calls allowed (TokenService.verifyPreAuth token : App T Uuid) := by
  unfold TokenService.verifyPreAuth; infer_instance

instance verifyAccess (token : Token) :
    Calls allowed (TokenService.verifyAccess token : App T Claims) := by
  unfold TokenService.verifyAccess; infer_instance

instance issuePreAuth [FloorRing T] (userId : Uuid) :
    Calls allowed (TokenService.issuePreAuth env userId) := by
  unfold TokenService.issuePreAuth; infer_instance

end

section
variable [∀ jti, Opens allowed (.revokedJti jti)] [∀ sid, Opens allowed (.sessionActive sid)]

instance revokeJti (jti : Uuid) : Calls allowed (TokenService.revokeJti env jti) := by
  unfold TokenService.revokeJti; infer_instance

instance rebindRefresh (userId sid jti : Uuid) :
    Calls allowed (SessionService.rebindRefresh env userId sid jti) := by
  simp only [SessionService.rebindRefresh, SessionService.setActive, throw_bind]
  refine sequence fun db => ?_
  split <;> infer_instance

section
variable [CommRing T] [LinearOrder T]

instance verifyRefresh (token : Token) :
    Calls allowed (TokenService.verifyRefresh token : App T Claims) := by
  unfold TokenService.verifyRefresh TokenService.isRevoked; infer_instance

variable [FloorRing T]

instance revokeToken (claims : Claims) : Calls allowed (TokenService.revoke claims : App T Unit) := by
  unfold TokenService.revoke; infer_instance

instance rotate (token : Token) : Calls allowed (TokenService.rotate env token) := by
  unfold TokenService.rotate; infer_instance

end

variable [∀ sid, Opens allowed (.sessionRevoked sid)]
  [∀ sid, Admits allowed (.redis (.delete (.sessionTouch sid)))]

instance clearCache (sid : Uuid) : Calls allowed (SessionService.clearCache env sid) := by
  unfold SessionService.clearCache; infer_instance

instance touch [∀ sid, Opens allowed (.sessionTouch sid)] (record : Session T) (now : T) :
    Calls allowed (SessionService.touch env record now) := by
  unfold SessionService.touch SessionService.setActive; infer_instance

instance expire (record : Session T) (reason : String) :
    Calls allowed (SessionService.expire env record reason) := by
  unfold SessionService.expire; infer_instance

instance revoke (record : Session T) (reason : String) :
    Calls allowed (SessionService.revoke env record reason) := by
  unfold SessionService.revoke; infer_instance

instance revokeByUuid (user : User T) (sessionUuid : Uuid) (reason : String) :
    Calls allowed (SessionService.revokeByUuid env user sessionUuid reason) := by
  unfold SessionService.revokeByUuid; infer_instance

instance revokeBySid (sid : Uuid) (reason : String) :
    Calls allowed (SessionService.revokeBySid env sid reason) := by
  unfold SessionService.revokeBySid
  refine sequence fun db => ?_
  split <;> infer_instance

instance revokeEach (reason : String) (rows : List (Session T)) :
    Calls allowed (SessionService.revokeEach env reason rows) := by
  induction rows with
  | nil => unfold SessionService.revokeEach; infer_instance
  | cons row rows inductionHypothesis => unfold SessionService.revokeEach; infer_instance

variable [LinearOrder T]

instance revokeAll (user : User T) (reason : String) :
    Calls allowed (SessionService.revokeAll env user reason) := by
  unfold SessionService.revokeAll; infer_instance

variable [CommRing T]

section
variable [∀ sid, Opens allowed (.sessionTouch sid)]

instance validateAndTouch (sessionUuid userId : Uuid) :
    Calls allowed (SessionService.validateAndTouch env sessionUuid userId) := by
  simp only [SessionService.validateAndTouch, throw_bind]
  refine sequence fun revoked => ?_
  split
  · infer_instance
  · refine sequence fun db => ?_
    split <;> infer_instance

instance getAuthContext (request : HttpRequest) : Calls allowed (getAuthContext env request) := by
  simp only [EnterpriseAuth.getAuthContext, throw_bind]
  split
  · infer_instance
  · refine sequence fun payload => sequence fun db => ?_
    split
    · infer_instance
    · split
      · infer_instance
      · split <;> infer_instance

end

/-! ## Routes -/

instance logoutToken [FloorRing T] (token : Token) : Calls allowed (logoutToken env token) := by
  unfold EnterpriseAuth.logoutToken
  refine sequence fun payload => sequence fun _ => ?_
  split
  · infer_instance
  · refine sequence fun db => ?_
    split <;> infer_instance

instance logout [FloorRing T] (request : HttpRequest) : Calls allowed (logout env request) := by
  unfold EnterpriseAuth.logout
  refine sequence fun _ => ?_
  split <;> infer_instance

instance handleRefreshReplay (token : Token) : Calls allowed (handleRefreshReplay env token) := by
  unfold EnterpriseAuth.handleRefreshReplay
  refine sequence fun payload => ?_
  split <;> infer_instance

instance refresh [FloorRing T] (request : HttpRequest) : Calls allowed (refresh env request) := by
  simp only [EnterpriseAuth.refresh]
  split
  · infer_instance
  · refine sequence fun rotated => ?_
    obtain ⟨userId, sid, pair, refreshJti⟩ := rotated
    cases sid <;> infer_instance

/-- The routes behind the access token other than the start of a link. -/
theorem serveWithContext [∀ key, Opens allowed (.rateLimit key)]
    [∀ subject, Opens allowed (.lockout subject)] [∀ subject, Opens allowed (.failcount subject)]
    [∀ userId otp, Opens allowed (.otpUsed userId otp)] (registry : String → Option Provider)
    (request : HttpRequest) (context : AuthContext T) (route : ProtectedRoute)
    (other : ∀ provider, route ≠ .oauthLink provider) :
    Calls allowed (serveWithContext env registry request context route) := by
  cases route <;> simp only [EnterpriseAuth.serveWithContext]
  case oauthLink provider => exact absurd rfl (other provider)
  case me | readMe => unfold readMe; infer_instance
  case resendVerification => unfold EnterpriseAuth.resendVerification; infer_instance
  case changeEmail => unfold changeEmail; infer_instance
  case oauthLinks => unfold oauthLinks; infer_instance
  case twoFactorStatus => unfold twoFactorStatus; infer_instance
  case twoFactorSetup => unfold twoFactorSetup; infer_instance
  case twoFactorVerify => unfold twoFactorVerify; infer_instance
  case twoFactorQrcode => unfold twoFactorQrcode; infer_instance
  case recoveryCodes => unfold recoveryCodes recoveryCodesRoute; infer_instance
  case regenerateRecoveryCodes => unfold regenerateRecoveryCodes recoveryCodesRoute; infer_instance
  case twoFactorDisable => unfold twoFactorDisable; infer_instance
  case listSessions => unfold listSessions; infer_instance
  case getSession => unfold getSession; infer_instance
  case logoutCurrent => unfold logoutCurrent; infer_instance
  case logoutAll => unfold logoutAll; infer_instance
  case revokeSession => unfold revokeSession; infer_instance
  case lastLogin => unfold lastLogin; infer_instance
  case listUsers => unfold listUsers; infer_instance

end

section
variable [CommRing T] [LinearOrder T] [∀ key, Opens allowed (.rateLimit key)]
  (registry : String → Option Provider) (request : HttpRequest)

/-- The open routes other than the start of a login. -/
theorem serveOpen
    [∀ hashedPassword, Updates allowed fun user => { user with hashedPassword }]
    [∀ isVerified, Updates allowed fun user => { user with isVerified }]
    [∀ email isVerified, Updates allowed fun user => { user with email, isVerified }]
    (route : OpenRoute) (other : ∀ provider, route ≠ .oauthAuthorize provider) :
    Calls allowed (serveOpen env registry request route) := by
  cases route <;> simp only [EnterpriseAuth.serveOpen]
  case verifyEmail => unfold EnterpriseAuth.verifyEmail; infer_instance
  case forgotPassword => unfold forgotPassword; infer_instance
  case resetPassword => unfold EnterpriseAuth.resetPassword; infer_instance
  case confirmEmailChange => unfold EnterpriseAuth.confirmEmailChange; infer_instance
  case oauthAuthorize provider => exact absurd rfl (other provider)

variable [FloorRing T] [∀ subject, Opens allowed (.lockout subject)]
  [∀ subject, Opens allowed (.failcount subject)]
  [∀ userId otp, Opens allowed (.otpUsed userId otp)] [∀ sid, Opens allowed (.sessionActive sid)]

/-- The routes that log a user in, other than the callback. -/
theorem serveLogin [Enrols allowed]
    [∀ hashedPassword, Updates allowed fun user => { user with hashedPassword }]
    (route : LoginRoute)
    (other : ∀ provider code state, route ≠ .oauthCallback provider code state) :
    Calls allowed (serveLogin env registry request route) := by
  cases route <;> simp only [EnterpriseAuth.serveLogin]
  case register => unfold EnterpriseAuth.register; infer_instance
  case login => unfold EnterpriseAuth.login; infer_instance
  case loginOtp => unfold EnterpriseAuth.loginOtp; infer_instance
  case loginRecoveryCode => unfold EnterpriseAuth.loginRecoveryCode; infer_instance
  case oauthCallback provider code state => exact absurd rfl (other provider code state)

end

end Calls

end EnterpriseAuth
