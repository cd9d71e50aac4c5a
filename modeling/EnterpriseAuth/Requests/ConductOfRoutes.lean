import EnterpriseAuth.Requests.Conduct

/-!
# The powers that services and routes use

Every function of the services and every route, with the powers it needs and no others.  Only the
session functions that end a row write revocation flags, only an expiry and the handling of a replay
commit before the end of the request, only the email flows, registration and the OAuth callback write
email tokens and addresses, and only the second-factor flows write second factors and backup codes.
-/

namespace EnterpriseAuth

open Effects Program

-- an instance is found along the whole syntax of a handler
set_option synthInstance.maxSize 1000

variable {T : Type} {powers : Powers} (env : Environment T)

namespace Conducts

/-! ## Rate limits -/

section
open RateLimiter
variable (identifier : String) (ip : Option String)

instance : Unflagged (lockoutKey env identifier ip) := by unfold lockoutKey; infer_instance
instance : Unflagged (failcountKey env identifier ip) := by unfold failcountKey; infer_instance

instance hit (key : String) (limit windowSeconds : ℕ) :
    Conducts powers (RateLimiter.hit key limit windowSeconds : App T Unit) := by
  unfold RateLimiter.hit; infer_instance

instance ensureNotLocked : Conducts powers (RateLimiter.ensureNotLocked env identifier ip) := by
  unfold RateLimiter.ensureNotLocked; infer_instance

instance recordFailure : Conducts powers (RateLimiter.recordFailure env identifier ip) := by
  unfold RateLimiter.recordFailure; infer_instance

instance clearFailures : Conducts powers (RateLimiter.clearFailures env identifier ip) := by
  unfold RateLimiter.clearFailures; infer_instance

end

/-! ## Tokens -/

instance revokeJti (jti : Uuid) : Conducts powers (TokenService.revokeJti env jti) := by
  unfold TokenService.revokeJti; infer_instance

section
variable [CommRing T] [LinearOrder T]

instance decodeToken (token : Token) (expected : TokenType) :
    Conducts powers (decodeToken token expected : App T Claims) := by
  unfold EnterpriseAuth.decodeToken
  cases token <;> infer_instance

instance verifyPreAuth (token : Token) :
    Conducts powers (TokenService.verifyPreAuth token : App T Uuid) := by
  unfold TokenService.verifyPreAuth; infer_instance

instance verifyAccess (token : Token) :
    Conducts powers (TokenService.verifyAccess token : App T Claims) := by
  unfold TokenService.verifyAccess; infer_instance

instance verifyRefresh (token : Token) :
    Conducts powers (TokenService.verifyRefresh token : App T Claims) := by
  unfold TokenService.verifyRefresh TokenService.isRevoked; infer_instance

variable [FloorRing T]

instance revokeToken (claims : Claims) :
    Conducts powers (TokenService.revoke claims : App T Unit) := by
  unfold TokenService.revoke; infer_instance

instance createToken (subject : Uuid) (type : TokenType) (lifetimeSeconds : ℕ) (sid : Option Uuid)
    (rememberMe : Bool) :
    Conducts powers (createToken subject type lifetimeSeconds sid rememberMe : App T Claims) := by
  unfold EnterpriseAuth.createToken; infer_instance

instance issuePair (userId : Uuid) (rememberMe : Bool) (sessionId : Option Uuid) :
    Conducts powers (TokenService.issuePair env userId rememberMe sessionId) := by
  unfold TokenService.issuePair; infer_instance

instance issuePreAuth (userId : Uuid) : Conducts powers (TokenService.issuePreAuth env userId) := by
  unfold TokenService.issuePreAuth; infer_instance

instance rotate (token : Token) : Conducts powers (TokenService.rotate env token) := by
  unfold TokenService.rotate; infer_instance

end

/-! ## Sessions -/

section
open SessionService

instance setActive (sid : Uuid) : Conducts powers (SessionService.setActive env sid) := by
  unfold SessionService.setActive; infer_instance

instance deleteFlag [may : powers.Flags] (sid : Uuid) :
    Conducts powers (EnterpriseAuth.deleteKey (.sessionRevoked sid) : App T Unit) :=
  of_call (.inl may.may)

instance clearCache [powers.Flags] (sid : Uuid) : Conducts powers (clearCache env sid) := by
  unfold SessionService.clearCache; infer_instance

instance touch (record : Session T) (now : T) : Conducts powers (touch env record now) := by
  have : powers.Permits (Database.updateSession record.sessionUuid (touched now) fun _ => rfl) :=
    .of_updateSession fun _ => id
  unfold SessionService.touch; infer_instance

instance expire [powers.Flags] [powers.Commits] (record : Session T) (reason : String) :
    Conducts powers (expire env record reason) := by
  have (now : T) : powers.Permits
      (Database.updateSession record.sessionUuid (ended now reason) fun _ => rfl) :=
    .of_updateSession fun _ _ => rfl
  unfold SessionService.expire; infer_instance

instance revoke [powers.Flags] (record : Session T) (reason : String) :
    Conducts powers (SessionService.revoke env record reason) := by
  have (now : T) : powers.Permits
      (Database.updateSession record.sessionUuid (ended now reason) fun _ => rfl) :=
    .of_updateSession fun _ _ => rfl
  unfold SessionService.revoke; infer_instance

instance getOwned (user : User T) (sessionUuid : Uuid) :
    Conducts powers (getOwned user sessionUuid) := by
  unfold SessionService.getOwned
  refine sequence fun db => ?_
  split <;> infer_instance

instance revokeByUuid [powers.Flags] (user : User T) (sessionUuid : Uuid) (reason : String) :
    Conducts powers (revokeByUuid env user sessionUuid reason) := by
  unfold SessionService.revokeByUuid; infer_instance

instance revokeBySid [powers.Flags] (sid : Uuid) (reason : String) :
    Conducts powers (revokeBySid env sid reason) := by
  unfold SessionService.revokeBySid
  refine sequence fun db => ?_
  split <;> infer_instance

instance revokeEach [powers.Flags] (reason : String) (rows : List (Session T)) :
    Conducts powers (revokeEach env reason rows) := by
  induction rows with
  | nil => unfold SessionService.revokeEach; infer_instance
  | cons row rows inductionHypothesis => unfold SessionService.revokeEach; infer_instance

instance rebindRefresh (userId sid jti : Uuid) :
    Conducts powers (rebindRefresh env userId sid jti) := by
  simp only [SessionService.rebindRefresh, throw_bind]
  refine sequence fun db => ?_
  split
  next => infer_instance
  next record _ =>
    have (now : T) : powers.Permits
        (Database.updateSession record.sessionUuid (rebound now jti) fun _ => rfl) :=
      .of_updateSession fun _ => id
    infer_instance

variable [CommRing T] [LinearOrder T]

instance revokeAll [powers.Flags] (user : User T) (reason : String) :
    Conducts powers (revokeAll env user reason) := by
  unfold SessionService.revokeAll; infer_instance

instance previousLogin (user : User T) (current : Session T) :
    Conducts powers (previousLogin user current) := by
  unfold SessionService.previousLogin; infer_instance

instance validateAndTouch [powers.Flags] [powers.Commits] (sessionUuid userId : Uuid) :
    Conducts powers (validateAndTouch env sessionUuid userId) := by
  simp only [SessionService.validateAndTouch, throw_bind]
  refine sequence fun revoked => ?_
  split
  · infer_instance
  · refine sequence fun db => ?_
    split <;> infer_instance

instance createSession (user : User T) (sessionUuid refreshJti : Uuid) (rememberMe : Bool)
    (ip userAgent : String) (headers : Headers) :
    Conducts powers
      (createSession env user sessionUuid refreshJti rememberMe ip userAgent headers) := by
  unfold SessionService.createSession SessionService.expiry; infer_instance

end

/-! ## Users -/

instance validatePasswordStrength (password : String) :
    Conducts powers (validatePasswordStrength env password) := by
  unfold EnterpriseAuth.validatePasswordStrength; infer_instance

instance getByEmail (email : String) : Conducts powers (getByEmail env email) := by
  unfold EnterpriseAuth.getByEmail
  refine sequence fun db => ?_
  split <;> infer_instance

instance addUser [powers.Mail] (email hashedPassword fullName : String) (isVerified : Bool) :
    Conducts powers (addUser email hashedPassword fullName isVerified : App T (User T)) := by
  unfold EnterpriseAuth.addUser; infer_instance

instance registerUser [powers.Mail] (email password fullName : String) :
    Conducts powers (AuthService.register env email password fullName) := by
  simp only [AuthService.register, throw_bind]; infer_instance

instance authenticate (email password ip : String) :
    Conducts powers (AuthService.authenticate env email password ip) := by
  simp only [AuthService.authenticate, throw_bind]
  refine sequence fun _ => sequence fun user => sequence fun salt => ?_
  split <;> infer_instance

/-! ## Two-factor authentication -/

section
open TwoFactorService
variable (user : User T)

instance requirePassword (password : String) : Conducts powers (requirePassword env user password) := by
  unfold TwoFactorService.requirePassword; infer_instance

instance decrypt (ciphertext : String) : Conducts powers (decrypt env ciphertext) := by
  unfold TwoFactorService.decrypt
  split <;> infer_instance

instance startSetup [powers.SecondFactor] (password : String) :
    Conducts powers (startSetup env user password) := by
  simp only [TwoFactorService.startSetup, throw_bind]
  refine sequence fun _ => sequence fun db => ?_
  cases db.twoFactorAuth.find user.id <;> infer_instance

instance getPendingSecret : Conducts powers (getPendingSecret env user) := by
  unfold TwoFactorService.getPendingSecret
  refine sequence fun db => ?_
  split <;> infer_instance

instance confirmSetup [powers.SecondFactor] (otp : String) :
    Conducts powers (confirmSetup env user otp) := by
  simp only [TwoFactorService.confirmSetup, throw_bind]
  refine sequence fun db => ?_
  split <;> infer_instance

instance enabledRecord : Conducts powers (enabledRecord user) := by
  unfold TwoFactorService.enabledRecord
  refine sequence fun db => ?_
  split <;> infer_instance

instance verifyTotp (otp : String) : Conducts powers (verifyTotp env user otp) := by
  simp only [TwoFactorService.verifyTotp, throw_bind]; infer_instance

instance drawLetters (count : ℕ) : Conducts powers (drawLetters env count) := by
  induction count with
  | zero => unfold TwoFactorService.drawLetters; infer_instance
  | succ count inductionHypothesis => unfold TwoFactorService.drawLetters; infer_instance

instance generateCodes (count : ℕ) : Conducts powers (generateCodes env count) := by
  induction count with
  | zero => unfold TwoFactorService.generateCodes; infer_instance
  | succ count inductionHypothesis =>
    unfold TwoFactorService.generateCodes TwoFactorService.generateCode; infer_instance

instance storeCodes [powers.SecondFactor] (codes : List String) :
    Conducts powers (storeCodes env user codes) := by
  induction codes with
  | nil => unfold TwoFactorService.storeCodes; infer_instance
  | cons code codes inductionHypothesis => unfold TwoFactorService.storeCodes; infer_instance

instance generateRecoveryCodes [powers.SecondFactor] (replace : Bool) :
    Conducts powers (generateRecoveryCodes env user replace) := by
  simp only [TwoFactorService.generateRecoveryCodes, throw_bind]; infer_instance

instance consumeFirst [powers.SecondFactor] (normalized : String) (codes : List (BackupCode T)) :
    Conducts powers (consumeFirst env normalized codes) := by
  induction codes with
  | nil => unfold TwoFactorService.consumeFirst; infer_instance
  | cons code codes inductionHypothesis => unfold TwoFactorService.consumeFirst; infer_instance

instance consumeRecoveryCode [powers.SecondFactor] (code : String) :
    Conducts powers (consumeRecoveryCode env user code) := by
  unfold TwoFactorService.consumeRecoveryCode; infer_instance

instance disable [powers.SecondFactor] (password otp : String) :
    Conducts powers (disable env user password otp) := by
  unfold TwoFactorService.disable; infer_instance

instance isEnabled : Conducts powers (isEnabled user) := by
  unfold TwoFactorService.isEnabled; infer_instance

instance status : Conducts powers (status user) := by
  unfold TwoFactorService.status; infer_instance

end

/-! ## Email flows -/

section
open EmailAccountService
variable [powers.Mail] [CommRing T] (user : User T)

instance issue (purpose : Purpose) (ttlSeconds : ℕ) (newEmail : Option String) :
    Conducts powers (issue env user purpose ttlSeconds newEmail) := by
  unfold EmailAccountService.issue; infer_instance

instance sendSignupEmails : Conducts powers (sendSignupEmails env user) := by
  unfold EmailAccountService.sendSignupEmails; infer_instance

instance resendVerification : Conducts powers (EmailAccountService.resendVerification env user) := by
  unfold EmailAccountService.resendVerification; infer_instance

instance requestPasswordReset (email : String) : Conducts powers (requestPasswordReset env email) := by
  unfold EmailAccountService.requestPasswordReset
  refine sequence fun found => ?_
  cases found <;> infer_instance

instance requestEmailChange (newEmail password : String) :
    Conducts powers (requestEmailChange env user newEmail password) := by
  simp only [EmailAccountService.requestEmailChange, throw_bind]; infer_instance

variable [LinearOrder T]

instance consume (raw : String) (purpose : Purpose) : Conducts powers (consume env raw purpose) := by
  simp only [EmailAccountService.consume, throw_bind]
  refine sequence fun db => ?_
  split <;> infer_instance

instance verifyEmail (raw : String) : Conducts powers (EmailAccountService.verifyEmail env raw) := by
  unfold EmailAccountService.verifyEmail
  refine sequence fun _ => sequence fun db => ?_
  split <;> infer_instance

instance resetPassword (raw newPassword : String) :
    Conducts powers (EmailAccountService.resetPassword env raw newPassword) := by
  unfold EmailAccountService.resetPassword
  refine sequence fun _ => sequence fun _ => sequence fun db => ?_
  split <;> infer_instance

instance confirmEmailChange (raw : String) :
    Conducts powers (EmailAccountService.confirmEmailChange env raw) := by
  simp only [EmailAccountService.confirmEmailChange, throw_bind]
  refine sequence fun _ => sequence fun db => ?_
  split <;> infer_instance

end

/-! ## OAuth -/

section
open OAuthService
variable (registry : String → Option Provider)

instance providerOr404 (name : String) :
    Conducts powers (providerOr404 registry name : App T Provider) := by
  unfold OAuthService.providerOr404
  split <;> infer_instance

instance liftExcept {α : Type} (result : Except AppError α) :
    Conducts powers (liftExcept result : App T α) := by
  cases result <;> (unfold EnterpriseAuth.liftExcept; infer_instance)

instance startAuthorization (provider : String) (mode : OAuthMode) (linkUserId : Option Uuid) :
    Conducts powers (startAuthorization env registry provider mode linkUserId) := by
  unfold OAuthService.startAuthorization; infer_instance

instance popState (state provider : String) :
    Conducts powers (popState state provider : App T OAuthState) := by
  unfold OAuthService.popState
  refine sequence fun found => ?_
  split <;> infer_instance

variable [powers.Mail]

instance resolveUser (info : OAuthUserInfo) (mode : OAuthMode) (linkUserId : Option Uuid) :
    Conducts powers (resolveUser env info mode linkUserId) := by
  simp only [OAuthService.resolveUser]
  split
  · refine sequence fun db => ?_
    split <;> infer_instance
  · split
    · infer_instance
    · refine sequence fun existing => ?_
      split <;> infer_instance

instance resolveProfile (provider : String) (payload : OAuthState) (info : OAuthUserInfo) :
    Conducts powers (resolveProfile env provider payload info) := by
  simp only [OAuthService.resolveProfile, throw_bind]
  refine sequence fun db => ?_
  split
  · split
    · infer_instance
    · split <;> infer_instance
  · infer_instance

instance handleCallback (provider code state : String) :
    Conducts powers (handleCallback env registry provider code state) := by
  unfold OAuthService.handleCallback; infer_instance

end

/-! ## Checks of the routes -/

section
variable (request : HttpRequest)

instance verifyCsrf : Conducts powers (verifyCsrf request : App T Unit) := by
  unfold EnterpriseAuth.verifyCsrf
  split <;> infer_instance

instance checkSchema (accepted : Bool) : Conducts powers (checkSchema accepted : App T Unit) := by
  unfold EnterpriseAuth.checkSchema; infer_instance

instance checkEmail (email : String) : Conducts powers (checkEmail env email) := by
  unfold EnterpriseAuth.checkEmail
  split <;> infer_instance

instance authRateLimit : Conducts powers (authRateLimit env request) := by
  unfold EnterpriseAuth.authRateLimit; infer_instance

instance emailRateLimit : Conducts powers (emailRateLimit env request) := by
  unfold EnterpriseAuth.emailRateLimit; infer_instance

instance twofaRateLimit (user : User T) : Conducts powers (twofaRateLimit env request user) := by
  unfold EnterpriseAuth.twofaRateLimit; infer_instance

instance rateLimitMiddleware : Conducts powers (rateLimitMiddleware env request) := by
  unfold EnterpriseAuth.rateLimitMiddleware; infer_instance

instance getCurrentSession (context : AuthContext T) :
    Conducts powers (getCurrentSession context) := by
  unfold EnterpriseAuth.getCurrentSession
  split <;> infer_instance

instance requirePermission (context : AuthContext T) (code : String) :
    Conducts powers (requirePermission context code) := by
  unfold EnterpriseAuth.requirePermission; infer_instance

instance userRead (user : User T) : Conducts powers (userRead env user) := by
  unfold EnterpriseAuth.userRead
  refine sequence fun db => ?_
  cases env.validEmail user.email <;> infer_instance

instance readUsers (users : List (User T)) : Conducts powers (readUsers env users) := by
  induction users with
  | nil => unfold EnterpriseAuth.readUsers; infer_instance
  | cons user users inductionHypothesis => unfold EnterpriseAuth.readUsers; infer_instance

variable [CommRing T]

instance loadUserForOtp (userId : Uuid) : Conducts powers (loadUserForOtp userId : App T (User T)) := by
  unfold EnterpriseAuth.loadUserForOtp
  refine sequence fun db => ?_
  split <;> infer_instance

variable [LinearOrder T]

instance getAuthContext [powers.Flags] [powers.Commits] :
    Conducts powers (getAuthContext env request) := by
  simp only [EnterpriseAuth.getAuthContext, throw_bind]
  split
  · infer_instance
  · refine sequence fun payload => sequence fun db => ?_
    split
    · infer_instance
    · split
      · infer_instance
      · split <;> infer_instance

/-! ## Routes -/

variable [FloorRing T]

instance finalizeLogin (user : User T) (rememberMe : Bool) :
    Conducts powers (finalizeLogin env request user rememberMe) := by
  unfold EnterpriseAuth.finalizeLogin
  refine sequence fun sessionUuid => sequence fun minted => sequence fun created => ?_
  split
  infer_instance

instance registerRoute [powers.Mail] (payload : RegisterRequest) :
    Conducts powers (register env request payload) := by
  unfold EnterpriseAuth.register; infer_instance

instance login (payload : LoginRequest) : Conducts powers (login env request payload) := by
  unfold EnterpriseAuth.login; infer_instance

instance loginOtp (payload : OtpLoginRequest) : Conducts powers (loginOtp env request payload) := by
  unfold EnterpriseAuth.loginOtp; infer_instance

instance loginRecoveryCode [powers.SecondFactor] (payload : RecoveryLoginRequest) :
    Conducts powers (loginRecoveryCode env request payload) := by
  unfold EnterpriseAuth.loginRecoveryCode; infer_instance

instance oauthCallback [powers.Mail] (registry : String → Option Provider)
    (provider code state : String) :
    Conducts powers (oauthCallback env registry request provider code state) := by
  unfold EnterpriseAuth.oauthCallback; infer_instance

instance serveLogin [powers.Mail] [powers.SecondFactor] (registry : String → Option Provider)
    (route : LoginRoute) :
    Conducts powers (serveLogin env registry request route) := by
  cases route <;> (simp only [EnterpriseAuth.serveLogin]; infer_instance)

instance handleRefreshReplay [powers.Flags] [powers.Commits] (token : Token) :
    Conducts powers (handleRefreshReplay env token) := by
  unfold EnterpriseAuth.handleRefreshReplay
  refine sequence fun payload => ?_
  split <;> infer_instance

instance refresh [powers.Flags] [powers.Commits] : Conducts powers (refresh env request) := by
  simp only [EnterpriseAuth.refresh]
  split
  · infer_instance
  · refine sequence fun rotated => ?_
    obtain ⟨userId, sid, pair, refreshJti⟩ := rotated
    cases sid <;> infer_instance

instance logoutToken [powers.Flags] (token : Token) : Conducts powers (logoutToken env token) := by
  unfold EnterpriseAuth.logoutToken
  refine sequence fun payload => sequence fun _ => ?_
  split
  · infer_instance
  · refine sequence fun db => ?_
    split <;> infer_instance

instance logout [powers.Flags] : Conducts powers (logout env request) := by
  unfold EnterpriseAuth.logout
  refine sequence fun _ => ?_
  split <;> infer_instance

instance serveOpen [powers.Mail] (registry : String → Option Provider) (route : OpenRoute) :
    Conducts powers (serveOpen env registry request route) := by
  cases route <;> simp only [EnterpriseAuth.serveOpen]
  case verifyEmail => unfold EnterpriseAuth.verifyEmail; infer_instance
  case forgotPassword => unfold forgotPassword; infer_instance
  case resetPassword => unfold EnterpriseAuth.resetPassword; infer_instance
  case confirmEmailChange => unfold EnterpriseAuth.confirmEmailChange; infer_instance
  case oauthAuthorize => unfold oauthAuthorize; infer_instance

end

end Conducts

/-! ## Routes behind an access token -/

/-- The routes that end sessions on request. -/
def ProtectedRoute.endsSessions : ProtectedRoute → Bool
  | .logoutCurrent | .logoutAll | .revokeSession _ => true
  | _ => false

/-- The routes that issue email tokens. -/
def ProtectedRoute.sendsTokens : ProtectedRoute → Bool
  | .resendVerification | .changeEmail .. => true
  | _ => false

/-- The routes that write second factors and backup codes. -/
def ProtectedRoute.writesSecondFactor : ProtectedRoute → Bool
  | .twoFactorSetup _ | .twoFactorVerify _ | .recoveryCodes .. | .regenerateRecoveryCodes ..
  | .twoFactorDisable .. => true
  | _ => false

theorem conducts_serveWithContext [CommRing T] [LinearOrder T] (registry : String → Option Provider)
    (request : HttpRequest) (context : AuthContext T) {route : ProtectedRoute}
    (flags : route.endsSessions = true → powers.flags) (mail : route.sendsTokens = true → powers.mail)
    (secondFactor : route.writesSecondFactor = true → powers.secondFactor) :
    Conducts powers (serveWithContext env registry request context route) := by
  cases route with
  | logoutCurrent =>
    have : powers.Flags := ⟨flags rfl⟩
    simp only [serveWithContext, logoutCurrent]; infer_instance
  | logoutAll =>
    have : powers.Flags := ⟨flags rfl⟩
    simp only [serveWithContext, logoutAll]; infer_instance
  | revokeSession =>
    have : powers.Flags := ⟨flags rfl⟩
    simp only [serveWithContext, revokeSession]; infer_instance
  | resendVerification =>
    have : powers.Mail := ⟨mail rfl⟩
    simp only [serveWithContext, resendVerification]; infer_instance
  | changeEmail =>
    have : powers.Mail := ⟨mail rfl⟩
    simp only [serveWithContext, changeEmail]; infer_instance
  | me | readMe => simp only [serveWithContext, readMe]; infer_instance
  | oauthLinks => simp only [serveWithContext, oauthLinks]; infer_instance
  | oauthLink => simp only [serveWithContext, oauthLink]; infer_instance
  | twoFactorStatus => simp only [serveWithContext, twoFactorStatus]; infer_instance
  | twoFactorSetup =>
    have : powers.SecondFactor := ⟨secondFactor rfl⟩
    simp only [serveWithContext, twoFactorSetup]; infer_instance
  | twoFactorVerify =>
    have : powers.SecondFactor := ⟨secondFactor rfl⟩
    simp only [serveWithContext, twoFactorVerify]; infer_instance
  | twoFactorQrcode => simp only [serveWithContext, twoFactorQrcode]; infer_instance
  | recoveryCodes =>
    have : powers.SecondFactor := ⟨secondFactor rfl⟩
    simp only [serveWithContext, recoveryCodes, recoveryCodesRoute]; infer_instance
  | regenerateRecoveryCodes =>
    have : powers.SecondFactor := ⟨secondFactor rfl⟩
    simp only [serveWithContext, regenerateRecoveryCodes, recoveryCodesRoute]; infer_instance
  | twoFactorDisable =>
    have : powers.SecondFactor := ⟨secondFactor rfl⟩
    simp only [serveWithContext, twoFactorDisable]; infer_instance
  | listSessions => simp only [serveWithContext, listSessions]; infer_instance
  | getSession => simp only [serveWithContext, getSession]; infer_instance
  | lastLogin => simp only [serveWithContext, lastLogin]; infer_instance
  | listUsers => simp only [serveWithContext, listUsers]; infer_instance

end EnterpriseAuth
