import EnterpriseAuth.Api.Dependencies
import EnterpriseAuth.Services.OAuth
import EnterpriseAuth.Services.TwoFactor
import EnterpriseAuth.Services.EmailAccount

/-!
# Routes that log a user in

`api/v1/_login.py`, the login routes of `api/v1/auth.py` and the callback of `api/v1/oauth.py`,
with the answers that carry tokens.
-/

namespace EnterpriseAuth

/-- `UserRead` -/
structure UserRead (T : Type) where
  id : Uuid
  email : String
  fullName : String
  isActive : Bool
  isVerified : Bool
  isSuperuser : Bool
  createdAt : T
  roles : List String
  permissions : List String

/-- What a successful login route answers.  The pair rides in the cookies of the response. -/
inductive LoginReply (T : Type) where
  | auth (user : UserRead T) (csrf : String) (pair : TokenPair)
  | challenge (preAuthToken : Claims)
  | message (detail : String)

structure RegisterRequest where
  email : String
  password : String
  fullName : String := ""

structure LoginRequest where
  email : String
  password : String
  rememberMe : Bool := false

structure OtpLoginRequest where
  preAuthToken : Token
  otp : String
  rememberMe : Bool := false

structure RecoveryLoginRequest where
  preAuthToken : Token
  recoveryCode : String
  rememberMe : Bool := false

variable {T : Type} (env : Environment T)

/-- `UserRead.from_model`, which reads the roles and checks the stored address and name once more. -/
def userRead (user : User T) : App T (UserRead T) := do
  let db ← view
  if !user.rolesLoaded then throw (.unexpected "MissingGreenlet")
  else
    match env.validEmail user.email with
    | none => throw (.unexpected "ValidationError")
    | some email =>
      if !lengthWithin user.fullName 0 255 then throw (.unexpected "ValidationError")
      else return {
        id := user.id
        email
        fullName := user.fullName
        isActive := user.isActive
        isVerified := user.isVerified
        isSuperuser := user.isSuperuser
        createdAt := user.createdAt
        roles := user.roles.dedup.insertionSort (· ≤ ·)
        permissions := (db.permissionCodes user).dedup.insertionSort (· ≤ ·) }

/-- The pattern `^\d{6}$` of the schemas. -/
def isOtp (otp : String) : Bool := otp.length = 6 && otp.toList.all env.isDecimal

section
variable [CommRing T]

/-- `_load_user_for_otp` -/
def loadUserForOtp (userId : Uuid) : App T (User T) := do
  let db ← view
  match db.users.find userId with
  | none => throw (.auth "Account is unavailable.")
  | some user =>
    if !user.isActive then throw (.auth "Account is unavailable.") else return user

variable [LinearOrder T] [FloorRing T]

/-- Issues a session: mints tokens bound to a new session id and stores the session. -/
def finalizeLogin (request : HttpRequest) (user : User T) (rememberMe : Bool) :
    App T (LoginReply T) := do
  let sessionUuid ← uuid4
  let (pair, refreshJti) ← TokenService.issuePair env user.id rememberMe (some sessionUuid)
  let (record, isNewDevice) ← SessionService.createSession env user sessionUuid refreshJti
    rememberMe (clientIp request) ((request.headers.get "user-agent").getD "") request.headers.dict
  if isNewDevice then
    addTask (.newDeviceAlert user.email record.deviceName record.browser record.ipAddress)
  let csrfDraw ← uuid4
  let user ← userRead env user
  return .auth user (env.tokenUrlsafe csrfDraw) pair

def register (request : HttpRequest) (payload : RegisterRequest) : App T (LoginReply T) := do
  authRateLimit env request
  let email ← checkEmail env payload.email
  checkSchema (lengthWithin payload.password 8 128 && lengthWithin payload.fullName 0 255)
  let user ← AuthService.register env email payload.password payload.fullName
  let reply ← finalizeLogin env request user false
  EmailAccountService.sendSignupEmails env user
  return reply

def login (request : HttpRequest) (payload : LoginRequest) : App T (LoginReply T) := do
  authRateLimit env request
  let email ← checkEmail env payload.email
  checkSchema (lengthWithin payload.password 1 128)
  let user ← AuthService.authenticate env email payload.password (clientIp request)
  -- no session before the second factor is proven
  if ← TwoFactorService.isEnabled user then
    let token ← TokenService.issuePreAuth env user.id
    return .challenge token
  else finalizeLogin env request user payload.rememberMe

def loginOtp (request : HttpRequest) (payload : OtpLoginRequest) : App T (LoginReply T) := do
  authRateLimit env request
  checkSchema (isOtp env payload.otp)
  let userId ← TokenService.verifyPreAuth payload.preAuthToken
  let user ← loadUserForOtp userId
  TwoFactorService.verifyTotp env user payload.otp
  finalizeLogin env request user payload.rememberMe

def loginRecoveryCode (request : HttpRequest) (payload : RecoveryLoginRequest) :
    App T (LoginReply T) := do
  authRateLimit env request
  checkSchema (lengthWithin payload.recoveryCode 8 32)
  let userId ← TokenService.verifyPreAuth payload.preAuthToken
  let user ← loadUserForOtp userId
  TwoFactorService.consumeRecoveryCode env user payload.recoveryCode
  finalizeLogin env request user payload.rememberMe

def oauthCallback (registry : String → Option Provider) (request : HttpRequest)
    (provider code state : String) : App T (LoginReply T) := do
  let (user, mode) ← OAuthService.handleCallback env registry provider code state
  if mode = .link then return .message s!"{provider} account linked."
  else finalizeLogin env request user false

end

end EnterpriseAuth
