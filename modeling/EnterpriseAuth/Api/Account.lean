import EnterpriseAuth.Api.Login

/-!
# Routes that issue no tokens

The routes of `email.py`, `two_factor.py`, `sessions.py` and `users.py`, `GET /auth/me`, and the
routes of `oauth.py` other than the callback.  A route that depends on the access token takes the
context that `getAuthContext` returned; the routes that check the CSRF token before it are the
ones for which `csrfFirst` holds.
-/

namespace EnterpriseAuth

/-- `SessionRead`: the columns of the row and what is derived from them. -/
structure SessionRead (T : Type) where
  session : Session T
  current : Bool
  status : String

inductive Page (T : Type) where
  | message (detail : String)
  | user (user : UserRead T)
  | users (items : List (UserRead T)) (total limit offset : ℕ)
  | links (accounts : List (OAuthAccount T))
  | redirect (url : AuthorizationUrl)
  | twoFactorStatus (status : TwoFactorService.Status T)
  | setup (secret : String)
  | qrcode (secret email : String)
  | recoveryCodes (codes : List String)
  | session (session : SessionRead T)
  | sessions (items : List (SessionRead T)) (total limit offset : ℕ)
  | lastLogin (previous : Option (Session T))
  | loggedOut (detail : String) (revokedSessions : ℕ)

inductive OpenRoute where
  | verifyEmail (token : String)
  | forgotPassword (email : String)
  | resetPassword (token newPassword : String)
  | confirmEmailChange (token : String)
  | oauthAuthorize (provider : String)

/-- The routes that depend on the access token. -/
inductive ProtectedRoute where
  | me
  | resendVerification
  | changeEmail (newEmail password : String)
  | oauthLinks
  | oauthLink (provider : String)
  | twoFactorStatus
  | twoFactorSetup (password : String)
  | twoFactorVerify (otp : String)
  | twoFactorQrcode
  | recoveryCodes (password otp : String)
  | regenerateRecoveryCodes (password otp : String)
  | twoFactorDisable (password otp : String)
  | listSessions (limit offset : ℕ)
  | getSession (sessionId : Uuid)
  | logoutCurrent
  | logoutAll
  | revokeSession (sessionId : Uuid)
  | readMe
  | lastLogin
  | listUsers (limit offset : ℕ)

def ProtectedRoute.csrfFirst : ProtectedRoute → Bool
  | .resendVerification | .changeEmail .. | .logoutCurrent | .logoutAll | .revokeSession _ => true
  | _ => false

variable {T : Type} (env : Environment T)

section
variable [CommRing T] [LinearOrder T]

/-! ## Email flows -/

def verifyEmail (token : String) : App T (Page T) := do
  checkSchema (lengthWithin token 16 128)
  EmailAccountService.verifyEmail env token
  return .message "Email verified."

def resendVerification (context : AuthContext T) : App T (Page T) := do
  EmailAccountService.resendVerification env context.user
  return .message "Verification email sent."

def forgotPassword (request : HttpRequest) (email : String) : App T (Page T) := do
  emailRateLimit env request
  let email ← checkEmail env email
  EmailAccountService.requestPasswordReset env email
  return .message "If that account exists, a reset email has been sent."

def resetPassword (request : HttpRequest) (token newPassword : String) : App T (Page T) := do
  emailRateLimit env request
  checkSchema (lengthWithin token 16 128 && lengthWithin newPassword 8 128)
  EmailAccountService.resetPassword env token newPassword
  return .message "Password has been reset."

def changeEmail (context : AuthContext T) (newEmail password : String) : App T (Page T) := do
  let newEmail ← checkEmail env newEmail
  checkSchema (lengthWithin password 1 128)
  EmailAccountService.requestEmailChange env context.user newEmail password
  return .message "Confirmation email sent to the new address."

def confirmEmailChange (token : String) : App T (Page T) := do
  checkSchema (lengthWithin token 16 128)
  EmailAccountService.confirmEmailChange env token
  return .message "Email address updated."

end

/-! ## OAuth -/

section
variable (registry : String → Option Provider)

def oauthLinks (context : AuthContext T) : App T (Page T) := do
  let db ← view
  return .links (db.listOAuthAccounts context.user.id)

def oauthAuthorize (provider : String) : App T (Page T) := do
  let url ← OAuthService.startAuthorization env registry provider .login none
  return .redirect url

def oauthLink (context : AuthContext T) (provider : String) : App T (Page T) := do
  let url ← OAuthService.startAuthorization env registry provider .link (some context.user.id)
  return .redirect url

end

/-! ## Two-factor authentication -/

def twoFactorStatus (context : AuthContext T) : App T (Page T) := do
  let status ← TwoFactorService.status context.user
  return .twoFactorStatus status

def twoFactorSetup (request : HttpRequest) (context : AuthContext T) (password : String) :
    App T (Page T) := do
  twofaRateLimit env request context.user
  verifyCsrf request
  checkSchema (lengthWithin password 1 128)
  let secret ← TwoFactorService.startSetup env context.user password
  return .setup secret

def twoFactorVerify (request : HttpRequest) (context : AuthContext T) (otp : String) :
    App T (Page T) := do
  twofaRateLimit env request context.user
  verifyCsrf request
  checkSchema (isOtp env otp)
  TwoFactorService.confirmSetup env context.user otp
  return .message "Two-factor authentication enabled."

def twoFactorQrcode (context : AuthContext T) : App T (Page T) := do
  let secret ← TwoFactorService.getPendingSecret env context.user
  return .qrcode secret context.user.email

/-- Both recovery-code routes: the first generation and the regeneration. -/
def recoveryCodesRoute (request : HttpRequest) (context : AuthContext T) (password otp : String)
    (replace : Bool) : App T (Page T) := do
  twofaRateLimit env request context.user
  verifyCsrf request
  checkSchema (lengthWithin password 1 128 && lengthWithin otp 6 10)
  TwoFactorService.requirePassword env context.user password
  TwoFactorService.verifyTotp env context.user otp
  let codes ← TwoFactorService.generateRecoveryCodes env context.user replace
  return .recoveryCodes codes

def recoveryCodes (request : HttpRequest) (context : AuthContext T) (password otp : String) :
    App T (Page T) :=
  recoveryCodesRoute env request context password otp false

def regenerateRecoveryCodes (request : HttpRequest) (context : AuthContext T)
    (password otp : String) : App T (Page T) :=
  recoveryCodesRoute env request context password otp true

def twoFactorDisable (request : HttpRequest) (context : AuthContext T) (password otp : String) :
    App T (Page T) := do
  twofaRateLimit env request context.user
  verifyCsrf request
  checkSchema (lengthWithin password 1 128 && lengthWithin otp 6 10)
  TwoFactorService.disable env context.user password otp
  return .message "Two-factor authentication disabled."

/-! ## Sessions -/

/-- `_to_read` -/
def toRead (record : Session T) (currentUuid : Uuid) : SessionRead T :=
  { session := record
    current := record.sessionUuid = currentUuid
    status := if record.isActive then "active" else "inactive" }

def listSessions [LinearOrder T] (context : AuthContext T) (limit offset : ℕ) :
    App T (Page T) := do
  let current ← getCurrentSession context
  checkSchema (1 ≤ limit && limit ≤ 200)
  let db ← view
  let records := ((db.listActiveForUser context.user.id).drop offset).take limit
  return .sessions (records.map fun record => toRead record current.sessionUuid)
    (db.countActiveForUser context.user.id) limit offset

def getSession (context : AuthContext T) (sessionId : Uuid) : App T (Page T) := do
  let current ← getCurrentSession context
  let record ← SessionService.getOwned context.user sessionId
  return .session (toRead record current.sessionUuid)

def logoutCurrent (context : AuthContext T) : App T (Page T) := do
  let current ← getCurrentSession context
  SessionService.revoke env current "logout"
  return .loggedOut "Current session logged out." 1

def logoutAll [LinearOrder T] (context : AuthContext T) : App T (Page T) := do
  let _ ← getCurrentSession context
  let count ← SessionService.revokeAll env context.user "logout_all"
  return .loggedOut "Logged out from all devices." count

def revokeSession (context : AuthContext T) (sessionId : Uuid) : App T (Page T) := do
  let _ ← SessionService.revokeByUuid env context.user sessionId "revoked_by_user"
  return .loggedOut "Session revoked." 1

/-! ## Users -/

/-- `GET /auth/me` and `GET /users/me` -/
def readMe (context : AuthContext T) : App T (Page T) := do
  let user ← userRead env context.user
  return .user user

def lastLogin [LinearOrder T] (context : AuthContext T) : App T (Page T) := do
  let current ← getCurrentSession context
  let previous ← SessionService.previousLogin context.user current
  return .lastLogin previous

def readUsers : List (User T) → App T (List (UserRead T))
  | [] => return []
  | user :: users => do
    let first ← userRead env user
    let rest ← readUsers users
    return first :: rest

def listUsers [LinearOrder T] (context : AuthContext T) (limit offset : ℕ) : App T (Page T) := do
  requirePermission context "manage_users"
  checkSchema (1 ≤ limit && limit ≤ 200)
  let db ← view
  let items ← readUsers env ((db.listAllUsers.drop offset).take limit)
  return .users items db.users.rows.length limit offset

/-! ## Dispatch -/

section
variable [CommRing T] [LinearOrder T] (registry : String → Option Provider) (request : HttpRequest)

def serveOpen : OpenRoute → App T (Page T)
  | .verifyEmail token => verifyEmail env token
  | .forgotPassword email => forgotPassword env request email
  | .resetPassword token newPassword => resetPassword env request token newPassword
  | .confirmEmailChange token => confirmEmailChange env token
  | .oauthAuthorize provider => oauthAuthorize env registry provider

def serveWithContext (context : AuthContext T) : ProtectedRoute → App T (Page T)
  | .me => readMe env context
  | .resendVerification => resendVerification env context
  | .changeEmail newEmail password => changeEmail env context newEmail password
  | .oauthLinks => oauthLinks context
  | .oauthLink provider => oauthLink env registry context provider
  | .twoFactorStatus => twoFactorStatus context
  | .twoFactorSetup password => twoFactorSetup env request context password
  | .twoFactorVerify otp => twoFactorVerify env request context otp
  | .twoFactorQrcode => twoFactorQrcode env context
  | .recoveryCodes password otp => recoveryCodes env request context password otp
  | .regenerateRecoveryCodes password otp =>
    regenerateRecoveryCodes env request context password otp
  | .twoFactorDisable password otp => twoFactorDisable env request context password otp
  | .listSessions limit offset => listSessions context limit offset
  | .getSession sessionId => getSession context sessionId
  | .logoutCurrent => logoutCurrent env context
  | .logoutAll => logoutAll env context
  | .revokeSession sessionId => revokeSession env context sessionId
  | .readMe => readMe env context
  | .lastLogin => lastLogin context
  | .listUsers limit offset => listUsers env context limit offset

def serveProtected (route : ProtectedRoute) : App T (Page T) := do
  if route.csrfFirst then verifyCsrf request
  let context ← getAuthContext env request
  serveWithContext env registry request context route

end

end EnterpriseAuth
