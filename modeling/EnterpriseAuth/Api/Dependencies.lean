import EnterpriseAuth.Services.RateLimit
import EnterpriseAuth.Services.Session

/-!
# Dependencies of the routes

`dependencies/auth.py`, the client address of `middleware/rate_limit.py` and the checks that the
schemas make: what a route resolves before its own body runs.
-/

namespace EnterpriseAuth

/-- The parts of an HTTP request that the handlers read.  An empty cookie counts as none. -/
structure HttpRequest where
  headers : Headers := []
  /-- the address of the TCP peer -/
  clientHost : Option String := none
  accessToken : Option Token := none
  refreshToken : Option Token := none
  csrfCookie : Option String := none

def clientIp (request : HttpRequest) : String :=
  match nonEmpty (request.headers.get "x-forwarded-for") with
  | some forwarded => Text.strip ((Text.split forwarded ',').headD "")
  | none => request.clientHost.getD "unknown"

variable {T : Type} (env : Environment T)

def isAscii (text : String) : Bool := text.toList.all fun character => character.toNat < 128

/-- `secrets.compare_digest` refuses strings with other than ASCII characters. -/
def verifyCsrf (request : HttpRequest) : App T Unit :=
  match nonEmpty request.csrfCookie, nonEmpty (request.headers.get "x-csrf-token") with
  | some cookie, some header =>
    if !(isAscii cookie && isAscii header) then throw (.unexpected "TypeError")
    else if cookie ≠ header then throw (.permissionDenied "CSRF validation failed.")
    else pure ()
  | _, _ => throw (.permissionDenied "CSRF validation failed.")

/-- A request whose parameters or body break the route's schema is refused. -/
def checkSchema (accepted : Bool) : App T Unit :=
  if accepted then pure () else throw (.validation "Request validation failed.")

/-- `EmailStr` -/
def checkEmail (email : String) : App T String :=
  match env.validEmail email with
  | none => throw (.validation "Request validation failed.")
  | some email => pure email

def lengthWithin (text : String) (minimum maximum : ℕ) : Bool :=
  minimum ≤ text.length && text.length ≤ maximum

/-! ## Rate limits of single routes -/

def authRateLimit (request : HttpRequest) : App T Unit :=
  RateLimiter.hit s!"auth:{clientIp request}" env.settings.authRateLimitPerMinute 60

def emailRateLimit (request : HttpRequest) : App T Unit :=
  RateLimiter.hit s!"email:{clientIp request}" env.settings.authRateLimitPerMinute 60

def twofaRateLimit (request : HttpRequest) (user : User T) : App T Unit := do
  RateLimiter.hit s!"2fa:{user.id}" env.settings.twoFaRateLimitPerMinute 60
  RateLimiter.hit s!"2fa-ip:{clientIp request}" (env.settings.twoFaRateLimitPerMinute * 3) 60

/-! ## Authentication -/

structure AuthContext (T : Type) where
  user : User T
  session : Option (Session T)

section
variable [CommRing T] [LinearOrder T]

/-- Authenticates the access token, validates its session and records the activity. -/
def getAuthContext (request : HttpRequest) : App T (AuthContext T) :=
  match request.accessToken with
  | none => throw (.auth "Not authenticated.")
  | some token => do
    let payload ← TokenService.verifyAccess token
    let db ← view
    match db.users.find payload.sub with
    | none => throw (.auth "User no longer exists.")
    | some user =>
      if !user.isActive then throw (.auth "This account is disabled.")
      match payload.sid with
      | none => return { user, session := none }
      | some sid =>
        let active ← SessionService.validateAndTouch env sid user.id
        return { user, session := some active }

end

def getCurrentSession (context : AuthContext T) : App T (Session T) :=
  match context.session with
  | none => throw (.auth "No active session for this token.")
  | some session => pure session

def requirePermission (context : AuthContext T) (code : String) : App T Unit := do
  let db ← view
  if !db.hasPermission context.user code then
    throw (.permissionDenied s!"Missing required permission: {code}")

end EnterpriseAuth
