import EnterpriseAuth.Api.Browsers
import EnterpriseAuth.Core.Cookies

/-!
# Browsers with their cookies

What a browser presents it keeps in its cookies, and it keeps what the answers to its own requests have
set.  A request is caused by a page, of the site or of another one, and the browser adds the cookies to
it.  `CookieBrowsing` adds the jars to the record of the visits.
-/

namespace EnterpriseAuth

open Effects

/-! ## Paths and methods -/

def LoginRoute.path : LoginRoute → String
  | .register _ => "/auth/register"
  | .login _ => "/auth/login"
  | .loginOtp _ => "/auth/login/otp"
  | .loginRecoveryCode _ => "/auth/login/recovery-code"
  | .oauthCallback provider _ _ => "/auth/oauth/" ++ provider ++ "/callback"

def OpenRoute.path : OpenRoute → String
  | .verifyEmail _ => "/auth/verify-email"
  | .forgotPassword _ => "/auth/forgot-password"
  | .resetPassword _ _ => "/auth/reset-password"
  | .confirmEmailChange _ => "/auth/confirm-email-change"
  | .oauthAuthorize provider => "/auth/oauth/" ++ provider ++ "/authorize"

def ProtectedRoute.path : ProtectedRoute → String
  | .me => "/auth/me"
  | .resendVerification => "/auth/resend-verification"
  | .changeEmail _ _ => "/auth/change-email"
  | .oauthLinks => "/auth/oauth/links"
  | .oauthLink provider => "/auth/oauth/" ++ provider ++ "/link"
  | .twoFactorStatus => "/auth/2fa/status"
  | .twoFactorSetup _ => "/auth/2fa/setup"
  | .twoFactorVerify _ => "/auth/2fa/verify"
  | .twoFactorQrcode => "/auth/2fa/qrcode"
  | .recoveryCodes _ _ => "/auth/2fa/recovery-codes"
  | .regenerateRecoveryCodes _ _ => "/auth/2fa/recovery-codes/regenerate"
  | .twoFactorDisable _ _ => "/auth/2fa/disable"
  | .listSessions _ _ => "/sessions"
  | .getSession sessionId => "/sessions/" ++ toString (sessionId : ℕ)
  | .logoutCurrent => "/sessions/logout"
  | .logoutAll => "/sessions/logout-all"
  | .revokeSession sessionId => "/sessions/" ++ toString (sessionId : ℕ)
  | .readMe => "/users/me"
  | .lastLogin => "/users/last-login"
  | .listUsers _ _ => "/users"

/-- The path below the prefix of the API. -/
def Route.path : Route → String
  | .login route => route.path
  | .refresh => "/auth/refresh"
  | .logout => "/auth/logout"
  | .openTo route => route.path
  | .withAccess route => route.path

/-- The method is `GET`. -/
def Route.isGet : Route → Bool
  | .login (.oauthCallback _ _ _) | .openTo (.oauthAuthorize _) => true
  | .withAccess route =>
    match route with
    | .me | .oauthLinks | .oauthLink _ | .twoFactorStatus | .twoFactorQrcode | .listSessions _ _
    | .getSession _ | .readMe | .lastLogin | .listUsers _ _ => true
    | _ => false
  | _ => false

/-- An answer of the route clears the cookies. -/
def Route.clearsCookies : Route → Bool
  | .logout | .withAccess .logoutCurrent | .withAccess .logoutAll => true
  | _ => false

/-! ## Requests and answers -/

/-- A request before the browser adds its cookies. -/
structure BrowserRequest where
  route : Route
  headers : Headers := []
  clientHost : Option String := none
  registry : String → Option Provider := fun _ => none
  https : Bool := true
  fromSite : Bool := true
  navigates : Bool := false

/-- The cookies of one browser. -/
abbrev Jar (T : Type) := CookieJar Token T

variable {T : Type}

/-- A cookie that is no token is read as its text. -/
def Token.text? : Token → Option String
  | .unsigned text => some text
  | .signed _ => none

section
variable (cookies : CookieSettings)

namespace BrowserRequest

def fetch (request : BrowserRequest) : Fetch where
  path := cookies.apiV1Prefix ++ request.route.path
  https := request.https
  fromSite := request.fromSite
  navigates := request.navigates
  safe := request.route.isGet

/-- The request as it arrives at the service, with the cookies that the browser sends along. -/
def arrival [LinearOrder T] (request : BrowserRequest) (jar : Jar T) (now : T) : Arrival where
  http :=
    { headers := request.headers
      clientHost := request.clientHost
      accessToken := jar.read now (request.fetch cookies) cookies.accessCookieName
      refreshToken := jar.read now (request.fetch cookies) cookies.refreshCookieName
      csrfCookie := (jar.read now (request.fetch cookies) cookies.csrfCookieName).bind Token.text? }
  route := request.route
  registry := request.registry

end BrowserRequest

/-- The `Set-Cookie` headers of an answer. -/
def Reply.setCookies (env : Environment T) (route : Route) : Reply T → List (SetCookie Token)
  | .login (.auth _ csrf pair) | .refreshed csrf pair => cookies.setAuthCookies env pair csrf
  | .login _ => []
  | .page _ => if route.clearsCookies then cookies.clearAuthCookies else []

/-- The cookies once the answer has come in.  The answer to a failed request sets none. -/
def BrowserRequest.received [CommRing T] [LinearOrder T] (env : Environment T)
    (request : BrowserRequest) (jar : Jar T) (now : T) : Except AppError (Reply T) → Jar T
  | .error _ => jar
  | .ok reply =>
    jar.receiveAll now (request.fetch cookies) (reply.setCookies cookies env request.route)

end

/-! ## The system -/

structure CookieBrowsing (ι T : Type) extends Browsing ι T where
  jar : ι → Jar T

inductive CookieEvent (ι T : Type) where
  | tick (instant : T)
  | setUserActive (userId : Uuid) (active : Bool)
  | request (sender : ι) (request : BrowserRequest)
  /-- the browser, or its user, drops cookies -/
  | drop (owner : ι) (dropped : Cookie Token T → Bool)

namespace CookieBrowsing

variable {ι : Type} [DecidableEq ι] [CommRing T] [LinearOrder T] [FloorRing T]
  (env : Environment T) (cookies : CookieSettings)

/-- What the request of the browser looks like to the service. -/
def arrival (state : CookieBrowsing ι T) (sender : ι) (request : BrowserRequest) : Arrival :=
  request.arrival cookies (state.jar sender) state.world.clock

def afterRequest (state : CookieBrowsing ι T) (sender : ι) (request : BrowserRequest) :
    CookieBrowsing ι T where
  toBrowsing := state.toBrowsing.afterRequest env sender (state.arrival cookies sender request)
  jar := Function.update state.jar sender
    (request.received cookies env (state.jar sender) state.world.clock
      (state.world.exchange env (state.arrival cookies sender request)).reply)

def drop (state : CookieBrowsing ι T) (owner : ι) (dropped : Cookie Token T → Bool) :
    CookieBrowsing ι T :=
  { state with jar := Function.update state.jar owner ((state.jar owner).removeWhere dropped) }

/-- A browser that has visited the service before has no cookies left. -/
structure Starts (state : CookieBrowsing ι T) : Prop where
  world : state.world.Starts
  noVisits : state.visits = []
  noCookies : ∀ owner, state.jar owner = ∅

/-- The page adds no pre-auth token but one that its browser was answered. -/
def Knows (state : CookieBrowsing ι T) (sender : ι) (request : BrowserRequest) : Prop :=
  ∀ token, request.route.preAuthToken = some token → state.holds sender token

inductive Step : CookieBrowsing ι T → CookieEvent ι T → CookieBrowsing ι T → Prop
  | tick {state : CookieBrowsing ι T} {instant : T} (later : state.world.clock ≤ instant) :
    Step state (.tick instant) { state with world := { state.world with clock := instant } }
  | setUserActive {state : CookieBrowsing ι T} (userId : Uuid) (active : Bool) :
    Step state (.setUserActive userId active)
      { state with world := { state.world with db := { state.world.db with
        users := state.world.db.users.modify userId (fun user => { user with isActive := active })
          fun _ => rfl } } }
  | request {state : CookieBrowsing ι T} {sender : ι} {request : BrowserRequest}
    (known : state.Knows sender request) :
    Step state (.request sender request) (state.afterRequest env cookies sender request)
  | drop {state : CookieBrowsing ι T} (owner : ι) (dropped : Cookie Token T → Bool) :
    Step state (.drop owner dropped) (state.drop owner dropped)

end CookieBrowsing

/-- The browsers with cookies of their own. -/
def cookieBrowsers (ι : Type) [DecidableEq ι] [CommRing T] [LinearOrder T] [FloorRing T]
    (env : Environment T) (cookies : CookieSettings) :
    System (CookieBrowsing ι T) (CookieEvent ι T) where
  start := CookieBrowsing.Starts
  step := CookieBrowsing.Step env cookies

end EnterpriseAuth
