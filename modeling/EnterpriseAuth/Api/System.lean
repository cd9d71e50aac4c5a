import EnterpriseAuth.Api.Account
import EnterpriseAuth.Effects.Transition

/-!
# The API as a transition system

Refresh and logout of `api/v1/auth.py`, the dispatch of a request to its route behind the global
rate limit, the transaction of `db/session.py` around it, and the runs of the whole service: one
request at a time, with the clock advancing and users being disabled and enabled in between.

A client may present any token that the service has issued and any text that it has not signed.
-/

namespace EnterpriseAuth

open Effects

/-! ## Routes and replies -/

inductive LoginRoute where
  | register (payload : RegisterRequest)
  | login (payload : LoginRequest)
  | loginOtp (payload : OtpLoginRequest)
  | loginRecoveryCode (payload : RecoveryLoginRequest)
  | oauthCallback (provider code state : String)

inductive Route where
  | login (route : LoginRoute)
  | refresh
  | logout
  | openTo (route : OpenRoute)
  | withAccess (route : ProtectedRoute)

inductive Reply (T : Type) where
  | login (reply : LoginReply T)
  | refreshed (csrf : String) (pair : TokenPair)
  | page (page : Page T)

def TokenPair.tokens (pair : TokenPair) : List Claims := [pair.access, pair.refresh]

def LoginReply.issued {T : Type} : LoginReply T → List Claims
  | .auth _ _ pair => pair.tokens
  | .challenge preAuthToken => [preAuthToken]
  | .message _ => []

/-- The tokens that a reply hands to the client. -/
def Reply.issued {T : Type} : Reply T → List Claims
  | .login reply => reply.issued
  | .refreshed _ pair => pair.tokens
  | .page _ => []

/-- A request as it arrives, with the answers of the providers it will ask. -/
structure Arrival where
  http : HttpRequest
  route : Route
  registry : String → Option Provider := fun _ => none

def LoginRoute.preAuthToken : LoginRoute → Option Token
  | .loginOtp payload => some payload.preAuthToken
  | .loginRecoveryCode payload => some payload.preAuthToken
  | _ => none

def Route.preAuthToken : Route → Option Token
  | .login route => route.preAuthToken
  | _ => none

/-- The tokens that the client presents. -/
def Arrival.presented (arrival : Arrival) : List Token :=
  arrival.http.accessToken.toList ++ arrival.http.refreshToken.toList ++
    arrival.route.preAuthToken.toList

/-! ## Handlers -/

variable {T : Type} (env : Environment T)

section
variable [CommRing T] [LinearOrder T]

/-- `_handle_refresh_replay`: the revocation is committed before the route raises. -/
def handleRefreshReplay (token : Token) : App T Unit := do
  let payload ← tryCatch (some <$> decodeToken token .refresh) fun _ => pure none
  match payload.bind (·.sid) with
  | none => return ()
  | some sid =>
    let record ← SessionService.revokeBySid env sid "refresh_replay"
    if record.isSome then commit

variable [FloorRing T]

def refresh (request : HttpRequest) : App T (Reply T) :=
  match request.refreshToken with
  | none => throw (.auth "Missing refresh token.")
  | some token => do
    let (userId, sid, pair, refreshJti) ← tryCatch (TokenService.rotate env token) fun error =>
      if error.kind = .tokenReplay then do
        handleRefreshReplay env token
        throw (.auth error.message)
      else throw error
    match sid with
    | none => pure ()
    | some sid => SessionService.rebindRefresh env userId sid refreshJti
    let csrfDraw ← uuid4
    return .refreshed (env.tokenUrlsafe csrfDraw) pair

def logoutToken (token : Token) : App T Unit := do
  let payload ← TokenService.verifyRefresh token
  TokenService.revoke payload
  match payload.sid with
  | none => return ()
  | some sid =>
    let db ← view
    match db.sessions.find sid with
    | none => return ()
    | some record => if record.isActive then SessionService.revoke env record "logout"

/-- An `AuthError` only means that the token is invalid already. -/
def logout (request : HttpRequest) : App T (Page T) := do
  verifyCsrf request
  match request.refreshToken with
  | none => pure ()
  | some token =>
    tryCatch (logoutToken env token) fun error =>
      if error.kind.isAuthError then pure () else throw error
  return .message "logged out"

def serveLogin (registry : String → Option Provider) (request : HttpRequest) :
    LoginRoute → App T (LoginReply T)
  | .register payload => register env request payload
  | .login payload => login env request payload
  | .loginOtp payload => loginOtp env request payload
  | .loginRecoveryCode payload => loginRecoveryCode env request payload
  | .oauthCallback provider code state => oauthCallback env registry request provider code state

def dispatch (arrival : Arrival) : App T (Reply T) :=
  match arrival.route with
  | .login route => .login <$> serveLogin env arrival.registry arrival.http route
  | .refresh => refresh env arrival.http
  | .logout => .page <$> logout env arrival.http
  | .openTo route => .page <$> serveOpen env arrival.registry arrival.http route
  | .withAccess route => .page <$> serveProtected env arrival.registry arrival.http route

end

/-- `RateLimitMiddleware`: whatever else goes wrong with the counter, the request passes. -/
def rateLimitMiddleware (request : HttpRequest) : App T Unit :=
  tryCatch (RateLimiter.hit s!"global:{clientIp request}" env.settings.rateLimitPerMinute 60)
    fun error => if error.kind = .rateLimited then throw error else pure ()

/-- The commit of `get_db`.  FastAPI leaves the dependency once the response has been sent, so the
client is not told of a commit that is not executed.  A conflict with another transaction PostgreSQL
reports for the statement that waits for it, which comes before the response. -/
def commitAfterResponse : App T Unit :=
  tryCatch commit fun error => if error = .operational then pure () else throw error

/-- `get_db`: commits when the request succeeds.  What an error leaves uncommitted is lost. -/
def getDb {α : Type} (program : App T α) : App T α := do
  let result ← program
  commitAfterResponse
  return result

def serve [CommRing T] [LinearOrder T] [FloorRing T] (arrival : Arrival) : App T (Reply T) := do
  rateLimitMiddleware env arrival.http
  getDb (dispatch env arrival)

/-! ## Runs -/

/-- Draws of later requests differ from the keys of these rows. -/
structure Database.WellNumbered (db : Database T) (draws : ℕ) : Prop where
  users : ∀ id user, db.users.find id = some user → id < draws
  twoFactorAuth : ∀ id record, db.twoFactorAuth.find id = some record → id < draws

/-- A request that was served, with the server before and after it. -/
structure Exchange (T : Type) where
  before : Server T
  arrival : Arrival
  reply : Except AppError (Reply T)
  after : Server T

def Exchange.issued (exchange : Exchange T) : List Claims :=
  match exchange.reply with
  | .ok reply => reply.issued
  | .error _ => []

structure World (T : Type) where
  db : Database T
  redis : RedisStore T
  clock : T
  draws : ℕ
  /-- the exchanges so far, the latest first -/
  history : List (Exchange T)

namespace World

def issued (world : World T) : List Claims := world.history.flatMap Exchange.issued

/-- A client cannot make up a token that carries the service's signature. -/
def holds (world : World T) : Token → Prop
  | .signed claims => claims ∈ world.issued
  | .unsigned _ => True

/-- The server as a request finds it: the transaction sees the committed database. -/
def server (world : World T) : Server T :=
  { committed := world.db
    working := world.db
    redis := world.redis
    clock := world.clock
    draws := world.draws
    tasks := [] }

structure Starts (world : World T) : Prop where
  noSessions : world.db.sessions = ∅
  noRedis : world.redis = ∅
  noHistory : world.history = []
  wellNumbered : world.db.WellNumbered world.draws

section
variable [CommRing T] [LinearOrder T] [FloorRing T]

def exchange (world : World T) (arrival : Arrival) : Exchange T :=
  let result := (serve env arrival).run handle world.server
  { before := world.server, arrival, reply := result.1, after := result.2 }

/-- The world once a request has been answered. -/
def afterRequest (world : World T) (arrival : Arrival) : World T :=
  let exchange := world.exchange env arrival
  { db := exchange.after.committed
    redis := exchange.after.redis
    clock := exchange.after.clock
    draws := exchange.after.draws
    history := exchange :: world.history }

end

end World

inductive Event (T : Type) where
  | tick (instant : T)
  | request (arrival : Arrival)
  | setUserActive (userId : Uuid) (active : Bool)

section
variable [CommRing T] [LinearOrder T] [FloorRing T]

inductive World.Step : World T → Event T → World T → Prop
  | tick {world : World T} {instant : T} (later : world.clock ≤ instant) :
    Step world (.tick instant) { world with clock := instant }
  | request {world : World T} {arrival : Arrival}
    (owned : ∀ token ∈ arrival.presented, world.holds token) :
    Step world (.request arrival) (world.afterRequest env arrival)
  | setUserActive {world : World T} (userId : Uuid) (active : Bool) :
    Step world (.setUserActive userId active)
      { world with db := { world.db with
        users := world.db.users.modify userId (fun user => { user with isActive := active })
          fun _ => rfl } }

/-- The service with its clients. -/
def service : System (World T) (Event T) where
  start := World.Starts
  step := World.Step env

end

end EnterpriseAuth
