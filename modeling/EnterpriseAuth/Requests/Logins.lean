import EnterpriseAuth.Requests.OAuthCallback
import EnterpriseAuth.Requests.Refresh

/-!
# The routes that create sessions

All five login routes end in `finalizeLogin`.  The session it creates and the pair it hands out
are described once; what the routes check before it is the gate through which a user has to come.
-/

namespace EnterpriseAuth

open Effects Program SessionService

set_option synthInstance.maxSize 1000

variable {T : Type} (env : Environment T) [CommRing T] [LinearOrder T] [FloorRing T]

/-! ## Pairs and the sessions they are bound to -/

/-- The tokens of the pair are new and belong to the user and the session. -/
structure TokenPair.Minted (pair : TokenPair) (since upTo : ℕ) (userId : Uuid) (sid : Option Uuid) :
    Prop where
  access : pair.access.type = .access
  refresh : pair.refresh.type = .refresh
  subject : ∀ claims ∈ pair.tokens, claims.sub = userId ∧ claims.sid = sid
  numbered : ∀ claims ∈ pair.tokens, since ≤ claims.jti ∧ claims.jti < upTo

theorem TokenPair.Minted.mono {pair : TokenPair} {since earlier upTo later : ℕ} {userId : Uuid}
    {sid : Option Uuid} (minted : pair.Minted since upTo userId sid) (first : earlier ≤ since)
    (last : upTo ≤ later) : pair.Minted earlier later userId sid :=
  { minted with
    numbered := fun claims member =>
      ⟨first.trans (minted.numbered claims member).1, (minted.numbered claims member).2.trans_le last⟩ }

theorem minted_mintPair (server : Server T) (userId : Uuid) (rememberMe : Bool)
    (sid : Option Uuid) :
    (server.mintPair env userId rememberMe sid).Minted server.draws (server.draws + 2) userId
      sid where
  access := rfl
  refresh := rfl
  subject := by
    intro claims member
    simp only [TokenPair.tokens, Server.mintPair, List.mem_cons, List.not_mem_nil, or_false] at member
    rcases member with rfl | rfl <;> exact ⟨rfl, rfl⟩
  numbered := by
    intro claims member
    simp only [TokenPair.tokens, Server.mintPair, List.mem_cons, List.not_mem_nil, or_false] at member
    rcases member with rfl | rfl <;> simp

/-- The pair was minted for the row, which is stored and active and points at its refresh token. -/
structure TokenPair.BoundTo (pair : TokenPair) (start server : Server T) (row : Session T) :
    Prop where
  active : server.Active row
  current : row.refreshTokenId = pair.refresh.jti
  minted : pair.Minted start.draws server.draws row.userId (some row.sessionUuid)

omit [CommRing T] [LinearOrder T] [FloorRing T] in
theorem TokenPair.BoundTo.aside {pair : TokenPair} {start before after : Server T}
    {row : Session T} (bound : pair.BoundTo start before row)
    (aside : Aside .sessions before after) : pair.BoundTo start after row where
  active := by
    obtain ⟨found, active⟩ := bound.active
    exact ⟨by rw [show after.working.sessions = before.working.sessions from aside.working];
              exact found, active⟩
  current := bound.current
  minted := bound.minted.mono le_rfl aside.draws

/-! ## Creating the session -/

/-- The row that `create_session` stores. -/
def Server.newSession (server : Server T) (user : User T) (sessionUuid refreshJti : Uuid)
    (rememberMe : Bool) (ip userAgent : String) (headers : Headers) : Session T :=
  let device := parseUserAgent env userAgent
  let geo := resolveLocation env headers
  { userId := user.id
    sessionUuid
    refreshTokenId := refreshJti
    deviceName := device.deviceName
    deviceType := device.deviceType
    browser := device.browser
    browserVersion := device.browserVersion
    operatingSystem := device.operatingSystem
    operatingSystemVersion := device.operatingSystemVersion
    userAgent := device.userAgent
    ipAddress := ip
    country := geo.country
    city := geo.city
    loginAt := server.clock
    lastActivityAt := server.clock
    expiresAt := server.clock + (lifetimeSeconds env rememberMe : T)
    isActive := true
    requestCount := 0 }

omit [FloorRing T] in
/-- The session that `create_session` returns has been stored with the given key, owner and
refresh token. -/
theorem run_createSession (server : Server T) (user : User T) (sessionUuid refreshJti : Uuid)
    (rememberMe : Bool) (ip userAgent : String) (headers : Headers) :
    ∃ isNewDevice, (createSession env user sessionUuid refreshJti rememberMe ip userAgent headers).run
        handle server =
      let row := server.newSession env user sessionUuid refreshJti rememberMe ip userAgent headers
      match Database.insertSession row server.working with
      | .ok working =>
        (.ok (row, isNewDevice), ({ server with working } : Server T).setActive env sessionUuid)
      | .error error => (.error error, server) := by
  simp only [createSession, expiry, run_bind, run_now, run_view, run_pure, run_write, run_setActive]
  refine ⟨server.working.hasAnyForUser user.id && !server.working.hasMatchingDevice user.id
    (parseUserAgent env userAgent).browser (parseUserAgent env userAgent).operatingSystem
    (parseUserAgent env userAgent).deviceType, ?_⟩
  simp only [Server.newSession]
  cases Database.insertSession _ server.working <;> rfl

/-- A session as `_finalize_login` starts it: its id and the JTIs of its two tokens are drawn one
after the other. -/
structure Session.Opened (row : Session T) (draws : ℕ) : Prop where
  active : row.isActive = true
  fresh : draws ≤ row.sessionUuid
  refreshTokenId : row.refreshTokenId = row.sessionUuid + 2

/-- A request may create sessions of the users who came through the gate. -/
def Permits.creating (start : Server T) (gate : Uuid → Prop) : Permits T where
  creates row := row.Opened start.draws ∧ gate row.userId
  writes _ := False
  blacklists _ := False

variable {env} {start : Server T} {gate : Uuid → Prop}

omit [FloorRing T] in
/-- A session with a minted pair, as `create_session` leaves it. -/
theorem triple_createSession {user : User T} {pair : TokenPair} {sessionUuid : Uuid}
    (allowed : gate user.id) (rememberMe : Bool) (ip userAgent : String) (headers : Headers) :
    Triple handle
      (fun server => Follows env (.creating start gate) start server ∧ start.draws ≤ sessionUuid ∧
        pair.refresh.jti = sessionUuid + 2 ∧
        pair.Minted start.draws server.draws user.id (some sessionUuid))
      (createSession env user sessionUuid pair.refresh.jti rememberMe ip userAgent headers)
      (fun created server => Follows env (.creating start gate) start server ∧
        gate created.1.userId ∧ pair.BoundTo start server created.1)
      (fun _ => Follows env (.creating start gate) start) := by
  constructor
  rintro server ⟨follows, fresh, drawn, minted⟩
  obtain ⟨isNewDevice, ran⟩ := run_createSession env server user sessionUuid pair.refresh.jti
    rememberMe ip userAgent headers
  rw [ran]
  dsimp only
  set row := server.newSession env user sessionUuid pair.refresh.jti rememberMe ip userAgent headers
  cases written : Database.insertSession row server.working with
  | error => exact follows
  | ok working =>
    obtain ⟨-, -, sessions, inserted, rfl⟩ := Database.insertSession_ok written
    have permitted : (Permits.creating start gate).creates row := ⟨⟨rfl, fresh, drawn⟩, allowed⟩
    have numbered : row.Numbered server.draws := by
      have last := (minted.numbered pair.refresh (by simp [TokenPair.tokens])).2
      exact ⟨(Nat.le_add_right sessionUuid 2).trans_lt (drawn ▸ last), last⟩
    have created : Follows env (.creating start gate) server (server.withSessions sessions) :=
      .single (.create permitted numbered ⟨rfl, rfl, rfl, rfl, rfl⟩ inserted)
    have aside := aside_setActive env (server.withSessions sessions) .sessions sessionUuid
    refine ⟨(follows.trans created).tail (.aside aside), allowed, ?_⟩
    have stored : (server.withSessions sessions).Active row := by
      refine ⟨?_, rfl⟩
      exact (Table.find_insert inserted row.sessionUuid).trans (if_pos rfl)
    exact TokenPair.BoundTo.aside ⟨stored, rfl, minted⟩ aside

/-- The pair is bound to a session of a user who came through the gate. -/
def TokenPair.BoundBy (gate : Uuid → Prop) (start server : Server T) (pair : TokenPair) : Prop :=
  ∃ row, gate row.userId ∧ pair.BoundTo start server row

theorem triple_finalizeLogin {user : User T} (allowed : gate user.id) (request : HttpRequest)
    (rememberMe : Bool) :
    Triple handle (Follows env (.creating start gate) start)
      (finalizeLogin env request user rememberMe)
      (fun reply server => Follows env (.creating start gate) start server ∧
        ∃ read csrf pair, reply = .auth read csrf pair ∧ pair.BoundBy gate start server)
      (fun _ => Follows env (.creating start gate) start) := by
  unfold finalizeLogin
  have drawn : Triple handle (Follows env (.creating start gate) start) uuid4
      (fun sessionUuid server => Follows env (.creating start gate) start server ∧
        start.draws ≤ sessionUuid ∧ server.draws = sessionUuid + 1)
      (fun _ => Follows env (.creating start gate) start) := by
    constructor
    intro server follows
    rw [run_uuid4]
    have aside := Within.aside .sessions uuid4 server
    rw [run_uuid4] at aside
    exact ⟨follows.tail (.aside aside), follows.draws, rfl⟩
  have minted (sessionUuid : Uuid) : Triple handle
      (fun server => Follows env (.creating start gate) start server ∧ start.draws ≤ sessionUuid ∧
        server.draws = sessionUuid + 1)
      (TokenService.issuePair env user.id rememberMe (some sessionUuid))
      (fun issued server => issued.2 = issued.1.refresh.jti ∧
        Follows env (.creating start gate) start server ∧ start.draws ≤ sessionUuid ∧
        issued.1.refresh.jti = sessionUuid + 2 ∧
        issued.1.Minted start.draws server.draws user.id (some sessionUuid))
      (fun _ => Follows env (.creating start gate) start) := by
    constructor
    rintro server ⟨follows, fresh, drawn⟩
    have aside := Within.aside .sessions
      (TokenService.issuePair env user.id rememberMe (some sessionUuid)) server
    rw [run_issuePair] at aside ⊢
    refine ⟨rfl, follows.tail (.aside aside), fresh, by simp only [Server.mintPair, drawn], ?_⟩
    exact (minted_mintPair env server user.id rememberMe (some sessionUuid)).mono follows.draws
      le_rfl
  refine Triple.bind drawn fun sessionUuid => Triple.bind (minted sessionUuid) fun issued => ?_
  obtain ⟨pair, refreshJti⟩ := issued
  -- the refresh JTI that the session stores is the one of the minted pair
  have stored : Triple handle
      (fun server => refreshJti = pair.refresh.jti ∧
        Follows env (.creating start gate) start server ∧ start.draws ≤ sessionUuid ∧
        pair.refresh.jti = sessionUuid + 2 ∧
        pair.Minted start.draws server.draws user.id (some sessionUuid))
      (createSession env user sessionUuid refreshJti rememberMe (clientIp request)
        ((request.headers.get "user-agent").getD "") request.headers.dict)
      (fun created server => Follows env (.creating start gate) start server ∧
        gate created.1.userId ∧ pair.BoundTo start server created.1)
      (fun _ => Follows env (.creating start gate) start) := by
    constructor
    rintro server ⟨rfl, holds⟩
    exact (triple_createSession allowed _ _ _ _).outcome server holds
  refine Triple.bind stored fun created => ?_
  obtain ⟨row, isNewDevice⟩ := created
  have keeps : ∀ before after, Aside .sessions before after →
      (Follows env (.creating start gate) start before ∧ gate row.userId ∧
        pair.BoundTo start before row) →
      (Follows env (.creating start gate) start after ∧ gate row.userId ∧
        pair.BoundTo start after row) := fun before after aside holds =>
    ⟨holds.1.tail (.aside aside), holds.2.1, holds.2.2.aside aside⟩
  have rest : Triple handle
      (fun server => Follows env (.creating start gate) start server ∧ gate row.userId ∧
        pair.BoundTo start server row)
      (do
        let csrfDraw ← uuid4
        let read ← userRead env user
        return .auth read (env.tokenUrlsafe csrfDraw) pair)
      (fun reply server => Follows env (.creating start gate) start server ∧
        ∃ read csrf pair, reply = LoginReply.auth read csrf pair ∧ pair.BoundBy gate start server)
      (fun _ => Follows env (.creating start gate) start) := by
    refine Triple.bind ((Within.stable keeps).weaken (fun _ => id) (fun _ _ => id)
      fun _ _ holds => holds.1) fun csrfDraw => ?_
    refine Triple.bind ((Within.stable keeps).weaken (fun _ => id) (fun _ _ => id)
      fun _ _ holds => holds.1) fun read => Triple.pure ?_
    exact fun server holds => ⟨holds.1, read, _, pair, rfl, row, holds.2⟩
  refine Triple.ite (fun _ => ?_) fun _ => rest
  exact Triple.bind ((Within.stable keeps).weaken (fun _ => id) (fun _ _ => id)
    fun _ _ holds => holds.1) fun _ => rest

/-! ## What the routes check first -/

section
variable (env)

/-- The second factor of the user is enabled. -/
def Database.TwoFactorEnabled (db : Database T) (userId : Uuid) : Prop :=
  ∃ record, db.twoFactorAuth.find userId = some record ∧ record.enabled = true

/-- The password of the user was checked on the way through `POST /auth/login`. -/
def PasswordChecked (start : Server T) (request : HttpRequest) (payload : LoginRequest)
    (userId : Uuid) : Prop :=
  ∃ email limited user final, env.validEmail payload.email = some email ∧
    (authRateLimit env request).run handle start = (.ok (), limited) ∧
    (AuthService.authenticate env email payload.password (clientIp request)).run handle limited =
      (.ok user, final) ∧ user.id = userId

/-- The request presents a pre-auth token of the active user. -/
def PreAuthorized (start : Server T) (token : Token) (user : User T) : Prop :=
  ∃ claims, token = .signed claims ∧ claims.type = .preAuth ∧
    start.working.users.find claims.sub = some user ∧ user.isActive = true

/-- The second factor of the user was proven on the way through `POST /auth/login/otp`. -/
def OtpProven (start : Server T) (request : HttpRequest) (payload : OtpLoginRequest)
    (userId : Uuid) : Prop :=
  ∃ user limited final, user.id = userId ∧ PreAuthorized start payload.preAuthToken user ∧
    (authRateLimit env request).run handle start = (.ok (), limited) ∧
    (TwoFactorService.verifyTotp env user payload.otp).run handle limited = (.ok (), final)

/-- The same for `POST /auth/login/recovery-code`. -/
def RecoveryCodeUsed (start : Server T) (request : HttpRequest) (payload : RecoveryLoginRequest)
    (userId : Uuid) : Prop :=
  ∃ user limited final, user.id = userId ∧ PreAuthorized start payload.preAuthToken user ∧
    (authRateLimit env request).run handle start = (.ok (), limited) ∧
    (TwoFactorService.consumeRecoveryCode env user payload.recoveryCode).run handle limited =
      (.ok (), final)

/-- The callback, not started as a link, resolves the profile to the existing user. -/
def OAuthLogin (start : Server T) (registry : String → Option Provider)
    (provider code state : String) (user : User T) : Prop :=
  ∃ payload info, CallbackInput start registry provider code state payload info ∧
    payload.mode ≠ .link ∧
    ((∃ account, start.working.oauthAccounts.find (provider, info.accountId) = some account ∧
        start.working.users.find account.userId = some user) ∨
      (start.working.oauthAccounts.find (provider, info.accountId) = none ∧
        Claimant env start.working payload info user))

/-- The users for whom the route may create a session. -/
def LoginRoute.Gate (start : Server T) (registry : String → Option Provider)
    (request : HttpRequest) : LoginRoute → Uuid → Prop
  | .register _, userId => start.draws ≤ userId
  | .login payload, userId => PasswordChecked env start request payload userId ∧
      (∃ user, start.working.users.find userId = some user ∧ user.isActive = true) ∧
      ¬ start.working.TwoFactorEnabled userId
  | .loginOtp payload, userId => OtpProven env start request payload userId
  | .loginRecoveryCode payload, userId => RecoveryCodeUsed env start request payload userId
  | .oauthCallback provider code state, userId => start.draws ≤ userId ∨
      ∃ user, user.id = userId ∧ OAuthLogin env start registry provider code state user

/-- The users for whom the route may issue a pre-auth token. -/
def LoginRoute.Challenges (start : Server T) (request : HttpRequest) : LoginRoute → Uuid → Prop
  | .login payload, userId => PasswordChecked env start request payload userId
  | _, _ => False

end

/-- What a login route answers is backed by the server it leaves. -/
def LoginReply.Sound (start server : Server T) (gate challenges : Uuid → Prop) :
    LoginReply T → Prop
  | .auth _ _ pair => pair.BoundBy gate start server
  | .challenge claims => claims.type = .preAuth ∧ start.draws ≤ claims.jti ∧
      claims.jti < server.draws ∧ challenges claims.sub
  | .message _ => True

/-! ## The routes -/

omit [CommRing T] [LinearOrder T] [FloorRing T] in
theorem find_of_getByEmail {db : Database T} {email : String} {user : User T}
    (looked : db.getByEmail env email = .ok (some user)) : db.users.find user.id = some user := by
  have member : user ∈ db.usersByEmail env email := by
    rw [usersByEmail_of_some env looked]
    exact List.mem_singleton_self user
  exact Table.find_of_mem (List.mem_filter.mp member).1

omit [FloorRing T] in
/-- `authenticate` returns a user who is stored and active. -/
theorem authenticate_ok {server final : Server T} {email password ip : String} {user : User T}
    (ran : (AuthService.authenticate env email password ip).run handle server = (.ok user, final)) :
    ∃ stored, server.working.users.find user.id = some stored ∧ stored.isActive = true := by
  have aside := Within.aside .reads (RateLimiter.ensureNotLocked env email (some ip)) server
  have unlocked : Triple handle (· = server) (RateLimiter.ensureNotLocked env email (some ip))
      (fun _ state => state.working = server.working) (fun _ _ => True) := by
    constructor
    rintro _ rfl
    split <;> rename_i ran
    · rw [ran] at aside
      exact aside.working
    · trivial
  -- the user is looked up once, by the address
  have looked : Triple handle (fun state : Server T => state.working = server.working)
      (getByEmail env email)
      (fun owner _ => ∀ user, owner = some user → server.working.users.find user.id = some user)
      (fun _ _ => True) := by
    constructor
    intro state same
    rw [run_getByEmail, same]
    cases found : server.working.getByEmail env email with
    | error => trivial
    | ok owner =>
      rintro user rfl
      exact find_of_getByEmail found
  have triple : Triple handle (· = server) (AuthService.authenticate env email password ip)
      (fun user _ => ∃ stored, server.working.users.find user.id = some stored ∧
        stored.isActive = true) (fun _ _ => True) := by
    simp only [AuthService.authenticate, throw_bind]
    refine Triple.bind unlocked fun _ => Triple.bind looked fun owner => ?_
    constructor
    intro state found
    refine (Triple.skip fun salt => ?_ : Triple handle (fun _ => True) _ _ _).outcome state trivial
    split
    next user _ =>
      refine Triple.ite (fun _ => Triple.throw fun _ _ => trivial) fun active => ?_
      have stored : ∃ stored, server.working.users.find user.id = some stored ∧
          stored.isActive = true := ⟨user, found user rfl, by simpa using active⟩
      refine Triple.skip fun _ => Triple.ite (fun _ => ?_) fun _ => Triple.pure fun _ _ => stored
      exact Triple.skip fun _ => Triple.skip fun _ => Triple.pure fun _ _ => stored
    next => exact Triple.skip fun _ => Triple.throw fun _ _ => trivial
  exact triple.returned rfl ran

variable (env) in
/-- The token that `issue_pre_auth` mints on the server. -/
def Server.preAuthToken (server : Server T) (userId : Uuid) : Claims :=
  { sub := userId, type := .preAuth, jti := server.draws, iat := pyInt server.clock
    exp := pyInt (server.clock + ((env.settings.preAuthTokenExpireMinutes * 60 : ℕ) : T)) }

theorem run_issuePreAuth (server : Server T) (userId : Uuid) :
    (TokenService.issuePreAuth env userId).run handle server =
      (.ok (server.preAuthToken env userId), server.drawn 1) := by
  simp only [TokenService.issuePreAuth, createToken, run_bind, run_uuid4, run_now, run_pure]
  rfl

section
variable (start) (registry : String → Option Provider) (request : HttpRequest)

theorem triple_register (payload : RegisterRequest) :
    Triple handle (· = start) (register env request payload)
      (fun reply server => Follows env (.creating start (start.draws ≤ ·)) start server ∧
        ∃ read csrf pair, reply = .auth read csrf pair ∧
          pair.BoundBy (start.draws ≤ ·) start server)
      (fun _ => Follows env (.creating start (start.draws ≤ ·)) start) := by
  have obeys {α : Type} (program : App T α)
      [obeys : Obeys env (.creating start (start.draws ≤ ·)) program] :
      Keeps handle (Follows env (.creating start (start.draws ≤ ·)) start) program :=
    obeys.keeps start
  have registered (email password fullName : String) :
      Triple handle (Follows env (.creating start (start.draws ≤ ·)) start)
        (AuthService.register env email password fullName)
        (fun user server => Follows env (.creating start (start.draws ≤ ·)) start server ∧
          start.draws ≤ user.id)
        (fun _ => Follows env (.creating start (start.draws ≤ ·)) start) := by
    simp only [AuthService.register, throw_bind]
    refine Triple.bind (obeys _) fun _ => Triple.bind (obeys _) fun db =>
      Triple.ite (fun _ => Triple.throw fun _ => id) fun _ => Triple.bind (obeys _) fun salt => ?_
    constructor
    intro server follows
    have added := follows.trans (Obeys.follows (addUser (env.lower email)
      (env.hashPassword salt password) fullName false) server)
    rw [run_addUser] at added ⊢
    dsimp only at added ⊢
    split at added
    · exact ⟨added, follows.draws⟩
    · exact added
  unfold register
  refine Triple.weaken (Triple.bind (obeys _) fun _ => Triple.bind (obeys _) fun email =>
    Triple.bind (obeys _) fun _ => Triple.bind (registered _ _ _) fun user => ?_)
    (by rintro _ rfl; exact .refl _) (fun _ _ => id) fun _ _ => id
  constructor
  rintro server ⟨follows, fresh⟩
  refine (Triple.bind (triple_finalizeLogin fresh request false) fun reply => ?_).outcome server
    follows
  -- the mails are sent last and leave sessions and tokens as they are
  have keeps : ∀ before after, Aside .sessions before after →
      (Follows env (.creating start (start.draws ≤ ·)) start before ∧
        ∃ read csrf pair, reply = .auth read csrf pair ∧
          pair.BoundBy (start.draws ≤ ·) start before) →
      (Follows env (.creating start (start.draws ≤ ·)) start after ∧
        ∃ read csrf pair, reply = .auth read csrf pair ∧
          pair.BoundBy (start.draws ≤ ·) start after) := by
    rintro before after aside ⟨follows, read, csrf, pair, same, row, fresh, bound⟩
    exact ⟨follows.tail (.aside aside), read, csrf, pair, same, row, fresh, bound.aside aside⟩
  exact Triple.bind ((Within.stable keeps).weaken (fun _ => id) (fun _ _ => id)
    fun _ _ holds => holds.1) fun _ => Triple.pure fun _ => id

variable {start request} in
/-- A session for a user of whom the gate is known, whatever has been done aside before. -/
theorem sound_finalizeLogin {gate challenges : Uuid → Prop} {user : User T}
    (allowed : gate user.id) (rememberMe : Bool) :
    Triple handle (Follows env (.creating start gate) start)
      (finalizeLogin env request user rememberMe)
      (fun reply server => Follows env (.creating start gate) start server ∧
        reply.Sound start server gate challenges)
      (fun _ => Follows env (.creating start gate) start) := by
  refine (triple_finalizeLogin allowed request rememberMe).weaken (fun _ => id) ?_ fun _ _ => id
  rintro reply server ⟨follows, read, csrf, pair, rfl, bound⟩
  exact ⟨follows, bound⟩

theorem triple_login (payload : LoginRequest) :
    Triple handle (· = start) (login env request payload)
      (fun reply server =>
        Follows env (.creating start ((LoginRoute.login payload).Gate env start registry request))
          start server ∧
        reply.Sound start server ((LoginRoute.login payload).Gate env start registry request)
          ((LoginRoute.login payload).Challenges env start request))
      (fun _ => Follows env
        (.creating start ((LoginRoute.login payload).Gate env start registry request)) start) := by
  set gate := (LoginRoute.login payload).Gate env start registry request with gateIs
  simp only [login]
  refine Triple.start (fun _ _ => Obeys.of_exact) fun _ limited passed => ?_
  have follows : Follows env (.creating start gate) start limited := Obeys.of_exact passed
  have sameTables := (Within.of_exact .reads passed).working
  unfold checkEmail checkSchema
  cases address : env.validEmail payload.email with
  | none => exact Triple.throw fun _ same => same ▸ follows
  | some email =>
    simp only [pure_bind, ite_bind, throw_bind]
    refine Triple.ite (fun _ => ?_) fun _ => Triple.throw fun _ same => same ▸ follows
    refine Triple.start (fun _ _ ran => follows.trans (Obeys.of_exact ran))
      fun user checked authenticated => ?_
    obtain ⟨stored, found, active⟩ := authenticate_ok authenticated
    have password : PasswordChecked env start request payload user.id :=
      ⟨email, limited, user, checked, address, passed, authenticated, rfl⟩
    have follows : Follows env (.creating start gate) start checked :=
      follows.trans (Obeys.of_exact authenticated)
    have sameFactors : checked.working.twoFactorAuth = start.working.twoFactorAuth :=
      (Within.of_exact .standing authenticated).working.twoFactorAuth.trans (by rw [sameTables])
    simp only [TwoFactorService.isEnabled]
    refine Triple.start (fun _ _ ran => follows.trans (Obeys.of_exact ran))
      fun enabled next asked => ?_
    obtain ⟨rfl, rfl⟩ : _ = enabled ∧ checked = next := by simpa using asked
    -- the second factor decides between a challenge and a session
    refine Triple.ite (fun enabled => ?_) fun disabled => ?_
    · refine Triple.start (fun _ _ ran => follows.trans (Obeys.of_exact ran))
        fun token next issued => Triple.pure ?_
      rintro _ rfl
      refine ⟨follows.trans (Obeys.of_exact issued), ?_⟩
      rw [run_issuePreAuth] at issued
      cases issued
      exact ⟨rfl, follows.draws, Nat.lt_succ_self _, password⟩
    · refine Triple.weaken (sound_finalizeLogin ?_ _) (fun _ same => same ▸ follows)
        (fun _ _ => id) fun _ _ => id
      refine ⟨password, ⟨stored, by rwa [sameTables] at found, active⟩, ?_⟩
      rintro ⟨record, recorded, on⟩
      rw [sameFactors, recorded] at disabled
      exact disabled on

omit [FloorRing T] in
theorem verifyPreAuth_ok {server next : Server T} {token : Token} {userId : Uuid}
    (ran : (TokenService.verifyPreAuth token).run handle server = (.ok userId, next)) :
    next = server ∧ ∃ claims, token = .signed claims ∧ claims.type = .preAuth ∧
      claims.sub = userId := by
  cases token with
  | unsigned => cases ran
  | signed claims =>
    simp only [TokenService.verifyPreAuth, run_bind, run_tryCatch, run_decodeToken_signed] at ran
    by_cases expired : (claims.exp : T) ≤ server.clock
    · rw [if_pos expired] at ran
      cases ran
    · rw [if_neg expired] at ran
      by_cases type : claims.type = .preAuth
      · rw [if_neg (not_not.mpr type)] at ran
        cases ran
        exact ⟨rfl, claims, rfl, type, rfl⟩
      · rw [if_pos type] at ran
        cases ran

omit [FloorRing T] in
theorem loadUserForOtp_ok {server next : Server T} {userId : Uuid} {user : User T}
    (ran : (loadUserForOtp userId).run handle server = (.ok user, next)) :
    next = server ∧ server.working.users.find userId = some user ∧ user.isActive = true := by
  simp only [loadUserForOtp, run_bind, run_view] at ran
  cases found : server.working.users.find userId with
  | none => rw [found] at ran; cases ran
  | some stored =>
    rw [found] at ran
    simp only [run_ite, run_throw, run_pure] at ran
    cases active : stored.isActive with
    | false => rw [active] at ran; cases ran
    | true => rw [active] at ran; cases ran; exact ⟨rfl, rfl, active⟩

variable {start} in
/-- The second step of a login: the routes differ in how they verify the second factor. -/
theorem triple_secondStep {gate challenges : Uuid → Prop} {token : Token}
    (verify : User T → App T Unit) [∀ user, Within .standing (verify user)] (accepted : Bool)
    (rememberMe : Bool)
    (allowed : ∀ user limited final, PreAuthorized start token user →
      (authRateLimit env request).run handle start = (.ok (), limited) →
      (verify user).run handle limited = (.ok (), final) → gate user.id) :
    Triple handle (· = start)
      (do
        authRateLimit env request
        checkSchema accepted
        let userId ← TokenService.verifyPreAuth token
        let user ← loadUserForOtp userId
        verify user
        finalizeLogin env request user rememberMe)
      (fun reply server => Follows env (.creating start gate) start server ∧
        reply.Sound start server gate challenges)
      (fun _ => Follows env (.creating start gate) start) := by
  refine Triple.start (fun _ _ => Obeys.of_exact) fun _ limited passed => ?_
  have follows : Follows env (.creating start gate) start limited := Obeys.of_exact passed
  have sameTables := (Within.of_exact .reads passed).working
  simp only [checkSchema, pure_bind, ite_bind, throw_bind]
  refine Triple.ite (fun _ => ?_) fun _ => Triple.throw fun _ same => same ▸ follows
  refine Triple.start (fun _ _ ran => follows.trans (Obeys.of_exact ran)) fun userId _ ran => ?_
  obtain ⟨rfl, claims, signed, type, rfl⟩ := verifyPreAuth_ok ran
  refine Triple.start (fun _ _ ran => follows.trans (Obeys.of_exact ran)) fun user _ ran => ?_
  obtain ⟨rfl, found, active⟩ := loadUserForOtp_ok ran
  refine Triple.start (fun _ _ ran => follows.trans ?_) fun _ final verified => ?_
  · exact .single (.aside ((Within.of_exact .standing ran).widen fun _ _ same => same.sessions))
  have gated : gate user.id :=
    allowed user _ final ⟨claims, signed, type, by rwa [sameTables] at found, active⟩ passed verified
  have aside : Aside .sessions _ final :=
    (Within.of_exact .standing verified).widen fun _ _ same => same.sessions
  exact Triple.weaken (sound_finalizeLogin gated _) (fun _ same => same ▸ follows.tail (.aside aside))
    (fun _ _ => id) fun _ _ => id

theorem triple_oauthCallback (provider code state : String) :
    Triple handle (· = start) (oauthCallback env registry request provider code state)
      (fun reply server => Follows env (.creating start
          ((LoginRoute.oauthCallback provider code state).Gate env start registry request))
          start server ∧
        reply.Sound start server
          ((LoginRoute.oauthCallback provider code state).Gate env start registry request)
          ((LoginRoute.oauthCallback provider code state).Challenges env start request))
      (fun _ => Follows env (.creating start
        ((LoginRoute.oauthCallback provider code state).Gate env start registry request)) start) := by
  unfold oauthCallback
  refine Triple.start (fun _ _ => Obeys.of_exact) fun result resolved ran => ?_
  have follows : Follows env (.creating start
      ((LoginRoute.oauthCallback provider code state).Gate env start registry request)) start
      resolved := Obeys.of_exact ran
  obtain ⟨payload, info, input, outcome⟩ :=
    (triple_handleCallback env start registry provider code state).returned rfl ran
  obtain ⟨user, mode⟩ := result
  refine Triple.ite (fun _ => Triple.pure fun _ same => same ▸ ⟨follows, trivial⟩) fun login => ?_
  refine Triple.weaken (sound_finalizeLogin ?_ _) (fun _ same => same ▸ follows)
    (fun _ _ => id) fun _ _ => id
  cases outcome with
  | linked link owner found =>
    exact .inr ⟨user, rfl, payload, info, input, login, .inl ⟨_, link, found⟩⟩
  | joined unlinked claimant inserted =>
    exact .inr ⟨user, rfl, payload, info, input, login, .inr ⟨unlinked, claimant⟩⟩
  | created => exact .inl (Nat.le_add_right _ 2)

/-- What the login routes do: the sessions they create and the tokens they issue belong to users
who came through the gate of the route. -/
theorem triple_serveLogin (route : LoginRoute) :
    Triple handle (· = start) (serveLogin env registry request route)
      (fun reply server => Follows env (.creating start (route.Gate env start registry request))
          start server ∧
        reply.Sound start server (route.Gate env start registry request)
          (route.Challenges env start request))
      (fun _ => Follows env (.creating start (route.Gate env start registry request)) start) := by
  cases route with
  | register payload =>
    refine (triple_register start request payload).weaken (fun _ => id) ?_ fun _ _ => id
    rintro reply server ⟨follows, read, csrf, pair, rfl, bound⟩
    exact ⟨follows, bound⟩
  | login payload => exact triple_login start registry request payload
  | loginOtp payload =>
    refine triple_secondStep request (fun user => TwoFactorService.verifyTotp env user payload.otp)
      _ _ ?_
    exact fun user limited final authorized passed verified =>
      ⟨user, limited, final, rfl, authorized, passed, verified⟩
  | loginRecoveryCode payload =>
    refine triple_secondStep request
      (fun user => TwoFactorService.consumeRecoveryCode env user payload.recoveryCode) _ _ ?_
    exact fun user limited final authorized passed verified =>
      ⟨user, limited, final, rfl, authorized, passed, verified⟩
  | oauthCallback provider code state =>
    exact triple_oauthCallback start registry request provider code state

end

end EnterpriseAuth
