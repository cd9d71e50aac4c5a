import EnterpriseAuth.Guarantees.EndedTokens
import EnterpriseAuth.Requests.Framed

/-!
# The refresh tokens of active sessions

A refresh token goes on the blacklist when it is replaced, when it is presented at logout and when
its session is ended.  As long as requests are served one after another, none of these hits the
token that an active session points at, so a client that presents the newest token of its session
is never taken for a replay.
-/

namespace EnterpriseAuth

open Effects Program SessionService

-- an instance is found along the whole syntax of a handler
set_option synthInstance.maxSize 1000

variable {T : Type} {env : Environment T}

/-! ## Routes that leave the blacklist alone -/

def Key.IsListing : Key → Prop
  | .revokedJti _ => True
  | _ => False

instance (state : String) : Opens (T := T) (Command.Spares Key.IsListing) (.oauthState state) :=
  opens_spares id
instance (sid : Uuid) : Opens (T := T) (Command.Spares Key.IsListing) (.sessionActive sid) :=
  opens_spares id
instance (key : String) : Opens (T := T) (Command.Spares Key.IsListing) (.rateLimit key) :=
  opens_spares id
instance (subject : String) : Opens (T := T) (Command.Spares Key.IsListing) (.lockout subject) :=
  opens_spares id
instance (subject : String) : Opens (T := T) (Command.Spares Key.IsListing) (.failcount subject) :=
  opens_spares id
instance (userId : Uuid) (otp : String) :
    Opens (T := T) (Command.Spares Key.IsListing) (.otpUsed userId otp) :=
  opens_spares id

section
variable [LinearOrder T]

/-- Nothing has gone on the blacklist in between. -/
def Server.ListsNoMore (start server : Server T) : Prop :=
  ∀ jti, server.Blacklisted jti → start.Blacklisted jti

theorem Server.ListsNoMore.refl (start : Server T) : start.ListsNoMore start := fun _ => id

theorem Server.ListsNoMore.of_entries {start server : Server T} (clock : server.clock = start.clock)
    (entries : ∀ jti, server.redis (.revokedJti jti) = start.redis (.revokedJti jti)) :
    start.ListsNoMore server := by
  intro jti listed
  unfold Server.Blacklisted ExpiringStore.lookup at *
  rwa [clock, entries] at listed

theorem Server.ListsNoMore.aside {frame : Frame T} {start before after : Server T}
    (lists : start.ListsNoMore before) (aside : Aside frame before after) :
    start.ListsNoMore after :=
  fun jti listed => lists jti ((aside.blacklisted jti).mp listed)

variable [CommRing T]

theorem listsNoMore_of_calls {α : Type} {program : App T α}
    [Calls (Command.Spares Key.IsListing) program] {start final : Server T}
    {result : Except AppError α} (ran : program.run handle start = (result, final)) :
    start.ListsNoMore final := by
  have clock : (program.run handle start).2.clock = start.clock :=
    (keeps_clock start.clock program).final rfl
  have spared (jti : Uuid) :
      (program.run handle start).2.redis (.revokedJti jti) = start.redis (.revokedJti jti) := by
    have isListing : Key.IsListing (.revokedJti jti) := trivial
    exact Calls.spared Key.IsListing program isListing start
  rw [ran] at clock spared
  exact .of_entries clock spared

/-! ## Tokens that are of no more use -/

/-- Why a token of the blacklist is of no more use to anyone, by the sessions of the table: it was
there when the request began, it is the last token of a session that is over, or the request has
presented it and no active session points at it. -/
inductive Server.Spent (start : Server T) (request : HttpRequest)
    (table : Table (Session.sessionUuid (T := T))) (jti : Uuid) : Prop
  | before (listed : start.Blacklisted jti)
  | finished {sid : Uuid} {row : Session T} (found : table.find sid = some row)
    (points : row.refreshTokenId = jti) (inactive : row.isActive = false)
  | presented {claims : Claims} (shown : request.refreshToken = some (.signed claims))
    (live : claims.LiveRefresh start.clock) (named : claims.jti = jti)
    (left : ∀ sid, claims.sid = some sid → ∀ row, table.find sid = some row →
      row.refreshTokenId = jti → row.isActive = false)

/-- Every token of the blacklist is spent, by the sessions of the table. -/
def Server.Accounts (start : Server T) (request : HttpRequest) (server : Server T)
    (table : Table (Session.sessionUuid (T := T))) : Prop :=
  ∀ jti, server.Blacklisted jti → start.Spent request table jti

variable {start server : Server T} {request : HttpRequest}
  {table : Table (Session.sessionUuid (T := T))} {jti : Uuid}

theorem Server.ListsNoMore.accounts (lists : start.ListsNoMore server)
    (table : Table (Session.sessionUuid (T := T))) : start.Accounts request server table :=
  fun jti listed => .before (lists jti listed)

omit [CommRing T] in
theorem listed_by_blacklist {other : Uuid} {deadline : T}
    (listed : (server.blacklist other deadline).Blacklisted jti) :
    jti = other ∨ server.Blacklisted jti := by
  by_cases same : jti = other
  · exact .inl same
  · have elsewhere : Key.revokedJti jti ≠ .revokedJti other := fun equal =>
      same (Key.revokedJti.inj equal)
    have kept := ExpiringStore.lookup_put_other server.redis server.clock
      ⟨.flag, some deadline⟩ elsewhere
    exact .inr ((congrArg Option.isSome kept).symm.trans listed)

/-- The end of a session spends no fewer tokens. -/
theorem Server.Spent.ending (spent : start.Spent request table jti) (sid : Uuid)
    (change : Session T → Session T) (keeps : ∀ row, (change row).sessionUuid = row.sessionUuid)
    (ends : ∀ row, (change row).isActive = false)
    (points : ∀ row, (change row).refreshTokenId = row.refreshTokenId) :
    start.Spent request (table.modify sid change keeps) jti := by
  cases spent with
  | before listed => exact .before listed
  | @finished other row found named inactive =>
    by_cases here : other = sid
    · have stored : (table.modify sid change keeps).find other = some (change row) := by
        rw [Table.find_modify, if_pos here, found, Option.map_some]
      exact .finished stored ((points row).trans named) (ends row)
    · have stored : (table.modify sid change keeps).find other = some row := by
        rw [Table.find_modify, if_neg here, found]
      exact .finished stored named inactive
  | presented shown live named left =>
    refine .presented shown live named fun other session row found current => ?_
    rw [Table.find_modify] at found
    by_cases here : other = sid
    · rw [if_pos here] at found
      obtain ⟨earlier, -, rfl⟩ := Option.map_eq_some_iff.mp found
      exact ends earlier
    · rw [if_neg here] at found
      exact left other session row found current

theorem listed_by_revoke {row : Session T} {reason : String}
    (listed : (server.revoke env row reason).Blacklisted jti) :
    jti = row.refreshTokenId ∨ server.Blacklisted jti :=
  listed_by_blacklist (((aside_clearCache env _ .reads row.sessionUuid).blacklisted jti).mp listed)

omit [LinearOrder T] in
/-- A session that has been revoked is stored with its last token, and inactive. -/
theorem find_revoked {row : Session T} (reason : String) (active : server.Active row) :
    (server.revoke env row reason).working.sessions.find row.sessionUuid =
      some (ended server.clock reason row) := by
  have stored := find_changeSession server row.sessionUuid row.sessionUuid
    (ended server.clock reason) fun _ => rfl
  rwa [if_pos rfl, active.1, Option.map_some] at stored

/-- A revocation spends the token of the session that it ends. -/
theorem accounts_revocation (reason : String) :
    RevocationKeeps env reason (fun _ => True)
      fun server => start.Accounts request server server.working.sessions := by
  intro server row accounts active _ jti listed
  rcases listed_by_revoke listed with rfl | before
  · exact .finished (find_revoked reason active) rfl rfl
  · exact (accounts jti before).ending row.sessionUuid (ended server.clock reason)
      (fun _ => rfl) (fun _ => rfl) fun _ => rfl

/-! ## Routes behind the access token -/

/-- The sessions that a request leaves: those that it has written, if it is answered. -/
def Server.sessionsAfter {α : Type} (server : Server T) (result : Except AppError α) :
    Table (Session.sessionUuid (T := T)) :=
  match result with
  | .ok _ => server.working.sessions
  | .error _ => server.committed.sessions

theorem Server.ListsNoMore.left {α : Type} (lists : start.ListsNoMore server)
    (result : Except AppError α) : start.Accounts request server (server.sessionsAfter result) :=
  lists.accounts _

theorem triple_revokeAll_accounts (user : User T) (reason : String) :
    Triple handle start.ListsNoMore (revokeAll env user reason)
      (fun _ server => start.Accounts request server server.working.sessions)
      fun _ => start.ListsNoMore := by
  unfold SessionService.revokeAll
  refine Triple.bind (Triple.read run_view) fun db => Triple.bind ?_ fun _ => Triple.pure fun _ => id
  have keeps : RevocationKeeps env reason (fun _ => True)
      fun server => start.Accounts request server server.working.sessions :=
    accounts_revocation reason
  constructor
  rintro server ⟨lists, rfl⟩
  exact (keeps.revokeEach _ fun _ _ => trivial).outcome server
    ⟨lists.accounts _, allActive_listActiveForUser user.id⟩

theorem triple_revokeByUuid_accounts (user : User T) (sessionUuid : Uuid) (reason : String) :
    Triple handle start.ListsNoMore (revokeByUuid env user sessionUuid reason)
      (fun _ server => start.Accounts request server server.working.sessions)
      fun _ => start.ListsNoMore := by
  simp only [SessionService.revokeByUuid]
  refine Triple.bind (keeps_getOwned user sessionUuid) fun record =>
    Triple.ite (fun active => ?_) fun _ => Triple.pure fun server holds => holds.1.accounts _
  have revoked : Triple handle
      (fun server => start.ListsNoMore server ∧
        server.working.sessions.find record.sessionUuid = some record ∧ record.userId = user.id)
      (SessionService.revoke env record reason)
      (fun _ server => start.Accounts request server server.working.sessions)
      fun _ => start.ListsNoMore := by
    constructor
    rintro server ⟨lists, found, -⟩
    exact ((accounts_revocation reason).revoke trivial).outcome server
      ⟨lists.accounts _, found, active⟩
  exact Triple.bind revoked fun _ => Triple.pure fun _ => id

/-- A route behind the access token puts nothing on the blacklist before it knows that it will be
answered. -/
theorem triple_serveWithContext_accounts (registry : String → Option Provider)
    (context : AuthContext T) (route : ProtectedRoute) :
    Triple handle (fun server => start.ListsNoMore server ∧ context.Live server)
      (serveWithContext env registry request context route)
      (fun _ server => start.Accounts request server server.working.sessions)
      fun _ => start.ListsNoMore := by
  -- the routes that end no session leave the blacklist as it is
  have quiet (current : route ≠ .logoutCurrent) (all : route ≠ .logoutAll)
      (single : ∀ sessionId, route ≠ .revokeSession sessionId) :
      Triple handle (fun server => start.ListsNoMore server ∧ context.Live server)
        (serveWithContext env registry request context route)
        (fun _ server => start.Accounts request server server.working.sessions)
        fun _ => start.ListsNoMore := by
    have within : Within .sessions (serveWithContext env registry request context route) :=
      within_quietRoute registry request context route current all single
    constructor
    rintro server ⟨lists, -⟩
    have after := lists.aside (Within.aside .sessions
      (serveWithContext env registry request context route) server)
    cases ran : (serveWithContext env registry request context route).run handle server with
    | mk result final =>
      rw [ran] at after
      cases result with
      | ok => exact after.accounts _
      | error => exact after
  cases route with
  | logoutCurrent =>
    simp only [serveWithContext]
    unfold logoutCurrent getCurrentSession
    cases current : context.session with
    | none => exact Triple.throw fun _ holds => holds.1
    | some session =>
      simp only [pure_bind]
      have revoked : Triple handle (fun server => start.ListsNoMore server ∧ context.Live server)
          (revoke env session "logout")
          (fun _ server => start.Accounts request server server.working.sessions)
          fun _ => start.ListsNoMore := by
        constructor
        rintro server ⟨lists, live⟩
        exact ((accounts_revocation _).revoke trivial).outcome server
          ⟨lists.accounts _, (live session current).1⟩
      exact Triple.bind revoked fun _ => Triple.pure fun _ => id
  | logoutAll =>
    simp only [serveWithContext]
    unfold logoutAll getCurrentSession
    cases context.session with
    | none => exact Triple.throw fun _ holds => holds.1
    | some session =>
      simp only [pure_bind]
      refine Triple.bind ?_ fun _ => Triple.pure fun _ => id
      exact (triple_revokeAll_accounts context.user _).weaken (fun _ holds => holds.1)
        (fun _ _ => id) fun _ _ => id
  | revokeSession sessionId =>
    simp only [serveWithContext]
    unfold revokeSession
    refine Triple.bind ?_ fun _ => Triple.pure fun _ => id
    exact (triple_revokeByUuid_accounts context.user sessionId _).weaken (fun _ holds => holds.1)
      (fun _ _ => id) fun _ _ => id
  | _ => exact quiet (by simp) (by simp) (by simp)

theorem ContextOutcome.listsNoMore {result : Except AppError (AuthContext T)} {final : Server T}
    (outcome : ContextOutcome env start request result final) :
    start.ListsNoMore final ∧ ∀ context, result = .ok context → context.Live final := by
  -- _expire writes the flag of the session and lists no identifier
  have expired (row : Session T) (reason : String) :
      start.ListsNoMore (start.expire env row reason) :=
    .of_entries rfl fun _ => rfl
  have touched (row : Session T) : start.ListsNoMore (start.touch env row) :=
    .of_entries rfl fun _ => rfl
  cases outcome with
  | refused => exact ⟨.refl start, fun _ same => by cases same⟩
  | sessionless =>
    refine ⟨.refl start, ?_⟩
    rintro context ⟨⟩ session current
    cases current
  | rejected _ _ _ _ _ outcome =>
    refine ⟨?_, fun _ same => by cases same⟩
    cases outcome with
    | refused => exact .refl start
    | expired => exact expired _ _
  | validated _ _ _ stored _ outcome =>
    have owned := Table.find_key stored
    cases outcome with
    | throttled found owner active =>
      cases Table.find_key found
      refine ⟨.refl start, ?_⟩
      rintro context ⟨⟩ session ⟨⟩
      exact ⟨⟨found, active⟩, owner.trans owned.symm⟩
    | touched found owner active =>
      cases Table.find_key found
      refine ⟨touched _, ?_⟩
      rintro context ⟨⟩ session ⟨⟩
      exact ⟨Server.Active.touch ⟨found, active⟩, owner.trans owned.symm⟩

theorem accounts_serveProtected (registry : String → Option Provider) {route : ProtectedRoute}
    {page : Except AppError (Page T)} {final : Server T}
    (ran : (serveProtected env registry request route).run handle start = (page, final)) :
    start.Accounts request final (final.sessionsAfter page) := by
  have withContext : ∀ {result final}, (getAuthContext env request >>= fun context =>
      serveWithContext env registry request context route).run handle start = (result, final) →
      start.Accounts request final (final.sessionsAfter result) := by
    intro result final ran
    have outcome := run_getAuthContext env start request
    rw [run_bind] at ran
    cases checked : (getAuthContext env request).run handle start with
    | mk first middle =>
      rw [checked] at ran outcome
      obtain ⟨lists, live⟩ := outcome.listsNoMore
      cases first with
      | error error =>
        obtain ⟨rfl, rfl⟩ := Prod.mk.inj ran
        exact lists.accounts _
      | ok context =>
        have triple := @triple_serveWithContext_accounts T env _ _ start request registry context route
        have holds := triple.outcome middle ⟨lists, live context rfl⟩
        simp only at ran
        rw [ran] at holds
        cases result with
        | ok => exact holds
        | error => exact Server.ListsNoMore.accounts holds _
  unfold serveProtected at ran
  split at ran
  · rw [run_bind] at ran
    rcases verifyCsrf_cases request start with passed | ⟨error, failed⟩
    · rw [passed] at ran
      exact withContext ran
    · rw [failed] at ran
      obtain ⟨rfl, rfl⟩ := Prod.mk.inj ran
      exact (Server.ListsNoMore.refl start).accounts _
  · exact withContext ran

/-! ## Refresh and logout -/

/-- The refresh token that the request presents was issued before, for the owner of its session. -/
structure Server.Knows (start : Server T) (request : HttpRequest) : Prop where
  drawn : ∀ claims, request.refreshToken = some (.signed claims) → claims.type = .refresh →
    claims.jti < start.draws
  owner : ∀ claims, request.refreshToken = some (.signed claims) → claims.type = .refresh →
    ∀ sid row, claims.sid = some sid → start.working.sessions.find sid = some row →
      row.userId = claims.sub

variable [FloorRing T] {claims : Claims}

theorem listed_by_revokeToken (listed : (server.revokeToken claims).Blacklisted jti) :
    jti = claims.jti ∨ server.Blacklisted jti := by
  simp only [Server.revokeToken] at listed
  split at listed
  · exact listed_by_blacklist listed
  · exact .inr listed

/-- A presented token goes on the blacklist once no active session points at it any more. -/
theorem accounts_revokeToken (shown : request.refreshToken = some (.signed claims))
    (live : claims.LiveRefresh start.clock) (lists : (start.revokeToken claims).ListsNoMore server)
    (left : ∀ sid, claims.sid = some sid → ∀ row, table.find sid = some row →
      row.refreshTokenId = claims.jti → row.isActive = false) :
    start.Accounts request server table := by
  intro jti listed
  rcases listed_by_revokeToken (lists jti listed) with rfl | before
  · exact .presented shown live rfl left
  · exact .before before

theorem RefreshOutcome.accounts {result : Except AppError (Reply T)} {final : Server T}
    (outcome : RefreshOutcome env start request result final)
    (settled : start.committed = start.working) (knows : start.Knows request) :
    start.Accounts request final (final.sessionsAfter result) := by
  cases outcome with
  | refused => exact (Server.ListsNoMore.refl start).accounts _
  | @replayed claims =>
    obtain same | ⟨row, -, held, same⟩ := afterReplay_cases env start claims
    · rw [same]
      exact (Server.ListsNoMore.refl start).accounts _
    · rw [same]
      exact accounts_revocation "refresh_replay" start row
        ((Server.ListsNoMore.refl start).accounts _) held trivial
  | @unbound claims sid shown live _ session invalid =>
    refine accounts_revokeToken shown live (fun _ => id) fun other named row found _ => ?_
    rw [Server.sessionsAfter, rotated_committed, settled] at found
    obtain rfl : sid = other := Option.some.inj (session.symm.trans named)
    -- the session has the owner that the token names, so it must be over
    have owner := knows.owner claims shown live.isRefresh sid row session found
    have inactive := invalid row found
    simpa [owner] using inactive
  | @rebound claims sid row shown live _ session found =>
    have lists : (start.revokeToken claims).ListsNoMore (start.followed env claims sid) :=
      fun jti listed => ((aside_setActive env _ .reads sid).blacklisted jti).mp listed
    refine accounts_revokeToken shown live lists fun other named later stored points => ?_
    obtain rfl : sid = other := Option.some.inj (session.symm.trans named)
    have moved := (find_followed env start claims sid sid).symm.trans stored
    rw [if_pos rfl, found, Option.map_some] at moved
    obtain rfl := Option.some.inj moved
    -- the session points at the next token, which has been drawn since
    have drawn := knows.drawn claims shown live.isRefresh
    have next : start.draws + 1 = claims.jti := points
    exact absurd (next.trans_lt drawn) (Nat.not_succ_lt_self)
  | @sessionless claims shown live _ session =>
    refine accounts_revokeToken shown live (fun _ => id) fun sid named => ?_
    rw [session] at named
    cases named

theorem accounts_logoutToken (token : Token) (shown : request.refreshToken = some token) :
    start.Accounts request ((logoutToken env token).run handle start).2
        ((logoutToken env token).run handle start).2.working.sessions ∧
      ∀ error, ((logoutToken env token).run handle start).1 = .error error →
        ((logoutToken env token).run handle start).2 = start := by
  obtain ⟨result, verified, check⟩ := run_verifyRefresh start token
  simp only [logoutToken, run_bind, verified]
  cases check with
  | rejected | replayed => exact ⟨(Server.ListsNoMore.refl start).accounts _, fun _ _ => rfl⟩
  | @accepted claims live =>
    have revoked : ∀ {table : Table (Session.sessionUuid (T := T))},
        (∀ sid, claims.sid = some sid → ∀ row, table.find sid = some row → row.isActive = false) →
        start.Accounts request (start.revokeToken claims) table := fun left =>
      accounts_revokeToken shown live (.refl _) fun sid named row found _ => left sid named row found
    simp only [run_revokeToken]
    cases session : claims.sid with
    | none => exact ⟨revoked (by simp [session]), by simp⟩
    | some sid =>
      simp only [run_bind, run_view]
      cases found : (start.revokeToken claims).working.sessions.find sid with
      | none => exact ⟨revoked (by simp [session, found]), by simp⟩
      | some row =>
        cases Table.find_key found
        simp only [run_ite, run_revoke env _ _ found, run_pure]
        by_cases active : row.isActive = true
        · rw [if_pos active]
          refine ⟨fun jti listed => ?_, by simp⟩
          -- the session of the token ends, and with it every token of the session
          have stored : ((start.revokeToken claims).revoke env row "logout").working.sessions.find
              row.sessionUuid = some _ := find_revoked "logout" ⟨found, active⟩
          rcases listed_by_revoke listed with rfl | before
          · exact .finished stored rfl rfl
          · refine revoked (fun other named later foundLater => ?_) jti before
            obtain rfl : row.sessionUuid = other := Option.some.inj (session.symm.trans named)
            obtain rfl := Option.some.inj (stored.symm.trans foundLater)
            rfl
        · rw [if_neg active]
          refine ⟨revoked fun other named later foundLater => ?_, by simp⟩
          obtain rfl : row.sessionUuid = other := Option.some.inj (session.symm.trans named)
          obtain rfl := Option.some.inj (found.symm.trans foundLater)
          simpa using active

theorem accounts_logout {result : Except AppError (Page T)} {final : Server T}
    (ran : (logout env request).run handle start = (result, final)) :
    start.Accounts request final (final.sessionsAfter result) := by
  unfold logout at ran
  rw [run_bind] at ran
  rcases verifyCsrf_cases request start with passed | ⟨error, failed⟩
  · rw [passed] at ran
    cases shown : request.refreshToken with
    | none =>
      rw [shown] at ran
      obtain ⟨rfl, rfl⟩ := Prod.mk.inj ran
      exact (Server.ListsNoMore.refl start).accounts _
    | some token =>
      obtain ⟨accounts, failing⟩ :=
        @accounts_logoutToken T env _ _ start request _ token shown
      rw [shown] at ran
      simp only [run_bind, run_tryCatch] at ran
      cases inner : (logoutToken env token).run handle start with
      | mk first middle =>
        rw [inner] at accounts failing ran
        cases first with
        | ok =>
          obtain ⟨rfl, rfl⟩ := Prod.mk.inj ran
          exact accounts
        | error error =>
          obtain rfl := failing error rfl
          -- whether the error is swallowed or passed on, nothing has been written
          cases caught : error.kind.isAuthError with
          | true =>
            simp only [caught, if_true, run_pure] at ran
            obtain ⟨-, rfl⟩ := Prod.mk.inj ran
            exact (Server.ListsNoMore.refl _).accounts _
          | false =>
            simp only [caught, Bool.false_eq_true, if_false, run_throw] at ran
            obtain ⟨-, rfl⟩ := Prod.mk.inj ran
            exact (Server.ListsNoMore.refl _).accounts _
  · rw [failed] at ran
    obtain ⟨rfl, rfl⟩ := Prod.mk.inj ran
    exact (Server.ListsNoMore.refl start).accounts _

theorem accounts_dispatch {arrival : Arrival} {reply : Except AppError (Reply T)} {final : Server T}
    (settled : start.committed = start.working) (knows : start.Knows arrival.http)
    (ran : (dispatch env arrival).run handle start = (reply, final)) :
    start.Accounts arrival.http final (final.sessionsAfter reply) := by
  obtain ⟨http, route, registry⟩ := arrival
  -- logins and open routes list no token
  have quiet [Calls (Command.Spares Key.IsListing) (dispatch env ⟨http, route, registry⟩)] :
      start.Accounts http final (final.sessionsAfter reply) :=
    (listsNoMore_of_calls ran).accounts _
  cases route with
  | login route =>
    have : Calls (Command.Spares Key.IsListing) (dispatch env ⟨http, .login route, registry⟩) := by
      unfold dispatch; infer_instance
    exact quiet
  | openTo route =>
    have : Calls (Command.Spares Key.IsListing) (dispatch env ⟨http, .openTo route, registry⟩) := by
      unfold dispatch; infer_instance
    exact quiet
  | refresh =>
    have outcome := run_refresh env start http
    rw [show (refresh env http).run handle start = (reply, final) from ran] at outcome
    exact outcome.accounts settled knows
  | logout =>
    simp only [dispatch, run_map] at ran
    cases inner : (logout env http).run handle start with
    | mk result last =>
      rw [inner] at ran
      have accounts := accounts_logout inner
      cases result with
      | ok => obtain ⟨rfl, rfl⟩ := Prod.mk.inj ran; exact accounts
      | error => obtain ⟨rfl, rfl⟩ := Prod.mk.inj ran; exact accounts
  | withAccess route =>
    simp only [dispatch, run_map] at ran
    cases inner : (serveProtected env registry http route).run handle start with
    | mk result last =>
      rw [inner] at ran
      have accounts := accounts_serveProtected registry inner
      cases result with
      | ok => obtain ⟨rfl, rfl⟩ := Prod.mk.inj ran; exact accounts
      | error => obtain ⟨rfl, rfl⟩ := Prod.mk.inj ran; exact accounts

variable {world : World T} {arrival : Arrival}

/-- After a request, every token of the blacklist is spent. -/
theorem exchange_accounts (knows : ∀ limited, world.Passes env arrival limited →
      limited.Knows arrival.http) :
    world.server.Accounts arrival.http (world.exchange env arrival).after
      (world.exchange env arrival).after.committed.sessions := by
  have known {limited final : Server T} {table : Table (Session.sessionUuid (T := T))}
      (passes : world.Passes env arrival limited)
      (accounts : limited.Accounts arrival.http final table) :
      world.server.Accounts arrival.http final table := by
    -- the rate limiter has listed nothing before the route started
    have counted : world.server.ListsNoMore limited :=
      (Server.ListsNoMore.refl world.server).aside passes.aside
    intro jti listed
    cases accounts jti listed with
    | before listed => exact .before (counted jti listed)
    | finished found points inactive => exact .finished found points inactive
    | presented shown live named left =>
      exact .presented shown (passes.aside.clock ▸ live) named left
  have exchanged := exchanged env world arrival
  generalize (world.exchange env arrival).reply = result at exchanged
  generalize (world.exchange env arrival).after = after at exchanged ⊢
  cases exchanged with
  | refused ran =>
    have aside : Aside .reads world.server _ := Within.of_exact .reads ran
    exact ((Server.ListsNoMore.refl world.server).aside aside).accounts _
  | @failed limited final error passes ran =>
    exact known passes (accounts_dispatch passes.start.1 (knows limited passes) ran)
  | @answered limited final reply passes ran =>
    exact known passes (accounts_dispatch passes.start.1 (knows limited passes) ran)

/-! ## Runs -/

/-- The blacklist and the sessions agree on which refresh tokens are current. -/
structure World.TokensCurrent (world : World T) : Prop where
  drawn : ∀ jti, world.server.Blacklisted jti → jti < world.draws
  /-- a token that a session points at has been issued for this session -/
  named : ∀ sid row, world.db.sessions.find sid = some row → ∀ claims ∈ world.issued,
    claims.type = .refresh → claims.jti = row.refreshTokenId → claims.sid = some sid
  finished : ∀ sid row, world.db.sessions.find sid = some row →
    world.server.Blacklisted row.refreshTokenId → row.isActive = false

omit [FloorRing T] in
theorem World.WellIssued.knows {limited : Server T} (wellIssued : world.WellIssued)
    (owned : ∀ token ∈ arrival.presented, world.holds token)
    (passes : world.Passes env arrival limited) : limited.Knows arrival.http := by
  obtain ⟨-, working, -, draws⟩ := passes.start
  have issued {claims : Claims} (shown : arrival.http.refreshToken = some (.signed claims)) :
      claims ∈ world.issued := owned _ (Arrival.mem_presented_refresh shown)
  constructor
  · intro claims shown isRefresh
    exact (wellIssued.numbered claims (issued shown)).trans_le draws
  · intro claims shown isRefresh sid row named found
    obtain ⟨other, session, stored, owner⟩ :=
      wellIssued.bound claims (issued shown) (by simp [isRefresh])
    obtain rfl : sid = other.sessionUuid := Option.some.inj (named.symm.trans session)
    rw [working] at found
    obtain rfl := Option.some.inj (found.symm.trans stored)
    exact owner

section
variable (current : world.TokensCurrent) (reachable : (service env).Reachable world)
  (owned : ∀ token ∈ arrival.presented, world.holds token)

include current reachable owned

theorem named_afterRequest {sid : Uuid} {later : Session T}
    (found : (world.afterRequest env arrival).db.sessions.find sid = some later)
    {claims : Claims} (issued : claims ∈ (world.afterRequest env arrival).issued)
    (isRefresh : claims.type = .refresh) (points : claims.jti = later.refreshTokenId) :
    claims.sid = some sid := by
  have wellIssued := wellIssued_of_reachable reachable
  have numbered := numbered_of_reachable reachable
  rcases (World.mem_issued_afterRequest claims).mp issued with new | before
  · -- the session for which a token is minted points at it, and no other session does
    have distinct := distinctTokens_of_reachable (reachable.step (.request owned))
    have mints := exchange_mints env wellIssued owned
    generalize (world.exchange env arrival).issued = tokens at mints new
    cases mints with
    | nothing => cases new
    | challenge preAuth =>
      rw [List.mem_singleton.mp new, preAuth] at isRefresh
      cases isRefresh
    | @pair pair other row foundRow active pointsRow minted =>
      have named : claims.sid = some other := (minted.subject claims new).2
      have isPair : claims = pair.refresh := by
        simp only [TokenPair.tokens, List.mem_cons, List.not_mem_nil, or_false] at new
        rcases new with rfl | rfl
        · rw [minted.access] at isRefresh
          cases isRefresh
        · rfl
      have same : row.refreshTokenId = later.refreshTokenId :=
        pointsRow.trans ((congrArg Claims.jti isPair).symm.trans points)
      rw [named, distinct other row sid later foundRow found same]
  · -- an old token is not the one that a session has been moved on to
    have old := wellIssued.numbered claims before
    rcases token_source numbered wellIssued owned found with
      ⟨row, foundRow, same, -⟩ | ⟨-, fresh, -⟩ | ⟨-, fresh, -⟩
    · exact current.named sid row foundRow claims before isRefresh (points.trans same.symm)
    · exact absurd (points ▸ old) (not_lt.mpr fresh)
    · exact absurd (points ▸ old) (not_lt.mpr fresh)

theorem tokensCurrent_afterRequest : (world.afterRequest env arrival).TokensCurrent := by
  have wellIssued := wellIssued_of_reachable reachable
  have after : (service env).Reachable (world.afterRequest env arrival) :=
    reachable.step (.request owned)
  have accounts : world.server.Accounts arrival.http (world.exchange env arrival).after
      (world.afterRequest env arrival).db.sessions :=
    exchange_accounts fun limited passes => wellIssued.knows owned passes
  have draws : world.draws ≤ (world.afterRequest env arrival).draws :=
    ((served env world arrival).tables wellIssued.tables).1
  have presentedIssued {claims : Claims}
      (shown : arrival.http.refreshToken = some (.signed claims)) : claims ∈ world.issued :=
    owned _ (Arrival.mem_presented_refresh shown)
  constructor
  · intro jti listed
    cases accounts jti listed with
    | before listed => exact (current.drawn jti listed).trans_le draws
    | finished found points => exact points ▸ (numbered_of_reachable after _ _ found).2
    | presented shown live named =>
      exact named ▸ (wellIssued.numbered _ (presentedIssued shown)).trans_le draws
  · intro sid later found claims issued isRefresh points
    exact named_afterRequest current reachable owned found issued isRefresh points
  · intro sid later found listed
    cases accounts _ listed with
    | before listed =>
      -- a row that kept its token was over before, and a new token is not listed yet
      rcases token_source (numbered_of_reachable reachable) wellIssued owned found with
        ⟨row, foundRow, same, -⟩ | ⟨-, fresh, -⟩ | ⟨-, fresh, -⟩
      · obtain ⟨last, foundLast, continues⟩ := (served env world arrival).continues sid row foundRow
        obtain rfl : later = last := Option.some.inj (found.symm.trans foundLast)
        exact continues.staysInactive (current.finished sid row foundRow (same ▸ listed))
      · exact absurd (current.drawn _ listed) (not_lt.mpr fresh)
      · exact absurd (current.drawn _ listed) (not_lt.mpr fresh)
    | @finished other row foundRow points inactive =>
      obtain rfl : other = sid :=
        distinctTokens_of_reachable after other row sid later foundRow found points
      obtain rfl := Option.some.inj (foundRow.symm.trans found)
      exact inactive
    | @presented claims shown live points left =>
      have session := named_afterRequest current reachable owned found
        ((World.mem_issued_afterRequest claims).mpr (.inr (presentedIssued shown))) live.isRefresh points
      exact left sid session later found rfl

end

theorem tokensCurrent_of_reachable (reachable : (service env).Reachable world) :
    world.TokensCurrent := by
  refine System.Reachable.invariant World.TokensCurrent reachable ?_ ?_
  · intro first starts
    constructor
    · intro jti listed
      simp [Server.Blacklisted, World.server, starts.noRedis, ExpiringStore.lookup_empty] at listed
    · intro sid row found
      rw [starts.noSessions] at found
      cases found
    · intro sid row found
      rw [starts.noSessions] at found
      cases found
  · intro before event after earlier current step
    cases step with
    | @tick instant later =>
      -- what is listed now was listed before
      have lists (jti : Uuid)
          (listed : (World.server { before with clock := instant }).Blacklisted jti) :
          before.server.Blacklisted jti := by
        obtain ⟨value, found⟩ := Option.isSome_iff_exists.mp listed
        exact Option.isSome_iff_exists.mpr ⟨value, ExpiringStore.lookup_earlier later found⟩
      exact ⟨fun jti listed => current.drawn jti (lists jti listed), current.named,
        fun sid row found listed => current.finished sid row found (lists _ listed)⟩
    | request owned => exact tokensCurrent_afterRequest current earlier owned
    | setUserActive => exact ⟨current.drawn, current.named, current.finished⟩

omit [CommRing T] [FloorRing T] in
theorem current_unlisted (current : world.TokensCurrent) {sid : Uuid} {row : Session T}
    (found : world.db.sessions.find sid = some row) (active : row.isActive = true) :
    ¬ world.server.Blacklisted row.refreshTokenId := by
  intro listed
  have inactive := current.finished sid row found listed
  rw [active] at inactive
  cases inactive

/-- A live token that an active session points at is answered with the next pair, unless the rate
limit turns the request away. -/
theorem exchange_of_current (reachable : (service env).Reachable world) {claims : Claims}
    {sid : Uuid} {row : Session T} (routed : arrival.route = .refresh)
    (shown : arrival.http.refreshToken = some (.signed claims)) (issued : claims ∈ world.issued)
    (live : claims.LiveRefresh world.clock) (session : claims.sid = some sid)
    (found : world.db.sessions.find sid = some row) (active : row.isActive = true)
    (points : row.refreshTokenId = claims.jti) (passes : world.LetsPass env arrival) :
    ∃ csrf, (world.exchange env arrival).reply =
        .ok (.refreshed csrf ((world.limited env arrival).nextPair env claims)) ∧
      (world.exchange env arrival).after =
        ((world.limited env arrival).followed env claims sid).commit := by
  have passed := World.passes_iff.mpr ⟨passes, rfl⟩
  obtain ⟨-, working, clock, -⟩ := passed.start
  have owner : row.userId = claims.sub := by
    obtain ⟨other, named, stored, owner⟩ :=
      (wellIssued_of_reachable reachable).bound claims issued (by simp [live.isRefresh])
    obtain rfl : sid = other.sessionUuid := Option.some.inj (session.symm.trans named)
    obtain rfl := Option.some.inj (found.symm.trans stored)
    exact owner
  have unlisted : ¬ (world.limited env arrival).Blacklisted claims.jti := by
    rw [passed.aside.blacklisted, ← points]
    exact current_unlisted (tokensCurrent_of_reachable reachable) found active
  have exchanged := exchange_passes passed
  rw [run_getDb] at exchanged
  rw [← working] at found
  cases ran : (dispatch env arrival).run handle (world.limited env arrival) with
  | mk result final =>
    rw [ran] at exchanged
    have outcome := refreshOutcome_of_dispatch env routed ran
    -- every refusal of the refresh contradicts one of the assumptions
    cases outcome with
    | refused _ invalid => exact absurd (clock ▸ live) (invalid claims shown)
    | replayed shown' _ listed =>
      obtain rfl := Token.signed.inj (Option.some.inj (shown.symm.trans shown'))
      exact absurd listed unlisted
    | unbound shown' _ _ session' invalid =>
      obtain rfl := Token.signed.inj (Option.some.inj (shown.symm.trans shown'))
      obtain rfl := Option.some.inj (session.symm.trans session')
      exact absurd ⟨active, owner⟩ (invalid row found)
    | sessionless shown' _ _ session' =>
      obtain rfl := Token.signed.inj (Option.some.inj (shown.symm.trans shown'))
      rw [session] at session'
      cases session'
    | rebound shown' _ _ session' _ _ _ csrf =>
      obtain rfl := Token.signed.inj (Option.some.inj (shown.symm.trans shown'))
      obtain rfl := Option.some.inj (session.symm.trans session')
      exact ⟨csrf, (Prod.mk.inj exchanged).1, (Prod.mk.inj exchanged).2⟩

/-- What the session of a token is after its exchange. -/
theorem find_commit_followed {limited : Server T} {claims : Claims} {sid : Uuid} {row : Session T}
    (found : limited.working.sessions.find sid = some row) :
    (limited.followed env claims sid).commit.committed.sessions.find sid =
      some (SessionService.rebound limited.clock (limited.draws + 1) row) := by
  have stored := find_followed env limited claims sid sid
  rwa [if_pos rfl, found, Option.map_some] at stored

/-- A client that presents the newest refresh token of its session in time gets the next one, unless
the rate limit turns it away. -/
theorem current_token_exchanged (reachable : (service env).Reachable world) {claims : Claims}
    {sid : Uuid} {row : Session T} (routed : arrival.route = .refresh)
    (shown : arrival.http.refreshToken = some (.signed claims)) (issued : claims ∈ world.issued)
    (live : claims.LiveRefresh world.clock) (session : claims.sid = some sid)
    (found : world.db.sessions.find sid = some row) (active : row.isActive = true)
    (points : row.refreshTokenId = claims.jti) (passes : world.LetsPass env arrival) :
    ∃ csrf pair later, (world.exchange env arrival).reply = .ok (.refreshed csrf pair) ∧
      (world.afterRequest env arrival).db.sessions.find sid = some later ∧
      later.isActive = true ∧ later.refreshTokenId = pair.refresh.jti := by
  obtain ⟨csrf, answered, left⟩ :=
    exchange_of_current reachable routed shown issued live session found active points passes
  let limited := world.limited env arrival
  have working : limited.working = world.db := (World.passes_iff.mpr ⟨passes, rfl⟩).start.2.1
  refine ⟨csrf, limited.nextPair env claims, SessionService.rebound limited.clock
    (limited.draws + 1) row, answered, ?_, active, rfl⟩
  have stored : (world.exchange env arrival).after.committed.sessions.find sid = _ :=
    (congrArg (fun server => server.committed.sessions.find sid) left).trans
      (find_commit_followed (working ▸ found))
  exact stored

/-- Alice's first refresh token is exchanged. -/
theorem alice_refreshes :
    ∃ csrf pair later,
      (aliceRegistered.exchange demo (refreshWith aliceRefresh)).reply = .ok (.refreshed csrf pair) ∧
      (aliceRegistered.afterRequest demo (refreshWith aliceRefresh)).db.sessions.find 2 = some later ∧
      later.isActive = true ∧ later.refreshTokenId = pair.refresh.jti := by
  have current : (aliceRegistered.db.sessions.find 2).any
      fun row => row.isActive && row.refreshTokenId = 4 := by decide +kernel
  obtain ⟨row, found, facts⟩ := (Option.any_eq_true _ _).mp current
  simp only [Bool.and_eq_true, decide_eq_true_eq] at facts
  have live : aliceRefresh.LiveRefresh aliceRegistered.clock := ⟨rfl, by decide +kernel⟩
  exact current_token_exchanged reachable_aliceRegistered rfl rfl (by decide +kernel) live rfl found
    facts.1 facts.2 (by unfold World.LetsPass; decide +kernel)

end

end EnterpriseAuth
